import MessageRelay.Dispatch.Dispatcher

/-!
Code that runs around a dispatcher: the handlers it has started, those who call through it, and what
its timers carry. Each move is chosen from outside, so the runs of the machine are those of all
handlers and callers there can be, in every order of their steps. Other peers share the network, and
may change it between any two moves.
-/
namespace MessageRelay

inductive DispatchFrame (β : Type) where
  | pass (now : Nanos) (count : Nat)
  | callback (payload : β)

structure DispatchMachine (η β : Type) where
  now : Nanos := 0
  site : Site η β
  started : Array Invocation := #[]
  running : List Nat := []
  replies : List PendingReply := []
  stack : List (DispatchFrame β) := []

inductive DispatchMove (β : Type) where
  | elapse (duration : Nanos)
  | network (network : Network)
  | inbound (sender : PeerName) (message : Message)
  | reply (number : Nat) (r : Reply)
  | conclude (number : Nat) (o : Outcome)
  | sendReply (recipient : PeerName) (id : CorrelationId) (r : Reply)
  | request (id : CorrelationId) (target : PeerName) (typeName : String) (payload : Json)
    (timeout : Nanos)
  | notify (target : PeerName) (typeName : String) (payload : Json)
  | poll (ticket : Ticket)
  | drop (ticket : Ticket)
  | after (delay : Nanos) (payload : β)
  | cancelTimer (id : TimerId)
  | shutdown
  | enter (now : Nanos)
  | advance
  | leave

inductive DispatchAnswer (η : Type) where
  | done
  | routed (outcome : InboundOutcome η)
  | replied (sent : Except CallError Bool)
  | requested (reply : Except CallError PendingReply)
  | notified (sent : Except CallError Unit)
  | polled (result : Option CallResult) (reply : PendingReply)
  | handle (handle : TimerHandle)
  | flag (value : Bool)
  | count (n : Nat)
  | fired
  | finished (count : Nat)
  | refused

namespace DispatchMachine

variable {η β : Type}

def fresh (name : PeerName) (registry : Registry η) (defaultTimeout : Nanos) (network : Network) :
    DispatchMachine η β :=
  { site := ⟨{ name, registry, defaultTimeout }, network⟩ }

def withSite {α : Type} (f : Site η β → α × Site η β) (answer : α → DispatchAnswer η)
    (m : DispatchMachine η β) : DispatchAnswer η × DispatchMachine η β :=
  let (a, site) := f m.site
  (answer a, { m with site := site })

def passing (m : DispatchMachine η β) : Bool :=
  match m.stack with
  | .pass _ _ :: _ => true
  | _ => false

def running? (m : DispatchMachine η β) (number : Nat) : Option Invocation :=
  if number ∈ m.running then m.started[number]? else none

def start (m : DispatchMachine η β) : InboundOutcome η → DispatchMachine η β
  | .dispatched invocation _ =>
    { m with
      started := m.started.push invocation
      running := m.started.size :: m.running }
  | _ => m

def countFired : List (DispatchFrame β) → List (DispatchFrame β)
  | .pass now count :: below => .pass now (count + 1) :: below
  | stack => stack

def advance (now : Nanos) (count : Nat) (below : List (DispatchFrame β))
    (m : DispatchMachine η β) : DispatchAnswer η × DispatchMachine η β :=
  match m.site.lift (Dispatcher.fireNext now) with
  | (.nothing, site) =>
    (.finished count, { m with site := site.modify (·.endPass count), stack := below })
  | (.expiry, site) => (.fired, { m with site := site, stack := countFired m.stack })
  | (.payload b, site) => (.fired, { m with site := site, stack := .callback b :: m.stack })

def operate (m : DispatchMachine η β) :
    DispatchMove β → DispatchAnswer η × DispatchMachine η β
  | .elapse duration => (.done, { m with now := m.now + duration })
  | .network network => (.done, { m with site.network := network })
  | .inbound sender message =>
    let (outcome, site) := m.site.onInbound m.now sender message
    (.routed outcome, { m with site := site }.start outcome)
  | .reply number r =>
    match m.running? number with
    | none => (.refused, m)
    | some invocation => m.withSite (·.replyEarly invocation r) .replied
  | .conclude number o =>
    match m.running? number with
    | none => (.refused, m)
    | some invocation =>
      (.done,
        { m with
          site := m.site.conclude m.now invocation o
          running := m.running.erase number })
  | .sendReply recipient id r => m.withSite (·.sendReply recipient id r) .replied
  | .request id target typeName payload timeout =>
    match m.site.sendRequest m.now id target typeName payload timeout with
    | (.error e, site) => (.requested (.error e), { m with site := site })
    | (.ok reply, site) =>
      (.requested (.ok reply), { m with site := site, replies := m.replies ++ [reply] })
  | .notify target typeName payload => m.withSite (·.notify target typeName payload) .notified
  | .poll ticket =>
    match m.replies.find? (·.ticket = ticket) with
    | none => (.refused, m)
    | some r =>
      if r.settled then (.refused, m)
      else
        let (result, r) := m.site.dispatcher.table.poll r
        (.polled result r,
          { m with replies := m.replies.map fun q => if q.ticket = ticket then r else q })
  | .drop ticket =>
    match m.replies.find? (·.ticket = ticket) with
    | none => (.refused, m)
    | some r =>
      (.done,
        { m with
          site := m.site.modify (·.dropReply r)
          replies := m.replies.filter (·.ticket ≠ ticket) })
  | .after delay payload => m.withSite (·.lift (·.after m.now delay payload)) .handle
  | .cancelTimer id => m.withSite (·.lift (·.cancelTimer id)) .flag
  | .shutdown => m.withSite (·.lift (·.shutdown)) .count
  | .enter now => (.done, { m with stack := .pass now 0 :: m.stack })
  | .advance => (.refused, m)
  | .leave => (.refused, m)

def step (m : DispatchMachine η β) (move : DispatchMove β) :
    DispatchAnswer η × DispatchMachine η β :=
  match m.stack, move with
  | .pass now count :: below, .advance => m.advance now count below
  | .pass _ _ :: _, _ => (.refused, m)
  | .callback _ :: below, .leave => (.done, { m with stack := countFired below })
  | _, move => m.operate move

end DispatchMachine

end MessageRelay
