import MessageRelay.Call.Table
import MessageRelay.Dispatch.Outcome
import MessageRelay.Network
import MessageRelay.Registry
import MessageRelay.Wire

/-!
A dispatcher is one peer's side of the relay. It sends requests and keeps the calls that wait for a
reply; it takes what arrives, settles calls with replies and starts handlers for requests; and it
answers each request once at most, for which it remembers those in flight. Whatever it does that
others can see goes into its journal.
-/
namespace MessageRelay

structure Invocation where
  sender : PeerName
  recipient : PeerName
  typeName : String
  payload : Json
  id? : Option CorrelationId
  started : Nanos

/-- What tells a request from others: its id, and who sent it. -/
structure RequestKey where
  id : CorrelationId
  sender : PeerName
  deriving DecidableEq

structure DispatchCounters where
  requestsSent : Nat := 0
  notificationsSent : Nat := 0
  repliesSent : Nat := 0
  requestsReceived : Nat := 0
  responsesMatched : Nat := 0
  staleResponses : Nat := 0
  unhandled : Nat := 0
  handlerFailures : Nat := 0
  deriving DecidableEq, Repr

structure DispatchStats where
  counters : DispatchCounters
  inFlight : Nat
  pending : CallStats
  timers : TimerStats
  deriving DecidableEq, Repr

inductive Deed where
  | reported (event : MetricEvent)
  | sent (e : Envelope) (refused? : Option TransportError)

/-- Handlers are of type `η`; `β` is what timers carry that are not deadlines of calls. Timers that are
foreign were put into the queue by others. -/
structure Dispatcher (η β : Type) where
  name : PeerName
  registry : Registry η := {}
  defaultTimeout : Nanos
  table : CallTable β := {}
  inFlight : List RequestKey := []
  counters : DispatchCounters := {}
  journal : Array Deed := #[]
  foreign : List TimerId := []

inductive InboundOutcome (η : Type) where
  | resolved (id : CorrelationId)
  | stale (id : CorrelationId)
  | dispatched (invocation : Invocation) (handler : η)
  | unhandled
  | discarded

namespace InboundOutcome

variable {η : Type}

def name : InboundOutcome η → String
  | .resolved _ => "Resolved"
  | .stale _ => "Stale"
  | .dispatched .. => "Dispatched"
  | .unhandled => "Unhandled"
  | .discarded => "Discarded"

def id? : InboundOutcome η → Option CorrelationId
  | .resolved id => some id
  | .stale id => some id
  | _ => none

def error? : InboundOutcome η → Option CallError
  | .stale id => some (.staleReply id)
  | _ => none

end InboundOutcome

namespace Dispatcher

variable {η β : Type}

def stats (d : Dispatcher η β) : DispatchStats :=
  ⟨d.counters, d.inFlight.length, d.table.currentStats, d.table.timers.stats⟩

def record (deed : Deed) (d : Dispatcher η β) : Dispatcher η β :=
  { d with journal := d.journal.push deed }

def report (event : MetricEvent) (d : Dispatcher η β) : Dispatcher η β := d.record (.reported event)

def reportPending (d : Dispatcher η β) : Dispatcher η β :=
  d.report (.pendingCalls d.table.pendingCount)

def count (f : DispatchCounters → DispatchCounters) (d : Dispatcher η β) : Dispatcher η β :=
  { d with counters := f d.counters }

def isInFlight (sender : PeerName) (id : CorrelationId) (d : Dispatcher η β) : Bool :=
  d.inFlight.contains ⟨id, sender⟩

/-- Forgets a request; false if it was not in flight. -/
def release (sender : PeerName) (id : CorrelationId) (d : Dispatcher η β) :
    Bool × Dispatcher η β :=
  (d.isInFlight sender id, { d with inFlight := d.inFlight.erase ⟨id, sender⟩ })

def onReply (m : Message) (d : Dispatcher η β) : InboundOutcome η × Dispatcher η β :=
  match m.id? with
  | none => (.discarded, d)
  | some id =>
    let (matched, table) := match m.remoteError? with
      | some (.ok e) => d.table.fail id (.ofRemote id e)
      | some (.error e) => d.table.fail id (.malformedReply e.message)
      | none => d.table.resolve id ⟨m.typeName, m.payload⟩
    let d := { d with table := table }
    if matched then
      (.resolved id,
        ((d.count fun c => { c with responsesMatched := c.responsesMatched + 1 }).report
          .responseMatched).reportPending)
    else
      (.stale id,
        (d.count fun c => { c with staleResponses := c.staleResponses + 1 }).report .staleResponse)

/-- Ends every call as cancelled and drops every timer. No call is registered any more. -/
def shutdown (d : Dispatcher η β) : Nat × Dispatcher η β :=
  let (ended, table) := d.table.close
  let table := { table with timers := table.timers.clear.2 }
  (ended, { d with table := table }.report (.pendingCalls 0))

def after (now delay : Nanos) (payload : β) (d : Dispatcher η β) : TimerHandle × Dispatcher η β :=
  let (handle, timers) := d.table.timers.scheduleAfter now delay (.other payload)
  (handle, { d with table.timers := timers })

def cancelTimer (id : TimerId) (d : Dispatcher η β) : Bool × Dispatcher η β :=
  let (payload, timers) := d.table.timers.cancel id
  (payload.isSome, { d with table.timers := timers })

inductive Fired (β : Type) where
  | nothing
  | expiry
  | payload (b : β)

/-- Takes the next timer that is due. A call that times out thereby is reported, and so is a timer,
unless it was put there by others. -/
def fireNext (now : Nanos) (d : Dispatcher η β) : Fired β × Dispatcher η β :=
  match d.table.timers.popDue now with
  | (none, timers) => (.nothing, { d with table.timers := timers })
  | (some (id, .other b), timers) =>
    let d := { d with table.timers := timers }
    (.payload b, if d.foreign.contains id then d else d.report .timerFired)
  | (some (_, .expiry id), timers) =>
    let (expired, table) := { d.table with timers := timers }.expire id
    let d := { d with table := table }
    (.expiry, if expired then d.report .callTimedOut else d)

def endPass (count : Nat) (d : Dispatcher η β) : Dispatcher η β :=
  { d with table.timers := d.table.timers.endPass count }

def dropReply (r : PendingReply) (d : Dispatcher η β) : Dispatcher η β :=
  { d with table := d.table.drop r }

end Dispatcher

/-- A dispatcher with the network that it sends over. -/
structure Site (η β : Type) where
  dispatcher : Dispatcher η β
  network : Network

namespace Site

variable {η β : Type}

def modify (f : Dispatcher η β → Dispatcher η β) (s : Site η β) : Site η β :=
  { s with dispatcher := f s.dispatcher }

def lift {α : Type} (f : Dispatcher η β → α × Dispatcher η β) (s : Site η β) : α × Site η β :=
  let (a, d) := f s.dispatcher
  (a, { s with dispatcher := d })

def transmit (recipient : PeerName) (m : Message) (s : Site η β) :
    Except CallError Unit × Site η β :=
  let e := Envelope.of s.dispatcher.name recipient m
  match s.network.send e with
  | (.ok (), network) => (.ok (), ⟨s.dispatcher.record (.sent e none), network⟩)
  | (.error error, network) =>
    (.error (.transport error), ⟨s.dispatcher.record (.sent e (some error)), network⟩)

def replied (typeName : String) (s : Site η β) : Site η β :=
  s.modify fun d =>
    (d.count fun c => { c with repliesSent := c.repliesSent + 1 }).report (.replySent typeName)

/-- Sends a reply to a request in flight, which is then in flight no more. The answer is false, and
nothing is sent, if the request is not in flight. -/
def answer (recipient : PeerName) (id : CorrelationId) (m : Message) (s : Site η β) :
    Except CallError Bool × Site η β :=
  let (released, d) := s.dispatcher.release recipient id
  if released then
    match { s with dispatcher := d }.transmit recipient m with
    | (.ok (), s) => (.ok true, s.replied m.typeName)
    | (.error e, s) => (.error e, s)
  else (.ok false, s)

def sendReply (recipient : PeerName) (id : CorrelationId) (r : Reply) (s : Site η β) :
    Except CallError Bool × Site η β :=
  s.answer recipient id (.reply id r.typeName r.payload)

def sendErrorReply (recipient : PeerName) (id : CorrelationId) (e : RemoteError) (s : Site η β) :
    Except CallError Bool × Site η β :=
  s.answer recipient id (.errorReply id e)

/-- Sends a request under this id, and registers the call. -/
def sendRequest (now : Nanos) (id : CorrelationId) (target : PeerName) (typeName : String)
    (payload : Json) (timeout : Nanos) (s : Site η β) : Except CallError PendingReply × Site η β :=
  match s.dispatcher.table.register now id timeout ⟨some target, typeName⟩ with
  | (.error e, table) => (.error e, s.modify fun d => { d with table := table })
  | (.ok reply, table) =>
    match (s.modify fun d => { d with table := table }).transmit target
        (.request typeName payload id) with
    | (.error e, s) => (.error e, s.modify fun d => { d with table := (d.table.cancel id).2 })
    | (.ok (), s) =>
      (.ok reply, s.modify fun d =>
        ((d.count fun c => { c with requestsSent := c.requestsSent + 1 }).report
          (.requestSent typeName)).reportPending)

def notify (target : PeerName) (typeName : String) (payload : Json) (s : Site η β) :
    Except CallError Unit × Site η β :=
  match s.transmit target (.notification typeName payload) with
  | (.error e, s) => (.error e, s)
  | (.ok (), s) =>
    (.ok (), s.modify fun d =>
      (d.count fun c => { c with notificationsSent := c.notificationsSent + 1 }).report
        (.notificationSent typeName))

/-- A request goes to the handler of its namespace. One that no handler takes gets an error for its
reply. -/
def onRequest (now : Nanos) (sender : PeerName) (m : Message) (s : Site η β) :
    InboundOutcome η × Site η β :=
  let s := s.modify fun d =>
    (d.count fun c => { c with requestsReceived := c.requestsReceived + 1 }).report
      (.requestReceived m.typeName)
  match s.dispatcher.registry.resolve m.typeName with
  | none =>
    let s := s.modify fun d =>
      (d.count fun c => { c with unhandled := c.unhandled + 1 }).report (.unhandled m.typeName)
    match m.id? with
    | none => (.unhandled, s)
    | some id =>
      match s.transmit sender (.errorReply id (.unhandled m.typeName)) with
      | (.ok (), s) => (.unhandled, s.replied errorReplyType)
      | (.error _, s) => (.unhandled, s)
  | some (_, handler) =>
    let invocation : Invocation :=
      ⟨sender, s.dispatcher.name, m.typeName, m.payload, m.id?, now⟩
    match m.id? with
    | none => (.dispatched invocation handler, s)
    | some id =>
      if s.dispatcher.isInFlight sender id then (.discarded, s)
      else
        (.dispatched invocation handler,
          s.modify fun d => { d with inFlight := ⟨id, sender⟩ :: d.inFlight })

def onInbound (now : Nanos) (sender : PeerName) (m : Message) (s : Site η β) :
    InboundOutcome η × Site η β :=
  match m.kind with
  | .reply => s.lift (·.onReply m)
  | .request => s.onRequest now sender m

inductive Taken (η : Type) where
  | routed (e : Envelope) (outcome : InboundOutcome η)
  | misrouted (e : Envelope)
  | nothing
  | closed

def take (now : Nanos) (lane : LaneId) (s : Site η β) : Taken η × Site η β :=
  match s.network.receive lane with
  | (.envelope e, network) =>
    let s := { s with network := network }
    if e.recipient = s.dispatcher.name then
      let (outcome, s) := s.onInbound now e.sender e.message
      (.routed e outcome, s)
    else (.misrouted e, s)
  | (.nothing, _) => (.nothing, s)
  | (.closed, _) => (.closed, s)

def replyEarly (invocation : Invocation) (r : Reply) (s : Site η β) :
    Except CallError Bool × Site η β :=
  match invocation.id? with
  | none => (.ok false, s)
  | some id => s.sendReply invocation.sender id r

/-- A handler has ended. Its request is answered, unless that was done before. -/
def conclude (now : Nanos) (invocation : Invocation) (o : Outcome) (s : Site η β) : Site η β :=
  let typeName := invocation.typeName
  let s := s.modify (·.report (.handlerCompleted typeName (now - invocation.started)))
  let s := match o.remoteError? with
    | none => s
    | some e => s.modify fun d =>
      (d.count fun c => { c with handlerFailures := c.handlerFailures + 1 }).report
        (.handlerFailed typeName e.kind)
  match invocation.id? with
  | none => s
  | some id =>
    match o, o.remoteError? with
    | .reply r, _ => (s.sendReply invocation.sender id r).2
    | _, none => s.modify fun d => (d.release invocation.sender id).2
    | _, some e => (s.sendErrorReply invocation.sender id e).2

end Site

end MessageRelay
