import MessageRelay.Call.Table

/-!
Code that runs inside of timer passes over a call table. Each call that times out runs the hook, if
there is one, and the hook may use the table again; so may the callback of any other timer. The
machine keeps what is under way on a stack, and each move is chosen from outside, so its runs are
those of all hooks, callbacks and callers there can be.
-/
namespace MessageRelay

inductive CallFrame (β : Type) where
  | pass (now : Nanos) (count : Nat)
  | hook (id : CorrelationId)
  | callback (payload : β)

structure CallMachine (β : Type) where
  now : Nanos := 0
  table : CallTable β := {}
  replies : List PendingReply := []
  hooked : Bool := false
  stack : List (CallFrame β) := []

inductive CallMove (β : Type) where
  | elapse (duration : Nanos)
  | setHook
  | register (id : CorrelationId) (timeout : Nanos) (info : CallInfo)
  | resolve (id : CorrelationId) (reply : Reply)
  | fail (id : CorrelationId) (error : CallError)
  | expire (id : CorrelationId)
  | cancel (id : CorrelationId)
  | failAll (error : CallError)
  | close
  | poll (ticket : Ticket)
  | drop (ticket : Ticket)
  | schedule (delay : Nanos) (payload : β)
  | cancelTimer (id : TimerId)
  | clearTimers
  | enter (now : Nanos)
  | advance
  | leave

inductive CallAnswer where
  | done
  | registered (r : Except CallError PendingReply)
  | flag (value : Bool)
  | count (n : Nat)
  | polled (result : Option CallResult) (reply : PendingReply)
  | handle (handle : TimerHandle)
  | fired
  | finished (count : Nat)
  | refused

namespace CallMachine

variable {β : Type}

def countFired : List (CallFrame β) → List (CallFrame β)
  | .pass now count :: below => .pass now (count + 1) :: below
  | stack => stack

def expire (id : CorrelationId) (m : CallMachine β) : Bool × CallMachine β :=
  let (done, table) := m.table.expire id
  (done,
    { m with
      table := table
      stack := if done && m.hooked then .hook id :: m.stack else m.stack })

def withTable {α : Type} (f : CallTable β → α × CallTable β) (answer : α → CallAnswer)
    (m : CallMachine β) : CallAnswer × CallMachine β :=
  let (a, table) := f m.table
  (answer a, { m with table := table })

def advance (now : Nanos) (count : Nat) (below : List (CallFrame β)) (m : CallMachine β) :
    CallAnswer × CallMachine β :=
  match m.table.timers.popDue now with
  | (none, timers) =>
    (.finished count, { m with table.timers := timers.endPass count, stack := below })
  | (some (_, .other payload), timers) =>
    (.fired, { m with table.timers := timers, stack := .callback payload :: m.stack })
  | (some (_, .expiry id), timers) =>
    let (done, n) := { m with table.timers := timers }.expire id
    (.fired, if done && m.hooked then n else { n with stack := countFired n.stack })

def leave (below : List (CallFrame β)) (m : CallMachine β) : CallAnswer × CallMachine β :=
  (.done, { m with stack := countFired below })

def operate (m : CallMachine β) : CallMove β → CallAnswer × CallMachine β
  | .elapse duration => (.done, { m with now := m.now + duration })
  | .setHook => (.done, { m with hooked := true })
  | .register id timeout info =>
    match m.table.register m.now id timeout info with
    | (.ok reply, table) =>
      (.registered (.ok reply), { m with table := table, replies := m.replies ++ [reply] })
    | (.error e, table) => (.registered (.error e), { m with table := table })
  | .resolve id reply => m.withTable (·.resolve id reply) .flag
  | .fail id e => m.withTable (·.fail id e) .flag
  | .expire id => let (done, m) := m.expire id; (.flag done, m)
  | .cancel id => m.withTable (·.cancel id) .flag
  | .failAll e => m.withTable (·.failAll e) .count
  | .close => m.withTable (·.close) .count
  | .poll ticket =>
    match m.replies.find? (·.ticket = ticket) with
    | none => (.refused, m)
    | some r =>
      if r.settled then (.refused, m)
      else
        let (result, r) := m.table.poll r
        (.polled result r,
          { m with replies := m.replies.map fun q => if q.ticket = ticket then r else q })
  | .drop ticket =>
    match m.replies.find? (·.ticket = ticket) with
    | none => (.refused, m)
    | some r =>
      (.done,
        { m with
          table := m.table.drop r
          replies := m.replies.filter (·.ticket ≠ ticket) })
  | .schedule delay payload =>
    let (handle, timers) := m.table.timers.scheduleAfter m.now delay (.other payload)
    (.handle handle, { m with table.timers := timers })
  | .cancelTimer id =>
    let (payload, timers) := m.table.timers.cancel id
    (.flag payload.isSome, { m with table.timers := timers })
  | .clearTimers =>
    let (payloads, timers) := m.table.timers.clear
    (.count payloads.length, { m with table.timers := timers })
  | .enter now => (.done, { m with stack := .pass now 0 :: m.stack })
  | .advance => (.refused, m)
  | .leave => (.refused, m)

def step (m : CallMachine β) (move : CallMove β) : CallAnswer × CallMachine β :=
  match m.stack, move with
  | .pass now count :: below, .advance => m.advance now count below
  | .pass _ _ :: _, _ => (.refused, m)
  | .hook _ :: below, .leave => m.leave below
  | .callback _ :: below, .leave => m.leave below
  | _, move => m.operate move

end CallMachine

end MessageRelay
