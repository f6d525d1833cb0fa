import MessageRelay.Timer.Schedule

/-!
The timer queue: a schedule with counters, and a signal for whoever sleeps until the next deadline.
The payload of a timer is what is to be done when it fires; doing it is not part of the queue.
-/
namespace MessageRelay

structure TimerHandle where
  id : TimerId
  fireAt : Nanos
  deriving DecidableEq, Repr

structure TimerStats where
  scheduled : Nat
  fired : Nat
  cancelled : Nat
  live : Nat
  deriving DecidableEq, Repr

/-- `rearm` is a signal to whoever sleeps: a timer was scheduled that is due before all others. -/
structure TimerQueue (α : Type) where
  schedule : Schedule α := {}
  fired : Nat := 0
  cancelled : Nat := 0
  rearm : Bool := false

/-- Longest delay that counts, thirty years; a longer one is cut down to it. -/
def maxDelay : Nanos := 86400 * 365 * 30 * 1000000000

def deadlineAfter (now delay : Nanos) : Nanos := now + min delay maxDelay

namespace TimerQueue

variable {α : Type}

def empty : TimerQueue α := {}

def nextDeadline (q : TimerQueue α) : Option Nanos × TimerQueue α :=
  let (deadline, schedule) := q.schedule.nextDeadline
  (deadline, { q with schedule := schedule })

def scheduleAt (deadline : Nanos) (payload : α) (q : TimerQueue α) : TimerHandle × TimerQueue α :=
  let (previous, q) := q.nextDeadline
  let (id, schedule) := q.schedule.insert deadline payload
  (⟨id, deadline⟩,
    { q with
      schedule := schedule
      rearm := q.rearm || previous.all fun earliest => decide (deadline < earliest) })

def scheduleAfter (now delay : Nanos) (payload : α) (q : TimerQueue α) :
    TimerHandle × TimerQueue α :=
  q.scheduleAt (deadlineAfter now delay) payload

def cancel (id : TimerId) (q : TimerQueue α) : Option α × TimerQueue α :=
  let (payload, schedule) := q.schedule.remove id
  (payload,
    { q with schedule := schedule, cancelled := q.cancelled + if payload.isSome then 1 else 0 })

def isScheduled (id : TimerId) (q : TimerQueue α) : Bool := q.schedule.contains id

def popDue (now : Nanos) (q : TimerQueue α) : Option (TimerId × α) × TimerQueue α :=
  let (due, schedule) := q.schedule.popDue now
  (due, { q with schedule := schedule })

def endPass (count : Nat) (q : TimerQueue α) : TimerQueue α := { q with fired := q.fired + count }

def size (q : TimerQueue α) : Nat := q.schedule.size

/-- All that was scheduled is live, fired or cancelled; what a pass has fired so far counts once the
pass is over. -/
def stats (q : TimerQueue α) : TimerStats :=
  ⟨q.fired + q.cancelled + q.size, q.fired, q.cancelled, q.size⟩

def clear (q : TimerQueue α) : List α × TimerQueue α :=
  let (payloads, schedule) := q.schedule.drain
  (payloads, { q with schedule := schedule, cancelled := q.cancelled + payloads.length })

end TimerQueue

end MessageRelay
