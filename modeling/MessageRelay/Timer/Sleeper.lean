import MessageRelay.Timer.Queue

/-!
The sleeper drives a timer queue: it looks for the next deadline and sleeps until then, or until it
is told that an earlier one came up. Sleeping ends at whole milliseconds.
-/
namespace MessageRelay

inductive Sleeper where
  | looking
  | waiting (deadline : Nanos)
  | idle
  deriving DecidableEq, Repr

namespace Sleeper

/-- The first whole millisecond not before this time. -/
def wholeMillis (t : Nanos) : Nanos := (t + 999999) / 1000000 * 1000000

def alarm? : Sleeper → Option Nanos
  | .waiting deadline => some (wholeMillis deadline)
  | _ => none

def look {α : Type} (q : TimerQueue α) : Sleeper × TimerQueue α :=
  match q.nextDeadline with
  | (some deadline, q) => (.waiting deadline, q)
  | (none, q) => (.idle, q)

def isOver (now deadline : Nanos) : Bool := decide (wholeMillis deadline ≤ now)

inductive Turn where
  | fire
  | look
  | sleep
  deriving DecidableEq, Repr

/-- The turn at `now`; a signal is answered by looking again. -/
def turn (now : Nanos) (signal : Bool) (s : Sleeper) : Turn :=
  match s with
  | .looking => .look
  | .waiting deadline => if isOver now deadline then .fire else if signal then .look else .sleep
  | .idle => if signal then .look else .sleep

end Sleeper

end MessageRelay
