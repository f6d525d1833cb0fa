import MessageRelay.Timer.Machine
import MessageRelay.Timer.Sleeper

/-!
A timer queue with its driver and with all the code that uses it. The driver looks at the queue and
falls asleep; when it wakes it fires what is due, and looks again. Between its turns other code may do
anything to the queue, and time passes. A sleep is over at its deadline or after; how long after, and
whether a signal or the deadline is answered if both have come, is chosen from outside.
-/
namespace MessageRelay

/-- A driver that fires is in a pass of its own, which stands on so many frames. -/
inductive Driver where
  | free (sleeper : Sleeper)
  | firing (base : Nat)
  deriving DecidableEq, Repr

inductive DriverTurn where
  | look
  | heed
  | wake
  deriving DecidableEq, Repr

namespace Driver

variable {α : Type}

def turn (now : Nanos) (height : Nat) (q : TimerQueue α) (d : Driver) (t : DriverTurn) :
    Option (Driver × TimerQueue α) :=
  match d, t with
  | .free .looking, .look =>
    let (sleeper, q) := Sleeper.look q
    some (.free sleeper, q)
  | .free .looking, _ => none
  | .free _, .heed => if q.rearm then some (.free .looking, { q with rearm := false }) else none
  | .free (.waiting deadline), .wake =>
    if deadline ≤ now then some (.firing height, q) else none
  | _, _ => none

def isFiring : Driver → Bool
  | .free _ => false
  | .firing _ => true

def settle (height : Nat) : Driver → Driver
  | .free sleeper => .free sleeper
  | .firing base => if height ≤ base then .free .looking else .firing base

end Driver

structure TimerDriver (α : Type) where
  now : Nanos := 0
  machine : TimerMachine α := {}
  driver : Driver := .free .looking

inductive DriverMove (α : Type) where
  | elapse (duration : Nanos)
  | act (move : TimerMove α)
  | after (delay : Nanos) (payload : α)
  | turn (t : DriverTurn)

namespace TimerDriver

variable {α : Type}

def act (move : TimerMove α) (d : TimerDriver α) : TimerDriver α :=
  let machine := (d.machine.step move).2
  { d with machine := machine, driver := d.driver.settle machine.stack.length }

/-- The driver has a turn when no pass is about to go on. -/
def turn (t : DriverTurn) (d : TimerDriver α) : TimerDriver α :=
  if d.machine.inCode then
    match d.driver.turn d.now d.machine.stack.length d.machine.queue t with
    | none => d
    | some (driver, queue) =>
      let machine := { d.machine with queue := queue }
      let machine := if t = .wake then (machine.step (.enter d.now)).2 else machine
      { d with machine := machine, driver := driver }
  else d

def step (d : TimerDriver α) : DriverMove α → TimerDriver α
  | .elapse duration => { d with now := d.now + duration }
  | .act move => d.act move
  | .after delay payload => d.act (.schedule (deadlineAfter d.now delay) payload)
  | .turn t => d.turn t

def run (d : TimerDriver α) (moves : List (DriverMove α)) : TimerDriver α :=
  moves.foldl step d

end TimerDriver

end MessageRelay
