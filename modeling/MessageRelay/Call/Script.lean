import MessageRelay.Call.Machine
import MessageRelay.Timer.Sleeper

/-!
A bench for one call table: replies are held under names, the hook does one of a few things, and the
clock runs with the timers.
-/
namespace MessageRelay.CallScript

inductive HookMode where
  | reregister
  | resolve
  | close
  | watch (label : String)

def HookMode.label : HookMode → String
  | .reregister => "reregister"
  | .resolve => "resolve"
  | .close => "close"
  | .watch label => label

inductive HookAnswer where
  | nothing
  | registered (r : Except CallError Unit)
  | flag (value : Bool)
  | count (n : Nat)

structure Note where
  label : String
  id : CorrelationId
  pending : Bool
  answer : HookAnswer

inductive PollAnswer where
  | nothingHeld
  | pending (expired : Bool)
  | taken (expired : Bool)
  | result (r : CallResult) (expired : Bool)

structure Bench where
  machine : CallMachine Empty := {}
  held : List (String × Ticket) := []
  hook : Option HookMode := none
  again : Nat := 0
  log : List Note := []

namespace Bench

def now (b : Bench) : Nanos := b.machine.now

def table (b : Bench) : CallTable Empty := b.machine.table

def find? (b : Bench) (name : String) : Option Ticket := (b.held.find? (·.1 = name)).map (·.2)

def move (m : CallMove Empty) (b : Bench) : CallAnswer × Bench :=
  let (answer, machine) := b.machine.step m
  (answer, { b with machine := machine })

def drop (name : String) (b : Bench) : Bool × Bench :=
  match b.find? name with
  | none => (false, b)
  | some ticket => (true, { (b.move (.drop ticket)).2 with held := b.held.filter (·.1 ≠ name) })

def hold (name : String) (ticket : Ticket) (b : Bench) : Bench :=
  let b := (b.drop name).2
  { b with held := b.held ++ [(name, ticket)] }

def register (name : String) (id : CorrelationId) (timeout : Nanos) (info : CallInfo) (b : Bench) :
    Except CallError Unit × Bench :=
  match b.move (.register id timeout info) with
  | (.registered (.ok reply), b) => (.ok (), b.hold name reply.ticket)
  | (.registered (.error e), b) => (.error e, b)
  | (_, b) => (.ok (), b)

def runHook (id : CorrelationId) (b : Bench) : Bench :=
  match b.hook with
  | none => b
  | some mode =>
    let (answer, b) : HookAnswer × Bench := match mode with
      | .reregister =>
        let again := b.again + 1
        let (r, b) := b.register s!"again{again}" id 10000000 {}
        (.registered r, { b with again := again })
      | .resolve =>
        match b.move (.resolve id ⟨"Late", .null⟩) with
        | (.flag done, b) => (.flag done, b)
        | (_, b) => (.nothing, b)
      | .close =>
        match b.move .close with
        | (.count n, b) => (.count n, b)
        | (_, b) => (.nothing, b)
      | .watch _ => (.nothing, b)
    { b with log := b.log ++ [⟨mode.label, id, b.table.isPending id, answer⟩] }

def finishHook (b : Bench) : Bench :=
  match b.machine.stack with
  | .hook id :: _ => ((b.runHook id).move .leave).2
  | _ => b

def pass : (fuel : Nat) → Bench → Nat × Bench
  | 0, b => (0, b)
  | fuel + 1, b =>
    match b.move .advance with
    | (.fired, b) => pass fuel b.finishHook
    | (.finished count, b) => (count, b)
    | (_, b) => (0, b)

/-- A pass over all timers due by `now`. A hook registers for later than now, so a pass over what is
due now fires each timer there is once at most. -/
def fireDue (now : Nanos) (b : Bench) : Nat × Bench :=
  (b.move (.enter now)).2.pass (b.table.timers.size + 2)

def setNow (now : Nanos) (b : Bench) : Bench := (b.move (.elapse (now - b.now))).2

def nextDeadline (b : Bench) : Option Nanos × Bench :=
  let (deadline, timers) := b.table.timers.nextDeadline
  (deadline, { b with machine := { b.machine with table := { b.table with timers := timers } } })

/-- Fires each timer at its time, up to `stop` or until `done`. Timers fire at whole milliseconds, so
there are no more wakes than those. -/
def drive (stop : Nanos) (done : Bench → Bool) : (fuel : Nat) → Bench → Bench
  | 0, b => b
  | fuel + 1, b =>
    if done b then b
    else
      match b.nextDeadline with
      | (none, b) => b
      | (some deadline, b) =>
        let t := max b.now (Sleeper.wholeMillis deadline)
        if stop < t then b else drive stop done fuel ((b.setNow t).fireDue t).2

def run (duration : Nanos) (b : Bench) : Bench :=
  let stop := b.now + duration
  (b.drive stop (fun _ => false) (duration / 1000000 + b.table.timers.size + 2)).setNow stop

def reply? (name : String) (b : Bench) : Option PendingReply := do
  let ticket ← b.find? name
  b.machine.replies.find? (·.ticket = ticket)

def poll (name : String) (b : Bench) : PollAnswer × Bench :=
  match b.reply? name with
  | none => (.nothingHeld, b)
  | some r =>
    match b.move (.poll r.ticket) with
    | (.polled (some result) r, b) => (.result result r.expired, b)
    | (.polled none r, b) => (.pending r.expired, b)
    | (_, b) => (.taken r.expired, b)

/-- Awaits a reply while the clock runs. Its call has a timer among those that are scheduled now, so
no more wakes are needed than there are of these, and those a hook adds every ten milliseconds. -/
def wait (name : String) (b : Bench) : PollAnswer × Bench :=
  match b.reply? name with
  | none => (.nothingHeld, b)
  | some r =>
    if r.settled then (.nothingHeld, b)
    else
      let wakes := 2 * b.table.timers.size + 2 + match b.table.find? r.id with
        | some call => min call.timeout maxDelay / 10000000 * (b.table.timers.size + 1)
        | none => 0
      (b.drive (b.now + 2 * maxDelay) (fun b => b.table.isReady r.ticket) wakes).poll name

def dropAll (b : Bench) : Bench := b.held.foldl (fun b h => (b.drop h.1).2) b

end Bench

end MessageRelay.CallScript
