import MessageRelay.Timer.Machine
import MessageRelay.Timer.Sleeper

/-!
Scripted callbacks: a small language for what a timer does when it fires and when it is discarded,
and a bench that runs it against one queue and one clock. A name stands for the timer that was last
scheduled under it.
-/
namespace MessageRelay.TimerScript

mutual

inductive Action where
  | schedule (callback : Callback) (delay : Nanos)
  | scheduleAt (callback : Callback) (deadline : Nanos)
  | cancel (name : String)
  | isScheduled (name : String)
  | fireDue (at? : Option Nanos)
  | nextDeadline
  | clear
  | stats

/-- What runs when the timer fires, and what when its callback is given up, afterwards or instead. -/
inductive Callback where
  | mk (name : String) (body : List Action) (onDrop : Option (List Action))

end

instance : Inhabited Callback := ⟨.mk "" [] none⟩

def Callback.name : Callback → String
  | .mk name _ _ => name

def Callback.body : Callback → List Action
  | .mk _ body _ => body

def Callback.onDrop : Callback → Option (List Action)
  | .mk _ _ onDrop => onDrop

inductive Answer where
  | nothing
  | handle (handle : TimerHandle)
  | flag (value : Bool)
  | count (n : Nat)
  | deadline (at? : Option Nanos)
  | stats (s : TimerStats)

def Action.verb : Action → String
  | .schedule .. => "schedule"
  | .scheduleAt .. => "schedule_at"
  | .cancel _ => "cancel"
  | .isScheduled _ => "is_scheduled"
  | .fireDue _ => "fire_due"
  | .nextDeadline => "next_deadline"
  | .clear => "clear"
  | .stats => "stats"

inductive Note where
  | fired (name : String) (now : Nanos)
  | dropped (name : String)
  | did (who verb : String) (answer : Answer)

inductive Asker where
  | nobody
  | noted (who : String)
  | outside

inductive Item where
  | note (n : Note)
  | act (asker : Asker) (action : Action)
  | answer (asker : Asker) (verb : String) (answer : Answer)
  | advance (asker : Asker)
  | leave

mutual

def Action.weight : Action → Nat
  | .schedule c _ => c.weight + 2
  | .scheduleAt c _ => c.weight + 2
  | _ => 4

def Callback.weight : Callback → Nat
  | .mk _ body onDrop => actionsWeight body + optionWeight onDrop + 8

def actionsWeight : List Action → Nat
  | [] => 0
  | a :: rest => a.weight + actionsWeight rest

def optionWeight : Option (List Action) → Nat
  | none => 0
  | some actions => actionsWeight actions

end

def Item.weight : Item → Nat
  | .act _ a => a.weight
  | .advance _ => 2
  | _ => 1

structure Bench where
  now : Nanos := 0
  machine : TimerMachine Callback := {}
  names : List (String × TimerHandle) := []
  log : List Note := []
  answer : Answer := .nothing
  todo : List Item := []

namespace Bench

def queue (b : Bench) : TimerQueue Callback := b.machine.queue

def find? (b : Bench) (name : String) : Option TimerHandle :=
  (b.names.find? (·.1 = name)).map (·.2)

def push (items : List Item) (b : Bench) : Bench := { b with todo := items ++ b.todo }

def discardItems (c : Callback) : List Item :=
  match c.onDrop with
  | none => []
  | some actions => .note (.dropped c.name) :: actions.map (.act (.noted c.name))

def fireItems (now : Nanos) (c : Callback) : List Item :=
  .note (.fired c.name now) :: c.body.map (.act (.noted c.name)) ++ discardItems c

def move (b : Bench) (m : TimerMove Callback) : TimerAnswer Callback × Bench :=
  let (answer, machine) := b.machine.step m
  (answer, { b with machine := machine })

def reply (asker : Asker) (verb : String) (answer : Answer) (b : Bench) : Bench :=
  match asker with
  | .nobody => b
  | .noted who => { b with log := b.log ++ [.did who verb answer] }
  | .outside => { b with answer := answer }

def scheduleAt (asker : Asker) (verb : String) (c : Callback) (deadline : Nanos) (b : Bench) :
    Bench :=
  match b.move (.schedule deadline c) with
  | (.scheduled handle, b) =>
    { b with names := (c.name, handle) :: b.names }.reply asker verb (.handle handle)
  | (_, b) => b

def act (asker : Asker) (a : Action) (b : Bench) : Bench :=
  match a with
  | .schedule c delay => b.scheduleAt asker a.verb c (deadlineAfter b.now delay)
  | .scheduleAt c deadline => b.scheduleAt asker a.verb c deadline
  | .cancel name =>
    match b.find? name with
    | none => b.reply asker a.verb .nothing
    | some handle =>
      match b.move (.cancel handle.id) with
      | (.cancelled (some c), b) =>
        b.push (discardItems c ++ [.leave, .answer asker a.verb (.flag true)])
      | (_, b) => b.reply asker a.verb (.flag false)
  | .isScheduled name =>
    match b.find? name with
    | none => b.reply asker a.verb .nothing
    | some handle => b.reply asker a.verb (.flag (b.queue.isScheduled handle.id))
  | .fireDue at? => (b.move (.enter (at?.getD b.now))).2.push [.advance asker]
  | .nextDeadline =>
    match b.move .look with
    | (.deadline at?, b) => b.reply asker a.verb (.deadline at?)
    | (_, b) => b
  | .clear =>
    match b.move .clear with
    | (.cleared cs, b) =>
      b.push (cs.flatMap (fun c => discardItems c ++ [.leave]) ++
        [.answer asker a.verb (.count cs.length)])
    | (_, b) => b
  | .stats => b.reply asker a.verb (.stats b.queue.stats)

def step (item : Item) (b : Bench) : Bench :=
  match item with
  | .note n => { b with log := b.log ++ [n] }
  | .act asker a => b.act asker a
  | .answer asker verb answer => b.reply asker verb answer
  | .leave => (b.move .leave).2
  | .advance asker =>
    match b.move .advance with
    | (.fired _ c, b) => b.push (fireItems b.now c ++ [.leave, .advance asker])
    | (.finished count, b) => b.reply asker (Action.fireDue none).verb (.count count)
    | (_, b) => b

def weight (b : Bench) : Nat :=
  b.queue.schedule.live.foldl (fun n t => n + t.2.weight)
    (b.todo.foldl (fun n item => n + item.weight) 0)

def work : (fuel : Nat) → Bench → Bench
  | 0, b => b
  | fuel + 1, b =>
    match b.todo with
    | [] => b
    | item :: rest => work fuel ({ b with todo := rest }.step item)

def settle (b : Bench) : Bench := b.work b.weight

def perform (a : Action) (b : Bench) : Bench := (b.push [.act .outside a]).settle

def fire (b : Bench) : Bench := (b.push [.act .nobody (.fireDue none)]).settle

structure Drive where
  bench : Bench
  sleeper : Sleeper := .looking
  script : List (Nanos × Action)
  due : Nanos
  scriptFirst : Bool := false

namespace Drive

def sleeperTurn (d : Drive) : Drive :=
  let fired := if d.sleeper.turn d.bench.now d.bench.queue.rearm = .sleep then d.bench else
    match d.bench.queue.nextDeadline.1 with
    | none => d.bench
    | some deadline => if Sleeper.isOver d.bench.now deadline then d.bench.fire else d.bench
  let (sleeper, queue) := Sleeper.look { fired.queue with rearm := false }
  { d with
    bench := { fired with machine := { fired.machine with queue := queue } }
    sleeper := sleeper }

def scriptTurn (bench : Bench) (due : Nanos) : List (Nanos × Action) → Bench × List (Nanos × Action) × Nanos
  | [] => (bench, [], due)
  | (delay, a) :: rest =>
    if bench.now < due then (bench, (delay, a) :: rest, due)
    else
      let bench := (bench.push [.act (.noted "script") a]).settle
      scriptTurn bench (bench.now + (rest.head?.map (·.1)).getD 0) rest

/-- One run of the task; the flag tells that the script gave a signal. -/
def poll (d : Drive) : Drive × Bool :=
  let first := if d.scriptFirst then d else d.sleeperTurn
  let (bench, script, due) := scriptTurn first.bench first.due first.script
  let second := { first with bench := bench, script := script, due := due }
  let signal := second.bench.queue.rearm
  let last := if d.scriptFirst then second.sleeperTurn else second
  ({ last with scriptFirst := !d.scriptFirst }, signal)

def alarm? (d : Drive) : Option Nanos :=
  match d.sleeper.alarm?, d.script with
  | none, [] => none
  | some t, [] => some t
  | none, _ => some d.due
  | some t, _ => some (min t d.due)

def loop (stop : Nanos) : (fuel : Nat) → Drive → Drive
  | 0, d => d
  | fuel + 1, d =>
    let (d, signal) := d.poll
    if signal then loop stop fuel d
    else
      match d.alarm? with
      | none => d
      | some t =>
        if stop < t then d
        else loop stop fuel { d with bench := { d.bench with now := max t d.bench.now } }

end Drive

/-- Runs the sleeper for that long beside a script; timers due at the very end fire too. Each run of
the task fires a timer, performs an action or answers a signal, which bounds them. -/
def runWith (duration : Nanos) (actions : List (Nanos × Action)) (b : Bench) : Bench :=
  let stop := b.now + duration
  let fuel := 2 * actions.foldl (fun n a => n + a.2.weight + 1) b.weight + 4
  let due := b.now + (actions.head?.map (·.1)).getD 0
  let d := Drive.loop stop fuel { bench := b, script := actions, due := due }
  { d.bench with now := stop, answer := .nothing }

def run (duration : Nanos) (b : Bench) : Bench := b.runWith duration []

def advance (duration : Nanos) (b : Bench) : Bench :=
  { b with now := b.now + duration, answer := .nothing }

end Bench

end MessageRelay.TimerScript
