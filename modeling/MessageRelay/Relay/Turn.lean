import MessageRelay.Relay.State

/-!
Turns. A job goes on until it ends or has to wait; a loop takes all that has arrived, and then fires
the timers that are due. The clock stands still while any task has a turn to take, and else moves
from one alarm to the next.
-/
namespace MessageRelay.Relay

def obey (h : HostId) (invocation? : Option Invocation) (r : Relay) :
    (c : Command) → Option c.Answer × Relay
  | .enter =>
    let number := (r.host h).entered + 1
    (some number, r.modifyHost h fun host => { host with entered := number })
  | .note number n => (some (), r.note h (.work number n))
  | .clock => (some r.now, r)
  | .sleepUntil time => (if Sleeper.isOver r.now time then some () else none, r)
  | .request target typeName payload timeout? =>
    let (reply, r) := r.sendRequest h target typeName payload timeout?
    (some reply, r)
  | .await replies => ((r.host h).dispatcher.table.resultsOf replies, r)
  | .giveUp reply => (some (), r.dropReply h reply)
  | .notify target typeName payload =>
    let (sent, r) := r.notify h target typeName payload
    (some sent, r)
  | .reply reply =>
    match invocation? with
    | none => (some (.ok false), r)
    | some invocation =>
      let (sent, r) := r.act h (Site.replyEarly invocation reply)
      (some sent, r)
  | .remind delay reminder =>
    let (handle, r) := r.remind h delay reminder
    (some handle, r)
  | .cancelReminder name =>
    let (result, r) := r.cancelReminder h name
    (some result, r)
  | .shutdown =>
    let (ended, r) := r.shutdown h
    (some ended, r)

def run {α : Type} (h : HostId) (invocation? : Option Invocation) :
    Program α → Relay → Program α × Relay
  | .finish a, r => (.finish a, r)
  | .perform c next, r =>
    match r.obey h invocation? c with
    | (none, r) => (.perform c next, r)
    | (some answer, r) => run h invocation? (next answer) r

def awaited {α : Type} : Program α → List PendingReply
  | .perform (.await replies) _ => replies
  | _ => []

def alarm? {α : Type} : Program α → Option Nanos
  | .perform (.sleepUntil time) _ => some (Sleeper.wholeMillis time)
  | _ => none

def suspend {α : Type} (t : TaskId) (h : HostId) (p : Program α) (job : Job) (r : Relay) : Relay :=
  let table := (r.host h).dispatcher.table
  let waitsFor := ((awaited p).map (·.ticket)).filter fun ticket => !table.isReady ticket
  let r := r.setTask t (.job h job waitsFor)
  match alarm? p with
  | some time => r.setAlarm time t
  | none => r

def jobTurn (t : TaskId) (h : HostId) (job : Job) (r : Relay) : Relay :=
  let r := r.setTask t .over
  match job with
  | .handling invocation rest =>
    match r.run h (some invocation) rest with
    | (.finish o, r) => (r.act h fun s => ((), s.conclude r.now invocation o)).2
    | (p, r) => r.suspend t h p (.handling invocation p)
  | .calling name rest =>
    match r.run h none rest with
    | (.finish result, r) => { r with results := r.results.push ⟨name, r.now, result⟩ }
    | (p, r) => r.suspend t h p (.calling name p)
  | .noticing rest =>
    match r.run h none rest with
    | (.finish (), r) => r
    | (p, r) => r.suspend t h p (.noticing p)

def receiveAll (h : HostId) (lane : LaneId) : (fuel : Nat) → Relay → Bool × Relay
  | 0, r => (false, r)
  | fuel + 1, r =>
    match r.act h (Site.take r.now lane) with
    | (.nothing, r) => (false, r)
    | (.closed, r) => (true, r)
    | (.routed _ outcome, r) => receiveAll h lane fuel (r.startHandler h outcome)
    | (.misrouted _, r) => receiveAll h lane fuel r

def fireDue (h : HostId) : (fuel : Nat) → (count : Nat) → Relay → Nat × Relay
  | 0, count, r => (count, r)
  | fuel + 1, count, r =>
    match r.act h (Site.lift (Dispatcher.fireNext r.now)) with
    | (.nothing, r) => (count, r)
    | (.expiry, r) => fireDue h fuel (count + 1) r
    | (.payload reminder, r) => fireDue h fuel (count + 1) (r.fulfil h reminder)

/-- How often a timer can fire at most, itself and those that come after it. -/
def firings : CallTimer Reminder → Nat
  | .expiry _ => 1
  | .other reminder => 1 + reminder.later.length

def pass (h : HostId) (r : Relay) : Relay :=
  let live := (r.host h).dispatcher.table.timers.schedule.live
  let (count, r) := r.fireDue h (live.foldl (fun n t => n + firings t.2) 1) 0
  (r.act h (Site.lift fun d => ((), d.endPass count))).2

def lookAtTimers (h : HostId) (r : Relay) : Relay :=
  let host := r.host h
  let (sleeper, timers) := Sleeper.look { host.dispatcher.table.timers with rearm := false }
  let r := (r.modifyHost h fun host =>
    { host with sleeper := sleeper, dispatcher.table.timers := timers }).dropAlarms host.loop
  match sleeper.alarm? with
  | some time => r.setAlarm time host.loop
  | none => r

def timersTurn (h : HostId) (r : Relay) : Relay :=
  let host := r.host h
  match host.sleeper.turn r.now host.dispatcher.table.timers.rearm with
  | .sleep => r
  | _ =>
    let r := r.lookAtTimers h
    match (r.host h).sleeper with
    | .waiting deadline => if Sleeper.isOver r.now deadline then (r.pass h).lookAtTimers h else r
    | _ => r

def endLoop (h : HostId) (lane : LaneId) (r : Relay) : Relay :=
  let r := (r.shutdown h).2
  let host := r.host h
  { r with network := r.network.dropLane lane }.modifyHost h (fun host =>
      { host with lane? := none, final? := some host.dispatcher.stats })
    |>.setTask host.loop .over |>.dropAlarms host.loop

/-- A request that came from the host itself may add one more message, its error. -/
def loopTurn (h : HostId) (r : Relay) : Relay :=
  match (r.host h).lane? with
  | none => r
  | some lane =>
    match r.receiveAll h lane (2 * (r.network.lane lane).waiting.length + 1) with
    | (true, r) => r.endLoop h lane
    | (false, r) => r.timersTurn h

def turn (t : TaskId) (r : Relay) : Relay :=
  match r.task t with
  | .loop h => r.loopTurn h
  | .job h job _ => r.jobTurn t h job
  | .over => r

def settleWithin : (turns : Nat) → Relay → Relay
  | 0, r => r
  | turns + 1, r =>
    match r.ready with
    | [] => r
    | t :: _ =>
      let r := r.turn t
      settleWithin turns { r with ready := r.ready.tail }

/-- Turns that are given at a time, in rounds. Tasks that keep each other awake without end are
interrupted after these, and go on the next time. -/
def turnsPerRound : Nat := 61

def rounds : Nat := 150

def settle (r : Relay) : Relay := r.settleWithin (rounds * turnsPerRound)

def ring (r : Relay) : Relay :=
  let due := r.alarms.takeWhile fun a => decide (a.1 ≤ r.now)
  due.foldl (fun r a => r.wake a.2) { r with alarms := r.alarms.drop due.length }

def elapseWithin (stop : Nanos) : (alarms : Nat) → Relay → Relay
  | 0, r => r
  | alarms + 1, r =>
    match r.alarms with
    | [] => r
    | (time, _) :: _ =>
      if stop < time then r
      else elapseWithin stop alarms { r with now := max r.now time }.ring.settle

/-- So many stops are made at most while time passes. -/
def patience : Nat := 1000000

/-- Time passes. The clock stops at each alarm on the way until all tasks wait. -/
def elapse (duration : Nanos) (r : Relay) : Relay :=
  let stop := r.now + duration
  { r.settle.elapseWithin stop patience with now := stop }

end MessageRelay.Relay
