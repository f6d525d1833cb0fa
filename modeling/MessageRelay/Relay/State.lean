import MessageRelay.Dispatch.Program
import MessageRelay.Metrics.Exposition
import MessageRelay.Timer.Sleeper

/-!
Dispatchers on one network, and the tasks that drive them: the loop of each dispatcher, its handlers,
and the calls made from outside. Tasks take turns. One that is woken joins the end of the queue, and
stays at the front of it while its turn lasts, so it never wakes itself.
-/
namespace MessageRelay

abbrev HostId := Nat

abbrev TaskId := Nat

/-- A dispatcher and what drives it. -/
structure Host where
  key : String
  dispatcher : Dispatcher Handler Reminder
  lane? : Option LaneId := none
  loop : TaskId := 0
  sleeper : Sleeper := .looking
  reminders : List (String × TimerHandle) := []
  entered : Nat := 0
  journal : Array Deed := #[]
  final? : Option DispatchStats := none
  collected : Bool := false

instance : Inhabited Host := ⟨{ key := "", dispatcher := { name := "", defaultTimeout := 0 } }⟩

/-- A peer without a dispatcher. -/
structure Mailbox where
  key : String
  name : PeerName
  lane? : Option LaneId

abbrev CallOutcome := Except CallError (Option Reply)

inductive Job where
  | handling (invocation : Invocation) (rest : Program Outcome)
  | calling (name : String) (rest : Program CallOutcome)
  | noticing (rest : Program Unit)

inductive Task where
  | loop (host : HostId)
  | job (host : HostId) (job : Job) (waitsFor : List Ticket)
  | over

instance : Inhabited Task := ⟨.over⟩

inductive NoteContent where
  | work (number : Nat) (n : WorkNote)
  | reminded (name : String)
  | cancelled (name : String) (result? : Option Bool)

structure HostNote where
  host : HostId
  time : Nanos
  content : NoteContent

structure CallEnd where
  name : String
  time : Nanos
  result : CallOutcome

structure HeldReply where
  name : String
  host : HostId
  reply : PendingReply

structure Relay where
  now : Nanos := 0
  network : Network := {}
  hosts : Array Host := #[]
  mailboxes : List Mailbox := []
  tasks : Array Task := #[]
  ready : List TaskId := []
  alarms : List (Nanos × TaskId) := []
  issued : Nat := 0
  calls : List (String × TaskId) := []
  held : List HeldReply := []
  notes : Array HostNote := #[]
  results : Array CallEnd := #[]
  collectors : Collectors := {}

namespace Relay

def host (h : HostId) (r : Relay) : Host := r.hosts.getD h default

def modifyHost (h : HostId) (f : Host → Host) (r : Relay) : Relay :=
  { r with hosts := r.hosts.modify h f }

def task (t : TaskId) (r : Relay) : Task := r.tasks.getD t .over

def setTask (t : TaskId) (task : Task) (r : Relay) : Relay :=
  { r with tasks := r.tasks.setIfInBounds t task }

def hostOf? (key : String) (r : Relay) : Option HostId :=
  (List.range r.hosts.size).reverse.find? fun h => (r.host h).key = key

def wake (t : TaskId) (r : Relay) : Relay :=
  if r.ready.contains t then r else { r with ready := r.ready ++ [t] }

def spawn (task : Task) (r : Relay) : TaskId × Relay :=
  (r.tasks.size, { r with tasks := r.tasks.push task }.wake r.tasks.size)

def insertAlarm (time : Nanos) (t : TaskId) : List (Nanos × TaskId) → List (Nanos × TaskId)
  | [] => [(time, t)]
  | a :: rest => if time < a.1 then (time, t) :: a :: rest else a :: insertAlarm time t rest

def setAlarm (time : Nanos) (t : TaskId) (r : Relay) : Relay :=
  { r with alarms := insertAlarm time t r.alarms }

def dropAlarms (t : TaskId) (r : Relay) : Relay :=
  { r with alarms := r.alarms.filter (·.2 ≠ t) }

def note (h : HostId) (content : NoteContent) (r : Relay) : Relay :=
  { r with notes := r.notes.push ⟨h, r.now, content⟩ }

def reader? (lane : LaneId) (r : Relay) : Option TaskId :=
  (r.hosts.find? (·.lane? = some lane)).map (·.loop)

def wakeReader (lane? : Option LaneId) (r : Relay) : Relay :=
  match lane?.bind r.reader? with
  | some t => r.wake t
  | none => r

def wakeSleeper (h : HostId) (r : Relay) : Relay :=
  let host := r.host h
  if host.dispatcher.table.timers.rearm && host.lane?.isSome then r.wake host.loop else r

def publish (h : HostId) (r : Relay) : Deed → Relay
  | .reported event =>
    if (r.host h).collected then { r with collectors := r.collectors.record event } else r
  | .sent e none => r.wakeReader (r.network.lane? e.recipient)
  | .sent _ (some _) => r

def isServed (h : HostId) (r : Relay) : Task → Bool
  | .job host _ waitsFor =>
    host = h && waitsFor.any fun ticket => (r.host h).dispatcher.table.isReady ticket
  | _ => false

def wakeServed (h : HostId) (r : Relay) : Relay :=
  let served := (List.range r.tasks.size).filter fun t =>
    r.isServed h (r.task t) && !r.ready.contains t
  { r with ready := r.ready ++ served }

/-- An operation of the dispatcher of a host. Whoever waits for what it did is woken; jobs wait for
calls to end. -/
def act {α : Type} (h : HostId) (f : Site Handler Reminder → α × Site Handler Reminder)
    (r : Relay) : α × Relay :=
  let d := (r.host h).dispatcher
  let (a, s) := f ⟨d, r.network⟩
  let deeds := s.dispatcher.journal
  let r := { r with network := s.network }.modifyHost h fun host =>
    { host with dispatcher := { s.dispatcher with journal := #[] }, journal := host.journal ++ deeds }
  let r := deeds.foldl (publish h) (r.wakeSleeper h)
  (a, if s.dispatcher.table.stats.ended = d.table.stats.ended then r else r.wakeServed h)

def issue (r : Relay) : CorrelationId × Relay :=
  (CorrelationId.fresh r.issued, { r with issued := r.issued + 1 })

def sendRequest (h : HostId) (target : PeerName) (typeName : String) (payload : Json)
    (timeout? : Option Nanos) (r : Relay) : Except CallError PendingReply × Relay :=
  let (id, r) := r.issue
  let timeout := timeout?.getD (r.host h).dispatcher.defaultTimeout
  r.act h (Site.sendRequest r.now id target typeName payload timeout)

def notify (h : HostId) (target : PeerName) (typeName : String) (payload : Json) (r : Relay) :
    Except CallError Unit × Relay :=
  r.act h (Site.notify target typeName payload)

def shutdown (h : HostId) (r : Relay) : Nat × Relay := r.act h (Site.lift Dispatcher.shutdown)

def dropReply (h : HostId) (reply : PendingReply) (r : Relay) : Relay :=
  (r.act h (Site.lift fun d => ((), d.dropReply reply))).2

def remind (h : HostId) (delay : Nanos) (reminder : Reminder) (r : Relay) : TimerHandle × Relay :=
  let (handle, r) := r.act h (Site.lift (Dispatcher.after r.now delay reminder))
  (handle, r.modifyHost h fun host =>
    { host with reminders := (reminder.plan.name, handle) :: host.reminders })

def cancelReminder (h : HostId) (name : String) (r : Relay) : Option Bool × Relay :=
  match ((r.host h).reminders.find? (·.1 = name)).map (·.2) with
  | none => (none, r)
  | some handle =>
    let (done, r) := r.act h (Site.lift (Dispatcher.cancelTimer handle.id))
    (some done, r)

def fulfil (h : HostId) (reminder : Reminder) (r : Relay) : Relay :=
  let r := r.note h (.reminded reminder.plan.name)
  let r := match reminder.plan.cancels? with
    | none => r
    | some name =>
      let (result?, r) := r.cancelReminder h name
      r.note h (.cancelled name result?)
  let r := match reminder.later with
    | [] => r
    | (delay, plan) :: later => (r.remind h delay ⟨plan, later⟩).2
  match reminder.plan.notice? with
  | none => r
  | some (target, typeName, payload) =>
    let p : Program Unit := do discard (Program.ask (.notify target typeName payload))
    (r.spawn (.job h (.noticing p) [])).2

def startHandler (h : HostId) (r : Relay) : InboundOutcome Handler → Relay
  | .dispatched invocation handler =>
    (r.spawn (.job h (.handling invocation (handler invocation)) [])).2
  | _ => r

def inbound (h : HostId) (sender : PeerName) (m : Message) (r : Relay) :
    InboundOutcome Handler × Relay :=
  let (outcome, r) := r.act h (Site.onInbound r.now sender m)
  (outcome, r.startHandler h outcome)

end Relay

end MessageRelay
