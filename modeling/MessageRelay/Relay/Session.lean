import MessageRelay.Relay.Turn

/-!
What is done to a relay from outside: peers are added and taken off, calls started and given up,
replies held and asked for.
-/
namespace MessageRelay.Relay

def attach (name : PeerName) (r : Relay) : LaneId × Relay :=
  let old := r.network.lane? name
  let (lane, network) := r.network.attach name
  (lane, { r with network := network }.wakeReader old)

def detach (name : PeerName) (r : Relay) : Bool × Relay :=
  let old := r.network.lane? name
  let (done, network) := r.network.detach name
  (done, { r with network := network }.wakeReader old)

def dropLane (lane : LaneId) (r : Relay) : Relay := { r with network := r.network.dropLane lane }

inductive Source where
  | own
  | alias (name : PeerName)
  | idle

def addHost (key : String) (name : PeerName) (registry : Registry Handler) (defaultTimeout : Nanos)
    (collected : Bool) (source : Source) (r : Relay) : HostId × Relay :=
  let h := r.hosts.size
  let (own, r) := r.attach name
  let (lane?, r) : Option LaneId × Relay := match source with
    | .own => (some own, r)
    | .alias other =>
      let (lane, r) := r.attach other
      (some lane, r.dropLane own)
    | .idle => (none, { r with mailboxes := ⟨key, name, some own⟩ :: r.mailboxes })
  let host : Host :=
    { key, dispatcher := { name, registry, defaultTimeout }, lane?, collected }
  match lane? with
  | none => (h, { r with hosts := r.hosts.push host })
  | some _ =>
    let (t, r) := r.spawn (.loop h)
    (h, { r with hosts := r.hosts.push { host with loop := t } })

def mailbox? (key : String) (r : Relay) : Option Mailbox := r.mailboxes.find? (·.key = key)

def closeMailbox (key : String) (r : Relay) : Bool × Relay :=
  match (r.mailbox? key).bind (·.lane?) with
  | none => (false, r)
  | some lane =>
    (true, { r.dropLane lane with
      mailboxes := r.mailboxes.map fun p => if p.lane? = some lane then { p with lane? := none } else p })

def addMailbox (key : String) (name : PeerName) (r : Relay) : Relay :=
  let (lane, r) := r.attach name
  let r := (r.closeMailbox key).2
  { r with mailboxes := ⟨key, name, some lane⟩ :: r.mailboxes }

def post (e : Envelope) (r : Relay) : Except TransportError Unit × Relay :=
  match r.network.send e with
  | (.ok (), network) =>
    let r := { r with network := network }
    (.ok (), r.wakeReader (r.network.lane? e.recipient))
  | (.error error, network) => (.error error, { r with network := network })

def receiveFrom (lane : LaneId) : (fuel : Nat) → Network → List Envelope × Bool × Network
  | 0, n => ([], false, n)
  | fuel + 1, n =>
    match n.receive lane with
    | (.envelope e, n) =>
      let (rest, closed, n) := receiveFrom lane fuel n
      (e :: rest, closed, n)
    | (.nothing, n) => ([], false, n)
    | (.closed, n) => ([], true, n)

def drainMailbox (key : String) (r : Relay) : Option (List Envelope × Bool) × Relay :=
  match (r.mailbox? key).bind (·.lane?) with
  | none => (none, r)
  | some lane =>
    let (es, closed, network) :=
      receiveFrom lane ((r.network.lane lane).waiting.length + 1) r.network
    (some (es, closed), { r with network := network })

/-- Starts a call as a task. A call started before under the name goes on without it. -/
def spawnCall (h : HostId) (name : String) (p : Program CallOutcome) (r : Relay) : Relay :=
  let (t, r) := r.spawn (.job h (.calling name p) [])
  { r with calls := (name, t) :: r.calls.filter (·.1 ≠ name) }

def startCall (h : HostId) (name target typeName : String) (payload : Json)
    (timeout? : Option Nanos) (r : Relay) : Relay :=
  r.spawnCall h name do return (← Program.call target typeName payload timeout?).map some

def startCallOrNone (h : HostId) (name target typeName : String) (payload : Json)
    (timeout : Nanos) (r : Relay) : Relay :=
  r.spawnCall h name (.callOrNone target typeName payload timeout)

def abort (name : String) (r : Relay) : Bool × Relay :=
  match (r.calls.find? (·.1 = name)).map (·.2) with
  | none => (false, r)
  | some t =>
    let task := r.task t
    let r := { r with calls := r.calls.filter (·.1 ≠ name) }.setTask t .over
    (true, match task with
      | .job h (.calling _ rest) _ =>
        (awaited rest).foldl (fun r reply => r.dropReply h reply) (r.dropAlarms t)
      | _ => r)

def held? (name : String) (r : Relay) : Option HeldReply := r.held.find? (·.name = name)

def forget (name : String) (r : Relay) : Relay := { r with held := r.held.filter (·.name ≠ name) }

def dropHeld (name : String) (r : Relay) : Bool × Relay :=
  match r.held? name with
  | none => (false, r)
  | some held => (true, (r.dropReply held.host held.reply).forget name)

def hold (name : String) (h : HostId) (reply : PendingReply) (r : Relay) : Relay :=
  let r := (r.dropHeld name).2
  { r with held := r.held ++ [⟨name, h, reply⟩] }

def requestHeld (h : HostId) (name target typeName : String) (payload : Json) (timeout : Nanos)
    (r : Relay) : Except CallError CorrelationId × Relay :=
  match r.sendRequest h target typeName payload (some timeout) with
  | (.error e, r) => (.error e, r)
  | (.ok reply, r) => (.ok reply.id, r.hold name h reply)

def registerHeld (h : HostId) (name : String) (id : CorrelationId) (timeout : Nanos) (r : Relay) :
    Except CallError Unit × Relay :=
  let register (d : Dispatcher Handler Reminder) :
      Except CallError PendingReply × Dispatcher Handler Reminder :=
    let (reply, table) := d.table.register r.now id timeout {}
    (reply, { d with table := table })
  match r.act h (Site.lift register) with
  | (.error e, r) => (.error e, r)
  | (.ok reply, r) => (.ok (), r.hold name h reply)

inductive PollAnswer where
  | unknown
  | pending
  | result (r : CallResult) (expired : Bool)

def pollHeld (name : String) (r : Relay) : PollAnswer × Relay :=
  match r.held? name with
  | none => (.unknown, r)
  | some held =>
    match (r.host held.host).dispatcher.table.poll held.reply with
    | (none, _) => (.pending, r)
    | (some result, reply) => (.result result reply.expired, r.forget name)

def join (h : HostId) (r : Relay) : Option DispatchStats × Relay :=
  ((r.host h).final?, r.modifyHost h fun host => { host with final? := none })

def sendReply (h : HostId) (target : PeerName) (id : CorrelationId) (reply : Reply) (r : Relay) :
    Except CallError Bool × Relay :=
  r.act h (Site.sendReply target id reply)

def nextDeadline (h : HostId) (r : Relay) : Option Nanos :=
  (r.host h).dispatcher.table.timers.nextDeadline.1

/-- Forgets what was noted and which calls ended, so that a report tells only what comes after. -/
def turnPage (r : Relay) : Relay := { r with notes := #[], results := #[] }

end MessageRelay.Relay
