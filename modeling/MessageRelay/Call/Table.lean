import MessageRelay.Failure
import MessageRelay.Timer.Queue

/-!
Outstanding calls. Each registration races a timer: whichever of reply, error, deadline or
cancellation comes first takes the entry out and settles the call, and all that comes later finds no
entry. The caller holds a ticket for a one-shot channel, through which the result arrives.
-/
namespace MessageRelay

structure CallInfo where
  target? : Option PeerName := none
  typeName : String := ""
  deriving DecidableEq, Repr

abbrev CallResult := Except CallError Reply

/-- What the caller gets, and whether the deadline of the call itself passed. -/
structure Settlement where
  result : CallResult
  expired : Bool

/-- Names the channel of one registration. -/
abbrev Ticket := Nat

inductive Channel where
  | waiting
  | settled (s : Settlement)
  | abandoned

structure PendingCall where
  info : CallInfo
  timeout : Nanos
  timer : TimerId
  ticket : Ticket
  deriving DecidableEq, Repr

def PendingCall.timeoutDetail (c : PendingCall) : String :=
  let within := s!"no reply within {c.timeout / 1000000}ms"
  if c.info.typeName.isEmpty then within
  else
    match c.info.target? with
    | some target => s!"{c.info.typeName} to {target} got {within}"
    | none => s!"{c.info.typeName} got {within}"

/-- The awaitable side of a call; it is settled once a poll has delivered the result. -/
structure PendingReply where
  id : CorrelationId
  ticket : Ticket
  settled : Bool := false
  expired : Bool := false
  deriving DecidableEq

structure CallStats where
  registered : Nat := 0
  completed : Nat := 0
  failed : Nat := 0
  timedOut : Nat := 0
  cancelled : Nat := 0
  stale : Nat := 0
  duplicates : Nat := 0
  pending : Nat := 0
  deriving DecidableEq, Repr

def CallStats.ended (s : CallStats) : Nat := s.completed + s.failed + s.timedOut + s.cancelled

/-- What a timer of the queue is for: the deadline of a call, or something else. -/
inductive CallTimer (β : Type) where
  | expiry (id : CorrelationId)
  | other (payload : β)

structure CallTable (β : Type) where
  calls : List (CorrelationId × PendingCall) := []
  stats : CallStats := {}
  closed : Bool := false
  timers : TimerQueue (CallTimer β) := {}
  channels : Array Channel := #[]

namespace CallTable

variable {β : Type}

def find? (t : CallTable β) (id : CorrelationId) : Option PendingCall :=
  (t.calls.find? (·.1 = id)).map (·.2)

def isPending (t : CallTable β) (id : CorrelationId) : Bool := (t.find? id).isSome

def pendingCount (t : CallTable β) : Nat := t.calls.length

def currentStats (t : CallTable β) : CallStats := { t.stats with pending := t.pendingCount }

/-- Registers a call that times out unless it ends before. A pending call of the same id stays as it
is, and a closed table takes none. -/
def register (now : Nanos) (id : CorrelationId) (timeout : Nanos) (info : CallInfo)
    (t : CallTable β) : Except CallError PendingReply × CallTable β :=
  if t.closed then (.error .cancelled, t)
  else if t.isPending id then
    (.error (.duplicateId id), { t with stats.duplicates := t.stats.duplicates + 1 })
  else
    let (handle, timers) := t.timers.scheduleAfter now timeout (.expiry id)
    let ticket := t.channels.size
    (.ok { id, ticket },
      { t with
        calls := (id, ⟨info, timeout, handle.id, ticket⟩) :: t.calls
        stats.registered := t.stats.registered + 1
        timers := timers
        channels := t.channels.push .waiting })

/-- Takes an entry out, with its timer, and counts how it ended. Its channel gives nothing unless it
is settled. -/
def take (id : CorrelationId) (count : CallStats → CallStats) (t : CallTable β) :
    Option PendingCall × CallTable β :=
  match t.find? id with
  | none => (none, t)
  | some call =>
    (some call,
      { t with
        calls := t.calls.eraseP (·.1 = id)
        stats := count t.stats
        timers := (t.timers.cancel call.timer).2
        channels := t.channels.setIfInBounds call.ticket .abandoned })

def settle (call : PendingCall) (s : Settlement) (t : CallTable β) : CallTable β :=
  { t with channels := t.channels.setIfInBounds call.ticket (.settled s) }

def countStale (t : CallTable β) : CallTable β := { t with stats.stale := t.stats.stale + 1 }

def resolve (id : CorrelationId) (reply : Reply) (t : CallTable β) : Bool × CallTable β :=
  match t.take id (fun s => { s with completed := s.completed + 1 }) with
  | (none, t) => (false, t.countStale)
  | (some call, t) => (true, t.settle call ⟨.ok reply, false⟩)

def fail (id : CorrelationId) (e : CallError) (t : CallTable β) : Bool × CallTable β :=
  match t.take id (fun s => { s with failed := s.failed + 1 }) with
  | (none, t) => (false, t.countStale)
  | (some call, t) => (true, t.settle call ⟨.error e, false⟩)

def expire (id : CorrelationId) (t : CallTable β) : Bool × CallTable β :=
  match t.take id (fun s => { s with timedOut := s.timedOut + 1 }) with
  | (none, t) => (false, t)
  | (some call, t) => (true, t.settle call ⟨.error (.timeout id call.timeoutDetail), true⟩)

/-- Drops a call; its caller gets that it was cancelled. -/
def cancel (id : CorrelationId) (t : CallTable β) : Bool × CallTable β :=
  match t.take id (fun s => { s with cancelled := s.cancelled + 1 }) with
  | (none, t) => (false, t)
  | (some _, t) => (true, t)

def failAll (e : CallError) (t : CallTable β) : Nat × CallTable β :=
  let ended := t.calls.map (·.2)
  let cleared : CallTable β :=
    { t with calls := [], stats.failed := t.stats.failed + ended.length }
  (ended.length,
    ended.foldl (fun t call =>
      { t with timers := (t.timers.cancel call.timer).2 }.settle call ⟨.error e, false⟩) cleared)

def close (t : CallTable β) : Nat × CallTable β := { t with closed := true }.failAll .cancelled

/-- Asks for the result. A reply that has delivered it must not be asked again. -/
def poll (r : PendingReply) (t : CallTable β) : Option CallResult × PendingReply :=
  match t.channels[r.ticket]? with
  | some (.settled s) => (some s.result, { r with settled := true, expired := s.expired })
  | some .abandoned => (some (.error .cancelled), { r with settled := true })
  | _ => (none, r)

/-- Gives a reply up. As long as it has not delivered a result, the call of its id ends too. -/
def drop (r : PendingReply) (t : CallTable β) : CallTable β :=
  if r.settled then t else (t.cancel r.id).2

def isReady (ticket : Ticket) (t : CallTable β) : Bool :=
  match t.channels[ticket]? with
  | some .waiting => false
  | _ => true

end CallTable

end MessageRelay
