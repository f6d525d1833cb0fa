import MessageRelay.Dispatch.Program

/-!
Scripted handlers: a handler given as a list of actions. The value of each action is noted and can be
used by those after it; an action that fails ends the handler, unless the script catches the failure.
-/
namespace MessageRelay.Script

structure Template where
  target : String
  typeName : String
  payload : Json

inductive Pause where
  | fixed (d : Nanos)
  | payload

inductive Verb where
  | call (m : Template) (timeout? : Option Nanos)
  | callOrNone (m : Template) (timeout : Nanos)
  | request (name : String) (m : Template) (timeout : Nanos)
  | await (name : String)
  | drop (name : String)
  | notify (m : Template)
  | reply (typeName : String) (payload : Json)
  | all (calls : List (Template × Nanos))
  | recurse (target : String)
  | after (delay : Nanos) (reminder : Reminder)
  | cancelTimer (name : String)
  | shutdown

inductive Action where
  | sleep (p : Pause)
  | perform (verb : Verb) (catches : Bool) (context? : Option String)
  | breakOff (message? : Option String)
  | fail (e : HandlerError)
  | answer (typeName : String) (payload : Json)
  | stop

def Verb.name : Verb → String
  | .call .. => "call"
  | .callOrNone .. => "call_or_none"
  | .request .. => "request"
  | .await _ => "await"
  | .drop _ => "drop"
  | .notify _ => "notify"
  | .reply .. => "reply"
  | .all _ => "all"
  | .recurse _ => "recurse"
  | .after .. => "after"
  | .cancelTimer _ => "cancel_timer"
  | .shutdown => "shutdown"

inductive Value where
  | plain (j : Json)
  | reply (r : Reply)

def replyJson (r : Reply) : Json := .ofMembers [("type", .str r.typeName), ("payload", r.payload)]

def resultJson : CallResult → Json
  | .ok r => .ofMembers [("ok", replyJson r)]
  | .error e => e.toJson

def Value.ofOption : Option Reply → Value
  | some r => .reply r
  | none => .plain .null

def Value.toJson : Value → Json
  | .plain j => j
  | .reply r => replyJson r

def Value.content : Value → Json
  | .plain j => j
  | .reply r => r.payload

structure State where
  invocation : Invocation
  last : Json := .null
  held : List (String × PendingReply) := []

namespace State

def fillText (s : State) (text : String) : Json :=
  if text = "$payload" then s.invocation.payload
  else if text = "$last" then s.last
  else if text = "$sender" then .str s.invocation.sender
  else if text = "$type" then .str s.invocation.typeName
  else .str text

mutual

def fill (s : State) : Json → Json
  | .str text => s.fillText text
  | .arr items => .arr (fillItems s items)
  | .obj members => .obj (fillMembers s members)
  | j => j

def fillItems (s : State) : List Json → List Json
  | [] => []
  | j :: rest => fill s j :: fillItems s rest

def fillMembers (s : State) : List (String × Json) → List (String × Json)
  | [] => []
  | (k, j) :: rest => (k, fill s j) :: fillMembers s rest

end

def text (s : State) (template : String) : String :=
  match s.fillText template with
  | .str text => text
  | _ => ""

def find? (s : State) (name : String) : Option PendingReply :=
  (s.held.find? (·.1 = name)).map (·.2)

def forget (s : State) (name : String) : State := { s with held := s.held.filter (·.1 ≠ name) }

def addressed (s : State) (r : Reminder) : Reminder :=
  let address (p : ReminderPlan) : ReminderPlan :=
    { p with notice? := p.notice?.map fun (target, rest) =>
        (if target = "$sender" then s.invocation.sender else target, rest) }
  ⟨address r.plan, r.later.map fun (delay, p) => (delay, address p)⟩

end State

open Program (ask)

def dropHeld : List (String × PendingReply) → Program Unit
  | [] => return ()
  | (_, r) :: rest => do
    ask (.giveUp r)
    dropHeld rest

def requestAll (s : State) : List (Template × Nanos) → Program (List (Except CallError PendingReply))
  | [] => return []
  | (m, timeout) :: rest => do
    let r ← Program.request (s.text m.target) (s.text m.typeName) (s.fill m.payload) (some timeout)
    return r :: (← requestAll s rest)

def collect : List (Except CallError PendingReply) → List (CallResult × Bool) → List CallResult
  | [], _ => []
  | .error e :: rest, answers => .error e :: collect rest answers
  | .ok _ :: rest, answer :: answers => answer.1 :: collect rest answers
  | .ok _ :: rest, [] => .error .cancelled :: collect rest []

def milliseconds (t : Nanos) : Json := .ofNat (t / 1000000)

def Verb.run (s : State) : Verb → Program (Except CallError Value × State)
  | .call m timeout? => do
    let r ← Program.call (s.text m.target) (s.text m.typeName) (s.fill m.payload) timeout?
    return (r.map .reply, s)
  | .callOrNone m timeout => do
    let r ← Program.callOrNone (s.text m.target) (s.text m.typeName) (s.fill m.payload) timeout
    return (r.map Value.ofOption, s)
  | .request name m timeout => do
    match ← Program.request (s.text m.target) (s.text m.typeName) (s.fill m.payload) (some timeout) with
    | .error e => return (.error e, s)
    | .ok r =>
      match s.find? name with
      | some old => ask (.giveUp old)
      | none => pure ()
      let s := s.forget name
      return (.ok (.plain (.ofMembers [("id", .str r.id.toText)])),
        { s with held := s.held ++ [(name, r)] })
  | .await name =>
    match s.find? name with
    | none => return (.ok (.plain (.str "nothing held")), s)
    | some r => do
      let answer ← Program.await r
      return (answer.1.map .reply, s.forget name)
  | .drop name =>
    match s.find? name with
    | none => return (.ok (.plain (.bool false)), s)
    | some r => do
      ask (.giveUp r)
      return (.ok (.plain (.bool true)), s.forget name)
  | .notify m => do
    let r ← ask (.notify (s.text m.target) (s.text m.typeName) (s.fill m.payload))
    return (r.map fun _ => .plain (.str "sent"), s)
  | .reply typeName payload => do
    let r ← ask (.reply ⟨s.text typeName, s.fill payload⟩)
    return (r.map fun sent => .plain (.bool sent), s)
  | .all calls => do
    let requests ← requestAll s calls
    let answers ← ask (.await (requests.filterMap (·.toOption)))
    return (.ok (.plain (.arr ((collect requests answers).map resultJson))), s)
  | .recurse target => do
    match s.invocation.payload.natural? with
    | some (n + 1) =>
      let r ← Program.call (s.text target) s.invocation.typeName (.ofNat n) none
      return (r.map fun reply => .plain (.ofNat (reply.payload.natural?.getD 0 + 1)), s)
    | _ => return (.ok (.plain (.ofNat 0)), s)
  | .after delay reminder => do
    let handle ← ask (.remind delay (s.addressed reminder))
    return (.ok (.plain (.ofMembers
      [("seq", .ofNat handle.id), ("fire_at", milliseconds handle.fireAt)])), s)
  | .cancelTimer name => do
    match ← ask (.cancelReminder name) with
    | some done => return (.ok (.plain (.bool done)), s)
    | none => return (.ok (.plain .null), s)
  | .shutdown => do
    let n ← ask .shutdown
    return (.ok (.plain (.ofNat n)), s)

def finish (s : State) (o : Outcome) : Program Outcome := do
  dropHeld s.held
  return o

/-- Runs the actions in order. Running off the end means that there is no reply. -/
def run (number : Nat) (s : State) : List Action → Program Outcome
  | [] => finish s .silent
  | .stop :: _ => finish s .silent
  | .answer typeName payload :: _ => finish s (.reply ⟨s.text typeName, s.fill payload⟩)
  | .fail e :: _ => finish s (.failed e)
  | .breakOff message? :: _ => finish s (.broken message?)
  | .sleep p :: rest => do
    match p with
    | .fixed d => Program.sleep d
    | .payload => Program.sleep (s.invocation.payload.natural?.getD 0 * 1000000)
    run number s rest
  | .perform verb catches context? :: rest => do
    match ← verb.run s with
    | (.ok value, s) =>
      ask (.note number (.did verb.name value.toJson))
      run number { s with last := value.content } rest
    | (.error e, s) =>
      ask (.note number (.failed verb.name e))
      if catches then run number { s with last := e.toJson } rest
      else finish s (.failed ⟨context?.toList, .call e⟩)

def handler (name : String) (actions : List Action) : Handler := fun invocation => do
  let number ← ask .enter
  ask (.note number (.started name invocation))
  run number { invocation } actions

end MessageRelay.Script
