import MessageRelay.Dispatch.Dispatcher

/-!
A handler is a program that asks its dispatcher to do one thing after another, each chosen by the
answers to those before, until it ends. Where an answer has to be waited for, other programs go on.
-/
namespace MessageRelay

structure ReminderPlan where
  name : String
  cancels? : Option String := none
  notice? : Option (PeerName × String × Json) := none

/-- A timer of a peer under a name. After it others come in turn, each some time after the one
before. -/
structure Reminder where
  plan : ReminderPlan
  later : List (Nanos × ReminderPlan) := []

inductive WorkNote where
  | started (handler : String) (invocation : Invocation)
  | did (verb : String) (value : Json)
  | failed (verb : String) (error : CallError)

inductive Command where
  | enter
  | note (number : Nat) (n : WorkNote)
  | clock
  | sleepUntil (time : Nanos)
  | request (target : PeerName) (typeName : String) (payload : Json) (timeout? : Option Nanos)
  | await (replies : List PendingReply)
  | giveUp (reply : PendingReply)
  | notify (target : PeerName) (typeName : String) (payload : Json)
  | reply (r : Reply)
  | remind (delay : Nanos) (reminder : Reminder)
  | cancelReminder (name : String)
  | shutdown

@[reducible]
def Command.Answer : Command → Type
  | .enter => Nat
  | .note .. => Unit
  | .clock => Nanos
  | .sleepUntil _ => Unit
  | .request .. => Except CallError PendingReply
  | .await _ => List (CallResult × Bool)
  | .giveUp _ => Unit
  | .notify .. => Except CallError Unit
  | .reply _ => Except CallError Bool
  | .remind .. => TimerHandle
  | .cancelReminder _ => Option Bool
  | .shutdown => Nat

inductive Program (α : Type) where
  | finish (a : α)
  | perform (c : Command) (next : c.Answer → Program α)

namespace Program

variable {α β : Type}

def bind (p : Program α) (f : α → Program β) : Program β :=
  match p with
  | .finish a => f a
  | .perform c next => .perform c fun answer => (next answer).bind f

instance : Monad Program where
  pure := .finish
  bind := bind

instance : Inhabited (Program Unit) := ⟨.finish ()⟩

def ask (c : Command) : Program c.Answer := .perform c .finish

def sleep (d : Nanos) : Program Unit := do
  let now ← ask .clock
  ask (.sleepUntil (now + d))

def request (target : PeerName) (typeName : String) (payload : Json) (timeout? : Option Nanos) :
    Program (Except CallError PendingReply) :=
  ask (.request target typeName payload timeout?)

def await (r : PendingReply) : Program (CallResult × Bool) := do
  match ← ask (.await [r]) with
  | answer :: _ => return answer
  | [] => return (.error .cancelled, false)

def call (target : PeerName) (typeName : String) (payload : Json) (timeout? : Option Nanos) :
    Program CallResult := do
  match ← request target typeName payload timeout? with
  | .error e => return .error e
  | .ok r => return (← await r).1

/-- A call that ends with no reply, and no error, if its own deadline passes. -/
def callOrNone (target : PeerName) (typeName : String) (payload : Json) (timeout : Nanos) :
    Program (Except CallError (Option Reply)) := do
  match ← request target typeName payload (some timeout) with
  | .error e => return .error e
  | .ok r =>
    match ← await r with
    | (.ok reply, _) => return .ok (some reply)
    | (.error (.timeout ..), true) => return .ok none
    | (.error e, _) => return .error e

end Program

def CallTable.resultsOf {β : Type} (t : CallTable β) :
    List PendingReply → Option (List (CallResult × Bool))
  | [] => some []
  | reply :: rest => do
    match t.poll reply with
    | (some result, reply) => return (result, reply.expired) :: (← t.resultsOf rest)
    | (none, _) => none

abbrev Handler := Invocation → Program Outcome

end MessageRelay
