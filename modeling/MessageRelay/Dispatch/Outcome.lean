import MessageRelay.Failure

/-!
How a handler ends. A failure has a cause and, around it, the contexts that the handler added. It is
reported to the requester with all of its texts, as a timeout if a call of the handler timed out.
-/
namespace MessageRelay

inductive FailureCause where
  | text (message : String)
  | call (error : CallError)
  deriving DecidableEq

structure HandlerError where
  contexts : List String := []
  cause : FailureCause
  deriving DecidableEq

inductive Outcome where
  | reply (r : Reply)
  | silent
  | failed (e : HandlerError)
  | broken (message? : Option String)

namespace HandlerError

def texts (e : HandlerError) : List String :=
  e.contexts ++ match e.cause with
    | .text message => [message]
    | .call error => error.texts

def message (e : HandlerError) : String := ": ".intercalate e.texts

def within (context : String) (e : HandlerError) : HandlerError :=
  { e with contexts := context :: e.contexts }

def kind (e : HandlerError) : RemoteErrorKind :=
  match e.cause with
  | .call (.timeout ..) => .timeout
  | _ => .handlerFailure

end HandlerError

/-- The error that is reported, if the handler did not end well. -/
def Outcome.remoteError? : Outcome → Option RemoteError
  | .reply _ => none
  | .silent => none
  | .failed e => some ⟨e.kind, e.message⟩
  | .broken message? =>
    let message := message?.getD "non-string panic payload"
    some ⟨.handlerFailure, s!"handler panicked: {message}"⟩

end MessageRelay
