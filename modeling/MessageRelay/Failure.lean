import MessageRelay.Message

/-!
Why a message was refused or a call failed. A failure that ends a handler is reported to the
requester as a remote error of one of three kinds; there it becomes a failure of the call again.
-/
namespace MessageRelay

inductive TransportError where
  | unknownPeer (peer : PeerName)
  | queueFull (peer : PeerName)
  | disconnected (peer : PeerName)
  deriving DecidableEq, Repr

def TransportError.message : TransportError → String
  | .unknownPeer peer => s!"unknown peer: {peer}"
  | .queueFull peer => s!"inbound queue of {peer} is full"
  | .disconnected peer => s!"peer {peer} is disconnected"

def TransportError.name : TransportError → String
  | .unknownPeer _ => "UnknownPeer"
  | .queueFull _ => "QueueFull"
  | .disconnected _ => "Disconnected"

inductive RemoteErrorKind where
  | timeout | unhandled | handlerFailure
  deriving DecidableEq, Repr

def RemoteErrorKind.name : RemoteErrorKind → String
  | .timeout => "timeout"
  | .unhandled => "unhandled"
  | .handlerFailure => "handler_failure"

/-- What an error reply tells the requester. -/
structure RemoteError where
  kind : RemoteErrorKind
  message : String
  deriving DecidableEq, Repr

namespace RemoteError

def unhandled (typeName : String) : RemoteError :=
  ⟨.unhandled, s!"no handler registered for {typeName}"⟩

def toText (e : RemoteError) : String := s!"{e.kind.name}: {e.message}"

def toPayload (e : RemoteError) : Json :=
  .ofMembers [("kind", .str e.kind.name), ("message", .str e.message)]

end RemoteError

def Message.errorReply (id : CorrelationId) (e : RemoteError) : Message :=
  .reply id errorReplyType e.toPayload

inductive CallError where
  | timeout (id : CorrelationId) (detail : String)
  | unhandled (message : String)
  | handlerFailure (message : String)
  | duplicateId (id : CorrelationId)
  | staleReply (id : CorrelationId)
  | transport (error : TransportError)
  | cancelled
  | malformedReply (message : String)
  deriving DecidableEq

namespace CallError

def message : CallError → String
  | .timeout id detail => s!"request {id.toText} timed out: {detail}"
  | .unhandled message => s!"unhandled message: {message}"
  | .handlerFailure message => s!"handler failure: {message}"
  | .duplicateId id => s!"correlation id {id.toText} is already pending"
  | .staleReply id => s!"stale response for correlation id {id.toText}"
  | .transport error => s!"transport error: {error.message}"
  | .cancelled => "call cancelled"
  | .malformedReply message => s!"malformed error reply: {message}"

def name : CallError → String
  | .timeout .. => "Timeout"
  | .unhandled _ => "Unhandled"
  | .handlerFailure _ => "HandlerFailure"
  | .duplicateId _ => "DuplicateCorrelation"
  | .staleReply _ => "StaleResponse"
  | .transport error => s!"Transport.{error.name}"
  | .cancelled => "Cancelled"
  | .malformedReply _ => "MalformedReply"

def toJson (e : CallError) : Json :=
  .ofMembers [("error", .str e.name), ("message", .str e.message)]

/-- What is told of the failure, the outermost text first: an error of the network speaks for itself
too. -/
def texts (e : CallError) : List String :=
  e.message :: match e with
    | .transport error => [error.message]
    | _ => []

/-- The failure of the call with this id whose reply reports the error. -/
def ofRemote (id : CorrelationId) (e : RemoteError) : CallError :=
  match e.kind with
  | .timeout => .timeout id e.message
  | .unhandled => .unhandled e.message
  | .handlerFailure => .handlerFailure e.message

/-- The kind reported to a requester whose handler ends with this failure. -/
def remoteKind : CallError → RemoteErrorKind
  | .timeout .. => .timeout
  | .unhandled _ => .unhandled
  | _ => .handlerFailure

def isTimeout : CallError → Bool
  | .timeout .. => true
  | _ => false

end CallError

end MessageRelay
