import MessageRelay.CorrelationId
import MessageRelay.Json.Value

/-!
Messages between peers. A request with an id asks for a reply, one without is a notification; a reply
carries the id of its request. An envelope adds who sent the message to whom.
-/
namespace MessageRelay

abbrev PeerName := String

inductive MessageKind where
  | request | reply
  deriving DecidableEq, Repr, Inhabited

structure Message where
  kind : MessageKind
  typeName : String
  payload : Json
  id? : Option CorrelationId
  deriving Inhabited, BEq

def errorReplyType : String := "relay.Error"

namespace Message

def request (typeName : String) (payload : Json) (id : CorrelationId) : Message :=
  ⟨.request, typeName, payload, some id⟩

def notification (typeName : String) (payload : Json) : Message :=
  ⟨.request, typeName, payload, none⟩

def reply (id : CorrelationId) (typeName : String) (payload : Json) : Message :=
  ⟨.reply, typeName, payload, some id⟩

def isRequest (m : Message) : Bool := m.kind = .request

def isReply (m : Message) : Bool := m.kind = .reply

def expectsReply (m : Message) : Bool := m.isRequest && m.id?.isSome

def isError (m : Message) : Bool := m.isReply && m.typeName = errorReplyType

end Message

structure Reply where
  typeName : String
  payload : Json
  deriving Inhabited, BEq

structure Envelope where
  version : Nat
  sender : PeerName
  recipient : PeerName
  message : Message
  deriving Inhabited, BEq

namespace Envelope

def currentVersion : Nat := 1

def of (sender recipient : PeerName) (message : Message) : Envelope :=
  ⟨currentVersion, sender, recipient, message⟩

end Envelope

end MessageRelay
