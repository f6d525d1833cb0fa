import MessageRelay.Failure
import MessageRelay.Json.Decoder

/-!
Messages, envelopes and error payloads as JSON. An id is written in its grouped form, and only where
there is one; reading also takes null for none, and members in any order.
-/
namespace MessageRelay

open Json (Decoder Problem)
open Json.Decoder (field required)

def CorrelationId.decoder : Decoder CorrelationId :=
  .parsed "a formatted UUID string" fun s =>
    match CorrelationId.parse s with
    | .ok id => .ok id
    | .error e => .error (.refused s!"UUID parsing failed: {e.message}")

def MessageKind.name : MessageKind → String
  | .request => "request"
  | .reply => "reply"

def MessageKind.decoder : Decoder MessageKind :=
  .choice [("request", .request), ("reply", .reply)]

namespace Message

structure Draft where
  kind? : Option MessageKind
  typeName? : Option String
  payload? : Option Json
  id? : Option (Option CorrelationId)

def decoder : Decoder Message :=
  .record "Message"
    [field "kind" false Draft.kind? (fun v r => { r with kind? := some v }) MessageKind.decoder,
     field "type" false Draft.typeName? (fun v r => { r with typeName? := some v }) .text,
     field "payload" false Draft.payload? (fun v r => { r with payload? := some v }) .json,
     field "correlation_id" true Draft.id? (fun v r => { r with id? := some v })
       (.optional CorrelationId.decoder)]
    ⟨none, none, none, none⟩
    fun r => do
      return ⟨← required "kind" r.kind?, ← required "type" r.typeName?,
        ← required "payload" r.payload?, r.id?.getD none⟩

def toJson (m : Message) : Json :=
  .ofMembers <|
    [("kind", .str m.kind.name), ("type", .str m.typeName), ("payload", m.payload)] ++
      (m.id?.map fun id => ("correlation_id", Json.str id.toText)).toList

end Message

namespace Envelope

structure Draft where
  version? : Option Nat
  sender? : Option PeerName
  recipient? : Option PeerName
  message? : Option Message

def decoder : Decoder Envelope :=
  .record "Envelope"
    [field "version" false Draft.version? (fun v r => { r with version? := some v })
       (.natural 16 "u16"),
     field "from" false Draft.sender? (fun v r => { r with sender? := some v }) .text,
     field "to" false Draft.recipient? (fun v r => { r with recipient? := some v }) .text,
     field "message" false Draft.message? (fun v r => { r with message? := some v })
       Message.decoder]
    ⟨none, none, none, none⟩
    fun r => do
      return ⟨← required "version" r.version?, ← required "from" r.sender?,
        ← required "to" r.recipient?, ← required "message" r.message?⟩

def toJson (e : Envelope) : Json :=
  .ofMembers
    [("version", .ofNat e.version), ("from", .str e.sender), ("to", .str e.recipient),
     ("message", e.message.toJson)]

end Envelope

namespace RemoteError

structure Draft where
  kind? : Option RemoteErrorKind
  message? : Option String

def kindDecoder : Decoder RemoteErrorKind :=
  .choice ([.timeout, .unhandled, .handlerFailure].map fun k => (k.name, k))

def decoder : Decoder RemoteError :=
  .record "RemoteError"
    [field "kind" false Draft.kind? (fun v r => { r with kind? := some v }) kindDecoder,
     field "message" false Draft.message? (fun v r => { r with message? := some v }) .text]
    ⟨none, none⟩
    fun r => do return ⟨← required "kind" r.kind?, ← required "message" r.message?⟩

end RemoteError

/-- The error that an error reply carries; nothing for any other message. -/
def Message.remoteError? (m : Message) : Option (Except Json.DecodeError RemoteError) :=
  if m.isError then some (RemoteError.decoder.ofValue m.payload) else none

end MessageRelay
