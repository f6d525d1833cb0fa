import MessageRelay.Json.Decoder
import MessageRelay.Message

/-!
The login protocol: a request with a value, and a response with one.
-/
namespace MessageRelay

open Json (Decoder)
open Json.Decoder (field required)

structure LoginPayload where
  value : String
  deriving DecidableEq, Repr

namespace LoginPayload

structure Draft where
  value? : Option String

def decoder : Decoder LoginPayload :=
  .record "LoginPayload"
    [field "value" false Draft.value? (fun v r => { r with value? := some v }) .text]
    ⟨none⟩
    fun r => return ⟨← required "value" r.value?⟩

def toJson (p : LoginPayload) : Json := .ofMembers [("value", .str p.value)]

end LoginPayload

def loginNamespace : String := "million.ss.test"

def loginRequestType : String := "million.ss.test.LoginReq"

def loginResponseType : String := "million.ss.test.LoginRes"

end MessageRelay
