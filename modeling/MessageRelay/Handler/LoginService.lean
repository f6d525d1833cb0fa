import MessageRelay.Dispatch.Program
import MessageRelay.Login

/-!
The services of the node. The test service answers logins; the script service calls the test service
and answers after it, whatever it is asked.
-/
namespace MessageRelay.LoginService

def decode (context : String) (payload : Json) : Except Outcome LoginPayload :=
  match LoginPayload.decoder.ofValue payload with
  | .ok p => .ok p
  | .error e => .error (.failed ⟨[context], .text e.message⟩)

def respond (value : String) : Outcome :=
  .reply ⟨loginResponseType, LoginPayload.toJson ⟨value⟩⟩

def malformedRequest : String := "malformed LoginReq payload"

def malformedResponse : String := "malformed LoginRes payload"

def testOutcome (invocation : Invocation) : Outcome :=
  if invocation.typeName = loginRequestType then
    match decode malformedRequest invocation.payload with
    | .ok _ => respond "LoginRes res"
    | .error o => o
  else if invocation.typeName = loginResponseType then
    match decode malformedResponse invocation.payload with
    | .ok _ => .silent
    | .error o => o
  else .failed ⟨[], .text s!"TestService does not handle {invocation.typeName}"⟩

def test : Handler := fun invocation => return testOutcome invocation

def script (testService : PeerName) : Handler := fun _ => do
  match ← Program.call testService loginRequestType (LoginPayload.toJson ⟨"test req"⟩) none with
  | .error e => return .failed ⟨[s!"LoginReq to {testService} failed"], .call e⟩
  | .ok r =>
    match decode malformedResponse r.payload with
    | .ok _ => return respond "test res"
    | .error o => return o

end MessageRelay.LoginService
