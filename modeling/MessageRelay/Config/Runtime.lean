import MessageRelay.Config.Telemetry
import MessageRelay.Json.Decoder

/-!
Settings of the services. Each comes from an environment variable, else from a JSON file that a
variable names, else it has its default.
-/
namespace MessageRelay

open Json (Decoder)
open Json.Decoder (field)

structure ServiceNames where
  test : String := "TestService"
  script : String := "ScriptService"
  console : String := "Console"
  deriving DecidableEq, Repr

/-- Times are in milliseconds; `inboundCapacity` is how many envelopes wait for a peer at most. -/
structure RuntimeConfig where
  defaultTimeout : Nat := 10000
  inboundCapacity : Nat := 1024
  services : ServiceNames := {}
  scriptTimer : Nat := 2000
  demoRequest : Bool := true
  deriving DecidableEq, Repr

inductive ReadError where
  | notFound
  | notText
  deriving DecidableEq, Repr

def ReadError.message : ReadError → String
  | .notFound => "No such file or directory (os error 2)"
  | .notText => "stream did not contain valid UTF-8"

inductive ConfigError where
  | read (path : String) (cause : ReadError)
  | parse (path : String) (cause : Json.DecodeError)
  | invalidOverride (key value : String)
  | invalid (reason : String)

def ConfigError.message : ConfigError → String
  | .read path cause => s!"failed to read config file {path}: {cause.message}"
  | .parse path cause => s!"failed to parse config file {path}: {cause.message}"
  | .invalidOverride key value => s!"invalid value {Text.quoted value} for {key}"
  | .invalid reason => s!"invalid configuration: {reason}"

def ConfigError.cause? : ConfigError → Option String
  | .read _ cause => some cause.message
  | .parse _ cause => some cause.message
  | _ => none

namespace ServiceNames

structure Draft where
  test? : Option String
  script? : Option String
  console? : Option String

def decoder : Decoder ServiceNames :=
  .record "ServiceNames"
    [field "test" true Draft.test? (fun v r => { r with test? := some v }) .text,
     field "script" true Draft.script? (fun v r => { r with script? := some v }) .text,
     field "console" true Draft.console? (fun v r => { r with console? := some v }) .text]
    ⟨none, none, none⟩
    fun r =>
      let default : ServiceNames := {}
      .ok ⟨r.test?.getD default.test, r.script?.getD default.script,
        r.console?.getD default.console⟩

def toJson (s : ServiceNames) : Json :=
  .ofMembers [("test", .str s.test), ("script", .str s.script), ("console", .str s.console)]

end ServiceNames

namespace RuntimeConfig

structure Draft where
  defaultTimeout? : Option Nat
  inboundCapacity? : Option Nat
  services? : Option ServiceNames
  scriptTimer? : Option Nat
  demoRequest? : Option Bool

def decoder : Decoder RuntimeConfig :=
  .record "RuntimeConfig"
    [field "default_timeout_ms" true Draft.defaultTimeout?
       (fun v r => { r with defaultTimeout? := some v }) (.natural 64 "u64"),
     field "inbound_capacity" true Draft.inboundCapacity?
       (fun v r => { r with inboundCapacity? := some v }) (.natural 64 "usize"),
     field "services" true Draft.services? (fun v r => { r with services? := some v })
       ServiceNames.decoder,
     field "script_timer_ms" true Draft.scriptTimer? (fun v r => { r with scriptTimer? := some v })
       (.natural 64 "u64"),
     field "demo_request" true Draft.demoRequest? (fun v r => { r with demoRequest? := some v })
       .boolean]
    ⟨none, none, none, none, none⟩
    fun r =>
      let default : RuntimeConfig := {}
      .ok ⟨r.defaultTimeout?.getD default.defaultTimeout,
        r.inboundCapacity?.getD default.inboundCapacity, r.services?.getD default.services,
        r.scriptTimer?.getD default.scriptTimer, r.demoRequest?.getD default.demoRequest⟩

def toJson (c : RuntimeConfig) : Json :=
  .ofMembers
    [("default_timeout_ms", .ofNat c.defaultTimeout), ("inbound_capacity", .ofNat c.inboundCapacity),
     ("services", c.services.toJson), ("script_timer_ms", .ofNat c.scriptTimer),
     ("demo_request", .bool c.demoRequest)]

def boolean? (s : String) : Option Bool :=
  if s = "true" then some true else if s = "false" then some false else none

/-- The value of a variable, without the blanks around it; `current` where it is not set. -/
def override {α : Type} (env : Environment) (key : String) (parse? : String → Option α)
    (current : α) : Except ConfigError α :=
  match env key with
  | none => .ok current
  | some value =>
    match parse? (Text.trim value) with
    | some a => .ok a
    | none => .error (.invalidOverride key value)

def withOverrides (env : Environment) (c : RuntimeConfig) : Except ConfigError RuntimeConfig := do
  let timeout ← override env "SR_DEFAULT_TIMEOUT_MS" (Text.unsigned? 64) c.defaultTimeout
  let capacity ← override env "SR_INBOUND_CAPACITY" (Text.unsigned? 64) c.inboundCapacity
  let timer ← override env "SR_SCRIPT_TIMER_MS" (Text.unsigned? 64) c.scriptTimer
  let demo ← override env "SR_DEMO_REQUEST" boolean? c.demoRequest
  pure { c with defaultTimeout := timeout, inboundCapacity := capacity, scriptTimer := timer,
                demoRequest := demo }

def ofFile (path : String) (content : Except ReadError String) : Except ConfigError RuntimeConfig :=
  match content with
  | .error cause => .error (.read path cause)
  | .ok text =>
    match decoder.ofText text with
    | .ok c => .ok c
    | .error cause => .error (.parse path cause)

def fileVariable : String := "SR_CONFIG_FILE"

def load (env : Environment) (files : String → Except ReadError String) :
    Except ConfigError RuntimeConfig := do
  let base ← match env fileVariable with
    | some path => ofFile path (files path)
    | none => pure {}
  base.withOverrides env

def repeated? : List String → Option String
  | [] => none
  | name :: rest => if rest.contains name then some name else repeated? rest

def serviceNames (c : RuntimeConfig) : List String :=
  [c.services.test, c.services.script, c.services.console]

/-- Refuses settings that the services cannot start with. -/
def validate (c : RuntimeConfig) : Except ConfigError Unit :=
  if c.defaultTimeout = 0 then .error (.invalid "default_timeout_ms must be greater than zero")
  else if c.inboundCapacity = 0 then .error (.invalid "inbound_capacity must be greater than zero")
  else if c.serviceNames.any fun name => (Text.trim name).isEmpty then
    .error (.invalid "service names must not be empty")
  else
    match repeated? c.serviceNames with
    | some name => .error (.invalid s!"service name {name} is used twice")
    | none => .ok ()

end RuntimeConfig

end MessageRelay
