import MessageRelay.Config.Runtime

/-!
Starting the node: what is checked, in which order, and the report when something is refused.
-/
namespace MessageRelay

/-- Why the node does not start: what was tried, and the errors behind it, the outermost first. -/
structure StartupFailure where
  context : String
  causes : List String
  deriving DecidableEq, Repr

namespace StartupFailure

def indented (indent : String) (s : String) : String :=
  String.ofList (s.toList.flatMap fun c => if c = '\n' then '\n' :: indent.toList else [c])

def numbered : Nat → List String → List String
  | _, [] => []
  | n, cause :: rest =>
    let number := toString n
    let pad := String.ofList (List.replicate (5 - number.length) ' ')
    (pad ++ number ++ ": " ++ indented "       " cause) :: numbered (n + 1) rest

/-- What is written for the failure. A single cause has no number. -/
def report (f : StartupFailure) : String :=
  let causes := match f.causes with
    | [cause] => ["    " ++ indented "    " cause]
    | causes => numbered 0 causes
  let body := if causes.isEmpty then "" else "\n\nCaused by:\n" ++ "\n".intercalate causes
  "Error: " ++ f.context ++ body ++ "\n"

def exitCode : Nat := 1

end StartupFailure

def ConfigError.causes (e : ConfigError) : List String := e.message :: e.cause?.toList

def checkStartup (env : Environment) (files : String → Except ReadError String) :
    Except StartupFailure (TelemetryConfig × RuntimeConfig) := do
  let telemetry := TelemetryConfig.ofEnvironment env
  match telemetry.initLogging false with
  | .error e => throw ⟨"Failed to initialize telemetry", [e.message]⟩
  | .ok () => pure ()
  match RuntimeConfig.load env files with
  | .error e => throw ⟨"Failed to load runtime configuration", e.causes⟩
  | .ok c =>
    match c.validate with
    | .error e => throw ⟨"Invalid runtime configuration", e.causes⟩
    | .ok () => pure (telemetry, c)

end MessageRelay
