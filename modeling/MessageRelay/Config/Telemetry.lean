import MessageRelay.Config.LogFilter

/-!
Settings of logging and metrics, from environment variables.
-/
namespace MessageRelay

abbrev Environment := String → Option String

structure TelemetryConfig where
  serviceName : String := "session-relay"
  logLevel : String := "info"
  consoleOutput : Bool := true
  jsonLogs : Bool := false
  metricsEnabled : Bool := true
  deriving DecidableEq, Repr

inductive TelemetryError where
  | loggingInit (reason : String)
  | config (reason : String)
  deriving DecidableEq, Repr

def TelemetryError.message : TelemetryError → String
  | .loggingInit reason => s!"Failed to initialize logging: {reason}"
  | .config reason => s!"Invalid configuration: {reason}"

namespace TelemetryConfig

def flag (default : Bool) (word : String) : Bool :=
  let word := String.ofList (word.toList.map Char.toLower)
  if ["true", "1", "yes", "on"].contains word then true
  else if ["false", "0", "no", "off"].contains word then false
  else default

/-- Log lines are JSON in a container unless a variable says otherwise. -/
def ofEnvironment (env : Environment) : TelemetryConfig where
  serviceName := (env "SR_SERVICE_NAME").getD "session-relay"
  logLevel := ((env "SR_LOG_LEVEL").or (env "RUST_LOG")).getD "info"
  consoleOutput := ((env "SR_CONSOLE_OUTPUT").map (flag true)).getD true
  jsonLogs := ((env "SR_JSON_LOGS").map (flag false)).getD
    ((env "KUBERNETES_SERVICE_HOST").isSome || (env "DOCKER_CONTAINER").isSome)
  metricsEnabled := ((env "SR_METRICS").map (flag true)).getD true

/-- Installs the logger. A process has one at most, so where `installed` says that there is one
already, a sound filter does not help. -/
def initLogging (installed : Bool) (c : TelemetryConfig) : Except TelemetryError Unit :=
  match LogFilter.check c.logLevel with
  | .error e => .error (.config s!"invalid log filter: {e.message}")
  | .ok () =>
    if installed then
      .error (.loggingInit "a global default trace dispatcher has already been set")
    else .ok ()

end TelemetryConfig

end MessageRelay
