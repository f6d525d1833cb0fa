import MessageRelay.Node.Container
import MessageRelay.Startup

/-!
The command line: the node starts with the settings of its environment, or tells why it does not.
-/
namespace MessageRelay

def environmentKeys : List String :=
  ["SR_SERVICE_NAME", "SR_LOG_LEVEL", "RUST_LOG", "SR_CONSOLE_OUTPUT", "SR_JSON_LOGS",
   "KUBERNETES_SERVICE_HOST", "DOCKER_CONTAINER", "SR_METRICS", RuntimeConfig.fileVariable,
   "SR_DEFAULT_TIMEOUT_MS", "SR_INBOUND_CAPACITY", "SR_SCRIPT_TIMER_MS", "SR_DEMO_REQUEST"]

def readEnvironment : IO Environment := do
  let values ← environmentKeys.mapM fun key => return (key, ← IO.getEnv key)
  return fun key => (values.find? (·.1 = key)).bind (·.2)

def readFile (path : String) : IO (Except ReadError String) := do
  try
    match String.fromUTF8? (← IO.FS.readBinFile path) with
    | some text => return .ok text
    | none => return .error .notText
  catch _ => return .error .notFound

partial def serve (c : Container) : IO Unit := do
  IO.sleep 10
  serve (c.elapse (Container.milliseconds 10))

end MessageRelay

open MessageRelay in
def main : IO UInt32 := do
  let env ← readEnvironment
  let content ← match env RuntimeConfig.fileVariable with
    | some path => readFile path
    | none => pure (.error .notFound)
  match checkStartup env fun _ => content with
  | .error failure =>
    (← IO.getStderr).putStr failure.report
    return (UInt32.ofNat StartupFailure.exitCode)
  | .ok (telemetry, config) =>
    match Container.start config telemetry.metricsEnabled with
    | .error e =>
      (← IO.getStderr).putStr (StartupFailure.report ⟨"Failed to start services", [e.message]⟩)
      return (UInt32.ofNat StartupFailure.exitCode)
    | .ok c =>
      serve (if config.demoRequest then c.sendDemoRequest config else c)
      return 0
