import MessageRelay.Config.Runtime
import MessageRelay.Handler.LoginService
import MessageRelay.Relay.Session

/-!
The node: a test service, a script service and a console on one network, the console for calls of
the node itself. The services are started in this order, and told in it when they have stopped.
-/
namespace MessageRelay

structure Container where
  relay : Relay
  services : List (PeerName × HostId)
  console : HostId
  stopped : Bool := false

inductive StartError where
  | registry (e : RegistryError)
  | capacity (wanted : Nat)
  deriving DecidableEq, Repr

def StartError.message : StartError → String
  | .registry e => s!"handler registration failed: {e.message}"
  | .capacity _ =>
    s!"a semaphore may not have more than MAX_PERMITS permits ({Network.maxCapacity})"

namespace Container

def ofRegistry (r : Except RegistryError (Registry Handler)) :
    Except StartError (Registry Handler) :=
  r.mapError .registry

def milliseconds (n : Nat) : Nanos := n * 1000000

def testRegistry : Except RegistryError (Registry Handler) :=
  Registry.empty.register loginNamespace LoginService.test

def scriptRegistry (testService : PeerName) : Except RegistryError (Registry Handler) :=
  Registry.empty.register "" (LoginService.script testService)

def startupReminder : Reminder := ⟨{ name := "startup" }, []⟩

def addService (c : RuntimeConfig) (collected : Bool) (name : PeerName)
    (registry : Registry Handler) (r : Relay) : HostId × Relay :=
  r.addHost name name registry (milliseconds c.defaultTimeout) collected .own

/-- All services, attached in order, and the timer of the script service. No loop has had a turn. -/
def arrange (c : RuntimeConfig) (collected : Bool) (test script : Registry Handler) : Container :=
  let network : Network := { capacity := c.inboundCapacity }
  let (testHost, relay) := addService c collected c.services.test test { network }
  let (scriptHost, relay) := addService c collected c.services.script script relay
  let relay := (relay.remind scriptHost (milliseconds c.scriptTimer) startupReminder).2
  let (console, relay) := addService c collected c.services.console Registry.empty relay
  { relay, console
    services := [(c.services.test, testHost), (c.services.script, scriptHost),
      (c.services.console, console)] }

def assemble (c : RuntimeConfig) (collected : Bool) : Except StartError Container := do
  if Network.maxCapacity < c.inboundCapacity then throw (.capacity c.inboundCapacity)
  let test ← ofRegistry testRegistry
  let script ← ofRegistry (scriptRegistry c.services.test)
  return arrange c collected test script

/-- The services, once their loops have had the first turns. -/
def start (c : RuntimeConfig) (collected : Bool) : Except StartError Container :=
  (assemble c collected).map fun k => { k with relay := k.relay.settle }

def find? (c : Container) (name : PeerName) : Option HostId :=
  (c.services.find? (·.1 = name)).map (·.2)

def stats? (c : Container) (name : PeerName) : Option DispatchStats :=
  (c.find? name).map fun h => (c.relay.host h).dispatcher.stats

def sendDemoRequest (c : RuntimeConfig) (k : Container) : Container :=
  { k with relay :=
      (k.relay.startCall k.console "demo" c.services.script loginRequestType
        (LoginPayload.toJson ⟨"demo"⟩) none).settle }

def elapse (duration : Nanos) (c : Container) : Container :=
  { c with relay := c.relay.turnPage.elapse duration }

def shutdown (c : Container) : List (PeerName × DispatchStats) × Container :=
  let relay := (c.services.foldl (fun r s => (r.detach s.1).2) c.relay).settle
  (c.services.filterMap fun (name, h) => ((relay.host h).final?).map fun stats => (name, stats),
    { c with relay := relay, stopped := true })

end Container

end MessageRelay
