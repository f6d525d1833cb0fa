import MessageRelay.Dispatch.Machine
import MessageRelay.Network.Moves
import MessageRelay.Timer.Driver

/-!
The loop of a dispatcher, with all that goes on around it. The loop takes what comes on its lane, one
envelope at a time, and drives the timers; which of the two it does next is chosen from outside, and
so is what handlers, callers and other peers do in between. When the lane is closed and empty the loop
shuts the dispatcher down, and ends.
-/
namespace MessageRelay

inductive LoopPhase where
  | running
  | closing
  | ended (stats : DispatchStats)
  deriving DecidableEq

structure DispatchLoop (η β : Type) where
  machine : DispatchMachine η β
  lane : LaneId
  driver : Driver := .free .looking
  phase : LoopPhase := .running

inductive LoopMove (β : Type) where
  | others (move : NetworkMove)
  | act (move : DispatchMove β)
  | take
  | drive (turn : DriverTurn)
  | finish

inductive LoopAnswer (η : Type) where
  | used (answer : NetworkAnswer)
  | acted (answer : DispatchAnswer η)
  | took (taken : Site.Taken η)
  | driven
  | ended (stats : DispatchStats)
  | refused

namespace DispatchLoop

variable {η β : Type}

def start (m : DispatchMachine η β) (peer : PeerName) : DispatchLoop η β :=
  let (lane, network) := m.site.network.attach peer
  { machine := { m with site.network := network }, lane := lane }

def name (l : DispatchLoop η β) : PeerName := l.machine.site.dispatcher.name

def table (l : DispatchLoop η β) : CallTable β := l.machine.site.dispatcher.table

def network (l : DispatchLoop η β) : Network := l.machine.site.network

def on (network : Network) (l : DispatchLoop η β) : DispatchLoop η β :=
  { l with machine.site.network := network }

def move (move : DispatchMove β) (l : DispatchLoop η β) : DispatchAnswer η × DispatchLoop η β :=
  let (answer, machine) := l.machine.step move
  (answer, { l with machine := machine, driver := l.driver.settle machine.stack.length })

/-- The lane is the loop's own: nobody else receives from it or gives it up. -/
def leaves (l : DispatchLoop η β) : NetworkMove → Bool
  | .receive lane | .dropLane lane => decide (lane ≠ l.lane)
  | _ => true

/-- The loop can go on: it is in no pass of its own, and no pass is about to go on. -/
def isReady (l : DispatchLoop η β) : Bool :=
  l.phase = .running && !l.machine.passing && !l.driver.isFiring

def take (l : DispatchLoop η β) : LoopAnswer η × DispatchLoop η β :=
  let (taken, site) := l.machine.site.take l.machine.now l.lane
  let l := { l with machine.site := site }
  (.took taken, match taken with
    | .routed _ outcome => { l with machine := l.machine.start outcome }
    | .closed => { (l.move .shutdown).2 with phase := .closing }
    | _ => l)

def drive (turn : DriverTurn) (l : DispatchLoop η β) : LoopAnswer η × DispatchLoop η β :=
  match l.driver.turn l.machine.now l.machine.stack.length l.table.timers turn with
  | none => (.refused, l)
  | some (driver, timers) =>
    let machine := { l.machine with site.dispatcher.table.timers := timers }
    let machine := if turn = .wake then (machine.step (.enter machine.now)).2 else machine
    (.driven, { l with machine := machine, driver := driver })

def step (l : DispatchLoop η β) : LoopMove β → LoopAnswer η × DispatchLoop η β
  | .others move =>
    if l.leaves move then
      let (answer, network) := l.network.step move
      (.used answer, l.on network)
    else (.refused, l)
  | .act (.network _) => (.refused, l)
  | .act move => let (answer, l) := l.move move; (.acted answer, l)
  | .take => if l.isReady then l.take else (.refused, l)
  | .drive turn => if l.isReady then l.drive turn else (.refused, l)
  | .finish =>
    if l.phase = .closing && !l.machine.passing then
      let stats := l.machine.site.dispatcher.stats
      (.ended stats, { l.on (l.network.dropLane l.lane) with phase := .ended stats })
    else (.refused, l)

def run (l : DispatchLoop η β) (moves : List (LoopMove β)) : DispatchLoop η β :=
  moves.foldl (fun l move => (l.step move).2) l

def routedBy : LoopAnswer η → List Envelope
  | .took (.routed e _) => [e]
  | _ => []

/-- What the loop routes in a run, in order. -/
def routed : DispatchLoop η β → List (LoopMove β) → List Envelope
  | _, [] => []
  | l, move :: moves => routedBy (l.step move).1 ++ (l.step move).2.routed moves

end DispatchLoop

end MessageRelay
