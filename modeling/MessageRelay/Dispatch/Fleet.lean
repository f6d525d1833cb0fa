import MessageRelay.Dispatch.Machine

/-!
Any number of dispatchers on one network, each with the code around it. What one sends another takes
from a lane, whenever it comes to that; peers may be attached again, and lanes given up. Each move
is chosen from outside, so the runs are those of all dispatchers, handlers and callers in every
order.
-/
namespace MessageRelay

/-- A dispatcher with the code around it. -/
structure Station (η β : Type) where
  machine : DispatchMachine η β
  received : List Envelope := []

structure Fleet (η β : Type) where
  network : Network := {}
  stations : List (Station η β) := []

inductive FleetMove (η β : Type) where
  | attach (peer : PeerName)
  | detach (peer : PeerName)
  | dropLane (lane : LaneId)
  | join (name : PeerName) (registry : Registry η) (defaultTimeout : Nanos)
  | receive (station : Nat) (lane : LaneId)
  | act (station : Nat) (move : DispatchMove β)

inductive FleetAnswer (η : Type) where
  | done
  | attached (lane : LaneId)
  | flag (value : Bool)
  | acted (answer : DispatchAnswer η)
  | misrouted
  | nothing
  | refused

namespace Station

variable {η β : Type}

def name (s : Station η β) : PeerName := s.machine.site.dispatcher.name

def on (network : Network) (s : Station η β) : DispatchMachine η β :=
  { s.machine with site.network := network }

def move (move : DispatchMove β) (network : Network) (s : Station η β) :
    DispatchAnswer η × Station η β :=
  let (answer, machine) := (s.on network).step move
  (answer, { s with machine := machine })

def take (e : Envelope) (network : Network) (s : Station η β) : DispatchAnswer η × Station η β :=
  { s with received := e :: s.received }.move (.inbound e.sender e.message) network

end Station

namespace Fleet

variable {η β : Type}

def start (capacity : Nat) : Fleet η β := { network := { capacity } }

def put (number : Nat) (s : Station η β) (f : Fleet η β) : Fleet η β where
  network := s.machine.site.network
  stations := f.stations.set number s

def step (f : Fleet η β) : FleetMove η β → FleetAnswer η × Fleet η β
  | .attach peer =>
    let (lane, network) := f.network.attach peer
    (.attached lane, { f with network := network })
  | .detach peer =>
    let (attached, network) := f.network.detach peer
    (.flag attached, { f with network := network })
  | .dropLane lane => (.done, { f with network := f.network.dropLane lane })
  | .join name registry defaultTimeout =>
    let machine := DispatchMachine.fresh name registry defaultTimeout f.network
    (.done, { f with stations := f.stations ++ [{ machine }] })
  | .receive number lane =>
    match f.stations[number]? with
    | none => (.refused, f)
    | some s =>
      if s.machine.passing then (.refused, f)
      else
        match f.network.receive lane with
        | (.envelope e, network) =>
          if e.recipient = s.name then
            let (answer, s) := s.take e network
            (.acted answer, f.put number s)
          else (.misrouted, { f with network := network })
        | (_, network) => (.nothing, { f with network := network })
  | .act number move =>
    match f.stations[number]?, move with
    | none, _ | some _, .network _ | some _, .inbound .. => (.refused, f)
    | some s, move =>
      let (answer, s) := s.move move f.network
      (.acted answer, f.put number s)

def run (f : Fleet η β) (moves : List (FleetMove η β)) : Fleet η β :=
  moves.foldl (fun f move => (f.step move).2) f

end Fleet

end MessageRelay
