import MessageRelay.Network

/-!
A network in use. Peers are attached, attached again and taken off; envelopes are sent to names, and
received from lanes by whoever holds them. Each move is chosen from outside, so the runs are those of
all senders and receivers in every order. What went into a lane and what came out of it is read off a
run.
-/
namespace MessageRelay

inductive NetworkMove where
  | attach (peer : PeerName)
  | detach (peer : PeerName)
  | dropLane (lane : LaneId)
  | send (e : Envelope)
  | receive (lane : LaneId)

inductive NetworkAnswer where
  | attached (lane : LaneId)
  | detached (was : Bool)
  | dropped
  | sent (result : Except TransportError Unit)
  | received (result : Network.Received)
  | refused

def NetworkMove.isSend : NetworkMove → Bool
  | .send _ => true
  | _ => false

def NetworkAnswer.isTaken : NetworkAnswer → Bool
  | .sent (.ok ()) => true
  | _ => false

namespace Network

def start (capacity : Nat) : Network := { capacity }

def isHeld (n : Network) (lane : LaneId) : Bool :=
  decide (lane < n.lanes.size) && (n.lane lane).held

def step (n : Network) : NetworkMove → NetworkAnswer × Network
  | .attach peer => let (lane, n) := n.attach peer; (.attached lane, n)
  | .detach peer => let (was, n) := n.detach peer; (.detached was, n)
  | .dropLane lane => if n.isHeld lane then (.dropped, n.dropLane lane) else (.refused, n)
  | .send e => let (result, n) := n.send e; (.sent result, n)
  | .receive lane =>
    if n.isHeld lane then
      let (result, n) := n.receive lane
      (.received result, n)
    else (.refused, n)

def run (n : Network) (moves : List NetworkMove) : Network :=
  moves.foldl (fun n move => (n.step move).2) n

/-- What a move adds to the lane of a peer: an envelope for the peer that was taken while this was
its lane. -/
def acceptedBy (peer : PeerName) (lane : LaneId) (n : Network) (move : NetworkMove) :
    List Envelope :=
  match move, (n.step move).1 with
  | .send e, .sent (.ok ()) =>
    if e.recipient = peer ∧ n.lane? peer = some lane then [e] else []
  | _, _ => []

def receivedBy (lane : LaneId) (n : Network) (move : NetworkMove) : List Envelope :=
  match move, (n.step move).1 with
  | .receive from', .received (.envelope e) => if from' = lane then [e] else []
  | _, _ => []

def accepted (peer : PeerName) (lane : LaneId) : Network → List NetworkMove → List Envelope
  | _, [] => []
  | n, move :: moves => n.acceptedBy peer lane move ++ (n.step move).2.accepted peer lane moves

def received (lane : LaneId) : Network → List NetworkMove → List Envelope
  | _, [] => []
  | n, move :: moves => n.receivedBy lane move ++ (n.step move).2.received lane moves

def takings : Network → List NetworkMove → Nat
  | _, [] => 0
  | n, move :: moves => (n.step move).1.isTaken.toNat + (n.step move).2.takings moves

end Network

end MessageRelay
