import MessageRelay.Failure

/-!
The network carries envelopes between peers of one process. Each attachment of a peer has a lane of
its own, a bounded queue, first in first out. Sending never waits. A name that is attached again gets
a new lane; the old one gains nothing more and ends when what it holds has been received.
-/
namespace MessageRelay

/-- Names one attachment. -/
abbrev LaneId := Nat

/-- The network adds to a lane that is attached; somebody can receive from one that is held. -/
structure Lane where
  waiting : List Envelope := []
  attached : Bool := true
  held : Bool := true
  deriving Inhabited

structure Network where
  capacity : Nat := 1000
  lanes : Array Lane := #[]
  peers : List (PeerName × LaneId) := []
  delivered : Nat := 0
  undelivered : Nat := 0

namespace Network

/-- The largest capacity for which lanes can be made. -/
def maxCapacity : Nat := (UInt64.size - 1) / 8

def limit (n : Network) : Nat := max n.capacity 1

def lane? (n : Network) (peer : PeerName) : Option LaneId :=
  (n.peers.find? (·.1 = peer)).map (·.2)

def isAttached (n : Network) (peer : PeerName) : Bool := (n.lane? peer).isSome

def lane (n : Network) (id : LaneId) : Lane := n.lanes.getD id {}

def modify (f : Lane → Lane) (id : LaneId) (n : Network) : Network :=
  { n with lanes := n.lanes.modify id f }

def forget (peer : PeerName) (n : Network) : Network :=
  { n with peers := n.peers.filter (·.1 ≠ peer) }

def detach (peer : PeerName) (n : Network) : Bool × Network :=
  match n.lane? peer with
  | none => (false, n)
  | some id => (true, (n.modify (fun l => { l with attached := false }) id).forget peer)

def attach (peer : PeerName) (n : Network) : LaneId × Network :=
  let n := (n.detach peer).2
  let id := n.lanes.size
  (id, { n with lanes := n.lanes.push {}, peers := n.peers ++ [(peer, id)] })

def peerNames (n : Network) : List PeerName :=
  (n.peers.map (·.1)).mergeSort fun a b => decide (a ≤ b)

def refusal? (n : Network) (peer : PeerName) : Option TransportError :=
  match n.lane? peer with
  | none => some (.unknownPeer peer)
  | some id =>
    let l := n.lane id
    if !l.held then some (.disconnected peer)
    else if n.limit ≤ l.waiting.length then some (.queueFull peer)
    else none

/-- Sends an envelope. A lane that nobody receives from is forgotten. -/
def send (e : Envelope) (n : Network) : Except TransportError Unit × Network :=
  match n.refusal? e.recipient with
  | some error =>
    let n := { n with undelivered := n.undelivered + 1 }
    (.error error, match error with
      | .disconnected peer => n.forget peer
      | _ => n)
  | none =>
    let n := { n with delivered := n.delivered + 1 }
    (.ok (), match n.lane? e.recipient with
      | some id => n.modify (fun l => { l with waiting := l.waiting ++ [e] }) id
      | none => n)

inductive Received where
  | envelope (e : Envelope)
  | nothing
  | closed

def receive (id : LaneId) (n : Network) : Received × Network :=
  let l := n.lane id
  match l.waiting with
  | e :: rest => (.envelope e, n.modify (fun l => { l with waiting := rest }) id)
  | [] => (if l.attached then .nothing else .closed, n)

def dropLane (id : LaneId) (n : Network) : Network :=
  n.modify (fun l => { l with waiting := [], held := false }) id

def dissolve (n : Network) : Network :=
  { n with lanes := n.lanes.map fun l => { l with attached := false }, peers := [] }

def closedMessage : String := "inbound queue closed"

end Network

end MessageRelay
