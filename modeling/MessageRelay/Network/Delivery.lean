import MessageRelay.Network.Moves

/-!
A send in its parts. The lane of the recipient is looked up, the envelope is offered to the lane that
was found, and the name is forgotten if that lane turns out to be dead. Others use the network between
the parts, and may attach the name again; so the name is forgotten only while it still has the lane
that was found.
-/
namespace MessageRelay.Network

def offer (e : Envelope) (lane : LaneId) (n : Network) : Except TransportError Unit × Network :=
  let l := n.lane lane
  if !l.held then
    (.error (.disconnected e.recipient), { n with undelivered := n.undelivered + 1 })
  else if n.limit ≤ l.waiting.length then
    (.error (.queueFull e.recipient), { n with undelivered := n.undelivered + 1 })
  else
    (.ok (), { n with delivered := n.delivered + 1 }.modify
      (fun l => { l with waiting := l.waiting ++ [e] }) lane)

/-- Forgets a peer if this is still its lane. -/
def evict (peer : PeerName) (lane : LaneId) (n : Network) : Network :=
  if n.lane? peer = some lane then n.forget peer else n

/-- A send during which others do `first` once the lane is found, and `second` once it is known to be
dead. -/
def deliver (e : Envelope) (first second : List NetworkMove) (n : Network) :
    Except TransportError Unit × Network :=
  match n.lane? e.recipient with
  | none => (.error (.unknownPeer e.recipient), { n with undelivered := n.undelivered + 1 })
  | some lane =>
    match (n.run first).offer e lane with
    | (.error (.disconnected peer), n) =>
      (.error (.disconnected peer), (n.run second).evict peer lane)
    | (result, n) => (result, n)

end MessageRelay.Network
