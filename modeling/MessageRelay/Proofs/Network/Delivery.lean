import MessageRelay.Network.Delivery
import MessageRelay.Proofs.Network.Queues

/-!
What a send tells its sender, and what it leaves behind. The answer is read off the lane that the name
has at that moment: that there is none, that it was given up, that it is full, or that the envelope is
now its last. A name is forgotten only with a dead lane, also where others use the network while the
envelope is on its way, and attach the name again.
-/
namespace MessageRelay.Network

variable {n : Network} {peer : PeerName} {lane : LaneId}

/-- A name stands once in the table and has a lane that is there; no lane has more than it has room
for. -/
structure Orderly (n : Network) : Prop where
  bounded : n.Bounded
  unique : (n.peers.map (·.1)).Nodup
  room : ∀ l ∈ n.lanes, l.waiting.length ≤ n.limit

theorem unique_forget (unique : (n.peers.map (·.1)).Nodup) (peer : PeerName) :
    ((n.forget peer).peers.map (·.1)).Nodup :=
  unique.sublist (List.filter_sublist.map _)

theorem unique_detach (unique : (n.peers.map (·.1)).Nodup) (peer : PeerName) :
    ((n.detach peer).2.peers.map (·.1)).Nodup := by
  unfold detach
  split
  · exact unique
  · exact unique_forget (n := n.modify _ _) unique peer

theorem unique_attach (unique : (n.peers.map (·.1)).Nodup) (peer : PeerName) :
    ((n.attach peer).2.peers.map (·.1)).Nodup := by
  have absent : peer ∉ (n.detach peer).2.peers.map (fun entry => entry.1) :=
    lane?_eq_none_iff.mp ((lane?_detach peer peer n).trans (if_pos rfl))
  change (((n.detach peer).2.peers ++ [(peer, (n.detach peer).2.lanes.size)]).map (·.1)).Nodup
  rw [List.map_append, List.nodup_append]
  refine ⟨unique_detach unique peer, List.nodup_singleton _, ?_⟩
  rintro p there q added rfl
  obtain rfl : p = peer := by simpa using added
  exact absent there

theorem room_modify (room : ∀ l ∈ n.lanes, l.waiting.length ≤ n.limit) {f : Lane → Lane}
    (fits : ∀ l, n.lanes[lane]? = some l → (f l).waiting.length ≤ n.limit) :
    ∀ l ∈ (n.modify f lane).lanes, l.waiting.length ≤ n.limit := by
  intro l member
  obtain ⟨k, there, rfl⟩ := Array.mem_iff_getElem.mp member
  have inside : k < n.lanes.size := Nat.lt_of_lt_of_eq there Array.size_modify
  simp only [modify, Array.getElem_modify]
  split
  · rename_i same
    exact fits _ (same ▸ Array.getElem?_eq_getElem inside)
  · exact room _ (Array.getElem_mem inside)

theorem room_detach (room : ∀ l ∈ n.lanes, l.waiting.length ≤ n.limit) (peer : PeerName) :
    ∀ l ∈ (n.detach peer).2.lanes, l.waiting.length ≤ n.limit := by
  unfold detach
  split
  · exact room
  · rename_i k _
    exact room_modify room (f := fun l => { l with attached := false }) fun l at? =>
      room l (Array.mem_of_getElem? at?)

theorem lane_eq_of_getElem? {l : Lane} (at? : n.lanes[lane]? = some l) : n.lane lane = l := by
  rw [Network.lane, Array.getD_eq_getD_getElem?, at?]
  rfl

theorem room_step (room : ∀ l ∈ n.lanes, l.waiting.length ≤ n.limit) (move : NetworkMove) :
    ∀ l ∈ (n.step move).2.lanes, l.waiting.length ≤ n.limit := by
  cases move with
  | attach p =>
    intro l member
    have member : l ∈ (n.detach p).2.lanes.push {} := member
    rcases Array.mem_push.mp member with old | rfl
    · exact room_detach room p l old
    · exact Nat.zero_le _
  | detach p => exact room_detach room p
  | dropLane k =>
    simp only [step]
    split
    · exact room_modify room fun l at? => Nat.zero_le _
    · exact room
  | send e =>
    rcases send_cases e n with ⟨k, -, -, free, sent⟩ | ⟨error, m, sent, lanes, -⟩
    · simp only [step, sent]
      refine room_modify (n := { n with delivered := n.delivered + 1 }) room fun l at? => ?_
      have here : n.lane k = l := lane_eq_of_getElem? at?
      rw [here] at free
      exact Nat.le_trans (Nat.le_of_eq List.length_append) (Nat.succ_le_of_lt free)
    · simp only [step, sent, lanes]
      exact room
  | receive k =>
    simp only [step]
    split
    · rcases receive_cases k n with ⟨e, rest, waiting, taken⟩ | ⟨-, none⟩
      · rw [taken]
        refine room_modify room fun l at? => ?_
        rw [lane_eq_of_getElem? at?] at waiting
        have full := room l (Array.mem_of_getElem? at?)
        rw [waiting, List.length_cons] at full
        exact Nat.le_of_succ_le full
      · rw [none]
        exact room
    · exact room

theorem Orderly.step (h : n.Orderly) (move : NetworkMove) : (n.step move).2.Orderly where
  bounded := h.bounded.step move
  unique := by
    cases move with
    | attach p => exact unique_attach h.unique p
    | detach p => exact unique_detach h.unique p
    | dropLane k =>
      simp only [Network.step]
      split <;> exact h.unique
    | send e =>
      rcases send_cases e n with ⟨k, -, -, -, sent⟩ | ⟨error, m, sent, -, -, peers | ⟨peers, -⟩⟩
      · simp only [Network.step, sent]
        exact h.unique
      · simp only [Network.step, sent, peers]
        exact h.unique
      · simp only [Network.step, sent, peers]
        exact unique_forget h.unique e.recipient
    | receive k =>
      simp only [Network.step]
      split
      · rcases receive_cases k n with ⟨e, rest, -, taken⟩ | ⟨-, none⟩
        · rw [taken]
          exact h.unique
        · rw [none]
          exact h.unique
      · exact h.unique
  room := by
    rw [step_limit]
    exact room_step h.room move

theorem Orderly.run (h : n.Orderly) (moves : List NetworkMove) : (n.run moves).Orderly := by
  induction moves generalizing n with
  | nil => exact h
  | cons move moves ih => exact ih (h.step move)

theorem Orderly.start (capacity : Nat) : (start capacity).Orderly where
  bounded := Bounded.start capacity
  unique := List.nodup_nil
  room l member := absurd member (Array.not_mem_empty l)

theorem Orderly.waiting_le (h : n.Orderly) (found : n.lane? peer = some lane) :
    (n.lane lane).waiting.length ≤ n.limit := by
  have there := h.bounded peer lane found
  have at? : n.lanes[lane]? = some n.lanes[lane] := Array.getElem?_eq_getElem there
  rw [lane_eq_of_getElem? at?]
  exact h.room _ (Array.getElem_mem there)

theorem Orderly.peers_forget (h : n.Orderly) (found : n.lane? peer = some lane) :
    (n.forget peer).peers = n.peers.erase (peer, lane) := by
  have entries : n.peers.Nodup := h.unique.of_map
  rw [entries.erase_eq_filter]
  refine List.filter_congr fun entry member => ?_
  by_cases own : entry.1 = peer
  · have same : entry = (peer, lane) := by
      have other : n.lane? peer = some entry.2 :=
        (lane?_eq_some_iff_mem h.unique).mpr (own ▸ member)
      exact Prod.ext own (Option.some.inj (other.symm.trans found))
    simp [same]
  · have different : entry ≠ (peer, lane) := fun same => own (congrArg Prod.fst same)
    simp [own, different]

/-- In the course of these moves, whoever held the lane gave it up. -/
def GivenUp (n : Network) (lane : LaneId) (moves : List NetworkMove) : Prop :=
  ∃ before after, moves = before ++ .dropLane lane :: after ∧ (n.run before).isHeld lane = true

theorem size_step_le (n : Network) (move : NetworkMove) :
    n.lanes.size ≤ (n.step move).2.lanes.size := by
  by_contra fewer
  have there : (n.step move).2.lanes.size < n.lanes.size := Nat.lt_of_not_le fewer
  exact absurd (step_lane there move).1 fewer

theorem isHeld_of_new (outside : n.lanes.size ≤ lane) (move : NetworkMove)
    (there : lane < (n.step move).2.lanes.size) : (n.step move).2.isHeld lane = true := by
  refine isHeld_iff.mpr ⟨there, ?_⟩
  have old (size : (n.step move).2.lanes.size = n.lanes.size) : False :=
    Nat.lt_irrefl _ (Nat.lt_of_lt_of_le (size ▸ there) outside)
  cases move with
  | attach p =>
    have last : lane < n.lanes.size + 1 := Nat.lt_of_lt_of_eq there (size_attach p n)
    obtain rfl : lane = n.lanes.size := Nat.le_antisymm (Nat.le_of_lt_succ last) outside
    simp only [step, lane_attach_new]
  | detach p => exact (old (size_detach p n)).elim
  | dropLane k =>
    refine (old ?_).elim
    simp only [step]
    split
    · exact Array.size_modify
    · rfl
  | send e =>
    refine (old ?_).elim
    rcases send_cases e n with ⟨k, -, -, -, sent⟩ | ⟨error, m, sent, lanes, -⟩
    · simp only [step, sent]
      exact Array.size_modify
    · simp only [step, sent, lanes]
  | receive k =>
    refine (old ?_).elim
    simp only [step]
    split
    · rcases receive_cases k n with ⟨e, rest, -, taken⟩ | ⟨-, none⟩
      · rw [taken]
        exact Array.size_modify
      · rw [none]
    · rfl

theorem givenUp_cons {move : NetworkMove} {moves : List NetworkMove}
    (other : move = .dropLane lane → n.isHeld lane = false) :
    n.GivenUp lane (move :: moves) ↔ (n.step move).2.GivenUp lane moves := by
  constructor
  · rintro ⟨_ | ⟨first, before⟩, after, split, held⟩
    · cases split
      exact absurd held (by rw [run, List.foldl_nil, other rfl]; exact Bool.false_ne_true)
    · obtain ⟨rfl, rfl⟩ := List.cons.inj split
      exact ⟨before, after, rfl, held⟩
  · rintro ⟨before, after, rfl, held⟩
    exact ⟨move :: before, after, rfl, held⟩

theorem isHeld_run_eq_false_iff (moves : List NetworkMove)
    (was : n.lanes.size ≤ lane ∨ n.isHeld lane = true) (there : lane < (n.run moves).lanes.size) :
    (n.run moves).isHeld lane = false ↔ n.GivenUp lane moves := by
  induction moves generalizing n with
  | nil =>
    have held : n.isHeld lane = true := was.resolve_left (Nat.not_le_of_lt there)
    simp [run, held, GivenUp]
  | cons move moves ih =>
    by_cases drops : move = .dropLane lane ∧ n.isHeld lane = true
    · obtain ⟨rfl, held⟩ := drops
      have inside := (isHeld_iff.mp held).1
      have dead : ((n.step (.dropLane lane)).2.lane lane).held = false := by
        rw [← Bool.not_eq_true, (step_lane inside _).2]
        simp
      have later := held_run (Nat.lt_of_lt_of_le inside (size_step_le n (.dropLane lane))) moves
      rw [dead] at later
      refine iff_of_true ?_ ⟨[], moves, rfl, held⟩
      rw [← Bool.not_eq_true, isHeld_iff, run_cons, later]
      simp
    · have other (same : move = .dropLane lane) : n.isHeld lane = false := by
        rw [← Bool.not_eq_true]
        exact fun held => drops ⟨same, held⟩
      rw [givenUp_cons other, run_cons]
      refine ih ?_ there
      rcases was with outside | held
      · by_cases new : lane < (n.step move).2.lanes.size
        · exact .inr (isHeld_of_new outside move new)
        · exact .inl (Nat.le_of_not_lt new)
      · obtain ⟨inside, held'⟩ := isHeld_iff.mp held
        have still := (step_lane inside move).2.mpr ⟨held', fun same => drops ⟨same, held⟩⟩
        exact .inr (isHeld_iff.mpr ⟨Nat.lt_of_lt_of_le inside (size_step_le n move), still⟩)

theorem offer_cases (e : Envelope) (lane : LaneId) (n : Network) :
    ((n.lane lane).held = false ∧ n.offer e lane =
      (.error (.disconnected e.recipient), { n with undelivered := n.undelivered + 1 })) ∨
    ((n.lane lane).held = true ∧ n.limit ≤ (n.lane lane).waiting.length ∧ n.offer e lane =
      (.error (.queueFull e.recipient), { n with undelivered := n.undelivered + 1 })) ∨
    ((n.lane lane).held = true ∧ (n.lane lane).waiting.length < n.limit ∧ n.offer e lane =
      (.ok (), { n with delivered := n.delivered + 1 }.modify
        (fun l => { l with waiting := l.waiting ++ [e] }) lane)) := by
  unfold offer
  cases held : (n.lane lane).held with
  | false => exact .inl ⟨rfl, by simp [held]⟩
  | true =>
    by_cases full : n.limit ≤ (n.lane lane).waiting.length
    · exact .inr (.inl ⟨rfl, full, by simp [held, full]⟩)
    · exact .inr (.inr ⟨rfl, Nat.lt_of_not_le full, by simp [held, full]⟩)

theorem send_eq (e : Envelope) (n : Network) :
    n.send e = match n.lane? e.recipient with
      | none => (.error (.unknownPeer e.recipient), { n with undelivered := n.undelivered + 1 })
      | some lane =>
        if (n.lane lane).held = false then ((n.offer e lane).1, (n.offer e lane).2.forget e.recipient)
        else n.offer e lane := by
  cases found : n.lane? e.recipient with
  | none => simp only [send, refusal?, found]
  | some lane =>
    have added (k : Nat) : { n with delivered := k }.lane? e.recipient = some lane := found
    rcases offer_cases e lane n with
      ⟨dead, offered⟩ | ⟨held, full, offered⟩ | ⟨held, free, offered⟩
    · simp [send, refusal?, found, dead, offered]
    · simp [send, refusal?, found, held, full, offered]
    · simp [send, refusal?, found, held, Nat.not_le_of_lt free, offered, added]

theorem deliver_alone (e : Envelope) (n : Network) : n.deliver e [] [] = n.send e := by
  rw [send_eq]
  cases found : n.lane? e.recipient with
  | none => simp only [deliver, found]
  | some lane =>
    have counted (k : Nat) : { n with undelivered := k }.lane? e.recipient = some lane := found
    rcases offer_cases e lane n with ⟨dead, offered⟩ | ⟨held, -, offered⟩ | ⟨held, -, offered⟩
    · simp [deliver, found, run, dead, offered, evict, counted]
    · simp [deliver, found, run, held, offered]
    · simp [deliver, found, run, held, offered]

theorem deliver_cases {e : Envelope} (found : n.lane? e.recipient = some lane)
    (first second : List NetworkMove) :
    let tried := (n.run first).offer e lane
    (tried.1 = .error (.disconnected e.recipient) ∧ n.deliver e first second =
        (tried.1, (tried.2.run second).evict e.recipient lane)) ∨
      (tried.1 ≠ .error (.disconnected e.recipient) ∧ n.deliver e first second = tried ∧
        tried.2.peers = (n.run first).peers) := by
  simp only [deliver, found]
  rcases offer_cases e lane (n.run first) with ⟨-, offered⟩ | ⟨-, -, offered⟩ | ⟨-, -, offered⟩
  · rw [offered]
    exact .inl ⟨rfl, rfl⟩
  · rw [offered]
    exact .inr ⟨by simp, rfl, rfl⟩
  · rw [offered]
    exact .inr ⟨nofun, rfl, rfl⟩

/-- What a send answers and leaves, by the lane that its name has. -/
inductive Outcome (n : Network) (e : Envelope) : Except TransportError Unit → Network → Prop
  | unknown (absent : n.lane? e.recipient = none) :
    Outcome n e (.error (.unknownPeer e.recipient)) { n with undelivered := n.undelivered + 1 }
  | dead (lane : LaneId) (found : n.lane? e.recipient = some lane) (gone : n.isHeld lane = false) :
    Outcome n e (.error (.disconnected e.recipient))
      ({ n with undelivered := n.undelivered + 1 }.forget e.recipient)
  | full (lane : LaneId) (found : n.lane? e.recipient = some lane) (held : n.isHeld lane = true)
    (full : (n.lane lane).waiting.length = n.limit) :
    Outcome n e (.error (.queueFull e.recipient)) { n with undelivered := n.undelivered + 1 }
  | taken (lane : LaneId) (found : n.lane? e.recipient = some lane) (held : n.isHeld lane = true)
    (room : (n.lane lane).waiting.length < n.limit) :
    Outcome n e (.ok ()) ({ n with delivered := n.delivered + 1 }.modify
      (fun l => { l with waiting := l.waiting ++ [e] }) lane)

theorem Bounded.isHeld_eq (h : n.Bounded) (found : n.lane? peer = some lane) :
    n.isHeld lane = (n.lane lane).held := by
  rw [isHeld, decide_eq_true (h peer lane found), Bool.true_and]

theorem Orderly.outcome (h : n.Orderly) (e : Envelope) :
    n.Outcome e (n.send e).1 (n.send e).2 := by
  rw [send_eq]
  cases found : n.lane? e.recipient with
  | none => exact .unknown found
  | some lane =>
    have same := h.bounded.isHeld_eq found
    rcases offer_cases e lane n with
      ⟨dead, offered⟩ | ⟨held, full, offered⟩ | ⟨held, room, offered⟩
    · simp only [dead, if_true, offered]
      exact .dead lane found (same.trans dead)
    · simp only [held, Bool.true_eq_false, if_false, offered]
      exact .full lane found (same.trans held) (Nat.le_antisymm (h.waiting_le found) full)
    · simp only [held, Bool.true_eq_false, if_false, offered]
      exact .taken lane found (same.trans held) room

namespace Outcome

variable {m : Network} {e : Envelope} {result : Except TransportError Unit}

theorem answers (o : n.Outcome e result m) :
    (result = .error (.unknownPeer e.recipient) ↔ n.lane? e.recipient = none) ∧
    (result = .error (.disconnected e.recipient) ↔
      ∃ lane, n.lane? e.recipient = some lane ∧ n.isHeld lane = false) ∧
    (result = .error (.queueFull e.recipient) ↔
      ∃ lane, n.lane? e.recipient = some lane ∧ n.isHeld lane = true ∧
        (n.lane lane).waiting.length = n.limit) ∧
    (result = .ok () ↔ result ≠ .error (.unknownPeer e.recipient) ∧
      result ≠ .error (.disconnected e.recipient) ∧
      result ≠ .error (.queueFull e.recipient)) := by
  cases o with
  | unknown absent => simp [absent]
  | dead lane found gone => simp [found, gone]
  | full lane found held full => simp [found, held, full]
  | taken lane found held room => simp [found, held, Nat.ne_of_lt room]

theorem lanes (o : n.Outcome e result m) :
    (result ≠ .ok () → m.lanes = n.lanes) ∧
    (result = .ok () → ∃ lane, n.lane? e.recipient = some lane ∧ n.isHeld lane = true ∧
      (n.lane lane).waiting.length < n.limit ∧
      m.lane lane = { n.lane lane with waiting := (n.lane lane).waiting ++ [e] } ∧
      m.lanes.size = n.lanes.size ∧ ∀ other, other ≠ lane → m.lane other = n.lane other) := by
  cases o with
  | unknown | dead | full => exact ⟨fun _ => rfl, nofun⟩
  | taken lane found held room =>
    refine ⟨fun refused => absurd rfl refused, fun _ => ⟨lane, found, held, room, ?_, ?_, ?_⟩⟩
    · exact lane_modify_self (n := { n with delivered := n.delivered + 1 }) _ (isHeld_iff.mp held).1
    · exact Array.size_modify
    · intro other different
      exact lane_modify_other (n := { n with delivered := n.delivered + 1 }) _ different

theorem names (o : n.Outcome e result m) :
    (result ≠ .error (.disconnected e.recipient) → m.peers = n.peers) ∧
    (result = .error (.disconnected e.recipient) → m.peers = (n.forget e.recipient).peers) := by
  cases o with
  | unknown | full => simp
  | dead => simp [forget]
  | taken => simp [modify]

theorem spares (o : n.Outcome e result m) (found : n.lane? peer = some lane)
    (held : n.isHeld lane = true) : m.lane? peer = some lane := by
  cases o with
  | dead k current gone =>
    refine (lane?_forget e.recipient peer _).trans ?_
    split
    · rename_i own
      subst own
      obtain rfl : lane = k := Option.some.inj (found.symm.trans current)
      exact absurd held (by rw [gone]; exact Bool.false_ne_true)
    · exact found
  | _ => exact found

end Outcome

/-- A lane that an offer found dead is dead for good, so the name that is forgotten for it has a dead
lane, whatever others did meanwhile. -/
theorem evict_of_offer {e : Envelope} (there : lane < n.lanes.size)
    (refused : (n.offer e lane).1 = .error (.disconnected e.recipient)) (moves : List NetworkMove)
    {p : PeerName} {l : LaneId} (found : ((n.offer e lane).2.run moves).lane? p = some l)
    (spared : ((n.offer e lane).2.run moves).isHeld l = true ∨ p ≠ e.recipient) :
    (((n.offer e lane).2.run moves).evict e.recipient lane).lane? p = some l := by
  unfold evict
  split
  · rename_i current
    rw [lane?_forget]
    split
    · rename_i same
      subst same
      obtain rfl : lane = l := Option.some.inj (current.symm.trans found)
      have held := (isHeld_iff.mp (spared.resolve_right fun other => other rfl)).2
      rcases offer_cases e lane n with ⟨dead, offered⟩ | ⟨-, -, offered⟩ | ⟨-, -, offered⟩
      · have still : (n.offer e lane).2.lane lane = n.lane lane := by
          rw [offered]
          rfl
        have inside : lane < (n.offer e lane).2.lanes.size := by
          rw [offered]
          exact there
        have was := ((held_run inside moves).mp held).1
        rw [still, dead] at was
        cases was
      · rw [offered] at refused
        cases refused
      · rw [offered] at refused
        cases refused
    · exact found
  · exact found

/-- In every run of a network, what a send answers is the truth: the peer is unknown just if the name
has no lane, disconnected just if its lane was given up, its queue full just if its lane is held and
has all it has room for, and else the envelope was taken. An envelope that was taken is the last of
that lane, and no other answer changes a lane. Only for a disconnected peer the table of names changes,
which loses this entry and no other; so the peer is unknown from then on. No name whose lane is held is
ever forgotten, also if others use the network between the parts of a send. -/
theorem send_outcomes (capacity : Nat) (before : List NetworkMove) (e : Envelope) :
    let n := (start capacity).run before
    let peer := e.recipient
    let result := (n.send e).1
    let m := (n.send e).2
    (result = .error (.unknownPeer peer) ↔ n.lane? peer = none) ∧
    (result = .error (.disconnected peer) ↔
      ∃ lane, n.lane? peer = some lane ∧ (start capacity).GivenUp lane before) ∧
    (result = .error (.queueFull peer) ↔
      ∃ lane, n.lane? peer = some lane ∧ n.isHeld lane = true ∧
        (n.lane lane).waiting.length = max capacity 1) ∧
    (result = .ok () ↔ result ≠ .error (.unknownPeer peer) ∧
      result ≠ .error (.disconnected peer) ∧ result ≠ .error (.queueFull peer)) ∧
    (result ≠ .ok () → m.lanes = n.lanes) ∧
    (result = .ok () → ∃ lane, n.lane? peer = some lane ∧ n.isHeld lane = true ∧
      (n.lane lane).waiting.length < max capacity 1 ∧
      m.lane lane = { n.lane lane with waiting := (n.lane lane).waiting ++ [e] } ∧
      m.lanes.size = n.lanes.size ∧ ∀ other, other ≠ lane → m.lane other = n.lane other) ∧
    (result ≠ .error (.disconnected peer) → m.peers = n.peers) ∧
    (result = .error (.disconnected peer) →
      (∃ lane, n.lane? peer = some lane ∧ m.peers = n.peers.erase (peer, lane)) ∧
      (∀ p, m.lane? p = if p = peer then none else n.lane? p) ∧
      ∀ again : Envelope, again.recipient = peer →
        (m.send again).1 = .error (.unknownPeer peer)) ∧
    (∀ p lane, n.lane? p = some lane → n.isHeld lane = true → m.lane? p = some lane) ∧
    n.deliver e [] [] = n.send e ∧
    ∀ first second lane, n.lane? peer = some lane →
      let tried := (n.run first).offer e lane
      let k := tried.2.run second
      let d := n.deliver e first second
      (tried.1 ≠ .error (.disconnected peer) →
        d = tried ∧ ∀ p, d.2.lane? p = (n.run first).lane? p) ∧
      (tried.1 = .error (.disconnected peer) →
        d.1 = tried.1 ∧ ∀ p l, k.lane? p = some l → k.isHeld l = true ∨ p ≠ peer →
          d.2.lane? p = some l) := by
  intro n peer result m
  have orderly : n.Orderly := (Orderly.start capacity).run before
  have outcome : n.Outcome e result m := orderly.outcome e
  have limit : n.limit = max capacity 1 := run_limit (start capacity) before
  obtain ⟨unknown, disconnected, full, taken⟩ := outcome.answers
  obtain ⟨unchanged, added⟩ := outcome.lanes
  obtain ⟨kept, forgotten⟩ := outcome.names
  rw [limit] at full added
  have history {lane : LaneId} (found : n.lane? peer = some lane) :
      n.isHeld lane = false ↔ (start capacity).GivenUp lane before :=
    isHeld_run_eq_false_iff before (.inl (Nat.zero_le _)) (orderly.bounded _ _ found)
  refine ⟨unknown, ?_, full, taken, unchanged, added, kept, fun dead => ?_,
    fun p lane => outcome.spares, deliver_alone e n, ?_⟩
  · rw [disconnected]
    exact exists_congr fun lane => and_congr_right history
  · obtain ⟨lane, found, -⟩ := disconnected.mp dead
    have names (p : PeerName) : m.lane? p = if p = peer then none else n.lane? p := by
      rw [← lane?_forget, lane?, lane?, forgotten dead]
    refine ⟨⟨lane, found, (forgotten dead).trans (orderly.peers_forget found)⟩, names, ?_⟩
    intro again same
    have absent : m.lane? again.recipient = none := (names _).trans (if_pos same)
    rw [send_eq, absent, same]
  · intro first second lane found tried k d
    have there : lane < (n.run first).lanes.size := size_run n first (orderly.bounded _ _ found)
    rcases deliver_cases found first second with ⟨refused, delivered⟩ | ⟨other, delivered, peers⟩
    · have forgets : d = (tried.1, k.evict peer lane) := delivered
      rw [forgets]
      refine ⟨fun other => absurd refused other, fun _ => ⟨rfl, fun p l current spared => ?_⟩⟩
      exact evict_of_offer there refused second current spared
    · have stays : d = tried := delivered
      rw [stays]
      refine ⟨fun _ => ⟨rfl, fun p => ?_⟩, fun refused => absurd refused other⟩
      rw [lane?, peers]
      rfl

theorem send_outcomes_reattached :
    let before : List NetworkMove :=
      [.attach "B", .send ⟨1, "A", "B", default⟩, .dropLane 0]
    let n := (start 0).run before
    let e : Envelope := ⟨2, "A", "B", default⟩
    (n.send e).1 = .error (.disconnected "B") ∧ (n.send e).2.peers = [] ∧
      ((n.send e).2.send ⟨3, "A", "B", default⟩).1 = .error (.unknownPeer "B") ∧
      (n.deliver e [] [.attach "B"]).2.lane? "B" = some 1 := by
  intro before n e
  obtain ⟨-, disconnected, -, -, -, -, -, dead, -, -, between⟩ := send_outcomes 0 before e
  have refused := disconnected.mpr ⟨0, rfl, [.attach "B", .send ⟨1, "A", "B", default⟩], [], rfl, rfl⟩
  obtain ⟨⟨lane, found, peers⟩, -, again⟩ := dead refused
  obtain ⟨-, spares⟩ := (between [] [.attach "B"] 0 rfl).2 rfl
  cases found
  exact ⟨refused, peers, again _ rfl, spares "B" 1 rfl (.inl rfl)⟩

end MessageRelay.Network
