import MessageRelay.Network.Moves
import MessageRelay.Proofs.Keyed
import MessageRelay.Proofs.Network

/-!
One move of a network, seen from one lane. Names are resolved anew at each send, and many lanes of one
name can be there at a time; but no lane is ever that of two names. So a move does to a lane what
`Turn` tells: it adds what was taken for the name at the back, takes what is received from the front,
and leaves all other lanes as they are.
-/
namespace MessageRelay.Network

variable {n m : Network} {peer : PeerName} {lane : LaneId}

theorem lane?_eq_lookup (n : Network) (peer : PeerName) : n.lane? peer = n.peers.lookup peer :=
  Keyed.find?_map_eq_lookup n.peers peer

theorem lane?_eq_none_iff : n.lane? peer = none ↔ peer ∉ n.peers.map (·.1) := by
  rw [lane?_eq_lookup, Keyed.lookup_eq_none_iff_keys]

theorem lane?_eq_some_iff_mem (unique : (n.peers.map (·.1)).Nodup) :
    n.lane? peer = some lane ↔ (peer, lane) ∈ n.peers := by
  rw [lane?_eq_lookup, Keyed.lookup_eq_some_iff_mem unique]

theorem lane?_forget (gone peer : PeerName) (n : Network) :
    (n.forget gone).lane? peer = if peer = gone then none else n.lane? peer := by
  rw [lane?_eq_lookup, lane?_eq_lookup, forget, Keyed.lookup_filter]

theorem lane?_detach (gone peer : PeerName) (n : Network) :
    (n.detach gone).2.lane? peer = if peer = gone then none else n.lane? peer := by
  unfold detach
  split
  · rename_i none
    split
    · rename_i same
      rw [same, none]
    · rfl
  · exact lane?_forget gone peer _

theorem size_detach (gone : PeerName) (n : Network) :
    (n.detach gone).2.lanes.size = n.lanes.size := by
  unfold detach
  split
  · rfl
  · exact Array.size_modify

theorem lane?_attach (new peer : PeerName) (n : Network) :
    (n.attach new).2.lane? peer = if peer = new then some n.lanes.size else n.lane? peer := by
  rw [lane?_eq_lookup, attach, Keyed.lookup_concat, ← lane?_eq_lookup, lane?_detach, size_detach]
  by_cases same : peer = new <;> simp [same]

theorem lane_modify_self (f : Lane → Lane) (there : lane < n.lanes.size) :
    (n.modify f lane).lane lane = f (n.lane lane) := by
  simp [Network.lane, modify, there, Array.getElem_modify]

theorem lane_modify_other (f : Lane → Lane) {other : LaneId} (different : lane ≠ other) :
    (n.modify f other).lane lane = n.lane lane := by
  have different : ¬ other = lane := fun same => different same.symm
  simp [Network.lane, modify, Array.getD_eq_getD_getElem?, Array.getElem?_modify, different]

theorem lane_detach (gone : PeerName) (there : lane < n.lanes.size) :
    (n.detach gone).2.lane lane =
      if n.lane? gone = some lane then { n.lane lane with attached := false } else n.lane lane := by
  unfold detach
  split
  · rename_i none
    rw [none, if_neg (by simp)]
  · rename_i id found
    change (n.modify _ id).lane lane = _
    rw [found]
    by_cases same : id = lane
    · rw [same, if_pos rfl, lane_modify_self _ there]
    · rw [if_neg (by simpa using same), lane_modify_other _ fun eq => same eq.symm]

theorem lane_attach (new : PeerName) (there : lane < n.lanes.size) :
    (n.attach new).2.lane lane =
      if n.lane? new = some lane then { n.lane lane with attached := false } else n.lane lane := by
  have old : lane < (n.detach new).2.lanes.size := size_detach new n ▸ there
  rw [← lane_detach new there]
  simp [attach, Network.lane, Array.getD_eq_getD_getElem?, Array.getElem?_push_lt old, old]

theorem lane_attach_new (new : PeerName) (n : Network) :
    (n.attach new).2.lane n.lanes.size = {} := by
  simp [attach, Network.lane, ← size_detach new n]

theorem size_attach (new : PeerName) (n : Network) :
    (n.attach new).2.lanes.size = n.lanes.size + 1 := by
  simp [attach, size_detach]

theorem send_cases (e : Envelope) (n : Network) :
    (∃ lane, n.lane? e.recipient = some lane ∧ (n.lane lane).held = true ∧
      (n.lane lane).waiting.length < n.limit ∧ n.send e = (.ok (),
        { n with delivered := n.delivered + 1 }.modify
          (fun l => { l with waiting := l.waiting ++ [e] }) lane)) ∨
    ∃ error m, n.send e = (.error error, m) ∧ m.lanes = n.lanes ∧ m.limit = n.limit ∧
      (m.peers = n.peers ∨ m.peers = (n.forget e.recipient).peers ∧
        ∀ lane, n.lane? e.recipient = some lane → (n.lane lane).held = false) := by
  unfold send refusal?
  cases found : n.lane? e.recipient with
  | none => exact .inr ⟨.unknownPeer _, _, rfl, rfl, rfl, .inl rfl⟩
  | some lane =>
    cases held : (n.lane lane).held with
    | false =>
      simp only [held, Bool.not_false, if_true]
      exact .inr ⟨_, _, rfl, rfl, rfl, .inr ⟨rfl, fun _ same => by cases same; exact held⟩⟩
    | true =>
      by_cases full : n.limit ≤ (n.lane lane).waiting.length
      · simp only [held, Bool.not_true, Bool.false_eq_true, if_false, full, if_true]
        exact .inr ⟨_, _, rfl, rfl, rfl, .inl rfl⟩
      · refine .inl ⟨lane, rfl, held, Nat.lt_of_not_le full, ?_⟩
        have counted : { n with delivered := n.delivered + 1 }.lane? e.recipient = some lane := found
        simp only [held, Bool.not_true, Bool.false_eq_true, if_false, full, counted]

theorem receive_cases (lane : LaneId) (n : Network) :
    (∃ e rest, (n.lane lane).waiting = e :: rest ∧
      n.receive lane = (.envelope e, n.modify (fun l => { l with waiting := rest }) lane)) ∨
    ((n.lane lane).waiting = [] ∧
      n.receive lane = (if (n.lane lane).attached then .nothing else .closed, n)) := by
  unfold receive
  cases waiting : (n.lane lane).waiting with
  | nil => exact .inr ⟨rfl, by simp only [waiting]⟩
  | cons e rest => exact .inl ⟨e, rest, rfl, by simp only [waiting]⟩

/-- The lane is that of this name and of no other. As long as it is held, the network can add to it
just while it is the lane of its name. -/
structure Serves (n : Network) (peer : PeerName) (lane : LaneId) : Prop where
  there : lane < n.lanes.size
  only : ∀ p, n.lane? p = some lane → p = peer
  attached : (n.lane lane).held = true →
    ((n.lane lane).attached = true ↔ n.lane? peer = some lane)
  room : (n.lane lane).waiting.length ≤ n.limit

/-- What a move does to a lane that is still held afterwards. -/
structure Turn (n : Network) (peer : PeerName) (lane : LaneId) (move : NetworkMove)
    (m : Network) : Prop where
  serves : m.Serves peer lane
  flow : n.receivedBy lane move ++ (m.lane lane).waiting =
    (n.lane lane).waiting ++ n.acceptedBy peer lane move
  current : m.lane? peer = some lane ↔
    n.lane? peer = some lane ∧ move ≠ .attach peer ∧ move ≠ .detach peer

namespace Turn

variable {move : NetworkMove}

theorem of_same (s : n.Serves peer lane) (size : n.lanes.size ≤ m.lanes.size)
    (limit : m.limit = n.limit) (same : m.lane lane = n.lane lane)
    (names : ∀ p, m.lane? p = some lane ↔ n.lane? p = some lane)
    (accepted : n.acceptedBy peer lane move = []) (received : n.receivedBy lane move = [])
    (other : move ≠ .attach peer ∧ move ≠ .detach peer) : Turn n peer lane move m where
  serves := {
    there := Nat.lt_of_lt_of_le s.there size
    only p found := s.only p ((names p).mp found)
    attached held := by rw [names, same]; exact s.attached (same ▸ held)
    room := by rw [same, limit]; exact s.room }
  flow := by rw [accepted, received, same, List.append_nil, List.nil_append]
  current := by rw [names]; exact ⟨fun found => ⟨found, other⟩, fun found => found.1⟩

theorem of_retired (s : n.Serves peer lane) (size : n.lanes.size ≤ m.lanes.size)
    (limit : m.limit = n.limit) (gone : m.lane? peer ≠ some lane)
    (names : ∀ q, m.lane? q = some lane → n.lane? q = some lane)
    (lanes : m.lane lane =
      if n.lane? peer = some lane then { n.lane lane with attached := false } else n.lane lane)
    (accepted : n.acceptedBy peer lane move = []) (received : n.receivedBy lane move = [])
    (retires : move = .attach peer ∨ move = .detach peer) : Turn n peer lane move m := by
  have waiting : (m.lane lane).waiting = (n.lane lane).waiting := by rw [lanes]; split <;> rfl
  have held : (m.lane lane).held = (n.lane lane).held := by rw [lanes]; split <;> rfl
  refine ⟨⟨Nat.lt_of_lt_of_le s.there size, fun q found => s.only q (names q found), ?_, ?_⟩,
    ?_, ?_⟩
  · intro still
    refine ⟨fun attached => absurd attached ?_, fun found => absurd found gone⟩
    rw [lanes]
    split
    · exact Bool.false_ne_true
    · rename_i past
      rwa [s.attached (held ▸ still)]
  · rw [waiting, limit]
    exact s.room
  · rw [accepted, received, waiting, List.append_nil, List.nil_append]
  · refine ⟨fun found => absurd found gone, fun found => ?_⟩
    rcases retires with rfl | rfl
    · exact absurd rfl found.2.1
    · exact absurd rfl found.2.2

theorem of_replaced (s : n.Serves peer lane) {p : PeerName} {new? : Option LaneId}
    (size : n.lanes.size ≤ m.lanes.size) (limit : m.limit = n.limit) (fresh : new? ≠ some lane)
    (lanes : m.lane lane =
      if n.lane? p = some lane then { n.lane lane with attached := false } else n.lane lane)
    (names : ∀ q, m.lane? q = if q = p then new? else n.lane? q)
    (accepted : n.acceptedBy peer lane move = []) (received : n.receivedBy lane move = [])
    (replaces : move = .attach p ∨ move = .detach p) : Turn n peer lane move m := by
  have others (q : PeerName) (found : m.lane? q = some lane) : n.lane? q = some lane := by
    rw [names] at found
    split at found
    · exact absurd found fresh
    · exact found
  by_cases own : p = peer
  · subst own
    have gone : m.lane? p ≠ some lane := by rw [names, if_pos rfl]; exact fresh
    exact of_retired s size limit gone others lanes accepted received replaces
  · have foreign : n.lane? p ≠ some lane := fun found => own (s.only p found)
    rw [if_neg foreign] at lanes
    refine of_same s size limit lanes (fun q => ⟨others q, fun found => ?_⟩) accepted received ?_
    · have other : q ≠ p := fun same => foreign (same ▸ found)
      rw [names, if_neg other, found]
    · rcases replaces with rfl | rfl <;> simp [own]

theorem of_flow (s : n.Serves peer lane) {f : Lane → Lane}
    (lanes : m.lanes = (n.modify f lane).lanes) (peers : m.peers = n.peers)
    (limit : m.limit = n.limit) (held : ∀ l, (f l).held = l.held)
    (attached : ∀ l, (f l).attached = l.attached)
    (room : (f (n.lane lane)).waiting.length ≤ n.limit)
    (flow : n.receivedBy lane move ++ (f (n.lane lane)).waiting =
      (n.lane lane).waiting ++ n.acceptedBy peer lane move)
    (other : move ≠ .attach peer ∧ move ≠ .detach peer) : Turn n peer lane move m := by
  have here : m.lane lane = f (n.lane lane) := by
    rw [← lane_modify_self f s.there, Network.lane, lanes]
    rfl
  have names (p : PeerName) : m.lane? p = n.lane? p := by rw [lane?, peers]; rfl
  refine ⟨⟨?_, fun p found => s.only p (names p ▸ found), fun still => ?_, ?_⟩, ?_, ?_⟩
  · rw [lanes]
    exact Nat.lt_of_lt_of_eq s.there Array.size_modify.symm
  · rw [here, held] at still
    rw [here, attached, names, s.attached still]
  · rwa [here, limit]
  · rw [here, flow]
  · rw [names]
    exact ⟨fun found => ⟨found, other⟩, fun found => found.1⟩

end Turn

theorem acceptedBy_of_taken (peer : PeerName) (lane : LaneId) {e : Envelope}
    (taken : (n.send e).1 = .ok ()) : n.acceptedBy peer lane (.send e) =
      if e.recipient = peer ∧ n.lane? peer = some lane then [e] else [] := by
  simp only [acceptedBy, step, taken]

theorem acceptedBy_of_refused (peer : PeerName) (lane : LaneId) {e : Envelope}
    {error : TransportError} (refused : (n.send e).1 = .error error) :
    n.acceptedBy peer lane (.send e) = [] := by
  simp only [acceptedBy, step, refused]

theorem acceptedBy_of_not_current (past : n.lane? peer ≠ some lane) (move : NetworkMove) :
    n.acceptedBy peer lane move = [] := by
  unfold acceptedBy
  split
  · rw [if_neg fun found => past found.2]
  · rfl

theorem Serves.send (s : n.Serves peer lane) (held : (n.lane lane).held = true) (e : Envelope) :
    Turn n peer lane (.send e) (n.send e).2 := by
  have other : NetworkMove.send e ≠ .attach peer ∧ NetworkMove.send e ≠ .detach peer := by simp
  rcases send_cases e n with ⟨k, found, -, room, sent⟩ | ⟨error, m, sent, lanes, limit, names⟩
  · have accepted := acceptedBy_of_taken peer lane (congrArg Prod.fst sent)
    rw [sent]
    by_cases same : k = lane
    · subst same
      obtain rfl := s.only _ found
      rw [if_pos ⟨rfl, found⟩] at accepted
      refine .of_flow s rfl rfl rfl (fun _ => rfl) (fun _ => rfl) ?_ ?_ other
      · rw [List.length_append]
        exact room
      · rw [accepted]
        rfl
    · have foreign : ¬ (e.recipient = peer ∧ n.lane? peer = some lane) := by
        rintro ⟨rfl, current⟩
        exact same (Option.some.inj (found.symm.trans current))
      rw [if_neg foreign] at accepted
      exact .of_same s (Nat.le_of_eq Array.size_modify.symm) rfl
        (lane_modify_other _ fun eq => same eq.symm) (fun _ => Iff.rfl) accepted rfl other
  · have accepted := acceptedBy_of_refused peer lane (congrArg Prod.fst sent)
    rw [sent]
    refine .of_same s (Nat.le_of_eq (congrArg _ lanes.symm)) limit (by rw [Network.lane, lanes]; rfl)
      (fun p => ?_) accepted rfl other
    rcases names with peers | ⟨peers, dead⟩
    · rw [lane?, peers]
      rfl
    · have forgotten : m.lane? p = (n.forget e.recipient).lane? p := by rw [lane?, peers]; rfl
      rw [forgotten, lane?_forget]
      split
      · rename_i same
        -- A name is forgotten only if its lane is not held, and this lane is.
        refine ⟨fun found => absurd found (by simp), fun found => ?_⟩
        rw [dead lane (same ▸ found)] at held
        cases held
      · rfl

theorem limit_detach (gone : PeerName) (n : Network) : (n.detach gone).2.limit = n.limit := by
  unfold detach
  split <;> rfl

theorem Serves.receive (s : n.Serves peer lane) (k : LaneId) :
    Turn n peer lane (.receive k) (n.step (.receive k)).2 := by
  have other : NetworkMove.receive k ≠ .attach peer ∧ NetworkMove.receive k ≠ .detach peer :=
    ⟨nofun, nofun⟩
  have still (none : n.receivedBy lane (.receive k) = []) : Turn n peer lane (.receive k) n :=
    .of_same s (Nat.le_refl _) rfl rfl (fun _ => Iff.rfl) rfl none other
  cases held : n.isHeld k with
  | false =>
    have refused : n.step (.receive k) = (.refused, n) := by simp [step, held]
    rw [refused]
    exact still (by simp [receivedBy, refused])
  | true =>
    rcases receive_cases k n with ⟨e, rest, waiting, taken⟩ | ⟨-, none⟩
    · have answer : n.step (.receive k) =
          (.received (.envelope e), n.modify (fun l => { l with waiting := rest }) k) := by
        simp [step, held, taken]
      have received : n.receivedBy lane (.receive k) = if k = lane then [e] else [] := by
        simp only [receivedBy, answer]
      rw [answer]
      by_cases same : k = lane
      · subst same
        rw [if_pos rfl] at received
        refine .of_flow s rfl rfl rfl (fun _ => rfl) (fun _ => rfl) ?_ ?_ other
        · have room := s.room
          rw [waiting] at room
          exact Nat.le_of_succ_le room
        · rw [received, waiting]
          exact (List.append_nil _).symm
      · rw [if_neg same] at received
        exact .of_same s (Nat.le_of_eq Array.size_modify.symm) rfl
          (lane_modify_other _ fun eq => same eq.symm) (fun _ => Iff.rfl) rfl received other
    · have answer : (n.step (.receive k)).2 = n := by simp [step, held, none]
      rw [answer]
      refine still ?_
      simp only [receivedBy, step, held, none, if_true]
      split
      · rename_i envelope
        split at envelope <;> cases envelope
      · rfl

theorem Serves.step (s : n.Serves peer lane) (held : (n.lane lane).held = true)
    (move : NetworkMove) (still : ((n.step move).2.lane lane).held = true) :
    Turn n peer lane move (n.step move).2 := by
  cases move with
  | attach p =>
    refine .of_replaced s ?_ (limit_detach p n) (fun same => ?_) (lane_attach p s.there)
      (fun q => lane?_attach p q n) rfl rfl (.inl rfl)
    · exact Nat.le_of_lt (Nat.lt_of_lt_of_eq (Nat.lt_succ_self _) (size_attach p n).symm)
    · exact absurd s.there (Option.some.inj same ▸ Nat.lt_irrefl _)
  | detach p =>
    exact .of_replaced s (Nat.le_of_eq (size_detach p n).symm) (limit_detach p n)
      (Option.some_ne_none lane).symm (lane_detach p s.there)
      (fun q => lane?_detach p q n) rfl rfl (.inr rfl)
  | dropLane k =>
    have other : NetworkMove.dropLane k ≠ .attach peer ∧ NetworkMove.dropLane k ≠ .detach peer :=
      ⟨nofun, nofun⟩
    simp only [Network.step] at still ⊢
    split at still
    · rename_i there
      rw [if_pos there]
      have different : lane ≠ k := fun same => by
        have dropped := lane_modify_self (fun l => { l with waiting := [], held := false }) s.there
        rw [← same, dropLane, dropped] at still
        cases still
      exact .of_same s (Nat.le_of_eq Array.size_modify.symm) rfl (lane_modify_other _ different)
        (fun _ => Iff.rfl) rfl rfl other
    · rename_i there
      rw [if_neg there]
      exact .of_same s (Nat.le_refl _) rfl rfl (fun _ => Iff.rfl) rfl rfl other
  | send e => exact s.send held e
  | receive k => exact s.receive k

theorem isHeld_iff : n.isHeld lane = true ↔ lane < n.lanes.size ∧ (n.lane lane).held = true := by
  rw [isHeld, Bool.and_eq_true, decide_eq_true_iff]

theorem step_lane (there : lane < n.lanes.size) (move : NetworkMove) :
    n.lanes.size ≤ (n.step move).2.lanes.size ∧
      (((n.step move).2.lane lane).held = true ↔
        (n.lane lane).held = true ∧ move ≠ .dropLane lane) := by
  have modified (f : Lane → Lane) (k : LaneId) (keeps : ∀ l, (f l).held = l.held) :
      n.lanes.size ≤ (n.modify f k).lanes.size ∧
        ((n.modify f k).lane lane).held = (n.lane lane).held := by
    refine ⟨Nat.le_of_eq Array.size_modify.symm, ?_⟩
    by_cases same : lane = k
    · rw [← same, lane_modify_self f there, keeps]
    · rw [lane_modify_other f same]
  have detached (p : PeerName) : (if n.lane? p = some lane then
      { n.lane lane with attached := false } else n.lane lane).held = (n.lane lane).held := by
    split <;> rfl
  cases move with
  | attach p =>
    refine ⟨Nat.le_trans (Nat.le_succ _) (Nat.le_of_eq (size_attach p n).symm), ?_⟩
    simp only [step, lane_attach p there, detached]
    simp
  | detach p =>
    refine ⟨Nat.le_of_eq (size_detach p n).symm, ?_⟩
    simp only [step, lane_detach p there, detached]
    simp
  | dropLane k =>
    simp only [step]
    split
    · refine ⟨Nat.le_of_eq Array.size_modify.symm, ?_⟩
      by_cases same : k = lane
      · subst same
        have dropped := lane_modify_self (fun l => { l with waiting := [], held := false }) there
        simp [dropLane, dropped]
      · simp [dropLane, lane_modify_other _ fun eq => same eq.symm, same]
    · rename_i gone
      refine ⟨Nat.le_refl _, fun held => ⟨held, ?_⟩, fun held => held.1⟩
      rintro ⟨⟩
      exact gone (isHeld_iff.mpr ⟨there, held⟩)
  | send e =>
    rcases send_cases e n with ⟨k, -, -, -, sent⟩ | ⟨error, m, sent, lanes, -⟩
    · have kept := modified (fun l => { l with waiting := l.waiting ++ [e] }) k fun _ => rfl
      simp only [step, sent]
      refine ⟨kept.1, ?_⟩
      change ((n.modify _ k).lane lane).held = true ↔ _
      simp [kept.2]
    · simp [step, sent, Network.lane, lanes]
  | receive k =>
    simp only [step]
    split
    · rcases receive_cases k n with ⟨e, rest, -, taken⟩ | ⟨-, none⟩
      · have kept := modified (fun l => { l with waiting := rest }) k fun _ => rfl
        rw [taken]
        exact ⟨kept.1, by simp [kept.2]⟩
      · simp [none]
    · simp

theorem step_limit (n : Network) (move : NetworkMove) : (n.step move).2.limit = n.limit := by
  cases move with
  | attach p | detach p => exact limit_detach p n
  | dropLane k =>
    simp only [step]
    split <;> rfl
  | send e =>
    rcases send_cases e n with ⟨k, -, -, -, sent⟩ | ⟨error, m, sent, -, same, -⟩
    · simp only [step, sent]
      rfl
    · simp only [step, sent, same]
  | receive k =>
    simp only [step]
    split
    · rcases receive_cases k n with ⟨e, rest, -, taken⟩ | ⟨-, none⟩
      · rw [taken]
        rfl
      · rw [none]
    · rfl

theorem step_receive (held : n.isHeld lane = true) :
    (n.step (.receive lane)).1 = .received (n.receive lane).1 := by
  simp only [step, held, if_true]

theorem step_lane? (p : PeerName) (n : Network) (move : NetworkMove) :
    (n.step move).2.lane? p = n.lane? p ∨ (n.step move).2.lane? p = none ∨
      (n.step move).2.lane? p = some n.lanes.size ∧
        n.lanes.size < (n.step move).2.lanes.size := by
  cases move with
  | attach new =>
    have names := lane?_attach new p n
    by_cases same : p = new
    · rw [if_pos same] at names
      refine .inr (.inr ⟨names, ?_⟩)
      exact Nat.lt_of_lt_of_eq (Nat.lt_succ_self _) (size_attach new n).symm
    · rw [if_neg same] at names
      exact .inl names
  | detach gone =>
    have names := lane?_detach gone p n
    by_cases same : p = gone
    · rw [if_pos same] at names
      exact .inr (.inl names)
    · rw [if_neg same] at names
      exact .inl names
  | dropLane k =>
    simp only [step]
    split <;> exact .inl rfl
  | send e =>
    rcases send_cases e n with ⟨k, -, -, -, sent⟩ | ⟨error, m, sent, -, -, peers | ⟨peers, -⟩⟩
    · simp only [step, sent]
      exact .inl rfl
    · simp only [step, sent, lane?, peers]
      exact .inl trivial
    · have names := lane?_forget e.recipient p n
      simp only [lane?, ← peers] at names
      simp only [step, sent, lane?]
      split at names
      · exact .inr (.inl names)
      · exact .inl names
  | receive k =>
    simp only [step]
    split
    · rcases receive_cases k n with ⟨e, rest, -, taken⟩ | ⟨-, none⟩
      · rw [taken]
        exact .inl rfl
      · rw [none]
        exact .inl rfl
    · exact .inl rfl

end MessageRelay.Network
