import MessageRelay.Proofs.Network.Lanes

/-!
Lanes are bounded queues, each on its own. What went into a lane and what came out of it are the two
sides of one equation along every run, and a lane whose name has moved on is never that of the name
again. The counters of the network tell how many envelopes it took and how many it refused.
-/
namespace MessageRelay.Network

variable {n m : Network} {peer : PeerName} {lane : LaneId}

theorem run_cons (n : Network) (move : NetworkMove) (moves : List NetworkMove) :
    n.run (move :: moves) = (n.step move).2.run moves := rfl

theorem run_append (n : Network) (first second : List NetworkMove) :
    n.run (first ++ second) = (n.run first).run second := List.foldl_append

theorem takings_cons (n : Network) (move : NetworkMove) (moves : List NetworkMove) :
    n.takings (move :: moves) = (n.step move).1.isTaken.toNat + (n.step move).2.takings moves := rfl

theorem held_run (there : lane < n.lanes.size) (moves : List NetworkMove) :
    ((n.run moves).lane lane).held = true ↔
      (n.lane lane).held = true ∧ .dropLane lane ∉ moves := by
  induction moves generalizing n with
  | nil => simp [run]
  | cons move moves ih =>
    obtain ⟨size, held⟩ := step_lane there move
    rw [run_cons, ih (Nat.lt_of_lt_of_le there size), held, List.mem_cons, not_or, and_assoc]
    exact and_congr_right fun _ => and_congr_left fun _ => ne_comm

theorem run_limit (n : Network) (moves : List NetworkMove) : (n.run moves).limit = n.limit := by
  induction moves generalizing n with
  | nil => rfl
  | cons move moves ih => rw [run_cons, ih, step_limit]

theorem size_run (n : Network) (moves : List NetworkMove) (there : lane < n.lanes.size) :
    lane < (n.run moves).lanes.size := by
  induction moves generalizing n with
  | nil => exact there
  | cons move moves ih => exact ih _ (Nat.lt_of_lt_of_le there (step_lane there move).1)

theorem accepted_append (peer : PeerName) (lane : LaneId) (n : Network)
    (first second : List NetworkMove) :
    n.accepted peer lane (first ++ second) =
      n.accepted peer lane first ++ (n.run first).accepted peer lane second := by
  induction first generalizing n with
  | nil => rfl
  | cons move moves ih => rw [List.cons_append, accepted, ih, accepted, List.append_assoc, run_cons]

theorem received_append (lane : LaneId) (n : Network) (first second : List NetworkMove) :
    n.received lane (first ++ second) =
      n.received lane first ++ (n.run first).received lane second := by
  induction first generalizing n with
  | nil => rfl
  | cons move moves ih => rw [List.cons_append, received, ih, received, List.append_assoc, run_cons]

theorem received_eq_nil {moves : List NetworkMove} (others : .receive lane ∉ moves) :
    n.received lane moves = [] := by
  induction moves generalizing n with
  | nil => rfl
  | cons move moves ih =>
    rw [List.mem_cons, not_or] at others
    rw [received, ih others.2, List.append_nil]
    unfold receivedBy
    split
    · exact if_neg fun same => others.1 (congrArg _ same.symm)
    · rfl

/-- What a run does to a lane that is held at its end. -/
structure Course (n : Network) (peer : PeerName) (lane : LaneId) (moves : List NetworkMove) :
    Prop where
  serves : (n.run moves).Serves peer lane
  flow : n.received lane moves ++ ((n.run moves).lane lane).waiting =
    (n.lane lane).waiting ++ n.accepted peer lane moves
  current : (n.run moves).lane? peer = some lane ↔
    n.lane? peer = some lane ∧ .attach peer ∉ moves ∧ .detach peer ∉ moves

theorem Serves.course (s : n.Serves peer lane) {moves : List NetworkMove}
    (held : ((n.run moves).lane lane).held = true) : Course n peer lane moves := by
  induction moves generalizing n with
  | nil => exact ⟨s, (List.append_nil _).symm, by simp [run]⟩
  | cons move moves ih =>
    obtain ⟨size, kept⟩ := step_lane s.there move
    have next := ((held_run (Nat.lt_of_lt_of_le s.there size) moves).mp held).1
    have turn := s.step (kept.mp next).1 move next
    have rest := ih turn.serves held
    refine ⟨rest.serves, ?_, ?_⟩
    · calc n.receivedBy lane move ++ (n.step move).2.received lane moves ++
            (((n.step move).2.run moves).lane lane).waiting
        _ = n.receivedBy lane move ++ (((n.step move).2.lane lane).waiting ++
            (n.step move).2.accepted peer lane moves) := by rw [List.append_assoc, rest.flow]
        _ = (n.lane lane).waiting ++ (n.acceptedBy peer lane move ++
            (n.step move).2.accepted peer lane moves) := by
          rw [← List.append_assoc, turn.flow, List.append_assoc]
    · rw [run_cons, rest.current, turn.current, List.mem_cons, List.mem_cons, not_or, not_or]
      constructor
      · rintro ⟨⟨found, attach, detach⟩, noAttach, noDetach⟩
        exact ⟨found, ⟨fun same => attach same.symm, noAttach⟩, fun same => detach same.symm, noDetach⟩
      · rintro ⟨found, ⟨attach, noAttach⟩, detach, noDetach⟩
        exact ⟨⟨found, fun same => attach same.symm, fun same => detach same.symm⟩, noAttach, noDetach⟩

theorem past_run (there : lane < n.lanes.size) (past : n.lane? peer ≠ some lane)
    (moves : List NetworkMove) :
    (n.run moves).lane? peer ≠ some lane ∧ n.accepted peer lane moves = [] := by
  induction moves generalizing n with
  | nil => exact ⟨past, rfl⟩
  | cons move moves ih =>
    have next : (n.step move).2.lane? peer ≠ some lane := by
      rcases step_lane? peer n move with same | none | ⟨new, -⟩
      · rwa [same]
      · rw [none]
        exact (Option.some_ne_none lane).symm
      · rw [new]
        exact fun same => absurd there (Option.some.inj same ▸ Nat.lt_irrefl _)
    obtain ⟨still, nothing⟩ := ih (Nat.lt_of_lt_of_le there (step_lane there move).1) next
    refine ⟨still, ?_⟩
    rw [accepted, acceptedBy_of_not_current past, nothing]
    rfl

def Bounded (n : Network) : Prop := ∀ p id, n.lane? p = some id → id < n.lanes.size

theorem Bounded.step (h : n.Bounded) (move : NetworkMove) : (n.step move).2.Bounded := by
  intro p id found
  rcases step_lane? p n move with same | none | ⟨new, more⟩
  · have there := h p id (same ▸ found)
    exact Nat.lt_of_lt_of_le there (step_lane there move).1
  · rw [none] at found
    cases found
  · rw [new] at found
    exact Option.some.inj found ▸ more

theorem Bounded.run (h : n.Bounded) (moves : List NetworkMove) : (n.run moves).Bounded := by
  induction moves generalizing n with
  | nil => exact h
  | cons move moves ih => exact ih (h.step move)

theorem Bounded.start (capacity : Nat) : (start capacity).Bounded := nofun

theorem Bounded.serves_attach (h : n.Bounded) (peer : PeerName) :
    (n.attach peer).2.Serves peer n.lanes.size where
  there := Nat.lt_of_lt_of_eq (Nat.lt_succ_self _) (size_attach peer n).symm
  only p found := by
    rw [lane?_attach] at found
    split at found
    · assumption
    · exact absurd (h p _ found) (Nat.lt_irrefl _)
  attached _ := by
    rw [lane_attach_new, lane?_attach, if_pos rfl]
    exact ⟨fun _ => rfl, fun _ => rfl⟩
  room := by
    rw [lane_attach_new]
    exact Nat.zero_le _

theorem counts_detach (gone : PeerName) (n : Network) :
    (n.detach gone).2.delivered = n.delivered ∧ (n.detach gone).2.undelivered = n.undelivered := by
  unfold detach
  split <;> exact ⟨rfl, rfl⟩

theorem counts_send (e : Envelope) (n : Network) :
    (n.send e).2.delivered = n.delivered + (NetworkAnswer.sent (n.send e).1).isTaken.toNat ∧
      (n.send e).2.delivered + (n.send e).2.undelivered = n.delivered + n.undelivered + 1 := by
  unfold send
  split
  · dsimp only
    split <;> exact ⟨rfl, rfl⟩
  · dsimp only
    split <;> exact ⟨rfl, Nat.add_right_comm _ _ _⟩

theorem step_counts (n : Network) (move : NetworkMove) :
    (n.step move).2.delivered = n.delivered + (n.step move).1.isTaken.toNat ∧
      (n.step move).2.delivered + (n.step move).2.undelivered =
        n.delivered + n.undelivered + move.isSend.toNat := by
  cases move with
  | attach p | detach p =>
    obtain ⟨delivered, undelivered⟩ := counts_detach p n
    exact ⟨delivered, (congrArg₂ (· + ·) delivered undelivered).trans rfl⟩
  | dropLane k =>
    simp only [step]
    split <;> exact ⟨rfl, rfl⟩
  | send e => exact counts_send e n
  | receive k =>
    simp only [step]
    split
    · rcases receive_cases k n with ⟨e, rest, -, taken⟩ | ⟨-, none⟩
      · rw [taken]
        exact ⟨rfl, rfl⟩
      · rw [none]
        exact ⟨rfl, rfl⟩
    · exact ⟨rfl, rfl⟩

theorem run_counts (n : Network) (moves : List NetworkMove) :
    (n.run moves).delivered = n.delivered + n.takings moves ∧
      (n.run moves).delivered + (n.run moves).undelivered =
        n.delivered + n.undelivered + moves.countP NetworkMove.isSend := by
  induction moves generalizing n with
  | nil => exact ⟨rfl, rfl⟩
  | cons move moves ih =>
    obtain ⟨taken, sent⟩ := step_counts n move
    obtain ⟨takings, sends⟩ := ih (n.step move).2
    have weight : move.isSend.toNat = if move.isSend = true then 1 else 0 := by
      cases move.isSend <;> rfl
    rw [run_cons, takings_cons, List.countP_cons, ← weight]
    omega

/-- In every run of a network, the envelopes it took and those it refused are all that were sent. And
of each lane that a peer was attached on, as long as it is held: what was received and what still
waits is, in order, what was sent to the peer and taken while this was its lane; no more waits than
the capacity allows; it is the lane of the peer until that is attached again or detached, and from
then on it gains nothing, yields all it has, and only then tells that it is closed. -/
theorem lanes_are_queues (capacity : Nat) (before : List NetworkMove) :
    let n := (start capacity).run before
    n.delivered + n.undelivered = before.countP NetworkMove.isSend ∧
    n.delivered = (start capacity).takings before ∧
    ∀ peer lane after, (n.step (.attach peer)).1 = .attached lane →
      let first := (n.step (.attach peer)).2
      let m := first.run after
      m.isHeld lane = true →
        first.received lane after ++ (m.lane lane).waiting = first.accepted peer lane after ∧
        (m.lane lane).waiting.length ≤ max capacity 1 ∧
        (m.lane? peer = some lane ↔ .attach peer ∉ after ∧ .detach peer ∉ after) ∧
        (∀ e rest, (m.lane lane).waiting = e :: rest →
          (m.step (.receive lane)).1 = .received (.envelope e)) ∧
        (m.lane? peer = some lane → (m.lane lane).waiting = [] →
          (m.step (.receive lane)).1 = .received .nothing) ∧
        (m.lane? peer ≠ some lane →
          ((m.lane lane).waiting = [] → (m.step (.receive lane)).1 = .received .closed) ∧
          ∀ later, m.accepted peer lane later = [] ∧ (m.run later).lane? peer ≠ some lane ∧
            ((m.run later).isHeld lane = true →
              m.received lane later ++ ((m.run later).lane lane).waiting =
                (m.lane lane).waiting)) := by
  intro n
  obtain ⟨delivered, sent⟩ := run_counts (start capacity) before
  refine ⟨sent.trans (Nat.zero_add _), delivered.trans (Nat.zero_add _), ?_⟩
  intro peer lane after attached first m held
  have made : lane = n.lanes.size := by
    rw [← size_detach peer n]
    cases attached
    rfl
  subst made
  have bounded : n.Bounded := (Bounded.start capacity).run before
  have current : first.lane? peer = some n.lanes.size := by
    change (n.attach peer).2.lane? peer = _
    rw [lane?_attach, if_pos rfl]
  have empty : (first.lane n.lanes.size).waiting = [] := by
    change ((n.attach peer).2.lane n.lanes.size).waiting = _
    rw [lane_attach_new]
  have limit : m.limit = max capacity 1 := by
    rw [run_limit, step_limit, run_limit]
    rfl
  have serves : first.Serves peer n.lanes.size := bounded.serves_attach peer
  have course : first.Course peer n.lanes.size after := serves.course (isHeld_iff.mp held).2
  have attached : (m.lane n.lanes.size).attached = true ↔ m.lane? peer = some n.lanes.size :=
    course.serves.attached (isHeld_iff.mp held).2
  refine ⟨?_, limit ▸ course.serves.room, ?_, fun e rest waiting => ?_, fun found waiting => ?_,
    fun past => ⟨fun waiting => ?_, fun later => ?_⟩⟩
  · exact course.flow.trans (by rw [empty]; rfl)
  · exact course.current.trans (and_iff_right current)
  · rw [step_receive held, receive, waiting]
  · rw [step_receive held, receive, waiting]
    simp [attached.mpr found]
  · rw [step_receive held, receive, waiting]
    have closed : (m.lane n.lanes.size).attached = false := by
      rw [← Bool.not_eq_true, attached]
      exact past
    simp [closed]
  · obtain ⟨never, nothing⟩ := past_run course.serves.there past later
    refine ⟨nothing, never, fun held => ?_⟩
    have rest := (course.serves.course (isHeld_iff.mp held).2).flow
    rwa [nothing, List.append_nil] at rest

def reattaching : List NetworkMove :=
  [.send ⟨1, "A", "B", default⟩, .send ⟨2, "A", "B", default⟩, .attach "B",
    .send ⟨3, "A", "B", default⟩]

theorem lanes_are_queues_reattached :
    let m := ((start 0).step (.attach "B")).2.run reattaching
    ((start 0).step (.attach "B")).2.accepted "B" 0 reattaching = [⟨1, "A", "B", default⟩] ∧
      (m.step (.receive 0)).1 = .received (.envelope ⟨1, "A", "B", default⟩) ∧
      m.received 0 [.receive 0] = [⟨1, "A", "B", default⟩] ∧
      ((m.run [.receive 0]).step (.receive 0)).1 = .received .closed := by
  intro m
  have held : m.isHeld 0 = true := by decide
  have past : m.lane? "B" ≠ some 0 := by decide
  obtain ⟨-, -, lanes⟩ := lanes_are_queues 0 []
  obtain ⟨flow, -, -, next, -, retired⟩ := lanes "B" 0 reattaching rfl held
  obtain ⟨-, -, yields⟩ := (retired past).2 [.receive 0]
  have drained := yields (by decide)
  obtain ⟨-, -, -, -, -, emptied⟩ := lanes "B" 0 (reattaching ++ [.receive 0]) rfl (by decide)
  have closed := (emptied (by decide)).1 rfl
  exact ⟨flow.symm, next _ _ rfl, (List.append_nil _).symm.trans drained, closed⟩

end MessageRelay.Network
