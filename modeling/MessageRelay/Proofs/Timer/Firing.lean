import MessageRelay.Proofs.Timer.Machine

/-!
The firing law of a pass. What a pass fires is due, and is the first of all timers that are live when
it is taken; when the pass ends nothing is left that is due, and the number it gives is that of the
callbacks it ran itself. All of this holds whatever the callbacks do with the queue.
-/
namespace MessageRelay

variable {α : Type}

namespace TimerAnswer

def isFired : TimerAnswer α → Bool
  | .fired _ _ => true
  | _ => false

end TimerAnswer

namespace TimerMachine

variable {m n : TimerMachine α}

/-- The stack never gets lower than `depth` while the moves are made. -/
def Keeps (depth : Nat) (m : TimerMachine α) : List (TimerMove α) → Prop
  | [] => depth ≤ m.stack.length
  | move :: moves => depth ≤ m.stack.length ∧ (m.step move).2.Keeps depth moves

instance Keeps.decidable (depth : Nat) :
    (moves : List (TimerMove α)) → (m : TimerMachine α) → Decidable (m.Keeps depth moves)
  | [], m => inferInstanceAs (Decidable (depth ≤ m.stack.length))
  | move :: moves, m =>
    have := decidable depth moves (m.step move).2
    inferInstanceAs (Decidable (depth ≤ m.stack.length ∧ (m.step move).2.Keeps depth moves))

theorem Keeps.depth_le {depth : Nat} {moves : List (TimerMove α)} (h : m.Keeps depth moves) :
    depth ≤ m.stack.length := by
  cases moves with
  | nil => exact h
  | cons move moves => exact h.1

/-- How often the moves fire a timer from the frame at `depth`. -/
def firedAt (depth : Nat) (m : TimerMachine α) : List (TimerMove α) → Nat
  | [] => 0
  | move :: moves =>
    (if m.stack.length = depth ∧ (m.step move).1.isFired then 1 else 0) +
      (m.step move).2.firedAt depth moves

/-- A pass is under way above `below`, and has taken so many timers: it is innermost, or the callback
of the last timer it took is still to end. -/
def Under (now : Nanos) (below : List (TimerFrame α)) (taken : Nat)
    (stack : List (TimerFrame α)) : Prop :=
  stack = .pass now taken :: below ∨
    ∃ upper id payload count, taken = count + 1 ∧
      stack = upper ++ .callback id payload :: .pass now count :: below

section Under

variable {now : Nanos} {below stack : List (TimerFrame α)} {taken : Nat} {answer : TimerAnswer α}

theorem Under.innermost (h : Under now below taken stack)
    (depth : stack.length = below.length + 1) : stack = .pass now taken :: below := by
  obtain top | ⟨upper, id, payload, count, -, rfl⟩ := h
  · exact top
  · simp only [List.length_append, List.length_cons] at depth
    omega

theorem Under.length_gt (h : Under now below taken stack) : below.length < stack.length := by
  obtain rfl | ⟨upper, id, payload, count, -, rfl⟩ := h
  · exact Nat.lt_succ_self _
  · simp only [List.length_append, List.length_cons]
    omega

theorem Under.shift_innermost (top : m.stack = .pass now taken :: below)
    (shift : Shift m answer stack) (lasts : below.length + 1 ≤ stack.length) :
    Under now below (taken + if answer.isFired then 1 else 0) stack := by
  cases shift with
  | pushed upper code unfired =>
    have silent : answer.isFired = false := by
      cases answer <;> first | rfl | exact absurd rfl (unfired _ _)
    obtain code | rfl := code
    · exact absurd top (no_pass_of_inCode code _ _ _)
    · exact .inl (by simp [silent, top])
  | fired id payload pass => exact .inr ⟨[], id, payload, taken, rfl, by rw [top]; rfl⟩
  | finished pass =>
    obtain ⟨-, rfl⟩ := List.cons.inj (top.symm.trans pass)
    omega
  | returned pass => simp [top] at pass
  | discarded pass => simp [top] at pass

theorem Under.shift_covered {upper : List (TimerFrame α)} {id : TimerId} {payload : α} {count : Nat}
    (covered : m.stack = upper ++ .callback id payload :: .pass now count :: below)
    (shift : Shift m answer stack) : Under now below (count + 1) stack := by
  cases shift with
  | pushed added code unfired =>
    exact .inr ⟨added ++ upper, id, payload, count, rfl, by rw [covered, List.append_assoc]⟩
  | fired newId newPayload pass =>
    exact .inr ⟨.callback newId newPayload :: upper, id, payload, count, rfl, by rw [covered]; rfl⟩
  | finished pass =>
    cases upper with
    | nil => simp [covered] at pass
    | cons frame upper =>
      obtain ⟨-, rfl⟩ := List.cons.inj (covered.symm.trans pass)
      exact .inr ⟨upper, id, payload, count, rfl, rfl⟩
  | returned pass =>
    match upper with
    | [] =>
      simp only [covered, List.nil_append, List.cons.injEq, TimerFrame.pass.injEq] at pass
      obtain ⟨-, ⟨rfl, rfl⟩, rfl⟩ := pass
      exact .inl rfl
    | [frame] => simp [covered] at pass
    | frame :: inner :: upper =>
      obtain ⟨-, rest⟩ := List.cons.inj (covered.symm.trans pass)
      obtain ⟨-, rfl⟩ := List.cons.inj rest
      exact .inr ⟨.pass _ _ :: upper, id, payload, count, rfl, rfl⟩
  | discarded pass =>
    cases upper with
    | nil => simp [covered] at pass
    | cons frame upper =>
      obtain ⟨-, rfl⟩ := List.cons.inj (covered.symm.trans pass)
      exact .inr ⟨upper, id, payload, count, rfl, rfl⟩

theorem Under.step (h : Under now below taken m.stack) (move : TimerMove α)
    (lasts : below.length + 1 ≤ (m.step move).2.stack.length) :
    Under now below
      (taken + if m.stack.length = below.length + 1 ∧ (m.step move).1.isFired then 1 else 0)
      (m.step move).2.stack := by
  have shift := m.step_shift move
  obtain top | ⟨upper, id, payload, count, rfl, covered⟩ := h
  · have depth : m.stack.length = below.length + 1 := by rw [top]; rfl
    simp only [depth, true_and]
    exact .shift_innermost top shift lasts
  · have deeper : m.stack.length ≠ below.length + 1 := by
      rw [covered, List.length_append, List.length_cons, List.length_cons]
      omega
    simp only [deeper, false_and, if_false, Nat.add_zero]
    exact .shift_covered covered shift

theorem Under.run (h : Under now below taken m.stack) {moves : List (TimerMove α)}
    (keeps : m.Keeps (below.length + 1) moves) :
    Under now below (taken + m.firedAt (below.length + 1) moves) (m.run moves).stack := by
  induction moves generalizing m taken with
  | nil => exact h
  | cons move moves ih =>
    have later := ih (h.step move keeps.2.depth_le) keeps.2
    rwa [Nat.add_assoc] at later

end Under

/-- What a pass for `now` does next, from a queue as it stands in `m`: it takes the first of all live
timers if that is due, and leaves the others; else nothing live is due and it gives its number. -/
def Fires (now : Nanos) (m : TimerMachine α) (count : Nat) (below : List (TimerFrame α)) : Prop :=
  let n := (m.step .advance).2
  (∃ t, m.agenda.First t ∧ t.fireAt ≤ now ∧ (m.step .advance).1 = .fired t.id t.payload ∧
      n.stack = .callback t.id t.payload :: m.stack ∧
      ∀ u, u ∈ n.agenda.timers ↔ u ∈ m.agenda.timers ∧ u ≠ t) ∨
    ((∀ t ∈ n.agenda.timers, now < t.fireAt) ∧ (m.step .advance).1 = .finished count ∧
      n.stack = below ∧ n.agenda = m.agenda)

theorem fires_of_pass (h : m.queue.Aligned) {now : Nanos} {count : Nat}
    {below : List (TimerFrame α)} (pass : m.stack = .pass now count :: below) :
    m.Fires now count below := by
  obtain ⟨-, -, taken | ⟨late, answer, stack, same⟩⟩ := advance_cases h pass
  · exact .inl taken
  · exact .inr ⟨fun t member => late t (same ▸ member), answer, stack, same⟩

theorem ends_by_advance {now : Nanos} {below : List (TimerFrame α)} {taken : Nat}
    (h : Under now below taken m.stack) {move : TimerMove α}
    (ends : (m.step move).2.stack.length ≤ below.length) :
    move = .advance ∧ m.stack = .pass now taken :: below := by
  obtain top | ⟨upper, id, payload, count, -, covered⟩ := h
  · refine ⟨Classical.byContradiction fun other => ?_, top⟩
    rw [step_refused top other, top, List.length_cons] at ends
    exact absurd ends (Nat.not_succ_le_self _)
  · have still := Under.shift_covered covered (m.step_shift move)
    exact absurd still.length_gt (Nat.not_lt.mpr ends)

theorem fired_after_schedule (h : m.queue.Aligned) {deadline : Nanos} {payload fired : α}
    {moves : List (TimerMove α)} {now : Nanos} {count : Nat} {below : List (TimerFrame α)}
    (pass : (run { m with queue := (m.queue.scheduleAt deadline payload).2 } moves).stack =
      .pass now count :: below)
    (fires : ((run { m with queue := (m.queue.scheduleAt deadline payload).2 } moves).step
      .advance).1 = .fired m.agenda.next fired) :
    fired = payload ∧ deadline ≤ now := by
  obtain ⟨aligned, added⟩ := h.scheduleAt deadline payload
  have later := Later.run (m := { m with queue := (m.queue.scheduleAt deadline payload).2 })
    aligned moves
  obtain ⟨-, -, ⟨t, first, due, answer, -⟩ | ⟨-, answer, -⟩⟩ := advance_cases later.aligned pass
  · obtain ⟨number, rfl⟩ := TimerAnswer.fired.inj (fires.symm.trans answer)
    have issued : t.id < (m.queue.scheduleAt deadline payload).2.agenda.next := by
      rw [added, ← number]
      exact Nat.lt_succ_self _
    have member : t ∈ (m.queue.scheduleAt deadline payload).2.agenda.timers :=
      later.old t first.1 issued
    rw [added] at member
    rcases (Agenda.mem_insert _ _ _ _).mp member with old | rfl
    · have below := (Schedule.Aligned.ordered h).below t old
      exact absurd number (Nat.ne_of_gt below)
    · exact ⟨rfl, due⟩
  · cases fires.symm.trans answer

/-- For every queue that can come about, with code running. A pass started there, whatever its
callbacks do to the queue, takes one after another the first of the live timers, which is due, until
none is due; it then gives the number of callbacks that it ran. A timer that is scheduled there after a
delay is due when the delay is over, and no pass for an earlier time fires it. -/
theorem firing_law (before : List (TimerMove α)) (code : (run {} before).inCode = true) :
    let m : TimerMachine α := run {} before
    (∀ now moves, (m.step (.enter now)).2.Keeps (m.stack.length + 1) moves →
      let n := (m.step (.enter now)).2.run moves
      (∀ move, (n.step move).2.stack.length ≤ m.stack.length →
        move = .advance ∧ n.stack.length = m.stack.length + 1) ∧
      (n.stack.length = m.stack.length + 1 →
        n.Fires now ((m.step (.enter now)).2.firedAt (m.stack.length + 1) moves) m.stack)) ∧
    ∀ clock delay payload,
      let scheduled := m.queue.scheduleAfter clock delay payload
      m.step (.schedule (deadlineAfter clock delay) payload) =
        (.scheduled scheduled.1, { m with queue := scheduled.2 }) ∧
      scheduled.1.fireAt = clock + min delay maxDelay ∧
      ∀ moves now count below fired,
        let n := run { m with queue := scheduled.2 } moves
        n.stack = .pass now count :: below → (n.step .advance).1 = .fired scheduled.1.id fired →
        fired = payload ∧ scheduled.1.fireAt ≤ now := by
  intro m
  have aligned : m.queue.Aligned := run_aligned before
  refine ⟨fun now moves keeps => ?_, fun clock delay payload => ?_⟩
  · have entered : m.step (.enter now) = _ := enter_eq code now
    have start : Under now m.stack 0 (m.step (.enter now)).2.stack := by
      rw [entered]
      exact .inl rfl
    have under := start.run keeps
    rw [Nat.zero_add] at under
    have later : Later m (m.run (.enter now :: moves)) := Later.run aligned _
    refine ⟨fun move ends => ?_, fun depth => ?_⟩
    · obtain ⟨advances, top⟩ := ends_by_advance under ends
      exact ⟨advances, by rw [top]; rfl⟩
    · exact fires_of_pass later.aligned (under.innermost depth)
  · exact ⟨scheduleAfter_eq code clock delay payload, rfl,
      fun moves now count below fired pass fires => fired_after_schedule aligned pass fires⟩

theorem firing_law_nested_pass :
    let m : TimerMachine Nat := run {} [.schedule 20 1, .schedule 10 2, .schedule 10 3]
    let moves : List (TimerMove Nat) :=
      [.advance, .cancel 2, .leave, .enter 30, .advance, .leave, .advance, .leave]
    m.inCode = true ∧ (m.step (.enter 10)).2.Keeps 1 moves ∧
      ((m.step (.enter 10)).2.run moves).stack.length = 1 ∧
      (m.step (.enter 10)).2.firedAt 1 moves = 1 ∧
      ((m.step (.enter 10)).2.run moves).Fires 10 1 [] :=
  ⟨by decide, by decide, by decide, by decide,
    ((firing_law [.schedule 20 1, .schedule 10 2, .schedule 10 3] (by decide)).1 10
      [.advance, .cancel 2, .leave, .enter 30, .advance, .leave, .advance, .leave]
      (by decide)).2 (by decide)⟩

end TimerMachine

end MessageRelay
