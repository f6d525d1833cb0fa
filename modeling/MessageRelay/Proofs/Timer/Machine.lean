import MessageRelay.Proofs.Timer.Schedule
import MessageRelay.Timer.Machine

/-!
One move of a timer machine, told by its effect on the live timers and on the stack. Timers are added
under new numbers only, so a timer with an old number was live before; and code that runs puts frames
on top of the stack or ends the innermost, but never reaches below a pass that is under way.
-/
namespace MessageRelay

variable {α : Type}

namespace TimerQueue

variable {q : TimerQueue α}

/-- The live timers, in the order in which they are due. -/
def agenda (q : TimerQueue α) : Agenda α := q.schedule.agenda

def Aligned (q : TimerQueue α) : Prop := q.schedule.Aligned

theorem Aligned.nextDeadline (h : q.Aligned) : q.nextDeadline.2.Aligned :=
  Schedule.Aligned.nextDeadline h

theorem agenda_nextDeadline (q : TimerQueue α) : q.nextDeadline.2.agenda = q.agenda :=
  Schedule.agenda_nextDeadline q.schedule

theorem Aligned.scheduleAt (h : q.Aligned) (deadline : Nanos) (payload : α) :
    (q.scheduleAt deadline payload).2.Aligned ∧
      (q.scheduleAt deadline payload).2.agenda = (q.agenda.insert deadline payload).2 := by
  have looked : q.schedule.nextDeadline.2.Aligned := Schedule.Aligned.nextDeadline h
  refine ⟨looked.insert deadline payload, ?_⟩
  have added := looked.agenda_insert deadline payload
  rw [Schedule.agenda_nextDeadline] at added
  exact added

theorem Aligned.cancel (h : q.Aligned) (id : TimerId) :
    (q.cancel id).2.Aligned ∧ (q.cancel id).2.agenda = (q.agenda.remove id).2 :=
  ⟨Schedule.Aligned.remove h id, Schedule.Aligned.agenda_remove h id⟩

theorem Aligned.popDue (h : q.Aligned) (now : Nanos) :
    (q.popDue now).2.Aligned ∧ (q.popDue now).1 = (q.agenda.popDue now).1 ∧
      (q.popDue now).2.agenda = (q.agenda.popDue now).2 :=
  Schedule.Aligned.popDue_spec h now

theorem Aligned.clear (h : q.Aligned) :
    q.clear.2.Aligned ∧ q.clear.2.agenda = { q.agenda with timers := [] } :=
  ⟨Schedule.Aligned.drain h, rfl⟩

end TimerQueue

namespace TimerMachine

variable {m n : TimerMachine α}

def run (m : TimerMachine α) (moves : List (TimerMove α)) : TimerMachine α :=
  moves.foldl (fun m move => (m.step move).2) m

def agenda (m : TimerMachine α) : Agenda α := m.queue.agenda

/-- How a move changes the stack, with the answer it gives. -/
inductive Shift (m : TimerMachine α) : TimerAnswer α → List (TimerFrame α) → Prop
  | pushed {answer : TimerAnswer α} (upper : List (TimerFrame α))
    (code : m.inCode = true ∨ upper = []) (unfired : ∀ id payload, answer ≠ .fired id payload) :
    Shift m answer (upper ++ m.stack)
  | fired {now : Nanos} {count : Nat} {below : List (TimerFrame α)} (id : TimerId) (payload : α)
    (pass : m.stack = .pass now count :: below) :
    Shift m (.fired id payload) (.callback id payload :: m.stack)
  | finished {now : Nanos} {count : Nat} {below : List (TimerFrame α)}
    (pass : m.stack = .pass now count :: below) : Shift m (.finished count) below
  | returned {id : TimerId} {payload : α} {now : Nanos} {count : Nat}
    {below : List (TimerFrame α)}
    (stack : m.stack = .callback id payload :: .pass now count :: below) :
    Shift m .left (.pass now (count + 1) :: below)
  | discarded {payload : α} {below : List (TimerFrame α)}
    (stack : m.stack = .discard payload :: below) : Shift m .left below

structure Later (m n : TimerMachine α) : Prop where
  aligned : n.queue.Aligned
  next : m.agenda.next ≤ n.agenda.next
  old : ∀ t ∈ n.agenda.timers, t.id < m.agenda.next → t ∈ m.agenda.timers

namespace Later

theorem of_agenda (aligned : n.queue.Aligned) (same : n.agenda = m.agenda) : Later m n :=
  ⟨aligned, Nat.le_of_eq (by rw [same]), fun t member _ => same ▸ member⟩

theorem refl (h : m.queue.Aligned) : Later m m := of_agenda h rfl

theorem trans {l : TimerMachine α} (first : Later m n) (second : Later n l) : Later m l where
  aligned := second.aligned
  next := Nat.le_trans first.next second.next
  old t member below :=
    first.old t (second.old t member (Nat.lt_of_lt_of_le below first.next)) below

end Later

theorem inCode_or_pass (m : TimerMachine α) :
    m.inCode = true ∨ ∃ now count below, m.stack = .pass now count :: below := by
  unfold inCode
  split
  · rename_i stack
    exact .inr ⟨_, _, _, stack⟩
  · exact .inl rfl

theorem no_pass_of_inCode (code : m.inCode = true) (now : Nanos) (count : Nat)
    (below : List (TimerFrame α)) : m.stack ≠ .pass now count :: below := by
  intro stack
  simp [inCode, stack] at code

@[elab_as_elim]
theorem inCode_cases {motive : TimerMachine α → Prop} (code : m.inCode = true)
    (outside : ∀ queue, motive ⟨queue, []⟩)
    (callback : ∀ queue id payload below, motive ⟨queue, .callback id payload :: below⟩)
    (discard : ∀ queue payload below, motive ⟨queue, .discard payload :: below⟩) : motive m := by
  obtain ⟨queue, _ | ⟨_ | _ | _, below⟩⟩ := m
  · exact outside queue
  · cases code
  · exact callback queue _ _ below
  · exact discard queue _ below

section Code

variable (code : m.inCode = true)
include code

theorem schedule_eq (deadline : Nanos) (payload : α) :
    m.step (.schedule deadline payload) =
      (.scheduled (m.queue.scheduleAt deadline payload).1,
        { m with queue := (m.queue.scheduleAt deadline payload).2 }) :=
  inCode_cases code (fun _ => rfl) (fun _ _ _ _ => rfl) fun _ _ _ => rfl

theorem scheduleAfter_eq (clock delay : Nanos) (payload : α) :
    m.step (.schedule (deadlineAfter clock delay) payload) =
      (.scheduled (m.queue.scheduleAfter clock delay payload).1,
        { m with queue := (m.queue.scheduleAfter clock delay payload).2 }) :=
  schedule_eq code (deadlineAfter clock delay) payload

theorem cancel_eq (id : TimerId) :
    m.step (.cancel id) =
      (.cancelled (m.queue.cancel id).1,
        ⟨(m.queue.cancel id).2,
          ((m.queue.cancel id).1.map TimerFrame.discard).toList ++ m.stack⟩) :=
  inCode_cases code (fun _ => rfl) (fun _ _ _ _ => rfl) fun _ _ _ => rfl

theorem clear_eq :
    m.step .clear =
      (.cleared m.queue.clear.1, ⟨m.queue.clear.2, m.queue.clear.1.map .discard ++ m.stack⟩) :=
  inCode_cases code (fun _ => rfl) (fun _ _ _ _ => rfl) fun _ _ _ => rfl

theorem look_eq :
    m.step .look =
      (.deadline m.queue.nextDeadline.1, { m with queue := m.queue.nextDeadline.2 }) :=
  inCode_cases code (fun _ => rfl) (fun _ _ _ _ => rfl) fun _ _ _ => rfl

theorem enter_eq (now : Nanos) :
    m.step (.enter now) = (.entered, { m with stack := .pass now 0 :: m.stack }) :=
  inCode_cases code (fun _ => rfl) (fun _ _ _ _ => rfl) fun _ _ _ => rfl

theorem advance_inCode : m.step .advance = (.refused, m) :=
  inCode_cases code (fun _ => rfl) (fun _ _ _ _ => rfl) fun _ _ _ => rfl

end Code

theorem advance_eq {now : Nanos} {count : Nat} {below : List (TimerFrame α)}
    (pass : m.stack = .pass now count :: below) :
    m.step .advance =
      match m.queue.popDue now with
      | (some (id, payload), queue) =>
        (.fired id payload, ⟨queue, .callback id payload :: .pass now count :: below⟩)
      | (none, queue) => (.finished count, ⟨queue.endPass count, below⟩) := by
  obtain ⟨queue, stack⟩ := m
  cases pass
  rfl

/-- What a pass does next: it takes the first timer, if that is due; else no timer is, and it ends. -/
theorem advance_cases (h : m.queue.Aligned) {now : Nanos} {count : Nat}
    {below : List (TimerFrame α)} (pass : m.stack = .pass now count :: below) :
    let n := (m.step .advance).2
    n.queue.Aligned ∧ n.agenda.next = m.agenda.next ∧
    ((∃ t, m.agenda.First t ∧ t.fireAt ≤ now ∧
        (m.step .advance).1 = .fired t.id t.payload ∧
        n.stack = .callback t.id t.payload :: m.stack ∧
        ∀ u, u ∈ n.agenda.timers ↔ u ∈ m.agenda.timers ∧ u ≠ t) ∨
      ((∀ t ∈ m.agenda.timers, now < t.fireAt) ∧ (m.step .advance).1 = .finished count ∧
        n.stack = below ∧ n.agenda = m.agenda)) := by
  obtain ⟨aligned, answer, agenda⟩ := h.popDue now
  have ordered : m.agenda.Ordered := Schedule.Aligned.ordered h
  have next : (m.agenda.popDue now).2.next = m.agenda.next := by
    unfold Agenda.popDue
    split
    · rfl
    · split <;> rfl
  rw [advance_eq pass]
  generalize m.queue.popDue now = popped at aligned answer agenda
  obtain ⟨due, queue⟩ := popped
  rcases ordered.popDue_cases now with ⟨t, first, inTime, taken, rest⟩ | ⟨late, none⟩
  · cases answer.trans taken
    refine ⟨aligned, ?_, .inl ⟨t, first, inTime, rfl, by rw [pass], fun u => ?_⟩⟩
    · exact (congrArg Agenda.next agenda).trans next
    · rw [← rest u]
      exact iff_of_eq (congrArg (u ∈ ·.timers) agenda)
  · have nothing : (m.agenda.popDue now).1 = .none := congrArg Prod.fst none
    cases answer.trans nothing
    refine ⟨aligned, ?_, .inr ⟨late, rfl, rfl, ?_⟩⟩
    · exact (congrArg Agenda.next agenda).trans next
    · exact agenda.trans (congrArg Prod.snd none)

theorem step_refused {now : Nanos} {count : Nat} {below : List (TimerFrame α)}
    (pass : m.stack = .pass now count :: below) {move : TimerMove α} (other : move ≠ .advance) :
    m.step move = (.refused, m) := by
  obtain ⟨queue, stack⟩ := m
  cases pass
  cases move with
  | advance => exact absurd rfl other
  | _ => rfl

theorem leave_shift (m : TimerMachine α) :
    Shift m (m.step .leave).1 (m.step .leave).2.stack ∧ (m.step .leave).2.queue = m.queue := by
  obtain ⟨queue, stack⟩ := m
  match stack with
  | .callback id payload :: .pass now count :: below => exact ⟨.returned rfl, rfl⟩
  | .discard payload :: below => exact ⟨.discarded rfl, rfl⟩
  | [] | [.callback _ _] | .callback _ _ :: .callback _ _ :: _ | .callback _ _ :: .discard _ :: _
  | .pass _ _ :: _ => exact ⟨.pushed [] (.inr rfl) nofun, rfl⟩

theorem step_shift (m : TimerMachine α) (move : TimerMove α) :
    Shift m (m.step move).1 (m.step move).2.stack := by
  have quiet {answer : TimerAnswer α} (unfired : ∀ id payload, answer ≠ .fired id payload) :
      Shift m answer m.stack := .pushed [] (.inr rfl) unfired
  rcases m.inCode_or_pass with code | ⟨now, count, below, pass⟩
  · cases move with
    | schedule deadline payload => rw [schedule_eq code]; exact quiet (by simp)
    | cancel id => rw [cancel_eq code]; exact .pushed _ (.inl code) (by simp)
    | clear => rw [clear_eq code]; exact .pushed _ (.inl code) (by simp)
    | look => rw [look_eq code]; exact quiet (by simp)
    | enter now => rw [enter_eq code]; exact .pushed [.pass now 0] (.inl code) (by simp)
    | advance =>
      rw [advance_inCode code]
      exact quiet (by simp)
    | leave => exact (leave_shift m).1
  · by_cases advances : move = .advance
    · subst advances
      rw [advance_eq pass]
      split
      · rw [← pass]
        exact .fired _ _ pass
      · exact .finished pass
    · rw [step_refused pass advances]
      exact quiet (by simp)

theorem Later.step (h : m.queue.Aligned) (move : TimerMove α) : Later m (m.step move).2 := by
  rcases m.inCode_or_pass with code | ⟨now, count, below, pass⟩
  · cases move with
    | schedule deadline payload =>
      obtain ⟨aligned, agenda⟩ := h.scheduleAt deadline payload
      rw [schedule_eq code]
      refine ⟨aligned, ?_, fun t member below => ?_⟩
      · exact Nat.le_trans (Nat.le_succ _) (Nat.le_of_eq (congrArg Agenda.next agenda).symm)
      · have member : t ∈ (m.agenda.insert deadline payload).2.timers :=
          congrArg Agenda.timers agenda ▸ member
        rcases (Agenda.mem_insert _ _ _ _).mp member with old | rfl
        · exact old
        · exact absurd below (Nat.lt_irrefl _)
    | cancel id =>
      obtain ⟨aligned, agenda⟩ := h.cancel id
      rw [cancel_eq code]
      exact ⟨aligned, Nat.le_of_eq (congrArg Agenda.next agenda).symm,
        fun t member _ => List.mem_of_mem_filter (congrArg Agenda.timers agenda ▸ member)⟩
    | clear =>
      obtain ⟨aligned, agenda⟩ := h.clear
      rw [clear_eq code]
      refine ⟨aligned, Nat.le_of_eq (congrArg Agenda.next agenda).symm, fun t member _ => ?_⟩
      exact absurd (congrArg Agenda.timers agenda ▸ member) List.not_mem_nil
    | look => rw [look_eq code]; exact .of_agenda h.nextDeadline m.queue.agenda_nextDeadline
    | enter now => rw [enter_eq code]; exact .of_agenda h rfl
    | advance =>
      rw [advance_inCode code]
      exact .refl h
    | leave =>
      have same := (leave_shift m).2
      exact .of_agenda (same ▸ h) (congrArg TimerQueue.agenda same)
  · by_cases advances : move = .advance
    · subst advances
      obtain ⟨aligned, next, ⟨t, -, -, -, -, rest⟩ | ⟨-, -, -, same⟩⟩ := advance_cases h pass
      · exact ⟨aligned, Nat.le_of_eq next.symm, fun u member _ => ((rest u).mp member).1⟩
      · exact .of_agenda aligned same
    · rw [step_refused pass advances]
      exact .refl h

theorem Later.run (h : m.queue.Aligned) (moves : List (TimerMove α)) : Later m (m.run moves) := by
  induction moves generalizing m with
  | nil => exact .refl h
  | cons move moves ih =>
    have first := Later.step h move
    exact first.trans (ih first.aligned)

theorem run_aligned (moves : List (TimerMove α)) :
    (run {} moves : TimerMachine α).queue.Aligned := by
  have start : ({} : TimerMachine α).queue.Aligned := Schedule.Aligned.empty
  exact (Later.run start moves).aligned

end TimerMachine

end MessageRelay
