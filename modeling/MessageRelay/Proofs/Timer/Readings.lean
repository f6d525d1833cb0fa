import MessageRelay.Proofs.Timer.Fates

/-!
The counters of a queue as code reads them. A pass counts what it fired when it ends, and the number
of timers scheduled is added up from the other counters. So what passes under way have taken is
missing from a reading, and it is just this that is missing: code in a callback is always told too
little, and of two readings the later one is the lower if passes have taken more in between than was
scheduled. The other two counters never go back.
-/
namespace MessageRelay

variable {α : Type}

/-- A pass has taken a timer that it has not counted yet. -/
def TimerFrame.hasTaken : TimerFrame α → Bool
  | .pass _ count => decide (0 < count)
  | .callback _ _ => true
  | .discard _ => false

namespace TimerMachine

variable {m : TimerMachine α} {r : TimerRecord}

def reading (m : TimerMachine α) : TimerStats := m.queue.stats

/-- Each callback stands right above the pass that took its timer. -/
inductive Nested : List (TimerFrame α) → Prop
  | nil : Nested []
  | pass {now : Nanos} {count : Nat} {below : List (TimerFrame α)} (rest : Nested below) :
    Nested (.pass now count :: below)
  | callback {id : TimerId} {payload : α} {now : Nanos} {count : Nat} {below : List (TimerFrame α)}
    (rest : Nested below) : Nested (.callback id payload :: .pass now count :: below)
  | discard {payload : α} {below : List (TimerFrame α)} (rest : Nested below) :
    Nested (.discard payload :: below)

namespace Nested

theorem discards {stack : List (TimerFrame α)} (h : Nested stack) (payloads : List α) :
    Nested (payloads.map .discard ++ stack) := by
  induction payloads with
  | nil => exact h
  | cons payload payloads ih => exact .discard ih

theorem leave (h : Nested m.stack) : Nested (m.step .leave).2.stack := by
  obtain ⟨queue, stack⟩ := m
  cases h with
  | nil => exact .nil
  | pass rest => exact .pass rest
  | callback rest => exact .pass rest
  | discard rest => exact rest

theorem advance (h : Nested m.stack) {now : Nanos} {count : Nat} {below : List (TimerFrame α)}
    (pass : m.stack = .pass now count :: below) : Nested (m.step .advance).2.stack := by
  rw [pass] at h
  cases h with
  | pass rest =>
    rw [advance_eq pass]
    split
    · exact .callback rest
    · exact rest

theorem step (h : Nested m.stack) (move : TimerMove α) : Nested (m.step move).2.stack := by
  rcases m.inCode_or_pass with code | ⟨now, count, below, pass⟩
  · cases move with
    | schedule deadline payload => rw [schedule_eq code]; exact h
    | cancel id =>
      rw [cancel_eq code]
      cases (m.queue.cancel id).1 with
      | none => exact h
      | some payload => exact .discard h
    | clear => rw [clear_eq code]; exact h.discards _
    | look => rw [look_eq code]; exact h
    | enter now => rw [enter_eq code]; exact .pass h
    | advance => rw [advance_inCode code]; exact h
    | leave => exact h.leave
  · by_cases advances : move = .advance
    · exact advances ▸ h.advance pass
    · rw [step_refused pass advances]
      exact h

theorem run (h : Nested m.stack) (moves : List (TimerMove α)) : Nested (m.run moves).stack := by
  induction moves generalizing m with
  | nil => exact h
  | cons move moves ih => exact ih (h.step move)

theorem underway_eq_zero_iff {stack : List (TimerFrame α)} (h : Nested stack) :
    underway stack = 0 ↔ ∀ frame ∈ stack, frame.hasTaken = false := by
  induction h with
  | nil => simp [underway]
  | pass rest ih => simp [underway, TimerFrame.hasTaken, ih]
  | callback rest ih => simp [underway, TimerFrame.hasTaken, TimerFrame.isPass]
  | discard rest ih => simp [underway, TimerFrame.hasTaken, ih]

end Nested

theorem counted_step (m : TimerMachine α) (move : TimerMove α) :
    m.queue.fired ≤ (m.step move).2.queue.fired ∧
      m.queue.cancelled ≤ (m.step move).2.queue.cancelled := by
  rcases m.inCode_or_pass with code | ⟨now, count, below, pass⟩
  · cases move with
    | schedule deadline payload => rw [schedule_eq code]; exact ⟨Nat.le_refl _, Nat.le_refl _⟩
    | cancel id => rw [cancel_eq code]; exact ⟨Nat.le_refl _, Nat.le_add_right _ _⟩
    | clear => rw [clear_eq code]; exact ⟨Nat.le_refl _, Nat.le_add_right _ _⟩
    | look => rw [look_eq code]; exact ⟨Nat.le_refl _, Nat.le_refl _⟩
    | enter now => rw [enter_eq code]; exact ⟨Nat.le_refl _, Nat.le_refl _⟩
    | advance => rw [advance_inCode code]; exact ⟨Nat.le_refl _, Nat.le_refl _⟩
    | leave => rw [(leave_shift m).2]; exact ⟨Nat.le_refl _, Nat.le_refl _⟩
  · by_cases advances : move = .advance
    · rw [advances, advance_eq pass]
      split
      · rename_i due
        exact ⟨Nat.le_of_eq (TimerQueue.fired_popDue due).symm,
          Nat.le_of_eq (TimerQueue.cancelled_popDue due).symm⟩
      · rename_i idle
        refine ⟨?_, Nat.le_of_eq (TimerQueue.cancelled_popDue idle).symm⟩
        exact (TimerQueue.fired_popDue idle) ▸ Nat.le_add_right _ _
    · rw [step_refused pass advances]
      exact ⟨Nat.le_refl _, Nat.le_refl _⟩

theorem counted_run (m : TimerMachine α) (moves : List (TimerMove α)) :
    m.queue.fired ≤ (m.run moves).queue.fired ∧
      m.queue.cancelled ≤ (m.run moves).queue.cancelled := by
  induction moves generalizing m with
  | nil => exact ⟨Nat.le_refl _, Nat.le_refl _⟩
  | cons move moves ih =>
    obtain ⟨fired, cancelled⟩ := counted_step m move
    obtain ⟨fired', cancelled'⟩ := ih (m.step move).2
    exact ⟨Nat.le_trans fired fired', Nat.le_trans cancelled cancelled'⟩

theorem Kept.reading_add_underway (h : m.Kept r) :
    m.reading.scheduled + underway m.stack = r.scheduled.length ∧
      m.reading.fired + underway m.stack = r.fired.length ∧ m.reading.cancelled = r.withdrawn := by
  have fired : m.reading.fired + underway m.stack = r.fired.length := h.fired
  have cancelled : m.reading.cancelled = r.withdrawn := h.agrees.counted
  have parted := h.agrees.parted.length_eq
  rw [List.length_append, List.length_append, TimerQueue.length_liveIds, h.agrees.withdrawn]
    at parted
  have total : m.reading.scheduled = m.reading.fired + m.reading.cancelled + m.queue.size := rfl
  exact ⟨by omega, fired, cancelled⟩

/-- Whenever code reads the counters: `scheduled` is the number of timers that were scheduled less
those that passes under way have taken, so it is right if there are none of these, and only then.
Read again later, `fired` and `cancelled` are no lower, and `scheduled` is lower just if more timers
have been taken and not counted in between than were scheduled. -/
theorem readings_miss_timers_underway (first later : List (TimerMove α)) :
    let m : TimerMachine α := run {} first
    let n := m.run later
    let r := record {} ({} : TimerMachine α) first
    let r' := record r m later
    (m.reading.scheduled + underway m.stack = r.scheduled.length ∧
      m.reading.fired + underway m.stack = r.fired.length ∧ m.reading.cancelled = r.withdrawn) ∧
    (m.reading.scheduled = r.scheduled.length ↔ ∀ frame ∈ m.stack, frame.hasTaken = false) ∧
    (m.reading.fired ≤ n.reading.fired ∧ m.reading.cancelled ≤ n.reading.cancelled) ∧
    (n.reading.scheduled < m.reading.scheduled ↔
      r'.scheduled.length + underway m.stack < r.scheduled.length + underway n.stack) := by
  intro m n r r'
  have kept : m.Kept r := Kept.run ⟨TimerRecord.Agrees.empty, rfl⟩ first
  have nested : Nested m.stack := Nested.run .nil first
  have now := kept.reading_add_underway
  have then' := (kept.run later).reading_add_underway
  refine ⟨now, ?_, counted_run m later, ?_⟩
  · rw [← nested.underway_eq_zero_iff]
    omega
  · change m.reading.scheduled + underway m.stack = r.scheduled.length ∧ _ at now
    change n.reading.scheduled + underway n.stack = r'.scheduled.length ∧ _ at then'
    omega

/-- One timer is scheduled, and code that reads the counters is told so; the callback of the timer,
where it reads them, is told that there was none. -/
theorem reading_goes_back :
    let before : TimerMachine Unit := run {} [.schedule 0 ()]
    let inside := before.run [.enter 0, .advance]
    before.inCode = true ∧ before.reading.scheduled = 1 ∧ inside.inCode = true ∧
      inside.reading.scheduled = 0 := by
  decide

end TimerMachine

end MessageRelay
