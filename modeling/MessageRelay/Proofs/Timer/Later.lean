import MessageRelay.Proofs.Timer.Live
import MessageRelay.Proofs.Timer.Machine

/-!
A queue held against what it was before others used it. Timers are added under new numbers only, so a
timer with an old number was there, with the deadline that it has; and what a pass takes is the first
of all.
-/
namespace MessageRelay.TimerQueue

variable {α : Type} {q r : TimerQueue α}

/-- Timers of `r` with old numbers are live in `q` too. -/
structure Later (q r : TimerQueue α) : Prop where
  aligned : r.Aligned
  next : q.next ≤ r.next
  old : ∀ t ∈ r.agenda.timers, t.id < q.next → t ∈ q.agenda.timers

namespace Later

theorem of_agenda (aligned : r.Aligned) (same : r.agenda = q.agenda) : Later q r :=
  ⟨aligned, Nat.le_of_eq (congrArg Agenda.next same.symm), fun _ member _ => same ▸ member⟩

theorem refl (h : q.Aligned) : Later q q := of_agenda h rfl

theorem trans {s : TimerQueue α} (first : Later q r) (second : Later r s) : Later q s where
  aligned := second.aligned
  next := Nat.le_trans first.next second.next
  old t member below :=
    first.old t (second.old t member (Nat.lt_of_lt_of_le below first.next)) below

theorem of_fewer {a : Agenda α} (aligned : r.Aligned) (same : r.agenda = a)
    (next : a.next = q.agenda.next) (fewer : ∀ t ∈ a.timers, t ∈ q.agenda.timers) : Later q r where
  aligned := aligned
  next := Nat.le_of_eq (next.symm.trans (congrArg Agenda.next same.symm))
  old t member _ := fewer t (same ▸ member)

theorem scheduleAt (h : q.Aligned) (deadline : Nanos) (payload : α) :
    Later q (q.scheduleAt deadline payload).2 := by
  obtain ⟨aligned, agenda⟩ := h.scheduleAt deadline payload
  refine ⟨aligned, Nat.le_succ _, fun t member below => ?_⟩
  rw [agenda, Agenda.mem_insert] at member
  rcases member with old | rfl
  · exact old
  · exact absurd below (Nat.lt_irrefl _)

theorem cancel (h : q.Aligned) (id : TimerId) : Later q (q.cancel id).2 :=
  of_fewer (h.cancel id).1 (h.cancel id).2 rfl fun _ member => List.mem_of_mem_filter member

theorem clear (h : q.Aligned) : Later q q.clear.2 :=
  of_fewer h.clear.1 h.clear.2 rfl fun _ member => absurd member List.not_mem_nil

theorem popDue (h : q.Aligned) (now : Nanos) : Later q (q.popDue now).2 := by
  obtain ⟨aligned, -, agenda⟩ := h.popDue now
  have ordered : q.agenda.Ordered := Schedule.Aligned.ordered h
  have next : (q.agenda.popDue now).2.next = q.agenda.next := by
    unfold Agenda.popDue
    split
    · rfl
    · split <;> rfl
  refine of_fewer aligned agenda next fun t member => ?_
  rcases ordered.popDue_cases now with ⟨u, -, -, -, rest⟩ | ⟨-, same⟩
  · exact ((rest t).mp member).1
  · rwa [same] at member

theorem endPass (h : q.Aligned) (count : Nat) : Later q (q.endPass count) := of_agenda h rfl

end Later

theorem Aligned.live?_eq_some_iff (h : q.Aligned) {id : TimerId} {payload : α} :
    q.live? id = some payload ↔ ∃ t ∈ q.agenda.timers, t.id = id ∧ t.payload = payload :=
  Schedule.Aligned.find?_eq_some_iff h

theorem Aligned.fireAt_scheduleAt (h : q.Aligned) {deadline : Nanos} {payload : α} {t : Timer α}
    (live : t ∈ (q.scheduleAt deadline payload).2.agenda.timers) (new : t.id = q.next) :
    t.fireAt = deadline := by
  have ordered : q.agenda.Ordered := Schedule.Aligned.ordered h
  rw [(h.scheduleAt deadline payload).2, Agenda.mem_insert] at live
  rcases live with old | rfl
  · exact absurd new (Nat.ne_of_lt (ordered.below t old))
  · rfl

theorem Aligned.first_of_popDue (h : q.Aligned) {now : Nanos} {id : TimerId} {payload : α}
    (due : (q.popDue now).1 = some (id, payload)) :
    ∃ t, q.agenda.First t ∧ t.fireAt ≤ now ∧ t.id = id := by
  have ordered : q.agenda.Ordered := Schedule.Aligned.ordered h
  rw [(h.popDue now).2.1] at due
  rcases ordered.popDue_cases now with ⟨t, first, inTime, taken, -⟩ | ⟨-, none⟩
  · cases taken.symm.trans due
    exact ⟨t, first, inTime, rfl⟩
  · rw [none] at due
    cases due

theorem Aligned.late_of_popDue (h : q.Aligned) {now : Nanos} (none : (q.popDue now).1 = none) :
    ∀ t ∈ q.agenda.timers, now < t.fireAt := by
  have ordered : q.agenda.Ordered := Schedule.Aligned.ordered h
  rw [(h.popDue now).2.1] at none
  rcases ordered.popDue_cases now with ⟨t, -, -, taken, -⟩ | ⟨late, -⟩
  · rw [taken] at none
    cases none
  · exact late

end MessageRelay.TimerQueue
