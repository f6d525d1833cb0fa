import MessageRelay.Proofs.Timer.Live

/-!
Timers of a queue, counted. Scheduling adds one under the next number; a cancellation that finds its
timer takes it out and counts it; a pass takes out what it fires, and counts that later. So each
number that was given out is that of a live timer, of one that was cancelled, or of one that a pass
took. Whatever code does with the queue between passes comes to a few such operations.
-/
namespace MessageRelay.TimerQueue

variable {α : Type} {q r : TimerQueue α} {j : TimerId} {payload : α}

def issued (q : TimerQueue α) : Nat := q.next

def liveIds (q : TimerQueue α) : List TimerId := q.schedule.live.map (·.1)

theorem length_liveIds (q : TimerQueue α) : q.liveIds.length = q.size := List.length_map _

theorem isScheduled_eq (q : TimerQueue α) (j : TimerId) : q.isScheduled j = (q.live? j).isSome := rfl

theorem mem_liveIds : j ∈ q.liveIds ↔ q.isScheduled j = true := by
  rw [isScheduled_eq, ← Option.ne_none_iff_isSome]
  exact (not_iff_comm.mp Schedule.find?_eq_none_iff.symm).symm

theorem liveIds_of_erased (erased : r.schedule.live = Schedule.erase q.schedule.live j) :
    r.liveIds = q.liveIds.erase j := by
  rw [liveIds, liveIds, erased, List.erase_eq_eraseP', List.eraseP_map]
  rfl

theorem cancel_isSome (j : TimerId) (q : TimerQueue α) : (q.cancel j).1.isSome = q.isScheduled j := rfl

theorem liveIds_cancel (j : TimerId) (q : TimerQueue α) :
    (q.cancel j).2.liveIds = q.liveIds.erase j := liveIds_of_erased rfl

theorem length_clear (q : TimerQueue α) : q.clear.1.length = q.size := by
  simp only [clear, Schedule.drain, List.length_map, List.length_reverse]
  rfl

theorem liveIds_popDue_some {now : Nanos} (due : q.popDue now = (some (j, payload), r)) :
    j ∈ q.liveIds ∧ r.liveIds = q.liveIds.erase j ∧ r.issued = q.issued := by
  obtain ⟨live, erased, next⟩ := popDue_some due
  refine ⟨mem_liveIds.mpr ?_, liveIds_of_erased erased, next⟩
  rw [isScheduled_eq, live]
  rfl

theorem liveIds_popDue_none {now : Nanos} (idle : q.popDue now = (none, r)) :
    r.liveIds = q.liveIds ∧ r.issued = q.issued := by
  obtain ⟨live, next⟩ := popDue_none idle
  exact ⟨by rw [liveIds, live]; rfl, next⟩

theorem fewer_of_popDue (h : q.Numbered) {now : Nanos} {due : Option (TimerId × α)}
    (popped : q.popDue now = (due, r)) :
    r.Numbered ∧ r.issued = q.issued ∧
      ∀ {n payload}, r.live? n = some payload → q.live? n = some payload := by
  cases due with
  | none =>
    obtain ⟨live, next⟩ := popDue_none popped
    refine ⟨h.sublist (live ▸ List.Sublist.refl _) next, next, fun {n payload} alive => ?_⟩
    exact (congrArg (Schedule.find? · n) live).symm.trans alive
  | some taken =>
    obtain ⟨j, payload⟩ := taken
    obtain ⟨-, erased, next⟩ := popDue_some popped
    refine ⟨h.sublist (erased ▸ List.eraseP_sublist) next, next, fun {n payload} alive => ?_⟩
    rw [live?_erase h erased] at alive
    split at alive
    · cases alive
    · exact alive

/-- Of all timers scheduled, so many were taken by passes; the others are live or were cancelled. -/
def Accounted (taken : Nat) (q : TimerQueue α) : Prop := q.issued = q.cancelled + q.size + taken

namespace Accounted

variable {taken : Nat}

theorem scheduleAt (h : q.Accounted taken) (deadline : Nanos) (payload : α) :
    (q.scheduleAt deadline payload).2.Accounted taken := by
  have same : (q.scheduleAt deadline payload).2.cancelled = q.cancelled := rfl
  have issued : (q.scheduleAt deadline payload).2.issued = q.issued + 1 := rfl
  have size : (q.scheduleAt deadline payload).2.size = q.size + 1 := rfl
  unfold Accounted at h ⊢
  omega

theorem cancel (h : q.Accounted taken) (j : TimerId) : (q.cancel j).2.Accounted taken := by
  have issued : (q.cancel j).2.issued = q.issued := rfl
  have counted : (q.cancel j).2.cancelled = q.cancelled + if q.isScheduled j then 1 else 0 := rfl
  have size : (q.cancel j).2.size = (q.liveIds.erase j).length := by
    rw [← length_liveIds, liveIds_cancel]
  have before := q.length_liveIds
  unfold Accounted at h ⊢
  by_cases live : q.isScheduled j = true
  · have listed := mem_liveIds.mpr live
    have some := List.length_pos_of_mem listed
    rw [List.length_erase_of_mem listed] at size
    rw [if_pos live] at counted
    omega
  · rw [List.erase_of_not_mem fun listed => live (mem_liveIds.mp listed)] at size
    rw [if_neg live] at counted
    omega

theorem clear (h : q.Accounted taken) : q.clear.2.Accounted taken := by
  have issued : q.clear.2.issued = q.issued := rfl
  have counted : q.clear.2.cancelled = q.cancelled + q.clear.1.length := rfl
  have size : q.clear.2.size = 0 := rfl
  have all := q.length_clear
  unfold Accounted at h ⊢
  omega

end Accounted

theorem cancelled_popDue {now : Nanos} {due : Option (TimerId × α)}
    (popped : q.popDue now = (due, r)) : r.cancelled = q.cancelled :=
  congrArg (·.2.cancelled) popped.symm

theorem fired_popDue {now : Nanos} {due : Option (TimerId × α)} (popped : q.popDue now = (due, r)) :
    r.fired = q.fired :=
  congrArg (·.2.fired) popped.symm

theorem Accounted.popDue_some {taken now : Nat} (h : q.Accounted taken)
    (due : q.popDue now = (some (j, payload), r)) : r.Accounted (taken + 1) := by
  obtain ⟨listed, rest, issued⟩ := liveIds_popDue_some due
  have counted := cancelled_popDue due
  have some := List.length_pos_of_mem listed
  have size : r.size = (q.liveIds.erase j).length := by rw [← length_liveIds, rest]
  have before := q.length_liveIds
  rw [List.length_erase_of_mem listed] at size
  unfold Accounted at h ⊢
  omega

theorem Accounted.popDue_none {taken now : Nat} (h : q.Accounted taken)
    (idle : q.popDue now = (none, r)) : r.Accounted taken := by
  obtain ⟨rest, issued⟩ := liveIds_popDue_none idle
  have counted := cancelled_popDue idle
  have size : r.size = q.size := by rw [← length_liveIds, ← length_liveIds, rest]
  unfold Accounted at h ⊢
  omega

/-- Timers were cancelled, and no other was scheduled but one that carries this. -/
structure Rearranged (q : TimerQueue α) (added : Option α) (r : TimerQueue α) : Prop where
  issued : r.issued = q.issued + added.toList.length
  fired : r.fired = q.fired
  live : q.Numbered → ∀ {n payload}, r.live? n = some payload →
    q.live? n = some payload ∨ (n = q.issued ∧ added = some payload)
  numbered : q.Numbered → r.Numbered
  accounted : ∀ {taken}, q.Accounted taken → r.Accounted taken

namespace Rearranged

variable {added : Option α}

theorem refl (q : TimerQueue α) : q.Rearranged none q := ⟨rfl, rfl, fun _ _ _ => .inl, id, id⟩

theorem trans {s : TimerQueue α} (h : q.Rearranged added r) (h' : r.Rearranged none s) :
    q.Rearranged added s where
  issued := h'.issued.trans h.issued
  fired := h'.fired.trans h.fired
  live numbered _ _ alive :=
    h.live numbered ((h'.live (h.numbered numbered) alive).resolve_right nofun)
  numbered numbered := h'.numbered (h.numbered numbered)
  accounted counted := h'.accounted (h.accounted counted)

theorem scheduleAfter (now delay : Nanos) (payload : α) (q : TimerQueue α) :
    q.Rearranged (some payload) (q.scheduleAfter now delay payload).2 where
  issued := rfl
  fired := rfl
  live numbered n p alive := by
    have alive' := (live?_scheduleAt (deadlineAfter now delay) payload q n).symm.trans alive
    split at alive'
    · exact .inr ⟨‹_›, alive'⟩
    · exact .inl alive'
  numbered numbered := numbered.scheduleAt _ _
  accounted counted := counted.scheduleAt _ _

theorem cancel (j : TimerId) (q : TimerQueue α) : q.Rearranged none (q.cancel j).2 where
  issued := rfl
  fired := rfl
  live numbered n payload alive := by
    have alive' := (live?_cancel numbered j n).symm.trans alive
    split at alive'
    · cases alive'
    · exact .inl alive'
  numbered numbered := numbered.cancel j
  accounted counted := counted.cancel j

theorem clear (q : TimerQueue α) : q.Rearranged none q.clear.2 where
  issued := rfl
  fired := rfl
  live _ _ _ alive := by cases alive
  numbered numbered := numbered.clear
  accounted counted := counted.clear

theorem look (q : TimerQueue α) : q.Rearranged none q.nextDeadline.2 where
  issued := rfl
  fired := rfl
  live _ _ _ alive := .inl alive
  numbered numbered := ⟨numbered.nodup, numbered.below⟩
  accounted := id

theorem heed (q : TimerQueue α) : q.Rearranged none { q with rearm := false } where
  issued := rfl
  fired := rfl
  live _ _ _ alive := .inl alive
  numbered numbered := ⟨numbered.nodup, numbered.below⟩
  accounted := id

end Rearranged

end MessageRelay.TimerQueue
