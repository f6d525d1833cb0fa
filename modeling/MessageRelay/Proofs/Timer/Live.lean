import MessageRelay.Proofs.Keyed
import MessageRelay.Timer.Queue

/-!
Which timers of a queue are live, and with what payload. Every operation is told by what it does to
them: scheduling adds one under a number that was never used, a removal takes one out, and a pass
takes out one that was live. Slots of removed timers play no part in it.
-/
namespace MessageRelay

variable {α : Type}

namespace Schedule

theorem find?_eq_lookup (live : List (TimerId × α)) (id : TimerId) :
    find? live id = live.lookup id := Keyed.find?_map_eq_lookup live id

theorem find?_cons (j : TimerId) (payload : α) (live : List (TimerId × α)) (id : TimerId) :
    find? ((j, payload) :: live) id = if id = j then some payload else find? live id := by
  by_cases same : id = j
  · simp [find?, same]
  · simp [find?, same, Ne.symm same]

theorem find?_erase {live : List (TimerId × α)} (nodup : (live.map (·.1)).Nodup) (j id : TimerId) :
    find? (erase live j) id = if id = j then none else find? live id := by
  rw [find?_eq_lookup, find?_eq_lookup, erase, Keyed.lookup_eraseP nodup]

theorem find?_eq_none_iff {live : List (TimerId × α)} {id : TimerId} :
    find? live id = none ↔ id ∉ live.map (·.1) := by
  rw [find?_eq_lookup, Keyed.lookup_eq_none_iff_keys]

theorem mem_of_find? {live : List (TimerId × α)} {id : TimerId} {payload : α}
    (found : find? live id = some payload) : (id, payload) ∈ live :=
  Keyed.mem_of_lookup (find?_eq_lookup live id ▸ found)

theorem find?_eq_some_iff_mem {live : List (TimerId × α)} (nodup : (live.map (·.1)).Nodup)
    {id : TimerId} {payload : α} : find? live id = some payload ↔ (id, payload) ∈ live := by
  rw [find?_eq_lookup, Keyed.lookup_eq_some_iff_mem nodup]

/-- Timers that are live have different numbers, all of them given out before. -/
structure Numbered (s : Schedule α) : Prop where
  nodup : (s.live.map (·.1)).Nodup
  below : ∀ t ∈ s.live, t.1 < s.next

theorem firstDue_live {now : Nanos} {live : List (TimerId × α)} {slots rest : List Slot}
    {id : TimerId} {payload : α} (h : firstDue now live slots = (some (id, payload), rest)) :
    find? live id = some payload := by
  induction slots with
  | nil => simp [firstDue] at h
  | cons slot slots ih =>
    rw [firstDue] at h
    split at h
    · simp at h
    · split at h
      · rename_i found
        simp only [Prod.mk.injEq, Option.some.injEq] at h
        obtain ⟨⟨rfl, rfl⟩, -⟩ := h
        exact found
      · exact ih h

theorem popDue_some {now : Nanos} {s rest : Schedule α} {id : TimerId} {payload : α}
    (h : s.popDue now = (some (id, payload), rest)) :
    find? s.live id = some payload ∧ rest.live = erase s.live id ∧ rest.next = s.next := by
  unfold popDue at h
  split at h
  · rename_i due
    simp only [Prod.mk.injEq, Option.some.injEq] at h
    obtain ⟨⟨rfl, rfl⟩, rfl⟩ := h
    exact ⟨firstDue_live due, rfl, rfl⟩
  · simp at h

theorem popDue_none {now : Nanos} {s rest : Schedule α} (h : s.popDue now = (none, rest)) :
    rest.live = s.live ∧ rest.next = s.next := by
  unfold popDue at h
  split at h
  · simp at h
  · simp only [Prod.mk.injEq, true_and] at h
    subst h
    exact ⟨rfl, rfl⟩

end Schedule

namespace TimerQueue

def live? (q : TimerQueue α) (id : TimerId) : Option α := Schedule.find? q.schedule.live id

def next (q : TimerQueue α) : TimerId := q.schedule.next

def Numbered (q : TimerQueue α) : Prop := q.schedule.Numbered

theorem empty_numbered : Numbered ({} : TimerQueue α) :=
  ⟨List.nodup_nil, by simp⟩

theorem Numbered.lt_next {q : TimerQueue α} (h : q.Numbered) {id : TimerId} {payload : α}
    (live : q.live? id = some payload) : id < q.next :=
  h.below _ (Schedule.mem_of_find? live)

theorem live?_scheduleAt (deadline : Nanos) (payload : α) (q : TimerQueue α) (id : TimerId) :
    (q.scheduleAt deadline payload).2.live? id = if id = q.next then some payload else q.live? id :=
  Schedule.find?_cons q.next payload q.schedule.live id

theorem Numbered.scheduleAt {q : TimerQueue α} (h : q.Numbered) (deadline : Nanos) (payload : α) :
    (q.scheduleAt deadline payload).2.Numbered := by
  refine ⟨?_, ?_⟩
  · change (q.schedule.next :: q.schedule.live.map (·.1)).Nodup
    refine List.nodup_cons.mpr ⟨fun member => ?_, h.nodup⟩
    obtain ⟨t, ht, same⟩ := List.mem_map.mp member
    exact absurd (h.below t ht) (by rw [same]; exact Nat.lt_irrefl _)
  · intro t ht
    change t.1 < q.schedule.next + 1
    change t ∈ (q.schedule.next, payload) :: q.schedule.live at ht
    rcases List.mem_cons.mp ht with rfl | old
    · exact Nat.lt_succ_self _
    · exact Nat.lt_succ_of_lt (h.below t old)

theorem live?_cancel {q : TimerQueue α} (h : q.Numbered) (j id : TimerId) :
    (q.cancel j).2.live? id = if id = j then none else q.live? id :=
  Schedule.find?_erase h.nodup j id

theorem Numbered.sublist {q r : TimerQueue α} (h : q.Numbered)
    (live : r.schedule.live.Sublist q.schedule.live) (next : r.next = q.next) : r.Numbered := by
  refine ⟨h.nodup.sublist (live.map _), fun t ht => ?_⟩
  change t.1 < r.next
  rw [next]
  exact h.below t (live.subset ht)

theorem Numbered.cancel {q : TimerQueue α} (h : q.Numbered) (j : TimerId) :
    (q.cancel j).2.Numbered :=
  h.sublist List.eraseP_sublist rfl

theorem popDue_some {now : Nanos} {q rest : TimerQueue α} {j : TimerId} {payload : α}
    (h : q.popDue now = (some (j, payload), rest)) :
    q.live? j = some payload ∧ rest.schedule.live = Schedule.erase q.schedule.live j ∧
      rest.next = q.next := by
  simp only [popDue, Prod.mk.injEq] at h
  obtain ⟨due, rfl⟩ := h
  have popped : q.schedule.popDue now = (some (j, payload), (q.schedule.popDue now).2) :=
    Prod.ext due rfl
  exact Schedule.popDue_some popped

theorem popDue_none {now : Nanos} {q rest : TimerQueue α} (h : q.popDue now = (none, rest)) :
    rest.schedule.live = q.schedule.live ∧ rest.next = q.next := by
  simp only [popDue, Prod.mk.injEq] at h
  obtain ⟨due, rfl⟩ := h
  have popped : q.schedule.popDue now = (none, (q.schedule.popDue now).2) := Prod.ext due rfl
  exact Schedule.popDue_none popped

theorem live?_erase {q rest : TimerQueue α} (h : q.Numbered) {j : TimerId}
    (erased : rest.schedule.live = Schedule.erase q.schedule.live j) (id : TimerId) :
    rest.live? id = if id = j then none else q.live? id := by
  rw [live?, erased]
  exact Schedule.find?_erase h.nodup j id

theorem Numbered.clear {q : TimerQueue α} (h : q.Numbered) : q.clear.2.Numbered :=
  h.sublist (List.nil_sublist _) rfl

end TimerQueue

end MessageRelay
