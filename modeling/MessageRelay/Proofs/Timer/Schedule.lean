import MessageRelay.Proofs.Timer.Agenda
import MessageRelay.Proofs.Timer.Live
import Mathlib.Data.List.Perm.Basic

/-!
A schedule seen through its live timers. Slots stand in order, each live timer has one of its own,
and slots of removed timers are passed over; so what is left is a plain schedule, and each operation
does to it what the operation of a plain schedule does.
-/
namespace MessageRelay.Schedule

variable {α : Type} {s : Schedule α}

def alive (live : List (TimerId × α)) (slot : Slot) : Option (Timer α) :=
  (find? live slot.id).map (Timer.mk slot)

def timers (s : Schedule α) : List (Timer α) := s.slots.filterMap (alive s.live)

def agenda (s : Schedule α) : Agenda α := ⟨s.timers, s.next⟩

theorem alive_eq_some_iff {live : List (TimerId × α)} {slot : Slot} {t : Timer α} :
    alive live slot = some t ↔ t.toSlot = slot ∧ find? live slot.id = some t.payload := by
  unfold alive
  constructor
  · intro h
    obtain ⟨payload, found, rfl⟩ := Option.map_eq_some_iff.mp h
    exact ⟨rfl, found⟩
  · rintro ⟨rfl, found⟩
    rw [found]
    rfl

theorem mem_filterMap_alive {live : List (TimerId × α)} {slots : List Slot} {t : Timer α} :
    t ∈ slots.filterMap (alive live) ↔ t.toSlot ∈ slots ∧ find? live t.id = some t.payload := by
  rw [List.mem_filterMap]
  constructor
  · rintro ⟨slot, member, h⟩
    obtain ⟨rfl, found⟩ := alive_eq_some_iff.mp h
    exact ⟨member, found⟩
  · rintro ⟨member, found⟩
    exact ⟨t.toSlot, member, alive_eq_some_iff.mpr ⟨rfl, found⟩⟩

theorem mem_timers {t : Timer α} :
    t ∈ s.timers ↔ t.toSlot ∈ s.slots ∧ find? s.live t.id = some t.payload :=
  mem_filterMap_alive

/-- Slots stand in order, one for each number, and each live timer has its slot. -/
structure Aligned (s : Schedule α) : Prop where
  sorted : s.slots.Pairwise Slot.Before
  nodup : (s.slots.map (·.id)).Nodup
  below : ∀ slot ∈ s.slots, slot.id < s.next
  numbered : s.Numbered
  covered : ∀ t ∈ s.live, t.1 ∈ s.slots.map (·.id)

theorem Aligned.empty : Aligned ({} : Schedule α) where
  sorted := List.Pairwise.nil
  nodup := List.nodup_nil
  below := by simp
  numbered := ⟨List.nodup_nil, by simp⟩
  covered := by simp

theorem Aligned.shrink (h : s.Aligned) {slots : List Slot} {live : List (TimerId × α)}
    (slotsSub : slots.Sublist s.slots) (liveSub : live.Sublist s.live)
    (covered : ∀ t ∈ live, t.1 ∈ slots.map (·.id)) :
    Aligned { s with slots := slots, live := live } where
  sorted := h.sorted.sublist slotsSub
  nodup := h.nodup.sublist (slotsSub.map _)
  below slot member := h.below slot (slotsSub.subset member)
  numbered := ⟨h.numbered.nodup.sublist (liveSub.map _),
    fun t member => h.numbered.below t (liveSub.subset member)⟩
  covered := covered

theorem timers_ids_sublist : (s.timers.map (·.id)).Sublist (s.slots.map (·.id)) := by
  unfold timers
  induction s.slots with
  | nil => exact List.Sublist.slnil
  | cons slot rest ih =>
    rw [List.map_cons]
    cases found : alive s.live slot with
    | none =>
      rw [List.filterMap_cons_none found]
      exact ih.cons _
    | some t =>
      rw [List.filterMap_cons_some found, List.map_cons, (alive_eq_some_iff.mp found).1]
      exact ih.cons_cons _

theorem Aligned.ordered (h : s.Aligned) : s.agenda.Ordered where
  sorted := by
    refine List.Pairwise.filterMap _ (fun x y before t ht u hu => ?_) h.sorted
    rw [(alive_eq_some_iff.mp ht).1, (alive_eq_some_iff.mp hu).1]
    exact before
  nodup := h.nodup.sublist timers_ids_sublist
  below t member := h.below _ (mem_timers.mp member).1

theorem Aligned.find?_eq_some_iff (h : s.Aligned) {id : TimerId} {payload : α} :
    find? s.live id = some payload ↔ ∃ t ∈ s.timers, t.id = id ∧ t.payload = payload := by
  constructor
  · intro found
    obtain ⟨slot, member, rfl⟩ := List.mem_map.mp (h.covered _ (mem_of_find? found))
    exact ⟨⟨slot, payload⟩, mem_timers.mpr ⟨member, found⟩, rfl, rfl⟩
  · rintro ⟨t, member, rfl, rfl⟩
    exact (mem_timers.mp member).2

theorem Aligned.live_perm (h : s.Aligned) :
    s.live.Perm (s.timers.map fun t => (t.id, t.payload)) := by
  refine (List.perm_ext_iff_of_nodup (List.Nodup.of_map _ h.numbered.nodup) ?_).mpr ?_
  · refine List.Nodup.of_map (fun p => p.1) ?_
    rw [List.map_map]
    exact h.ordered.nodup
  · rintro ⟨id, payload⟩
    rw [← find?_eq_some_iff_mem h.numbered.nodup, h.find?_eq_some_iff, List.mem_map]
    simp only [Prod.mk.injEq]

theorem Aligned.length_timers (h : s.Aligned) : s.timers.length = s.live.length := by
  rw [h.live_perm.length_eq, List.length_map]

theorem insertSlot_eq (x : Slot) {slots : List Slot} (sorted : slots.Pairwise Slot.Before) :
    insertSlot x slots =
      slots.filter (·.fireAt ≤ x.fireAt) ++ x :: slots.filter (x.fireAt < ·.fireAt) := by
  induction slots with
  | nil => rfl
  | cons slot rest ih =>
    obtain ⟨before, sorted⟩ := List.pairwise_cons.mp sorted
    rw [insertSlot]
    split
    · rename_i later
      have all (y : Slot) (member : y ∈ slot :: rest) : x.fireAt < y.fireAt := by
        rcases List.mem_cons.mp member with rfl | member
        · exact later
        · exact Nat.lt_of_lt_of_le later (before y member).fireAt_le
      have none : (slot :: rest).filter (·.fireAt ≤ x.fireAt) = [] :=
        List.filter_eq_nil_iff.mpr fun y member => by simpa using all y member
      rw [none, List.filter_eq_self.mpr fun y member => decide_eq_true (all y member)]
      rfl
    · rename_i early
      rw [List.filter_cons_of_pos (by simpa using early),
        List.filter_cons_of_neg (by simpa using early), ih sorted]
      rfl

theorem mem_insertSlot {x y : Slot} {slots : List Slot} :
    y ∈ insertSlot x slots ↔ y = x ∨ y ∈ slots := by
  induction slots with
  | nil => simp [insertSlot]
  | cons slot rest ih =>
    rw [insertSlot]
    split
    · simp
    · rw [List.mem_cons, ih, List.mem_cons]
      tauto

theorem perm_insertSlot (x : Slot) (slots : List Slot) : (insertSlot x slots).Perm (x :: slots) := by
  induction slots with
  | nil => exact List.Perm.refl _
  | cons slot rest ih =>
    rw [insertSlot]
    split
    · exact List.Perm.refl _
    · exact (ih.cons slot).trans (List.Perm.swap x slot rest)

theorem Aligned.insert (h : s.Aligned) (fireAt : Nanos) (payload : α) :
    (s.insert fireAt payload).2.Aligned := by
  have perm := perm_insertSlot ⟨fireAt, s.next⟩ s.slots
  refine ⟨?_, ?_, ?_, ?_, ?_⟩
  · change (insertSlot _ _).Pairwise _
    rw [insertSlot_eq _ h.sorted, List.pairwise_append, List.pairwise_cons]
    refine ⟨h.sorted.sublist List.filter_sublist,
      ⟨fun y member => .inl (by simpa using (List.mem_filter.mp member).2),
        h.sorted.sublist List.filter_sublist⟩, fun y early z member => ?_⟩
    obtain ⟨old, le⟩ := List.mem_filter.mp early
    have le : y.fireAt ≤ fireAt := by simpa using le
    rcases List.mem_cons.mp member with rfl | late
    · -- The new slot has the greatest number, so it comes behind all that are due when it is.
      rcases Nat.lt_or_eq_of_le le with lt | eq
      · exact .inl lt
      · exact .inr ⟨eq, h.below y old⟩
    · exact .inl (Nat.lt_of_le_of_lt le (by simpa using (List.mem_filter.mp late).2))
  · refine (perm.map _).nodup_iff.mpr ?_
    rw [List.map_cons, List.nodup_cons]
    refine ⟨fun again => ?_, h.nodup⟩
    obtain ⟨slot, member, same⟩ := List.mem_map.mp again
    exact absurd (h.below slot member) (same ▸ Nat.lt_irrefl _)
  · intro slot member
    rcases mem_insertSlot.mp member with rfl | old
    · exact Nat.lt_succ_self _
    · exact Nat.lt_succ_of_lt (h.below slot old)
  · have numbered : TimerQueue.Numbered { schedule := s } := h.numbered
    have after := numbered.scheduleAt fireAt payload
    exact ⟨after.nodup, after.below⟩
  · intro t member
    refine (perm.map (·.id)).mem_iff.mpr ?_
    rcases List.mem_cons.mp member with rfl | old
    · exact List.mem_cons_self
    · exact List.mem_cons_of_mem _ (h.covered t old)

theorem Aligned.agenda_insert (h : s.Aligned) (fireAt : Nanos) (payload : α) :
    (s.insert fireAt payload).2.agenda = (s.agenda.insert fireAt payload).2 := by
  have same (x : Slot) (member : x ∈ s.slots) :
      alive ((s.next, payload) :: s.live) x = alive s.live x := by
    rw [alive, find?_cons, if_neg (Nat.ne_of_lt (h.below x member))]
    rfl
  have new : alive ((s.next, payload) :: s.live) ⟨fireAt, s.next⟩ =
      some ⟨⟨fireAt, s.next⟩, payload⟩ := by
    rw [alive, find?_cons, if_pos rfl]
    rfl
  -- Leaving out slots before or after the timers are read off is the same.
  have kept (p : Nanos → Bool) :
      (s.slots.filter fun x => p x.fireAt).filterMap (alive ((s.next, payload) :: s.live)) =
        s.timers.filter fun t => p t.fireAt := by
    rw [timers, List.filter_filterMap, List.filterMap_filter]
    refine List.filterMap_congr fun x member => ?_
    rw [same x member]
    unfold alive
    cases find? s.live x.id <;> simp [Option.filter]
  simp only [agenda, timers, Schedule.insert, Agenda.insert, insertSlot_eq _ h.sorted,
    List.filterMap_append, List.filterMap_cons, new, Agenda.mk.injEq, and_true]
  exact congrArg₂ (· ++ _ :: ·) (kept (decide <| · ≤ fireAt)) (kept (decide <| fireAt < ·))

theorem filterMap_erase (nodup : (s.live.map (·.1)).Nodup) (id : TimerId) (slots : List Slot) :
    slots.filterMap (alive (erase s.live id)) =
      (slots.filterMap (alive s.live)).filter (·.id ≠ id) := by
  rw [List.filter_filterMap]
  refine List.filterMap_congr fun x _ => ?_
  unfold alive
  rw [find?_erase nodup id x.id]
  by_cases same : x.id = id
  · rw [if_pos same]
    cases find? s.live x.id <;> simp [Option.filter, same]
  · rw [if_neg same]
    cases find? s.live x.id <;> simp [Option.filter, same]

theorem Aligned.remove (h : s.Aligned) (id : TimerId) : (s.remove id).2.Aligned :=
  h.shrink (List.Sublist.refl _) List.eraseP_sublist
    fun t member => h.covered t (List.eraseP_sublist.subset member)

theorem Aligned.agenda_remove (h : s.Aligned) (id : TimerId) :
    (s.remove id).2.agenda = (s.agenda.remove id).2 :=
  congrArg (Agenda.mk · s.next) (filterMap_erase h.numbered.nodup id s.slots)

theorem Aligned.find?_eq (h : s.Aligned) (id : TimerId) :
    find? s.live id = (s.timers.find? (·.id = id)).map (·.payload) := by
  cases found : s.timers.find? (·.id = id) with
  | none =>
    rw [Option.map_none, ← Option.not_isSome_iff_eq_none, Option.isSome_iff_exists]
    rintro ⟨payload, kept⟩
    obtain ⟨t, member, same, -⟩ := h.find?_eq_some_iff.mp kept
    exact absurd same (by simpa using List.find?_eq_none.mp found t member)
  | some t =>
    rw [Option.map_some, h.find?_eq_some_iff]
    exact ⟨t, List.mem_of_find?_eq_some found, by simpa using List.find?_some found, rfl⟩

theorem skipRemoved_suffix (live : List (TimerId × α)) (slots : List Slot) :
    skipRemoved live slots <:+ slots := by
  induction slots with
  | nil => exact List.suffix_refl _
  | cons slot rest ih =>
    rw [skipRemoved]
    split
    · exact List.suffix_refl _
    · exact ih.trans (List.suffix_cons _ _)

theorem filterMap_skipRemoved (live : List (TimerId × α)) (slots : List Slot) :
    (skipRemoved live slots).filterMap (alive live) = slots.filterMap (alive live) ∧
      (skipRemoved live slots).head?.map (·.fireAt) =
        (slots.filterMap (alive live)).head?.map (·.fireAt) := by
  induction slots with
  | nil => exact ⟨rfl, rfl⟩
  | cons slot rest ih =>
    rw [skipRemoved]
    cases found : find? live slot.id with
    | none =>
      have gone : alive live slot = none := by rw [alive, found]; rfl
      rw [if_neg (by simp), List.filterMap_cons_none gone]
      exact ih
    | some payload =>
      have here : alive live slot = some ⟨slot, payload⟩ := by rw [alive, found]; rfl
      rw [if_pos (by simp), List.filterMap_cons_some here]
      exact ⟨rfl, rfl⟩

theorem Aligned.drop_slots (h : s.Aligned) {slots : List Slot} (suffix : slots <:+ s.slots)
    (same : slots.filterMap (alive s.live) = s.timers) :
    Aligned { s with slots := slots } := by
  refine h.shrink suffix.sublist (List.Sublist.refl _) fun t member => ?_
  have kept := (find?_eq_some_iff_mem h.numbered.nodup).mpr member
  obtain ⟨u, timer, id, -⟩ := h.find?_eq_some_iff.mp kept
  rw [← same] at timer
  exact List.mem_map.mpr ⟨u.toSlot, (mem_filterMap_alive.mp timer).1, id⟩

theorem Aligned.nextDeadline (h : s.Aligned) : s.nextDeadline.2.Aligned :=
  h.drop_slots (skipRemoved_suffix _ _) (filterMap_skipRemoved _ _).1

theorem agenda_nextDeadline (s : Schedule α) : s.nextDeadline.2.agenda = s.agenda :=
  congrArg (Agenda.mk · s.next) (filterMap_skipRemoved s.live s.slots).1

theorem nextDeadline_eq (s : Schedule α) : s.nextDeadline.1 = s.agenda.nextDeadline :=
  (filterMap_skipRemoved s.live s.slots).2

theorem firstDue_none_slots {now : Nanos} {live : List (TimerId × α)} {slots rest : List Slot}
    (sorted : slots.Pairwise Slot.Before) (h : firstDue now live slots = (none, rest)) :
    rest <:+ slots ∧ rest.filterMap (alive live) = slots.filterMap (alive live) ∧
      ∀ t ∈ slots.filterMap (alive live), now < t.fireAt := by
  induction slots with
  | nil =>
    cases h
    exact ⟨List.suffix_refl _, rfl, fun t member => absurd member List.not_mem_nil⟩
  | cons slot slots ih =>
    obtain ⟨before, sorted⟩ := List.pairwise_cons.mp sorted
    rw [firstDue] at h
    split at h
    · rename_i early
      cases h
      refine ⟨List.suffix_refl _, rfl, fun t member => ?_⟩
      rcases List.mem_cons.mp (mem_filterMap_alive.mp member).1 with same | later
      · exact same ▸ early
      · exact Nat.lt_of_lt_of_le early (before _ later).fireAt_le
    · split at h
      · cases h
      · rename_i found
        have gone : alive live slot = none := by rw [alive, found]; rfl
        obtain ⟨suffix, same, late⟩ := ih sorted h
        rw [List.filterMap_cons_none gone]
        exact ⟨suffix.trans (List.suffix_cons _ _), same, late⟩

theorem firstDue_some_slots {now : Nanos} {live : List (TimerId × α)} {slots rest : List Slot}
    {id : TimerId} {payload : α} (h : firstDue now live slots = (some (id, payload), rest)) :
    ∃ t : Timer α, t.id = id ∧ t.payload = payload ∧ t.fireAt ≤ now ∧
      t.toSlot :: rest <:+ slots ∧
      slots.filterMap (alive live) = t :: rest.filterMap (alive live) := by
  induction slots with
  | nil => cases h
  | cons slot slots ih =>
    rw [firstDue] at h
    split at h
    · cases h
    · rename_i due
      split at h
      · rename_i found
        cases h
        have here : alive live slot = some ⟨slot, payload⟩ := by rw [alive, found]; rfl
        refine ⟨⟨slot, payload⟩, rfl, rfl, Nat.le_of_not_lt due, List.suffix_refl _, ?_⟩
        rw [List.filterMap_cons_some here]
      · rename_i found
        have gone : alive live slot = none := by rw [alive, found]; rfl
        obtain ⟨t, same, kept, due, suffix, timers⟩ := ih h
        rw [List.filterMap_cons_none gone]
        exact ⟨t, same, kept, due, suffix.trans (List.suffix_cons _ _), timers⟩

theorem Aligned.popDue_spec (h : s.Aligned) (now : Nanos) :
    (s.popDue now).2.Aligned ∧ (s.popDue now).1 = (s.agenda.popDue now).1 ∧
      (s.popDue now).2.agenda = (s.agenda.popDue now).2 := by
  unfold popDue
  split
  · rename_i id payload rest due
    obtain ⟨t, rfl, rfl, inTime, suffix, timers⟩ := firstDue_some_slots due
    have own : t.id ∉ rest.map (·.id) := by
      have nodup := h.nodup.sublist (suffix.sublist.map _)
      rw [List.map_cons, List.nodup_cons] at nodup
      exact nodup.1
    have others : rest.filterMap (alive (erase s.live t.id)) = rest.filterMap (alive s.live) := by
      rw [filterMap_erase h.numbered.nodup, List.filter_eq_self]
      intro u member
      refine decide_eq_true fun same => own (same ▸ ?_)
      exact List.mem_map_of_mem (mem_filterMap_alive.mp member).1
    have answer : s.agenda.popDue now =
        (some (t.id, t.payload), ⟨rest.filterMap (alive s.live), s.next⟩) := by
      simp only [agenda, Agenda.popDue, Schedule.timers, timers, if_pos inTime]
    refine ⟨?_, by rw [answer], ?_⟩
    · refine h.shrink ((List.suffix_cons _ _).trans suffix).sublist List.eraseP_sublist ?_
      intro x member
      have kept :=
        (find?_eq_some_iff_mem (Keyed.nodup_eraseP h.numbered.nodup t.id)).mpr member
      change find? (erase s.live t.id) x.1 = some x.2 at kept
      rw [find?_erase h.numbered.nodup] at kept
      split at kept
      · cases kept
      · rename_i other
        obtain ⟨u, timer, id, -⟩ := h.find?_eq_some_iff.mp kept
        rw [Schedule.timers, timers] at timer
        rcases List.mem_cons.mp timer with rfl | later
        · exact absurd id.symm other
        · exact List.mem_map.mpr ⟨u.toSlot, (mem_filterMap_alive.mp later).1, id⟩
    · rw [answer]
      exact congrArg (Agenda.mk · s.next) others
  · rename_i rest due
    obtain ⟨suffix, same, late⟩ := firstDue_none_slots h.sorted due
    have answer : s.agenda.popDue now = (none, s.agenda) := by
      rcases h.ordered.popDue_cases now with ⟨t, first, inTime, -⟩ | ⟨-, answer⟩
      · exact absurd (late t first.1) (Nat.not_lt.mpr inTime)
      · exact answer
    refine ⟨h.drop_slots suffix same, by rw [answer], ?_⟩
    rw [answer]
    exact congrArg (Agenda.mk · s.next) same

theorem Aligned.drain (h : s.Aligned) : s.drain.2.Aligned :=
  h.shrink (List.nil_sublist _) (List.nil_sublist _) (by simp)

theorem Aligned.drain_perm (h : s.Aligned) : s.drain.1.Perm s.agenda.drain.1 := by
  have perm := (s.live.reverse_perm.trans h.live_perm).map (·.2)
  rw [List.map_map] at perm
  exact perm

end MessageRelay.Schedule
