import Mathlib.Tactic.Tauto
import Mathlib.Data.List.Nodup
import MessageRelay.Timer.Schedule

/-!
A plain schedule: the timers that are live, in the order in which they are due, and nothing else. It
is what a schedule with slots of removed timers is held against. Its laws are those of a set of
timers: what fires next is the first of all, and a removal takes out one.
-/
namespace MessageRelay

variable {α : Type}

/-- One slot is due before the other: earlier, or at the same time and scheduled before it. -/
def Slot.Before (s t : Slot) : Prop := s.fireAt < t.fireAt ∨ s.fireAt = t.fireAt ∧ s.id < t.id

theorem Slot.Before.fireAt_le {s t : Slot} (h : s.Before t) : s.fireAt ≤ t.fireAt := by
  rcases h with lt | ⟨eq, -⟩
  · exact Nat.le_of_lt lt
  · exact Nat.le_of_eq eq

structure Timer (α : Type) extends Slot where
  payload : α

structure Agenda (α : Type) where
  timers : List (Timer α) := []
  next : TimerId := 0

namespace Agenda

/-- Adds a timer behind all that are due at the same time or before. -/
def insert (fireAt : Nanos) (payload : α) (a : Agenda α) : TimerId × Agenda α :=
  (a.next,
    { timers := a.timers.filter (·.fireAt ≤ fireAt) ++
        ⟨⟨fireAt, a.next⟩, payload⟩ :: a.timers.filter (fireAt < ·.fireAt)
      next := a.next + 1 })

def contains (id : TimerId) (a : Agenda α) : Bool := a.timers.any (·.id = id)

def remove (id : TimerId) (a : Agenda α) : Option α × Agenda α :=
  ((a.timers.find? (·.id = id)).map (·.payload),
    { a with timers := a.timers.filter (·.id ≠ id) })

def popDue (now : Nanos) (a : Agenda α) : Option (TimerId × α) × Agenda α :=
  match a.timers with
  | [] => (none, a)
  | t :: rest =>
    if t.fireAt ≤ now then (some (t.id, t.payload), { a with timers := rest }) else (none, a)

def nextDeadline (a : Agenda α) : Option Nanos := a.timers.head?.map (·.fireAt)

def size (a : Agenda α) : Nat := a.timers.length

def isEmpty (a : Agenda α) : Bool := a.timers.isEmpty

def drain (a : Agenda α) : List α × Agenda α :=
  (a.timers.map (·.payload), { a with timers := [] })

/-- Timers stand in order, and their numbers were all given out before. -/
structure Ordered (a : Agenda α) : Prop where
  sorted : a.timers.Pairwise fun t u => t.toSlot.Before u.toSlot
  nodup : (a.timers.map (·.id)).Nodup
  below : ∀ t ∈ a.timers, t.id < a.next

variable {a : Agenda α}

def First (a : Agenda α) (t : Timer α) : Prop :=
  t ∈ a.timers ∧ ∀ u ∈ a.timers, u = t ∨ t.toSlot.Before u.toSlot

theorem Ordered.first_of_cons (h : a.Ordered) {t : Timer α} {rest : List (Timer α)}
    (timers : a.timers = t :: rest) : a.First t := by
  have sorted := h.sorted
  rw [timers, List.pairwise_cons] at sorted
  refine ⟨timers ▸ List.mem_cons_self, fun u member => ?_⟩
  rw [timers] at member
  rcases List.mem_cons.mp member with rfl | later
  · exact .inl rfl
  · exact .inr (sorted.1 u later)

theorem First.fireAt_le {t u : Timer α} (first : a.First t) (member : u ∈ a.timers) :
    t.fireAt ≤ u.fireAt := by
  rcases first.2 u member with rfl | before
  · exact Nat.le_refl _
  · exact before.fireAt_le

theorem Ordered.timer_eq (h : a.Ordered) {t u : Timer α} (ht : t ∈ a.timers) (hu : u ∈ a.timers)
    (same : t.id = u.id) : t = u :=
  List.inj_on_of_nodup_map h.nodup ht hu same

theorem mem_insert (fireAt : Nanos) (payload : α) (a : Agenda α) (u : Timer α) :
    u ∈ (a.insert fireAt payload).2.timers ↔
      u ∈ a.timers ∨ u = ⟨⟨fireAt, a.next⟩, payload⟩ := by
  simp only [Agenda.insert, List.mem_append, List.mem_filter, List.mem_cons, decide_eq_true_eq]
  have early_or_late : u.fireAt ≤ fireAt ∨ fireAt < u.fireAt := (Nat.lt_or_ge fireAt u.fireAt).symm
  tauto

theorem Ordered.popDue_cases (h : a.Ordered) (now : Nanos) :
    (∃ t, a.First t ∧ t.fireAt ≤ now ∧ (a.popDue now).1 = some (t.id, t.payload) ∧
      ∀ u, u ∈ (a.popDue now).2.timers ↔ u ∈ a.timers ∧ u ≠ t) ∨
    ((∀ t ∈ a.timers, now < t.fireAt) ∧ a.popDue now = (none, a)) := by
  unfold popDue
  split
  · rename_i none
    refine .inr ⟨fun t member => ?_, rfl⟩
    rw [none] at member
    exact absurd member List.not_mem_nil
  · rename_i t rest timers
    have first := h.first_of_cons timers
    split
    · rename_i due
      refine .inl ⟨t, first, due, rfl, fun u => ?_⟩
      have fresh : t ∉ rest := fun again => by
        have nodup := h.nodup
        rw [timers, List.map_cons, List.nodup_cons] at nodup
        exact nodup.1 (List.mem_map_of_mem again)
      rw [timers, List.mem_cons]
      constructor
      · intro member
        exact ⟨.inr member, fun same => fresh (same ▸ member)⟩
      · rintro ⟨same | member, other⟩
        · exact absurd same other
        · exact member
    · rename_i early
      refine .inr ⟨fun u member => ?_, rfl⟩
      exact Nat.lt_of_lt_of_le (Nat.lt_of_not_le early) (first.fireAt_le member)

theorem Ordered.nextDeadline_eq_some_iff (h : a.Ordered) {deadline : Nanos} :
    a.nextDeadline = some deadline ↔
      (∃ t ∈ a.timers, t.fireAt = deadline) ∧ ∀ t ∈ a.timers, deadline ≤ t.fireAt := by
  unfold nextDeadline
  cases timers : a.timers with
  | nil => simp
  | cons t rest =>
    have first := h.first_of_cons timers
    rw [← timers]
    simp only [timers, List.head?_cons, Option.map_some, Option.some.injEq]
    constructor
    · rintro rfl
      exact ⟨⟨t, List.mem_cons_self, rfl⟩, fun u member => first.fireAt_le (timers ▸ member)⟩
    · rintro ⟨⟨u, member, rfl⟩, least⟩
      exact Nat.le_antisymm (first.fireAt_le (timers ▸ member)) (least t List.mem_cons_self)

end Agenda

end MessageRelay
