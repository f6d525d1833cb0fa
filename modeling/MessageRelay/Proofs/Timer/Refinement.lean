import MessageRelay.Proofs.Timer.Schedule

/-!
Operations in any order. A schedule answers each of them as the plain schedule of its live timers
does, whatever slots of removed timers it still has; only the order in which drained payloads come
is its own. Numbers are given out one after another, and draining does not start them again.
-/
namespace MessageRelay

variable {α : Type}

inductive ScheduleMove (α : Type) where
  | insert (fireAt : Nanos) (payload : α)
  | remove (id : TimerId)
  | contains (id : TimerId)
  | popDue (now : Nanos)
  | nextDeadline
  | size
  | isEmpty
  | drain

inductive ScheduleAnswer (α : Type) where
  | inserted (id : TimerId)
  | removed (payload? : Option α)
  | flag (value : Bool)
  | popped (due? : Option (TimerId × α))
  | deadline (at? : Option Nanos)
  | count (n : Nat)
  | drained (payloads : List α)
  deriving DecidableEq

/-- The same answer; drained payloads may come in another order. -/
def ScheduleAnswer.Agrees : ScheduleAnswer α → ScheduleAnswer α → Prop
  | .drained ps, .drained qs => ps.Perm qs
  | a, b => a = b

namespace Agenda

def step (a : Agenda α) : ScheduleMove α → ScheduleAnswer α × Agenda α
  | .insert fireAt payload => let (id, a) := a.insert fireAt payload; (.inserted id, a)
  | .remove id => let (payload?, a) := a.remove id; (.removed payload?, a)
  | .contains id => (.flag (a.contains id), a)
  | .popDue now => let (due?, a) := a.popDue now; (.popped due?, a)
  | .nextDeadline => (.deadline a.nextDeadline, a)
  | .size => (.count a.size, a)
  | .isEmpty => (.flag a.isEmpty, a)
  | .drain => let (payloads, a) := a.drain; (.drained payloads, a)

def run (a : Agenda α) (moves : List (ScheduleMove α)) : Agenda α :=
  moves.foldl (fun a move => (a.step move).2) a

variable {a : Agenda α}

/-- What the operations of a plain schedule tell of the set of its timers, and do to it. -/
structure Lawful (a : Agenda α) : Prop where
  timer_eq : ∀ t ∈ a.timers, ∀ u ∈ a.timers, t.id = u.id → t = u
  below : ∀ t ∈ a.timers, t.id < a.next
  insert : ∀ fireAt payload, (a.insert fireAt payload).1 = a.next ∧
    (a.insert fireAt payload).2.next = a.next + 1 ∧ ∀ u,
    u ∈ (a.insert fireAt payload).2.timers ↔ u ∈ a.timers ∨ u = ⟨⟨fireAt, a.next⟩, payload⟩
  remove : ∀ id, (∀ payload, (a.remove id).1 = some payload ↔
      ∃ t ∈ a.timers, t.id = id ∧ t.payload = payload) ∧
    ∀ u, u ∈ (a.remove id).2.timers ↔ u ∈ a.timers ∧ u.id ≠ id
  contains : ∀ id, a.contains id = true ↔ ∃ t ∈ a.timers, t.id = id
  popDue : ∀ now,
    (∃ t, a.First t ∧ t.fireAt ≤ now ∧ (a.popDue now).1 = some (t.id, t.payload) ∧
      ∀ u, u ∈ (a.popDue now).2.timers ↔ u ∈ a.timers ∧ u ≠ t) ∨
    ((∀ t ∈ a.timers, now < t.fireAt) ∧ a.popDue now = (none, a))
  nextDeadline : ∀ deadline, a.nextDeadline = some deadline ↔
    (∃ t ∈ a.timers, t.fireAt = deadline) ∧ ∀ t ∈ a.timers, deadline ≤ t.fireAt
  size : a.size = a.timers.length ∧ (a.isEmpty = true ↔ a.timers = [])
  drain : a.drain = (a.timers.map (·.payload), { a with timers := [] })

theorem remove_eq_some_iff (h : a.Ordered) {id : TimerId} {payload : α} :
    (a.remove id).1 = some payload ↔ ∃ t ∈ a.timers, t.id = id ∧ t.payload = payload := by
  simp only [remove, Option.map_eq_some_iff]
  constructor
  · rintro ⟨t, found, rfl⟩
    exact ⟨t, List.mem_of_find?_eq_some found, by simpa using List.find?_some found, rfl⟩
  · rintro ⟨t, member, rfl, rfl⟩
    exact ⟨t, (Keyed.find?_eq_some_iff h.nodup).mpr ⟨member, rfl⟩, rfl⟩

theorem Ordered.lawful (h : a.Ordered) : a.Lawful where
  timer_eq t ht u hu same := h.timer_eq ht hu same
  below := h.below
  insert fireAt payload := ⟨rfl, rfl, mem_insert fireAt payload a⟩
  remove id := ⟨fun payload => remove_eq_some_iff h, fun u => by simp [Agenda.remove]⟩
  contains id := by simp [Agenda.contains]
  popDue now := h.popDue_cases now
  nextDeadline deadline := h.nextDeadline_eq_some_iff
  size := ⟨rfl, List.isEmpty_iff⟩
  drain := rfl

end Agenda

namespace Schedule

def step (s : Schedule α) : ScheduleMove α → ScheduleAnswer α × Schedule α
  | .insert fireAt payload => let (id, s) := s.insert fireAt payload; (.inserted id, s)
  | .remove id => let (payload?, s) := s.remove id; (.removed payload?, s)
  | .contains id => (.flag (s.contains id), s)
  | .popDue now => let (due?, s) := s.popDue now; (.popped due?, s)
  | .nextDeadline => let (at?, s) := s.nextDeadline; (.deadline at?, s)
  | .size => (.count s.size, s)
  | .isEmpty => (.flag s.isEmpty, s)
  | .drain => let (payloads, s) := s.drain; (.drained payloads, s)

def run (s : Schedule α) (moves : List (ScheduleMove α)) : Schedule α :=
  moves.foldl (fun s move => (s.step move).2) s

variable {s : Schedule α}

theorem Aligned.contains_eq (h : s.Aligned) (id : TimerId) :
    s.contains id = s.agenda.contains id := by
  rw [Bool.eq_iff_iff, contains, h.find?_eq, Option.isSome_map, List.find?_isSome,
    Agenda.contains, List.any_eq_true]
  rfl

theorem Aligned.step_agenda (h : s.Aligned) (move : ScheduleMove α) :
    (s.step move).2.Aligned ∧ (s.step move).1.Agrees (s.agenda.step move).1 ∧
      (s.step move).2.agenda = (s.agenda.step move).2 := by
  cases move with
  | insert fireAt payload => exact ⟨h.insert _ _, rfl, h.agenda_insert _ _⟩
  | remove id =>
    exact ⟨h.remove id, congrArg ScheduleAnswer.removed (h.find?_eq id), h.agenda_remove id⟩
  | contains id => exact ⟨h, congrArg ScheduleAnswer.flag (h.contains_eq id), rfl⟩
  | popDue now =>
    obtain ⟨aligned, answer, agenda⟩ := h.popDue_spec now
    exact ⟨aligned, congrArg ScheduleAnswer.popped answer, agenda⟩
  | nextDeadline =>
    exact ⟨h.nextDeadline, congrArg ScheduleAnswer.deadline (nextDeadline_eq s),
      agenda_nextDeadline s⟩
  | size => exact ⟨h, congrArg ScheduleAnswer.count h.length_timers.symm, rfl⟩
  | isEmpty =>
    refine ⟨h, congrArg ScheduleAnswer.flag ?_, rfl⟩
    have same : s.timers = [] ↔ s.live = [] := by
      rw [← List.length_eq_zero_iff, h.length_timers, List.length_eq_zero_iff]
    rw [Bool.eq_iff_iff, isEmpty, List.isEmpty_iff, Agenda.isEmpty, List.isEmpty_iff]
    exact same.symm
  | drain => exact ⟨h.drain, h.drain_perm, rfl⟩

theorem Aligned.run_agenda (h : s.Aligned) (moves : List (ScheduleMove α)) :
    (s.run moves).Aligned ∧ (s.run moves).agenda = s.agenda.run moves := by
  induction moves generalizing s with
  | nil => exact ⟨h, rfl⟩
  | cons move moves ih =>
    obtain ⟨aligned, -, agenda⟩ := h.step_agenda move
    obtain ⟨there, same⟩ := ih aligned
    refine ⟨there, same.trans ?_⟩
    rw [agenda]
    rfl

def issued : Schedule α → List (ScheduleMove α) → List TimerId
  | _, [] => []
  | s, move :: moves =>
    match (s.step move).1 with
    | .inserted id => id :: issued (s.step move).2 moves
    | _ => issued (s.step move).2 moves

theorem step_next (s : Schedule α) (move : ScheduleMove α) :
    (∃ fireAt payload, move = .insert fireAt payload ∧ (s.step move).1 = .inserted s.next ∧
      (s.step move).2.next = s.next + 1) ∨
    ((∀ id, (s.step move).1 ≠ .inserted id) ∧ (s.step move).2.next = s.next) := by
  cases move with
  | insert fireAt payload => exact .inl ⟨fireAt, payload, rfl, rfl, rfl⟩
  | popDue now =>
    refine .inr ⟨by simp [step], ?_⟩
    simp only [step, popDue]
    split <;> rfl
  | remove | contains | nextDeadline | size | isEmpty | drain =>
    exact .inr ⟨by simp [step], rfl⟩

theorem issued_eq (s : Schedule α) (moves : List (ScheduleMove α)) :
    issued s moves = List.range' s.next (issued s moves).length := by
  induction moves generalizing s with
  | nil => rfl
  | cons move moves ih =>
    rw [issued]
    rcases step_next s move with ⟨fireAt, payload, -, answer, next⟩ | ⟨other, next⟩
    · rw [answer, List.length_cons, List.range'_succ, ← next, ← ih]
    · split
      · rename_i answer
        exact absurd answer (other _)
      · rw [← next]
        exact ih _

/-- In every run each answer is that of the plain schedule of the live timers, whose laws are those
of a set of timers; and the numbers given out are those from zero on, one after another. -/
theorem refines_agenda (moves : List (ScheduleMove α)) :
    let s := ({} : Schedule α).run moves
    let a := ({} : Agenda α).run moves
    (∀ move, (s.step move).1.Agrees (a.step move).1) ∧ a.Lawful ∧
      issued ({} : Schedule α) moves =
        List.range (issued ({} : Schedule α) moves).length := by
  intro s a
  obtain ⟨aligned, agenda⟩ := (Aligned.empty (α := α)).run_agenda moves
  have same : s.agenda = a := agenda
  refine ⟨fun move => ?_, same ▸ aligned.ordered.lawful, ?_⟩
  · rw [← same]
    exact (aligned.step_agenda move).2.1
  · rw [List.range_eq_range']
    exact issued_eq {} moves

example :
    let s := ({} : Schedule Nat).run [.insert 10 1, .insert 15 2, .remove 0]
    s.slotCount = 2 ∧ s.size = 1 ∧ (s.step .nextDeadline).1 = .deadline (some 15) ∧
      (s.step .nextDeadline).2.slotCount = 1 := by
  decide

end Schedule

end MessageRelay
