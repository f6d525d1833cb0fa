import Mathlib.Data.List.Forall2
import MessageRelay.Proofs.Timer.Fates
import MessageRelay.Proofs.Timer.Later

/-!
Code that runs because callbacks are given up. A queue is done with its own part of a cancellation or
of a clearing before the first of them goes: what is on the stack then is only what is still to be
given up. So such code finds the timers gone, for good, and timers that it schedules are as safe as
any. The order in which callbacks are given up is not seen in the queue, nor in any answer.
-/
namespace MessageRelay.TimerMachine

variable {α : Type} {m n : TimerMachine α} {id : TimerId} {payload : α}

theorem isScheduled_eq_false : m.queue.isScheduled id = false ↔ m.queue.live? id = none := by
  rw [TimerQueue.isScheduled_eq, Option.isSome_eq_false_iff, Option.isNone_iff_eq_none]

/-- The timer was scheduled, and is live no more. -/
structure Gone (m : TimerMachine α) (id : TimerId) : Prop where
  known : id < m.queue.next
  past : m.queue.live? id = none

theorem Gone.later (h : m.Gone id) (aligned : m.queue.Aligned) (later : Later m n) : n.Gone id where
  known := Nat.lt_of_lt_of_le h.known later.next
  past := by
    cases live : n.queue.live? id with
    | none => rfl
    | some payload =>
      obtain ⟨t, member, rfl, same⟩ := later.aligned.live?_eq_some_iff.mp live
      have was := aligned.live?_eq_some_iff.mpr ⟨t, later.old t member h.known, rfl, same⟩
      rw [h.past] at was
      cases was

theorem Gone.run (h : m.Gone id) (aligned : m.queue.Aligned) (moves : List (TimerMove α)) :
    (m.run moves).Gone id :=
  h.later aligned (Later.run aligned moves)

/-- What code can learn of a timer that is gone. -/
structure Unseen (m : TimerMachine α) (id : TimerId) : Prop where
  scheduled : m.queue.isScheduled id = false
  cancel : m.inCode = true → (m.step (.cancel id)).1 = .cancelled none
  advance : ∀ payload, (m.step .advance).1 ≠ .fired id payload

theorem Gone.unseen (h : m.Gone id) (aligned : m.queue.Aligned) : m.Unseen id where
  scheduled := isScheduled_eq_false.mpr h.past
  cancel code := by
    have absent := TimerQueue.cancel_isSome id m.queue
    rw [isScheduled_eq_false.mpr h.past, Option.isSome_eq_false_iff,
      Option.isNone_iff_eq_none] at absent
    rw [cancel_eq code, absent]
  advance payload fired := by
    rcases m.inCode_or_pass with code | ⟨now, count, below, pass⟩
    · rw [advance_inCode code] at fired
      cases fired
    · obtain ⟨-, -, ⟨t, first, -, answer, -⟩ | ⟨-, answer, -⟩⟩ := advance_cases aligned pass
      · rw [answer] at fired
        cases fired
        have live := aligned.live?_eq_some_iff.mpr ⟨t, first.1, rfl, rfl⟩
        rw [h.past] at live
        cases live
      · rw [answer] at fired
        cases fired

def takes (id : TimerId) (m : TimerMachine α) (move : TimerMove α) : Bool :=
  match move, (m.step move).1 with
  | .cancel j, .cancelled (some _) => decide (j = id)
  | .clear, .cleared _ => true
  | .advance, .fired j _ => decide (j = id)
  | _, _ => false

theorem live_advance (numbered : m.queue.Numbered) (live : m.queue.live? id = some payload)
    {now : Nanos} {count : Nat} {below : List (TimerFrame α)}
    (pass : m.stack = .pass now count :: below) :
    (m.step .advance).2.queue.live? id =
      if m.takes id .advance = true then none else some payload := by
  simp only [takes, advance_eq pass]
  split
  · rename_i j fired queue due
    obtain ⟨-, erased, -⟩ := TimerQueue.popDue_some due
    simp only [TimerQueue.live?_erase numbered erased, live, decide_eq_true_eq]
    exact if_congr eq_comm rfl rfl
  · rename_i queue idle
    obtain ⟨same, -⟩ := TimerQueue.popDue_none idle
    exact (congrArg (Schedule.find? · id) same).trans live

theorem live_step (numbered : m.queue.Numbered) (live : m.queue.live? id = some payload)
    (move : TimerMove α) :
    (m.step move).2.queue.live? id = if m.takes id move = true then none else some payload := by
  rcases m.inCode_or_pass with code | ⟨now, count, below, pass⟩
  · cases move with
    | schedule deadline added =>
      have old : id ≠ m.queue.next := Nat.ne_of_lt (numbered.lt_next live)
      simp only [takes, schedule_eq code, TimerQueue.live?_scheduleAt, if_neg old, live]
      simp
    | cancel j =>
      have answer := TimerQueue.cancel_isSome j m.queue
      simp only [takes, cancel_eq code, TimerQueue.live?_cancel numbered]
      by_cases own : j = id
      · subst own
        rw [TimerQueue.isScheduled_eq, live, Option.isSome_some] at answer
        obtain ⟨taken, answer⟩ := Option.isSome_iff_exists.mp answer
        simp [answer]
      · have other : ¬ id = j := fun same => own same.symm
        cases (m.queue.cancel j).1 <;> simp [own, other, live]
    | clear =>
      simp only [takes, clear_eq code, if_true]
      rfl
    | look =>
      rw [look_eq code]
      exact live
    | enter now => simpa [takes, enter_eq code] using live
    | advance => simpa [takes, advance_inCode code] using live
    | leave => simpa [takes, (leave_shift m).2] using live
  · by_cases advances : move = .advance
    · exact advances ▸ live_advance numbered live pass
    · have untaken : m.takes id move = false := by
        unfold takes
        rw [step_refused pass advances]
        cases move <;> rfl
      rw [untaken, step_refused pass advances, live]
      rfl

theorem live_run (aligned : m.queue.Aligned) (live : m.queue.live? id = some payload)
    (moves : List (TimerMove α)) :
    (m.run moves).queue.live? id = some payload ↔
      ∀ first move rest, moves = first ++ move :: rest → (m.run first).takes id move = false := by
  induction moves generalizing m with
  | nil => simpa [run] using live
  | cons move moves ih =>
    have next := (Later.step aligned move).aligned
    have stepped := live_step aligned.numbered live move
    cases taken : m.takes id move with
    | true =>
      rw [taken, if_pos rfl] at stepped
      have old : id < m.queue.next := TimerQueue.Numbered.lt_next aligned.numbered live
      have known : id < (m.step move).2.queue.next :=
        Nat.lt_of_lt_of_le old (Later.step aligned move).next
      have gone := (Gone.run ⟨known, stepped⟩ next moves).past
      refine iff_of_false ?_ fun never => ?_
      · change ((m.step move).2.run moves).queue.live? id ≠ some payload
        rw [gone]
        exact nofun
      · have untaken : m.takes id move = false := never [] move moves rfl
        rw [taken] at untaken
        cases untaken
    | false =>
      rw [taken, if_neg Bool.false_ne_true] at stepped
      refine (ih next stepped).trans ⟨fun never => ?_, fun never first later rest split => ?_⟩
      · rintro (_ | ⟨head, first⟩) later rest split
        · obtain ⟨rfl, -⟩ := List.cons.inj split
          exact taken
        · obtain ⟨rfl, tail⟩ := List.cons.inj split
          exact never first later rest tail
      · exact never (move :: first) later rest (congrArg (move :: ·) split)

inductive FrameAlike : TimerFrame α → TimerFrame α → Prop
  | refl (frame : TimerFrame α) : FrameAlike frame frame
  | discard (first second : α) : FrameAlike (.discard first) (.discard second)

/-- The machines differ at most in what callbacks are given up. -/
structure Alike (m n : TimerMachine α) : Prop where
  queue : n.queue = m.queue
  stack : List.Forall₂ FrameAlike m.stack n.stack

theorem forall₂_alike_refl (stack : List (TimerFrame α)) : List.Forall₂ FrameAlike stack stack :=
  List.forall₂_same.mpr fun frame _ => .refl frame

namespace Alike

theorem inCode (h : Alike m n) (code : m.inCode = true) : n.inCode = true := by
  obtain ⟨queue, stack⟩ := m
  obtain ⟨queue', stack'⟩ := n
  cases h.stack with
  | nil => rfl
  | cons top rest =>
    cases top with
    | refl =>
      rename_i frame _ _
      cases frame with
      | pass => cases code
      | callback | discard => rfl
    | discard => rfl

theorem pass (h : Alike m n) {now : Nanos} {count : Nat} {below : List (TimerFrame α)}
    (pass : m.stack = .pass now count :: below) :
    ∃ below', n.stack = .pass now count :: below' ∧ List.Forall₂ FrameAlike below below' := by
  have stack := h.stack
  rw [pass] at stack
  obtain ⟨frame, below', top, rest, same⟩ := List.forall₂_cons_left_iff.mp stack
  cases top
  exact ⟨below', same, rest⟩

theorem leave (h : Alike m n) :
    (n.step .leave).1 = (m.step .leave).1 ∧ Alike (m.step .leave).2 (n.step .leave).2 := by
  obtain ⟨queue, stack⟩ := m
  obtain ⟨queue', stack'⟩ := n
  obtain ⟨rfl, frames⟩ := h
  cases frames with
  | nil => exact ⟨rfl, rfl, .nil⟩
  | cons top rest =>
    cases top with
    | discard => exact ⟨rfl, rfl, rest⟩
    | refl =>
      rename_i frame _ _
      cases frame with
      | pass => exact ⟨rfl, rfl, .cons (.refl _) rest⟩
      | discard => exact ⟨rfl, rfl, rest⟩
      | callback id payload =>
        cases rest with
        | nil => exact ⟨rfl, rfl, forall₂_alike_refl _⟩
        | cons second rest =>
          cases second with
          | discard => exact ⟨rfl, rfl, .cons (.refl _) (.cons (.discard _ _) rest)⟩
          | refl =>
            rename_i frame _ _
            cases frame with
            | pass => exact ⟨rfl, rfl, .cons (.refl _) rest⟩
            | callback | discard => exact ⟨rfl, rfl, .cons (.refl _) (.cons (.refl _) rest)⟩

theorem step (h : Alike m n) (move : TimerMove α) :
    (n.step move).1 = (m.step move).1 ∧ Alike (m.step move).2 (n.step move).2 := by
  have push (frames : List (TimerFrame α)) :
      List.Forall₂ FrameAlike (frames ++ m.stack) (frames ++ n.stack) :=
    List.rel_append (forall₂_alike_refl frames) h.stack
  rcases m.inCode_or_pass with code | ⟨now, count, below, pass⟩
  · have code' := h.inCode code
    cases move with
    | schedule deadline payload =>
      rw [schedule_eq code, schedule_eq code', h.queue]
      exact ⟨rfl, rfl, h.stack⟩
    | cancel id =>
      rw [cancel_eq code, cancel_eq code', h.queue]
      exact ⟨rfl, rfl, push _⟩
    | clear =>
      rw [clear_eq code, clear_eq code', h.queue]
      exact ⟨rfl, rfl, push _⟩
    | look =>
      rw [look_eq code, look_eq code', h.queue]
      exact ⟨rfl, rfl, h.stack⟩
    | enter now =>
      rw [enter_eq code, enter_eq code']
      exact ⟨rfl, h.queue, push [.pass now 0]⟩
    | advance =>
      rw [advance_inCode code, advance_inCode code']
      exact ⟨rfl, h⟩
    | leave => exact h.leave
  · obtain ⟨below', pass', rest⟩ := h.pass pass
    by_cases advances : move = .advance
    · subst advances
      rw [advance_eq pass, advance_eq pass', h.queue]
      split
      · exact ⟨rfl, rfl, .cons (.refl _) (.cons (.refl _) rest)⟩
      · exact ⟨rfl, rfl, rest⟩
    · rw [step_refused pass advances, step_refused pass' advances]
      exact ⟨rfl, h⟩

end Alike

def answers (m : TimerMachine α) : List (TimerMove α) → List (TimerAnswer α)
  | [] => []
  | move :: moves => (m.step move).1 :: (m.step move).2.answers moves

theorem Alike.run (h : Alike m n) (moves : List (TimerMove α)) :
    n.answers moves = m.answers moves ∧ Alike (m.run moves) (n.run moves) := by
  induction moves generalizing m n with
  | nil => exact ⟨rfl, h⟩
  | cons move moves ih =>
    obtain ⟨answer, next⟩ := h.step move
    obtain ⟨answers', last⟩ := ih next
    exact ⟨congrArg₂ List.cons answer answers', last⟩

theorem alike_discards {first second : List α} (size : second.length = first.length)
    (stack : List (TimerFrame α)) :
    List.Forall₂ FrameAlike (first.map .discard ++ stack) (second.map .discard ++ stack) := by
  induction first generalizing second with
  | nil =>
    obtain rfl := List.length_eq_zero_iff.mp size
    exact forall₂_alike_refl stack
  | cons payload first ih =>
    obtain ⟨other, rest, rfl⟩ := List.exists_cons_of_length_eq_add_one size
    exact .cons (.discard payload other) (ih (Nat.succ.inj size))

theorem live_of_schedule (aligned : m.queue.Aligned) (code : m.inCode = true) (deadline : Nanos)
    (payload : α) :
    let s := m.step (.schedule deadline payload)
    s.1 = .scheduled ⟨m.queue.next, deadline⟩ ∧ ∀ moves,
      (s.2.run moves).queue.live? m.queue.next = some payload ↔
        ∀ first move rest, moves = first ++ move :: rest →
          (s.2.run first).takes m.queue.next move = false := by
  have next := (Later.step aligned (.schedule deadline payload)).aligned
  rw [schedule_eq code] at next ⊢
  have live := TimerQueue.live?_scheduleAt deadline payload m.queue m.queue.next
  rw [if_pos rfl] at live
  exact ⟨rfl, live_run next live⟩

theorem gone_of_clear (aligned : m.queue.Aligned) (code : m.inCode = true)
    (live : m.queue.isScheduled id = true) : (m.step .clear).2.Gone id := by
  rw [clear_eq code]
  obtain ⟨payload, live⟩ := Option.isSome_iff_exists.mp (TimerQueue.isScheduled_eq _ _ ▸ live)
  exact ⟨TimerQueue.Numbered.lt_next aligned.numbered live, rfl⟩

theorem gone_of_cancel (aligned : m.queue.Aligned) (code : m.inCode = true)
    (live : m.queue.live? id = some payload) : (m.step (.cancel id)).2.Gone id := by
  rw [cancel_eq code]
  refine ⟨TimerQueue.Numbered.lt_next aligned.numbered live, ?_⟩
  exact (TimerQueue.live?_cancel aligned.numbered id id).trans (if_pos rfl)

/-- In every run, wherever code clears the queue: it is told how many timers were live, and whatever
code does next, that of the callbacks given up included and in whatever order these go, none of the
timers is seen again, and those that are added later stay until they are taken by a move of their own.
Queue and answers are the same for every order. Where code cancels a live timer, that one is gone and
no other, before its callback is given up. -/
theorem discards_find_timers_gone (before : List (TimerMove α)) :
    let m : TimerMachine α := run {} before
    let r := record {} ({} : TimerMachine α) before
    m.inCode = true →
    (∃ payloads, (m.step .clear).1 = .cleared payloads ∧
      payloads.length = r.scheduled.countP m.queue.isScheduled ∧
      (m.step .clear).2.stack = payloads.map .discard ++ m.stack ∧
      ∀ order : List α, order.Perm payloads →
        let n : TimerMachine α := ⟨(m.step .clear).2.queue, order.map .discard ++ m.stack⟩
        ∀ moves, (n.run moves).queue = ((m.step .clear).2.run moves).queue ∧
          n.answers moves = (m.step .clear).2.answers moves ∧
          (∀ id, m.queue.isScheduled id = true → (n.run moves).Unseen id) ∧
          ((n.run moves).inCode = true → ∀ deadline payload,
            let s := (n.run moves).step (.schedule deadline payload)
            ∃ handle, s.1 = .scheduled handle ∧ m.queue.isScheduled handle.id = false ∧
              ∀ later, (s.2.run later).queue.live? handle.id = some payload ↔
                ∀ first move rest, later = first ++ move :: rest →
                  (s.2.run first).takes handle.id move = false)) ∧
    ∀ id payload, (m.step (.cancel id)).1 = .cancelled (some payload) →
      let n := (m.step (.cancel id)).2
      m.queue.live? id = some payload ∧ n.stack = .discard payload :: m.stack ∧
      (∀ j, n.queue.live? j = if j = id then none else m.queue.live? j) ∧
      ∀ moves, (n.run moves).Unseen id := by
  intro m r code
  have aligned : m.queue.Aligned := run_aligned before
  have kept : m.Kept r := Kept.run ⟨TimerRecord.Agrees.empty, rfl⟩ before
  refine ⟨⟨m.queue.clear.1, ?_, ?_, ?_, ?_⟩, ?_⟩
  · rw [clear_eq code]
  · rw [TimerQueue.length_clear, kept.size_eq]
  · rw [clear_eq code]
  · intro order perm n moves
    have cleared : Later m (m.step .clear).2 := Later.step aligned .clear
    have moved : Later n (n.run moves) := Later.run (m := n) cleared.aligned moves
    have alike : Alike (m.step .clear).2 n := by
      refine ⟨rfl, ?_⟩
      rw [clear_eq code]
      exact alike_discards perm.length_eq m.stack
    obtain ⟨answers, last⟩ := alike.run moves
    refine ⟨last.queue, answers, fun id live => ?_, fun code' deadline payload => ?_⟩
    · obtain ⟨known, past⟩ := gone_of_clear aligned code live
      exact (Gone.run (m := n) ⟨known, past⟩ cleared.aligned moves).unseen moved.aligned
    · obtain ⟨answer, stays⟩ := live_of_schedule moved.aligned code' deadline payload
      refine ⟨_, answer, ?_, stays⟩
      rw [← Bool.not_eq_true]
      intro live
      obtain ⟨known, -⟩ := gone_of_clear aligned code live
      exact Nat.lt_irrefl _ (Nat.lt_of_lt_of_le known moved.next)
  · intro id payload answer n
    have found : (m.queue.cancel id).1 = some payload := by
      rw [cancel_eq code] at answer
      exact TimerAnswer.cancelled.inj answer
    have live : m.queue.live? id = some payload := found
    have state : n = ⟨(m.queue.cancel id).2, .discard payload :: m.stack⟩ := by
      change (m.step (.cancel id)).2 = _
      rw [cancel_eq code, found]
      rfl
    refine ⟨live, congrArg stack state, fun j => ?_, fun moves => ?_⟩
    · rw [state]
      exact TimerQueue.live?_cancel aligned.numbered id j
    · have left : n.queue.Aligned := (Later.step aligned (.cancel id)).aligned
      exact (Gone.run (gone_of_cancel aligned code live) left moves).unseen
        (Later.run left moves).aligned

theorem discards_find_timers_gone_reentered :
    let m : TimerMachine String := run {} [.schedule 10 "a", .schedule 20 "b"]
    let n : TimerMachine String :=
      ⟨(m.step .clear).2.queue, [.discard "b", .discard "a"]⟩
    let l := n.run [.cancel 0, .cancel 1]
    (∃ payloads, (m.step .clear).1 = .cleared payloads ∧ payloads.length = 2) ∧
      (l.step (.cancel 0)).1 = .cancelled none ∧
      (((l.step (.schedule 15 "c")).2.run [.leave, .leave]).queue.live? 2 = some "c") ∧
      (m.step (.cancel 0)).2.Unseen 0 := by
  intro m n l
  obtain ⟨⟨payloads, told, size, -, orders⟩, cancels⟩ :=
    discards_find_timers_gone (α := String) [.schedule 10 "a", .schedule 20 "b"] (by decide)
  have same : payloads = ["a", "b"] := (TimerAnswer.cleared.inj told).symm
  subst same
  obtain ⟨-, -, gone, adds⟩ := orders ["b", "a"] (List.Perm.swap "a" "b" []) [.cancel 0, .cancel 1]
  obtain ⟨handle, added, -, stays⟩ := adds (by decide) 15 "c"
  obtain rfl : handle = ⟨2, 15⟩ := (TimerAnswer.scheduled.inj added).symm
  have safe : ((l.step (.schedule 15 "c")).2.run [.leave, .leave]).queue.live? 2 = some "c" := by
    refine (stays [.leave, .leave]).mpr fun first move rest split => ?_
    have among : move ∈ first ++ move :: rest := List.mem_append_right _ List.mem_cons_self
    rw [← split] at among
    obtain rfl : move = .leave := by simpa using among
    rfl
  obtain ⟨-, -, -, unseen⟩ := cancels 0 "a" rfl
  exact ⟨⟨_, told, rfl⟩, (gone 0 (by decide)).cancel (by decide), safe, unseen []⟩

end MessageRelay.TimerMachine
