import MessageRelay.Proofs.Timer.Balance
import MessageRelay.Proofs.Timer.Machine

/-!
What becomes of timers. Whoever uses a queue sees which timers were scheduled, whose callbacks ran and
which were taken back. By that record each timer that was scheduled is live, has fired or was
cancelled, and stays so once it is not live; and as long as no pass is under way, the counters of the
queue are those of the record.
-/
namespace MessageRelay

variable {α : Type}

/-- What is seen of the timers of a queue along a run; as many were withdrawn as cancellations and
clearings say that they took out. -/
structure TimerRecord where
  scheduled : List TimerId := []
  fired : List TimerId := []
  cancelled : List TimerId := []
  withdrawn : Nat := 0

inductive Fate where
  | live
  | fired
  | cancelled

/-- What has become of a timer, by the queue and by what was seen of it. -/
def Fate.Of (q : TimerQueue α) (r : TimerRecord) (id : TimerId) : Fate → Prop
  | .live => q.isScheduled id = true
  | .fired => id ∈ r.fired
  | .cancelled => id ∈ r.cancelled

namespace TimerRecord

variable {q : TimerQueue α} {r : TimerRecord} {id : TimerId}

def waiting (r : TimerRecord) : List TimerId :=
  r.scheduled.filter fun id => id ∉ r.fired ++ r.cancelled

def note (move : TimerMove α) (answer : TimerAnswer α) (r : TimerRecord) : TimerRecord :=
  match move, answer with
  | .schedule _ _, .scheduled handle => { r with scheduled := r.scheduled ++ [handle.id] }
  | .cancel id, .cancelled (some _) =>
    { r with cancelled := r.cancelled ++ [id], withdrawn := r.withdrawn + 1 }
  | .clear, .cleared payloads =>
    { r with
      cancelled := r.cancelled ++ r.waiting
      withdrawn := r.withdrawn + payloads.length }
  | .advance, .fired id _ => { r with fired := r.fired ++ [id] }
  | _, _ => r

theorem note_grows (move : TimerMove α) (answer : TimerAnswer α) (r : TimerRecord) :
    r.fired <+: (r.note move answer).fired ∧ r.cancelled <+: (r.note move answer).cancelled := by
  unfold note
  split
  · exact ⟨List.prefix_rfl, List.prefix_rfl⟩
  · exact ⟨List.prefix_rfl, List.prefix_append _ _⟩
  · exact ⟨List.prefix_rfl, List.prefix_append _ _⟩
  · exact ⟨List.prefix_append _ _, List.prefix_rfl⟩
  · exact ⟨List.prefix_rfl, List.prefix_rfl⟩

/-- The record and the queue agree: each timer that was scheduled is live, has fired or was
cancelled, and only one of these. -/
structure Agrees (r : TimerRecord) (q : TimerQueue α) : Prop where
  numbered : q.Numbered
  issued : r.scheduled = List.range q.issued
  parted : (q.liveIds ++ (r.fired ++ r.cancelled)).Perm r.scheduled
  withdrawn : r.cancelled.length = r.withdrawn
  counted : q.cancelled = r.withdrawn

namespace Agrees

theorem empty : Agrees {} ({} : TimerQueue α) where
  numbered := TimerQueue.empty_numbered
  issued := rfl
  parted := List.Perm.refl _
  withdrawn := rfl
  counted := rfl

theorem nodup (h : r.Agrees q) : (q.liveIds ++ (r.fired ++ r.cancelled)).Nodup :=
  h.parted.nodup_iff.mpr (h.issued ▸ List.nodup_range)

theorem live_unseen (h : r.Agrees q) (live : id ∈ q.liveIds) : id ∉ r.fired ++ r.cancelled :=
  List.disjoint_of_nodup_append h.nodup live

theorem waiting_perm (h : r.Agrees q) : r.waiting.Perm q.liveIds := by
  have unseen : q.liveIds.filter (fun id => decide (id ∉ r.fired ++ r.cancelled)) = q.liveIds :=
    List.filter_eq_self.mpr fun id live => decide_eq_true (h.live_unseen live)
  have seen : (r.fired ++ r.cancelled).filter (fun id => decide (id ∉ r.fired ++ r.cancelled)) = [] :=
    List.filter_eq_nil_iff.mpr fun id member => by simp [List.mem_append.mp member]
  have parted := (h.parted.filter fun id => decide (id ∉ r.fired ++ r.cancelled)).symm
  rwa [List.filter_append, unseen, seen, List.append_nil] at parted

theorem perm_of_erase {live seen seen' scheduled : List TimerId} (listed : id ∈ live)
    (more : seen'.Perm (id :: seen)) (parted : (live ++ seen).Perm scheduled) :
    (live.erase id ++ seen').Perm scheduled := by
  have moved : (live.erase id ++ seen').Perm (live.erase id ++ id :: seen) := more.append_left _
  have back : (id :: live.erase id ++ seen).Perm (live ++ seen) :=
    (List.perm_cons_erase listed).symm.append_right seen
  exact (moved.trans List.perm_middle).trans (back.trans parted)

theorem scheduleAt (h : r.Agrees q) (deadline : Nanos) (payload : α) :
    Agrees { r with scheduled := r.scheduled ++ [q.next] } (q.scheduleAt deadline payload).2 where
  numbered := h.numbered.scheduleAt deadline payload
  issued := by
    have more : (q.scheduleAt deadline payload).2.issued = q.issued + 1 := rfl
    rw [more, List.range_succ, ← h.issued]
    rfl
  parted := (h.parted.cons q.next).trans (List.perm_append_singleton _ _).symm
  withdrawn := h.withdrawn
  counted := h.counted

theorem cancel_live (h : r.Agrees q) (live : id ∈ q.liveIds) :
    Agrees { r with cancelled := r.cancelled ++ [id], withdrawn := r.withdrawn + 1 }
      (q.cancel id).2 where
  numbered := h.numbered.cancel id
  issued := h.issued
  parted := by
    have more : (r.fired ++ (r.cancelled ++ [id])).Perm (id :: (r.fired ++ r.cancelled)) := by
      rw [← List.append_assoc]
      exact List.perm_append_singleton _ _
    exact TimerQueue.liveIds_cancel id q ▸ perm_of_erase live more h.parted
  withdrawn := by rw [List.length_append, h.withdrawn]; rfl
  counted := by
    have scheduled := TimerQueue.mem_liveIds.mp live
    have counted : (q.cancel id).2.cancelled = q.cancelled + if q.isScheduled id then 1 else 0 := rfl
    rw [counted, if_pos scheduled, h.counted]

theorem cancel_past (h : r.Agrees q) (past : id ∉ q.liveIds) : Agrees r (q.cancel id).2 where
  numbered := h.numbered.cancel id
  issued := h.issued
  parted := by
    rw [TimerQueue.liveIds_cancel, List.erase_of_not_mem past]
    exact h.parted
  withdrawn := h.withdrawn
  counted := by
    have counted : (q.cancel id).2.cancelled = q.cancelled + if q.isScheduled id then 1 else 0 := rfl
    rw [counted, if_neg fun live => past (TimerQueue.mem_liveIds.mpr live)]
    exact h.counted

theorem clear (h : r.Agrees q) :
    Agrees { r with
      cancelled := r.cancelled ++ r.waiting
      withdrawn := r.withdrawn + q.clear.1.length } q.clear.2 where
  numbered := h.numbered.clear
  issued := h.issued
  parted := by
    have all : (r.fired ++ (r.cancelled ++ r.waiting)).Perm (q.liveIds ++ (r.fired ++ r.cancelled)) := by
      rw [← List.append_assoc]
      exact (h.waiting_perm.append_left _).trans List.perm_append_comm
    exact all.trans h.parted
  withdrawn := by
    rw [List.length_append, h.waiting_perm.length_eq, h.withdrawn, TimerQueue.length_clear,
      TimerQueue.length_liveIds]
  counted := by
    have counted : q.clear.2.cancelled = q.cancelled + q.clear.1.length := rfl
    rw [counted, h.counted]

theorem popDue_some (h : r.Agrees q) {now : Nanos} {payload : α} {q' : TimerQueue α}
    (due : q.popDue now = (some (id, payload), q')) :
    Agrees { r with fired := r.fired ++ [id] } q' := by
  obtain ⟨live, rest, issued⟩ := TimerQueue.liveIds_popDue_some due
  obtain ⟨-, erased, next⟩ := TimerQueue.popDue_some due
  refine ⟨h.numbered.sublist (erased ▸ List.eraseP_sublist) next, issued ▸ h.issued, ?_,
    h.withdrawn, (TimerQueue.cancelled_popDue due).trans h.counted⟩
  rw [rest, List.append_assoc]
  exact perm_of_erase live List.perm_middle h.parted

theorem popDue_none (h : r.Agrees q) {now : Nanos} {q' : TimerQueue α}
    (idle : q.popDue now = (none, q')) : Agrees r q' := by
  obtain ⟨rest, issued⟩ := TimerQueue.liveIds_popDue_none idle
  obtain ⟨live, next⟩ := TimerQueue.popDue_none idle
  exact ⟨h.numbered.sublist (live ▸ List.Sublist.refl _) next, issued ▸ h.issued, rest ▸ h.parted,
    h.withdrawn, (TimerQueue.cancelled_popDue idle).trans h.counted⟩

theorem fates (h : r.Agrees q) :
    (∀ id ∈ r.scheduled, ∃! fate, Fate.Of q r id fate) ∧
      ∀ id fate, Fate.Of q r id fate → id ∈ r.scheduled := by
  obtain ⟨-, seen, apart⟩ := List.nodup_append.mp h.nodup
  have never (id : TimerId) (fired : id ∈ r.fired) : id ∉ r.cancelled :=
    List.disjoint_of_nodup_append seen fired
  have unseen (id : TimerId) (live : q.isScheduled id = true) : id ∉ r.fired ++ r.cancelled :=
    h.live_unseen (TimerQueue.mem_liveIds.mpr live)
  have known (id : TimerId) : (∃ fate, Fate.Of q r id fate) ↔ id ∈ r.scheduled := by
    rw [← h.parted.mem_iff, List.mem_append, List.mem_append, TimerQueue.mem_liveIds]
    constructor
    · rintro ⟨_ | _ | _, has⟩
      · exact .inl has
      · exact .inr (.inl has)
      · exact .inr (.inr has)
    · rintro (live | fired | cancelled)
      · exact ⟨.live, live⟩
      · exact ⟨.fired, fired⟩
      · exact ⟨.cancelled, cancelled⟩
  refine ⟨fun id scheduled => ?_, fun id fate has => (known id).mp ⟨fate, has⟩⟩
  obtain ⟨fate, has⟩ := (known id).mpr scheduled
  refine ⟨fate, has, fun other has' => ?_⟩
  cases fate <;> cases other <;> first
    | rfl
    | exact absurd (List.mem_append_left _ ‹_›) (unseen id ‹_›)
    | exact absurd (List.mem_append_right _ ‹_›) (unseen id ‹_›)
    | exact absurd ‹_› (never id ‹_›)

end Agrees

end TimerRecord

def TimerFrame.isPass : TimerFrame α → Bool
  | .pass _ _ => true
  | _ => false

namespace TimerMachine

variable {m : TimerMachine α} {r : TimerRecord}

def record (r : TimerRecord) (m : TimerMachine α) : List (TimerMove α) → TimerRecord
  | [] => r
  | move :: moves => record (r.note move (m.step move).1) (m.step move).2 moves

theorem record_grows (r : TimerRecord) (m : TimerMachine α) (moves : List (TimerMove α)) :
    r.fired <+: (record r m moves).fired ∧ r.cancelled <+: (record r m moves).cancelled := by
  induction moves generalizing r m with
  | nil => exact ⟨List.prefix_rfl, List.prefix_rfl⟩
  | cons move moves ih =>
    obtain ⟨fired, cancelled⟩ := TimerRecord.note_grows move (m.step move).1 r
    obtain ⟨fired', cancelled'⟩ := ih (r.note move (m.step move).1) (m.step move).2
    exact ⟨fired.trans fired', cancelled.trans cancelled'⟩

/-- How many timers were taken by passes that have not ended. The last one of a pass counts from the
start of its callback on. -/
def underway : List (TimerFrame α) → Nat
  | [] => 0
  | .pass _ count :: below => count + underway below
  | .callback _ _ :: below => (if below.head?.any TimerFrame.isPass then 1 else 0) + underway below
  | .discard _ :: below => underway below

theorem underway_discards (payloads : List α) (stack : List (TimerFrame α)) :
    underway (payloads.map .discard ++ stack) = underway stack := by
  induction payloads with
  | nil => rfl
  | cons payload payloads ih => exact ih

theorem underway_eq_zero {stack : List (TimerFrame α)}
    (none : ∀ frame ∈ stack, frame.isPass = false) : underway stack = 0 := by
  induction stack with
  | nil => rfl
  | cons frame below ih =>
    have rest := ih fun frame member => none frame (List.mem_cons_of_mem _ member)
    have top := none frame List.mem_cons_self
    cases frame with
    | pass now count => cases top
    | callback id payload =>
      have head : below.head?.any TimerFrame.isPass = false := by
        cases below with
        | nil => rfl
        | cons next below => exact none next (List.mem_cons_of_mem _ List.mem_cons_self)
      rw [underway, head, rest]
      rfl
    | discard payload => exact rest

structure Kept (m : TimerMachine α) (r : TimerRecord) : Prop where
  agrees : r.Agrees m.queue
  fired : m.queue.fired + underway m.stack = r.fired.length

namespace Kept

theorem cancel (h : m.Kept r) (code : m.inCode = true) (id : TimerId) :
    (m.step (.cancel id)).2.Kept (r.note (.cancel id) (m.step (.cancel id)).1) := by
  have scheduled := TimerQueue.cancel_isSome id m.queue
  rw [cancel_eq code]
  cases found : (m.queue.cancel id).1 with
  | none =>
    rw [found] at scheduled
    have past : id ∉ m.queue.liveIds := fun live => by
      rw [TimerQueue.mem_liveIds.mp live] at scheduled
      cases scheduled
    exact ⟨h.agrees.cancel_past past, h.fired⟩
  | some payload =>
    rw [found] at scheduled
    exact ⟨h.agrees.cancel_live (TimerQueue.mem_liveIds.mpr scheduled.symm), h.fired⟩

theorem leave (h : m.Kept r) : (m.step .leave).2.Kept (r.note .leave (m.step .leave).1) := by
  have seen : r.note .leave (m.step .leave).1 = r := rfl
  obtain ⟨shift, queue⟩ := leave_shift m
  rw [seen]
  refine ⟨queue ▸ h.agrees, ?_⟩
  have fired := h.fired
  obtain ⟨q, stack⟩ := m
  match stack with
  | .callback id payload :: .pass now count :: below =>
    simp only [step, underway, List.head?_cons, Option.any_some, TimerFrame.isPass, if_true] at fired ⊢
    omega
  | .discard payload :: below => exact fired
  | [] | [.callback _ _] | .callback _ _ :: .callback _ _ :: _ | .callback _ _ :: .discard _ :: _
  | .pass _ _ :: _ => exact fired

theorem advance (h : m.Kept r) {now : Nanos} {count : Nat} {below : List (TimerFrame α)}
    (pass : m.stack = .pass now count :: below) :
    (m.step .advance).2.Kept (r.note .advance (m.step .advance).1) := by
  have fired := h.fired
  rw [pass, underway] at fired
  rw [advance_eq pass]
  split
  · rename_i id payload queue due
    refine ⟨h.agrees.popDue_some due, ?_⟩
    have same := TimerQueue.fired_popDue due
    simp only [TimerRecord.note, underway, List.head?_cons, Option.any_some, TimerFrame.isPass,
      if_true, List.length_append, List.length_singleton]
    omega
  · rename_i queue idle
    obtain ⟨numbered, issued, parted, withdrawn, counted⟩ := h.agrees.popDue_none idle
    refine ⟨⟨⟨numbered.nodup, numbered.below⟩, issued, parted, withdrawn, counted⟩, ?_⟩
    have same : (queue.endPass count).fired = m.queue.fired + count := by
      rw [← TimerQueue.fired_popDue idle]
      rfl
    simp only [TimerRecord.note, same]
    omega

theorem step (h : m.Kept r) (move : TimerMove α) :
    (m.step move).2.Kept (r.note move (m.step move).1) := by
  rcases m.inCode_or_pass with code | ⟨now, count, below, pass⟩
  · cases move with
    | schedule deadline payload =>
      rw [schedule_eq code]
      exact ⟨h.agrees.scheduleAt deadline payload, h.fired⟩
    | cancel id => exact h.cancel code id
    | clear =>
      rw [clear_eq code]
      refine ⟨h.agrees.clear, ?_⟩
      dsimp only
      rw [underway_discards]
      exact h.fired
    | look =>
      rw [look_eq code]
      obtain ⟨numbered, issued, parted, withdrawn, counted⟩ := h.agrees
      exact ⟨⟨⟨numbered.nodup, numbered.below⟩, issued, parted, withdrawn, counted⟩, h.fired⟩
    | enter now =>
      rw [enter_eq code]
      refine ⟨h.agrees, ?_⟩
      rw [underway, Nat.zero_add]
      exact h.fired
    | advance =>
      rw [advance_inCode code]
      exact h
    | leave => exact h.leave
  · by_cases advances : move = .advance
    · subst advances
      exact h.advance pass
    · have seen : r.note move .refused = r := by cases move <;> rfl
      rw [step_refused pass advances, seen]
      exact h

theorem run (h : m.Kept r) (moves : List (TimerMove α)) : (m.run moves).Kept (record r m moves) := by
  induction moves generalizing m r with
  | nil => exact h
  | cons move moves ih => exact ih (h.step move)

end Kept

theorem fate_persists (m : TimerMachine α) (r : TimerRecord) (later : List (TimerMove α)) {id : TimerId}
    {fate : Fate} (past : fate ≠ .live) (has : Fate.Of m.queue r id fate) :
    Fate.Of (m.run later).queue (record r m later) id fate := by
  obtain ⟨fired, cancelled⟩ := record_grows r m later
  cases fate with
  | live => exact absurd rfl past
  | fired => exact fired.subset has
  | cancelled => exact cancelled.subset has

theorem cancel_answer (code : m.inCode = true) (id : TimerId) :
    (∃ payload, (m.step (.cancel id)).1 = .cancelled (some payload)) ↔
      m.queue.isScheduled id = true := by
  rw [cancel_eq code, ← TimerQueue.cancel_isSome, Option.isSome_iff_exists]
  simp only [TimerAnswer.cancelled.injEq]

theorem Kept.size_eq (h : m.Kept r) : m.queue.size = r.scheduled.countP m.queue.isScheduled := by
  have live : m.queue.liveIds.countP m.queue.isScheduled = m.queue.liveIds.length :=
    List.countP_eq_length.mpr fun id => TimerQueue.mem_liveIds.mp
  have seen : (r.fired ++ r.cancelled).countP m.queue.isScheduled = 0 :=
    List.countP_eq_zero.mpr fun id member scheduled =>
      h.agrees.live_unseen (TimerQueue.mem_liveIds.mpr scheduled) member
  rw [← h.agrees.parted.countP_eq, List.countP_append, live, seen, TimerQueue.length_liveIds,
    Nat.add_zero]

theorem Kept.stats_eq (h : m.Kept r) (idle : ∀ frame ∈ m.stack, frame.isPass = false) :
    m.queue.stats = ⟨r.scheduled.length, r.fired.length, r.withdrawn, m.queue.size⟩ := by
  have fired := h.fired
  rw [underway_eq_zero idle, Nat.add_zero] at fired
  have parted := h.agrees.parted.length_eq
  rw [List.length_append, List.length_append, TimerQueue.length_liveIds, h.agrees.withdrawn] at parted
  have total : r.fired.length + r.withdrawn + m.queue.size = r.scheduled.length := by omega
  rw [TimerQueue.stats, fired, h.agrees.counted, total]

/-- In every run, whatever callbacks and discarded callbacks do to the queue: each timer that was
scheduled is live, has fired or was cancelled, it is one of these only, and fired or cancelled it
stays; so no callback is run twice, or after its timer was taken out. A cancellation tells whether the
timer was live. And where no pass is under way, the counters are those of the record. -/
theorem timers_end_once (moves : List (TimerMove α)) :
    let m : TimerMachine α := run {} moves
    let r := record {} ({} : TimerMachine α) moves
    (r.scheduled.Nodup ∧ r.fired.Nodup ∧ r.cancelled.Nodup) ∧
    (∀ id ∈ r.scheduled, ∃! fate, Fate.Of m.queue r id fate) ∧
    (∀ id fate, Fate.Of m.queue r id fate → id ∈ r.scheduled ∧ ∀ later, fate ≠ .live →
      Fate.Of (m.run later).queue (record r m later) id fate) ∧
    (m.inCode = true → ∀ id, (∃ payload, (m.step (.cancel id)).1 = .cancelled (some payload)) ↔
      m.queue.isScheduled id = true) ∧
    m.queue.size = r.scheduled.countP m.queue.isScheduled ∧
    ((∀ frame ∈ m.stack, frame.isPass = false) →
      m.queue.stats = ⟨r.scheduled.length, r.fired.length, r.withdrawn, m.queue.size⟩) := by
  intro m r
  have kept : m.Kept r := Kept.run ⟨TimerRecord.Agrees.empty, rfl⟩ moves
  obtain ⟨-, seen, -⟩ := List.nodup_append.mp kept.agrees.nodup
  obtain ⟨fired, cancelled, -⟩ := List.nodup_append.mp seen
  obtain ⟨unique, known⟩ := kept.agrees.fates
  have scheduled : r.scheduled.Nodup := kept.agrees.issued ▸ List.nodup_range
  exact ⟨⟨scheduled, fired, cancelled⟩, unique,
    fun id fate has => ⟨known id fate has, fun later past => fate_persists m r later past has⟩,
    fun code id => cancel_answer code id, kept.size_eq, kept.stats_eq⟩

theorem timers_end_once_nested :
    let moves : List (TimerMove Unit) :=
      [.schedule 10 (), .schedule 10 (), .schedule 30 (), .enter 10, .advance, .cancel 1, .leave,
        .schedule 15 (), .enter 20, .advance, .clear, .leave, .leave, .advance, .leave, .advance]
    let m : TimerMachine Unit := run {} moves
    let r := record {} ({} : TimerMachine Unit) moves
    m.queue.stats = ⟨4, 2, 2, 0⟩ ∧ r.scheduled = [0, 1, 2, 3] ∧ r.fired = [0, 3] ∧
      (∃! fate, Fate.Of m.queue r 2 fate) ∧
      ((m.step (.cancel 2)).1 = .cancelled none ∧ m.queue.isScheduled 2 = false) ∧
      ∀ later, Fate.Of (m.run later).queue (record r m later) 2 .cancelled := by
  intro moves m r
  obtain ⟨-, unique, stays, tells, -, counts⟩ := timers_end_once moves
  have idle : m.queue.stats = ⟨4, 2, 2, 0⟩ := counts (by decide)
  have not_live : ¬ m.queue.isScheduled 2 = true := fun live => by
    obtain ⟨payload, answer⟩ := (tells (by decide) 2).mpr live
    cases answer
  exact ⟨idle, by decide, by decide, unique 2 (by decide), ⟨rfl, Bool.eq_false_iff.mpr not_live⟩,
    fun later => (stays 2 .cancelled (by decide : (2 : TimerId) ∈ r.cancelled)).2 later nofun⟩

end TimerMachine

end MessageRelay
