import Mathlib.Data.List.Induction
import MessageRelay.Timer.Rounds
import MessageRelay.Proofs.Timer.Refinement

/-!
Slots against timers, in every run. A live timer has one slot, where it was scheduled; all other slots
are those of removed timers that no loop has passed over yet. Each loop is done after no more rounds
than there are slots.
-/
namespace MessageRelay.Schedule

variable {α β γ : Type} {s : Schedule α}

theorem loop_nil (round : Slot → Schedule α → Round α (Option β)) (rounds : Nat)
    (none : s.slots = []) : loop round rounds s = some ([], .none, s) := by
  cases rounds with
  | zero => rw [loop, none]; rfl
  | succ rounds => rw [loop, none]

theorem loop_ends {round : Slot → Schedule α → Round α (Option β)} {slot : Slot} {rest : List Slot}
    {answer : Option β} {s' : Schedule α} (rounds : Nat) (slots : s.slots = slot :: rest)
    (ends : round slot s = .ends answer s') :
    loop round (rounds + 1) s = some ([], answer, s') := by
  rw [loop, slots]
  simp only [ends]

theorem loop_passes {round : Slot → Schedule α → Round α (Option β)} {slot : Slot}
    {rest : List Slot} (s' : Schedule α) (rounds : Nat) (slots : s.slots = slot :: rest)
    (passes : round slot s = .passes s') :
    loop round (rounds + 1) s =
      (loop round rounds s').map fun (passed, result) => (slot :: passed, result) := by
  rw [loop, slots]
  simp only [passes]

theorem erase_of_not_live {live : List (TimerId × α)} {id : TimerId} (gone : find? live id = none) :
    erase live id = live := by
  refine List.eraseP_of_forall_not fun t member => ?_
  rw [find?_eq_none_iff] at gone
  simpa using fun same : t.1 = id => gone (same ▸ List.mem_map_of_mem member)

theorem perm_erase {live : List (TimerId × α)} {id : TimerId} {payload : α}
    (found : find? live id = some payload) :
    (live.map (·.1)).Perm (id :: (erase live id).map (·.1)) := by
  obtain ⟨t, before, after, -, same, split, rest⟩ := List.exists_of_eraseP
    (p := fun t => t.1 = id) (mem_of_find? found) (decide_eq_true rfl)
  have same : t.1 = id := of_decide_eq_true same
  rw [erase, rest, split, List.map_append, List.map_append, List.map_cons, same]
  exact List.perm_middle

/-- What a loop does to the slots: it passes over some in front, whose timers are gone. -/
structure Passes (s : Schedule α) (passed : List Slot) (rest : List Slot) : Prop where
  slots : s.slots = passed ++ rest
  gone : ∀ slot ∈ passed, find? s.live slot.id = none

theorem Passes.cons {slot : Slot} {slots passed rest : List Slot} {live : List (TimerId × α)}
    {next : TimerId} (gone : find? live slot.id = none)
    (later : Passes ⟨slots, live, next⟩ passed rest) :
    Passes ⟨slot :: slots, live, next⟩ (slot :: passed) rest where
  slots := congrArg (slot :: ·) later.slots
  gone other member := by
    rcases List.mem_cons.mp member with rfl | member
    · exact gone
    · exact later.gone other member

theorem loop_dueRound (now : Nanos) (s : Schedule α) {rounds : Nat} (enough : s.slots.length ≤ rounds) :
    ∃ passed, loop (dueRound now) rounds s = some (passed, s.popDue now) ∧
      ((s.popDue now).1 = none ∧ Passes s passed (s.popDue now).2.slots ∨
        ∃ slot payload, (s.popDue now).1 = some (slot.id, payload) ∧
          Passes s passed (slot :: (s.popDue now).2.slots)) := by
  obtain ⟨slots, live, next⟩ := s
  induction slots generalizing rounds with
  | nil => exact ⟨[], loop_nil _ _ rfl, .inl ⟨rfl, rfl, nofun⟩⟩
  | cons slot rest ih =>
    obtain ⟨rounds, rfl⟩ := Nat.exists_eq_add_one_of_ne_zero (Nat.ne_zero_of_lt enough)
    by_cases early : now < slot.fireAt
    · have stays : popDue now ⟨slot :: rest, live, next⟩ = (none, ⟨slot :: rest, live, next⟩) := by
        simp only [popDue, firstDue, if_pos early]
      refine ⟨[], ?_, .inl ?_⟩
      · rw [stays]
        exact loop_ends _ rfl (if_pos early)
      · rw [stays]
        exact ⟨rfl, rfl, nofun⟩
    · cases found : find? live slot.id with
      | some payload =>
        have pops : popDue now ⟨slot :: rest, live, next⟩ =
            (some (slot.id, payload), ⟨rest, erase live slot.id, next⟩) := by
          simp only [popDue, firstDue, if_neg early, found]
        refine ⟨[], ?_, .inr ⟨slot, payload, ?_⟩⟩
        · rw [pops]
          refine loop_ends _ rfl ?_
          simp only [dueRound, if_neg early, remove, dropFront, found, List.tail_cons]
        · rw [pops]
          exact ⟨rfl, rfl, nofun⟩
      | none =>
        have goes : popDue now ⟨slot :: rest, live, next⟩ = popDue now ⟨rest, live, next⟩ := by
          simp only [popDue, firstDue, if_neg early, found]
        obtain ⟨passed, done, cases⟩ := ih (Nat.le_of_succ_le_succ enough)
        refine ⟨slot :: passed, ?_, ?_⟩
        · rw [goes, loop_passes ⟨rest, live, next⟩ _ rfl, done]
          · rfl
          · simp only [dueRound, if_neg early, remove, dropFront, found, List.tail_cons,
              erase_of_not_live found]
        · rw [goes]
          rcases cases with ⟨answer, passes⟩ | ⟨due, payload, answer, passes⟩
          · exact .inl ⟨answer, passes.cons found⟩
          · exact .inr ⟨due, payload, answer, passes.cons found⟩

theorem loop_deadlineRound (s : Schedule α) {rounds : Nat} (enough : s.slots.length ≤ rounds) :
    ∃ passed, loop deadlineRound rounds s = some (passed, s.nextDeadline) ∧
      Passes s passed s.nextDeadline.2.slots := by
  obtain ⟨slots, live, next⟩ := s
  induction slots generalizing rounds with
  | nil => exact ⟨[], loop_nil _ _ rfl, rfl, nofun⟩
  | cons slot rest ih =>
    obtain ⟨rounds, rfl⟩ := Nat.exists_eq_add_one_of_ne_zero (Nat.ne_zero_of_lt enough)
    by_cases alive : (find? live slot.id).isSome
    · have stays : nextDeadline ⟨slot :: rest, live, next⟩ =
          (some slot.fireAt, ⟨slot :: rest, live, next⟩) := by
        simp only [nextDeadline, skipRemoved, if_pos alive, List.head?_cons, Option.map_some]
      rw [stays]
      exact ⟨[], loop_ends _ rfl (if_pos alive), rfl, nofun⟩
    · have goes : nextDeadline ⟨slot :: rest, live, next⟩ = nextDeadline ⟨rest, live, next⟩ := by
        simp only [nextDeadline, skipRemoved, if_neg alive]
      obtain ⟨passed, done, passes⟩ := ih (Nat.le_of_succ_le_succ enough)
      rw [goes]
      refine ⟨slot :: passed, ?_, passes.cons (Option.not_isSome_iff_eq_none.mp alive)⟩
      rw [loop_passes ⟨rest, live, next⟩ _ rfl (if_neg alive), done]
      rfl

def gathered (add : Schedule α → ScheduleMove α → List γ) :
    Schedule α → List (ScheduleMove α) → List γ
  | _, [] => []
  | s, move :: moves => add s move ++ gathered add (s.step move).2 moves

def insertedBy (s : Schedule α) (move : ScheduleMove α) : List Slot :=
  match move, (s.step move).1 with
  | .insert fireAt _, .inserted id => [⟨fireAt, id⟩]
  | _, _ => []

def removedBy (s : Schedule α) (move : ScheduleMove α) : List TimerId :=
  match move, (s.step move).1 with
  | .remove id, .removed (some _) => [id]
  | _, _ => []

def skippedBy (s : Schedule α) : ScheduleMove α → List Slot
  | .popDue now => ((loop (dueRound now) s.slotCount s).map (·.1)).getD []
  | .nextDeadline => ((loop deadlineRound s.slotCount s).map (·.1)).getD []
  | .drain => s.slots
  | _ => []

def inserted (moves : List (ScheduleMove α)) : List Slot := gathered insertedBy {} moves

def removed (moves : List (ScheduleMove α)) : List TimerId := gathered removedBy {} moves

def skipped (moves : List (ScheduleMove α)) : List Slot := gathered skippedBy {} moves

/-- The removed timers whose slot was not skipped yet. -/
def unskipped (moves : List (ScheduleMove α)) : List TimerId :=
  (removed moves).filter (· ∉ (skipped moves).map (·.id))

theorem run_concat (s : Schedule α) (moves : List (ScheduleMove α)) (move : ScheduleMove α) :
    s.run (moves ++ [move]) = ((s.run moves).step move).2 := by
  rw [run, run, List.foldl_concat]

theorem gathered_concat (add : Schedule α → ScheduleMove α → List γ) (s : Schedule α)
    (moves : List (ScheduleMove α)) (move : ScheduleMove α) :
    gathered add s (moves ++ [move]) = gathered add s moves ++ add (s.run moves) move := by
  induction moves generalizing s with
  | nil => exact List.append_nil _
  | cons first moves ih =>
    rw [List.cons_append, gathered, gathered, ih, List.append_assoc]
    rfl

theorem skipped_concat {moves : List (ScheduleMove α)} {move : ScheduleMove α}
    (reached : ({} : Schedule α).run moves = s) :
    skipped (moves ++ [move]) = skipped moves ++ skippedBy s move := by
  rw [skipped, gathered_concat, reached]
  rfl

theorem removed_concat {moves : List (ScheduleMove α)} {move : ScheduleMove α}
    (reached : ({} : Schedule α).run moves = s) :
    removed (moves ++ [move]) = removed moves ++ removedBy s move := by
  rw [removed, gathered_concat, reached]
  rfl

theorem inserted_concat {moves : List (ScheduleMove α)} {move : ScheduleMove α}
    (reached : ({} : Schedule α).run moves = s) :
    inserted (moves ++ [move]) = inserted moves ++ insertedBy s move := by
  rw [inserted, gathered_concat, reached]
  rfl

/-- How the slots and the history of a run belong together. -/
structure Recorded (moves : List (ScheduleMove α)) (s : Schedule α) : Prop where
  reached : ({} : Schedule α).run moves = s
  aligned : s.Aligned
  divided : (s.slots.map (·.id)).Perm (s.live.map (·.1) ++ unskipped moves)
  placed : ∀ slot ∈ s.slots, slot ∈ inserted moves
  numbered : ((inserted moves).map (·.id)).Nodup
  given : ∀ slot ∈ inserted moves, slot.id < s.next
  spent : ∀ slot ∈ skipped moves, slot.id ∉ s.slots.map (·.id) ∧ slot.id < s.next
  gone : ∀ id ∈ removed moves, id ∉ s.live.map (·.1) ∧ id < s.next

namespace Recorded

variable {moves : List (ScheduleMove α)} {move : ScheduleMove α}

theorem empty : Recorded [] ({} : Schedule α) where
  reached := rfl
  aligned := Aligned.empty
  divided := List.Perm.refl _
  placed := nofun
  numbered := List.nodup_nil
  given := nofun
  spent := nofun
  gone := nofun

theorem insert (h : Recorded moves s) (fireAt : Nanos) (payload : α) :
    Recorded (moves ++ [.insert fireAt payload]) (s.insert fireAt payload).2 := by
  have added : inserted (moves ++ [.insert fireAt payload]) = inserted moves ++ [⟨fireAt, s.next⟩] :=
    inserted_concat h.reached
  have kept : removed (moves ++ [.insert fireAt payload]) = removed moves :=
    (removed_concat h.reached).trans (List.append_nil _)
  have passed : skipped (moves ++ [.insert fireAt payload]) = skipped moves :=
    (skipped_concat h.reached).trans (List.append_nil _)
  have slots := perm_insertSlot ⟨fireAt, s.next⟩ s.slots
  have other {id : TimerId} (below : id < s.next) : id ≠ s.next := Nat.ne_of_lt below
  refine ⟨?_, h.aligned.insert fireAt payload, ?_, fun slot member => ?_, ?_, fun slot member => ?_,
    fun slot member => ?_, fun id member => ?_⟩
  · rw [run_concat, h.reached]
    rfl
  · rw [unskipped, kept, passed]
    exact (slots.map _).trans (h.divided.cons _)
  · rw [added, List.mem_append]
    rcases mem_insertSlot.mp member with rfl | old
    · exact .inr List.mem_cons_self
    · exact .inl (h.placed slot old)
  · rw [added, List.map_append]
    refine List.nodup_append.mpr ⟨h.numbered, List.nodup_singleton _, ?_⟩
    rintro id old _ new rfl
    obtain ⟨slot, member, rfl⟩ := List.mem_map.mp old
    exact other (h.given slot member) (List.mem_singleton.mp new)
  · rw [added, List.mem_append] at member
    rcases member with old | new
    · exact Nat.lt_succ_of_lt (h.given slot old)
    · rw [List.mem_singleton.mp new]
      exact Nat.lt_succ_self _
  · rw [passed] at member
    obtain ⟨off, below⟩ := h.spent slot member
    refine ⟨fun again => ?_, Nat.lt_succ_of_lt below⟩
    rcases List.mem_cons.mp ((slots.map _).mem_iff.mp again) with new | old
    · exact other below new
    · exact off old
  · rw [kept] at member
    obtain ⟨off, below⟩ := h.gone id member
    refine ⟨fun again => ?_, Nat.lt_succ_of_lt below⟩
    rcases List.mem_cons.mp again with new | old
    · exact other below new
    · exact off old

theorem remove (h : Recorded moves s) {id : TimerId} {payload : α}
    (found : find? s.live id = some payload) :
    Recorded (moves ++ [.remove id]) (s.remove id).2 := by
  have added : inserted (moves ++ [.remove id]) = inserted moves :=
    (inserted_concat h.reached).trans (List.append_nil _)
  have passed : skipped (moves ++ [.remove id]) = skipped moves :=
    (skipped_concat h.reached).trans (List.append_nil _)
  have taken : removed (moves ++ [.remove id]) = removed moves ++ [id] := by
    rw [removed_concat h.reached]
    simp only [removedBy, step, Schedule.remove, found]
  have member : (id, payload) ∈ s.live := mem_of_find? found
  have slot : id ∈ s.slots.map (·.id) := h.aligned.covered _ member
  have ids := perm_erase found
  refine ⟨?_, h.aligned.remove id, ?_, fun slot member => ?_, added ▸ h.numbered,
    fun slot member => ?_, fun slot member => ?_, fun other member => ?_⟩
  · rw [run_concat, h.reached]
    rfl
  · have unpassed : id ∉ (skipped moves).map (·.id) := fun again => by
      obtain ⟨front, before, rfl⟩ := List.mem_map.mp again
      exact (h.spent front before).1 slot
    have more : unskipped (moves ++ [.remove id]) = unskipped moves ++ [id] := by
      rw [unskipped, taken, passed, List.filter_append,
        List.filter_singleton, decide_eq_true unpassed]
      rfl
    rw [more, ← List.append_assoc]
    exact (h.divided.trans (ids.append_right _)).trans (List.perm_append_singleton _ _).symm
  · exact added ▸ h.placed slot member
  · exact h.given slot (added ▸ member)
  · exact h.spent slot (passed ▸ member)
  · rw [taken, List.mem_append] at member
    rcases member with before | now
    · obtain ⟨off, below⟩ := h.gone other before
      exact ⟨fun again => off ((List.eraseP_sublist.map _).subset again), below⟩
    · rw [List.mem_singleton.mp now]
      have nodup := ids.nodup_iff.mp h.aligned.numbered.nodup
      exact ⟨(List.nodup_cons.mp nodup).1, h.aligned.numbered.below _ member⟩

theorem shrink (h : Recorded moves s) (aligned : (s.step move).2.Aligned)
    (next : (s.step move).2.next = s.next) (slots : (s.step move).2.slots.Sublist s.slots)
    (live : (s.step move).2.live.Sublist s.live) (adds : insertedBy s move = [])
    (takes : removedBy s move = [])
    (passed : ∀ slot ∈ skippedBy s move,
      slot ∈ s.slots ∧ slot.id ∉ (s.step move).2.slots.map (·.id))
    (divided : ((s.step move).2.slots.map (·.id)).Perm ((s.step move).2.live.map (·.1) ++
      (unskipped moves).filter (· ∉ (skippedBy s move).map (·.id)))) :
    Recorded (moves ++ [move]) (s.step move).2 := by
  have same : inserted (moves ++ [move]) = inserted moves := by
    rw [inserted_concat h.reached, adds, List.append_nil]
  have kept : removed (moves ++ [move]) = removed moves := by
    rw [removed_concat h.reached, takes, List.append_nil]
  have more : skipped (moves ++ [move]) = skipped moves ++ skippedBy s move :=
    skipped_concat h.reached
  have left : unskipped (moves ++ [move]) =
      (unskipped moves).filter (· ∉ (skippedBy s move).map (·.id)) := by
    rw [unskipped, unskipped, List.filter_filter, kept, more]
    refine List.filter_congr fun id _ => ?_
    simp only [List.map_append, List.mem_append, not_or, Bool.decide_and, Bool.and_comm]
  refine ⟨by rw [run_concat, h.reached], aligned, left ▸ divided, fun slot member => ?_,
    same ▸ h.numbered, fun slot member => ?_, fun slot member => ?_, fun id member => ?_⟩
  · exact same ▸ h.placed slot (slots.subset member)
  · rw [next]
    exact h.given slot (same ▸ member)
  · rw [next]
    rcases List.mem_append.mp (more ▸ member) with before | now
    · obtain ⟨off, below⟩ := h.spent slot before
      exact ⟨fun again => off ((slots.map _).subset again), below⟩
    · obtain ⟨was, off⟩ := passed slot now
      exact ⟨off, h.aligned.below slot was⟩
  · obtain ⟨off, below⟩ := h.gone id (kept ▸ member)
    rw [next]
    exact ⟨fun again => off ((live.map _).subset again), below⟩

theorem pass (h : Recorded moves s) (out : List Slot) (aligned : (s.step move).2.Aligned)
    (next : (s.step move).2.next = s.next) (live : (s.step move).2.live.Sublist s.live)
    (adds : insertedBy s move = []) (takes : removedBy s move = [])
    (passes : Passes s (skippedBy s move) (out ++ (s.step move).2.slots))
    (divided : (s.live.map (·.1)).Perm (out.map (·.id) ++ (s.step move).2.live.map (·.1))) :
    Recorded (moves ++ [move]) (s.step move).2 := by
  have nodup := h.aligned.nodup
  rw [passes.slots, List.map_append, List.nodup_append] at nodup
  have off (id : TimerId) (front : id ∈ (skippedBy s move).map (·.id)) :
      id ∉ (out ++ (s.step move).2.slots).map (·.id) := fun behind => nodup.2.2 id front id behind rfl
  refine h.shrink aligned next ?_ live adds takes (fun slot member => ⟨?_, fun behind => ?_⟩) ?_
  · rw [passes.slots]
    exact (List.sublist_append_right _ _).trans (List.sublist_append_right _ _)
  · rw [passes.slots]
    exact List.mem_append_left _ member
  · refine off slot.id (List.mem_map_of_mem member) ?_
    rw [List.map_append]
    exact List.mem_append_right _ behind
  · -- Without the numbers of the slots in front, the slots are divided as before.
    have rest := (h.divided.trans (divided.append_right _)).filter
      (· ∉ (skippedBy s move).map (·.id))
    have front : ((skippedBy s move).map (·.id)).filter (· ∉ (skippedBy s move).map (·.id)) = [] :=
      List.filter_eq_nil_iff.mpr fun id member => by simpa using member
    have behind : ((out ++ (s.step move).2.slots).map (·.id)).filter
        (· ∉ (skippedBy s move).map (·.id)) = (out ++ (s.step move).2.slots).map (·.id) :=
      List.filter_eq_self.mpr fun id member => decide_eq_true fun again => off id again member
    have timers : (out.map (·.id) ++ (s.step move).2.live.map (·.1)).filter
        (· ∉ (skippedBy s move).map (·.id)) = out.map (·.id) ++ (s.step move).2.live.map (·.1) := by
      refine List.filter_eq_self.mpr fun id member => decide_eq_true fun again => ?_
      obtain ⟨slot, inFront, rfl⟩ := List.mem_map.mp again
      have none := passes.gone slot inFront
      rw [find?_eq_none_iff] at none
      exact none (divided.mem_iff.mpr member)
    rw [passes.slots, List.map_append, List.filter_append, List.filter_append, front, behind, timers,
      List.nil_append, List.map_append, List.append_assoc] at rest
    exact (List.perm_append_left_iff _).mp rest

theorem step (h : Recorded moves s) (move : ScheduleMove α) :
    Recorded (moves ++ [move]) (s.step move).2 := by
  have aligned := (h.aligned.step_agenda move).1
  -- A move that leaves the schedule as it is.
  have still (same : (s.step move).2 = s) (adds : insertedBy s move = [])
      (takes : removedBy s move = []) (skips : skippedBy s move = []) :
      Recorded (moves ++ [move]) (s.step move).2 :=
    h.pass [] aligned (by rw [same]) (by rw [same]) adds takes
      (by rw [skips, same]; exact ⟨rfl, nofun⟩) (by rw [same]; exact List.Perm.refl _)
  cases move with
  | insert fireAt payload => exact h.insert fireAt payload
  | remove id =>
    cases found : find? s.live id with
    | some payload => exact h.remove found
    | none =>
      refine still ?_ rfl ?_ rfl
      · simp only [Schedule.step, Schedule.remove, erase_of_not_live found]
      · simp only [removedBy, Schedule.step, Schedule.remove, found]
  | popDue now =>
    obtain ⟨passed, done, cases⟩ := loop_dueRound now s (Nat.le_refl _)
    have skips : skippedBy s (.popDue now) = passed := by
      simp only [skippedBy, slotCount, done, Option.map_some, Option.getD_some]
    rcases cases with ⟨answer, passes⟩ | ⟨slot, payload, answer, passes⟩
    · have idle : s.popDue now = (none, (s.popDue now).2) := Prod.ext answer rfl
      obtain ⟨same, next⟩ := popDue_none idle
      refine h.pass [] aligned next ?_ rfl rfl (skips ▸ passes) ?_
      · exact same ▸ List.Sublist.refl _
      · exact same ▸ List.Perm.refl _
    · have popped : s.popDue now = (some (slot.id, payload), (s.popDue now).2) := Prod.ext answer rfl
      obtain ⟨found, erased, next⟩ := popDue_some popped
      refine h.pass [slot] aligned next ?_ rfl rfl (skips ▸ passes) ?_
      · exact erased ▸ List.eraseP_sublist
      · exact erased ▸ perm_erase found
  | nextDeadline =>
    obtain ⟨passed, done, passes⟩ := loop_deadlineRound s (Nat.le_refl _)
    have skips : skippedBy s .nextDeadline = passed := by
      simp only [skippedBy, slotCount, done, Option.map_some, Option.getD_some]
    exact h.pass [] aligned rfl (List.Sublist.refl _) rfl rfl (skips ▸ passes)
      (List.Perm.refl _)
  | drain =>
    refine h.shrink aligned rfl (List.nil_sublist _) (List.nil_sublist _) rfl rfl
      (fun slot member => ⟨member, List.not_mem_nil⟩) ?_
    have none : (unskipped moves).filter (· ∉ s.slots.map (·.id)) = [] :=
      List.filter_eq_nil_iff.mpr fun id member => by
        simpa using h.divided.mem_iff.mpr (List.mem_append_right _ member)
    exact none ▸ List.Perm.refl _
  | contains | size | isEmpty => exact still rfl rfl rfl rfl

theorem run (moves : List (ScheduleMove α)) :
    Recorded moves (({} : Schedule α).run moves) := by
  induction moves using List.reverseRecOn with
  | nil => exact empty
  | append_singleton moves move ih =>
    rw [run_concat]
    exact ih.step move

end Recorded

theorem skipRemoved_head (live : List (TimerId × α)) (slots : List Slot) :
    ∀ slot ∈ (skipRemoved live slots).head?, (find? live slot.id).isSome = true := by
  induction slots with
  | nil => exact nofun
  | cons front rest ih =>
    intro slot first
    rw [skipRemoved] at first
    split at first
    · rename_i alive
      cases first
      exact alive
    · exact ih slot first

/-- In every run the slot of a live timer is the only one with its number, and stands where the timer
was scheduled; all numbers were given out before. The slots beyond those are as many as the removed
timers whose slot was not skipped; none of these is in front once the next deadline was asked for. Both
loops are done after at most one round for each slot. -/
theorem slots_match_timers (moves : List (ScheduleMove α)) :
    let s := ({} : Schedule α).run moves
    ((inserted moves).map (·.id)).Nodup ∧
    (∀ t ∈ s.live, ∃ slot ∈ inserted moves, slot.id = t.1 ∧ s.slots.filter (·.id = t.1) = [slot]) ∧
    (s.slots.map (·.id)).Nodup ∧
    (∀ slot ∈ s.slots, slot.id < s.next) ∧ (∀ t ∈ s.live, t.1 < s.next) ∧
    s.size ≤ s.slotCount ∧ s.slotCount - s.size = (unskipped moves).length ∧
    (∀ slot ∈ s.nextDeadline.2.slots.head?, s.contains slot.id = true ∧ slot.id ∉ removed moves) ∧
    (∀ now, (loop (dueRound now) s.slotCount s).map (·.2) = some (s.popDue now)) ∧
    (loop deadlineRound s.slotCount s).map (·.2) = some s.nextDeadline := by
  intro s
  have h : Recorded moves s := Recorded.run moves
  have count : s.slotCount = s.size + (unskipped moves).length := by
    have lengths := h.divided.length_eq
    rwa [List.length_append, List.length_map, List.length_map] at lengths
  refine ⟨h.numbered, fun t member => ?_, h.aligned.nodup, h.aligned.below, h.aligned.numbered.below,
    by omega, by omega, fun slot first => ?_, fun now => ?_, ?_⟩
  · obtain ⟨slot, there, same⟩ := List.mem_map.mp (h.aligned.covered t member)
    rw [← same]
    exact ⟨slot, h.placed slot there, rfl, Keyed.filter_eq_singleton h.aligned.nodup there⟩
  · have alive : s.contains slot.id = true := skipRemoved_head s.live s.slots slot first
    refine ⟨alive, fun again => (h.gone slot.id again).1 ?_⟩
    obtain ⟨payload, found⟩ := Option.isSome_iff_exists.mp alive
    exact List.mem_map_of_mem (f := (·.1)) (mem_of_find? found)
  · obtain ⟨passed, done, -⟩ := loop_dueRound now s (Nat.le_refl _)
    rw [slotCount, done]
    rfl
  · obtain ⟨passed, done, -⟩ := loop_deadlineRound s (Nat.le_refl _)
    rw [slotCount, done]
    rfl

theorem slots_match_timers_lazy :
    let moves : List (ScheduleMove Nat) :=
      [.insert 10 1, .insert 15 2, .insert 20 3, .remove 0, .remove 2, .nextDeadline]
    let s := ({} : Schedule Nat).run moves
    (1, 2) ∈ s.live ∧ (∃ slot ∈ inserted moves, slot.id = 1 ∧ s.slots.filter (·.id = 1) = [slot]) ∧
      s.slotCount = 2 ∧ unskipped moves = [2] ∧
      s.slotCount - s.size = (unskipped moves).length ∧
      s.nextDeadline.2.slots.head? = some ⟨15, 1⟩ ∧ 1 ∉ removed moves := by
  intro moves s
  obtain ⟨-, sole, -, -, -, -, count, front, -⟩ := slots_match_timers moves
  have first : s.nextDeadline.2.slots.head? = some ⟨15, 1⟩ := by decide
  exact ⟨by decide, sole (1, 2) (by decide), by decide, by decide, count, first,
    (front ⟨15, 1⟩ first).2⟩

end MessageRelay.Schedule
