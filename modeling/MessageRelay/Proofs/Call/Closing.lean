import MessageRelay.Proofs.Call.Counters
import MessageRelay.Proofs.Call.Deadlines
import MessageRelay.Proofs.Call.Settlement

/-!
The end of a call table. Closing it ends each pending call as cancelled, and no call is registered
afterwards: so none is ever pending again, and a queue of timers that is cleared then stays empty, as
long as nobody else adds to it.
-/
namespace MessageRelay

namespace CallTable

variable {β : Type} {t : CallTable β}

theorem closed_drop (r : PendingReply) (t : CallTable β) : (t.drop r).closed = t.closed := by
  unfold drop
  split
  · rfl
  · exact (takes_cancel t r.id).closed

theorem closed_endAll (e : CallError) (calls : List PendingCall) (t : CallTable β) :
    (endAll e calls t).closed = t.closed := by
  induction calls generalizing t with
  | nil => rfl
  | cons call calls ih => exact ih _

theorem closed_failAll (e : CallError) (t : CallTable β) : (t.failAll e).2.closed = t.closed := by
  rw [failAll_eq]
  exact closed_endAll e _ t.cleared

theorem Undisturbed.of_look {timers : TimerQueue (CallTimer β)}
    (live : timers.schedule.live = t.timers.schedule.live) (next : timers.next = t.timers.next) :
    t.Undisturbed { t with timers := timers } := by
  refine ⟨rfl, rfl, Nat.le_of_eq next.symm, fun numbered => ?_, fun _ n id alive => ?_⟩
  · exact numbered.sublist (live ▸ List.Sublist.refl _) next
  · rw [← alive, TimerQueue.live?, TimerQueue.live?, live]

theorem Coherent.channel_close (h : Coherent t) {id : CorrelationId} {call : PendingCall}
    (found : t.find? id = some call) :
    t.close.2.channels[call.ticket]? = some (.settled ⟨.error .cancelled, false⟩) := by
  have listed : call.ticket ∈ (t.calls.map (·.2)).map (·.ticket) :=
    List.mem_map_of_mem (mem_calls found)
  have settled := channels_failAll (t := { t with closed := true }) .cancelled (h.ticket_lt found)
  exact settled.trans (if_pos listed)

theorem poll_of_settled {r : PendingReply} {s : Settlement}
    (channel : t.channels[r.ticket]? = some (.settled s)) : (t.poll r).1 = some s.result := by
  rw [poll, channel]

/-- No call is pending, and none will be. -/
structure Spent (t : CallTable β) : Prop where
  closed : t.closed = true
  none : ∀ id, t.find? id = none

namespace Spent

theorem of_close (t : CallTable β) : Spent t.close.2 where
  closed := closed_failAll .cancelled _
  none := find?_failAll .cancelled

theorem pendingCount_eq (spent : Spent t) : t.pendingCount = 0 := by
  refine List.length_eq_zero_iff.mpr (List.eq_nil_iff_forall_not_mem.mpr fun entry member => ?_)
  have pending := isPending_of_mem member
  rw [isPending_eq_false_iff.mpr (spent.none _)] at pending
  cases pending

theorem size_eq (spent : Spent t) (h : Coherent t) (sole : Sole t) : t.timers.size = 0 := by
  have timed : Timed t := fun found => by
    rw [spent.none] at found
    cases found
  rw [(h.paired timed).size_eq h sole, spent.pendingCount_eq]

end Spent

end CallTable

namespace CallMachine

open CallTable

variable {β : Type} {m : CallMachine β}

theorem operate_closed (closed : m.table.closed = true) (move : CallMove β) :
    (m.operate move).2.table.closed = true := by
  cases move with
  | register id timeout info =>
    simp only [operate, register_of_closed _ _ _ _ closed]
    exact closed
  | resolve id reply => exact (takes_resolve _ id reply).closed.trans closed
  | fail id e => exact (takes_fail _ id e).closed.trans closed
  | expire id => exact (takes_expire _ id).closed.trans closed
  | cancel id => exact (takes_cancel _ id).closed.trans closed
  | failAll e => exact (closed_failAll e _).trans closed
  | close => exact closed_failAll .cancelled _
  | poll ticket =>
    simp only [operate]
    split
    · exact closed
    · split <;> exact closed
  | drop ticket =>
    simp only [operate]
    split
    · exact closed
    · exact (closed_drop _ _).trans closed
  | elapse | setHook | schedule | cancelTimer | clearTimers | enter | advance | leave =>
    exact closed

theorem advance_closed (closed : m.table.closed = true) (now : Nanos) (count : Nat)
    (below : List (CallFrame β)) : (m.advance now count below).2.table.closed = true := by
  unfold advance
  split
  · exact closed
  · exact closed
  · rename_i j id timers due
    have ended := (takes_expire { m.table with timers := timers } id).closed.trans closed
    simp only [expire]
    split <;> exact ended

theorem step_closed (closed : m.table.closed = true) (move : CallMove β) :
    (m.step move).2.table.closed = true := by
  unfold step
  split
  · exact advance_closed closed _ _ _
  · exact closed
  · exact closed
  · exact closed
  · exact operate_closed closed _

theorem step_register_of_closed (closed : m.table.closed = true) (id : CorrelationId)
    (timeout : Nanos) (info : CallInfo) :
    (m.step (.register id timeout info)).2.table = m.table := by
  rcases m.inCode_or_pass with code | ⟨now, count, below, pass⟩
  · rw [step_inCode code (by simp)]
    simp only [operate, register_of_closed _ _ _ _ closed]
  · rw [step_refused pass (by simp)]

theorem Spent.step (spent : Spent m.table) (h : m.Coherent) (move : CallMove β) :
    Spent (m.step move).2.table where
  closed := step_closed spent.closed move
  none id := by
    cases found : (m.step move).2.table.find? id with
    | none => rfl
    | some call =>
      rcases (step_change h.table move).entry_cases h.table found with
        old | ⟨⟨timeout, info, rfl⟩, -⟩
      · rw [spent.none] at old
        cases old
      · rw [step_register_of_closed spent.closed, spent.none] at found
        cases found

theorem Spent.run (spent : Spent m.table) (h : m.Coherent) (moves : List (CallMove β)) :
    Spent (m.run moves).table := by
  induction moves generalizing m with
  | nil => exact spent
  | cons move moves ih => exact ih (Spent.step spent h move) (h.step move)

theorem Spent.sparesAll (spent : Spent m.table) (h : m.Coherent) (moves : List (CallMove β)) :
    m.SparesAll moves := by
  induction moves generalizing m with
  | nil => trivial
  | cons move moves ih =>
    refine ⟨?_, ih (Spent.step spent h move) (h.step move)⟩
    cases move with
    | cancelTimer j =>
      intro id alive
      obtain ⟨call, found, -⟩ := h.table.expiry alive
      rw [spent.none] at found
      cases found
    | clearTimers => exact spent.pendingCount_eq
    | _ => trivial

theorem Coherent.keeps_channel (h : m.Coherent) {k : Ticket} {c : Channel} {s : Settlement}
    (channel : m.table.channels[k]? = some c) (outcome : c.outcome? = some s)
    (moves : List (CallMove β)) : (m.run moves).table.channels[k]? = some c := by
  induction moves generalizing m with
  | nil => exact channel
  | cons move moves ih =>
    exact ih (h.step move) ((step_change h.table move).keeps_channel h channel outcome)

/-- There was a look at the timers, and then there were moves. Unless `added`, none of them put in a
timer that is not that of a call. -/
def Moved (added : Bool) (m n : CallMachine β) : Prop :=
  ∃ timers moves, timers.schedule.live = m.table.timers.schedule.live ∧
    timers.next = m.table.timers.next ∧ n = { m with table.timers := timers }.run moves ∧
    (added = false → ∀ move ∈ moves, move.addsOther = false)

namespace Moved

variable {n : CallMachine β} {added : Bool}

theorem of_run (moves : List (CallMove β)) (m : CallMachine β)
    (own : added = false → ∀ move ∈ moves, move.addsOther = false) : Moved added m (m.run moves) :=
  ⟨m.table.timers, moves, rfl, rfl, rfl, own⟩

theorem refl (m : CallMachine β) : Moved added m m := of_run [] m fun _ => nofun

theorem mono {added' : Bool} (moved : Moved added m n) (le : added = true → added' = true) :
    Moved added' m n := by
  obtain ⟨timers, moves, live, next, same, own⟩ := moved
  refine ⟨timers, moves, live, next, same, fun none => own ?_⟩
  rw [← Bool.not_eq_true]
  exact fun adds => by simp [none] at le; simp [adds] at le

theorem coherent_look (h : m.Coherent) {timers : TimerQueue (CallTimer β)}
    (live : timers.schedule.live = m.table.timers.schedule.live)
    (next : timers.next = m.table.timers.next) :
    ({ m with table.timers := timers } : CallMachine β).Coherent := by
  have quiet : Change m .leave { m with table.timers := timers } := .quiet (.of_look live next) rfl
  exact h.change quiet

theorem coherent (h : m.Coherent) (moved : Moved added m n) : n.Coherent := by
  obtain ⟨timers, moves, live, next, rfl, -⟩ := moved
  exact (coherent_look h live next).run moves

theorem balanced (h : m.Coherent) (balanced : m.Balanced) (moved : Moved added m n) :
    n.Balanced := by
  obtain ⟨timers, moves, live, next, rfl, -⟩ := moved
  exact Balanced.run (coherent_look h live next) balanced moves

theorem spent (h : m.Coherent) (spent : Spent m.table) (moved : Moved added m n) :
    Spent n.table := by
  obtain ⟨timers, moves, live, next, rfl, -⟩ := moved
  have looked : Spent { m.table with timers := timers } := ⟨spent.closed, spent.none⟩
  exact Spent.run (m := { m with table.timers := timers }) looked (coherent_look h live next) moves

theorem keeps_channel (h : m.Coherent) {k : Ticket} {c : Channel} {s : Settlement}
    (channel : m.table.channels[k]? = some c) (outcome : c.outcome? = some s)
    (moved : Moved added m n) : n.table.channels[k]? = some c := by
  obtain ⟨timers, moves, live, next, rfl, -⟩ := moved
  exact (coherent_look h live next).keeps_channel channel outcome moves

theorem sole (h : m.Coherent) (spent : Spent m.table) (sole : Sole m.table)
    (moved : Moved false m n) : Sole n.table := by
  obtain ⟨timers, moves, live, next, rfl, own⟩ := moved
  have coherent := coherent_look h live next
  have looked : Spent { m.table with timers := timers } := ⟨spent.closed, spent.none⟩
  have spared := Spent.sparesAll (m := { m with table.timers := timers }) looked coherent moves
  refine run_sole coherent (fun k payload alive => sole k payload ?_) spared (own rfl)
  rw [← alive, TimerQueue.live?, TimerQueue.live?, live]

end Moved

end CallMachine

end MessageRelay
