import MessageRelay.Proofs.Call.Machine
import MessageRelay.Proofs.Timer.Balance

/-!
What the operations of a call table do to its timers: a registration schedules one, and the end of a
call cancels one at most. This holds whatever the table and the queue look like.
-/
namespace MessageRelay

namespace CallTable

variable {β : Type} {t : CallTable β}

theorem Takes.timers {id : CorrelationId} {count : CallStats → CallStats}
    {c : PendingCall → Channel} {stats : CallStats} {result : Bool × CallTable β}
    (takes : t.Takes id count c stats result) : t.timers.Rearranged none result.2.timers := by
  cases found : t.find? id with
  | none =>
    rw [takes.past found]
    exact .refl _
  | some call =>
    rw [takes.pending call found]
    exact .cancel call.timer _

theorem timers_drop (r : PendingReply) (t : CallTable β) :
    t.timers.Rearranged none (t.drop r).timers := by
  unfold CallTable.drop
  split
  · exact .refl _
  · exact (takes_cancel t r.id).timers

theorem timers_endAll (e : CallError) (calls : List PendingCall) (t : CallTable β) :
    t.timers.Rearranged none (endAll e calls t).timers := by
  induction calls generalizing t with
  | nil => exact .refl _
  | cons call calls ih =>
    have first : t.timers.Rearranged none (t.timers.cancel call.timer).2 := .cancel call.timer _
    rw [endAll_cons]
    refine first.trans ?_
    exact ih { t with
      timers := (t.timers.cancel call.timer).2
      channels := t.channels.setIfInBounds call.ticket (.settled ⟨.error e, false⟩) }

theorem timers_failAll (e : CallError) (t : CallTable β) :
    t.timers.Rearranged none (t.failAll e).2.timers := by
  rw [failAll_eq]
  exact timers_endAll e _ t.cleared

theorem timers_close (t : CallTable β) : t.timers.Rearranged none t.close.2.timers :=
  timers_failAll .cancelled { t with closed := true }

theorem timers_registering (now : Nanos) (id : CorrelationId) (timeout : Nanos) (info : CallInfo)
    (t : CallTable β) :
    t.timers.Rearranged (some (.expiry id)) (t.registering now id timeout info).timers :=
  .scheduleAfter now timeout _ t.timers

end CallTable

def CallMove.timer? {β : Type} : CallMove β → CallAnswer → Option (CallTimer β)
  | .register id _ _, .registered (.ok _) => some (.expiry id)
  | .schedule _ payload, _ => some (.other payload)
  | _, _ => none

namespace CallMachine

open CallTable

variable {β : Type}

theorem operate_rearranged (m : CallMachine β) (move : CallMove β) :
    m.table.timers.Rearranged (move.timer? (m.operate move).1) (m.operate move).2.table.timers := by
  cases move with
  | register id timeout info =>
    cases closed : m.table.closed with
    | true =>
      simp only [operate, register_of_closed _ _ _ _ closed]
      exact .refl _
    | false =>
      cases pending : m.table.isPending id with
      | true =>
        simp only [operate, register_of_pending _ _ _ _ closed pending]
        exact .refl _
      | false =>
        simp only [operate, register_of_free _ _ _ _ closed pending]
        exact timers_registering m.now id timeout info m.table
  | resolve id reply => exact (takes_resolve _ id reply).timers
  | fail id e => exact (takes_fail _ id e).timers
  | expire id => exact (takes_expire _ id).timers
  | cancel id => exact (takes_cancel _ id).timers
  | failAll e => exact timers_failAll e m.table
  | close => exact timers_close m.table
  | poll ticket =>
    simp only [operate]
    split
    · exact .refl _
    · split <;> exact .refl _
  | drop ticket =>
    simp only [operate]
    split
    · exact .refl _
    · exact timers_drop _ m.table
  | schedule delay payload => exact .scheduleAfter m.now delay _ m.table.timers
  | cancelTimer id => exact .cancel id _
  | clearTimers => exact .clear _
  | elapse | setHook | enter | advance | leave => exact .refl _

end CallMachine

end MessageRelay
