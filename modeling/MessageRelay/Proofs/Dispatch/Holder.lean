import MessageRelay.Dispatch.Holder
import MessageRelay.Proofs.Call.Closing
import MessageRelay.Proofs.Dispatch.Calls
import MessageRelay.Proofs.Dispatch.Closing

/-!
All that is done to a dispatcher and to its table, and what it always leaves: each act comes to moves
of a call machine, whatever is on the stack, and no act changes what the dispatcher was made with.
-/
namespace MessageRelay

namespace CallMachine

variable {β : Type} {c c' : CallMachine β}

/-- The same calls and replies; what is under way may differ. -/
structure Alike (c c' : CallMachine β) : Prop where
  table : c'.table = c.table
  replies : c'.replies = c.replies

theorem Alike.coherent (same : c.Alike c') (h : c.Coherent) : c'.Coherent where
  table := same.table ▸ h.table
  nodup := same.replies ▸ h.nodup
  ticket_lt held := by rw [same.table]; exact h.ticket_lt (same.replies ▸ held)
  sameId held found := by rw [same.table] at found; exact h.sameId (same.replies ▸ held) found
  unexpired held := h.unexpired (same.replies ▸ held)

end CallMachine

namespace DispatchMachine

open CallTable CallMachine

variable {η β : Type} {m : DispatchMachine η β}

def made (m : DispatchMachine η β) : PeerName × Registry η × Nanos := m.site.dispatcher.made

theorem made_start (outcome : InboundOutcome η) (m : DispatchMachine η β) :
    (m.start outcome).made = m.made := by
  cases outcome <;> rfl

theorem made_operate (m : DispatchMachine η β) (move : DispatchMove β) :
    (m.operate move).2.made = m.made := by
  cases move with
  | inbound sender message =>
    simp only [operate, made_start]
    unfold Site.onInbound
    split
    · exact Site.made_onReply message m.site.dispatcher
    · exact (Site.onRequest_alike m.now sender message m.site).made
  | reply number r =>
    simp only [operate]
    split
    · rfl
    · simp only [withSite, Site.replyEarly]
      split
      · rfl
      · exact (Site.answer_alike _ _ _ _).made
  | conclude number o =>
    simp only [operate]
    split
    · rfl
    · exact (Site.conclude_alike _ _ _ _).made
  | sendReply recipient id r => exact (Site.answer_alike _ _ _ _).made
  | request id target typeName payload timeout =>
    have same := Site.made_sendRequest m.now id target typeName payload timeout m.site
    simp only [operate]
    split <;> rename_i sent <;> rw [sent] at same <;> exact same
  | notify target typeName payload => exact (Site.notify_alike _ _ _ _).made
  | poll ticket =>
    simp only [operate]
    split
    · rfl
    · split <;> rfl
  | drop ticket =>
    simp only [operate]
    split <;> rfl
  | elapse | network | after | cancelTimer | shutdown | enter | advance | leave => rfl

theorem made_step (m : DispatchMachine η β) (move : DispatchMove β) :
    (m.step move).2.made = m.made := by
  unfold step
  split
  · rename_i now count below _
    have same := Site.made_fireNext now m.site.dispatcher
    simp only [advance, Site.lift]
    split <;> rename_i fired <;>
      exact (congrArg (·.2.dispatcher.made) fired).symm.trans same
  · rfl
  · rfl
  · exact made_operate m _

theorem made_onTable (operation : CallMove β) (m : DispatchMachine η β) :
    (m.onTable operation).2.made = m.made := by
  simp only [onTable]
  split <;> rfl

theorem made_act (m : DispatchMachine η β) (a : HolderAct β) : (m.act a).made = m.made := by
  cases a with
  | move move => exact made_step m move
  | hook move => exact made_operate m move
  | table operation => exact made_onTable operation m
  | look | heed => rfl

theorem made_acts (m : DispatchMachine η β) (as : List (HolderAct β)) :
    (m.acts as).made = m.made := by
  induction as generalizing m with
  | nil => rfl
  | cons a as ih => exact (ih (m.act a)).trans (made_act m a)

def idle (m : DispatchMachine η β) : DispatchMachine η β := { m with stack := [] }

theorem bare_calls (m : DispatchMachine η β) : m.calls.Alike m.bare := ⟨rfl, rfl⟩

theorem operate_idle (m : DispatchMachine η β) (move : DispatchMove β) :
    (m.idle.operate move).2.calls.Alike (m.operate move).2.bare := by
  cases move with
  | inbound sender message =>
    have start (outcome : InboundOutcome η) (m : DispatchMachine η β) :
        (m.start outcome).bare = m.bare := by cases outcome <;> rfl
    simp only [operate, calls_start, start]
    exact ⟨rfl, rfl⟩
  | reply number r =>
    have runs : m.idle.running? number = m.running? number := rfl
    simp only [operate, runs]
    split <;> exact ⟨rfl, rfl⟩
  | conclude number o =>
    have runs : m.idle.running? number = m.running? number := rfl
    simp only [operate, runs]
    split <;> exact ⟨rfl, rfl⟩
  | request id target typeName payload timeout =>
    have site : m.idle.site = m.site := rfl
    have now : m.idle.now = m.now := rfl
    simp only [operate, site, now]
    split <;> exact ⟨rfl, rfl⟩
  | poll ticket =>
    have replies : m.idle.replies = m.replies := rfl
    simp only [operate, replies]
    split
    · exact ⟨rfl, rfl⟩
    · split <;> exact ⟨rfl, rfl⟩
  | drop ticket =>
    have replies : m.idle.replies = m.replies := rfl
    simp only [operate, replies]
    split <;> exact ⟨rfl, rfl⟩
  | elapse | network | sendReply | notify | after | cancelTimer | shutdown | enter | advance
  | leave => exact ⟨rfl, rfl⟩

theorem onTable_bare (operation : CallMove β) (m : DispatchMachine η β) :
    (m.bare.run [operation]).Alike (m.onTable operation).2.bare := by
  have code : m.bare.step operation = m.bare.operate operation := by cases operation <;> rfl
  rw [CallMachine.run_cons, code]
  simp only [onTable]
  split <;> exact ⟨rfl, rfl⟩

/-- Every act is a look at the timers or comes to moves of calls. -/
theorem act_bare (h : m.bare.Coherent) (a : HolderAct β) :
    ∃ c c' : CallMachine β, m.bare.Alike c ∧ Moved true c c' ∧ c'.Alike (m.act a).bare := by
  cases a with
  | move move =>
    have coherent : m.calls.Coherent := CallMachine.Alike.coherent (c := m.bare) ⟨rfl, rfl⟩ h
    refine ⟨m.calls, (m.step move).2.calls, ⟨rfl, rfl⟩, ?_, bare_calls _⟩
    rw [step_calls coherent move]
    exact .of_run _ _ nofun
  | hook move =>
    have coherent : m.idle.calls.Coherent :=
      CallMachine.Alike.coherent (c := m.bare) ⟨rfl, rfl⟩ h
    have code : m.idle.InCode := inCode_of_nil rfl
    by_cases leaves : move = .leave
    · subst leaves
      exact ⟨m.calls, m.calls, ⟨rfl, rfl⟩, .refl _, ⟨rfl, rfl⟩⟩
    · refine ⟨m.idle.calls, (m.idle.operate move).2.calls, ⟨rfl, rfl⟩, ?_, operate_idle m move⟩
      rw [operate_calls coherent code leaves]
      exact .of_run _ _ nofun
  | table operation => exact ⟨m.bare, _, ⟨rfl, rfl⟩, .of_run _ _ nofun, onTable_bare operation m⟩
  | look =>
    let looked := m.site.dispatcher.table.timers.nextDeadline.2
    exact ⟨m.bare, (m.act .look).bare, ⟨rfl, rfl⟩, ⟨looked, [], rfl, rfl, rfl, nofun⟩, ⟨rfl, rfl⟩⟩
  | heed =>
    let told := { m.site.dispatcher.table.timers with rearm := false }
    exact ⟨m.bare, (m.act .heed).bare, ⟨rfl, rfl⟩, ⟨told, [], rfl, rfl, rfl, nofun⟩, ⟨rfl, rfl⟩⟩

theorem act_coherent (h : m.bare.Coherent) (a : HolderAct β) : (m.act a).bare.Coherent := by
  obtain ⟨c, c', before, moved, after⟩ := act_bare h a
  exact after.coherent (moved.coherent (before.coherent h))

theorem acts_append (m : DispatchMachine η β) (first second : List (HolderAct β)) :
    m.acts (first ++ second) = (m.acts first).acts second := List.foldl_append

theorem acts_coherent (h : m.bare.Coherent) (as : List (HolderAct β)) :
    (m.acts as).bare.Coherent := by
  induction as generalizing m with
  | nil => exact h
  | cons a as ih => exact ih (act_coherent h a)

theorem bare_fresh (name : PeerName) (registry : Registry η) (defaultTimeout : Nanos)
    (network : Network) :
    (fresh name registry defaultTimeout network : DispatchMachine η β).bare.Coherent :=
  CallMachine.Coherent.empty

end DispatchMachine

end MessageRelay
