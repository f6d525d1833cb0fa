import MessageRelay.Proofs.Dispatch.Holder

/-!
Closing is final. A closed table stays closed and empty, whatever is done to it and to its dispatcher
later: registrations and requests are refused as cancelled and change nothing, and replies are stale.
-/
namespace MessageRelay

open CallTable

namespace CallMachine

variable {β : Type} {m : CallMachine β}

theorem operate_register_of_closed (closed : m.table.closed = true) (id : CorrelationId)
    (timeout : Nanos) (info : CallInfo) :
    m.operate (.register id timeout info) = (.registered (.error .cancelled), m) := by
  simp only [operate, register_of_closed _ _ _ _ closed]

theorem Coherent.operate_close (h : m.Coherent) : (m.operate .close).2.Coherent := by
  -- What is under way makes no difference, so that code may be taken to run.
  have idle : ({ m with stack := [] } : CallMachine β).Coherent :=
    Alike.coherent (c := m) ⟨rfl, rfl⟩ h
  have ended := idle.step .close
  exact Alike.coherent (c := (({ m with stack := [] } : CallMachine β).step .close).2) ⟨rfl, rfl⟩ ended

end CallMachine

namespace DispatchMachine

variable {η β : Type} {m n : DispatchMachine η β}

theorem act_spent (h : m.bare.Coherent) (spent : Spent m.bare.table) (a : HolderAct β) :
    Spent (m.act a).bare.table := by
  obtain ⟨c, c', before, moved, after⟩ := act_bare h a
  rw [after.table]
  exact moved.spent (before.coherent h) (before.table ▸ spent)

theorem acts_spent (h : m.bare.Coherent) (spent : Spent m.bare.table) (as : List (HolderAct β)) :
    Spent (m.acts as).bare.table := by
  induction as generalizing m with
  | nil => exact spent
  | cons a as ih => exact ih (act_coherent h a) (act_spent h spent a)

/-- The ways to close a table. -/
inductive Closing where
  | shutdown
  | direct

def Closing.act (β : Type) : Closing → HolderAct β
  | .shutdown => .hook .shutdown
  | .direct => .table .close

theorem spent_closing (closing : Closing) (m : DispatchMachine η β) :
    Spent (m.act (closing.act β)).bare.table := by
  have closed := Spent.of_close m.site.dispatcher.table
  cases closing with
  | shutdown => exact ⟨closed.closed, closed.none⟩
  | direct => exact closed

/-- Nothing is pending, and nothing can be asked any more. -/
structure Final (n : DispatchMachine η β) : Prop where
  none : ∀ id, n.site.dispatcher.table.find? id = none
  register : ∀ id timeout info,
    n.onTable (.register id timeout info) = (.registered (.error .cancelled), n)
  request : ∀ id target typeName payload timeout,
    n.operate (.request id target typeName payload timeout) = (.requested (.error .cancelled), n)
  call : ∀ id target typeName payload timeout?,
    n.issue id (Program.call target typeName payload timeout?) = (.finish (.error .cancelled), n)
  callOrNone : ∀ id target typeName payload timeout,
    n.issue id (Program.callOrNone target typeName payload timeout) =
      (.finish (.error .cancelled), n)
  stale : ∀ sender id typeName payload,
    (n.operate (.inbound sender (.reply id typeName payload))).1 = .routed (.stale id)

theorem request_of_closed (closed : n.site.dispatcher.table.closed = true) (id : CorrelationId)
    (target : PeerName) (typeName : String) (payload : Json) (timeout : Nanos) :
    n.operate (.request id target typeName payload timeout) =
      (.requested (.error .cancelled), n) := by
  simp only [operate, Site.sendRequest, register_of_closed _ _ _ _ closed]
  rfl

theorem issue_of_closed {α : Type} (closed : n.site.dispatcher.table.closed = true)
    (id : CorrelationId) (target : PeerName) (typeName : String) (payload : Json)
    (timeout? : Option Nanos) (next : Except CallError PendingReply → Program α) :
    n.issue id (.perform (.request target typeName payload timeout?) next) =
      (next (.error .cancelled), n) := by
  simp only [issue, request_of_closed closed]

theorem stale_of_not_pending {id : CorrelationId}
    (past : n.site.dispatcher.table.find? id = none) (sender : PeerName) (typeName : String)
    (payload : Json) :
    (n.operate (.inbound sender (.reply id typeName payload))).1 = .routed (.stale id) := by
  have named : (Message.reply id typeName payload).id? = some id := rfl
  have unmatched := receive_flag n.site.dispatcher.table id (.reply id typeName payload)
  rw [isPending_eq_false_iff.mpr past] at unmatched
  have kind : (Message.reply id typeName payload).kind = .reply := rfl
  simp only [operate, Site.onInbound, kind, Site.lift, Dispatcher.onReply_of_id named, unmatched,
    Bool.false_eq_true, if_false]

theorem Final.of_spent (spent : Spent n.site.dispatcher.table) : n.Final where
  none := spent.none
  register id timeout info := by
    have same := CallMachine.operate_register_of_closed (m := n.bare) spent.closed id timeout info
    simp only [onTable, same]
    rfl
  request := request_of_closed spent.closed
  call id target typeName payload timeout? := issue_of_closed spent.closed id _ _ _ _ _
  callOrNone id target typeName payload timeout := issue_of_closed spent.closed id _ _ _ _ _
  stale sender id := stale_of_not_pending (spent.none id) sender

/-- Once a table has been closed, alone or with its dispatcher, nothing is ever pending in it again,
and nothing can be registered or asked, whatever else is done before and after. -/
theorem closing_final :
    (∀ before later : List (CallMove β),
      let closed := ((({} : CallMachine β).run before).operate .close).2
      let n := closed.run later
      (∀ id, n.table.find? id = none) ∧
        ∀ id timeout info,
          n.operate (.register id timeout info) = (.registered (.error .cancelled), n)) ∧
    ∀ (name : PeerName) (registry : Registry η) (defaultTimeout : Nanos) (network : Network)
      (before later : List (HolderAct β)) (closing : Closing),
      let m : DispatchMachine η β := (fresh name registry defaultTimeout network).acts before
      ((m.act (closing.act β)).acts later).Final := by
  constructor
  · intro before later closed n
    have coherent : (({} : CallMachine β).run before).Coherent := CallMachine.Coherent.empty.run before
    have spent : Spent n.table :=
      CallMachine.Spent.run (Spent.of_close _) coherent.operate_close later
    exact ⟨spent.none, CallMachine.operate_register_of_closed spent.closed⟩
  · intro name registry defaultTimeout network before later closing m
    have h : m.bare.Coherent := acts_coherent (bare_fresh name registry defaultTimeout network) before
    exact .of_spent (acts_spent (act_coherent h _) (spent_closing closing m) later)

end DispatchMachine

end MessageRelay
