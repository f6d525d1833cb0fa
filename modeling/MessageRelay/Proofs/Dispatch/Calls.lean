import MessageRelay.Dispatch.Machine
import MessageRelay.Proofs.Call.Settlement
import MessageRelay.Proofs.Dispatch.Machine

/-!
The calls of a dispatcher. Seen from its table alone, each move of a dispatch machine is a few moves
of a call machine, none for most of them: so what holds of every run of a call table holds of the
table of every dispatcher.
-/
namespace MessageRelay

theorem CallTable.find?_cancel_self {β : Type} {t : CallTable β} (h : t.Coherent)
    (id : CorrelationId) : (t.cancel id).2.find? id = none := by
  cases found : t.find? id with
  | none => rw [cancel_of_not_pending found, found]
  | some call => rw [cancel_of_find? found, find?_ending h, if_pos rfl]

theorem CallTable.takes_receive {β : Type} (t : CallTable β) (id : CorrelationId)
    (message : Message) : ∃ count s, (count = countCompleted ∨ count = countFailed) ∧
      t.Takes id count (fun _ => .settled s) t.countStale.stats (t.receive id message) := by
  unfold CallTable.receive
  split
  · exact ⟨_, _, .inr rfl, takes_fail _ _ _⟩
  · exact ⟨_, _, .inr rfl, takes_fail _ _ _⟩
  · exact ⟨_, _, .inl rfl, takes_resolve _ _ _⟩

theorem CallTable.receive_flag {β : Type} (t : CallTable β) (id : CorrelationId)
    (message : Message) : (t.receive id message).1 = t.isPending id := by
  obtain ⟨count, s, -, takes⟩ := t.takes_receive id message
  exact takes.flag

def Dispatcher.made {η β : Type} (d : Dispatcher η β) : PeerName × Registry η × Nanos :=
  (d.name, d.registry, d.defaultTimeout)

/-- The calls are the same, and what the dispatcher was made with. -/
structure Dispatcher.Alike {η β : Type} (d d' : Dispatcher η β) : Prop where
  table : d'.table = d.table
  made : d'.made = d.made

theorem Dispatcher.Alike.trans {η β : Type} {d d' d'' : Dispatcher η β} (first : d.Alike d')
    (second : d'.Alike d'') : d.Alike d'' :=
  ⟨second.table.trans first.table, second.made.trans first.made⟩

namespace Site

variable {η β : Type} {s s' : Site η β}

theorem transmit_alike {recipient : PeerName} {m : Message} {result : Except CallError Unit}
    (sent : s.transmit recipient m = (result, s')) : s.dispatcher.Alike s'.dispatcher := by
  rw [transmit_eq] at sent
  cases sent
  exact ⟨rfl, rfl⟩

theorem answer_alike (recipient : PeerName) (id : CorrelationId) (m : Message) (s : Site η β) :
    s.dispatcher.Alike (s.answer recipient id m).2.dispatcher := by
  by_cases open' : ⟨id, recipient⟩ ∈ s.dispatcher.inFlight
  · simp only [answer, Dispatcher.release, Dispatcher.isInFlight_iff.mpr open', if_true]
    split <;> rename_i sent <;> have kept := transmit_alike sent
    · exact ⟨kept.table, kept.made⟩
    · exact ⟨kept.table, kept.made⟩
  · rw [answer_of_not_inFlight m open']
    exact ⟨rfl, rfl⟩

theorem noting_alike (now : Nanos) (v : Invocation) (o : Outcome) (s : Site η β) :
    s.dispatcher.Alike (s.noting now v o).dispatcher := by
  unfold noting
  dsimp only
  split <;> exact ⟨rfl, rfl⟩

theorem conclude_alike (now : Nanos) (v : Invocation) (o : Outcome) (s : Site η β) :
    s.dispatcher.Alike (s.conclude now v o).dispatcher := by
  have noted := noting_alike now v o s
  rw [conclude_eq]
  cases v.id? with
  | none => exact noted
  | some id =>
    dsimp only
    cases o.message? id with
    | none => exact ⟨noted.table, noted.made⟩
    | some m => exact noted.trans (answer_alike _ _ _ _)

theorem notify_alike (target : PeerName) (typeName : String) (payload : Json) (s : Site η β) :
    s.dispatcher.Alike (s.notify target typeName payload).2.dispatcher := by
  unfold notify
  split <;> rename_i sent <;> have kept := transmit_alike sent
  · exact kept
  · exact ⟨kept.table, kept.made⟩

theorem onRequest_alike (now : Nanos) (sender : PeerName) (m : Message) (s : Site η β) :
    s.dispatcher.Alike (s.onRequest now sender m).2.dispatcher := by
  unfold onRequest
  dsimp only
  split
  · split
    · exact ⟨rfl, rfl⟩
    · split <;> rename_i sent <;> have kept := transmit_alike sent
      · exact ⟨kept.table, kept.made⟩
      · exact ⟨kept.table, kept.made⟩
  · split
    · exact ⟨rfl, rfl⟩
    · split <;> exact ⟨rfl, rfl⟩

theorem made_sendRequest (now : Nanos) (id : CorrelationId) (target : PeerName)
    (typeName : String) (payload : Json) (timeout : Nanos) (s : Site η β) :
    (s.sendRequest now id target typeName payload timeout).2.dispatcher.made =
      s.dispatcher.made := by
  unfold sendRequest
  split
  · rfl
  · split <;> rename_i sent <;> exact (transmit_alike sent).made

theorem made_onReply (m : Message) (d : Dispatcher η β) : (d.onReply m).2.made = d.made := by
  cases named : m.id? with
  | none => simp only [Dispatcher.onReply, named]
  | some id =>
    rw [Dispatcher.onReply_of_id named]
    dsimp only
    split <;> rfl

theorem made_fireNext (now : Nanos) (d : Dispatcher η β) : (d.fireNext now).2.made = d.made := by
  unfold Dispatcher.fireNext
  split
  · rfl
  · dsimp only
    split <;> rfl
  · dsimp only
    split <;> rfl

theorem sendRequest_table (now : Nanos) (id : CorrelationId) (target : PeerName)
    (typeName : String) (payload : Json) (timeout : Nanos) (s : Site η β) :
    ((s.sendRequest now id target typeName payload timeout).1,
        (s.sendRequest now id target typeName payload timeout).2.dispatcher.table) =
      match s.dispatcher.table.register now id timeout ⟨some target, typeName⟩,
        s.network.refusal? target with
      | (.error e, table), _ => (.error e, table)
      | (.ok reply, table), none => (.ok reply, table)
      | (.ok _, table), some e => (.error (.transport e), (table.cancel id).2) := by
  unfold sendRequest
  rcases s.dispatcher.table.register now id timeout ⟨some target, typeName⟩
    with ⟨⟨e⟩ | reply, table⟩
  · rfl
  · simp only [transmit_eq, told]
    have same : (s.modify fun d => { d with table := table }).network = s.network := rfl
    rw [same]
    cases s.network.refusal? target <;> rfl

end Site

def DispatchFrame.asCallFrame {β : Type} : DispatchFrame β → CallFrame β
  | .pass now count => .pass now count
  | .callback payload => .callback payload

def Message.callMove? {β : Type} (message : Message) : Option (CallMove β) :=
  match message.kind, message.id?, message.remoteError? with
  | .request, _, _ => none
  | .reply, none, _ => none
  | .reply, some id, some (.ok e) => some (.fail id (.ofRemote id e))
  | .reply, some id, some (.error e) => some (.fail id (.malformedReply e.message))
  | .reply, some id, none => some (.resolve id ⟨message.typeName, message.payload⟩)

namespace DispatchMachine

open CallTable

variable {η β : Type} {m : DispatchMachine η β}

/-- The machine, seen from its calls. -/
def calls (m : DispatchMachine η β) : CallMachine β where
  now := m.now
  table := m.site.dispatcher.table
  replies := m.replies
  stack := m.stack.map DispatchFrame.asCallFrame

/-- The moves of calls that a move comes to. A request that the network refuses is registered, and
then cancelled and given up. -/
def callMoves (m : DispatchMachine η β) : DispatchMove β → List (CallMove β)
  | .elapse duration => [.elapse duration]
  | .inbound _ message => message.callMove?.toList
  | .request id target typeName _ timeout =>
    let info : CallInfo := ⟨some target, typeName⟩
    .register id timeout info ::
      match (m.site.dispatcher.table.register m.now id timeout info).1,
        m.site.network.refusal? target with
      | .ok reply, some _ => [.cancel id, .drop reply.ticket]
      | _, _ => []
  | .poll ticket => [.poll ticket]
  | .drop ticket => [.drop ticket]
  | .after delay payload => [.schedule delay payload]
  | .cancelTimer id => [.cancelTimer id]
  | .shutdown => [.close, .clearTimers]
  | .enter now => [.enter now]
  | .advance => [.advance]
  | .leave => [.leave]
  | .network _ | .reply .. | .conclude .. | .sendReply .. | .notify .. => []

theorem calls_inCode (code : m.InCode) : m.calls.InCode := by
  intro now count below pass
  cases stack : m.stack with
  | nil => simp [calls, stack] at pass
  | cons frame rest =>
    cases frame with
    | pass now count => exact code _ _ _ stack
    | callback payload => simp [calls, stack, DispatchFrame.asCallFrame] at pass

theorem run_refused {c : CallMachine β} {now : Nanos} {count : Nat} {below : List (CallFrame β)}
    (pass : c.stack = .pass now count :: below) {moves : List (CallMove β)}
    (others : ∀ move ∈ moves, move ≠ .advance) : c.run moves = c := by
  induction moves with
  | nil => rfl
  | cons move moves ih =>
    rw [CallMachine.run_cons, CallMachine.step_refused pass (others move List.mem_cons_self)]
    exact ih fun later member => others later (List.mem_cons_of_mem _ member)

theorem run_single {c : CallMachine β} (code : c.InCode) (move : CallMove β)
    (other : move ≠ .leave) : c.run [move] = (c.operate move).2 :=
  congrArg Prod.snd (CallMachine.step_inCode code other)

theorem onReply_calls (message : Message) (kind : message.kind = .reply) (code : m.InCode) :
    { m with site := (m.site.lift (·.onReply message)).2 }.calls =
      m.calls.run message.callMove?.toList := by
  have inCode := calls_inCode code
  cases named : message.id? with
  | none =>
    simp only [Message.callMove?, kind, named, Site.lift, Dispatcher.onReply]
    rfl
  | some id =>
    have table : (m.site.dispatcher.onReply message).2.table =
        (m.site.dispatcher.table.receive id message).2 := by
      rw [Dispatcher.onReply_of_id named]
      dsimp only
      split <;> rfl
    have same : { m with site := (m.site.lift (·.onReply message)).2 }.calls =
        { m.calls with table := (m.site.dispatcher.table.receive id message).2 } := by
      simp only [calls, Site.lift, table]
    rw [same]
    unfold CallTable.receive
    cases remote : message.remoteError? with
    | none =>
      simp only [Message.callMove?, kind, named, remote]
      exact (run_single inCode (.resolve id _) (by simp)).symm
    | some result =>
      cases result <;> simp only [Message.callMove?, kind, named, remote] <;>
        exact (run_single inCode (.fail id _) (by simp)).symm

theorem calls_of_table {n : DispatchMachine η β}
    (table : n.site.dispatcher.table = m.site.dispatcher.table) (now : n.now = m.now)
    (replies : n.replies = m.replies) (stack : n.stack = m.stack) : n.calls = m.calls := by
  simp only [calls, table, now, replies, stack]

theorem calls_start (outcome : InboundOutcome η) (m : DispatchMachine η β) :
    (m.start outcome).calls = m.calls := by
  cases outcome <;> rfl

theorem register_error_calls (code : m.InCode) {id : CorrelationId} {timeout : Nanos}
    {info : CallInfo} {e : CallError} {table : CallTable β}
    (refused : m.site.dispatcher.table.register m.now id timeout info = (.error e, table)) :
    m.calls.run [.register id timeout info] = { m.calls with table := table } := by
  have same : m.calls.table.register m.calls.now id timeout info = (.error e, table) := refused
  rw [run_single (calls_inCode code) _ (by simp)]
  simp only [CallMachine.operate, same]

theorem register_ok_calls (code : m.InCode) {id : CorrelationId} {timeout : Nanos}
    {info : CallInfo} {reply : PendingReply} {table : CallTable β}
    (registered : m.site.dispatcher.table.register m.now id timeout info = (.ok reply, table)) :
    (m.calls.step (.register id timeout info)) =
      (.registered (.ok reply),
        { m.calls with table := table, replies := m.replies ++ [reply] }) := by
  have same : m.calls.table.register m.calls.now id timeout info = (.ok reply, table) := registered
  rw [CallMachine.step_inCode (calls_inCode code) (by simp)]
  simp only [CallMachine.operate, same]
  rfl

/-- A call that is cancelled as soon as it is registered leaves nothing behind but a channel. -/
theorem refused_request_calls (h : m.calls.Coherent) (code : m.InCode) {id : CorrelationId}
    {timeout : Nanos} {info : CallInfo} {reply : PendingReply} {table : CallTable β}
    (registered : m.site.dispatcher.table.register m.now id timeout info = (.ok reply, table)) :
    m.calls.run [.register id timeout info, .cancel id, .drop reply.ticket] =
      { m.calls with table := (table.cancel id).2 } := by
  have inCode := calls_inCode code
  have first := register_ok_calls code registered
  obtain ⟨-, rfl, next⟩ := CallMachine.registered_ok (congrArg Prod.fst first)
  -- No other reply has the ticket of the new one.
  have others : m.replies.filter (·.ticket ≠ m.calls.table.channels.size) = m.replies :=
    List.filter_eq_self.mpr fun r held => decide_eq_true (Nat.ne_of_lt (h.ticket_lt held))
  have absent : m.replies.find? (·.ticket = m.calls.table.channels.size) = none :=
    List.find?_eq_none.mpr fun r held => by simpa using Nat.ne_of_lt (h.ticket_lt held)
  have coherent : table.Coherent := by
    have there := h.step (.register id timeout info)
    rw [first] at there
    exact there.table
  have past : (table.cancel id).2.cancel id = (false, (table.cancel id).2) :=
    cancel_of_not_pending (find?_cancel_self coherent id)
  let reply : PendingReply := ⟨id, m.calls.table.channels.size, false, false⟩
  let entered : CallMachine β := { m.calls with table := table, replies := m.replies ++ [reply] }
  let left : CallMachine β := { entered with table := (table.cancel id).2 }
  have entered_inCode : entered.InCode := inCode
  have left_inCode : left.InCode := inCode
  calc m.calls.run [.register id timeout info, .cancel id, .drop reply.ticket]
    _ = entered.run [.cancel id, .drop reply.ticket] := by rw [CallMachine.run_cons, first]
    _ = left.run [.drop reply.ticket] := by
      rw [CallMachine.run_cons, CallMachine.step_inCode entered_inCode (by simp)]
      rfl
    _ = (left.operate (.drop reply.ticket)).2 := run_single left_inCode _ (by simp)
    _ = { m.calls with table := (table.cancel id).2 } := by
      have found : left.replies.find? (·.ticket = reply.ticket) = some reply := by
        simp [left, entered, reply, absent]
      have rest : left.replies.filter (·.ticket ≠ reply.ticket) = m.replies := by
        simp only [left, entered, reply, List.filter_append, others]
        simp
      have given : left.table.drop reply = (table.cancel id).2 := by
        have kept := congrArg Prod.snd past
        exact kept
      simp only [CallMachine.operate, found, rest, given]
      rfl

theorem request_calls (h : m.calls.Coherent) (code : m.InCode) (id : CorrelationId)
    (target : PeerName) (typeName : String) (payload : Json) (timeout : Nanos) :
    (m.operate (.request id target typeName payload timeout)).2.calls =
      m.calls.run (m.callMoves (.request id target typeName payload timeout)) := by
  have sent := Site.sendRequest_table m.now id target typeName payload timeout m.site
  simp only [operate, callMoves]
  generalize m.site.sendRequest m.now id target typeName payload timeout = result at sent ⊢
  obtain ⟨answer, site⟩ := result
  rcases registered : m.site.dispatcher.table.register m.now id timeout ⟨some target, typeName⟩
    with ⟨⟨e⟩ | reply, table⟩
  · rw [registered] at sent
    obtain ⟨rfl, rfl⟩ := Prod.mk.inj sent
    exact (register_error_calls code registered).symm
  · rw [registered] at sent
    cases refusal : m.site.network.refusal? target with
    | none =>
      rw [refusal] at sent
      obtain ⟨rfl, rfl⟩ := Prod.mk.inj sent
      rw [CallMachine.run_cons, register_ok_calls code registered]
      rfl
    | some e =>
      rw [refusal] at sent
      obtain ⟨rfl, cancelled⟩ := Prod.mk.inj sent
      dsimp only
      rw [refused_request_calls h code registered, ← cancelled]
      rfl

theorem operate_calls (h : m.calls.Coherent) (code : m.InCode) {move : DispatchMove β}
    (other : move ≠ .leave) : (m.operate move).2.calls = m.calls.run (m.callMoves move) := by
  have inCode := calls_inCode code
  cases move with
  | network network => rfl
  | inbound sender message =>
    cases kind : message.kind with
    | reply =>
      simp only [operate, Site.onInbound, kind, Site.lift,
        start_of_not_dispatched (onReply_not_dispatched message m.site.dispatcher)]
      exact onReply_calls message kind code
    | request =>
      have none : message.callMove? (β := β) = none := by simp only [Message.callMove?, kind]
      have table := (Site.onRequest_alike m.now sender message m.site).table
      simp only [operate, Site.onInbound, kind, callMoves, none, calls_start]
      exact calls_of_table table rfl rfl rfl
  | reply number r =>
    simp only [operate]
    split
    · rfl
    · rename_i v runs
      simp only [withSite, Site.replyEarly]
      split
      · rfl
      · exact calls_of_table (Site.answer_alike _ _ _ _).table rfl rfl rfl
  | conclude number o =>
    simp only [operate]
    split
    · rfl
    · exact calls_of_table (Site.conclude_alike _ _ _ _).table rfl rfl rfl
  | sendReply recipient id r => exact calls_of_table (Site.answer_alike _ _ _ _).table rfl rfl rfl
  | request id target typeName payload timeout => exact request_calls h code _ _ _ _ _
  | notify target typeName payload => exact calls_of_table (Site.notify_alike _ _ _ _).table rfl rfl rfl
  | poll ticket =>
    refine .trans ?_ (run_single inCode (.poll ticket) (by simp)).symm
    have replies : m.calls.replies = m.replies := rfl
    simp only [operate, CallMachine.operate, replies]
    cases m.replies.find? (·.ticket = ticket) with
    | none => rfl
    | some r => cases settled : r.settled <;> simp only [settled] <;> rfl
  | drop ticket =>
    refine .trans ?_ (run_single inCode (.drop ticket) (by simp)).symm
    have replies : m.calls.replies = m.replies := rfl
    simp only [operate, CallMachine.operate, replies]
    cases m.replies.find? (·.ticket = ticket) <;> rfl
  | shutdown =>
    have closed : (m.calls.operate .close).2.InCode := inCode
    simp only [callMoves]
    rw [CallMachine.run_cons, CallMachine.step_inCode inCode (by simp),
      run_single closed .clearTimers (by simp)]
    rfl
  | elapse duration => exact (run_single inCode (.elapse duration) (by simp)).symm
  | after delay payload => exact (run_single inCode (.schedule delay payload) (by simp)).symm
  | cancelTimer id => exact (run_single inCode (.cancelTimer id) (by simp)).symm
  | enter now => exact (run_single inCode (.enter now) (by simp)).symm
  | advance => exact (run_single inCode .advance (by simp)).symm
  | leave => exact absurd rfl other

theorem counted_calls (stack : List (DispatchFrame β)) :
    (countFired stack).map DispatchFrame.asCallFrame =
      CallMachine.countFired (stack.map DispatchFrame.asCallFrame) := by
  rcases stack with _ | ⟨_ | _, below⟩ <;> rfl

theorem advance_calls (now : Nanos) (count : Nat) (below : List (DispatchFrame β))
    (m : DispatchMachine η β) :
    (m.advance now count below).2.calls =
      (m.calls.advance now count (below.map DispatchFrame.asCallFrame)).2 := by
  have table : m.calls.table = m.site.dispatcher.table := rfl
  have counted := counted_calls m.stack
  simp only [advance, CallMachine.advance, Site.lift, Dispatcher.fireNext, table]
  rcases m.site.dispatcher.table.timers.popDue now with ⟨_ | ⟨j, id | payload⟩, timers⟩
  · rfl
  · -- No hook is set, so the pass goes on at once.
    have unhooked : m.calls.hooked = false := rfl
    simp only [CallMachine.expire, unhooked, Bool.and_false, Bool.false_eq_true, if_false]
    simp only [calls, counted]
    split <;> rfl
  · dsimp only
    split <;> rfl

theorem leave_calls (code : m.InCode) : (m.step .leave).2.calls = m.calls.run [.leave] := by
  rw [CallMachine.run_cons]
  rcases stack : m.stack with _ | ⟨⟨now, count⟩ | payload, below⟩
  · have outer : m.calls.stack = [] := by simp only [calls, stack, List.map_nil]
    simp only [step, stack, operate, CallMachine.step, outer, CallMachine.operate]
    rfl
  · exact absurd stack (code _ _ _)
  · have outer : m.calls.stack = .callback payload :: below.map DispatchFrame.asCallFrame := by
      simp only [calls, stack, List.map_cons, DispatchFrame.asCallFrame]
    simp only [step, stack, CallMachine.step, outer, CallMachine.leave]
    simp only [calls, counted_calls]
    rfl

theorem advance_not_mem_callMoves {move : DispatchMove β} (other : move ≠ .advance) :
    ∀ inner ∈ m.callMoves move, inner ≠ .advance := by
  rintro _ member rfl
  cases move with
  | advance => exact other rfl
  | inbound sender message =>
    simp only [callMoves, Message.callMove?, Option.mem_toList] at member
    split at member <;> cases member
  | request id target typeName payload timeout =>
    rcases List.mem_cons.mp member with first | after
    · cases first
    · split at after <;> simp at after
  | _ => simp [callMoves] at member

theorem step_refused {now : Nanos} {count : Nat} {below : List (DispatchFrame β)}
    (pass : m.stack = .pass now count :: below) {move : DispatchMove β} (other : move ≠ .advance) :
    m.step move = (.refused, m) := by
  cases move <;> simp only [step, pass]
  exact absurd rfl other

theorem step_of_not_inCode (passing : ¬ m.InCode) {move : DispatchMove β}
    (other : move ≠ .advance) : m.step move = (.refused, m) := by
  simp only [InCode, not_forall, not_not] at passing
  obtain ⟨now, count, below, pass⟩ := passing
  exact step_refused pass other

/-- Every move of the machine is a few moves of its calls. -/
theorem step_calls (h : m.calls.Coherent) (move : DispatchMove β) :
    (m.step move).2.calls = m.calls.run (m.callMoves move) := by
  by_cases passing : ∃ now count below, m.stack = .pass now count :: below
  · obtain ⟨now, count, below, pass⟩ := passing
    have inner : m.calls.stack = .pass now count :: below.map DispatchFrame.asCallFrame := by
      simp only [calls, pass, List.map_cons, DispatchFrame.asCallFrame]
    by_cases advances : move = .advance
    · subst advances
      have outer : m.step .advance = m.advance now count below := by simp only [step, pass]
      rw [outer, advance_calls]
      exact (congrArg Prod.snd (CallMachine.step_advance inner)).symm
    · rw [step_refused pass advances, run_refused inner (advance_not_mem_callMoves advances)]
  · have code : m.InCode := fun now count below pass => passing ⟨now, count, below, pass⟩
    by_cases leaves : move = .leave
    · exact leaves ▸ leave_calls code
    · rw [step_inCode code leaves]
      exact operate_calls h code leaves

end DispatchMachine

end MessageRelay
