import MessageRelay.Proofs.Dispatch.Conclusions
import MessageRelay.Proofs.Dispatch.Exchange

/-!
One call between two dispatchers of many, seen from both its ends. Where the call is made, it is
awaited until the answer is taken, unless its deadline passes, it is given up or all calls are
cancelled. Where its request is handled, it stays in flight while the handler runs, if nobody replies
early, and so is answered with what the handler ends with.
-/
namespace MessageRelay

namespace CallMachine

variable {β : Type} {m : CallMachine β} {reply : PendingReply} {call : PendingCall}

theorem Awaited.run_cases (h : m.Coherent) (a : m.Awaited reply call) {moves : List (CallMove β)}
    (others : ∀ timeout info, .register reply.id timeout info ∉ moves) :
    (m.run moves).Awaited reply call ∨ (m.run moves).table.find? reply.id = none := by
  induction moves generalizing m with
  | nil => exact .inl a
  | cons move moves ih =>
    have later : ∀ timeout info, .register reply.id timeout info ∉ moves :=
      fun timeout info member => others timeout info (List.mem_cons_of_mem move member)
    rcases a.change h (step_change h.table move) with kept | ⟨gone, -⟩
    · exact ih (h.step move) kept later
    · refine .inr (Option.eq_none_iff_forall_ne_some.mpr fun again found => ?_)
      rw [run_cons] at found
      cases gone.symm.trans ((h.step move).old_entry later found)

end CallMachine

namespace DispatchMachine

variable {η β : Type} {m : DispatchMachine η β} {reply : PendingReply} {call : PendingCall}

theorem awaited_request (h : m.calls.Coherent) (a : m.calls.Awaited reply call) (id : CorrelationId)
    (target : PeerName) (typeName : String) (payload : Json) (timeout : Nanos) :
    (m.step (.request id target typeName payload timeout)).2.calls.Awaited reply call := by
  by_cases code : m.InCode
  swap
  · rwa [step_of_not_inCode code (by simp)]
  let info : CallInfo := ⟨some target, typeName⟩
  have single : (m.calls.run [.register id timeout info]).Awaited reply call := by
    rcases a.change h (CallMachine.step_change h.table (.register id timeout info)) with
      kept | ⟨-, s, ends, -⟩
    · exact kept
    · cases ends
  rw [step_calls h, callMoves]
  rcases registered : m.site.dispatcher.table.register m.now id timeout info with ⟨⟨e⟩ | r, table⟩
  · exact single
  · cases m.site.network.refusal? target with
    | none => exact single
    | some e =>
      rw [refused_request_calls h code registered]
      have added := register_ok_calls code registered
      obtain ⟨free, rfl, next⟩ := CallMachine.registered_ok (congrArg Prod.fst added)
      rw [added] at next
      have made : table = m.calls.table.registering m.now id timeout info :=
        congrArg CallMachine.table next
      have coherent : table.Coherent := by
        have there := (h.step (.register id timeout info)).table
        rwa [added] at there
      have other : reply.id ≠ id := fun same => by
        have found := a.found
        rw [same, free] at found
        cases found
      refine ⟨a.held, a.unsettled, ?_, a.ticket⟩
      have entry : table.find? id = some ⟨info, timeout, _, _⟩ :=
        made ▸ (CallTable.find?_registering _ _ _ _ _).trans (if_pos rfl)
      have kept : table.find? reply.id = some call :=
        made ▸ (CallTable.find?_registering _ _ _ _ _).trans ((if_neg other).trans a.found)
      rw [CallTable.cancel_of_find? entry]
      exact (CallTable.find?_ending coherent _ _ _ _ _).trans ((if_neg other).trans kept)

/-- All that can end a call. -/
inductive MayEnd (id : CorrelationId) : DispatchMove β → Prop
  | advance : MayEnd id .advance
  | shutdown : MayEnd id .shutdown
  | drop (ticket : Ticket) : MayEnd id (.drop ticket)
  | reply (sender : PeerName) {message : Message} (kind : message.kind = .reply)
    (named : message.id? = some id) : MayEnd id (.inbound sender message)

theorem awaited_step (h : m.calls.Coherent) (a : m.calls.Awaited reply call)
    {move : DispatchMove β} (others : ¬ MayEnd reply.id move) :
    (m.step move).2.calls.Awaited reply call := by
  have single {inner : CallMove β} (idle : ∀ s, ¬ m.calls.Ends reply.id call inner s) :
      (m.calls.run [inner]).Awaited reply call := by
    rcases a.change h (CallMachine.step_change h.table inner) with kept | ⟨-, s, ends, -⟩
    · exact kept
    · exact absurd ends (idle s)
  cases move with
  | request id target typeName payload timeout => exact awaited_request h a _ _ _ _ _
  | advance => exact absurd .advance others
  | shutdown => exact absurd .shutdown others
  | drop ticket => exact absurd (.drop ticket) others
  | inbound sender message =>
    rw [step_calls h, callMoves]
    unfold Message.callMove?
    split
    · exact a
    · exact a
    · rename_i kind named _
      exact single fun s ends => others (by cases ends; exact .reply sender kind named)
    · rename_i kind named _
      exact single fun s ends => others (by cases ends; exact .reply sender kind named)
    · rename_i kind named _
      exact single fun s ends => others (by cases ends; exact .reply sender kind named)
  | network | reply | conclude | sendReply | notify =>
    rw [step_calls h]
    exact a
  | elapse | poll | after | cancelTimer | enter | leave =>
    rw [step_calls h]
    exact single fun s ends => by cases ends

theorem resolved_of_pending (code : m.InCode) {sender : PeerName} {message : Message}
    {id : CorrelationId} (kind : message.kind = .reply) (named : message.id? = some id)
    (pending : m.site.dispatcher.table.find? id = some call) :
    (m.step (.inbound sender message)).1 = .routed (.resolved id) := by
  have flag : (m.site.dispatcher.table.receive id message).1 = true := by
    rw [CallTable.receive_flag]
    exact CallTable.isPending_iff.mpr ⟨call, pending⟩
  rw [step_inCode code (by simp)]
  simp only [operate, Site.onInbound, kind, Site.lift, Dispatcher.onReply_of_id named, flag, if_true]

theorem channel_of_polled (h : m.calls.Coherent) {ticket : Ticket} {result : CallResult}
    {r : PendingReply} (polled : (m.step (.poll ticket)).1 = .polled (some result) r) :
    ∃ c s, m.calls.table.channels[ticket]? = some c ∧ c.outcome? = some s ∧ s.result = result ∧
      r.expired = s.expired := by
  have code : m.InCode := by
    by_contra passing
    rw [step_of_not_inCode passing (by simp)] at polled
    cases polled
  rw [step_inCode code (by simp)] at polled
  simp only [operate] at polled
  split at polled
  · cases polled
  · rename_i q found
    split at polled
    · cases polled
    · rename_i unsettled
      have held := List.mem_of_find?_eq_some found
      have fresh := h.unexpired held (Bool.not_eq_true _ ▸ unsettled)
      have same : q.ticket = ticket := by simpa using List.find?_some found
      obtain ⟨c, channel⟩ : ∃ c, m.calls.table.channels[q.ticket]? = some c :=
        ⟨_, Array.getElem?_eq_getElem (h.ticket_lt held)⟩
      cases outcome : c.outcome? with
      | none =>
        have polls := CallTable.poll_eq_none channel outcome
        have polls : m.site.dispatcher.table.poll q = (none, q) := polls
        rw [polls] at polled
        cases polled
      | some s =>
        have polls : m.site.dispatcher.table.poll q = (some s.result, q.delivered s) :=
          CallTable.poll_eq_some channel outcome fresh
        rw [polls] at polled
        cases polled
        exact ⟨c, s, same ▸ channel, outcome, rfl, rfl⟩

variable {a : HolderAct β} {number : Nat} {key : RequestKey} {o : Outcome}

theorem inFlight_act (h : m.Coherent) (nodup : m.running.Nodup)
    (only : ∀ {i j}, m.Serves i key → m.Serves j key → j = i)
    (waits : m.Serves number key → number ∈ m.running → key ∈ m.inFlight)
    (once : m.Serves number key → m.arrival? a ≠ some key)
    (silent : m.Serves number key → m.givenReply? number a = none) (serves : (m.act a).Serves number key)
    (runs : number ∈ (m.act a).running) : key ∈ (m.act a).inFlight := by
  rcases serves_act serves with old | ⟨-, -, open', -⟩
  · obtain ⟨going, unended⟩ := (mem_running_act nodup).mp runs
    obtain ⟨v, found, -⟩ := Option.bind_eq_some_iff.mp old
    have below := (Array.getElem?_eq_some_iff.mp found).1
    have open' := waits old (going.resolve_right fun between => Nat.not_le.mpr below between.1)
    cases h.chapter old (fun _ => only old) a with
    | arrives again => exact absurd again (once old)
    | passes inFlight => exact inFlight.mpr open'
    | answers _ _ _ given | late _ _ given => cases (silent old).symm.trans given
    | ends ends => exact absurd ⟨_, ends⟩ unended
  · exact open'

theorem sends_of_concluded (h : m.Coherent) (serves : m.Serves number key) (open' : key ∈ m.inFlight)
    (ends : m.Concludes a number o) {message : Message} (answers : o.message? key.id = some message) :
    m.site.sending key.sender message ∈ (m.act a).sends := by
  have attempts := (ends.request h serves).2
  rw [if_pos open', answers] at attempts
  have there : m.site.sending key.sender message ∈ (m.act a).attempts key := by
    rw [attempts]
    exact List.mem_append_right _ (List.mem_singleton.mpr rfl)
  exact (List.mem_filter.mp there).1

theorem awaited_of_requested (h : m.calls.Coherent) {id : CorrelationId} {target : PeerName}
    {typeName : String} {payload : Json} {timeout : Nanos}
    (requested : (m.step (.request id target typeName payload timeout)).1 = .requested (.ok reply)) :
    ∃ ticket timer, reply = ⟨id, ticket, false, false⟩ ∧
      (m.step (.request id target typeName payload timeout)).2.calls.Awaited reply
        ⟨⟨some target, typeName⟩, timeout, timer, ticket⟩ := by
  have code : m.InCode := by
    by_contra passing
    rw [step_of_not_inCode passing (by simp)] at requested
    cases requested
  have sent := congrArg Prod.fst (Site.sendRequest_table m.now id target typeName payload timeout m.site)
  have said : (m.site.sendRequest m.now id target typeName payload timeout).1 = .ok reply := by
    rw [step_inCode code (by simp)] at requested
    simp only [operate] at requested
    split at requested
    · cases requested
    · rename_i answered
      cases requested
      rw [answered]
  rw [said] at sent
  rw [step_calls h, callMoves]
  rcases registered : m.site.dispatcher.table.register m.now id timeout ⟨some target, typeName⟩
    with ⟨⟨e⟩ | r, table⟩
  · rw [registered] at sent
    cases sent
  · rw [registered] at sent
    cases refusal : m.site.network.refusal? target with
    | some e =>
      rw [refusal] at sent
      cases sent
    | none =>
      rw [refusal] at sent
      cases sent
      exact CallMachine.register_awaited (congrArg Prod.fst (register_ok_calls code registered))

theorem received_of_arrival {move : DispatchMove β}
    (arrives : m.arrival? (.move move) = some key) : received key m move (m.step move).1 = true := by
  unfold arrival? at arrives
  unfold received
  split at arrives
  · rename_i outcome routed
    have routed : (m.step move).1 = .routed outcome := routed
    rw [routed]
    exact decide_eq_true arrives
  · cases arrives

end DispatchMachine

namespace Station

variable {η β : Type} {s t : Station η β} {reply : PendingReply} {call : PendingCall} {number : Nat}
  {key : RequestKey}

structure Tended (s : Station η β) (number : Nat) (key : RequestKey) : Prop where
  nodup : s.machine.running.Nodup
  arrived : ∀ {i}, s.machine.Serves i key → 0 < s.received.countP key.askedBy
  only : ∀ {i j}, s.machine.Serves i key → s.machine.Serves j key → j = i
  waits : s.machine.Serves number key → number ∈ s.machine.running → key ∈ s.machine.inFlight

theorem Tended.fresh (name : PeerName) (registry : Registry η) (defaultTimeout : Nanos)
    (network : Network) :
    (fresh name registry defaultTimeout network : Station η β).Tended number key where
  nodup := List.nodup_nil
  arrived serves := by cases serves
  only serves := by cases serves
  waits serves := by cases serves

theorem Tended.step (tended : s.Tended number key) (h : s.Sound) {network : Network}
    {move : DispatchMove β} {received : List Envelope} (paid : s.Paid network move received)
    (few : received.countP key.askedBy ≤ 1)
    (silent : ∀ r, move ≠ .reply number r ∧ move ≠ .sendReply key.sender key.id r) :
    Tended ⟨((s.on network).step move).2, received⟩ number key := by
  let m := s.on network
  have coherent : m.Coherent := h.on network
  have more : s.received.countP key.askedBy ≤ received.countP key.askedBy :=
    Nat.le_of_add_right_le (paid key)
  have arrival (arrives : m.arrival? (.move move) = some key) :
      s.received.countP key.askedBy + 1 ≤ received.countP key.askedBy := by
    have own := paid key
    rwa [DispatchMachine.received_of_arrival arrives] at own
  have once {i : Nat} (serves : m.Serves i key) : m.arrival? (.move move) ≠ some key := fun arrives => by
    have before := tended.arrived serves
    have now := arrival arrives
    omega
  refine ⟨?_, fun serves => ?_, fun serves serves' => ?_, ?_⟩
  · exact (m.step_traffic move).running_nodup coherent tended.nodup
  · rcases DispatchMachine.serves_act (m := m) (a := .move move) serves with old | ⟨-, arrives, -⟩
    · exact Nat.lt_of_lt_of_le (tended.arrived old) more
    · exact Nat.lt_of_lt_of_le (Nat.succ_pos _) (arrival arrives)
  · rcases DispatchMachine.serves_act (m := m) (a := .move move) serves with old | new <;>
      rcases DispatchMachine.serves_act (m := m) (a := .move move) serves' with old' | new'
    · exact tended.only old old'
    · exact absurd new'.2.1 (once old)
    · exact absurd new.2.1 (once old')
    · exact new'.1.trans new.1.symm
  · refine DispatchMachine.inFlight_act (m := m) (a := .move move) coherent tended.nodup tended.only
      tended.waits once fun serves => ?_
    refine Option.eq_none_iff_forall_ne_some.mpr fun x given => ?_
    obtain ⟨-, ⟨made, -⟩ | ⟨own, made, served⟩⟩ := DispatchMachine.givenReply?_eq_some given
    · exact (silent x.1).1 made
    · cases served.symm.trans serves
      exact (silent x.1).2 made

theorem sends_step (network : Network) {move : DispatchMove β} (inside : ∀ n, move ≠ .network n)
    {x : Sending} (handed : x ∈ s.machine.sends) : x ∈ ((s.on network).step move).2.sends := by
  obtain ⟨more, posts, -⟩ := (s.on network).step_posts inside
  have grown : ((s.on network).step move).2.sends = s.machine.sends ++ more := posts.sends
  exact grown ▸ List.mem_append_left more handed

/-- Where a call stands that nothing but its answer ends. -/
inductive Stage (s : Station η β) (reply : PendingReply) (call : PendingCall) : Prop
  | waits (awaited : s.machine.calls.Awaited reply call)
    (unanswered : ∀ e ∈ s.received, RequestKey.answeredBy ⟨reply.id, s.name⟩ e = false)
  | answered {e : Envelope} (received : e ∈ s.received)
    (answers : RequestKey.answeredBy ⟨reply.id, s.name⟩ e = true)
    (decided : s.machine.calls.Decided reply ⟨e.message.result reply.id, false⟩)

theorem name_step (network : Network) {move : DispatchMove β} (inside : ∀ n, move ≠ .network n) :
    ((s.on network).step move).2.site.dispatcher.name = s.name := by
  obtain ⟨more, posts, -⟩ := (s.on network).step_posts inside
  exact posts.name

theorem Sound.awaited_single (h : s.Sound) (awaited : s.machine.calls.Awaited reply call)
    {network : Network} {move : DispatchMove β} {single : CallMove β}
    (only : (s.on network).callMoves move = [single])
    (still : (s.move move network).2.table.isPending reply.id = true) :
    (s.move move network).2.machine.calls.Awaited reply call := by
  have calls : (s.move move network).2.machine.calls = (s.machine.calls.step single).2 := by
    refine (DispatchMachine.step_calls (m := s.on network) h.calls move).trans ?_
    rw [only]
    rfl
  rw [calls]
  exact awaited.step h.calls single (calls ▸ still)

theorem Sound.decided_step (h : s.Sound) {settlement : Settlement}
    (decided : s.machine.calls.Decided reply settlement) (fresh : reply.expired = false)
    (network : Network) (move : DispatchMove β) :
    ((s.on network).step move).2.calls.Decided reply settlement := by
  rw [DispatchMachine.step_calls (m := s.on network) h.calls]
  exact decided.run h.calls fresh _

theorem Stage.move (stage : s.Stage reply call) (h : s.Sound) (fresh : reply.expired = false)
    {network : Network} {move : DispatchMove β} (inside : ∀ n, move ≠ .network n)
    (other : ∀ sender message, move ≠ .inbound sender message) (open' : move ≠ .shutdown)
    (lasts : (move = .advance ∨ ∃ ticket, move = .drop ticket) →
      s.table.isPending reply.id = true → (s.move move network).2.table.isPending reply.id = true) :
    (s.move move network).2.Stage reply call := by
  have same : (s.move move network).2.name = s.name := name_step network inside
  cases stage with
  | waits awaited unanswered =>
    refine .waits ?_ (same ▸ unanswered)
    by_cases idle : DispatchMachine.MayEnd reply.id move
    · have pending := CallTable.isPending_iff.mpr ⟨call, awaited.found⟩
      cases idle with
      | advance => exact h.awaited_single awaited rfl (lasts (.inl rfl) pending)
      | shutdown => exact absurd rfl open'
      | drop ticket => exact h.awaited_single awaited rfl (lasts (.inr ⟨ticket, rfl⟩) pending)
      | reply => exact absurd rfl (other _ _)
    · exact DispatchMachine.awaited_step (m := s.on network) h.calls awaited idle
  | answered received answers decided =>
    exact .answered received (same ▸ answers) (h.decided_step decided fresh network move)

theorem Sound.take_answer (h : s.Sound) (awaited : s.machine.calls.Awaited reply call)
    {e : Envelope} {network : Network} (code : s.machine.passing = false)
    (answers : RequestKey.answeredBy ⟨reply.id, s.name⟩ e = true) :
    (s.take e network).2.machine.calls.Decided reply ⟨e.message.result reply.id, false⟩ := by
  obtain ⟨kind, -, named⟩ := of_decide_eq_true answers
  have resolved : (s.take e network).1 = .routed (.resolved reply.id) :=
    DispatchMachine.resolved_of_pending (m := s.on network)
      (DispatchMachine.inCode_of_passing code) kind named awaited.found
  -- The reply that is settled has the id, and so is that of the entry.
  obtain ⟨-, -, call', reply', own, awaited', decided⟩ := h.take_resolved resolved
  rw [← own] at decided
  have found := awaited'.found
  rw [own, awaited.found] at found
  cases found
  cases h.calls.eq_of_ticket awaited'.held awaited.held (awaited'.ticket.symm.trans awaited.ticket)
  exact decided

theorem Stage.take (stage : s.Stage reply call) (h : s.Sound) (fresh : reply.expired = false)
    {e : Envelope} {network : Network} (code : s.machine.passing = false)
    (mine : e.recipient = s.name) : (s.take e network).2.Stage reply call := by
  have same : (s.take e network).2.name = s.name := name_step network (by simp)
  cases stage with
  | waits awaited unanswered =>
    by_cases answers : RequestKey.answeredBy ⟨reply.id, s.name⟩ e = true
    · exact .answered List.mem_cons_self (same ▸ answers) (h.take_answer awaited code answers)
    · have idle : ¬ DispatchMachine.MayEnd (β := β) reply.id (.inbound e.sender e.message) := by
        intro ends
        cases ends with
        | reply _ kind named => exact answers (decide_eq_true ⟨kind, mine, named⟩)
      refine .waits (DispatchMachine.awaited_step (m := s.on network) h.calls awaited idle) ?_
      rw [same]
      intro x member
      rcases List.mem_cons.mp member with rfl | old
      · exact Bool.not_eq_true _ ▸ answers
      · exact unanswered x old
  | answered received answers decided =>
    exact .answered (List.mem_cons_of_mem e received) (same ▸ answers)
      (h.decided_step decided fresh network _)

end Station

namespace Fleet

variable {η β : Type} {f g : Fleet η β} {ids : List CorrelationId} {k : Nat} {s t : Station η β}
  {reply : PendingReply} {call : PendingCall} {move : FleetMove η β} {moves : List (FleetMove η β)}

inductive Course (f : Fleet η β) (k : Nat) (s : Station η β) : FleetMove η β → Station η β → Prop
  | stays (move : FleetMove η β) : Course f k s move s
  | acts {move : DispatchMove β} (inside : ∀ n, move ≠ .network n)
    (other : ∀ sender message, move ≠ .inbound sender message) :
    Course f k s (.act k move) (s.move move f.network).2
  | takes {lane : LaneId} {e : Envelope} {network : Network} (code : s.machine.passing = false)
    (mine : e.recipient = s.name) : Course f k s (.receive k lane) (s.take e network).2

theorem course (at? : f.stations[k]? = some s) (move : FleetMove η β) :
    ∃ t, (f.step move).2.stations[k]? = some t ∧ f.Course k s move t := by
  have there := (List.getElem?_eq_some_iff.mp at?).1
  have put {j : Nat} {u : Station η β} (course : j = k → f.Course k s move u) :
      ∃ t, (f.put j u).stations[k]? = some t ∧ f.Course k s move t := by
    by_cases same : j = k
    · subst same
      exact ⟨u, List.getElem?_set_self there, course rfl⟩
    · exact ⟨s, (List.getElem?_set_ne same).trans at?, .stays move⟩
  cases move with
  | attach | detach | dropLane => exact ⟨s, at?, .stays _⟩
  | join => exact ⟨s, (List.getElem?_append_left there).trans at?, .stays _⟩
  | receive j lane =>
    simp only [step]
    split
    · exact ⟨s, at?, .stays _⟩
    · rename_i u at?'
      split
      · exact ⟨s, at?, .stays _⟩
      · rename_i code
        split
        · split
          · rename_i mine
            refine put fun same => ?_
            subst same
            cases at?'.symm.trans at?
            exact .takes (Bool.not_eq_true _ ▸ code) mine
          · exact ⟨s, at?, .stays _⟩
        · exact ⟨s, at?, .stays _⟩
  | act j move =>
    simp only [step]
    split
    · exact ⟨s, at?, .stays _⟩
    · exact ⟨s, at?, .stays _⟩
    · exact ⟨s, at?, .stays _⟩
    · rename_i u at?' inside other
      refine put fun same => ?_
      subst same
      cases at?'.symm.trans at?
      exact .acts inside other

theorem born (h : f.Sound ids) (before : f.stations[k]? = none)
    (after : (f.step move).2.stations[k]? = some t) :
    ∃ name registry defaultTimeout, t = .fresh name registry defaultTimeout f.network := by
  have change := step_change h move
  generalize (f.step move).2 = g at change after
  cases change with
  | network => cases before.symm.trans after
  | joined name registry defaultTimeout =>
    rw [List.getElem?_append_right (List.getElem?_eq_none_iff.mp before)] at after
    exact ⟨name, registry, defaultTimeout, List.mem_singleton.mp (List.mem_of_getElem? after)⟩
  | @moved j _ _ _ _ at? =>
    have other : j ≠ k := fun same => by cases before.symm.trans (same ▸ at?)
    cases before.symm.trans ((List.getElem?_set_ne other).symm.trans after)

theorem run_concat (f : Fleet η β) (moves : List (FleetMove η β)) (move : FleetMove η β) :
    f.run (moves ++ [move]) = ((f.run moves).step move).2 := by
  rw [run, List.foldl_append]
  rfl

theorem run_append (f : Fleet η β) (first second : List (FleetMove η β)) :
    f.run (first ++ second) = (f.run first).run second := List.foldl_append

theorem tended_run (capacity : Nat) {moves : List (FleetMove η β)} (distinct : (issued moves).Nodup)
    {number : Nat} {key : RequestKey} (silent : ∀ r, .act k (.reply number r) ∉ moves ∧
      .act k (.sendReply key.sender key.id r) ∉ moves)
    (at? : ((start capacity).run moves).stations[k]? = some t) : t.Tended number key := by
  induction moves using List.reverseRecOn generalizing t with
  | nil => cases at?
  | append_singleton moves move ih =>
    have before := sound_run (η := η) (β := β) capacity moves
    have after := sound_run (η := η) (β := β) capacity (moves ++ [move])
    have few : t.received.countP key.askedBy ≤ 1 :=
      Nat.le_trans (after.requests_at_le at? key) (List.nodup_iff_count_le_one.mp distinct _)
    rw [issued_append] at distinct
    have ih {s : Station η β} := ih (t := s) (List.nodup_append.mp distinct).1
      fun r => ⟨fun early => (silent r).1 (List.mem_append_left _ early),
        fun early => (silent r).2 (List.mem_append_left _ early)⟩
    rw [run_concat] at at?
    cases there : ((start capacity).run moves).stations[k]? with
    | none =>
      obtain ⟨name, registry, defaultTimeout, rfl⟩ := born before there at?
      exact .fresh name registry defaultTimeout _
    | some s =>
      obtain ⟨u, at?', course⟩ := course there move
      cases at?.symm.trans at?'
      have sound := before.station_at there
      cases course with
      | stays => exact ih there
      | acts inside other =>
        refine (ih there).step sound (Station.paid_of_other _ other) few fun r => ⟨?_, ?_⟩
        · rintro rfl
          exact (silent r).1 (List.mem_append_right _ (List.mem_singleton.mpr rfl))
        · rintro rfl
          exact (silent r).2 (List.mem_append_right _ (List.mem_singleton.mpr rfl))
      | takes => exact (ih there).step sound (Station.paid_inbound _ _) few (by simp)

/-- A call that nothing else ends stays awaited until its answer is taken, and then gives that. -/
theorem stage_step (h : f.Sound ids) (at? : f.stations[k]? = some s) (stage : s.Stage reply call)
    (fresh : reply.expired = false) (course : f.Course k s move t) (open' : move ≠ .act k .shutdown)
    (lasts : (move = .act k .advance ∨ ∃ ticket, move = .act k (.drop ticket)) →
      s.table.isPending reply.id = true → t.table.isPending reply.id = true) :
    t.Stage reply call := by
  have sound := h.station_at at?
  cases course with
  | stays => exact stage
  | acts inside other =>
    refine stage.move sound fresh inside other (fun shut => open' (congrArg _ shut)) fun may => lasts ?_
    rcases may with rfl | ⟨ticket, rfl⟩
    · exact .inl rfl
    · exact .inr ⟨ticket, rfl⟩
  | takes code mine => exact stage.take sound fresh code mine

def isPending (k : Nat) (id : CorrelationId) (f : Fleet η β) : Bool :=
  f.stations[k]?.any fun s => s.table.isPending id

theorem isPending_eq (at? : f.stations[k]? = some s) (id : CorrelationId) :
    f.isPending k id = s.table.isPending id := by
  rw [isPending, at?]
  rfl

def Ends (f : Fleet η β) (moves : List (FleetMove η β)) (k : Nat) (id : CorrelationId)
    (move : DispatchMove β) : Prop :=
  ∃ before after, moves = before ++ .act k move :: after ∧ (f.run before).isPending k id = true ∧
    (f.run (before ++ [.act k move])).isPending k id = false

theorem Ends.after {first : List (FleetMove η β)} {id : CorrelationId} {inner : DispatchMove β}
    (ends : (f.run first).Ends moves k id inner) : f.Ends (first ++ moves) k id inner := by
  obtain ⟨before, after, rfl, pending, past⟩ := ends
  refine ⟨first ++ before, after, (List.append_assoc ..).symm, ?_, ?_⟩
  · rwa [run_append]
  · rwa [List.append_assoc, run_append]

theorem stage_run (h : f.Sound ids) (at? : f.stations[k]? = some s) (stage : s.Stage reply call)
    (fresh : reply.expired = false) (open' : .act k .shutdown ∉ moves)
    (lasts : ¬ f.Ends moves k reply.id .advance)
    (kept : ∀ ticket, ¬ f.Ends moves k reply.id (.drop ticket)) :
    ∃ t, (f.run moves).stations[k]? = some t ∧ t.Stage reply call := by
  induction moves generalizing f s ids with
  | nil => exact ⟨s, at?, stage⟩
  | cons move moves ih =>
    obtain ⟨t, next, course⟩ := course at? move
    have here {inner : DispatchMove β} (made : move = .act k inner)
        (stays : ¬ f.Ends (move :: moves) k reply.id inner)
        (pending : s.table.isPending reply.id = true) : t.table.isPending reply.id = true := by
      subst made
      by_contra past
      refine stays ⟨[], moves, rfl, (isPending_eq at? _).trans pending, ?_⟩
      exact (isPending_eq next _).trans (Bool.not_eq_true _ ▸ past)
    have later {inner : DispatchMove β} (ends : (f.step move).2.Ends moves k reply.id inner) :
        f.Ends (move :: moves) k reply.id inner := by
      have after : (f.run [move]).Ends moves k reply.id inner := ends
      exact after.after
    have now : t.Stage reply call := by
      refine stage_step h at? stage fresh course (fun shut => open' (shut ▸ List.mem_cons_self)) ?_
      rintro (made | ⟨ticket, made⟩)
      · exact here made lasts
      · exact here made (kept ticket)
    exact ih (h.step move) next now (fun shut => open' (List.mem_cons_of_mem move shut))
      (fun ends => lasts (later ends)) fun ticket ends => kept ticket (later ends)

theorem sends_run (at? : f.stations[k]? = some s) (moves : List (FleetMove η β)) :
    ∃ t, (f.run moves).stations[k]? = some t ∧ ∀ x ∈ s.machine.sends, x ∈ t.machine.sends := by
  induction moves generalizing f s with
  | nil => exact ⟨s, at?, fun _ => id⟩
  | cons move moves ih =>
    obtain ⟨t, next, course⟩ := course at? move
    obtain ⟨u, last, later⟩ := ih next
    refine ⟨u, last, fun x handed => later x ?_⟩
    cases course with
    | stays => exact handed
    | acts inside => exact Station.sends_step f.network inside handed
    | takes => exact Station.sends_step _ (by simp) handed

theorem calls_run (h : f.Sound ids) (at? : f.stations[k]? = some s) {id : CorrelationId}
    (unissued : id ∉ issued moves) : ∃ t inner, (f.run moves).stations[k]? = some t ∧
      t.machine.calls = s.machine.calls.run inner ∧
        ∀ timeout info, .register id timeout info ∉ inner := by
  induction moves generalizing f s ids with
  | nil => exact ⟨s, [], at?, rfl, fun _ _ => List.not_mem_nil⟩
  | cons move moves ih =>
    rw [issued_cons, List.mem_append, not_or, Option.mem_toList] at unissued
    obtain ⟨t, next, course⟩ := course at? move
    obtain ⟨u, inner, last, calls, others⟩ := ih (h.step move) next unissued.2
    have own {network : Network} {made : DispatchMove β} (other : made.issued? ≠ some id)
        (same : t.machine = ((s.on network).step made).2) : ∃ u inner,
          ((f.step move).2.run moves).stations[k]? = some u ∧
            u.machine.calls = s.machine.calls.run inner ∧
              ∀ timeout info, .register id timeout info ∉ inner := by
      refine ⟨u, (s.on network).callMoves made ++ inner, last, ?_, fun timeout info member => ?_⟩
      · rw [calls, same, DispatchMachine.step_calls (m := s.on network) (h.station_at at?).calls,
          CallMachine.run_append]
        rfl
      · exact (List.mem_append.mp member).elim
          (DispatchMachine.register_not_mem_callMoves other timeout info) (others timeout info)
    cases course with
    | stays => exact ⟨u, inner, last, calls, others⟩
    | acts => exact own unissued.1 rfl
    | takes => exact own (by simp [DispatchMove.issued?]) rfl

theorem acted {inner : DispatchMove β} {answer : DispatchAnswer η}
    (answered : (f.step (.act k inner)).1 = .acted answer) : ∃ s, f.stations[k]? = some s ∧
      (s.move inner f.network).1 = answer ∧
        (f.step (.act k inner)).2.stations[k]? = some (s.move inner f.network).2 := by
  simp only [step] at answered ⊢
  split at answered
  · cases answered
  · cases answered
  · cases answered
  · rename_i s at? inside other
    cases answered
    exact ⟨s, at?, rfl, List.getElem?_set_self (List.getElem?_eq_some_iff.mp at?).1⟩

theorem decided_of_advance (h : f.Sound ids) (at? : f.stations[k]? = some s)
    (awaited : s.machine.calls.Awaited reply call)
    (past : (f.step (.act k .advance)).2.isPending k reply.id = false) :
    ∃ t, (f.step (.act k .advance)).2.stations[k]? = some t ∧
      t.machine.calls.Decided reply ⟨.error (.timeout reply.id call.timeoutDetail), true⟩ := by
  have coherent := (h.station_at at?).calls
  obtain ⟨t, next, course⟩ := course at? (.act k .advance)
  rw [isPending_eq next] at past
  refine ⟨t, next, ?_⟩
  cases course with
  | stays =>
    have pending : s.table.isPending reply.id = true :=
      CallTable.isPending_iff.mpr ⟨call, awaited.found⟩
    cases past.symm.trans pending
  | acts =>
    have step : (s.move .advance f.network).2.machine.calls = (s.machine.calls.step .advance).2 :=
      DispatchMachine.step_calls (m := s.on f.network) coherent .advance
    have gone : (s.machine.calls.step .advance).2.table.isPending reply.id = false := step ▸ past
    obtain ⟨settlement, ends, decided⟩ := awaited.decided coherent .advance gone
    cases ends
    exact step ▸ decided

theorem run_after (f : Fleet η β) (before : List (FleetMove η β)) (move : FleetMove η β)
    (between : List (FleetMove η β)) :
    f.run (before ++ move :: between) = (f.run (before ++ [move])).run between := by
  rw [← run_append, List.append_assoc]
  rfl

theorem station_of_isPending {id : CorrelationId} (pending : f.isPending k id = true) :
    ∃ s, f.stations[k]? = some s ∧ s.table.isPending id = true := by
  cases at? : f.stations[k]? with
  | none =>
    rw [isPending, at?] at pending
    cases pending
  | some s => exact ⟨s, rfl, (isPending_eq at? id).symm.trans pending⟩

theorem issued_of_pending {ids : List CorrelationId} {id : CorrelationId} (h : f.Sound ids)
    (pending : f.isPending k id = true) : id ∈ ids := by
  obtain ⟨s, at?, there⟩ := station_of_isPending pending
  obtain ⟨call, found⟩ := CallTable.isPending_iff.mp there
  obtain ⟨target, payload, -, asked⟩ := (h.station_at at?).entry found
  have some : 0 < f.sent.countP (Envelope.asks id) :=
    List.countP_pos_iff.mpr ⟨_, mem_sent at? asked, decide_eq_true ⟨rfl, rfl⟩⟩
  exact List.count_pos_iff.mp (Nat.lt_of_lt_of_le some (h.asked id))

theorem past_of_issued {before after early rest : List (FleetMove η β)} {move : FleetMove η β}
    {id : CorrelationId} (same : before ++ move :: after = early ++ rest)
    (unissued : id ∉ issued before) (issues : id ∈ issued early) :
    ∃ between, early = before ++ move :: between ∧ after = between ++ rest := by
  rcases List.append_eq_append_iff.mp same with ⟨more, rfl, parts⟩ | ⟨more, rfl, -⟩
  · cases more with
    | nil => exact absurd (List.append_nil before ▸ issues) unissued
    | cons first between =>
      obtain ⟨rfl, rfl⟩ := List.cons.inj parts
      exact ⟨between, rfl, rfl⟩
  · rw [issued_append] at unissued
    exact absurd (List.mem_append_left _ issues) unissued

end Fleet

end MessageRelay
