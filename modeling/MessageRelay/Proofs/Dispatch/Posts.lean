import MessageRelay.Proofs.Dispatch.Answers
import MessageRelay.Proofs.Dispatch.Calls
import MessageRelay.Proofs.Network.Queues

/-!
What a dispatcher hands to the network, and who is named as the sender. Only a request of its own
goes out under a new id, and the call that waits for the reply names where it went.
-/
namespace MessageRelay

def taken (sends : List Sending) : List Envelope := (sends.filter (·.2.isNone)).map (·.1)

theorem taken_append (first second : List Sending) :
    taken (first ++ second) = taken first ++ taken second := by
  simp only [taken, List.filter_append, List.map_append]

theorem mem_taken {sends : List Sending} {e : Envelope} : e ∈ taken sends ↔ (e, none) ∈ sends := by
  simp only [taken, List.mem_map, List.mem_filter, Option.isNone_iff_eq_none, Prod.exists]
  constructor
  · rintro ⟨_, _, ⟨member, rfl⟩, rfl⟩
    exact member
  · exact fun member => ⟨e, none, ⟨member, rfl⟩, rfl⟩

theorem countP_taken (p : Envelope → Bool) (sends : List Sending) :
    (taken sends).countP p = sends.countP fun x => x.2.isNone && p x.1 := by
  rw [taken, List.countP_map, List.countP_filter]
  exact List.countP_congr fun x _ => by simp [and_comm]

def Envelope.asks (id : CorrelationId) (e : Envelope) : Bool :=
  e.message.kind = .request ∧ e.message.id? = some id

namespace Site

open Dispatcher CallTable

variable {η β : Type} {s s' s'' : Site η β} {sent : List Sending}

/-- The dispatcher has handed this to the network, in its own name. -/
structure Posts (s : Site η β) (sent : List Sending) (s' : Site η β) : Prop where
  name : s'.dispatcher.name = s.dispatcher.name
  sends : s'.dispatcher.sends = s.dispatcher.sends ++ sent
  own : ∀ x ∈ sent, x.1.sender = s.dispatcher.name
  network : s'.network = s.network.run (sent.map fun x => .send x.1)
  carried : ∀ p, s'.network.carried.countP p ≤ s.network.carried.countP p + (taken sent).countP p

namespace Posts

theorem of_same (sends : s'.dispatcher.sends = s.dispatcher.sends)
    (name : s'.dispatcher.name = s.dispatcher.name) (network : s'.network = s.network) :
    s.Posts [] s' where
  name := name
  sends := sends.trans (List.append_nil _).symm
  own x member := absurd member List.not_mem_nil
  network := network
  carried p := Nat.le_of_eq (by rw [network]; rfl)

theorem trans {first second : List Sending} (h : s.Posts first s') (h' : s'.Posts second s'') :
    s.Posts (first ++ second) s'' where
  name := h'.name.trans h.name
  sends := by rw [h'.sends, h.sends, List.append_assoc]
  own x member := by
    rcases List.mem_append.mp member with early | late
    · exact h.own x early
    · exact (h'.own x late).trans h.name
  network := by rw [h'.network, h.network, List.map_append, Network.run_append]
  carried p := by
    have le := h.carried p
    have le' := h'.carried p
    rw [taken_append, List.countP_append]
    omega

theorem taken (h : s.Posts sent s') :
    taken s'.dispatcher.sends = taken s.dispatcher.sends ++ taken sent :=
  (congrArg _ h.sends).trans (taken_append _ _)

theorem then_same (h : s.Posts sent s') (sends : s''.dispatcher.sends = s'.dispatcher.sends)
    (name : s''.dispatcher.name = s'.dispatcher.name) (network : s''.network = s'.network) :
    s.Posts sent s'' := by
  have both := h.trans (of_same sends name network)
  rwa [List.append_nil] at both

theorem of_transmit (recipient : PeerName) (m : Message) (s : Site η β) :
    s.Posts [s.sending recipient m] (s.transmit recipient m).2 where
  name := by rw [transmit_eq]; rfl
  sends := sends_transmit recipient m s
  own x member := by rw [List.mem_singleton.mp member]; rfl
  network := by rw [transmit_eq]; rfl
  carried p := by
    have le := Network.carried_send_le (p := p) (.of s.dispatcher.name recipient m) s.network
    rw [transmit_eq, countP_taken, List.countP_singleton]
    refine Nat.le_trans le (Nat.add_le_add_left (Nat.le_of_eq ?_) _)
    have addressee : (Envelope.of s.dispatcher.name recipient m).recipient = recipient := rfl
    simp only [addressee, sending, List.countP_singleton]
    by_cases accepted : s.network.refusal? recipient = none
    · simp [accepted]
    · simp [accepted, Option.isNone_eq_false_iff.mpr (Option.isSome_iff_ne_none.mpr accepted)]

end Posts

def AsksNothing (s s' : Site η β) : Prop :=
  ∃ sent, s.Posts sent s' ∧ ∀ x ∈ sent, ∀ id, x.1.asks id = false

namespace AsksNothing

theorem of_same (sends : s'.dispatcher.sends = s.dispatcher.sends)
    (name : s'.dispatcher.name = s.dispatcher.name) (network : s'.network = s.network) :
    s.AsksNothing s' :=
  ⟨[], .of_same sends name network, fun _ member => absurd member List.not_mem_nil⟩

theorem trans (h : s.AsksNothing s') (h' : s'.AsksNothing s'') : s.AsksNothing s'' := by
  obtain ⟨first, posts, none⟩ := h
  obtain ⟨second, posts', none'⟩ := h'
  exact ⟨first ++ second, posts.trans posts', fun x member =>
    (List.mem_append.mp member).elim (none x) (none' x)⟩

theorem of_transmit (recipient : PeerName) (s : Site η β) {m : Message}
    (none : m.kind = .reply ∨ m.id? = none) : s.AsksNothing (s.transmit recipient m).2 := by
  refine ⟨_, .of_transmit recipient m s, fun x member id => ?_⟩
  rw [List.mem_singleton.mp member]
  rcases none with kind | unnamed
  · simp [Envelope.asks, sending, Envelope.of, kind]
  · simp [Envelope.asks, sending, Envelope.of, unnamed]

theorem of_report (f : DispatchCounters → DispatchCounters) (event : MetricEvent) (s : Site η β) :
    s.AsksNothing (s.modify fun d => (d.count f).report event) :=
  of_same (sends_report event _) rfl rfl

theorem of_replied (typeName : String) (s : Site η β) : s.AsksNothing (s.replied typeName) :=
  of_report _ (.replySent typeName) s

theorem of_answer (recipient : PeerName) (id : CorrelationId) (s : Site η β) {m : Message}
    (kind : m.kind = .reply) : s.AsksNothing (s.answer recipient id m).2 := by
  by_cases open' : ⟨id, recipient⟩ ∈ s.dispatcher.inFlight
  · have released : s.AsksNothing { s with dispatcher := (s.dispatcher.release recipient id).2 } :=
      of_same rfl rfl rfl
    have sent := released.trans (of_transmit recipient _ (.inl kind))
    simp only [answer, release, isInFlight_iff.mpr open', if_true] at sent ⊢
    split <;> rename_i result <;> rw [result] at sent
    · exact sent.trans (of_replied m.typeName _)
    · exact sent
  · rw [answer_of_not_inFlight m open']
    exact of_same rfl rfl rfl

theorem of_noting (now : Nanos) (v : Invocation) (o : Outcome) (s : Site η β) :
    s.AsksNothing (s.noting now v o) := by
  refine of_same (noting_sameTraffic now v o s).sends ?_ ?_ <;>
  · unfold noting
    dsimp only
    split <;> rfl

theorem of_conclude (now : Nanos) (v : Invocation) (o : Outcome) (s : Site η β) :
    s.AsksNothing (s.conclude now v o) := by
  have noted := of_noting now v o s
  rw [conclude_eq]
  cases v.id? with
  | none => exact noted
  | some id =>
    dsimp only
    cases said : o.message? id with
    | none => exact noted.trans (of_same rfl rfl rfl)
    | some m =>
      obtain ⟨typeName, payload, rfl⟩ := Outcome.message?_eq_reply said
      exact noted.trans (of_answer v.sender id _ rfl)

theorem of_notify (target : PeerName) (typeName : String) (payload : Json) (s : Site η β) :
    s.AsksNothing (s.notify target typeName payload).2 := by
  have sent := of_transmit target s (m := .notification typeName payload) (.inr rfl)
  unfold notify
  split <;> rename_i result <;> rw [result] at sent
  · exact sent
  · exact sent.trans (of_report _ (.notificationSent typeName) _)

theorem of_onRequest (now : Nanos) (sender : PeerName) (m : Message) (s : Site η β) :
    s.AsksNothing (s.onRequest now sender m).2 := by
  have received := of_report (fun c => { c with requestsReceived := c.requestsReceived + 1 })
    (.requestReceived m.typeName) s
  have unhandled := received.trans (of_report (fun c => { c with unhandled := c.unhandled + 1 })
    (.unhandled m.typeName) _)
  unfold onRequest
  dsimp only
  split
  · split
    · exact unhandled
    · rename_i id _
      have error : (Message.errorReply id (.unhandled m.typeName)).kind = .reply := rfl
      have sent := unhandled.trans (of_transmit sender _ (.inl error))
      split <;> rename_i result <;> have same := congrArg Prod.snd result
      · exact (same ▸ sent).trans (of_replied errorReplyType _)
      · exact same ▸ sent
  · split
    · exact received
    · split
      · exact received
      · exact received.trans (of_same rfl rfl rfl)

end AsksNothing

section request

variable (now : Nanos) (id : CorrelationId) (target : PeerName) (typeName : String)
  (payload : Json) (timeout : Nanos)

theorem sendRequest_posts (s : Site η β) :
    ∃ sent, s.Posts sent (s.sendRequest now id target typeName payload timeout).2 ∧
      (sent = [] ∨ sent = [s.sending target (.request typeName payload id)]) := by
  unfold sendRequest
  split
  · exact ⟨[], .of_same rfl rfl rfl, .inl rfl⟩
  · rename_i reply table _
    have registered : s.Posts [] (s.modify fun d => { d with table := table }) :=
      .of_same rfl rfl rfl
    have sent := registered.trans (.of_transmit target (.request typeName payload id) _)
    split <;> rename_i result <;> rw [result] at sent
    · exact ⟨_, sent.then_same rfl rfl rfl, .inr rfl⟩
    · exact ⟨_, sent.then_same ((sends_report _ _).trans (sends_report _ _)) rfl rfl, .inr rfl⟩

variable {now id target typeName timeout} {reply : PendingReply} {table : CallTable β}

theorem sends_request_taken
    (registered : s.dispatcher.table.register now id timeout ⟨some target, typeName⟩ =
      (.ok reply, table)) (accepted : s.network.refusal? target = none) :
    (s.sendRequest now id target typeName payload timeout).2.dispatcher.sends =
      s.dispatcher.sends ++
        [(.of s.dispatcher.name target (.request typeName payload id), none)] := by
  have same : (s.modify fun d => { d with table := table }).network = s.network := rfl
  simp only [sendRequest, registered, transmit_eq, told, same, accepted]
  refine (sends_report _ _).trans ((sends_report _ _).trans ((sends_record _ _).trans ?_))
  simp only [sending, same, accepted]
  rfl

theorem sendRequest_entry (h : s.dispatcher.table.Coherent) {k : CorrelationId}
    {call : PendingCall}
    (found : (s.sendRequest now id target typeName payload timeout).2.dispatcher.table.find? k =
      some call) :
    s.dispatcher.table.find? k = some call ∨
      k = id ∧ call.info = ⟨some target, typeName⟩ ∧
        (s.sendRequest now id target typeName payload timeout).2.dispatcher.sends =
          s.dispatcher.sends ++
            [(.of s.dispatcher.name target (.request typeName payload id), none)] := by
  have tables := sendRequest_table now id target typeName payload timeout s
  replace found := (congrArg (·.2.find? k) tables).symm.trans found
  cases closed : s.dispatcher.table.closed with
  | true =>
    rw [register_of_closed _ _ _ _ closed] at found
    exact .inl found
  | false =>
    cases pending : s.dispatcher.table.isPending id with
    | true =>
      rw [register_of_pending _ _ _ _ closed pending] at found
      exact .inl found
    | false =>
      have registered := register_of_free now id timeout ⟨some target, typeName⟩ closed pending
      have free := isPending_eq_false_iff.mp pending
      rw [registered] at found
      cases refusal : s.network.refusal? target with
      | none =>
        rw [refusal] at found
        rw [find?_registering] at found
        split at found
        · rename_i same
          cases found
          exact .inr ⟨same, rfl, sends_request_taken payload registered refusal⟩
        · exact .inl found
      | some e =>
        rw [refusal] at found
        have coherent := h.registering now timeout ⟨some target, typeName⟩ free
        have entered := (find?_registering (t := s.dispatcher.table) now id timeout
          ⟨some target, typeName⟩ id).trans (if_pos rfl)
        dsimp only at found
        rw [cancel_of_find? entered, find?_ending coherent] at found
        split at found
        · cases found
        · rename_i other
          rw [find?_registering, if_neg other] at found
          exact .inl found

end request

end Site

def DispatchMove.issued? {β : Type} : DispatchMove β → Option CorrelationId
  | .request id .. => some id
  | _ => none

namespace DispatchMachine

variable {η β : Type} {m : DispatchMachine η β}

theorem taken_of_asksNothing {sent : List Sending} (none : ∀ x ∈ sent, ∀ id, x.1.asks id = false)
    (id : CorrelationId) : (taken sent).countP (Envelope.asks id) = 0 := by
  rw [countP_taken, List.countP_eq_zero]
  exact fun x member => by simp [none x member id]

def PostsAsking (id? : Option CorrelationId) (s s' : Site η β) : Prop :=
  ∃ sent, s.Posts sent s' ∧
    ∀ id, (taken sent).countP (Envelope.asks id) ≤ if id? = some id then 1 else 0

theorem PostsAsking.of_asksNothing {id? : Option CorrelationId} {s s' : Site η β}
    (h : s.AsksNothing s') : PostsAsking id? s s' := by
  obtain ⟨sent, posts, none⟩ := h
  refine ⟨sent, posts, fun id => ?_⟩
  rw [taken_of_asksNothing none id]
  exact Nat.zero_le _

theorem PostsAsking.refl (id? : Option CorrelationId) (s : Site η β) : PostsAsking id? s s :=
  .of_asksNothing (.of_same rfl rfl rfl)

theorem site_request (m : DispatchMachine η β) (id : CorrelationId) (target : PeerName)
    (typeName : String) (payload : Json) (timeout : Nanos) :
    (m.operate (.request id target typeName payload timeout)).2.site =
      (m.site.sendRequest m.now id target typeName payload timeout).2 := by
  simp only [operate]
  split <;> rename_i result <;> rw [result]

theorem request_posts (m : DispatchMachine η β) (id : CorrelationId) (target : PeerName)
    (typeName : String) (payload : Json) (timeout : Nanos) :
    PostsAsking (some id) m.site
      (m.operate (.request id target typeName payload timeout)).2.site := by
  obtain ⟨sent, posts, few⟩ :=
    Site.sendRequest_posts m.now id target typeName payload timeout m.site
  refine ⟨sent, site_request m _ _ _ _ _ ▸ posts, fun other => ?_⟩
  rcases few with rfl | rfl
  · exact Nat.zero_le _
  · rw [countP_taken, List.countP_singleton]
    by_cases same : id = other
    · rw [if_pos (congrArg some same)]
      split
      · exact Nat.le_refl _
      · exact Nat.zero_le _
    · let request : Message := .request typeName payload id
      have named : (m.site.sending target request).1.message.id? = some id := rfl
      simp [Envelope.asks, request, named, same]

theorem advance_posts (now : Nanos) (count : Nat) (below : List (DispatchFrame β))
    (m : DispatchMachine η β) : m.site.AsksNothing (m.advance now count below).2.site := by
  have same := Dispatcher.fireNext_sameTraffic now m.site.dispatcher
  have name := congrArg Prod.fst (Site.made_fireNext now m.site.dispatcher)
  simp only [advance, Site.lift]
  generalize m.site.dispatcher.fireNext now = result at same name ⊢
  obtain ⟨fired, d⟩ := result
  cases fired <;> exact .of_same same.sends name rfl

theorem operate_posts (m : DispatchMachine η β) {move : DispatchMove β}
    (inside : ∀ network, move ≠ .network network) :
    PostsAsking move.issued? m.site (m.operate move).2.site := by
  cases move with
  | network network => exact absurd rfl (inside network)
  | inbound sender message =>
    have started (n : DispatchMachine η β) (outcome : InboundOutcome η) :
        (n.start outcome).site = n.site := by cases outcome <;> rfl
    simp only [operate, started, Site.onInbound]
    split
    · have same := Dispatcher.onReply_sameTraffic message m.site.dispatcher
      exact .of_asksNothing (.of_same same.sends (congrArg Prod.fst (Site.made_onReply message _)) rfl)
    · exact .of_asksNothing (.of_onRequest _ _ _ _)
  | reply number r =>
    simp only [operate]
    split
    · exact .refl _ _
    · simp only [withSite, Site.replyEarly]
      split
      · exact .refl _ _
      · exact .of_asksNothing (.of_answer _ _ _ rfl)
  | conclude number o =>
    simp only [operate]
    split
    · exact .refl _ _
    · exact .of_asksNothing (.of_conclude _ _ _ _)
  | sendReply recipient id r => exact .of_asksNothing (.of_answer _ _ _ rfl)
  | request id target typeName payload timeout => exact request_posts m _ _ _ _ _
  | notify target typeName payload => exact .of_asksNothing (.of_notify _ _ _ _)
  | poll ticket =>
    simp only [operate]
    split
    · exact .refl _ _
    · split <;> exact .refl _ _
  | drop ticket =>
    simp only [operate]
    split
    · exact .refl _ _
    · exact .of_asksNothing (.of_same rfl rfl rfl)
  | after delay payload => exact .of_asksNothing (.of_same rfl rfl rfl)
  | cancelTimer id => exact .of_asksNothing (.of_same rfl rfl rfl)
  | shutdown => exact .of_asksNothing (.of_same (Dispatcher.sends_report _ _) rfl rfl)
  | elapse | enter | advance | leave => exact .refl _ _

theorem step_posts (m : DispatchMachine η β) {move : DispatchMove β}
    (inside : ∀ network, move ≠ .network network) :
    PostsAsking move.issued? m.site (m.step move).2.site := by
  unfold step
  split
  · exact .of_asksNothing (advance_posts _ _ _ m)
  · exact .refl _ _
  · exact .refl _ _
  · exact operate_posts m inside

theorem register_not_mem_callMoves {move : DispatchMove β} {id : CorrelationId}
    (other : move.issued? ≠ some id) (timeout : Nanos) (info : CallInfo) :
    .register id timeout info ∉ m.callMoves move := by
  intro member
  cases move with
  | request own target typeName payload timeout =>
    rcases List.mem_cons.mp member with first | after
    · cases first
      exact other rfl
    · split at after <;> simp at after
  | inbound sender message =>
    simp only [callMoves, Message.callMove?, Option.mem_toList] at member
    split at member <;> cases member
  | _ => simp [callMoves] at member

theorem step_entry (h : m.calls.Coherent) (move : DispatchMove β) {id : CorrelationId}
    {call : PendingCall} (found : (m.step move).2.site.dispatcher.table.find? id = some call) :
    m.site.dispatcher.table.find? id = some call ∨
      ∃ target payload, call.info.target? = some target ∧
        (m.step move).2.sends = m.sends ++
          [(.of m.site.dispatcher.name target (.request call.info.typeName payload id), none)] := by
  cases issued : move.issued? with
  | none =>
    have same := congrArg (·.table.find? id) (step_calls h move)
    have others (timeout : Nanos) (info : CallInfo) :
        .register id timeout info ∉ m.callMoves move :=
      register_not_mem_callMoves (by simp [issued]) timeout info
    exact .inl (h.old_entry others (same.symm.trans found))
  | some own =>
    obtain ⟨target, typeName, payload, timeout, rfl⟩ : ∃ target typeName payload timeout,
        move = .request own target typeName payload timeout := by
      cases move <;> cases issued
      exact ⟨_, _, _, _, rfl⟩
    by_cases code : m.InCode
    · have site : (m.step (.request own target typeName payload timeout)).2.site = _ :=
        (congrArg (·.2.site) (step_inCode code (by simp))).trans (site_request m _ _ _ _ _)
      rw [site] at found
      rcases Site.sendRequest_entry payload h.table found with old | ⟨rfl, info, sends⟩
      · exact .inl old
      · refine .inr ⟨target, payload, by rw [info], ?_⟩
        rw [info]
        exact (congrArg (·.dispatcher.sends) site).trans sends
    · rw [step_of_not_inCode code (by simp)] at found
      exact .inl found

end DispatchMachine

end MessageRelay
