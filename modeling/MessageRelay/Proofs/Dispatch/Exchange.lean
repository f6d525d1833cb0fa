import MessageRelay.Proofs.Dispatch.Fleet
import MessageRelay.Proofs.Wire

/-!
Requests and replies in pairs. A call is settled by an inbound reply only if a dispatcher of the
name asked has received the request of that call, and has sent the reply in answer to it; the caller
gets what the reply says, and no other reply settles the call. All of this rests on ids of which
none is made twice: then an id is pending at one caller only, and its request can be answered once.
-/
namespace MessageRelay

/-- What a call with this id gets from its reply. A timeout that is reported counts as one of this
call. -/
def Message.result (id : CorrelationId) (m : Message) : CallResult :=
  if m.typeName = "relay.Error" then
    match RemoteError.decoder.ofValue m.payload with
    | .ok ⟨.timeout, detail⟩ => .error (.timeout id detail)
    | .ok ⟨.unhandled, text⟩ => .error (.unhandled text)
    | .ok ⟨.handlerFailure, text⟩ => .error (.handlerFailure text)
    | .error problem => .error (.malformedReply problem.message)
  else .ok ⟨m.typeName, m.payload⟩

theorem Message.result_of_decoded {id : CorrelationId} {m : Message} {e : RemoteError}
    (typed : m.typeName = "relay.Error") (decoded : RemoteError.decoder.ofValue m.payload = .ok e) :
    m.result id = .error (.ofRemote id e) := by
  rw [Message.result, if_pos typed, decoded]
  obtain ⟨kind, text⟩ := e
  cases kind <;> rfl

theorem Message.result_of_malformed {id : CorrelationId} {m : Message} {problem : Json.DecodeError}
    (typed : m.typeName = "relay.Error")
    (malformed : RemoteError.decoder.ofValue m.payload = .error problem) :
    m.result id = .error (.malformedReply problem.message) := by
  rw [Message.result, if_pos typed, malformed]

theorem Message.result_errorReply (id own : CorrelationId) (e : RemoteError) :
    (Message.errorReply own e).result id = .error (.ofRemote id e) :=
  result_of_decoded rfl e.ofValue_toPayload

namespace DispatchMachine

variable {η β : Type} {m : DispatchMachine η β} {id : CorrelationId} {message : Message}

theorem inCode_of_passing (code : m.passing = false) : m.InCode := by
  intro now count below stack
  simp [passing, stack] at code

theorem callMove?_ends {c : CallMachine β} (code : c.InCode) (call : PendingCall)
    (kind : message.kind = .reply) (named : message.id? = some id) :
    ∃ move, message.callMove? (β := β) = some move ∧
      c.Ends id call move ⟨message.result id, false⟩ := by
  have remote : message.remoteError? =
      if message.typeName = errorReplyType then some (RemoteError.decoder.ofValue message.payload)
      else none := by
    simp [Message.remoteError?, Message.isError, Message.isReply, kind]
  unfold Message.callMove?
  rw [kind, named, remote]
  by_cases error : message.typeName = errorReplyType
  · rw [if_pos error]
    cases decoded : RemoteError.decoder.ofValue message.payload with
    | ok e =>
      rw [Message.result_of_decoded error decoded]
      exact ⟨_, rfl, .fail code _⟩
    | error problem =>
      rw [Message.result_of_malformed error decoded]
      exact ⟨_, rfl, .fail code _⟩
  · have plain : message.result id = .ok ⟨message.typeName, message.payload⟩ := if_neg error
    rw [if_neg error, plain]
    exact ⟨_, rfl, .resolve code _⟩

theorem step_resolved {sender : PeerName}
    (resolved : (m.step (.inbound sender message)).1 = .routed (.resolved id)) :
    m.InCode ∧ message.kind = .reply ∧ message.id? = some id ∧
      ∃ call, m.site.dispatcher.table.find? id = some call := by
  have code : m.InCode := by
    by_contra passing
    rw [step_of_not_inCode passing (by simp)] at resolved
    cases resolved
  rw [step_inCode code (by simp)] at resolved
  have outcome : (m.site.onInbound m.now sender message).1 = .resolved id := by
    simpa only [operate, DispatchAnswer.routed.injEq] using resolved
  cases kind : message.kind with
  | request =>
    have routed := Site.onRequest_routed m.now sender message m.site
    simp only [Site.onInbound, kind] at outcome
    rw [outcome] at routed
    cases routed
  | reply =>
    simp only [Site.onInbound, kind, Site.lift] at outcome
    cases named : message.id? with
    | none => simp [Dispatcher.onReply, named] at outcome
    | some own =>
      rw [Dispatcher.onReply_of_id named] at outcome
      dsimp only at outcome
      split at outcome
      · rename_i pending
        cases outcome
        rw [CallTable.receive_flag] at pending
        exact ⟨code, rfl, rfl, CallTable.isPending_iff.mp pending⟩
      · cases outcome

theorem step_poll (h : m.calls.Coherent) (code : m.InCode) {r r' : PendingReply}
    (held : r ∈ m.replies) (unsettled : r.settled = false) {result : Option CallResult}
    (polls : m.calls.table.poll r = (result, r')) :
    (m.step (.poll r.ticket)).1 = .polled result r' := by
  have found : m.replies.find? (·.ticket = r.ticket) = some r := CallMachine.find?_reply h held
  have same : m.site.dispatcher.table.poll r = (result, r') := polls
  rw [step_inCode code (by simp)]
  simp only [operate, found, unsettled, Bool.false_eq_true, if_false, same]

end DispatchMachine

namespace Station

variable {η β : Type} {s : Station η β} {id : CorrelationId} {e : Envelope} {network : Network}

theorem Sound.take_resolved (h : s.Sound)
    (resolved : (s.take e network).1 = .routed (.resolved id)) :
    e.message.kind = .reply ∧ e.message.id? = some id ∧ ∃ call reply, reply.id = id ∧
      s.machine.calls.Awaited reply call ∧
      (s.take e network).2.machine.calls.Decided reply ⟨e.message.result id, false⟩ := by
  obtain ⟨code, kind, named, call, found⟩ :=
    DispatchMachine.step_resolved (m := s.on network) resolved
  obtain ⟨reply, rfl, awaited⟩ := h.awaited id call found
  have inCode := DispatchMachine.calls_inCode code
  obtain ⟨move, comes, ends⟩ := DispatchMachine.callMove?_ends inCode call kind named
  have after : (s.take e network).2.machine.calls = (s.machine.calls.step move).2 := by
    refine (DispatchMachine.step_calls (m := s.on network) h.calls _).trans ?_
    rw [DispatchMachine.callMoves, comes]
    rfl
  obtain ⟨settlement, ends', decided⟩ :=
    awaited.decided h.calls move (ends.not_isPending h.calls)
  cases ends.unique ends'
  exact ⟨kind, named, call, reply, rfl, awaited, after ▸ decided⟩

end Station

namespace Fleet

variable {η β : Type} {f g : Fleet η β} {ids : List CorrelationId} {id : CorrelationId}

/-- A dispatcher takes this envelope from a lane, and it settles the call of this id. -/
structure Settling (f : Fleet η β) (k : Nat) (lane : LaneId) (id : CorrelationId)
    (s : Station η β) (e : Envelope) (network : Network) : Prop where
  at? : f.stations[k]? = some s
  taken : f.network.receive lane = (.envelope e, network)
  mine : e.recipient = s.name
  resolved : (s.take e network).1 = .routed (.resolved id)
  next : (f.step (.receive k lane)).2 = f.put k (s.take e network).2

theorem step_resolved {move : FleetMove η β}
    (resolved : (f.step move).1 = .acted (.routed (.resolved id))) :
    ∃ k lane s e network, move = .receive k lane ∧ f.Settling k lane id s e network := by
  cases move with
  | attach | detach | dropLane | join => cases resolved
  | receive k lane =>
    simp only [step] at resolved
    split at resolved
    · cases resolved
    · rename_i s at?
      split at resolved
      · cases resolved
      · rename_i code
        split at resolved
        · rename_i e network taken
          split at resolved
          · rename_i mine
            refine ⟨k, lane, s, e, network, rfl, at?, taken, mine, ?_, ?_⟩
            · simpa only [FleetAnswer.acted.injEq] using resolved
            · simp only [step, at?, code, taken, mine, if_true, Bool.false_eq_true, if_false]
          · cases resolved
        · cases resolved
  | act k move =>
    simp only [step] at resolved
    split at resolved
    · cases resolved
    · cases resolved
    · cases resolved
    · rename_i inside other
      exact absurd (FleetAnswer.acted.inj resolved) (DispatchMachine.step_not_routed other _)

/-- With this move the dispatcher at a place sends the answer to a request that was in flight there,
or that comes in with the move. The request is in flight no more. -/
structure Answers (f : Fleet η β) (move : FleetMove η β) (k : Nat) (id : CorrelationId)
    (request answer : Envelope) : Prop where
  before : ∃ s, f.stations[k]? = some s ∧ answer ∉ s.sent ∧
    (request ∈ s.received → ⟨id, request.sender⟩ ∈ s.machine.inFlight)
  after : ∃ s, (f.step move).2.stations[k]? = some s ∧ s.name = request.recipient ∧
    request ∈ s.received ∧ answer ∈ s.sent ∧ ⟨id, request.sender⟩ ∉ s.machine.inFlight

theorem Change.moved_of_sent {id? : Option CorrelationId} (change : Change f id? g) {k : Nat}
    {t : Station η β} (at? : g.stations[k]? = some t) {e : Envelope} (sent : e ∈ t.sent)
    (new : ∀ s, f.stations[k]? = some s → e ∉ s.sent) :
    ∃ s network, f.stations[k]? = some s ∧ Station.Moved id? network s t := by
  cases change with
  | network => exact absurd sent (new t at?)
  | joined name registry defaultTimeout =>
    rw [List.getElem?_append] at at?
    split at at?
    · exact absurd sent (new t at?)
    · rw [List.mem_singleton.mp (List.mem_of_getElem? at?)] at sent
      cases sent
  | @moved k' s t' network arrived there moved =>
    by_cases same : k' = k
    · subst same
      have set : (f.stations.set k' t')[k']? = some t' :=
        List.getElem?_set_self (List.getElem?_eq_some_iff.mp there).1
      cases set.symm.trans at?
      exact ⟨s, network, there, moved⟩
    · exact absurd sent (new t ((List.getElem?_set_ne same).symm.trans at?))

section answering

variable {k : Nat} {request answer : Envelope}

theorem Sound.answers_step (h : f.Sound ids) {move : FleetMove η β}
    (few : (ids ++ move.issued?.toList).count id ≤ 1) {t : Station η β}
    (at? : (f.step move).2.stations[k]? = some t) (sent : answer ∈ t.sent)
    (new : ∀ s, f.stations[k]? = some s → answer ∉ s.sent)
    (only : ∀ x ∈ (f.step move).2.sent, x.asks id = true → x = request)
    (asks : (⟨id, request.sender⟩ : RequestKey).askedBy request = true)
    (answered : (⟨id, request.sender⟩ : RequestKey).answeredBy answer = true) :
    f.Answers move k id request answer := by
  let key : RequestKey := ⟨id, request.sender⟩
  have h' := h.step move
  have sound := h'.station_at at?
  obtain ⟨s, network, at?', moved⟩ := (step_change h move).moved_of_sent at? sent new
  -- The only request with this key is the one that was received.
  have received : request ∈ t.received := by
    obtain ⟨x, there, asked⟩ := sound.request_received sent answered
    have taken := h'.mem_sent_of_received (List.mem_append_left _ (mem_received at? there))
    rw [← only x taken (key.asks_of_askedBy asked)]
    exact there
  have once : t.received.countP key.askedBy ≤ 1 := Nat.le_trans (h'.requests_at_le at? key) few
  have more : s.machine.repliesTo key < t.machine.repliesTo key := by
    obtain ⟨more, grown⟩ := moved.sent
    have late : answer ∈ more := (List.mem_append.mp (grown ▸ sent)).resolve_left (new s at?')
    have some : 0 < more.countP key.answeredBy := List.countP_pos_iff.mpr ⟨answer, late, answered⟩
    rw [← Station.countP_sent, ← Station.countP_sent, grown, List.countP_append]
    exact Nat.lt_add_of_pos_right some
  have balance := moved.answers key
  have bound := sound.answers key
  refine ⟨⟨s, at?', new s at?', fun before => ?_⟩, t, at?, ?_, received, sent, fun still => ?_⟩
  · by_contra past
    have some : 0 < s.received.countP key.askedBy :=
      List.countP_pos_iff.mpr ⟨request, before, asks⟩
    rw [DispatchMachine.possible_of_not_mem past] at balance
    omega
  · exact (sound.mine request received).symm
  · rw [DispatchMachine.possible_of_mem still] at bound
    omega

theorem Sound.answers_run (h : f.Sound ids) {moves : List (FleetMove η β)}
    (few : (ids ++ issued moves).count id ≤ 1) {t : Station η β}
    (at? : (f.run moves).stations[k]? = some t) (sent : answer ∈ t.sent)
    (new : ∀ s, f.stations[k]? = some s → answer ∉ s.sent)
    (only : ∀ x ∈ (f.run moves).sent, x.asks id = true → x = request)
    (asks : (⟨id, request.sender⟩ : RequestKey).askedBy request = true)
    (answered : (⟨id, request.sender⟩ : RequestKey).answeredBy answer = true) :
    ∃ early move late, moves = early ++ move :: late ∧
      (f.run early).Answers move k id request answer := by
  induction moves generalizing f ids with
  | nil => exact absurd sent (new t at?)
  | cons move moves ih =>
    rw [issued_cons, ← List.append_assoc] at few
    by_cases later : ∀ s, (f.step move).2.stations[k]? = some s → answer ∉ s.sent
    · obtain ⟨early, next, late, rfl, answers⟩ := ih (h.step move) few at? later only
      exact ⟨move :: early, next, late, rfl, answers⟩
    · simp only [not_forall, not_not] at later
      obtain ⟨s, there, now⟩ := later
      have soon : (ids ++ move.issued?.toList).count id ≤ 1 := by
        rw [List.count_append] at few
        exact Nat.le_of_add_right_le few
      have one : ∀ x ∈ (f.step move).2.sent, x.asks id = true → x = request := fun x taken =>
        only x ((Later.run (h.step move) moves).mem_sent taken)
      exact ⟨[], move, moves, rfl, h.answers_step soon there now new one asks answered⟩

end answering

def Gives (f : Fleet η β) (k : Nat) (reply : PendingReply) (result : CallResult) : Prop :=
  ∃ s, f.stations[k]? = some s ∧ ∀ r ∈ s.machine.replies, r.ticket = reply.ticket →
    r = reply.delivered ⟨result, false⟩ ∨
      r = reply ∧ (s.machine.passing = false →
        (f.step (.act k (.poll reply.ticket))).1 =
          .acted (.polled (some result) (reply.delivered ⟨result, false⟩)))

theorem gives_of_decided (h : f.Sound ids) {k : Nat} {s : Station η β}
    (at? : f.stations[k]? = some s) {reply : PendingReply} {result : CallResult}
    (decided : s.machine.calls.Decided reply ⟨result, false⟩) (unsettled : reply.settled = false)
    (fresh : reply.expired = false) : f.Gives k reply result := by
  refine ⟨s, at?, fun r held ticket => ?_⟩
  rcases decided.replies r held ticket with rfl | delivered
  · refine .inr ⟨rfl, fun code => ?_⟩
    have polled := DispatchMachine.step_poll (m := s.on f.network) (h.station_at at?).calls
      (DispatchMachine.inCode_of_passing code) held unsettled (decided.poll fresh)
    simp only [step, at?]
    exact congrArg FleetAnswer.acted polled
  · exact .inl delivered

/-- A call, and the exchange of envelopes that ends it. After these moves a dispatcher is about to
take the answer from a lane. -/
structure Exchange (capacity : Nat) (before : List (FleetMove η β)) (k : Nat) (lane : LaneId)
    (id : CorrelationId) (caller : Station η β) (call : PendingCall) (reply : PendingReply)
    (request answer : Envelope) : Prop where
  at? : ((start capacity).run before).stations[k]? = some caller
  awaited : caller.machine.calls.Awaited reply call
  same : reply.id = id
  target : call.info.target? = some request.recipient
  asks : ∃ payload,
    request = .of caller.name request.recipient (.request call.info.typeName payload id)
  sent : request ∈ caller.sent
  arrives : (((start capacity).run before).network.receive lane).1 = .envelope answer
  kind : answer.message.kind = .reply
  named : answer.message.id? = some id
  sender : answer.sender = request.recipient
  recipient : answer.recipient = request.sender
  answered : ∃ early move late callee, before = early ++ move :: late ∧
    ((start capacity : Fleet η β).run early).Answers move callee id request answer

/-- No reply but the one to its own request settles a call. -/
theorem exchange_of_settling {capacity : Nat} {before : List (FleetMove η β)}
    (few : (issued before).count id ≤ 1) {k : Nat} {lane : LaneId} {s : Station η β} {e : Envelope}
    {network : Network} (settling : ((start capacity).run before).Settling k lane id s e network) :
    ∃ call reply request, Exchange capacity before k lane id s call reply request e ∧
      (s.take e network).2.machine.calls.Decided reply ⟨e.message.result id, false⟩ := by
  have h := sound_run (η := η) (β := β) capacity before
  have sound := h.station_at settling.at?
  obtain ⟨kind, named, call, reply, rfl, awaited, decided⟩ := sound.take_resolved settling.resolved
  obtain ⟨target, payload, info, asked⟩ := sound.entry awaited.found
  let request := Envelope.of s.name target (.request call.info.typeName payload reply.id)
  have asks : (⟨reply.id, s.name⟩ : RequestKey).askedBy request = true :=
    decide_eq_true ⟨rfl, rfl, rfl⟩
  have answered : (⟨reply.id, s.name⟩ : RequestKey).answeredBy e = true :=
    decide_eq_true ⟨kind, settling.mine, named⟩
  have only : ∀ x ∈ ((start capacity).run before).sent, x.asks reply.id = true → x = request :=
    fun x taken also => h.asked_unique few taken (mem_sent settling.at? asked) also
      (decide_eq_true ⟨rfl, rfl⟩)
  -- What arrives was sent by some dispatcher, and that one has answered the request.
  have sent := h.mem_sent_of_received
    (List.mem_append_right _ (Network.mem_carried_of_receive settling.taken))
  obtain ⟨j, callee, at?, member⟩ := mem_flatMap_stations.mp sent
  have nobody : ∀ s, (start capacity : Fleet η β).stations[j]? = some s → e ∉ s.sent := by
    intro s none
    cases none
  obtain ⟨early, move, late, parts, answers⟩ :=
    (Sound.start capacity).answers_run few at? member nobody only asks answered
  obtain ⟨t, there, name, -, said, -⟩ := answers.after
  have sender := (((sound_run capacity early).step move).station_at there).own e said
  exact ⟨call, reply, request,
    { at? := settling.at?
      awaited := awaited
      same := rfl
      target := info
      asks := ⟨payload, rfl⟩
      sent := asked
      arrives := congrArg Prod.fst settling.taken
      kind := kind
      named := named
      sender := sender.trans name
      recipient := settling.mine
      answered := ⟨early, move, late, j, parts, answers⟩ }, decided⟩

theorem Sound.not_settled_again (h : f.Sound ids) (few : ids.count id ≤ 1)
    {request answer : Envelope} (sent : request ∈ f.sent) (asks : request.asks id = true)
    (received : answer ∈ f.received)
    (answered : (⟨id, request.sender⟩ : RequestKey).answeredBy answer = true)
    (move : FleetMove η β) : (f.step move).1 ≠ .acted (.routed (.resolved id)) := by
  intro resolved
  obtain ⟨k, lane, s, e, network, rfl, settling⟩ := step_resolved resolved
  have sound := h.station_at settling.at?
  obtain ⟨kind, named, call, reply, rfl, awaited, -⟩ := sound.take_resolved settling.resolved
  let key : RequestKey := ⟨reply.id, request.sender⟩
  -- The call is that of the same request, so another reply to it would be received.
  have again : key.answeredBy e = true := by
    obtain ⟨target, payload, -, asked⟩ := sound.entry awaited.found
    have same := h.asked_unique few (mem_sent settling.at? asked) sent
      (decide_eq_true ⟨rfl, rfl⟩) asks
    have name : s.name = request.sender := congrArg Envelope.sender same
    exact decide_eq_true ⟨kind, settling.mine.trans name, named⟩
  have before : 0 < f.received.countP key.answeredBy :=
    List.countP_pos_iff.mpr ⟨answer, received, answered⟩
  have after := (h.step (.receive k lane)).replies_received_le key
  have receipts :=
    countP_flatMap_set settling.at? (s.take e network).2 (·.received) key.answeredBy
  have arrived : (s.take e network).2.received = e :: s.received := rfl
  have put : (f.step (.receive k lane)).2.received =
      (f.stations.set k (s.take e network).2).flatMap (·.received) := by
    rw [settling.next]
    rfl
  rw [arrived, List.countP_cons, if_pos again] at receipts
  rw [put, FleetMove.issued?_receive, Option.toList_none, List.append_nil] at after
  unfold Fleet.received at before
  have few' : ids.count key.id ≤ 1 := few
  omega

/-- For every run of dispatchers on a network that never makes an id twice: where an inbound reply
settles a call, it was sent by the dispatcher that received the request of the call, in answer to
it. From then on the caller gets what that reply says and nothing else, and no reply settles the
call again. -/
theorem replies_settle_own_calls (capacity : Nat) {before after : List (FleetMove η β)}
    (distinct : (issued (before ++ after)).Nodup) {k : Nat} {lane : LaneId}
    (settled : (((start capacity).run before).step (.receive k lane)).1 =
      .acted (.routed (.resolved id))) :
    let f := (start capacity).run before
    let g := (f.step (.receive k lane)).2.run after
    ∃ caller call reply request answer,
      Exchange capacity before k lane id caller call reply request answer ∧
      g.Gives k reply (answer.message.result id) ∧
      ∀ move, (g.step move).1 ≠ .acted (.routed (.resolved id)) := by
  intro f g
  have few := List.nodup_iff_count_le_one.mp distinct id
  obtain ⟨k', lane', s, e, network, same, settling⟩ := step_resolved settled
  cases same
  have earlier : (issued before).count id ≤ 1 := by
    rw [issued_append, List.count_append] at few
    exact Nat.le_of_add_right_le few
  obtain ⟨call, reply, request, exchange, decided⟩ := exchange_of_settling earlier settling
  have h := sound_run (η := η) (β := β) capacity before
  have sound : g.Sound (issued (before ++ after)) := by
    simpa [issued_append] using (h.step (.receive k lane)).run after
  -- The dispatcher with the reply that it has taken, and what has become of it.
  let t := (s.take e network).2
  have at? : (f.step (.receive k lane)).2.stations[k]? = some t := by
    rw [settling.next]
    exact List.getElem?_set_self (List.getElem?_eq_some_iff.mp settling.at?).1
  obtain ⟨u, there, later⟩ := Later.run (h.step (.receive k lane)) after k t at?
  refine ⟨s, call, reply, request, e, exchange, ?_, ?_⟩
  · obtain ⟨moves, calls⟩ := later.calls
    have unsettled := exchange.awaited.unsettled
    have fresh := (h.station_at settling.at?).calls.unexpired exchange.awaited.held unsettled
    have coherent := ((h.step (.receive k lane)).station_at at?).calls
    exact gives_of_decided sound there (calls ▸ decided.run coherent fresh moves) unsettled fresh
  · have sent : request ∈ g.sent :=
      (Later.run h (.receive k lane :: after)).mem_sent (mem_sent settling.at? exchange.sent)
    have received : e ∈ g.received :=
      mem_received there (later.mem_received List.mem_cons_self)
    obtain ⟨payload, asks⟩ := exchange.asks
    refine sound.not_settled_again few sent ?_ received ?_
    · rw [asks]
      exact decide_eq_true ⟨rfl, rfl⟩
    · exact decide_eq_true ⟨exchange.kind, exchange.recipient, exchange.named⟩

/-- Two requests reach a peer on different lanes, as it is attached again in between; the later one
is answered first, and for the other the handler ends with a timeout of a call of its own. -/
def crossing : List (FleetMove Unit Empty) :=
  [.join "A" {} 0, .join "B" ⟨[("", ())]⟩ 0, .attach "A", .attach "B",
    .act 0 (.request ⟨0, 1⟩ "B" "First" .null 1000), .attach "B",
    .act 0 (.request ⟨0, 2⟩ "B" "Second" .null 1000), .receive 1 2, .receive 1 1,
    .act 1 (.conclude 0 (.reply ⟨"ToSecond", .null⟩)), .receive 0 0,
    .act 1 (.conclude 1 (.failed ⟨[], .call (.timeout ⟨0, 3⟩ "late")⟩))]

/-- The caller gets for each request what was said to that one: for the second a reply, for the first
a timeout that is its own. A shutdown does not change it. -/
theorem replies_settle_own_calls_crossing :
    let f := (start 2).run crossing
    let g := (f.step (.receive 0 0)).2.run [.act 0 .shutdown]
    let detail := "request 00000000-0000-0000-0000-000000000003 timed out: late"
    (f.step (.receive 0 0)).1 = .acted (.routed (.resolved ⟨0, 1⟩)) ∧
    (∃ caller call reply request answer,
      Exchange 2 (crossing.take 10) 0 0 ⟨0, 2⟩ caller call reply request answer ∧
      g.Gives 0 reply (.ok ⟨"ToSecond", .null⟩)) ∧
    ∃ caller call reply request answer,
      Exchange 2 crossing 0 0 ⟨0, 1⟩ caller call reply request answer ∧
      g.Gives 0 reply (.error (.timeout ⟨0, 1⟩ detail)) ∧
      ∀ move, (g.step move).1 ≠ .acted (.routed (.resolved ⟨0, 1⟩)) := by
  intro f g detail
  have distinct : (issued (crossing ++ [.act 0 .shutdown])).Nodup := by decide
  have settled : (f.step (.receive 0 0)).1 = .acted (.routed (.resolved ⟨0, 1⟩)) := rfl
  refine ⟨settled, ?_, ?_⟩
  · have once : (issued (crossing.take 10 ++
        (crossing.drop 11 ++ [.receive 0 0, .act 0 .shutdown]))).Nodup := by decide
    have earlier : (((start 2).run (crossing.take 10)).step (.receive 0 0)).1 =
        .acted (.routed (.resolved ⟨0, 2⟩)) := rfl
    obtain ⟨caller, call, reply, request, answer, exchange, gives, -⟩ :=
      replies_settle_own_calls 2 once earlier
    have arrives : Network.Received.envelope
        (.of "B" "A" (.reply ⟨0, 2⟩ "ToSecond" .null)) = .envelope answer := exchange.arrives
    cases arrives
    exact ⟨caller, call, reply, request, _, exchange, gives⟩
  · obtain ⟨caller, call, reply, request, answer, exchange, gives, last⟩ :=
      replies_settle_own_calls 2 distinct settled
    have told : (⟨[], .call (.timeout ⟨0, 3⟩ "late")⟩ : HandlerError).message = detail := by
      decide +kernel
    have arrives : Network.Received.envelope (.of "B" "A" (.errorReply ⟨0, 1⟩ ⟨.timeout, detail⟩)) =
        .envelope answer := told ▸ exchange.arrives
    cases arrives
    have result : (Message.errorReply ⟨0, 1⟩ ⟨.timeout, detail⟩).result ⟨0, 1⟩ =
        .error (.timeout ⟨0, 1⟩ detail) := Message.result_errorReply _ _ _
    exact ⟨caller, call, reply, request, _, exchange, result ▸ gives, last⟩

end Fleet

end MessageRelay
