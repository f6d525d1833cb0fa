import MessageRelay.Proofs.Dispatch.Finality
import MessageRelay.Proofs.Dispatch.Posts

/-!
One request, told by all that it leaves behind. A call is registered before the network is asked, so
where the network refuses the message the call is taken back, with its timer and its channel; what
is left of it are two counts. A closed table is asked first of all, and nothing changes.
-/
namespace MessageRelay

theorem Schedule.filterMap_insertSlot {γ : Type} {f : Slot → Option γ} {slot : Slot}
    (removed : f slot = none) (slots : List Slot) :
    (insertSlot slot slots).filterMap f = slots.filterMap f := by
  induction slots with
  | nil => exact List.filterMap_cons_none removed
  | cons first rest ih =>
    rw [insertSlot]
    split
    · exact List.filterMap_cons_none removed
    · rw [List.filterMap_cons, List.filterMap_cons, ih]

theorem TimerQueue.Numbered.scheduleAt_cancel {α : Type} {q : TimerQueue α} (h : q.Numbered)
    (deadline : Nanos) (payload : α) :
    ((q.scheduleAt deadline payload).2.cancel q.next).2.agenda.timers = q.agenda.timers := by
  have absent : Schedule.alive q.schedule.live ⟨deadline, q.next⟩ = none := by
    have unused : Schedule.find? q.schedule.live q.next = none :=
      Schedule.find?_eq_none_iff.mpr fun member => by
        obtain ⟨t, live, same⟩ := List.mem_map.mp member
        exact absurd (h.below t live) (same ▸ Nat.lt_irrefl _)
    rw [Schedule.alive, unused]
    rfl
  have live : Schedule.erase ((q.next, payload) :: q.schedule.live) q.next = q.schedule.live :=
    List.eraseP_cons_of_pos (by simp)
  change ((Schedule.insertSlot ⟨deadline, q.next⟩ q.nextDeadline.2.schedule.slots).filterMap
    (Schedule.alive (Schedule.erase ((q.next, payload) :: q.schedule.live) q.next))) = _
  rw [live, Schedule.filterMap_insertSlot absent]
  exact congrArg Agenda.timers (agenda_nextDeadline q)

namespace CallTable

variable {β : Type} {t : CallTable β}

def withdrawing (now : Nanos) (id : CorrelationId) (timeout : Nanos) (t : CallTable β) :
    CallTable β :=
  { t with
    stats.registered := t.stats.registered + 1
    stats.cancelled := t.stats.cancelled + 1
    timers := ((t.timers.scheduleAfter now timeout (.expiry id)).2.cancel t.timers.next).2
    channels := t.channels.push .abandoned }

theorem cancel_registering (now : Nanos) (id : CorrelationId) (timeout : Nanos) (info : CallInfo)
    (t : CallTable β) :
    (t.registering now id timeout info).cancel id = (true, t.withdrawing now id timeout) := by
  have entry : (t.registering now id timeout info).find? id = some _ :=
    (find?_registering now id timeout info id).trans (if_pos rfl)
  have calls : (t.registering now id timeout info).calls.eraseP (·.1 = id) = t.calls :=
    List.eraseP_cons_of_pos (by simp)
  have channels : (t.channels.push .waiting).setIfInBounds t.channels.size .abandoned =
      t.channels.push .abandoned := Array.ext' (by simp)
  rw [cancel_of_find? entry, ending, calls]
  simp only [registering, channels]
  rfl

end CallTable

namespace Network

variable {n : Network} {e : Envelope}

theorem lanes_send_of_refused {error : TransportError}
    (refused : n.refusal? e.recipient = some error) : (n.send e).2.lanes = n.lanes := by
  simp only [send, refused]
  cases error <;> rfl

theorem Bounded.send_of_taken (h : n.Bounded) (taken : n.refusal? e.recipient = none) :
    ∃ lane, n.lane? e.recipient = some lane ∧
      ((n.send e).2.lane lane) = { n.lane lane with waiting := (n.lane lane).waiting ++ [e] } ∧
      (∀ other, other ≠ lane → (n.send e).2.lane other = n.lane other) ∧
      (n.send e).2.delivered = n.delivered + 1 := by
  have accepted : (n.send e).1 = .ok () := by simp only [send, taken]
  rcases send_cases e n with ⟨lane, current, -, -, sent⟩ | ⟨error, m, sent, -⟩
  · rw [sent]
    refine ⟨lane, current, ?_, fun other different => ?_, rfl⟩
    · exact lane_modify_self (n := { n with delivered := n.delivered + 1 }) _ (h _ _ current)
    · exact lane_modify_other (n := { n with delivered := n.delivered + 1 }) _ different
  · rw [sent] at accepted
    cases accepted

end Network

namespace Site

open CallTable

variable {η β : Type} {s : Site η β} {id : CorrelationId} {target : PeerName}

def request (id : CorrelationId) (target : PeerName) (typeName : String) (payload : Json)
    (s : Site η β) : Envelope :=
  .of s.dispatcher.name target (.request typeName payload id)

theorem sendRequest_of_refused (now : Nanos) (typeName : String) (payload : Json) (timeout : Nanos)
    (closed : s.dispatcher.table.closed = false)
    (free : s.dispatcher.table.find? id = none) {e : TransportError}
    (refused : s.network.refusal? target = some e) :
    s.sendRequest now id target typeName payload timeout =
      (.error (.transport e),
        ⟨{ s.dispatcher.record (.sent (s.request id target typeName payload) (some e)) with
            table := s.dispatcher.table.withdrawing now id timeout },
          (s.network.send (s.request id target typeName payload)).2⟩) := by
  simp only [sendRequest, register_of_free _ _ _ _ closed (isPending_eq_false_iff.mpr free),
    transmit_eq, told, sending, Site.modify, refused, Dispatcher.record, cancel_registering,
    request]

theorem sendRequest_of_taken (now : Nanos) (typeName : String) (payload : Json) (timeout : Nanos)
    (closed : s.dispatcher.table.closed = false)
    (free : s.dispatcher.table.find? id = none) (taken : s.network.refusal? target = none) :
    ∃ journal, s.sendRequest now id target typeName payload timeout =
      (.ok ⟨id, s.dispatcher.table.channels.size, false, false⟩,
        ⟨{ s.dispatcher with
            journal
            counters.requestsSent := s.dispatcher.counters.requestsSent + 1
            table := s.dispatcher.table.registering now id timeout ⟨some target, typeName⟩ },
          (s.network.send (s.request id target typeName payload)).2⟩) := by
  simp only [sendRequest, register_of_free _ _ _ _ closed (isPending_eq_false_iff.mpr free),
    transmit_eq, told, sending, Site.modify, taken, Dispatcher.record, request]
  exact ⟨_, rfl⟩

end Site

namespace DispatchMachine

open CallTable

variable {η β : Type} {m n : DispatchMachine η β}

/-- Nothing of a call with this id is left but two counts: it was registered, and cancelled. -/
structure TakenBack (id : CorrelationId) (m n : DispatchMachine η β) : Prop where
  calls : n.site.dispatcher.table.calls = m.site.dispatcher.table.calls
  poll : ∀ r ∈ m.replies, n.site.dispatcher.table.poll r = m.site.dispatcher.table.poll r
  replies : n.replies = m.replies
  timers : n.site.dispatcher.table.timers.agenda.timers =
    m.site.dispatcher.table.timers.agenda.timers
  inFlight : n.inFlight = m.inFlight
  counters : n.site.dispatcher.counters = m.site.dispatcher.counters
  lanes : n.site.network.lanes = m.site.network.lanes
  stats : n.site.dispatcher.table.currentStats =
    { m.site.dispatcher.table.currentStats with
      registered := m.site.dispatcher.table.stats.registered + 1
      cancelled := m.site.dispatcher.table.stats.cancelled + 1 }
  dropped : ∀ ticket, n.site.dispatcher.dropReply ⟨id, ticket, false, false⟩ = n.site.dispatcher

/-- The network took one request with this id, and one call waits for the reply to it. -/
structure Asked (id : CorrelationId) (target : PeerName) (message : Message) (reply : PendingReply)
    (m n : DispatchMachine η β) : Prop where
  fresh : m.site.dispatcher.table.find? id = none
  calls : ∃ call, call.ticket = reply.ticket ∧
    n.site.dispatcher.table.calls = (id, call) :: m.site.dispatcher.table.calls
  named : reply.id = id
  replies : n.replies = m.replies ++ [reply]
  inFlight : n.inFlight = m.inFlight
  counters : n.site.dispatcher.counters = { m.site.dispatcher.counters with
    requestsSent := m.site.dispatcher.counters.requestsSent + 1 }
  stats : n.site.dispatcher.table.stats = { m.site.dispatcher.table.stats with
    registered := m.site.dispatcher.table.stats.registered + 1 }
  queued : ∃ lane, m.site.network.lane? target = some lane ∧
    n.site.network.lane lane = { m.site.network.lane lane with
      waiting := (m.site.network.lane lane).waiting ++
        [.of m.site.dispatcher.name target message] } ∧
    ∀ other, other ≠ lane → n.site.network.lane other = m.site.network.lane other
  delivered : n.site.network.delivered = m.site.network.delivered + 1

inductive Requesting (m : DispatchMachine η β) (id : CorrelationId) (target : PeerName)
    (message : Message) : DispatchAnswer η → DispatchMachine η β → Prop
  | closed (closed : m.site.dispatcher.table.closed = true) :
    Requesting m id target message (.requested (.error .cancelled)) m
  | duplicate {n : DispatchMachine η β} :
    Requesting m id target message (.requested (.error (.duplicateId id))) n
  | refused {e : TransportError} {n : DispatchMachine η β}
    (refused : m.site.network.refusal? target = some e) (undone : TakenBack id m n) :
    Requesting m id target message (.requested (.error (.transport e))) n
  | taken {reply : PendingReply} {n : DispatchMachine η β}
    (asked : Asked id target message reply m n) :
    Requesting m id target message (.requested (.ok reply)) n

section Request

variable {id : CorrelationId} {target : PeerName} {typeName : String} {payload : Json}
  {timeout : Nanos}

theorem request_of_refused (h : m.bare.Coherent) (closed : m.site.dispatcher.table.closed = false)
    (free : m.site.dispatcher.table.find? id = none) {e : TransportError}
    (refused : m.site.network.refusal? target = some e) :
    Requesting m id target (.request typeName payload id)
      (m.operate (.request id target typeName payload timeout)).1
      (m.operate (.request id target typeName payload timeout)).2 := by
  let t := m.site.dispatcher.table.withdrawing m.now id timeout
  have table : m.bare.table.Coherent := h.table
  have dropped (ticket : Ticket) : t.drop ⟨id, ticket, false, false⟩ = t :=
    congrArg Prod.snd (cancel_of_not_pending (t := t) free)
  simp only [operate, Site.sendRequest_of_refused _ _ _ _ closed free refused]
  refine .refused refused {
    calls := rfl
    poll := fun r held => ?_
    replies := rfl
    timers := table.numbered.scheduleAt_cancel _ _
    inFlight := rfl
    counters := rfl
    lanes := Network.lanes_send_of_refused refused
    stats := rfl
    dropped := fun ticket => ?_ }
  · have known : r.ticket < m.site.dispatcher.table.channels.size := h.ticket_lt held
    simp only [CallTable.poll, withdrawing, Array.getElem?_push_lt known,
      Array.getElem?_eq_getElem known]
  · simp only [Dispatcher.dropReply]
    rw [dropped ticket]

theorem request_of_taken (closed : m.site.dispatcher.table.closed = false)
    (free : m.site.dispatcher.table.find? id = none) (bounded : m.site.network.Bounded)
    (taken : m.site.network.refusal? target = none) :
    Requesting m id target (.request typeName payload id)
      (m.operate (.request id target typeName payload timeout)).1
      (m.operate (.request id target typeName payload timeout)).2 := by
  obtain ⟨journal, sent⟩ :=
    Site.sendRequest_of_taken m.now typeName payload timeout closed free taken
  obtain ⟨lane, current, queued, others, delivered⟩ :=
    bounded.send_of_taken (e := m.site.request id target typeName payload) taken
  simp only [operate, sent]
  exact .taken {
    fresh := free
    calls := ⟨_, rfl, rfl⟩
    named := rfl
    replies := rfl
    inFlight := rfl
    counters := rfl
    stats := rfl
    queued := ⟨lane, current, queued, others⟩
    delivered := delivered }

theorem requesting (h : m.bare.Coherent) (bounded : m.site.network.Bounded) :
    Requesting m id target (.request typeName payload id)
      (m.operate (.request id target typeName payload timeout)).1
      (m.operate (.request id target typeName payload timeout)).2 := by
  cases closed : m.site.dispatcher.table.closed with
  | true =>
    rw [request_of_closed closed]
    exact .closed closed
  | false =>
    cases found : m.site.dispatcher.table.find? id with
    | some call =>
      have pending : m.site.dispatcher.table.isPending id = true := isPending_iff.mpr ⟨call, found⟩
      simp only [operate, Site.sendRequest, register_of_pending _ _ _ _ closed pending]
      exact .duplicate
    | none =>
      cases refusal : m.site.network.refusal? target with
      | some e => exact request_of_refused h closed found refusal
      | none => exact request_of_taken closed found bounded refusal

end Request

/-- A request that the network refuses leaves no call behind, and one to a closed table nothing at
all; if there is a reply to wait for, one request was sent, and one call is pending for it. -/
theorem failed_request_leaves_no_call (name : PeerName) (registry : Registry η)
    (defaultTimeout : Nanos) (first : Network) (as : List (HolderAct β)) (capacity : Nat)
    (moves : List NetworkMove) (id : CorrelationId) (target : PeerName) (typeName : String)
    (payload : Json) (timeout : Nanos) :
    let m : DispatchMachine η β :=
      { (fresh name registry defaultTimeout first).acts as with
        site.network := (Network.start capacity).run moves }
    let answer := (m.operate (.request id target typeName payload timeout)).1
    let n := (m.operate (.request id target typeName payload timeout)).2
    (∀ e, answer = .requested (.error (.transport e)) →
      m.site.network.refusal? target = some e ∧ TakenBack id m n) ∧
    (answer = .requested (.error .cancelled) → m.site.dispatcher.table.closed = true ∧ n = m) ∧
    ∀ reply, answer = .requested (.ok reply) →
      Asked id target (.request typeName payload id) reply m n := by
  intro m answer n
  have reached := acts_coherent (bare_fresh name registry defaultTimeout first) as
  have coherent : m.bare.Coherent := CallMachine.Alike.coherent ⟨rfl, rfl⟩ reached
  have bounded : m.site.network.Bounded := (Network.Bounded.start capacity).run moves
  have asked : Requesting m id target (.request typeName payload id) answer n :=
    requesting coherent bounded
  clear_value answer n
  refine ⟨?_, ?_, ?_⟩
  · rintro e rfl
    cases asked with
    | refused refused undone => exact ⟨refused, undone⟩
  · rintro rfl
    cases asked with
    | closed closed => exact ⟨closed, rfl⟩
  · rintro reply rfl
    cases asked with
    | taken asked => exact asked

def oneAtATime (acts : List (HolderAct Empty)) (moves : List NetworkMove) :
    DispatchMachine Unit Empty :=
  { (fresh "A" {} 0 ((Network.start 1).run [.attach "B"])).acts
      (.move (.request (.fresh 0) "B" "Ask" .null 100) :: acts) with
    site.network := (Network.start 1).run moves }

theorem failed_request_leaves_no_call_full :
    let ask : DispatchMove Empty := .request (.fresh 1) "B" "Ask" .null 100
    let full := oneAtATime [] [.attach "B", .send (.of "C" "B" (.notification "Note" .null))]
    let empty := oneAtATime [] [.attach "B"]
    let closed := oneAtATime [.move .shutdown] [.attach "B"]
    full.site.dispatcher.table.pendingCount = 1 ∧ TakenBack (.fresh 1) full (full.operate ask).2 ∧
      (∃ reply, Asked (.fresh 1) "B" (.request "Ask" .null (.fresh 1)) reply empty
        (empty.operate ask).2) ∧
      (closed.operate ask).2 = closed := by
  intro ask full empty closed
  have leaves (acts : List (HolderAct Empty)) (moves : List NetworkMove) :=
    failed_request_leaves_no_call "A" ({} : Registry Unit) 0 ((Network.start 1).run [.attach "B"])
      (.move (.request (.fresh 0) "B" "Ask" .null 100) :: acts) 1 moves
      (.fresh 1) "B" "Ask" .null 100
  have refused : (full.operate ask).1 = .requested (.error (.transport (.queueFull "B"))) := by rfl
  have sent : ∃ reply, (empty.operate ask).1 = .requested (.ok reply) := ⟨_, by rfl⟩
  have cancelled : (closed.operate ask).1 = .requested (.error .cancelled) := by rfl
  obtain ⟨reply, sent⟩ := sent
  exact ⟨by rfl, ((leaves _ _).1 _ refused).2, ⟨reply, (leaves _ _).2.2 reply sent⟩,
    ((leaves _ _).2.1 cancelled).2⟩

end DispatchMachine

end MessageRelay
