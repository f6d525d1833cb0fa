import MessageRelay.Proofs.Dispatch.Holder
import MessageRelay.Proofs.Registry

/-!
How an inbound message is routed. The kind of the message, its id, the registry, the requests in flight
and the pending calls decide together; and whatever they decide, a reply touches nothing but the call of
its id, and a request nothing but the handlers and, if none takes it, the network.
-/
namespace MessageRelay

open CallTable

def Registry.Handles {η : Type} (r : Registry η) (t : String) : Prop :=
  ∃ ns, Takes ns t ∧ (r.find? ns).isSome

theorem Registry.resolve_eq_none_iff_not_handles {η : Type} {r : Registry η} {t : String} :
    r.resolve t = none ↔ ¬ r.Handles t := by
  simp only [resolve_eq_none_iff, Handles, not_exists, not_and, Option.not_isSome_iff_eq_none]

theorem Registry.handles_of_resolve {η : Type} {r : Registry η} {t ns : String} {handler : η}
    (resolved : r.resolve t = some (ns, handler)) : r.Handles t := by
  by_contra unhandled
  rw [resolve_eq_none_iff_not_handles.mpr unhandled] at resolved
  exact nomatch resolved

namespace CallTable

variable {β : Type} {t : CallTable β}

theorem receive_cases (id : CorrelationId) (message : Message) (t : CallTable β) :
    (t.receive id message).2 = t.countStale ∨ ∃ call count c, t.find? id = some call ∧
      (t.receive id message).2 = t.ending id call count c := by
  obtain ⟨count, s, -, takes⟩ := t.takes_receive id message
  cases found : t.find? id with
  | none => exact .inl (congrArg Prod.snd (takes.past found))
  | some call => exact .inr ⟨call, _, _, rfl, congrArg Prod.snd (takes.pending call found)⟩

theorem receive_frame (h : t.Coherent) (id : CorrelationId) (message : Message)
    {other : CorrelationId} (different : other ≠ id) :
    (t.receive id message).2.find? other = t.find? other ∧
      ∀ call, t.find? other = some call →
        (t.receive id message).2.channels[call.ticket]? = some .waiting ∧
          (t.receive id message).2.timers.live? call.timer = t.timers.live? call.timer := by
  rcases receive_cases id message t with stale | ⟨ended, count, c, found, table⟩
  · rw [stale]
    exact ⟨rfl, fun call found => ⟨h.waiting found, rfl⟩⟩
  · rw [table]
    refine ⟨(find?_ending h id ended count c other).trans (if_neg different), fun call pending => ?_⟩
    have ticket : call.ticket ≠ ended.ticket := fun same => different (h.sameTicket pending found same)
    have timer : call.timer ≠ ended.timer := fun same => different (h.sameTimer pending found same)
    rw [channels_ending _ _ _ _ (h.ticket_lt pending), if_neg ticket, live?_ending h, if_neg timer]
    exact ⟨h.waiting pending, rfl⟩

end CallTable

def InboundOutcome.invocation? {η : Type} : InboundOutcome η → Option Invocation
  | .dispatched v _ => some v
  | _ => none

def InboundOutcome.answer? {η : Type} (message : Message) : InboundOutcome η → Option Message
  | .unhandled => message.id?.map fun id => .errorReply id (.unhandled message.typeName)
  | _ => none

section decision

variable {η β : Type}

theorem Dispatcher.onReply_outcome (message : Message) (d : Dispatcher η β) :
    (d.onReply message).1 =
      match message.id? with
      | none => .discarded
      | some id => if d.table.isPending id then .resolved id else .stale id := by
  cases named : message.id? with
  | none => simp only [onReply, named]
  | some id =>
    rw [onReply_of_id named]
    simp only [receive_flag]
    split <;> rfl

def Site.invocation (now : Nanos) (sender : PeerName) (message : Message) (s : Site η β) :
    Invocation :=
  ⟨sender, s.dispatcher.name, message.typeName, message.payload, message.id?, now⟩

def Site.Repeats (sender : PeerName) (message : Message) (s : Site η β) : Prop :=
  ∃ id, message.id? = some id ∧ ⟨id, sender⟩ ∈ s.dispatcher.inFlight

inductive Site.Requested (now : Nanos) (sender : PeerName) (message : Message) (s : Site η β) :
    InboundOutcome η → Site η β → Prop
  | unhandled {s' : Site η β} (untaken : s.dispatcher.registry.resolve message.typeName = none)
    (network : s'.network =
      ((InboundOutcome.unhandled : InboundOutcome η).answer? message).elim s.network fun reply =>
        (s.network.send (.of s.dispatcher.name sender reply)).2) :
    Requested now sender message s .unhandled s'
  | discarded {ns : String} {handler : η} {s' : Site η β}
    (taken : s.dispatcher.registry.resolve message.typeName = some (ns, handler))
    (repeats : s.Repeats sender message) (network : s'.network = s.network) :
    Requested now sender message s .discarded s'
  | dispatched {ns : String} {handler : η} {s' : Site η β}
    (taken : s.dispatcher.registry.resolve message.typeName = some (ns, handler))
    (fresh : ¬ s.Repeats sender message) (network : s'.network = s.network) :
    Requested now sender message s (.dispatched (s.invocation now sender message) handler) s'

theorem Site.onRequest_requested (now : Nanos) (sender : PeerName) (message : Message)
    (s : Site η β) :
    s.Requested now sender message (s.onRequest now sender message).1
      (s.onRequest now sender message).2 := by
  unfold onRequest
  dsimp only
  split
  · rename_i untaken
    cases named : message.id? with
    | none =>
      refine .unhandled untaken ?_
      rw [InboundOutcome.answer?, named]
      rfl
    | some id =>
      dsimp only
      split <;> rename_i sent <;> rw [transmit_eq] at sent <;>
        have network := congrArg (·.2.network) sent <;> refine .unhandled untaken ?_ <;>
        rw [InboundOutcome.answer?, named] <;> exact network.symm
  · rename_i ns handler taken
    cases named : message.id? with
    | none =>
      have fresh : ¬ s.Repeats sender message := by simp [Repeats, named]
      have starts : s.invocation now sender message =
          ⟨sender, s.dispatcher.name, message.typeName, message.payload, none, now⟩ := by
        rw [invocation, named]
      exact starts ▸ .dispatched taken fresh rfl
    | some id =>
      have repeats : s.Repeats sender message ↔ s.dispatcher.isInFlight sender id = true := by
        simp [Repeats, named, Dispatcher.isInFlight_iff]
      have starts : s.invocation now sender message =
          ⟨sender, s.dispatcher.name, message.typeName, message.payload, some id, now⟩ := by
        rw [invocation, named]
      dsimp only
      split
      · rename_i open'
        exact .discarded taken (repeats.mpr open') rfl
      · rename_i past
        exact starts ▸ .dispatched taken (fun open' => past (repeats.mp open')) rfl

end decision

namespace DispatchMachine

variable {η β : Type} {m n : DispatchMachine η β}

/-- The decision on a message, by what the dispatcher holds when it comes. -/
structure Decided (m : DispatchMachine η β) (sender : PeerName) (message : Message)
    (outcome : InboundOutcome η) : Prop where
  resolved : ∀ id, outcome = .resolved id ↔ message.kind = .reply ∧ message.id? = some id ∧
    m.site.dispatcher.table.isPending id = true
  stale : ∀ id, outcome = .stale id ↔ message.kind = .reply ∧ message.id? = some id ∧
    m.site.dispatcher.table.isPending id = false
  discarded : outcome = .discarded ↔ message.kind = .reply ∧ message.id? = none ∨
    message.kind = .request ∧ m.site.dispatcher.registry.Handles message.typeName ∧
      m.site.Repeats sender message
  unhandled : outcome = .unhandled ↔
    message.kind = .request ∧ ¬ m.site.dispatcher.registry.Handles message.typeName
  dispatched : ∀ v handler, outcome = .dispatched v handler ↔ message.kind = .request ∧
    (∃ ns, m.site.dispatcher.registry.Routes message.typeName ns handler) ∧
      ¬ m.site.Repeats sender message ∧ v = m.site.invocation m.now sender message

theorem decided_reply (sender : PeerName) {message : Message} (kind : message.kind = .reply) :
    m.Decided sender message (m.site.dispatcher.onReply message).1 := by
  rw [Dispatcher.onReply_outcome]
  cases named : message.id? with
  | none => constructor <;> simp [kind, named]
  | some id =>
    cases pending : m.site.dispatcher.table.isPending id with
    | true => constructor <;> simp [kind, named, pending]
    | false => constructor <;> simp [kind, named, pending]

theorem decided_request {sender : PeerName} {message : Message} (kind : message.kind = .request)
    {outcome : InboundOutcome η} {site : Site η β}
    (requested : m.site.Requested m.now sender message outcome site) :
    m.Decided sender message outcome := by
  cases requested with
  | unhandled untaken =>
    have unhandled := Registry.resolve_eq_none_iff_not_handles.mp untaken
    have unrouted (ns : String) (handler : η) :
        ¬ m.site.dispatcher.registry.Routes message.typeName ns handler := fun routes => by
      rw [Registry.resolve_eq_some_iff.mpr routes] at untaken
      exact nomatch untaken
    constructor <;> simp [kind, unhandled, unrouted]
  | discarded taken repeats =>
    have handled := Registry.handles_of_resolve taken
    constructor <;> simp [kind, handled, repeats]
  | @dispatched ns handler _ taken fresh =>
    have handled := Registry.handles_of_resolve taken
    have routes := Registry.resolve_eq_some_iff.mp taken
    have sole (other : η) :
        (∃ ns, m.site.dispatcher.registry.Routes message.typeName ns other) ↔ handler = other :=
      ⟨fun ⟨_, routes'⟩ => (routes.unique routes').2, fun same => ⟨ns, same ▸ routes⟩⟩
    refine ⟨by simp [kind], by simp [kind], by simp [kind, fresh], by simp [kind, handled],
      fun v other => ?_⟩
    rw [InboundOutcome.dispatched.injEq, sole]
    exact ⟨fun ⟨own, same⟩ => ⟨kind, same, fresh, own.symm⟩, fun ⟨_, same, _, own⟩ => ⟨own.symm, same⟩⟩

/-- All that a reply may change: the call of its id. -/
structure ReplyFrame (m n : DispatchMachine η β) (id? : Option CorrelationId) : Prop where
  started : n.started = m.started
  running : n.running = m.running
  sends : n.sends = m.sends
  network : n.site.network = m.site.network
  inFlight : n.inFlight = m.inFlight
  calls : ∀ id, id? ≠ some id → n.site.dispatcher.table.find? id = m.site.dispatcher.table.find? id
  undisturbed : ∀ id call, id? ≠ some id → m.site.dispatcher.table.find? id = some call →
    n.site.dispatcher.table.channels[call.ticket]? = some .waiting ∧
      n.site.dispatcher.table.timers.live? call.timer =
        m.site.dispatcher.table.timers.live? call.timer

/-- All that a request may change: the handlers and, if none takes it, the network. -/
structure RequestFrame (m n : DispatchMachine η β) (sender : PeerName) (message : Message)
    (outcome : InboundOutcome η) : Prop where
  table : n.site.dispatcher.table = m.site.dispatcher.table
  started : n.started.toList = m.started.toList ++ outcome.invocation?.toList
  running : n.running = outcome.invocation?.toList.map (fun _ => m.started.size) ++ m.running
  sends : n.sends = m.sends ++ (outcome.answer? message).toList.map (m.site.sending sender)
  network : n.site.network = (outcome.answer? message).elim m.site.network fun reply =>
    (m.site.network.send (.of m.site.dispatcher.name sender reply)).2

theorem reply_frame (h : m.bare.Coherent) (message : Message) :
    m.ReplyFrame { m with site := (m.site.lift (·.onReply message)).2 } message.id? := by
  have same := Dispatcher.onReply_sameTraffic message m.site.dispatcher
  cases named : message.id? with
  | none =>
    simp only [Site.lift, Dispatcher.onReply, named]
    exact ⟨rfl, rfl, rfl, rfl, rfl, fun _ _ => rfl, fun _ _ _ found => ⟨h.table.waiting found, rfl⟩⟩
  | some id =>
    have table : (m.site.dispatcher.onReply message).2.table =
        (m.site.dispatcher.table.receive id message).2 := by
      rw [Dispatcher.onReply_of_id named]
      dsimp only
      split <;> rfl
    have kept (other : CorrelationId) (different : some id ≠ some other) :=
      receive_frame h.table id message fun eq : other = id => different (congrArg some eq.symm)
    refine ⟨rfl, rfl, same.sends, rfl, same.inFlight, fun other different => ?_,
      fun other call different found => ?_⟩
    · simp only [Site.lift, table]
      exact (kept other different).1
    · simp only [Site.lift, table]
      exact (kept other different).2 call found

theorem request_frame (sender : PeerName) (message : Message) :
    m.RequestFrame ({ m with site := (m.site.onRequest m.now sender message).2 }.start
      (m.site.onRequest m.now sender message).1) sender message
      (m.site.onRequest m.now sender message).1 := by
  have routed := Site.onRequest_routed m.now sender message m.site
  have requested := Site.onRequest_requested m.now sender message m.site
  have table := (Site.onRequest_alike m.now sender message m.site).table
  generalize m.site.onRequest m.now sender message = result at routed requested table ⊢
  obtain ⟨outcome, site⟩ := result
  cases requested with
  | unhandled untaken network =>
    cases routed with
    | unhandled _ sends =>
      have answers : (InboundOutcome.unhandled : InboundOutcome η).answer? message =
          message.id?.map fun id => .errorReply id (.unhandled message.typeName) := rfl
      refine ⟨table, (List.append_nil _).symm, rfl, sends.trans ?_, network⟩
      rw [answers, Option.toList_map, List.map_map]
      rfl
  | discarded taken repeats network =>
    cases routed with
    | discarded same =>
      exact ⟨table, (List.append_nil _).symm, rfl, same.sends.trans (List.append_nil _).symm, network⟩
  | dispatched taken fresh network =>
    cases routed with
    | dispatched _ _ _ _ sends =>
      exact ⟨table, Array.toList_push, rfl, sends.trans (List.append_nil _).symm, network⟩

theorem operate_reply (sender : PeerName) {message : Message} (kind : message.kind = .reply) :
    m.operate (.inbound sender message) = (.routed (m.site.dispatcher.onReply message).1,
      { m with site := (m.site.lift (·.onReply message)).2 }) := by
  simp only [operate, Site.onInbound, kind, Site.lift,
    start_of_not_dispatched (onReply_not_dispatched message m.site.dispatcher)]

theorem operate_request (sender : PeerName) {message : Message} (kind : message.kind = .request) :
    m.operate (.inbound sender message) = (.routed (m.site.onRequest m.now sender message).1,
      { m with site := (m.site.onRequest m.now sender message).2 }.start
        (m.site.onRequest m.now sender message).1) := by
  simp only [operate, Site.onInbound, kind]

/-- In every state that a dispatcher can be brought to, a message is routed by its kind, its id and what
the dispatcher holds. A reply then changes nothing but the call of its id; a request starts its
handler if it is dispatched and is answered if no handler takes it, and changes no call and no timer. -/
theorem inbound_decided (name : PeerName) (registry : Registry η) (defaultTimeout : Nanos)
    (network : Network) (as : List (HolderAct β)) (sender : PeerName) (message : Message) :
    let m : DispatchMachine η β := (fresh name registry defaultTimeout network).acts as
    m.site.dispatcher.registry = registry ∧ m.site.dispatcher.name = name ∧
      ∃ outcome n, m.operate (.inbound sender message) = (.routed outcome, n) ∧
        m.Decided sender message outcome ∧
          match message.kind with
          | .reply => m.ReplyFrame n message.id?
          | .request => m.RequestFrame n sender message outcome := by
  intro m
  have h : m.bare.Coherent := acts_coherent (bare_fresh name registry defaultTimeout network) as
  have made : m.made = (name, registry, defaultTimeout) := made_acts _ as
  refine ⟨congrArg (·.2.1) made, congrArg (·.1) made, ?_⟩
  cases kind : message.kind with
  | reply =>
    exact ⟨_, _, operate_reply sender kind, decided_reply sender kind, reply_frame h message⟩
  | request =>
    have requested := Site.onRequest_requested m.now sender message m.site
    exact ⟨_, _, operate_request sender kind, decided_request kind requested,
      request_frame sender message⟩

end DispatchMachine

end MessageRelay
