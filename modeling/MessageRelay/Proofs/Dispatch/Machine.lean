import MessageRelay.Dispatch.Machine
import MessageRelay.Proofs.Dispatch.Traffic
import Mathlib.Data.List.Nodup

/-!
One move of a dispatch machine, told by its effect on requests in flight and on what is sent:
`Traffic` lists all that a move may do. A request is in flight because a handler was started for it,
the last one of its key, and this handler has not ended.
-/
namespace MessageRelay.DispatchMachine

variable {η β : Type} {m n : DispatchMachine η β}

def run (m : DispatchMachine η β) (moves : List (DispatchMove β)) : DispatchMachine η β :=
  moves.foldl (fun m move => (m.step move).2) m

theorem run_cons (m : DispatchMachine η β) (move : DispatchMove β) (moves : List (DispatchMove β)) :
    m.run (move :: moves) = (m.step move).2.run moves := rfl

theorem run_append (m : DispatchMachine η β) (first second : List (DispatchMove β)) :
    m.run (first ++ second) = (m.run first).run second := List.foldl_append

/-- Code is running that may use the dispatcher, not a pass between two timers. -/
def InCode (m : DispatchMachine η β) : Prop := ∀ now count below, m.stack ≠ .pass now count :: below

theorem step_inCode (code : m.InCode) {move : DispatchMove β} (other : move ≠ .leave) :
    m.step move = m.operate move := by
  unfold step
  split
  · rename_i stack
    exact absurd stack (code _ _ _)
  · rename_i stack _
    exact absurd stack (code _ _ _)
  · exact absurd rfl other
  · rfl

theorem inCode_of_nil (empty : m.stack = []) : m.InCode := fun now count below pass => by
  rw [empty] at pass
  cases pass

def inFlight (m : DispatchMachine η β) : List RequestKey := m.site.dispatcher.inFlight

def sends (m : DispatchMachine η β) : List Sending := m.site.dispatcher.sends

def about? (m : DispatchMachine η β) : DispatchMove β → Option RequestKey
  | .inbound sender message =>
    if message.kind = .request then message.id?.map fun id => ⟨id, sender⟩ else none
  | .reply number _ => (m.running? number).bind Invocation.key?
  | .conclude number _ => (m.running? number).bind Invocation.key?
  | .sendReply recipient id _ => some ⟨id, recipient⟩
  | _ => none

/-- All that a move may do to requests, to what is sent, and to handlers. -/
inductive Traffic (m : DispatchMachine η β) :
    DispatchMove β → DispatchAnswer η → DispatchMachine η β → Prop
  | asked {move : DispatchMove β} {answer : DispatchAnswer η} {n : DispatchMachine η β}
    (asks : m.site.OnlyAsks n.site) (started : n.started = m.started)
    (running : n.running = m.running) (untold : answer ≠ .replied (.ok true)) :
    Traffic m move answer n
  | unhandled {sender : PeerName} {message : Message} {n : DispatchMachine η β}
    (kind : message.kind = .request) (inFlight : n.inFlight = m.inFlight)
    (sends : n.sends = m.sends ++ message.id?.toList.map fun id =>
      m.site.sending sender (.errorReply id (.unhandled message.typeName)))
    (started : n.started = m.started) (running : n.running = m.running) :
    Traffic m (.inbound sender message) (.routed .unhandled) n
  | dispatched {sender : PeerName} {message : Message} {v : Invocation} {handler : η}
    {n : DispatchMachine η β} (kind : message.kind = .request) (origin : v.sender = sender)
    (named : v.id? = message.id?) (fresh : ∀ key, v.key? = some key → key ∉ m.inFlight)
    (inFlight : n.inFlight = v.key?.toList ++ m.inFlight) (sends : n.sends = m.sends)
    (started : n.started = m.started.push v) (running : n.running = m.started.size :: m.running) :
    Traffic m (.inbound sender message) (.routed (.dispatched v handler)) n
  | answered {move : DispatchMove β} {key : RequestKey} {r : Reply} {n : DispatchMachine η β}
    (about : m.about? move = some key) (open' : key ∈ m.inFlight)
    (inFlight : n.inFlight = m.inFlight.erase key)
    (sends : n.sends =
      m.sends ++ [m.site.sending key.sender (.reply key.id r.typeName r.payload)])
    (started : n.started = m.started) (running : n.running = m.running) :
    Traffic m move (.replied (m.site.told true key.sender)) n
  | concluded {number : Nat} {v : Invocation} {o : Outcome} {n : DispatchMachine η β}
    (runs : m.running? number = some v) (inFlight : n.inFlight = m.site.remaining v)
    (sends : n.sends = m.sends ++ m.site.conclusion v o) (started : n.started = m.started)
    (running : n.running = m.running.erase number) : Traffic m (.conclude number o) .done n

theorem quiet_traffic {move : DispatchMove β} {answer : DispatchAnswer η}
    (same : m.site.dispatcher.SameTraffic n.site.dispatcher) (started : n.started = m.started)
    (running : n.running = m.running) (untold : answer ≠ .replied (.ok true)) :
    Traffic m move answer n :=
  .asked (Site.onlyAsks_of_same same) started running untold

theorem refused_traffic (m : DispatchMachine η β) (move : DispatchMove β) :
    Traffic m move .refused m := quiet_traffic (.refl _) rfl rfl (by simp)

theorem start_of_not_dispatched {outcome : InboundOutcome η}
    (other : ∀ v handler, outcome ≠ .dispatched v handler) : m.start outcome = m := by
  cases outcome with
  | dispatched v handler => exact absurd rfl (other v handler)
  | resolved id => rfl
  | stale id => rfl
  | unhandled => rfl
  | discarded => rfl

theorem onReply_not_dispatched (message : Message) (d : Dispatcher η β) (v : Invocation)
    (handler : η) : (d.onReply message).1 ≠ .dispatched v handler := by
  cases named : message.id? with
  | none => simp [Dispatcher.onReply, named]
  | some id =>
    rw [Dispatcher.onReply_of_id named]
    dsimp only
    split <;> simp

theorem inbound_traffic (m : DispatchMachine η β) (sender : PeerName) (message : Message) :
    Traffic m (.inbound sender message) (m.operate (.inbound sender message)).1
      (m.operate (.inbound sender message)).2 := by
  cases kind : message.kind with
  | reply =>
    have same := Dispatcher.onReply_sameTraffic message m.site.dispatcher
    simp only [operate, Site.onInbound, kind, Site.lift,
      start_of_not_dispatched (onReply_not_dispatched message m.site.dispatcher)]
    exact quiet_traffic same rfl rfl (by simp)
  | request =>
    have routed := Site.onRequest_routed m.now sender message m.site
    simp only [operate, Site.onInbound, kind]
    generalize m.site.onRequest m.now sender message = result at routed ⊢
    obtain ⟨outcome, site⟩ := result
    cases routed with
    | dispatched origin named fresh inFlight sends =>
      exact .dispatched kind origin named fresh inFlight sends rfl rfl
    | unhandled inFlight sends => exact .unhandled kind inFlight sends rfl rfl
    | discarded same => exact quiet_traffic same rfl rfl (by simp)

theorem answer_traffic {move : DispatchMove β} (key : RequestKey) (r : Reply)
    (about : m.about? move = some key) :
    Traffic m move (m.withSite (·.sendReply key.sender key.id r) .replied).1
      (m.withSite (·.sendReply key.sender key.id r) .replied).2 := by
  simp only [withSite, Site.sendReply]
  by_cases open' : key ∈ m.inFlight
  · obtain ⟨told, inFlight, sends⟩ :=
      Site.answer_of_inFlight (.reply key.id r.typeName r.payload) open'
    rw [told]
    exact .answered about open' inFlight sends rfl rfl
  · rw [Site.answer_of_not_inFlight _ open']
    exact quiet_traffic (.refl _) rfl rfl (by simp)

theorem reply_traffic (m : DispatchMachine η β) (number : Nat) (r : Reply) :
    Traffic m (.reply number r) (m.operate (.reply number r)).1
      (m.operate (.reply number r)).2 := by
  simp only [operate]
  cases runs : m.running? number with
  | none => exact refused_traffic m _
  | some v =>
    simp only [Site.replyEarly]
    cases named : v.id? with
    | none => exact quiet_traffic (.refl _) rfl rfl (by simp [withSite])
    | some id =>
      apply answer_traffic ⟨id, v.sender⟩ r
      simp only [about?, runs, Option.bind_some, Invocation.key?, named, Option.map_some]

theorem conclude_traffic (m : DispatchMachine η β) (number : Nat) (o : Outcome) :
    Traffic m (.conclude number o) (m.operate (.conclude number o)).1
      (m.operate (.conclude number o)).2 := by
  simp only [operate]
  cases runs : m.running? number with
  | none => exact refused_traffic m _
  | some v =>
    exact .concluded runs (Site.inFlight_conclude _ v o m.site) (Site.sends_conclude _ v o m.site)
      rfl rfl

theorem operate_traffic (m : DispatchMachine η β) (move : DispatchMove β) :
    Traffic m move (m.operate move).1 (m.operate move).2 := by
  cases move with
  | inbound sender message => exact inbound_traffic m sender message
  | reply number r => exact reply_traffic m number r
  | conclude number o => exact conclude_traffic m number o
  | sendReply recipient id r => exact answer_traffic ⟨id, recipient⟩ r rfl
  | request id target typeName payload timeout =>
    have asks := Site.sendRequest_onlyAsks m.now id target typeName payload timeout m.site
    simp only [operate]
    split
    · rename_i sent
      rw [sent] at asks
      exact .asked asks rfl rfl (by simp)
    · rename_i sent
      rw [sent] at asks
      exact .asked asks rfl rfl (by simp)
  | notify target typeName payload =>
    have asks := Site.notify_onlyAsks target typeName payload m.site
    exact .asked asks rfl rfl (by simp [operate, withSite])
  | poll ticket =>
    simp only [operate]
    split
    · exact refused_traffic m _
    · split
      · exact refused_traffic m _
      · exact quiet_traffic (.refl _) rfl rfl (by simp)
  | drop ticket =>
    simp only [operate]
    split
    · exact refused_traffic m _
    · exact quiet_traffic ((Dispatcher.SameTraffic.refl _).table _) rfl rfl (by simp)
  | after delay payload =>
    have same := Dispatcher.SameTraffic.refl m.site.dispatcher
    exact quiet_traffic (same.table _) rfl rfl (by simp [operate, withSite])
  | cancelTimer id =>
    have same := Dispatcher.SameTraffic.refl m.site.dispatcher
    exact quiet_traffic (same.table _) rfl rfl (by simp [operate, withSite])
  | shutdown =>
    exact quiet_traffic (Dispatcher.shutdown_sameTraffic _) rfl rfl (by simp [operate, withSite])
  | elapse duration => exact quiet_traffic (.refl _) rfl rfl (by simp [operate])
  | network network => exact quiet_traffic (.refl _) rfl rfl (by simp [operate])
  | enter now => exact quiet_traffic (.refl _) rfl rfl (by simp [operate])
  | advance => exact refused_traffic m _
  | leave => exact refused_traffic m _

theorem advance_traffic (now : Nanos) (count : Nat) (below : List (DispatchFrame β))
    (m : DispatchMachine η β) :
    Traffic m .advance (m.advance now count below).1 (m.advance now count below).2 := by
  have same := Dispatcher.fireNext_sameTraffic now m.site.dispatcher
  simp only [advance, Site.lift]
  generalize m.site.dispatcher.fireNext now = result at same ⊢
  obtain ⟨fired, d⟩ := result
  cases fired with
  | nothing => exact quiet_traffic (same.table _) rfl rfl (by simp)
  | expiry => exact quiet_traffic same rfl rfl (by simp)
  | payload b => exact quiet_traffic same rfl rfl (by simp)

theorem step_traffic (m : DispatchMachine η β) (move : DispatchMove β) :
    Traffic m move (m.step move).1 (m.step move).2 := by
  unfold step
  split
  · exact advance_traffic _ _ _ m
  · exact refused_traffic m _
  · exact quiet_traffic (.refl _) rfl rfl (by simp)
  · exact operate_traffic m _

/-- The request is in flight since this handler was started for it. -/
structure Opened (m : DispatchMachine η β) (number : Nat) (key : RequestKey) : Prop where
  inFlight : key ∈ m.inFlight
  started : ∃ v, m.started[number]? = some v ∧ v.key? = some key
  last : ∀ later v, number < later → m.started[later]? = some v → v.key? ≠ some key

namespace Opened

variable {number other : Nat} {key : RequestKey}

theorem not_lt (h : m.Opened number key) (h' : m.Opened other key) : ¬ number < other := by
  intro lt
  obtain ⟨v, started, named⟩ := h'.started
  exact h.last other v lt started named

theorem unique (h : m.Opened number key) (h' : m.Opened other key) : number = other := by
  have le := h.not_lt h'
  have ge := h'.not_lt h
  omega

theorem of_started (h : m.Opened number key) (started : n.started = m.started)
    (still : key ∈ n.inFlight) : n.Opened number key :=
  ⟨still, started ▸ h.started, started ▸ h.last⟩

theorem push (h : m.Opened number key) {v : Invocation} (started : n.started = m.started.push v)
    (other : v.key? ≠ some key) (still : key ∈ n.inFlight) : n.Opened number key := by
  obtain ⟨w, found, named⟩ := h.started
  refine ⟨still, ⟨w, ?_, named⟩, fun later u lt after => ?_⟩
  · have below : number < m.started.size := (Array.getElem?_eq_some_iff.mp found).1
    rw [started, Array.getElem?_push, if_neg (Nat.ne_of_lt below), found]
  · rw [started, Array.getElem?_push] at after
    split at after
    · cases after
      exact other
    · exact h.last later u lt after

theorem of_push {v : Invocation} (h : n.Opened number key) (started : n.started = m.started.push v)
    (below : number < m.started.size) (before : v.key? ≠ some key → key ∈ m.inFlight) :
    m.Opened number key := by
  have old (k : Nat) (lt : k < m.started.size) : n.started[k]? = m.started[k]? := by
    rw [started, Array.getElem?_push, if_neg (Nat.ne_of_lt lt)]
  refine ⟨before ?_, (old number below) ▸ h.started, fun later u lt after => ?_⟩
  · refine h.last m.started.size v below ?_
    rw [started, Array.getElem?_push, if_pos rfl]
  · have within : later < m.started.size := (Array.getElem?_eq_some_iff.mp after).1
    exact h.last later u lt ((old later within).trans after)

end Opened

theorem Traffic.size_le {move : DispatchMove β} {answer : DispatchAnswer η}
    (traffic : m.Traffic move answer n) : m.started.size ≤ n.started.size := by
  cases traffic with
  | asked _ started | unhandled _ _ _ started | answered _ _ _ _ started
  | concluded _ _ _ started =>
    exact Nat.le_of_eq (congrArg Array.size started.symm)
  | dispatched _ _ _ _ _ _ started =>
    rw [started, Array.size_push]
    exact Nat.le_succ _

theorem mem_remaining {s : Site η β} {v : Invocation} {key : RequestKey}
    (nodup : s.dispatcher.inFlight.Nodup) :
    key ∈ s.remaining v ↔ key ∈ s.dispatcher.inFlight ∧ v.key? ≠ some key := by
  unfold Site.remaining
  cases named : v.key? with
  | none => simp
  | some own =>
    rw [nodup.mem_erase_iff]
    constructor
    · rintro ⟨other, member⟩
      exact ⟨member, fun same => other (Option.some.inj same).symm⟩
    · rintro ⟨member, other⟩
      exact ⟨fun same => other (congrArg some same.symm), member⟩

theorem not_mem_remaining {s : Site η β} {v : Invocation} {key : RequestKey}
    (nodup : s.dispatcher.inFlight.Nodup) (own : v.key? = some key) : key ∉ s.remaining v :=
  fun still => ((mem_remaining nodup).mp still).2 own

theorem Traffic.opened_before {move : DispatchMove β} {answer : DispatchAnswer η}
    (traffic : m.Traffic move answer n) {number : Nat} {key : RequestKey}
    (below : number < m.started.size) (h : n.Opened number key) : m.Opened number key := by
  have open' := h.inFlight
  cases traffic with
  | asked asks started =>
    have same : n.inFlight = m.inFlight := asks.1
    exact h.of_started started.symm (same ▸ open')
  | unhandled _ inFlight _ started => exact h.of_started started.symm (inFlight ▸ open')
  | dispatched _ _ _ _ inFlight _ started =>
    refine h.of_push started below fun other => ?_
    rw [inFlight, List.mem_append, Option.mem_toList] at open'
    exact open'.resolve_left other
  | answered _ _ inFlight _ started =>
    exact h.of_started started.symm (List.mem_of_mem_erase (inFlight ▸ open'))
  | concluded _ inFlight _ started =>
    refine h.of_started started.symm ?_
    rw [inFlight] at open'
    unfold Site.remaining at open'
    split at open'
    · exact open'
    · exact List.mem_of_mem_erase open'

/-- What always holds of requests and handlers. -/
structure Coherent (m : DispatchMachine η β) : Prop where
  nodup : m.inFlight.Nodup
  opened : ∀ key ∈ m.inFlight, ∃ number ∈ m.running, m.Opened number key
  below : ∀ number ∈ m.running, number < m.started.size

theorem Coherent.fresh (name : PeerName) (registry : Registry η) (defaultTimeout : Nanos)
    (network : Network) :
    (fresh name registry defaultTimeout network : DispatchMachine η β).Coherent :=
  ⟨List.nodup_nil, fun _ none => absurd none List.not_mem_nil,
    fun _ none => absurd none List.not_mem_nil⟩

theorem Coherent.shrink (h : m.Coherent) (sublist : n.inFlight.Sublist m.inFlight)
    (started : n.started = m.started) (running : n.running = m.running) : n.Coherent := by
  refine ⟨h.nodup.sublist sublist, fun key open' => ?_, ?_⟩
  · obtain ⟨number, runs, opened⟩ := h.opened key (sublist.subset open')
    exact ⟨number, running ▸ runs, opened.of_started started open'⟩
  · rw [running, started]
    exact h.below

theorem running?_eq_some {number : Nat} {v : Invocation} :
    m.running? number = some v ↔ number ∈ m.running ∧ m.started[number]? = some v := by
  unfold running?
  split
  · rename_i runs
    exact ⟨fun found => ⟨runs, found⟩, fun found => found.2⟩
  · rename_i past
    exact ⟨fun found => (Option.some_ne_none v found.symm).elim, fun found => absurd found.1 past⟩

theorem Coherent.dispatched (h : m.Coherent) {v : Invocation}
    (fresh : ∀ key, v.key? = some key → key ∉ m.inFlight)
    (inFlight : n.inFlight = v.key?.toList ++ m.inFlight) (started : n.started = m.started.push v)
    (running : n.running = m.started.size :: m.running) : n.Coherent := by
  refine ⟨?_, fun key open' => ?_, fun number runs => ?_⟩
  · rw [inFlight]
    cases named : v.key? with
    | none => exact h.nodup
    | some own => exact List.nodup_cons.mpr ⟨fresh own named, h.nodup⟩
  -- A request of the new key is opened by the new handler, all others by those before it.
  · by_cases own : v.key? = some key
    · refine ⟨m.started.size, running ▸ List.mem_cons_self, open', ⟨v, ?_, own⟩, ?_⟩
      · rw [started, Array.getElem?_push, if_pos rfl]
      · intro later w lt found
        have within := (Array.getElem?_eq_some_iff.mp found).1
        rw [started, Array.size_push] at within
        omega
    · have before : key ∈ m.inFlight := by
        rw [inFlight, List.mem_append, Option.mem_toList] at open'
        exact open'.resolve_left own
      obtain ⟨number, runs, opened⟩ := h.opened key before
      exact ⟨number, running ▸ List.mem_cons_of_mem _ runs, opened.push started own open'⟩
  · rw [started, Array.size_push]
    rw [running] at runs
    cases runs with
    | head => exact Nat.lt_succ_self _
    | tail _ runs => exact Nat.lt_succ_of_lt (h.below number runs)

theorem Coherent.concluded (h : m.Coherent) {number : Nat} {v : Invocation}
    (runs : m.running? number = some v) (inFlight : n.inFlight = m.site.remaining v)
    (started : n.started = m.started) (running : n.running = m.running.erase number) :
    n.Coherent := by
  have remains {key : RequestKey} : key ∈ n.inFlight ↔ key ∈ m.inFlight ∧ v.key? ≠ some key :=
    inFlight ▸ mem_remaining h.nodup
  refine ⟨?_, fun key open' => ?_, fun other runs => ?_⟩
  · rw [inFlight]
    unfold Site.remaining
    split
    · exact h.nodup
    · exact h.nodup.erase _
  · obtain ⟨before, foreign⟩ := remains.mp open'
    obtain ⟨other, going, opened⟩ := h.opened key before
    -- The handler that ended was not started for this request.
    have different : other ≠ number := fun same => by
      obtain ⟨w, found, named⟩ := opened.started
      rw [same, (running?_eq_some.mp runs).2] at found
      cases found
      exact foreign named
    exact ⟨other, running ▸ (List.mem_erase_of_ne different).mpr going,
      opened.of_started started open'⟩
  · rw [started]
    exact h.below other (List.mem_of_mem_erase (running ▸ runs))

theorem Coherent.traffic (h : m.Coherent) {move : DispatchMove β} {answer : DispatchAnswer η}
    (traffic : m.Traffic move answer n) : n.Coherent := by
  cases traffic with
  | asked asks started running =>
    have same : n.inFlight = m.inFlight := asks.1
    exact h.shrink (same ▸ List.Sublist.refl _) started running
  | unhandled _ inFlight _ started running =>
    exact h.shrink (inFlight ▸ List.Sublist.refl _) started running
  | dispatched _ _ _ fresh inFlight _ started running =>
    exact h.dispatched fresh inFlight started running
  | answered _ _ inFlight _ started running =>
    exact h.shrink (inFlight ▸ List.erase_sublist) started running
  | concluded runs inFlight _ started running => exact h.concluded runs inFlight started running

theorem Coherent.step (h : m.Coherent) (move : DispatchMove β) : (m.step move).2.Coherent :=
  h.traffic (step_traffic m move)

theorem Coherent.run (h : m.Coherent) (moves : List (DispatchMove β)) : (m.run moves).Coherent := by
  induction moves generalizing m with
  | nil => exact h
  | cons move moves ih => exact ih (h.step move)

end MessageRelay.DispatchMachine
