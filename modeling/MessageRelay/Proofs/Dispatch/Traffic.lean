import MessageRelay.Dispatch.Dispatcher
import Mathlib.Data.List.Basic

/-!
What the operations of a dispatcher do to the requests in flight, and what they send. Nothing else
decides who is answered: an answer takes its request out of flight and is sent once, and all other
operations leave the requests in flight as they are, except for a request that a handler takes.
-/
namespace MessageRelay

def Invocation.key? (v : Invocation) : Option RequestKey := v.id?.map fun id => ⟨id, v.sender⟩

/-- What was handed to the network, and why it was refused, if it was. -/
abbrev Sending := Envelope × Option TransportError

def Deed.sending? : Deed → Option Sending
  | .reported _ => none
  | .sent e refused? => some (e, refused?)

def Outcome.message? (id : CorrelationId) (o : Outcome) : Option Message :=
  match o with
  | .reply r => some (.reply id r.typeName r.payload)
  | _ => o.remoteError?.map (.errorReply id)

def CallTable.receive {β : Type} (id : CorrelationId) (m : Message) (t : CallTable β) :
    Bool × CallTable β :=
  match m.remoteError? with
  | some (.ok e) => t.fail id (.ofRemote id e)
  | some (.error e) => t.fail id (.malformedReply e.message)
  | none => t.resolve id ⟨m.typeName, m.payload⟩

namespace Dispatcher

variable {η β : Type} {d : Dispatcher η β}

theorem onReply_of_id {m : Message} {id : CorrelationId} (named : m.id? = some id) :
    d.onReply m =
      let d' := { d with table := (d.table.receive id m).2 }
      if (d.table.receive id m).1 then
        (.resolved id,
          ((d'.count fun c => { c with responsesMatched := c.responsesMatched + 1 }).report
            .responseMatched).reportPending)
      else
        (.stale id,
          (d'.count fun c => { c with staleResponses := c.staleResponses + 1 }).report
            .staleResponse) := by
  simp only [onReply, named]
  rfl

def sends (d : Dispatcher η β) : List Sending := d.journal.toList.filterMap Deed.sending?

theorem sends_record (deed : Deed) (d : Dispatcher η β) :
    (d.record deed).sends = d.sends ++ deed.sending?.toList := by
  simp only [sends, record, Array.toList_push, List.filterMap_append]
  cases deed <;> rfl

@[simp] theorem sends_report (event : MetricEvent) (d : Dispatcher η β) :
    (d.report event).sends = d.sends := by
  simp [report, sends_record, Deed.sending?]

theorem isInFlight_iff {sender : PeerName} {id : CorrelationId} :
    d.isInFlight sender id = true ↔ ⟨id, sender⟩ ∈ d.inFlight := by
  simp [isInFlight]

theorem isInFlight_eq_false_iff {sender : PeerName} {id : CorrelationId} :
    d.isInFlight sender id = false ↔ ⟨id, sender⟩ ∉ d.inFlight := by
  simp [isInFlight]

structure SameTraffic (d d' : Dispatcher η β) : Prop where
  inFlight : d'.inFlight = d.inFlight
  sends : d'.sends = d.sends

namespace SameTraffic

variable {d' : Dispatcher η β}

theorem refl (d : Dispatcher η β) : d.SameTraffic d := ⟨rfl, rfl⟩

theorem table (h : d.SameTraffic d') (t : CallTable β) : d.SameTraffic { d' with table := t } :=
  ⟨h.inFlight, h.sends⟩

theorem report (h : d.SameTraffic d') (event : MetricEvent) : d.SameTraffic (d'.report event) :=
  ⟨h.inFlight, (sends_report event d').trans h.sends⟩

theorem count (h : d.SameTraffic d') (f : DispatchCounters → DispatchCounters) :
    d.SameTraffic (d'.count f) := ⟨h.inFlight, h.sends⟩

end SameTraffic

theorem onReply_sameTraffic (m : Message) (d : Dispatcher η β) : d.SameTraffic (d.onReply m).2 := by
  cases named : m.id? with
  | none =>
    simp only [onReply, named]
    exact .refl d
  | some id =>
    rw [onReply_of_id named]
    split
    · exact ((((SameTraffic.refl d).table _).count _).report _).report _
    · exact (((SameTraffic.refl d).table _).count _).report _

theorem fireNext_sameTraffic (now : Nanos) (d : Dispatcher η β) :
    d.SameTraffic (d.fireNext now).2 := by
  unfold fireNext
  split
  · exact (SameTraffic.refl d).table _
  · dsimp only
    split
    · exact (SameTraffic.refl d).table _
    · exact ((SameTraffic.refl d).table _).report _
  · dsimp only
    split
    · exact ((SameTraffic.refl d).table _).report _
    · exact (SameTraffic.refl d).table _

theorem shutdown_sameTraffic (d : Dispatcher η β) : d.SameTraffic d.shutdown.2 :=
  ((SameTraffic.refl d).table _).report _

end Dispatcher

namespace Site

open Dispatcher

variable {η β : Type} {s : Site η β}

def sending (recipient : PeerName) (m : Message) (s : Site η β) : Sending :=
  (.of s.dispatcher.name recipient m, s.network.refusal? recipient)

def told {α : Type} (a : α) (recipient : PeerName) (s : Site η β) : Except CallError α :=
  match s.network.refusal? recipient with
  | none => .ok a
  | some e => .error (.transport e)

theorem transmit_eq (recipient : PeerName) (m : Message) (s : Site η β) :
    s.transmit recipient m =
      (s.told () recipient,
        ⟨s.dispatcher.record (.sent (s.sending recipient m).1 (s.sending recipient m).2),
          (s.network.send (.of s.dispatcher.name recipient m)).2⟩) := by
  have addressee : (Envelope.of s.dispatcher.name recipient m).recipient = recipient := rfl
  cases refusal : s.network.refusal? recipient with
  | none => simp only [transmit, Network.send, addressee, refusal, told, sending]
  | some e => simp only [transmit, Network.send, addressee, refusal, told, sending]

@[simp] theorem inFlight_transmit (recipient : PeerName) (m : Message) (s : Site η β) :
    (s.transmit recipient m).2.dispatcher.inFlight = s.dispatcher.inFlight := by
  rw [transmit_eq]
  rfl

theorem sends_transmit (recipient : PeerName) (m : Message) (s : Site η β) :
    (s.transmit recipient m).2.dispatcher.sends =
      s.dispatcher.sends ++ [s.sending recipient m] := by
  rw [transmit_eq, sends_record]
  rfl

@[simp] theorem sends_replied (typeName : String) (s : Site η β) :
    (s.replied typeName).dispatcher.sends = s.dispatcher.sends := sends_report _ _

section answers

variable {recipient : PeerName} {id : CorrelationId}

theorem answer_of_not_inFlight (m : Message) (past : ⟨id, recipient⟩ ∉ s.dispatcher.inFlight) :
    s.answer recipient id m = (.ok false, s) := by
  have gone : s.dispatcher.inFlight.erase ⟨id, recipient⟩ = s.dispatcher.inFlight :=
    List.erase_of_not_mem past
  simp only [answer, release, isInFlight_eq_false_iff.mpr past, gone, Bool.false_eq_true, if_false]

theorem answer_of_inFlight (m : Message) (open' : ⟨id, recipient⟩ ∈ s.dispatcher.inFlight) :
    (s.answer recipient id m).1 = s.told true recipient ∧
      (s.answer recipient id m).2.dispatcher.inFlight =
        s.dispatcher.inFlight.erase ⟨id, recipient⟩ ∧
      (s.answer recipient id m).2.dispatcher.sends =
        s.dispatcher.sends ++ [s.sending recipient m] := by
  simp only [answer, release, isInFlight_iff.mpr open', if_true, transmit_eq, told]
  cases s.network.refusal? recipient with
  | none => exact ⟨rfl, rfl, by rw [sends_replied, sends_record]; rfl⟩
  | some e => exact ⟨rfl, rfl, by rw [sends_record]; rfl⟩

theorem inFlight_answer (m : Message) : (s.answer recipient id m).2.dispatcher.inFlight =
    s.dispatcher.inFlight.erase ⟨id, recipient⟩ := by
  by_cases open' : ⟨id, recipient⟩ ∈ s.dispatcher.inFlight
  · exact (answer_of_inFlight m open').2.1
  · rw [answer_of_not_inFlight m open', List.erase_of_not_mem open']

theorem sends_answer (m : Message) : (s.answer recipient id m).2.dispatcher.sends =
    s.dispatcher.sends ++
      if ⟨id, recipient⟩ ∈ s.dispatcher.inFlight then [s.sending recipient m] else [] := by
  by_cases open' : ⟨id, recipient⟩ ∈ s.dispatcher.inFlight
  · rw [if_pos open', (answer_of_inFlight m open').2.2]
  · rw [if_neg open', answer_of_not_inFlight m open', List.append_nil]

end answers

def noting (now : Nanos) (v : Invocation) (o : Outcome) (s : Site η β) : Site η β :=
  let s := s.modify (·.report (.handlerCompleted v.typeName (now - v.started)))
  match o.remoteError? with
  | none => s
  | some e => s.modify fun d =>
    (d.count fun c => { c with handlerFailures := c.handlerFailures + 1 }).report
      (.handlerFailed v.typeName e.kind)

theorem noting_sameTraffic (now : Nanos) (v : Invocation) (o : Outcome) (s : Site η β) :
    s.dispatcher.SameTraffic (s.noting now v o).dispatcher := by
  unfold noting
  dsimp only
  split
  · exact (SameTraffic.refl _).report _
  · exact (((SameTraffic.refl _).report _).count _).report _

theorem sending_noting (now : Nanos) (v : Invocation) (o : Outcome) (s : Site η β)
    (recipient : PeerName) (m : Message) :
    (s.noting now v o).sending recipient m = s.sending recipient m := by
  unfold noting
  dsimp only
  split <;> rfl

theorem conclude_eq (now : Nanos) (v : Invocation) (o : Outcome) (s : Site η β) :
    s.conclude now v o =
      match v.id? with
      | none => s.noting now v o
      | some id =>
        match o.message? id with
        | none => (s.noting now v o).modify fun d => (d.release v.sender id).2
        | some m => ((s.noting now v o).answer v.sender id m).2 := by
  unfold conclude
  cases v.id? with
  | none => cases o <;> rfl
  | some id => cases o <;> rfl

def remaining (v : Invocation) (s : Site η β) : List RequestKey :=
  match v.key? with
  | none => s.dispatcher.inFlight
  | some key => s.dispatcher.inFlight.erase key

def conclusion (v : Invocation) (o : Outcome) (s : Site η β) : List Sending :=
  match v.key? with
  | none => []
  | some key =>
    if key ∈ s.dispatcher.inFlight then
      (o.message? key.id).toList.map fun m => s.sending key.sender m
    else []

theorem inFlight_conclude (now : Nanos) (v : Invocation) (o : Outcome) (s : Site η β) :
    (s.conclude now v o).dispatcher.inFlight = s.remaining v := by
  have noted := (noting_sameTraffic now v o s).inFlight
  rw [conclude_eq, remaining, Invocation.key?]
  cases v.id? with
  | none => exact noted
  | some id =>
    dsimp only [Option.map_some]
    rw [← noted]
    cases o.message? id with
    | none => rfl
    | some m => exact inFlight_answer m

theorem sends_conclude (now : Nanos) (v : Invocation) (o : Outcome) (s : Site η β) :
    (s.conclude now v o).dispatcher.sends = s.dispatcher.sends ++ s.conclusion v o := by
  have noted := noting_sameTraffic now v o s
  rw [conclude_eq, conclusion, Invocation.key?]
  cases v.id? with
  | none => rw [← noted.sends]; exact (List.append_nil _).symm
  | some id =>
    dsimp only [Option.map_some]
    rw [← noted.inFlight, ← noted.sends]
    cases o.message? id with
    | none => simp only [Option.toList_none, List.map_nil, ite_self, List.append_nil]; rfl
    | some m => exact (sends_answer m).trans (by rw [sending_noting]; rfl)

def OnlyAsks (s s' : Site η β) : Prop :=
  s'.dispatcher.inFlight = s.dispatcher.inFlight ∧ ∃ asked : List Sending,
    (∀ x ∈ asked, x.1.message.kind = .request) ∧ s'.dispatcher.sends = s.dispatcher.sends ++ asked

theorem onlyAsks_of_same {s' : Site η β} (h : s.dispatcher.SameTraffic s'.dispatcher) :
    s.OnlyAsks s' :=
  ⟨h.inFlight, [], fun _ none => absurd none List.not_mem_nil,
    h.sends.trans (List.append_nil _).symm⟩

theorem traffic_of_transmit {s₁ : Site η β} {recipient : PeerName} {m : Message}
    {told : Except CallError Unit} (sent : s.transmit recipient m = (told, s₁)) :
    s₁.dispatcher.inFlight = s.dispatcher.inFlight ∧
      s₁.dispatcher.sends = s.dispatcher.sends ++ [s.sending recipient m] := by
  have inFlight := inFlight_transmit recipient m s
  have sends := sends_transmit recipient m s
  rw [sent] at inFlight sends
  exact ⟨inFlight, sends⟩

theorem onlyAsks_of_transmit {s₀ s₁ s' : Site η β} {recipient : PeerName} {m : Message}
    {told : Except CallError Unit} (before : s.dispatcher.SameTraffic s₀.dispatcher)
    (kind : m.kind = .request) (sent : s₀.transmit recipient m = (told, s₁))
    (after : s₁.dispatcher.SameTraffic s'.dispatcher) : s.OnlyAsks s' := by
  obtain ⟨inFlight, sends⟩ := traffic_of_transmit sent
  refine ⟨(after.inFlight.trans inFlight).trans before.inFlight, [s₀.sending recipient m],
    fun x asked => ?_, (after.sends.trans sends).trans (by rw [before.sends])⟩
  rw [List.mem_singleton.mp asked]
  exact kind

theorem notify_onlyAsks (target : PeerName) (typeName : String) (payload : Json) (s : Site η β) :
    s.OnlyAsks (s.notify target typeName payload).2 := by
  unfold notify
  split
  · rename_i sent
    exact onlyAsks_of_transmit (.refl _) rfl sent (.refl _)
  · rename_i sent
    exact onlyAsks_of_transmit (.refl _) rfl sent (((SameTraffic.refl _).count _).report _)

theorem sendRequest_onlyAsks (now : Nanos) (id : CorrelationId) (target : PeerName)
    (typeName : String) (payload : Json) (timeout : Nanos) (s : Site η β) :
    s.OnlyAsks (s.sendRequest now id target typeName payload timeout).2 := by
  have registers (table : CallTable β) : s.dispatcher.SameTraffic
      (s.modify fun d => { d with table := table }).dispatcher := (SameTraffic.refl _).table table
  unfold sendRequest
  split
  · exact onlyAsks_of_same (registers _)
  · split
    · rename_i sent
      exact onlyAsks_of_transmit (registers _) rfl sent ((SameTraffic.refl _).table _)
    · rename_i sent
      exact onlyAsks_of_transmit (registers _) rfl sent
        ((((SameTraffic.refl _).count _).report _).report _)

inductive Routed (s : Site η β) (sender : PeerName) (m : Message) :
    InboundOutcome η → Site η β → Prop
  | dispatched {v : Invocation} {handler : η} {s' : Site η β} (origin : v.sender = sender)
    (named : v.id? = m.id?) (fresh : ∀ key, v.key? = some key → key ∉ s.dispatcher.inFlight)
    (inFlight : s'.dispatcher.inFlight = v.key?.toList ++ s.dispatcher.inFlight)
    (sends : s'.dispatcher.sends = s.dispatcher.sends) :
    Routed s sender m (.dispatched v handler) s'
  | unhandled {s' : Site η β} (inFlight : s'.dispatcher.inFlight = s.dispatcher.inFlight)
    (sends : s'.dispatcher.sends = s.dispatcher.sends ++ m.id?.toList.map fun id =>
      s.sending sender (.errorReply id (.unhandled m.typeName))) : Routed s sender m .unhandled s'
  | discarded {s' : Site η β} (same : s.dispatcher.SameTraffic s'.dispatcher) :
    Routed s sender m .discarded s'

theorem routed_of_transmit {sender : PeerName} {m : Message} {s₀ s₁ s' : Site η β}
    {id : CorrelationId} {told : Except CallError Unit} (named : m.id? = some id)
    (sent : s₀.transmit sender (.errorReply id (.unhandled m.typeName)) = (told, s₁))
    (before : s.dispatcher.SameTraffic s₀.dispatcher)
    (same : s₀.sending sender (.errorReply id (.unhandled m.typeName)) =
      s.sending sender (.errorReply id (.unhandled m.typeName)))
    (after : s₁.dispatcher.SameTraffic s'.dispatcher) : Routed s sender m .unhandled s' := by
  obtain ⟨inFlight, sends⟩ := traffic_of_transmit sent
  refine .unhandled ((after.inFlight.trans inFlight).trans before.inFlight) ?_
  rw [after.sends, sends, before.sends, same, named]
  rfl

theorem onRequest_routed (now : Nanos) (sender : PeerName) (m : Message) (s : Site η β) :
    Routed s sender m (s.onRequest now sender m).1 (s.onRequest now sender m).2 := by
  have received := ((SameTraffic.refl s.dispatcher).count fun c =>
    { c with requestsReceived := c.requestsReceived + 1 }).report (.requestReceived m.typeName)
  have passed := (received.count fun c => { c with unhandled := c.unhandled + 1 }).report
    (.unhandled m.typeName)
  unfold onRequest
  dsimp only
  split
  · cases named : m.id? with
    | none =>
      refine .unhandled passed.inFlight (passed.sends.trans ?_)
      rw [named]
      exact (List.append_nil _).symm
    | some id =>
      dsimp only
      split
      · rename_i sent
        exact routed_of_transmit named sent passed rfl ((SameTraffic.refl _).count _ |>.report _)
      · rename_i sent
        exact routed_of_transmit named sent passed rfl (.refl _)
  · cases named : m.id? with
    | none =>
      exact .dispatched rfl named.symm (by simp [Invocation.key?]) received.inFlight received.sends
    | some id =>
      dsimp only
      split
      · exact .discarded received
      · rename_i open'
        refine .dispatched rfl named.symm ?_ rfl received.sends
        rintro key key'
        cases key'
        exact isInFlight_eq_false_iff.mp (Bool.eq_false_iff.mpr open')

end Site

end MessageRelay
