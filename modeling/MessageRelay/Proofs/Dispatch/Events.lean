import MessageRelay.Proofs.Dispatch.Traffic
import MessageRelay.Relay.Report

/-!
What the operations of a dispatcher report, and what they count. Both are done side by side, by each
operation for itself; `Told` says that nothing was reported without being counted, or the other way
round.
-/
namespace MessageRelay

def DispatchCounters.tell (c : DispatchCounters) : MetricEvent → DispatchCounters
  | .requestSent _ => { c with requestsSent := c.requestsSent + 1 }
  | .notificationSent _ => { c with notificationsSent := c.notificationsSent + 1 }
  | .replySent _ => { c with repliesSent := c.repliesSent + 1 }
  | .requestReceived _ => { c with requestsReceived := c.requestsReceived + 1 }
  | .responseMatched => { c with responsesMatched := c.responsesMatched + 1 }
  | .staleResponse => { c with staleResponses := c.staleResponses + 1 }
  | .unhandled _ => { c with unhandled := c.unhandled + 1 }
  | .handlerFailed _ _ => { c with handlerFailures := c.handlerFailures + 1 }
  | .handlerCompleted _ _ | .callTimedOut | .timerFired | .pendingCalls _ => c

def MetricEvent.isPlain : MetricEvent → Bool
  | .notificationSent _ | .replySent _ | .requestReceived _ | .unhandled _ | .handlerFailed _ _ => true
  | _ => false

namespace Dispatcher

variable {η β : Type} {d d' d'' : Dispatcher η β} {told : List MetricEvent}

def events (d : Dispatcher η β) : List MetricEvent := d.journal.toList.filterMap Deed.event?

theorem events_record (deed : Deed) (d : Dispatcher η β) :
    (d.record deed).events = d.events ++ deed.event?.toList := by
  simp only [events, record, Array.toList_push, List.filterMap_append]
  cases deed <;> rfl

/-- These events were reported since, and the counters are those before with these events. -/
structure Told (d : Dispatcher η β) (told : List MetricEvent) (d' : Dispatcher η β) : Prop where
  events : d'.events = d.events ++ told
  counters : d'.counters = told.foldl DispatchCounters.tell d.counters
  foreign : d'.foreign = d.foreign

namespace Told

theorem refl (d : Dispatcher η β) : d.Told [] d := ⟨(List.append_nil _).symm, rfl, rfl⟩

theorem trans {more : List MetricEvent} (h : d.Told told d') (h' : d'.Told more d'') :
    d.Told (told ++ more) d'' where
  events := by rw [h'.events, h.events, List.append_assoc]
  counters := by rw [h'.counters, h.counters, List.foldl_append]
  foreign := h'.foreign.trans h.foreign

theorem table (h : d.Told told d') (t : CallTable β) : d.Told told { d' with table := t } :=
  ⟨h.events, h.counters, h.foreign⟩

theorem inFlight (h : d.Told told d') (keys : List RequestKey) :
    d.Told told { d' with inFlight := keys } := ⟨h.events, h.counters, h.foreign⟩

theorem sent (e : Envelope) (refused? : Option TransportError) (d : Dispatcher η β) :
    d.Told [] (d.record (.sent e refused?)) := ⟨events_record _ d, rfl, rfl⟩

theorem counted {event : MetricEvent} {f : DispatchCounters → DispatchCounters}
    (same : ∀ c, f c = c.tell event) (d : Dispatcher η β) :
    d.Told [event] ((d.count f).report event) := ⟨events_record _ _, same d.counters, rfl⟩

theorem uncounted {event : MetricEvent} (same : ∀ c : DispatchCounters, c.tell event = c)
    (d : Dispatcher η β) : d.Told [event] (d.report event) :=
  ⟨events_record _ _, (same d.counters).symm, rfl⟩

end Told

def PlainlyTold (d d' : Dispatcher η β) : Prop :=
  ∃ told, (∀ e ∈ told, e.isPlain = true) ∧ d.Told told d'

namespace PlainlyTold

theorem of_silent (h : d.Told [] d') : d.PlainlyTold d' := ⟨[], nofun, h⟩

theorem counted (event : MetricEvent) {f : DispatchCounters → DispatchCounters}
    (same : ∀ c, f c = c.tell event) (plain : event.isPlain = true) (d : Dispatcher η β) :
    d.PlainlyTold ((d.count f).report event) :=
  ⟨[event], fun _ member => List.mem_singleton.mp member ▸ plain, .counted same d⟩

theorem trans (h : d.PlainlyTold d') (h' : d'.PlainlyTold d'') : d.PlainlyTold d'' := by
  obtain ⟨told, plain, first⟩ := h
  obtain ⟨more, plain', second⟩ := h'
  refine ⟨told ++ more, fun e member => ?_, first.trans second⟩
  exact (List.mem_append.mp member).elim (plain e) (plain' e)

end PlainlyTold

end Dispatcher

namespace Site

open Dispatcher

variable {η β : Type} {s : Site η β}

theorem told_transmit {recipient : PeerName} {m : Message} {answer : Except CallError Unit}
    {s' : Site η β} (sent : s.transmit recipient m = (answer, s')) :
    s.dispatcher.PlainlyTold s'.dispatcher := by
  rw [transmit_eq] at sent
  obtain ⟨-, rfl⟩ := Prod.mk.inj sent
  exact .of_silent (.sent _ _ _)

theorem told_replied (typeName : String) (s : Site η β) :
    s.dispatcher.PlainlyTold (s.replied typeName).dispatcher :=
  .counted (.replySent typeName) (fun _ => rfl) rfl s.dispatcher

theorem told_release (recipient : PeerName) (id : CorrelationId) (d : Dispatcher η β) :
    d.PlainlyTold (d.release recipient id).2 := .of_silent ((Told.refl d).inFlight _)

theorem told_answer (recipient : PeerName) (id : CorrelationId) (m : Message) (s : Site η β) :
    s.dispatcher.PlainlyTold (s.answer recipient id m).2.dispatcher := by
  by_cases open' : ⟨id, recipient⟩ ∈ s.dispatcher.inFlight
  · have released := told_release recipient id s.dispatcher
    simp only [answer]
    generalize s.dispatcher.release recipient id = result at released ⊢
    obtain ⟨found, d⟩ := result
    cases found with
    | false => exact .of_silent (.refl _)
    | true =>
      dsimp only
      rw [if_pos rfl]
      split <;> rename_i sent
      · exact (released.trans (told_transmit sent)).trans (told_replied m.typeName _)
      · exact released.trans (told_transmit sent)
  · rw [answer_of_not_inFlight m open']
    exact .of_silent (.refl _)

theorem told_noting (now : Nanos) (v : Invocation) (o : Outcome) (s : Site η β) :
    ∃ told, (∀ e ∈ told, e.isPlain = true) ∧
      s.dispatcher.Told (.handlerCompleted v.typeName (now - v.started) :: told)
        (s.noting now v o).dispatcher := by
  have completed : s.dispatcher.Told [.handlerCompleted v.typeName (now - v.started)]
    (s.dispatcher.report (.handlerCompleted v.typeName (now - v.started))) :=
      .uncounted (fun _ => rfl) _
  unfold noting
  dsimp only
  split
  · exact ⟨[], nofun, completed⟩
  · rename_i e _
    refine ⟨[.handlerFailed v.typeName e.kind], fun event member => ?_,
      completed.trans (.counted (fun _ => rfl) _)⟩
    rw [List.mem_singleton.mp member]
    rfl

theorem told_conclude (now : Nanos) (v : Invocation) (o : Outcome) (s : Site η β) :
    ∃ told, (∀ e ∈ told, e.isPlain = true) ∧
      s.dispatcher.Told (.handlerCompleted v.typeName (now - v.started) :: told)
        (s.conclude now v o).dispatcher := by
  obtain ⟨told, plain, noted⟩ := told_noting now v o s
  have more {d : Dispatcher η β} (after : (s.noting now v o).dispatcher.PlainlyTold d) :
      ∃ told, (∀ e ∈ told, e.isPlain = true) ∧
        s.dispatcher.Told (.handlerCompleted v.typeName (now - v.started) :: told) d := by
    obtain ⟨more, plain', second⟩ := after
    refine ⟨told ++ more, fun e member => ?_, noted.trans second⟩
    exact (List.mem_append.mp member).elim (plain e) (plain' e)
  rw [conclude_eq]
  cases v.id? with
  | none => exact ⟨told, plain, noted⟩
  | some id =>
    dsimp only
    cases o.message? id with
    | none => exact more (told_release v.sender id _)
    | some m => exact more (told_answer v.sender id m _)

theorem told_notify (target : PeerName) (typeName : String) (payload : Json) (s : Site η β) :
    s.dispatcher.PlainlyTold (s.notify target typeName payload).2.dispatcher := by
  unfold notify
  split <;> rename_i sent
  · exact told_transmit sent
  · exact (told_transmit sent).trans (.counted (.notificationSent typeName) (fun _ => rfl) rfl _)

theorem told_onRequest (now : Nanos) (sender : PeerName) (m : Message) (s : Site η β) :
    s.dispatcher.PlainlyTold (s.onRequest now sender m).2.dispatcher := by
  let received (d : Dispatcher η β) : Dispatcher η β :=
    (d.count fun c => { c with requestsReceived := c.requestsReceived + 1 }).report
      (.requestReceived m.typeName)
  let turnedAway (d : Dispatcher η β) : Dispatcher η β :=
    (d.count fun c => { c with unhandled := c.unhandled + 1 }).report (.unhandled m.typeName)
  have first : s.dispatcher.PlainlyTold (received s.dispatcher) :=
    .counted (.requestReceived m.typeName) (fun _ => rfl) rfl _
  have second : s.dispatcher.PlainlyTold (turnedAway (received s.dispatcher)) :=
    first.trans (.counted (.unhandled m.typeName) (fun _ => rfl) rfl _)
  unfold onRequest
  dsimp only
  split
  · split
    · exact second
    · split <;> rename_i sent
      · exact (second.trans (told_transmit sent)).trans (told_replied errorReplyType _)
      · exact second.trans (told_transmit sent)
  · split
    · exact first
    · split
      · exact first
      · exact first.trans (.of_silent ((Told.refl _).inFlight _))

end Site

end MessageRelay
