import MessageRelay.Proofs.Dispatch.Record

/-!
The gauge of pending calls. A dispatcher reports how many calls are pending when it has sent a request,
when a reply has settled a call, and when it is shut down. Calls end in other ways too, of which it
reports nothing; so the gauge is right as of the last report, and stays right only as long as no more
calls end than are registered.
-/
namespace MessageRelay

def DispatchAnswer.reportsPending {η : Type} : DispatchAnswer η → Bool
  | .routed (.resolved _) | .requested (.ok _) | .count _ => true
  | _ => false

theorem DispatchAnswer.not_reportsPending {η : Type} {answer : DispatchAnswer η}
    (silent : answer.isSilent = true) : answer.reportsPending = false := by
  unfold reportsPending
  split <;> first | rfl | cases silent

namespace MetricEvent

theorem lastGauge?_append (events told : List MetricEvent) :
    lastGauge? (events ++ told) = (lastGauge? told).or (lastGauge? events) := by
  rw [lastGauge?, List.filterMap_append, List.getLast?_append]
  rfl

theorem lastGauge?_plain {told : List MetricEvent} (plain : ∀ e ∈ told, e.isPlain = true) :
    lastGauge? told = none := by
  rw [lastGauge?, List.getLast?_eq_none_iff, List.filterMap_eq_nil_iff]
  intro e member
  have := plain e member
  cases e <;> first | rfl | cases this

end MetricEvent

namespace DispatchMachine

open MetricEvent

variable {η β : Type} {m n : DispatchMachine η β}

/-- The number of pending calls that was reported last, zero if none was. -/
def gauge (m : DispatchMachine η β) : Nat := (lastGauge? m.site.dispatcher.events).getD 0

theorem gauge_of_events {told : List MetricEvent}
    (events : n.site.dispatcher.events = m.site.dispatcher.events ++ told) :
    n.gauge = (lastGauge? told).getD m.gauge := by
  rw [gauge, events, lastGauge?_append]
  cases lastGauge? told <;> rfl

theorem gauge_of_told {told : List MetricEvent} (h : m.site.dispatcher.Told told n.site.dispatcher) :
    n.gauge = (lastGauge? told).getD m.gauge := gauge_of_events h.events

theorem gauge_of_plain {told : List MetricEvent} (h : m.site.dispatcher.Told told n.site.dispatcher)
    (plain : ∀ e ∈ told, e.isPlain = true) : n.gauge = m.gauge := by
  rw [gauge_of_told h, lastGauge?_plain plain]
  rfl

theorem Booking.gauge {move : DispatchMove β} {answer : DispatchAnswer η}
    (booked : Booking m move answer n) :
    n.gauge = if answer.reportsPending then n.table.pendingCount else m.gauge := by
  cases booked with
  | plain silent plain _ wrote =>
    rw [DispatchAnswer.not_reportsPending silent]
    exact gauge_of_plain wrote.told plain
  | dispatched plain _ _ wrote => exact gauge_of_plain wrote.told plain
  | concluded _ plain _ _ wrote =>
    rw [gauge_of_told wrote.told]
    exact congrArg (·.getD m.gauge) (lastGauge?_plain plain)
  | matched _ _ wrote | requested _ wrote | stale _ wrote | refused _ wrote | duplicate _ _ wrote
  | dropped _ wrote | after _ _ wrote => exact gauge_of_told wrote.told
  | closed idle _ wrote =>
    have zero : n.gauge = 0 := gauge_of_told wrote.told
    exact zero.trans idle.symm
  | finished _ _ _ told | expired _ _ _ told => exact gauge_of_told told
  | began _ _ _ told =>
    rw [gauge_of_told told]
    split <;> rfl

theorem gauge_onTable (h : m.bare.Coherent) (operation : CallMove β) :
    (m.onTable operation).2.gauge = m.gauge := by
  obtain ⟨told, either, events, -⟩ := onTable_told h operation
  rcases either with rfl | rfl <;> exact gauge_of_events events

theorem gauge_act (h : m.bare.Coherent) (a : HolderAct β) :
    (m.act a).gauge =
      if (m.answer a).reportsPending then (m.act a).table.pendingCount else m.gauge := by
  cases a with
  | move move => exact (act_booking h rfl).gauge
  | hook move => exact (act_booking h rfl).gauge
  | table operation => exact gauge_onTable h operation
  | look | heed => rfl

def Silent (m : DispatchMachine η β) : List (HolderAct β) → Prop
  | [] => True
  | a :: as => (m.answer a).reportsPending = false ∧ (m.act a).Silent as

theorem gauge_of_silent (h : m.bare.Coherent) {as : List (HolderAct β)} (silent : m.Silent as) :
    (m.acts as).gauge = m.gauge := by
  induction as generalizing m with
  | nil => rfl
  | cons a as ih =>
    obtain ⟨first, rest⟩ := silent
    have same := gauge_act h a
    rw [first] at same
    exact (ih (act_coherent h a) rest).trans same

theorem last_report (m : DispatchMachine η β) (as : List (HolderAct β)) :
    ∃ first last, as = first ++ last ∧ (m.acts first).Silent last ∧
      (first = [] ∨ ∃ before a, first = before ++ [a] ∧
        ((m.acts before).answer a).reportsPending = true) := by
  induction as generalizing m with
  | nil => exact ⟨[], [], rfl, trivial, .inl rfl⟩
  | cons a as ih =>
    obtain ⟨first, last, rfl, silent, reported⟩ := ih (m.act a)
    rcases reported with rfl | ⟨before, b, rfl, reports⟩
    · cases reports : (m.answer a).reportsPending with
      | false => exact ⟨[], a :: last, rfl, ⟨reports, silent⟩, .inl rfl⟩
      | true => exact ⟨[a], last, rfl, silent, .inr ⟨[], a, rfl, reports⟩⟩
    · exact ⟨a :: before ++ [b], last, rfl, silent, .inr ⟨a :: before, b, rfl, reports⟩⟩

theorem act_balanced (h : m.bare.Coherent) (balanced : m.bare.Balanced) (a : HolderAct β) :
    (m.act a).bare.Balanced := by
  obtain ⟨c, c', before, moved, after⟩ := act_bare h a
  have balanced' : c.Balanced := by
    rw [CallMachine.Balanced, before.table]
    exact balanced
  have left := moved.balanced (before.coherent h) balanced'
  rw [CallMachine.Balanced, ← after.table] at left
  exact left

theorem acts_balanced (h : m.bare.Coherent) (balanced : m.bare.Balanced) (as : List (HolderAct β)) :
    (m.acts as).bare.Balanced := by
  induction as generalizing m with
  | nil => exact balanced
  | cons a as ih => exact ih (act_coherent h a) (act_balanced h balanced a)

/-- In every run the gauge is the number of calls that were pending at the last report. It is the number
of those that are pending now if as many calls have ended since as were registered, and only then. -/
theorem gauge_tells_last_report (name : PeerName) (registry : Registry η) (defaultTimeout : Nanos)
    (network : Network) (as : List (HolderAct β)) :
    let start : DispatchMachine η β := fresh name registry defaultTimeout network
    let m := start.acts as
    ∃ first last, as = first ++ last ∧ (start.acts first).Silent last ∧
      (first = [] ∨ ∃ before a, first = before ++ [a] ∧
        ((start.acts before).answer a).reportsPending = true) ∧
      let r := start.acts first
      m.gauge = r.table.pendingCount ∧
        (m.gauge = m.table.pendingCount ↔
          m.table.stats.registered + r.table.stats.ended =
            r.table.stats.registered + m.table.stats.ended) := by
  intro start m
  have coherent : start.bare.Coherent := bare_fresh name registry defaultTimeout network
  obtain ⟨first, last, rfl, silent, reported⟩ := last_report start as
  refine ⟨first, last, rfl, silent, reported, ?_⟩
  intro r
  have same : m.gauge = r.gauge := by
    rw [← gauge_of_silent (acts_coherent coherent first) silent, ← acts_append]
  have told : r.gauge = r.table.pendingCount := by
    rcases reported with rfl | ⟨before, a, rfl, reports⟩
    · rfl
    · have last := gauge_act (acts_coherent coherent before) a
      rw [reports, if_pos rfl] at last
      simp only [r, acts_append]
      exact last
  have now : m.table.stats.registered = m.table.stats.ended + m.table.pendingCount :=
    acts_balanced coherent rfl _
  have then' : r.table.stats.registered = r.table.stats.ended + r.table.pendingCount :=
    acts_balanced coherent rfl _
  refine ⟨same.trans told, ?_⟩
  omega

/-- A call that has timed out is still in the gauge when all is over. -/
theorem gauge_goes_stale :
    let network := (Network.start 2).run [.attach "B"]
    let m : DispatchMachine Empty Nat := (fresh "A" {} 1000 network).acts
      [.move (.request default "B" "Ask" .null 100), .move (.elapse 100), .move (.enter 100),
        .move .advance, .move .advance]
    m.stack = [] ∧ m.gauge = 1 ∧ m.table.pendingCount = 0 :=
  ⟨rfl, by decide, by decide⟩

end DispatchMachine

end MessageRelay
