import MessageRelay.Proofs.Dispatch.Conclusions
import MessageRelay.Proofs.Dispatch.Requests

/-!
Replies that the network refuses. A request is taken out of flight before its reply is handed to the
network, and is not put back where that refuses it. So whoever replied is told of the failure, but
the request counts as answered from then on: no other reply to it is possible, nor is an error
reported when its handler ends, until a request with its sender and id arrives again.
-/
namespace MessageRelay

namespace Site

variable {η β : Type} {s : Site η β} {recipient : PeerName} {id : CorrelationId}

theorem told_eq_error_iff {α : Type} {a : α} {e : TransportError} :
    s.told a recipient = .error (.transport e) ↔ s.network.refusal? recipient = some e := by
  rw [told]
  cases s.network.refusal? recipient <;> simp

theorem answer_of_refused (m : Message) {e : TransportError}
    (refused : (s.answer recipient id m).1 = .error (.transport e)) :
    ⟨id, recipient⟩ ∈ s.dispatcher.inFlight ∧ s.network.refusal? recipient = some e ∧
      ∃ journal, (s.answer recipient id m).2 =
        ⟨{ s.dispatcher with inFlight := s.dispatcher.inFlight.erase ⟨id, recipient⟩, journal },
          (s.network.send (.of s.dispatcher.name recipient m)).2⟩ := by
  have open' : ⟨id, recipient⟩ ∈ s.dispatcher.inFlight := by
    by_contra past
    rw [answer_of_not_inFlight m past] at refused
    cases refused
  have closed : s.network.refusal? recipient = some e :=
    told_eq_error_iff.mp ((answer_of_inFlight m open').1.symm.trans refused)
  refine ⟨open', closed, ?_⟩
  simp only [answer, Dispatcher.release, Dispatcher.isInFlight_iff.mpr open', if_true, transmit_eq,
    told, closed, Dispatcher.record]
  exact ⟨_, rfl⟩

end Site

namespace DispatchMachine

variable {η β : Type} {m n : DispatchMachine η β} {a : HolderAct β} {as : List (HolderAct β)}
  {key : RequestKey} {said : Except CallError Bool}

theorem operated_of_replied {move : DispatchMove β} (makes : a.toMove = move)
    (stays : move ≠ .leave) (idle : move ≠ .advance) (timely : move ≠ .elapse 0)
    (replied : m.answer a = .replied said) :
    m.answer a = (m.operate move).1 ∧ m.act a = (m.operate move).2 := by
  rcases act_of_move (m := m) (HolderAct.move?_of_toMove makes timely) stays idle with
    ⟨refused, -⟩ | operated
  · rw [replied] at refused
    cases refused
  · exact operated

theorem act_of_replied (about : m.about? a.toMove = some key)
    (replied : m.answer a = .replied said) :
    ∃ r : Reply, m.answer a = (m.withSite (·.sendReply key.sender key.id r) .replied).1 ∧
      m.act a = (m.withSite (·.sendReply key.sender key.id r) .replied).2 := by
  cases made : a.toMove with
  | reply number r =>
    rw [made] at about
    obtain ⟨v, runs, named⟩ := Option.bind_eq_some_iff.mp about
    obtain ⟨id, identified, rfl⟩ := Option.map_eq_some_iff.mp named
    have operated := operated_of_replied made (by simp) (by simp) (by simp) replied
    simp only [operate, runs, Site.replyEarly, identified] at operated
    exact ⟨r, operated⟩
  | sendReply recipient id r =>
    rw [made] at about
    cases about
    exact ⟨r, operated_of_replied made (by simp) (by simp) (by simp) replied⟩
  | inbound sender message =>
    obtain ⟨routed, -⟩ := operated_of_replied made (by simp) (by simp) (by simp) replied
    rw [replied] at routed
    cases routed
  | conclude number o =>
    rw [made] at about
    obtain ⟨v, runs, -⟩ := Option.bind_eq_some_iff.mp about
    obtain ⟨done, -⟩ := operated_of_replied made (by simp) (by simp) (by simp) replied
    simp only [replied, operate, runs] at done
    cases done
  | _ =>
    rw [made] at about
    cases about

/-- The request is in flight no more, and that is all that is left of a reply to it. -/
structure Refused (key : RequestKey) (m n : DispatchMachine η β) : Prop where
  before : key ∈ m.inFlight
  inFlight : n.inFlight = m.inFlight.erase key
  past : key ∉ n.inFlight
  counters : n.site.dispatcher.counters = m.site.dispatcher.counters
  table : n.site.dispatcher.table = m.site.dispatcher.table
  lanes : n.site.network.lanes = m.site.network.lanes
  replies : n.replies = m.replies
  serves : ∃ number ∈ n.running, n.Serves number key

theorem act_of_refused (h : m.Coherent) {e : TransportError} (about : m.about? a.toMove = some key)
    (refused : m.answer a = .replied (.error (.transport e))) : Refused key m (m.act a) := by
  obtain ⟨r, answered, acted⟩ := act_of_replied about refused
  obtain ⟨open', closed, journal, left⟩ :=
    Site.answer_of_refused (.reply key.id r.typeName r.payload)
      (DispatchAnswer.replied.inj (answered.symm.trans refused))
  obtain ⟨number, runs, opened⟩ := h.opened key open'
  simp only [withSite, Site.sendReply, left] at acted
  rw [acted]
  exact {
    before := open'
    inFlight := rfl
    past := h.nodup.not_mem_erase
    counters := rfl
    table := rfl
    lanes := Network.lanes_send_of_refused closed
    replies := rfl
    serves := ⟨number, runs, Option.bind_eq_some_iff.mpr opened.started⟩ }

theorem Coherent.over_act (h : m.Coherent) (past : key ∉ m.inFlight)
    (new : m.arrival? a ≠ some key) :
    key ∉ (m.act a).inFlight ∧ (m.act a).attempts key = m.attempts key := by
  have traffic := act_traffic m a
  by_cases other : m.about? a.toMove ≠ some key
  · exact ⟨fun open' => past ((traffic.foreign h other).1.mp open'), traffic.attempts_foreign other⟩
  · have about := not_not.mp other
    unfold arrival? at new
    generalize m.answer a = said at traffic new
    generalize m.act a = n at traffic ⊢
    generalize a.toMove = move at traffic new about
    cases traffic with
    | asked asks =>
      obtain ⟨inFlight, asked, kind, sends⟩ := asks
      have none : (asked.filter fun x => key.answeredBy x.1) = [] :=
        List.filter_eq_nil_iff.mpr fun x member => by simp [RequestKey.answeredBy, kind x member]
      have same : n.inFlight = m.inFlight := inFlight
      refine ⟨same ▸ past, ?_⟩
      rw [attempts_of_sends sends, none, List.append_nil]
    | unhandled | dispatched => exact absurd about new
    | answered own open' =>
      cases own.symm.trans about
      exact absurd open' past
    | @concluded _ v o _ runs inFlight sends =>
      rw [about?_conclude runs] at about
      have silent : m.site.conclusion v o = [] :=
        Site.conclusion_of_over fun own named => by
          cases about.symm.trans named
          exact past
      refine ⟨fun open' => ?_, attempts_of_same (by rw [sends, silent, List.append_nil])⟩
      rw [inFlight] at open'
      exact not_mem_remaining h.nodup about open'

theorem Coherent.over_acts (h : m.Coherent) (past : key ∉ m.inFlight) (new : key ∉ m.arrivals as) :
    key ∉ (m.acts as).inFlight ∧ (m.acts as).attempts key = m.attempts key := by
  induction as generalizing m with
  | nil => exact ⟨past, rfl⟩
  | cons a as ih =>
    rw [arrivals, List.mem_append, not_or, Option.mem_toList] at new
    obtain ⟨past', same⟩ := h.over_act past new.1
    obtain ⟨still, same'⟩ := ih (h.act a) past' new.2
    exact ⟨still, same'.trans same⟩

/-- Wherever a reply is refused by the network, the request that it was for is in flight no more,
though nothing was answered and its handler runs on; all else is as it was. Until the sender uses
the id again nothing is sent for the request, not at the end of its handler either, and whoever
replies to it is told that it was answered. -/
theorem refused_reply_spends_request (name : PeerName) (registry : Registry η)
    (defaultTimeout : Nanos) (network : Network) (as : List (HolderAct β)) (a : HolderAct β)
    (key : RequestKey) (e : TransportError) :
    let m : DispatchMachine η β := (fresh name registry defaultTimeout network).acts as
    m.about? a.toMove = some key → m.answer a = .replied (.error (.transport e)) →
    Refused key m (m.act a) ∧ ∀ later, key ∉ (m.act a).arrivals later →
      let l := (m.act a).acts later
      key ∉ l.inFlight ∧ l.attempts key = (m.act a).attempts key ∧
      ∀ b said, l.about? b.toMove = some key → l.answer b = .replied said →
        said = .ok false ∧ l.act b = l := by
  intro m about refused
  have h : m.Coherent := (Coherent.fresh name registry defaultTimeout network).acts as
  have left : Refused key m (m.act a) := act_of_refused h about refused
  refine ⟨left, fun later new => ?_⟩
  intro l
  obtain ⟨past, silent⟩ := (h.act a).over_acts left.past new
  refine ⟨past, silent, fun b said about replied => ?_⟩
  obtain ⟨r, answered, acted⟩ := act_of_replied about replied
  rcases withSite_sendReply key r l with ⟨open', -⟩ | ⟨-, same⟩
  · exact absurd open' past
  · rw [same] at answered acted
    rw [replied] at answered
    cases answered
    exact ⟨rfl, acted⟩

def unheard : DispatchMachine Unit Empty :=
  (fresh "B" ⟨[("", ())]⟩ 0 ((Network.start 1).run
    [.attach "A", .send (.of "A" "A" (.notification "Fill" .null))])).acts
    [.move (.inbound "A" (.request "Job" .null default))]

def earlyReply : HolderAct Empty := .move (.reply 0 ⟨"Early", .null⟩)

def lateReply : HolderAct Empty := .move (.reply 0 ⟨"Late", .null⟩)

def heard : HolderAct Empty := .move (.network ((Network.start 1).run [.attach "A"]))

theorem refused_reply_spends_request_unheard :
    unheard.answer earlyReply = .replied (.error (.transport (.queueFull "A"))) ∧
      Refused ⟨default, "A"⟩ unheard (unheard.act earlyReply) ∧
      ((unheard.act earlyReply).act heard).act lateReply = (unheard.act earlyReply).act heard := by
  have refused : unheard.answer earlyReply = .replied (.error (.transport (.queueFull "A"))) := by
    rfl
  obtain ⟨left, spent⟩ :=
    refused_reply_spends_request "B" ⟨[("", ())]⟩ 0 _
      [.move (.inbound "A" (.request "Job" .null default))]
      earlyReply ⟨default, "A"⟩ (.queueFull "A") (by rfl) refused
  have new : (unheard.act earlyReply).arrivals [heard] = [] := by rfl
  obtain ⟨-, -, replies⟩ := spent [heard] fun arrives => List.not_mem_nil (new ▸ arrives)
  exact ⟨refused, left, (replies lateReply (.ok false) (by rfl) (by rfl)).2⟩

/-- The early reply is refused. The peer can be reached again after it, but the handler is told that
its request was answered, and when it breaks off nothing is sent. -/
theorem refused_reply_not_repeated :
    let m := (unheard.act earlyReply).act heard
    unheard.inFlight = [⟨default, "A"⟩] ∧
      unheard.answer earlyReply = .replied (.error (.transport (.queueFull "A"))) ∧
      (unheard.act earlyReply).inFlight = [] ∧ (unheard.act earlyReply).running = [0] ∧
      m.site.network.refusal? "A" = none ∧ m.answer lateReply = .replied (.ok false) ∧
      (m.act (.move (.conclude 0 (.broken none)))).sends = m.sends :=
  ⟨by rfl, by rfl, by rfl, by rfl, by rfl, by rfl, by rfl⟩

end DispatchMachine

end MessageRelay
