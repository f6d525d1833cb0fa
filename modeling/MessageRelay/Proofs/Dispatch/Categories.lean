import MessageRelay.Proofs.Dispatch.Chains
import MessageRelay.Proofs.Dispatch.Patience

/-!
The kinds of failures on their way back. Two rules sort the errors of calls: one reads the error
itself, the other asks whether any cause in a chain is a timeout, and decides what the requester of a
failed handler is told. They agree on every error but one: where a request was not handled, the handler
that made it is reported to have failed. A kind that was reported once stays as it is from hop to hop.
-/
namespace MessageRelay

namespace CallError

/-- The kind that a requester is told whose handler ends with this error, whatever is around it. -/
def reportedKind (e : CallError) : RemoteErrorKind :=
  if e.isTimeout then .timeout else .handlerFailure

theorem reportedKind_eq_remoteKind_iff (e : CallError) :
    e.reportedKind = e.remoteKind ↔ ∀ text, e ≠ .unhandled text := by
  cases e <;> simp [reportedKind, isTimeout, remoteKind]

theorem remoteKind_ofRemote (id : CorrelationId) (e : RemoteError) :
    (ofRemote id e).remoteKind = e.kind := by
  obtain ⟨kind, message⟩ := e
  cases kind <;> rfl

theorem reportedKind_ofRemote (id : CorrelationId) {e : RemoteError} (other : e.kind ≠ .unhandled) :
    (ofRemote id e).reportedKind = e.kind := by
  obtain ⟨kind, message⟩ := e
  cases kind with
  | timeout => rfl
  | unhandled => exact absurd rfl other
  | handlerFailure => rfl

theorem reportedKind_ne_unhandled (e : CallError) : e.reportedKind ≠ .unhandled := by
  unfold reportedKind
  split <;> nofun

end CallError

namespace HandlerError

theorem foldr_within (contexts : List String) (e : HandlerError) :
    contexts.foldr within e = { e with contexts := contexts ++ e.contexts } := by
  induction contexts with
  | nil => rfl
  | cons context contexts ih => rw [List.foldr_cons, ih, within, List.cons_append]

theorem kind_of_call (contexts : List String) (e : CallError) :
    (⟨contexts, .call e⟩ : HandlerError).kind = e.reportedKind := by
  rw [kind_eq, chain_any_isTimeout, CallError.reportedKind, FailureCause.isTimeout]

end HandlerError

namespace DispatchMachine

open CallMachine

variable {η β : Type} {m : DispatchMachine η β} {reply : PendingReply} {call : PendingCall}
  {number : Nat} {key : RequestKey} {a : HolderAct β}

theorem attempts_of_failed {told : HandlerError} (h : m.Coherent) (serves : m.Serves number key)
    (open' : key ∈ m.inFlight) (ends : m.Concludes a number (.failed told)) :
    (m.act a).attempts key = m.attempts key ++
      [m.site.sending key.sender (.errorReply key.id ⟨told.kind, told.message⟩)] := by
  have attempts := (ends.request h serves).2
  rw [if_pos open'] at attempts
  exact attempts

theorem yields_of_inbound (h : m.bare.Coherent) (code : m.InCode) (w : m.bare.Awaited reply call)
    (sender : PeerName) (message : Message) (kind : message.kind = .reply)
    (named : message.id? = some reply.id) :
    (m.act (.move (.inbound sender message))).bare.Yields reply
      ⟨message.result reply.id, false⟩ := by
  have coherent : m.calls.Coherent := Alike.coherent (c := m.bare) ⟨rfl, rfl⟩ h
  have waits : m.calls.Awaited reply call := Alike.awaited (m := m.bare) ⟨rfl, rfl⟩ w
  obtain ⟨move, comes, ends⟩ := callMove?_ends (calls_inCode code) call kind named
  have after : (m.step (.inbound sender message)).2.calls = (m.calls.step move).2 := by
    rw [step_calls coherent, callMoves, comes]
    rfl
  obtain ⟨settlement, ends', decided⟩ :=
    waits.decided coherent move (ends.not_isPending coherent)
  cases ends.unique ends'
  have yields : (m.step (.inbound sender message)).2.calls.Yields reply _ := after ▸ decided.channel
  exact (bare_calls _).yields yields

/-- In every state that a dispatcher can be brought to: if a handler fails with the error of a call,
in any number of contexts, while its request is in flight, one error is reported, of the same kind;
only that a request was not handled is reported as a failure of the handler. A caller whose dispatcher
takes the report gets an error of the kind that was reported, whenever it looks. -/
theorem category_kept_unless_unhandled (name : PeerName) (registry : Registry η)
    (defaultTimeout : Nanos) (network : Network) (as : List (HolderAct β)) (contexts : List String)
    (e : CallError) :
    let m : DispatchMachine η β := (fresh name registry defaultTimeout network).acts as
    let told : HandlerError := contexts.foldr .within ⟨[], .call e⟩
    m.Serves number key → key ∈ m.inFlight → m.Concludes a number (.failed told) →
      ∃ r : RemoteError,
        (m.act a).attempts key =
          m.attempts key ++ [m.site.sending key.sender (.errorReply key.id r)] ∧
        ((∀ text, e ≠ .unhandled text) → r.kind = e.remoteKind) ∧
        (∀ text, e = .unhandled text → r.kind = .handlerFailure) ∧
        ∀ (caller : PeerName) (registry' : Registry η) (defaultTimeout' : Nanos) (network' : Network)
          (before after : List (HolderAct β)) (sender : PeerName) (reply : PendingReply)
          (call : PendingCall),
          let n : DispatchMachine η β := (fresh caller registry' defaultTimeout' network').acts before
          n.InCode → n.bare.Awaited reply call → reply.id = key.id →
            ∃ own : CallError, own.remoteKind = r.kind ∧
              (((n.act (.move (.inbound sender (.errorReply key.id r)))).acts after).table.poll
                reply).1 = some (.error own) := by
  intro m told serves open' ends
  have coherent : m.Coherent := (Blank.fresh name registry defaultTimeout network).coherent.acts as
  have kind : told.kind = e.reportedKind :=
    (congrArg _ (HandlerError.foldr_within contexts _)).trans (HandlerError.kind_of_call _ e)
  refine ⟨⟨told.kind, told.message⟩, attempts_of_failed coherent serves open' ends, ?_, ?_, ?_⟩
  · intro other
    exact kind.trans (e.reportedKind_eq_remoteKind_iff.mpr other)
  · rintro text rfl
    exact kind
  · intro caller registry' defaultTimeout' network' before after sender reply call n code awaited same
    have sound : n.bare.Coherent :=
      acts_coherent (bare_fresh caller registry' defaultTimeout' network') before
    have yields := yields_of_inbound sound code awaited sender
      (.errorReply key.id ⟨told.kind, told.message⟩) rfl (congrArg some same.symm)
    rw [Message.result_errorReply] at yields
    refine ⟨_, CallError.remoteKind_ofRemote reply.id _, ?_⟩
    exact (acts_yields (act_coherent sound _) yields after).poll

def forwarding : List (HolderAct Empty) :=
  [.move (.inbound "A" (.request "Job" .null ⟨0, 1⟩)),
    .move (.request ⟨0, 2⟩ "C" "Nope" .null 5000000),
    .move (.inbound "C" (.errorReply ⟨0, 2⟩ (.unhandled "Nope")))]

def forwarder : DispatchMachine Unit Empty :=
  fresh "B" ⟨[("", ())]⟩ 0 { lanes := #[{}, {}], peers := [("A", 0), ("C", 1)] }

theorem category_kept_unless_unhandled_late :
    let m := forwarder.acts (forwarding.take 2)
    let e : CallError := .timeout ⟨0, 2⟩ "Nope to C got no reply within 5ms"
    let a : HolderAct Empty := .move (.conclude 0 (.failed ⟨["asking", "serving"], .call e⟩))
    let n : DispatchMachine Unit Empty :=
      fresh "A" {} 1000 { lanes := #[{}], peers := [("B", 0)] }
    let asked := n.act (.move (.request ⟨0, 1⟩ "B" "Job" .null 1000))
    ∃ r, (m.act a).attempts ⟨⟨0, 1⟩, "A"⟩ = [(.of "B" "A" (.errorReply ⟨0, 1⟩ r), none)] ∧
      r.kind = .timeout ∧ ∃ own : CallError, own.remoteKind = .timeout ∧
        ((asked.act (.move (.inbound "B" (.errorReply ⟨0, 1⟩ r)))).table.poll
          ⟨⟨0, 1⟩, 0, false, false⟩).1 = some (.error own) := by
  intro m e a n asked
  obtain ⟨r, attempts, kept, -, tells⟩ := category_kept_unless_unhandled "B" ⟨[("", ())]⟩ 0
    { lanes := #[{}, {}], peers := [("A", 0), ("C", 1)] } (forwarding.take 2) ["asking", "serving"] e
    (show m.Serves 0 ⟨⟨0, 1⟩, "A"⟩ from rfl) List.mem_cons_self
    (concludes_of_running (inCode_of_nil rfl) rfl)
  obtain ⟨own, kind, polled⟩ := tells "A" {} 1000 { lanes := #[{}], peers := [("B", 0)] }
    [.move (.request ⟨0, 1⟩ "B" "Job" .null 1000)] [] "B" ⟨⟨0, 1⟩, 0, false, false⟩
    ⟨⟨some "B", "Job"⟩, 1000, 0, 0⟩ (inCode_of_nil rfl)
    ⟨List.mem_singleton.mpr rfl, rfl, rfl, rfl⟩ rfl
  have timeout : r.kind = .timeout := kept nofun
  exact ⟨r, attempts, timeout, own, kind.trans timeout, polled⟩

/-- What the handler is told, and ends with, is not what its requester is told. -/
theorem unhandled_reported_as_failure :
    let m := forwarder.acts forwarding
    let e : CallError := .unhandled "no handler registered for Nope"
    let a : HolderAct Empty := .move (.conclude 0 (.failed ⟨[], .call e⟩))
    m.answer (.move (.poll 0)) = .polled (some (.error e)) ⟨⟨0, 2⟩, 0, true, false⟩ ∧
      m.Concludes a 0 (.failed ⟨[], .call e⟩) ∧
      (m.act a).attempts ⟨⟨0, 1⟩, "A"⟩ =
        [(.of "B" "A" (.errorReply ⟨0, 1⟩ ⟨.handlerFailure, e.message⟩), none)] ∧
      e.remoteKind = .unhandled := by
  intro m e a
  refine ⟨rfl, ?_, rfl, rfl⟩
  exact concludes_of_running (inCode_of_nil rfl) rfl

end DispatchMachine

namespace Hop

theorem remoteKind_retold (id : CorrelationId) (e : CallError) (c : Hop) :
    (c.retold id e).remoteKind = e.reportedKind :=
  (CallError.remoteKind_ofRemote id _).trans (HandlerError.kind_of_call c.contexts e)

theorem reportedKind_retold (id : CorrelationId) (e : CallError) (c : Hop) :
    (c.retold id e).reportedKind = e.reportedKind := by
  have kind := HandlerError.kind_of_call c.contexts e
  refine (CallError.reportedKind_ofRemote id ?_).trans kind
  exact fun unhandled => e.reportedKind_ne_unhandled (kind.symm.trans unhandled)

theorem reportedKind_failure (e : CallError) (hops : List Hop) :
    (failure e hops).reportedKind = e.reportedKind := by
  induction hops with
  | nil => rfl
  | cons c rest ih =>
    cases rest with
    | nil => rfl
    | cons d rest => exact (reportedKind_retold c.id _ d).trans ih

theorem remoteKind_failure (e : CallError) (c : Hop) (rest : List Hop) :
    (failure e (c :: rest)).remoteKind =
      if rest.isEmpty then e.remoteKind else e.reportedKind := by
  cases rest with
  | nil => rfl
  | cons d rest => exact (remoteKind_retold c.id _ d).trans (reportedKind_failure e (d :: rest))

end Hop

namespace Fleet

variable {η β : Type} {moves : List (FleetMove η β)}

/-- For every run of dispatchers on a network that never makes an id twice, and every chain of calls in
it of which the last fails, if the network takes everything and nobody shuts down: each call of the
chain fails. Those before the last do so with an error of the kind that the first handler reported,
which is that of the last unless this was not handled. -/
theorem categories_travel_back (capacity : Nat) (distinct : (issued moves).Nodup) {hops : List Hop}
    {last : Hop} (chain : (start capacity).Chain moves hops last)
    (accepted : ∀ s ∈ ((start capacity).run moves).stations, ∀ x ∈ s.machine.sends, x.2 = none)
    (open' : ∀ k, .act k .shutdown ∉ moves) {error : CallError} {expired : Bool}
    (fails : ((start capacity).run moves).Settles last ⟨.error error, expired⟩)
    {before after : List Hop} {c : Hop} (split : hops = before ++ c :: after) :
    ∃ own : CallError,
      (own.remoteKind = if after.isEmpty then error.remoteKind else error.reportedKind) ∧
        (start capacity).Gets moves c ⟨.error own, after.isEmpty && expired⟩ := by
  subst split
  have rest := chain.suffix
  have settles := rest.settles distinct accepted open' fails
  exact ⟨_, Hop.remoteKind_failure error c after,
    gets distinct (rest.made c List.mem_cons_self) settles⟩

end Fleet

end MessageRelay
