import MessageRelay.Proofs.Dispatch.Record
import MessageRelay.Proofs.Dispatch.Routing

/-!
The lives of handlers and of requests in flight. A handler runs from the request that starts it until
it ends; a request comes into flight with its handler, and is in flight at most as long as that runs.
So nothing is left in flight when all handlers have ended, whatever became of their replies.
-/
namespace MessageRelay

/-- What an act does to requests and handlers is done by this move: an act that is no move of code
does no more to them than time that passes. -/
def HolderAct.toMove {β : Type} (a : HolderAct β) : DispatchMove β := a.move?.getD (.elapse 0)

theorem HolderAct.move?_of_toMove {β : Type} {a : HolderAct β} {move : DispatchMove β}
    (does : a.toMove = move) (other : move ≠ .elapse 0) : a.move? = some move := by
  unfold toMove at does
  cases made : a.move? with
  | none =>
    rw [made] at does
    exact absurd does.symm other
  | some _ =>
    rw [made] at does
    exact congrArg some does

namespace DispatchMachine

variable {η β : Type} {m n : DispatchMachine η β} {a : HolderAct β} {as : List (HolderAct β)}
  {number : Nat} {key : RequestKey} {o : Outcome}

theorem onTable_sameTraffic (operation : CallMove β) (m : DispatchMachine η β) :
    m.site.dispatcher.SameTraffic (m.onTable operation).2.site.dispatcher ∧
      m.SameHandlers (m.onTable operation).2 := by
  have same := Dispatcher.SameTraffic.refl m.site.dispatcher
  simp only [onTable]
  split
  · exact ⟨(same.table _).report _, rfl, rfl⟩
  · exact ⟨⟨rfl, rfl⟩, rfl, rfl⟩
  · exact ⟨same.table _, rfl, rfl⟩

theorem act_traffic (m : DispatchMachine η β) (a : HolderAct β) :
    Traffic m a.toMove (m.answer a) (m.act a) := by
  have same := Dispatcher.SameTraffic.refl m.site.dispatcher
  cases a with
  | move move => exact step_traffic m move
  | hook move => exact operate_traffic m move
  | table operation =>
    obtain ⟨traffic, handlers⟩ := onTable_sameTraffic operation m
    exact quiet_traffic traffic handlers.started handlers.running (by simp [answer])
  | look => exact quiet_traffic (same.table _) rfl rfl (by simp [answer])
  | heed => exact quiet_traffic (same.table _) rfl rfl (by simp [answer])

theorem Coherent.act (h : m.Coherent) (a : HolderAct β) : (m.act a).Coherent :=
  h.traffic (act_traffic m a)

theorem Coherent.acts (h : m.Coherent) (as : List (HolderAct β)) : (m.acts as).Coherent := by
  induction as generalizing m with
  | nil => exact h
  | cons a as ih => exact ih (h.act a)

theorem acts_concat (m : DispatchMachine η β) (as : List (HolderAct β)) (a : HolderAct β) :
    m.acts (as ++ [a]) = (m.acts as).act a := acts_append m as [a]

/-- The handler of this number starts, for the request with this key. -/
structure Starts (m : DispatchMachine η β) (a : HolderAct β) (number : Nat) (key : RequestKey) :
    Prop where
  number : number = m.started.size
  dispatched : ∃ message v handler, a.move? = some (.inbound key.sender message) ∧
    message.kind = .request ∧ message.id? = some key.id ∧
      m.answer a = .routed (.dispatched v handler)

def Concludes (m : DispatchMachine η β) (a : HolderAct β) (number : Nat) (o : Outcome) : Prop :=
  a.move? = some (.conclude number o) ∧ m.answer a = .done

def ConcludedWith (number : Nat) (o : Outcome) : DispatchMachine η β → List (HolderAct β) → Prop
  | _, [] => False
  | m, a :: as => m.Concludes a number o ∨ (m.act a).ConcludedWith number o as

def Concluded (number : Nat) (m : DispatchMachine η β) (as : List (HolderAct β)) : Prop :=
  ∃ o, m.ConcludedWith number o as

theorem act_of_move {move : DispatchMove β} (makes : a.move? = some move) (stays : move ≠ .leave)
    (idle : move ≠ .advance) : (m.answer a = .refused ∧ m.act a = m) ∨
      (m.answer a = (m.operate move).1 ∧ m.act a = (m.operate move).2) := by
  cases a with
  | move _ =>
    cases makes
    by_cases code : m.InCode
    · simp only [answer, act, step_inCode code stays, true_and, or_true]
    · simp only [answer, act, step_of_not_inCode code idle, true_and, true_or]
  | hook _ =>
    cases makes
    exact .inr ⟨rfl, rfl⟩
  | table | look | heed => cases makes

theorem act_concludes (ends : m.Concludes a number o) :
    ∃ v, m.running? number = some v ∧ m.act a =
      { m with site := m.site.conclude m.now v o, running := m.running.erase number } := by
  obtain ⟨makes, done⟩ := ends
  rcases act_of_move (m := m) makes (by simp) (by simp) with ⟨refused, -⟩ | ⟨said, acted⟩
  · rw [done] at refused
    cases refused
  · rw [done] at said
    rw [acted]
    simp only [operate] at said ⊢
    cases runs : m.running? number with
    | none =>
      simp only [runs] at said
      cases said
    | some v => exact ⟨v, rfl, rfl⟩

theorem concludes_of_running (code : m.InCode) (runs : (m.running? number).isSome) :
    m.Concludes (.move (.conclude number o)) number o := by
  refine ⟨rfl, ?_⟩
  obtain ⟨v, runs⟩ := Option.isSome_iff_exists.mp runs
  have stepped : m.step (.conclude number o) = m.operate (.conclude number o) :=
    step_inCode code (by simp)
  simp only [answer, stepped, operate, runs]

theorem concludedWith_concat :
    m.ConcludedWith number o (as ++ [a]) ↔
      m.ConcludedWith number o as ∨ (m.acts as).Concludes a number o := by
  induction as generalizing m with
  | nil => exact ⟨fun ends => .inr (ends.resolve_right id), fun ends => .inl (ends.resolve_left id)⟩
  | cons b as ih => exact (or_congr_right ih).trans or_assoc.symm

theorem concluded_concat :
    m.Concluded number (as ++ [a]) ↔
      m.Concluded number as ∨ ∃ o, (m.acts as).Concludes a number o := by
  simp only [Concluded, concludedWith_concat, exists_or]

theorem Traffic.running_nodup {move : DispatchMove β} {answer : DispatchAnswer η}
    (traffic : m.Traffic move answer n) (h : m.Coherent) (nodup : m.running.Nodup) :
    n.running.Nodup := by
  cases traffic with
  | asked _ _ running | unhandled _ _ _ _ running | answered _ _ _ _ _ running =>
    exact running ▸ nodup
  | dispatched _ _ _ _ _ _ _ running =>
    rw [running]
    exact List.nodup_cons.mpr ⟨fun old => Nat.lt_irrefl _ (h.below _ old), nodup⟩
  | concluded _ _ _ _ running => exact running ▸ nodup.erase _

theorem mem_running_act (nodup : m.running.Nodup) :
    number ∈ (m.act a).running ↔
      (number ∈ m.running ∨ m.started.size ≤ number ∧ number < (m.act a).started.size) ∧
        ¬ ∃ o, m.Concludes a number o := by
  by_cases ends : ∃ o, m.Concludes a number o
  · obtain ⟨o, concludes⟩ := ends
    obtain ⟨v, -, after⟩ := act_concludes concludes
    have past : number ∉ (m.act a).running := by
      rw [after]
      exact nodup.not_mem_erase
    exact ⟨fun runs => absurd runs past, fun both => absurd ⟨o, concludes⟩ both.2⟩
  · rw [and_iff_left ends]
    have same {n : DispatchMachine η β} (started : n.started = m.started)
        (running : number ∈ n.running ↔ number ∈ m.running) : number ∈ n.running ↔
          (number ∈ m.running ∨ m.started.size ≤ number ∧ number < n.started.size) := by
      rw [running, started]
      exact ⟨.inl, fun either => either.resolve_right fun between =>
        absurd between.2 (Nat.not_lt.mpr between.1)⟩
    have traffic := act_traffic m a
    generalize move : a.toMove = made at traffic
    generalize told : m.answer a = answer at traffic
    generalize m.act a = n at traffic ⊢
    cases traffic with
    | asked _ started running | unhandled _ _ _ started running
    | answered _ _ _ _ started running => exact same started (by rw [running])
    | dispatched _ _ _ _ _ _ started running =>
      rw [running, started, List.mem_cons, Array.size_push, or_comm]
      refine or_congr_right ⟨fun new => ?_, fun between => ?_⟩ <;> omega
    | @concluded other _ o _ _ _ _ started running =>
      have different : number ≠ other := fun own => by
        have makes := HolderAct.move?_of_toMove move (by simp)
        exact ends ⟨o, own ▸ makes, told⟩
      exact same started (by rw [running, List.mem_erase_of_ne different])

structure Blank (start : DispatchMachine η β) : Prop where
  started : start.started = #[]
  running : start.running = []
  inFlight : start.inFlight = []
  sends : start.sends = []

namespace Blank

variable {start : DispatchMachine η β}

theorem fresh (name : PeerName) (registry : Registry η) (defaultTimeout : Nanos)
    (network : Network) :
    (fresh name registry defaultTimeout network : DispatchMachine η β).Blank :=
  ⟨rfl, rfl, rfl, rfl⟩

theorem coherent (blank : start.Blank) : start.Coherent := by
  refine ⟨blank.inFlight ▸ List.nodup_nil, ?_, ?_⟩
  · rw [blank.inFlight]
    exact nofun
  · rw [blank.running]
    exact nofun

theorem running_acts (blank : start.Blank) (as : List (HolderAct β)) :
    (start.acts as).running.Nodup ∧
      ∀ number, (start.Concluded number as → number < (start.acts as).started.size) ∧
        (number ∈ (start.acts as).running ↔
          number < (start.acts as).started.size ∧ ¬ start.Concluded number as) := by
  have coherent := blank.coherent
  induction as using List.reverseRecOn with
  | nil =>
    refine ⟨blank.running ▸ List.nodup_nil, fun number => ⟨fun ends => ends.elim fun _ => False.elim, ?_⟩⟩
    have none : (start.acts []).started.size = 0 := congrArg Array.size blank.started
    rw [none, show (start.acts []).running = [] from blank.running]
    exact ⟨nofun, fun below => absurd below.1 (Nat.not_lt_zero _)⟩
  | append_singleton as a ih =>
    obtain ⟨nodup, ih⟩ := ih
    have h := coherent.acts as
    have traffic := act_traffic (start.acts as) a
    have grows := traffic.size_le
    simp only [acts_concat]
    refine ⟨traffic.running_nodup h nodup, fun number => ?_⟩
    obtain ⟨within, runs⟩ := ih number
    have last (ends : ∃ o, (start.acts as).Concludes a number o) :
        number < (start.acts as).started.size := by
      obtain ⟨o, concludes⟩ := ends
      obtain ⟨v, going, -⟩ := act_concludes concludes
      exact h.below number (running?_eq_some.mp going).1
    rw [concluded_concat, mem_running_act nodup, runs]
    constructor
    · rintro (before | now)
      · exact Nat.lt_of_lt_of_le (within before) grows
      · exact Nat.lt_of_lt_of_le (last now) grows
    · by_cases before : start.Concluded number as
      · have below : ¬ (start.acts as).started.size ≤ number := Nat.not_le.mpr (within before)
        simp only [before, below, true_or, not_true_eq_false, and_false, false_and, or_self]
      · simp only [before, not_false_eq_true, and_true, false_or]
        refine and_congr_left fun _ => ?_
        omega

end Blank

theorem Traffic.opened_or_starts {move : DispatchMove β} {answer : DispatchAnswer η}
    (traffic : m.Traffic move answer n) (open' : key ∈ n.inFlight) :
    (key ∈ m.inFlight ∧ ∀ number, m.Opened number key → n.Opened number key) ∨
      key ∉ m.inFlight ∧ n.Opened m.started.size key ∧
        ∃ message v handler, move = .inbound key.sender message ∧ message.kind = .request ∧
          message.id? = some key.id ∧ answer = .routed (.dispatched v handler) := by
  cases traffic with
  | asked asks started =>
    have same : n.inFlight = m.inFlight := asks.1
    exact .inl ⟨same ▸ open', fun number opened => opened.of_started started open'⟩
  | unhandled _ inFlight _ started =>
    exact .inl ⟨inFlight ▸ open', fun number opened => opened.of_started started open'⟩
  | answered _ _ inFlight _ started =>
    exact .inl ⟨List.mem_of_mem_erase (inFlight ▸ open'),
      fun number opened => opened.of_started started open'⟩
  | concluded _ inFlight _ started =>
    refine .inl ⟨?_, fun number opened => opened.of_started started open'⟩
    have still := inFlight ▸ open'
    unfold Site.remaining at still
    split at still
    · exact still
    · exact List.mem_of_mem_erase still
  | @dispatched sender message v handler _ kind origin named fresh inFlight _ started =>
    by_cases own : v.key? = some key
    · obtain ⟨id, named', rfl⟩ := Option.map_eq_some_iff.mp own
      refine .inr ⟨fresh _ own, ⟨open', ⟨v, ?_, own⟩, fun later w lt found => ?_⟩, message, v,
        handler, by rw [origin], kind, named.symm.trans named', rfl⟩
      · rw [started, Array.getElem?_push, if_pos rfl]
      · have within := (Array.getElem?_eq_some_iff.mp found).1
        rw [started, Array.size_push] at within
        omega
    · have before : key ∈ m.inFlight := by
        rw [inFlight, List.mem_append, Option.mem_toList] at open'
        exact open'.resolve_left own
      exact .inl ⟨before, fun number opened => opened.push started own open'⟩

theorem Blank.opened_since {start : DispatchMachine η β} (blank : start.Blank)
    (as : List (HolderAct β)) :
    key ∈ (start.acts as).inFlight → ∃ before a after number, as = before ++ a :: after ∧
      (start.acts before).Starts a number key ∧ key ∉ (start.acts before).inFlight ∧
        ∀ early, early <+: after → (start.acts (before ++ a :: early)).Opened number key := by
  induction as using List.reverseRecOn with
  | nil =>
    intro open'
    have none : (start.acts []).inFlight = [] := blank.inFlight
    rw [none] at open'
    cases open'
  | append_singleton as b ih =>
    intro open'
    rw [acts_concat] at open'
    rcases (act_traffic (start.acts as) b).opened_or_starts open' with
      ⟨there, keeps⟩ | ⟨new, opened, message, v, handler, makes, kind, named, told⟩
    · obtain ⟨before, a, after, number, rfl, starts, new, since⟩ := ih there
      refine ⟨before, a, after ++ [b], number, by simp, starts, new, fun early within => ?_⟩
      rcases List.prefix_concat_iff.mp within with rfl | within
      · have whole : before ++ a :: (after ++ [b]) = before ++ a :: after ++ [b] := by simp
        rw [whole, acts_concat]
        exact keeps number (since after (List.prefix_refl after))
      · exact since early within
    · refine ⟨as, b, [], _, rfl, ⟨rfl, message, v, handler, ?_, kind, named, told⟩, new,
        fun early within => ?_⟩
      · exact HolderAct.move?_of_toMove makes (by simp)
      · rw [List.prefix_nil.mp within, acts_concat]
        exact opened

/-- In every state that a dispatcher can be brought to: no request is in flight twice; one that is
came into flight when its handler was started, has been so ever since, and this handler has not ended.
Once all handlers have ended none is in flight, and any request that a namespace takes starts its
handler. -/
theorem requests_end_with_handlers (name : PeerName) (registry : Registry η)
    (defaultTimeout : Nanos) (network : Network) (as : List (HolderAct β)) :
    let start : DispatchMachine η β := fresh name registry defaultTimeout network
    let m := start.acts as
    m.inFlight.Nodup ∧
    (∀ key ∈ m.inFlight, ∃ before a after number, as = before ++ a :: after ∧
      (start.acts before).Starts a number key ∧ ¬ start.Concluded number as ∧
        key ∉ (start.acts before).inFlight ∧
          ∀ early, early <+: after → key ∈ (start.acts (before ++ a :: early)).inFlight) ∧
    ((∀ number < m.started.size, start.Concluded number as) → m.inFlight = [] ∧
      ∀ sender message ns handler, message.kind = .request →
        registry.Routes message.typeName ns handler →
        (m.operate (.inbound sender message)).1 =
          .routed (.dispatched (m.site.invocation m.now sender message) handler)) := by
  intro start m
  have blank : start.Blank := .fresh name registry defaultTimeout network
  have h : m.Coherent := blank.coherent.acts as
  obtain ⟨-, lives⟩ := blank.running_acts as
  refine ⟨h.nodup, fun key open' => ?_, fun all => ?_⟩
  · obtain ⟨before, a, after, number, rfl, starts, new, since⟩ :=
      blank.opened_since as open'
    obtain ⟨other, runs, opened⟩ := h.opened key open'
    cases opened.unique (since after (List.prefix_refl after))
    exact ⟨before, a, after, _, rfl, starts, ((lives _).2.mp runs).2, new,
      fun early within => (since early within).inFlight⟩
  · have none : m.inFlight = [] := List.eq_nil_iff_forall_not_mem.mpr fun key open' => by
      obtain ⟨number, runs, -⟩ := h.opened key open'
      obtain ⟨below, going⟩ := (lives number).2.mp runs
      exact going (all number below)
    refine ⟨none, fun sender message ns handler kind routes => ?_⟩
    have made : m.made = (name, registry, defaultTimeout) := made_acts _ as
    have own : m.site.dispatcher.registry = registry := congrArg (·.2.1) made
    have decided := decided_request kind (Site.onRequest_requested m.now sender message m.site)
    have fresh : ¬ m.site.Repeats sender message := by
      rintro ⟨id, -, open'⟩
      have open' : _ ∈ m.inFlight := open'
      rw [none] at open'
      exact List.not_mem_nil open'
    rw [operate_request sender kind]
    refine congrArg DispatchAnswer.routed ((decided.dispatched _ handler).mpr ⟨kind, ⟨ns, ?_⟩, fresh, rfl⟩)
    rw [own]
    exact routes

def brief : List (HolderAct Empty) :=
  [.move (.inbound "A" (.request "" .null default)), .move (.reply 0 ⟨"Accepted", .null⟩),
    .move (.inbound "C" (.request "" .null default)), .move (.conclude 1 (.broken none)),
    .move (.conclude 0 .silent)]

theorem requests_end_with_handlers_brief :
    let start : DispatchMachine Unit Empty :=
      fresh "B" ⟨[("", ())]⟩ 0 { lanes := #[{}], peers := [("A", 0)] }
    let m := start.acts brief
    m.inFlight = [] ∧ (m.operate (.inbound "A" (.request "" .null default))).1 =
      .routed (.dispatched ⟨"A", "B", "", .null, some default, 0⟩ ()) := by
  intro start m
  obtain ⟨-, -, past⟩ := requests_end_with_handlers "B" ⟨[("", ())]⟩ 0
    { lanes := #[{}], peers := [("A", 0)] } brief
  have all : ∀ number < 2, start.Concluded number brief := fun number below => by
    obtain rfl | rfl : number = 0 ∨ number = 1 := by omega
    · exact ⟨.silent, .inr (.inr (.inr (.inr (.inl
        (concludes_of_running (inCode_of_nil (by decide +kernel)) (by decide +kernel))))))⟩
    · exact ⟨.broken none, .inr (.inr (.inr (.inl
        (concludes_of_running (inCode_of_nil (by decide +kernel)) (by decide +kernel)))))⟩
  obtain ⟨none, again⟩ := past all
  exact ⟨none, again "A" (.request "" .null default) "" () rfl
    (Registry.resolve_eq_some_iff.mp rfl)⟩

end DispatchMachine

end MessageRelay
