import MessageRelay.Dispatch.Caller
import MessageRelay.Proofs.Dispatch.Hops

/-!
How a call that is awaited comes to an end. Whatever is done to the dispatcher or to its table, the
call stays awaited until some act takes its entry out; this one decides what the caller gets, and
whether that counts as a deadline of its own. So a caller that takes its deadline for no answer at all
gets, but for that, what any caller gets.
-/
namespace MessageRelay

namespace CallMachine

variable {β : Type} {m n : CallMachine β} {reply : PendingReply} {call : PendingCall}
  {s : Settlement}

theorem Alike.awaited (same : m.Alike n) (w : m.Awaited reply call) : n.Awaited reply call where
  held := same.replies ▸ w.held
  unsettled := w.unsettled
  found := same.table ▸ w.found
  ticket := w.ticket

def Yields (m : CallMachine β) (reply : PendingReply) (s : Settlement) : Prop :=
  ∃ c, m.table.channels[reply.ticket]? = some c ∧ c.outcome? = some s

theorem Alike.yields (same : m.Alike n) (y : m.Yields reply s) : n.Yields reply s := by
  rwa [Yields, same.table]

theorem Yields.poll (y : m.Yields reply s) : (m.table.poll reply).1 = some s.result := by
  obtain ⟨c, channel, outcome⟩ := y
  cases c with
  | waiting => cases outcome
  | settled =>
    cases outcome
    rw [CallTable.poll, channel]
  | abandoned =>
    cases outcome
    rw [CallTable.poll, channel]

theorem Yields.run (h : m.Coherent) (y : m.Yields reply s) (moves : List (CallMove β)) :
    (m.run moves).Yields reply s := by
  obtain ⟨c, channel, outcome⟩ := y
  exact ⟨c, h.keeps_channel channel outcome moves, outcome⟩

theorem Yields.not_awaited (h : m.Coherent) (y : m.Yields reply s)
    (ticket : call.ticket = reply.ticket) (id : CorrelationId) : m.table.find? id ≠ some call := by
  intro found
  obtain ⟨c, channel, outcome⟩ := y
  rw [← ticket, h.table.waiting found] at channel
  cases channel
  cases outcome

theorem Awaited.stays_or_ends (h : m.Coherent) (w : m.Awaited reply call) (moves : List (CallMove β)) :
    (m.run moves).Awaited reply call ∨
      ∃ first move rest s, moves = first ++ move :: rest ∧
        (m.run first).Ends reply.id call move s ∧ (m.run moves).Yields reply s := by
  induction moves generalizing m with
  | nil => exact .inl w
  | cons move moves ih =>
    rcases w.change h (step_change h.table move) with next | ⟨-, s, ends, yields⟩
    · rcases ih (h.step move) next with last | ⟨first, later, rest, s, rfl, ends, yields⟩
      · exact .inl last
      · exact .inr ⟨move :: first, later, rest, s, rfl, ends, yields⟩
    · exact .inr ⟨[], move, moves, s, rfl, ends, Yields.run (h.step move) yields moves⟩

theorem Ends.expired_iff {id : CorrelationId} {move : CallMove β} (ends : m.Ends id call move s) :
    (s.expired = true ↔ move = .expire id ∨ move = .advance) ∧
      (s.expired = true → s.result = .error (.timeout id call.timeoutDetail)) := by
  cases ends <;> simp

theorem Ends.not_awaited {id : CorrelationId} (h : m.Coherent)
    {move : CallMove β} (same : reply.id = id) (ends : m.Ends id call move s) :
    ¬ (m.step move).2.Awaited reply call := by
  intro still
  have gone := ends.not_isPending h
  rw [CallTable.isPending_iff.mpr ⟨call, same ▸ still.found⟩] at gone
  cases gone

end CallMachine

namespace DispatchMachine

open CallMachine

variable {η β : Type} {m : DispatchMachine η β} {reply : PendingReply} {call : PendingCall}
  {s : Settlement} {a : HolderAct β}

def Expires (m : DispatchMachine η β) (id : CorrelationId) (a : HolderAct β) : Prop :=
  a = .table (.expire id) ∨
    a = .move .advance ∧ ∃ now count below timer, m.stack = .pass now count :: below ∧
      (m.site.dispatcher.table.timers.popDue now).1 = some (timer, .expiry id)

/-- The act takes the entry of the call out, and the caller gets `s`. -/
structure EndedBy (m : DispatchMachine η β) (reply : PendingReply) (call : PendingCall)
    (a : HolderAct β) (s : Settlement) : Prop where
  yields : (m.act a).bare.Yields reply s
  expired : s.expired = true ↔ m.Expires reply.id a
  timeout : s.expired = true → s.result = .error (.timeout reply.id call.timeoutDetail)

theorem expire_not_mem_callMoves (id : CorrelationId) (move : DispatchMove β) :
    .expire id ∉ m.callMoves move := by
  intro member
  cases move with
  | inbound sender message =>
    simp only [callMoves, Message.callMove?, Option.mem_toList] at member
    split at member <;> cases member
  | request id target typeName payload timeout =>
    rcases List.mem_cons.mp member with first | after
    · cases first
    · split at after <;> simp at after
  | _ => simp [callMoves] at member

theorem not_expired_of_callMoves {c : CallMachine β} {move : DispatchMove β} (other : move ≠ .advance)
    {inner : CallMove β} (member : inner ∈ m.callMoves move) {id : CorrelationId}
    (ends : c.Ends id call inner s) : ¬ s.expired = true := by
  rw [ends.expired_iff.1]
  rintro (rfl | rfl)
  · exact expire_not_mem_callMoves _ _ member
  · exact advance_not_mem_callMoves other _ member rfl

def Settles (m : DispatchMachine η β) (reply : PendingReply) (call : PendingCall) (a : HolderAct β) :
    Prop :=
  (m.act a).bare.Awaited reply call ∧ ¬ m.Expires reply.id a ∨ ∃ s, m.EndedBy reply call a s

section Settles

variable (h : m.bare.Coherent) (w : m.bare.Awaited reply call)
include h w

theorem settles_of_run {c : CallMachine β} {moves : List (CallMove β)} (before : m.bare.Alike c)
    (after : (c.run moves).Alike (m.act a).bare) (quiet : ¬ m.Expires reply.id a)
    (tells : ∀ (n : CallMachine β) move s, move ∈ moves → n.Ends reply.id call move s →
      ¬ s.expired = true) : m.Settles reply call a := by
  rcases (before.awaited w).stays_or_ends (before.coherent h) moves with
    still | ⟨first, move, rest, s, split, ends, yields⟩
  · exact .inl ⟨after.awaited still, quiet⟩
  · have member : move ∈ moves := split ▸ List.mem_append_right _ List.mem_cons_self
    have timely := tells _ move s member ends
    exact .inr ⟨s, after.yields yields, iff_of_false timely quiet, ends.expired_iff.2⟩

theorem settles_of_step {c : CallMachine β} {move : CallMove β} (before : m.bare.Alike c)
    (after : (c.step move).2.Alike (m.act a).bare)
    (tells : (∃ s, c.Ends reply.id call move s ∧ s.expired = true) ↔ m.Expires reply.id a) :
    m.Settles reply call a := by
  have coherent := before.coherent h
  have waits := before.awaited w
  rcases waits.change coherent (step_change coherent.table move) with still | ⟨-, s, ends, yields⟩
  · refine .inl ⟨after.awaited still, fun expires => ?_⟩
    obtain ⟨s, ends, -⟩ := tells.mpr expires
    exact ends.not_awaited coherent rfl still
  · refine .inr ⟨s, after.yields yields, ⟨fun late => tells.mp ⟨s, ends, late⟩, fun expires => ?_⟩,
      ends.expired_iff.2⟩
    obtain ⟨s', ends', late⟩ := tells.mpr expires
    exact ends.unique ends' ▸ late

theorem settles_advance : m.Settles reply call (.move .advance) := by
  have coherent : m.calls.Coherent := Alike.coherent (c := m.bare) ⟨rfl, rfl⟩ h
  have same : (m.step .advance).2.calls = (m.calls.step .advance).2 := step_calls coherent .advance
  refine settles_of_step h w (c := m.calls) ⟨rfl, rfl⟩ (same ▸ bare_calls _) ⟨?_, ?_⟩
  · rintro ⟨s, ends, -⟩
    cases ends with
    | timer pass due =>
      rcases stack : m.stack with _ | ⟨⟨now, count⟩ | payload, below⟩
      · simp [calls, stack] at pass
      · simp only [calls, stack, List.map_cons, DispatchFrame.asCallFrame, List.cons.injEq,
          CallFrame.pass.injEq] at pass
        obtain ⟨⟨rfl, -⟩, -⟩ := pass
        exact .inr ⟨rfl, now, count, below, call.timer, stack, due⟩
      · simp [calls, stack, DispatchFrame.asCallFrame] at pass
  · rintro (other | ⟨-, now, count, below, timer, pass, due⟩)
    · cases other
    · have inner : m.calls.stack = .pass now count :: below.map DispatchFrame.asCallFrame := by
        simp only [calls, pass, List.map_cons, DispatchFrame.asCallFrame]
      have popped : m.site.dispatcher.table.timers.popDue now = (some (timer, .expiry reply.id), _) :=
        Prod.ext due rfl
      -- A timer that is live is the one that the entry of its call names.
      obtain ⟨owner, found, rfl⟩ := h.table.expiry (TimerQueue.popDue_some popped).1
      obtain rfl : owner = call := Option.some.inj (found.symm.trans w.found)
      exact ⟨_, .timer inner due, rfl⟩

theorem settles_table (operation : CallMove β) : m.Settles reply call (.table operation) := by
  have code : m.bare.InCode := CallMachine.inCode_of_nil rfl
  refine settles_of_step h w (c := m.bare) ⟨rfl, rfl⟩ (onTable_bare operation m) ⟨?_, ?_⟩
  · rintro ⟨s, ends, late⟩
    rcases ends.expired_iff.1.mp late with rfl | rfl
    · exact .inl rfl
    · cases ends with
      | timer pass => exact absurd pass (code _ _ _)
  · rintro (same | ⟨other, -⟩)
    · cases same
      exact ⟨_, .expire code, rfl⟩
    · cases other

theorem settles_hook (move : DispatchMove β) : m.Settles reply call (.hook move) := by
  have quiet : ¬ m.Expires reply.id (.hook move) := by
    rintro (same | ⟨same, -⟩) <;> cases same
  have coherent : m.idle.calls.Coherent := Alike.coherent (c := m.bare) ⟨rfl, rfl⟩ h
  by_cases outside : move = .leave ∨ move = .advance
  · have same : m.act (.hook move) = m := by rcases outside with rfl | rfl <;> rfl
    exact .inl ⟨same.symm ▸ w, quiet⟩
  · rw [not_or] at outside
    have moved := operate_calls coherent (inCode_of_nil rfl) outside.1
    exact settles_of_run h w (c := m.idle.calls) ⟨rfl, rfl⟩ (moved ▸ operate_idle m move) quiet
      fun n inner s member ends => not_expired_of_callMoves outside.2 member ends

theorem settles_move (move : DispatchMove β) : m.Settles reply call (.move move) := by
  by_cases advances : move = .advance
  · exact advances ▸ settles_advance h w
  · have coherent : m.calls.Coherent := Alike.coherent (c := m.bare) ⟨rfl, rfl⟩ h
    have quiet : ¬ m.Expires reply.id (.move move) := by
      rintro (same | ⟨same, -⟩)
      · cases same
      · exact advances (HolderAct.move.inj same)
    exact settles_of_run h w (c := m.calls) ⟨rfl, rfl⟩ (step_calls coherent move ▸ bare_calls _) quiet
      fun n inner s member ends => not_expired_of_callMoves advances member ends

theorem settles_act (a : HolderAct β) : m.Settles reply call a := by
  cases a with
  | move move => exact settles_move h w move
  | hook move => exact settles_hook h w move
  | table operation => exact settles_table h w operation
  | look | heed => exact .inl ⟨⟨w.held, w.unsettled, w.found, w.ticket⟩, by rintro (⟨⟨⟩⟩ | ⟨⟨⟩, -⟩)⟩

end Settles

/-- What the first turn finds at which the reply has a result. -/
def delivery? (reply : PendingReply) :
    DispatchMachine η β → List (CallerEvent β) → Option (CallResult × Bool)
  | _, [] => none
  | m, .act a :: events => delivery? reply (m.act a) events
  | m, .turn :: events =>
    match m.site.dispatcher.table.poll reply with
    | (some result, polled) => some (result, polled.expired)
    | (none, _) => delivery? reply m events

/-- The first act after which the entry of the call is not there any more, and the machine before. -/
def ending? (id : CorrelationId) (call : PendingCall) :
    DispatchMachine η β → List (HolderAct β) → Option (DispatchMachine η β × HolderAct β)
  | _, [] => none
  | m, a :: as =>
    if (m.act a).site.dispatcher.table.find? id = some call then ending? id call (m.act a) as
    else some (m, a)

section Programs

variable {α : Type} {next : List (CallResult × Bool) → Program α} {f : CallResult × Bool → α}

theorem attend_finish (m : DispatchMachine η β) (x : α) (events : List (CallerEvent β)) :
    (m.attend (.finish x) events).1 = .finish x := by
  induction events generalizing m with
  | nil => rfl
  | cons event events ih => cases event <;> exact ih _

theorem attend_machine (m : DispatchMachine η β) (p : Program α) (events : List (CallerEvent β)) :
    (m.attend p events).2 = m.acts (events.filterMap CallerEvent.act?) := by
  induction events generalizing m p with
  | nil => rfl
  | cons event events ih => cases event <;> exact ih _ _

theorem attend_await (ends : ∀ answer, next [answer] = .finish (f answer)) (m : DispatchMachine η β)
    (events : List (CallerEvent β)) :
    (m.attend (.perform (.await [reply]) next) events).1 =
      match m.delivery? reply events with
      | none => .perform (.await [reply]) next
      | some answer => .finish (f answer) := by
  induction events generalizing m with
  | nil => rfl
  | cons event events ih =>
    cases event with
    | act a => exact ih (m.act a)
    | turn =>
      simp only [attend, resume, CallTable.resultsOf, delivery?]
      rcases m.site.dispatcher.table.poll reply with ⟨_ | result, polled⟩
      · exact ih m
      · exact (congrArg (m.attend · events |>.1) (ends _)).trans (attend_finish m _ events)

end Programs

theorem act_yields (h : m.bare.Coherent) (y : m.bare.Yields reply s) (a : HolderAct β) :
    (m.act a).bare.Yields reply s := by
  obtain ⟨c, c', before, moved, after⟩ := act_bare h a
  obtain ⟨channel, there, outcome⟩ := before.yields y
  exact after.yields ⟨channel, moved.keeps_channel (before.coherent h) there outcome, outcome⟩

theorem acts_yields (h : m.bare.Coherent) (y : m.bare.Yields reply s) (as : List (HolderAct β)) :
    (m.acts as).bare.Yields reply s := by
  induction as generalizing m with
  | nil => exact y
  | cons a as ih => exact ih (act_coherent h a) (act_yields h y a)

theorem delivery_of_yields (h : m.bare.Coherent) (y : m.bare.Yields reply s)
    (fresh : reply.expired = false) (events : List (CallerEvent β)) :
    (m.delivery? reply events = none ∨ m.delivery? reply events = some (s.result, s.expired)) ∧
      m.delivery? reply (events ++ [.turn]) = some (s.result, s.expired) := by
  induction events generalizing m with
  | nil =>
    obtain ⟨c, channel, outcome⟩ := y
    have polls : m.site.dispatcher.table.poll reply = (some s.result, reply.delivered s) :=
      CallTable.poll_eq_some channel outcome fresh
    refine ⟨.inl rfl, ?_⟩
    simp only [List.nil_append, delivery?, polls]
    rfl
  | cons event events ih =>
    cases event with
    | act a => exact ih (act_coherent h a) (act_yields h y a)
    | turn =>
      obtain ⟨c, channel, outcome⟩ := y
      have polls : m.site.dispatcher.table.poll reply = (some s.result, reply.delivered s) :=
        CallTable.poll_eq_some channel outcome fresh
      simp only [List.cons_append, delivery?, polls]
      exact ⟨.inr rfl, rfl⟩

theorem delivery_of_awaited (h : m.bare.Coherent) (w : m.bare.Awaited reply call)
    (fresh : reply.expired = false) (events : List (CallerEvent β)) :
    match m.ending? reply.id call (events.filterMap CallerEvent.act?) with
    | none => m.delivery? reply events = none
    | some (l, a) => ∃ s, l.EndedBy reply call a s ∧
      (m.delivery? reply events = none ∨ m.delivery? reply events = some (s.result, s.expired)) ∧
      m.delivery? reply (events ++ [.turn]) = some (s.result, s.expired) := by
  induction events generalizing m with
  | nil => rfl
  | cons event events ih =>
    cases event with
    | turn =>
      have polls : m.site.dispatcher.table.poll reply = (none, reply) := w.poll h
      simp only [List.filterMap_cons, CallerEvent.act?, List.cons_append, delivery?, polls]
      exact ih h w
    | act a =>
      have next := act_coherent h a
      simp only [List.filterMap_cons, CallerEvent.act?, ending?, List.cons_append, delivery?]
      rcases settles_act h w a with ⟨still, -⟩ | ⟨s, ended⟩
      · have found : (m.act a).site.dispatcher.table.find? reply.id = some call := still.found
        rw [if_pos found]
        exact ih next still
      · have gone : (m.act a).site.dispatcher.table.find? reply.id ≠ some call :=
          ended.yields.not_awaited next w.ticket reply.id
        rw [if_neg gone]
        exact ⟨s, ended, delivery_of_yields next ended.yields fresh events⟩

theorem operate_request_answers (m : DispatchMachine η β) (id : CorrelationId) (target : PeerName)
    (typeName : String) (payload : Json) (timeout : Nanos) :
    ∃ answer n, m.operate (.request id target typeName payload timeout) = (.requested answer, n) := by
  simp only [operate]
  split <;> exact ⟨_, _, rfl⟩

theorem awaited_of_operate (h : m.bare.Coherent) {n : DispatchMachine η β} {id : CorrelationId}
    {target : PeerName} {typeName : String} {payload : Json} {timeout : Nanos}
    (requested : m.operate (.request id target typeName payload timeout) =
      (.requested (.ok reply), n)) :
    ∃ ticket timer, reply = ⟨id, ticket, false, false⟩ ∧
      n.bare.Awaited reply ⟨⟨some target, typeName⟩, timeout, timer, ticket⟩ := by
  let move : DispatchMove β := .request id target typeName payload timeout
  have coherent : m.idle.calls.Coherent := Alike.coherent (c := m.bare) ⟨rfl, rfl⟩ h
  have code : m.idle.step move = m.idle.operate move :=
    step_inCode (inCode_of_nil rfl) (by simp [move])
  have answer : (m.idle.operate move).1 = (m.operate move).1 := by
    simp only [move, operate, idle]
    split <;> rfl
  rw [requested] at answer
  obtain ⟨ticket, timer, same, waits⟩ :=
    awaited_of_requested coherent ((congrArg Prod.fst code).trans answer)
  have alike := operate_idle m move
  rw [requested, ← code] at alike
  exact ⟨ticket, timer, same, alike.awaited waits⟩

theorem issue_of_requested {α : Type} {n : DispatchMachine η β} {id : CorrelationId}
    {target : PeerName} {typeName : String} {payload : Json} {timeout : Nanos}
    {answer : Except CallError PendingReply}
    (requested : m.operate (.request id target typeName payload timeout) = (.requested answer, n))
    (next : Except CallError PendingReply → Program α) :
    m.issue id (.perform (.request target typeName payload (some timeout)) next) =
      (next answer, n) := by
  simp only [issue, Option.getD_some, requested]

/-- What a caller that takes its own deadline for no answer makes of a result. -/
def orNone : CallResult × Bool → Except CallError (Option Reply)
  | (.ok reply, _) => .ok (some reply)
  | (.error (.timeout ..), true) => .ok none
  | (.error e, _) => .error e

theorem orNone_of_not_expired (result : CallResult) : orNone (result, false) = result.map some := by
  rcases result with (_ | _) | _ <;> rfl

theorem map_some_ne_none (result : CallResult) : result.map some ≠ .ok none := by
  cases result <;> simp [Except.map]

/-- What both callers get, by the act that ends their call. -/
structure Verdict (l : DispatchMachine η β) (id : CorrelationId) (call : PendingCall)
    (a : HolderAct β) (result : CallResult) (given : Except CallError (Option Reply)) : Prop where
  none : given = .ok none ↔ l.Expires id a
  late : l.Expires id a → result = .error (.timeout id call.timeoutDetail)
  timely : ¬ l.Expires id a → given = result.map some

theorem EndedBy.verdict (ended : m.EndedBy reply call a s) :
    m.Verdict reply.id call a s.result (orNone (s.result, s.expired)) := by
  cases late : s.expired with
  | true =>
    have expires := ended.expired.mp late
    have result := ended.timeout late
    rw [result]
    exact ⟨iff_of_true rfl expires, fun _ => rfl, fun never => absurd expires never⟩
  | false =>
    have never : ¬ m.Expires reply.id a := by
      rw [← ended.expired, late]
      exact Bool.false_ne_true
    rw [orNone_of_not_expired]
    exact ⟨iff_of_false (map_some_ne_none _) never, fun expires => absurd expires never, fun _ => rfl⟩

theorem verdict_of_awaited (h : m.bare.Coherent) (w : m.bare.Awaited reply call)
    (fresh : reply.expired = false) {next : List (CallResult × Bool) → Program CallResult}
    {next' : List (CallResult × Bool) → Program (Except CallError (Option Reply))}
    (ends : ∀ answer, next [answer] = .finish answer.1)
    (ends' : ∀ answer, next' [answer] = .finish (orNone answer)) (events : List (CallerEvent β)) :
    let c := Program.perform (.await [reply]) next
    let d := Program.perform (.await [reply]) next'
    match m.ending? reply.id call (events.filterMap CallerEvent.act?) with
    | none => (m.attend c events).1 = c ∧ (m.attend d events).1 = d
    | some (l, a) => ∃ result given, l.Verdict reply.id call a result given ∧
        ((m.attend c events).1 = c ∧ (m.attend d events).1 = d ∨
          (m.attend c events).1 = .finish result ∧ (m.attend d events).1 = .finish given) ∧
        (m.attend c (events ++ [.turn])).1 = .finish result ∧
        (m.attend d (events ++ [.turn])).1 = .finish given := by
  intro c d
  have delivered := delivery_of_awaited h w fresh events
  have atC (events : List (CallerEvent β)) : (m.attend c events).1 = _ := attend_await ends m events
  have atD (events : List (CallerEvent β)) : (m.attend d events).1 = _ := attend_await ends' m events
  cases ending : m.ending? reply.id call (events.filterMap CallerEvent.act?) with
  | none =>
    simp only [ending] at delivered ⊢
    rw [atC, atD, delivered]
    exact ⟨rfl, rfl⟩
  | some last =>
    obtain ⟨l, a⟩ := last
    simp only [ending] at delivered ⊢
    obtain ⟨s, ended, now, soon⟩ := delivered
    refine ⟨_, _, ended.verdict, ?_, ?_, ?_⟩
    · rw [atC, atD]
      rcases now with none | some
      · rw [none]
        exact .inl ⟨rfl, rfl⟩
      · rw [some]
        exact .inr ⟨rfl, rfl⟩
    · rw [atC, soon]
    · rw [atD, soon]

/-- In every state that a dispatcher can be brought to, a call and one that takes its deadline for no
answer are refused alike. If they are not, both wait until some act takes the entry of the call out,
whatever is done meanwhile, and both end at the next turn. The one gives no answer just if the entry
was expired, where the other gives that it timed out; else both give the same reply or error, be it a
timeout that the peer reports. -/
theorem call_or_none_differs_on_expiry (name : PeerName) (registry : Registry η)
    (defaultTimeout : Nanos) (network : Network) (as : List (HolderAct β)) (id : CorrelationId)
    (target : PeerName) (typeName : String) (payload : Json) (timeout : Nanos) :
    let m : DispatchMachine η β := (fresh name registry defaultTimeout network).acts as
    let c := m.issue id (Program.call target typeName payload (some timeout))
    let d := m.issue id (Program.callOrNone target typeName payload timeout)
    c.2 = d.2 ∧
    ((∃ e, c.1 = .finish (.error e) ∧ d.1 = .finish (.error e)) ∨
      ∃ call, c.2.site.dispatcher.table.find? id = some call ∧ call.timeout = timeout ∧
        (∀ result, c.1 ≠ .finish result) ∧ (∀ given, d.1 ≠ .finish given) ∧
        ∀ events : List (CallerEvent β),
          let acts := events.filterMap CallerEvent.act?
          let p := c.2.attend c.1 events
          let q := d.2.attend d.1 events
          p.2 = c.2.acts acts ∧ q.2 = c.2.acts acts ∧
          match c.2.ending? id call acts with
          | none => p.1 = c.1 ∧ q.1 = d.1
          | some (l, a) => ∃ result given, l.Verdict id call a result given ∧
              (p.1 = c.1 ∧ q.1 = d.1 ∨ p.1 = .finish result ∧ q.1 = .finish given) ∧
              (c.2.attend c.1 (events ++ [.turn])).1 = .finish result ∧
              (d.2.attend d.1 (events ++ [.turn])).1 = .finish given) := by
  intro m c d
  have h : m.bare.Coherent := acts_coherent (bare_fresh name registry defaultTimeout network) as
  obtain ⟨answer, n, requested⟩ := operate_request_answers m id target typeName payload timeout
  have issued {α : Type} (next : Except CallError PendingReply → Program α) :=
    issue_of_requested requested next
  cases answer with
  | error e =>
    have hc : c = (.finish (.error e), n) := issued _
    have hd : d = (.finish (.error e), n) := issued _
    rw [hc, hd]
    exact ⟨rfl, .inl ⟨e, rfl, rfl⟩⟩
  | ok reply =>
    obtain ⟨ticket, timer, rfl, waits⟩ := awaited_of_operate h requested
    have coherent : n.bare.Coherent := by
      have after := act_coherent h (.hook (.request id target typeName payload timeout))
      rwa [act, requested] at after
    obtain ⟨next, hc, ends⟩ : ∃ next, c = (.perform (.await [_]) next, n) ∧
        ∀ answer, next [answer] = .finish answer.1 := ⟨_, issued _, fun _ => rfl⟩
    obtain ⟨next', hd, ends'⟩ : ∃ next, d = (.perform (.await [_]) next, n) ∧
        ∀ answer, next [answer] = .finish (orNone answer) := by
      refine ⟨_, issued _, ?_⟩
      rintro ⟨(_ | _) | _, _ | _⟩ <;> rfl
    rw [hc, hd]
    have waiting {α : Type} (next : List (CallResult × Bool) → Program α) (x : α) :
        Program.perform (.await [⟨id, ticket, false, false⟩]) next ≠ .finish x :=
      fun same => by cases same
    refine ⟨rfl, .inr ⟨_, waits.found, rfl, waiting next, waiting next', fun events => ?_⟩⟩
    exact ⟨attend_machine _ _ _, attend_machine _ _ _,
      verdict_of_awaited coherent waits rfl ends ends' events⟩

theorem call_or_none_differs_on_expiry_relayed :
    let m : DispatchMachine Empty Empty :=
      fresh "A" {} 1000 ((Network.start 4).attach "B").2
    let c := m.issue default (Program.call "B" "Job" .null (some 5))
    let d := m.issue default (Program.callOrNone "B" "Job" .null 5)
    let late : CallError := .timeout default "Job to B got no reply within 0ms"
    let relayed : List (CallerEvent Empty) := [.act (.move (.inbound "B"
      (.errorReply default ⟨.timeout, "Job to B got no reply within 0ms"⟩))), .turn]
    let passed : List (CallerEvent Empty) :=
      [.act (.move (.enter 5)), .turn, .act (.move .advance), .turn]
    ((c.2.attend c.1 relayed).1 = .finish (.error late) ∧
      (d.2.attend d.1 relayed).1 = .finish (.error late)) ∧
    (c.2.attend c.1 passed).1 = .finish (.error late) ∧
      (d.2.attend d.1 passed).1 = .finish (.ok none) := by
  intro m c d late relayed passed
  obtain ⟨-, ⟨e, refused, -⟩ | ⟨call, found, -, -, -, attends⟩⟩ :=
    call_or_none_differs_on_expiry (η := Empty) (β := Empty) "A" {} 1000
      ((Network.start 4).attach "B").2 [] default "B" "Job" .null 5
  · cases refused
  · obtain rfl := Option.some.inj found
    have first : (c.2.attend c.1 relayed).1 = .finish (.error late) := rfl
    obtain ⟨-, -, result, given, verdict, ⟨waits, -⟩ | ⟨gets, gives⟩, -⟩ := attends relayed
    · cases waits
    cases first.symm.trans gets
    have timely := verdict.timely (by rintro (other | ⟨other, -⟩) <;> cases other)
    obtain ⟨-, -, result', given', verdict', -, gets', gives'⟩ := attends passed
    have nothing := verdict'.none.mpr (.inr ⟨rfl, 5, 0, [], 0, rfl, rfl⟩)
    have timedOut := verdict'.late (verdict'.none.mp nothing)
    exact ⟨⟨first, gives.trans (congrArg _ timely)⟩, gets'.trans (congrArg _ timedOut),
      gives'.trans (congrArg _ nothing)⟩

end DispatchMachine

end MessageRelay
