import MessageRelay.Proofs.Dispatch.Hops
import MessageRelay.Proofs.Wire
import Mathlib.Data.List.Chain

/-!
Timeouts along chains of calls. A handler that ends with the error of its own call reports a timeout as
a timeout, with the contexts that it adds in front of what it was told; so from hop to hop it stays a
timeout, under the id of the call that it ends. Only where the deadline passed is it told as such.
-/
namespace MessageRelay

theorem HandlerError.message_of_timeout (contexts : List String) (id : CorrelationId)
    (detail : String) : ∃ front,
      (⟨contexts, .call (.timeout id detail)⟩ : HandlerError).message = front ++ detail := by
  have own : (CallError.timeout id detail).message =
      "request " ++ id.toText ++ " timed out: " ++ detail := rfl
  have texts : (⟨contexts, .call (.timeout id detail)⟩ : HandlerError).texts =
      contexts ++ [(CallError.timeout id detail).message] := rfl
  rw [HandlerError.message, texts]
  cases contexts with
  | nil => exact ⟨_, String.intercalate_singleton.trans own⟩
  | cons context contexts =>
    rw [String.intercalate_append_of_ne_nil (List.cons_ne_nil _ _) (List.cons_ne_nil _ _),
      String.intercalate_singleton, own, ← String.append_assoc]
    exact ⟨_, rfl⟩

/-- What a program comes to that sends one request, if it gets this reply and then this settlement. -/
def Program.settled? {α : Type} (r : PendingReply) (s : Settlement) : Program α → Option α
  | .perform (.request ..) next =>
    match next (.ok r) with
    | .perform (.await _) next =>
      match next [(s.result, s.expired)] with
      | .finish a => some a
      | _ => none
    | _ => none
  | _ => none

/-- A call in a chain of calls. But for the first, it is made by a handler, which puts these contexts
around the error of the call. -/
structure Hop where
  place : Nat
  id : CorrelationId
  target : PeerName
  typeName : String
  timeout : Nanos
  reply : PendingReply
  handler : Nat := 0
  contexts : List String := []

namespace Hop

def detail (c : Hop) : String :=
  PendingCall.timeoutDetail ⟨⟨some c.target, c.typeName⟩, c.timeout, 0, c.reply.ticket⟩

def retold (id : CorrelationId) (error : CallError) (c : Hop) : CallError :=
  let told : HandlerError := ⟨c.contexts, .call error⟩
  .ofRemote id ⟨told.kind, told.message⟩

def failure (error : CallError) : List Hop → CallError
  | [] => error
  | [_] => error
  | c :: d :: rest => d.retold c.id (failure error (d :: rest))

def told : List Hop → String
  | [] => ""
  | [c] => c.detail
  | _ :: d :: rest => HandlerError.message ⟨d.contexts, .call (.timeout d.id (told (d :: rest)))⟩

theorem failure_timeout (c : Hop) (rest : List Hop) {last : Hop}
    (ends : (c :: rest).getLast? = some last) :
    failure (.timeout last.id last.detail) (c :: rest) = .timeout c.id (told (c :: rest)) := by
  induction rest generalizing c with
  | nil =>
    cases ends
    rfl
  | cons d rest ih =>
    rw [List.getLast?_cons_cons] at ends
    rw [failure, ih d ends]
    rfl

theorem told_ends (c : Hop) (rest : List Hop) {last : Hop} (ends : (c :: rest).getLast? = some last) :
    ∃ front, told (c :: rest) = front ++ last.detail := by
  induction rest generalizing c with
  | nil =>
    cases ends
    exact ⟨"", String.empty_append.symm⟩
  | cons d rest ih =>
    rw [List.getLast?_cons_cons] at ends
    obtain ⟨front, told⟩ := ih d ends
    obtain ⟨more, message⟩ := HandlerError.message_of_timeout d.contexts d.id (Hop.told (d :: rest))
    exact ⟨more ++ front, by rw [Hop.told, message, told, String.append_assoc]⟩

end Hop

namespace Fleet

variable {η β : Type} {f : Fleet η β} {moves : List (FleetMove η β)} {k : Nat}

def Does (f : Fleet η β) (moves : List (FleetMove η β)) (k : Nat) (move : DispatchMove β)
    (answer : DispatchAnswer η) : Prop :=
  ∃ before after, moves = before ++ .act k move :: after ∧
    ((f.run before).step (.act k move)).1 = .acted answer

def Makes (f : Fleet η β) (moves : List (FleetMove η β)) (c : Hop) : Prop :=
  ∃ payload, f.Does moves c.place (.request c.id c.target c.typeName payload c.timeout)
    (.requested (.ok c.reply))

structure Fails (f : Fleet η β) (before : List (FleetMove η β)) (c d : Hop) (error : CallError) :
    Prop where
  handler : ∃ s v, (f.run before).stations[d.place]? = some s ∧
    s.machine.running? d.handler = some v ∧ v.id? = some c.id ∧
      ∀ r, .act d.place (.reply d.handler r) ∉ before ∧
        .act d.place (.sendReply v.sender c.id r) ∉ before
  told : ∃ r, f.Does before d.place (.poll d.reply.ticket) (.polled (some (.error error)) r)
  ends : ((f.run before).step
    (.act d.place (.conclude d.handler (.failed ⟨d.contexts, .call error⟩)))).1 = .acted .done

structure Relays (f : Fleet η β) (moves : List (FleetMove η β)) (c d : Hop) : Prop where
  fails : ∃ before error after, f.Fails before c d error ∧ moves = before ++
    .act d.place (.conclude d.handler (.failed ⟨d.contexts, .call error⟩)) :: after
  arrives : ∀ e ∈ (f.run moves).sent, e.message.kind = .reply → e.message.id? = some c.id →
    ∃ s, (f.run moves).stations[c.place]? = some s ∧ e ∈ s.received

/-- The call has this settlement, for whoever polls its reply. -/
def Settles (f : Fleet η β) (c : Hop) (settlement : Settlement) : Prop :=
  ∃ s, f.stations[c.place]? = some s ∧ s.machine.calls.Decided c.reply settlement

structure Begins (capacity : Nat) (before : List (FleetMove η β)) (move : FleetMove η β)
    (after : List (FleetMove η β)) (c : Hop) (s : Station η β) (call : PendingCall) : Prop where
  earlier : c.id ∉ issued before
  later : c.id ∉ issued after
  at? : ((start capacity).run (before ++ [move])).stations[c.place]? = some s
  own : c.reply.id = c.id
  fresh : c.reply.expired = false
  unsettled : c.reply.settled = false
  awaited : s.machine.calls.Awaited c.reply call
  detail : call.timeoutDetail = c.detail
  unanswered : ∀ e ∈ s.received, RequestKey.answeredBy ⟨c.reply.id, s.name⟩ e = false

theorem begins {capacity : Nat} {c : Hop} (distinct : (issued moves).Nodup)
    (makes : (start capacity).Makes moves c) : ∃ before move after s call,
      moves = before ++ move :: after ∧ Begins capacity before move after c s call := by
  obtain ⟨payload, before, after, rfl, requested⟩ := makes
  let move : FleetMove η β :=
    .act c.place (.request c.id c.target c.typeName payload c.timeout)
  have h := sound_run (η := η) (β := β) capacity before
  have issues : issued (before ++ move :: after) = issued before ++ c.id :: issued after := by
    rw [issued_append, issued_cons]
    rfl
  rw [issues] at distinct
  obtain ⟨-, others, apart⟩ := List.nodup_append.mp distinct
  have earlier : c.id ∉ issued before := fun old => apart _ old _ List.mem_cons_self rfl
  obtain ⟨s, at?, said, next⟩ := acted requested
  let g := (start capacity : Fleet η β).run before
  let t := (s.move (.request c.id c.target c.typeName payload c.timeout) g.network).2
  obtain ⟨ticket, timer, reply, awaited⟩ := DispatchMachine.awaited_of_requested
    (m := s.on g.network) (h.station_at at?).calls said
  have own : c.reply.id = c.id := by rw [reply]
  -- Nobody answers a request that was not made yet.
  have few := h.replies_received_le ⟨c.reply.id, t.name⟩
  rw [own, List.count_eq_zero_of_not_mem earlier] at few
  have none := List.countP_eq_zero.mp (Nat.le_zero.mp few)
  refine ⟨before, move, after, t, ⟨⟨some c.target, c.typeName⟩, c.timeout, timer, ticket⟩, rfl,
    { earlier := earlier
      later := (List.nodup_cons.mp others).1
      at? := (run_concat _ before move).symm ▸ next
      own := own
      fresh := by rw [reply]
      unsettled := by rw [reply]
      awaited := awaited
      detail := by rfl
      unanswered := fun e member => ?_ }⟩
  have there : e ∈ g.received := mem_received at? member
  rw [own]
  exact Bool.not_eq_true _ ▸ none e there

theorem Settles.run {ids : List CorrelationId} {c : Hop} {settlement : Settlement} (h : f.Sound ids)
    (settles : f.Settles c settlement) (fresh : c.reply.expired = false)
    (moves : List (FleetMove η β)) : (f.run moves).Settles c settlement := by
  obtain ⟨s, at?, decided⟩ := settles
  obtain ⟨t, next, later⟩ := Later.run h moves c.place s at?
  obtain ⟨inner, calls⟩ := later.calls
  exact ⟨t, next, calls ▸ decided.run (h.station_at at?).calls fresh inner⟩

theorem Begins.awaited_run {capacity : Nat} {before between after : List (FleetMove η β)}
    {move : FleetMove η β} {c : Hop} {s : Station η β} {call : PendingCall}
    (begins : Begins capacity before move (between ++ after) c s call)
    (pending : ((start capacity).run (before ++ move :: between)).isPending c.place c.id = true) :
    ∃ t, ((start capacity).run (before ++ move :: between)).stations[c.place]? = some t ∧
      t.machine.calls.Awaited c.reply call := by
  have unissued : c.id ∉ issued between := fun again => begins.later <| by
    rw [issued_append]
    exact List.mem_append_left _ again
  have first := sound_run (η := η) (β := β) capacity (before ++ [move])
  obtain ⟨t, inner, at?, calls, others⟩ := calls_run first begins.at? unissued
  rw [← run_after] at at?
  rw [← begins.own] at others
  refine ⟨t, at?, ?_⟩
  rcases begins.awaited.run_cases (first.station_at begins.at?).calls others with kept | gone
  · exact calls ▸ kept
  · rw [isPending_eq at?] at pending
    obtain ⟨again, found⟩ := CallTable.isPending_iff.mp pending
    rw [begins.own, ← calls] at gone
    cases gone.symm.trans found

theorem expired {capacity : Nat} {c : Hop} (distinct : (issued moves).Nodup)
    (makes : (start capacity).Makes moves c)
    (ends : (start capacity).Ends moves c.place c.id .advance) :
    ((start capacity).run moves).Settles c ⟨.error (.timeout c.id c.detail), true⟩ := by
  obtain ⟨before, move, after, s, call, rfl, begins⟩ := begins distinct makes
  obtain ⟨early, late, parts, pending, past⟩ := ends
  have h := sound_run (η := η) (β := β) capacity early
  obtain ⟨between, rfl, rfl⟩ := past_of_issued parts begins.earlier (issued_of_pending h pending)
  obtain ⟨t, at?, awaited⟩ := begins.awaited_run pending
  rw [run_concat, ← begins.own] at past
  obtain ⟨u, next, decided⟩ := decided_of_advance h at? awaited past
  rw [begins.own, begins.detail] at decided
  rw [← run_concat] at next
  have settles : ((start capacity).run
      (before ++ move :: between ++ [.act c.place .advance])).Settles c _ := ⟨u, next, decided⟩
  have rest := settles.run (sound_run capacity _) begins.fresh late
  rw [← run_append, List.append_assoc, List.append_assoc] at rest
  exact rest

theorem answered {capacity : Nat} {c : Hop} (distinct : (issued moves).Nodup)
    (makes : (start capacity).Makes moves c)
    (lasts : ¬ (start capacity).Ends moves c.place c.id .advance)
    (kept : ∀ ticket, ¬ (start capacity).Ends moves c.place c.id (.drop ticket))
    (open' : .act c.place .shutdown ∉ moves) {s : Station η β}
    (at? : ((start capacity).run moves).stations[c.place]? = some s) {e : Envelope}
    (received : e ∈ s.received) (answers : RequestKey.answeredBy ⟨c.id, s.name⟩ e = true) :
    ((start capacity).run moves).Settles c ⟨e.message.result c.id, false⟩ := by
  obtain ⟨before, move, after, t, call, rfl, begins⟩ := begins distinct makes
  have first := sound_run (η := η) (β := β) capacity (before ++ [move])
  have whole {inner : DispatchMove β}
      (ends : ((start capacity).run (before ++ [move])).Ends after c.place c.reply.id inner) :
      (start capacity).Ends (before ++ move :: after) c.place c.id inner := by
    have all := ends.after
    rwa [List.append_assoc, begins.own] at all
  obtain ⟨u, at?', stage⟩ := stage_run first begins.at? (.waits begins.awaited begins.unanswered)
    begins.fresh (fun shut => open' (List.mem_append_right _ (List.mem_cons_of_mem _ shut)))
    (fun ends => lasts (whole ends)) fun ticket ends => kept ticket (whole ends)
  rw [← run_after] at at?'
  cases at?.symm.trans at?'
  refine ⟨s, at?, ?_⟩
  rw [← begins.own] at answers ⊢
  cases stage with
  | waits _ unanswered =>
    rw [unanswered e received] at answers
    cases answers
  | @answered x received' answers' decided =>
    have h := sound_run (η := η) (β := β) capacity (before ++ move :: after)
    have few := Nat.le_trans (h.replies_received_le ⟨c.reply.id, s.name⟩)
      (List.nodup_iff_count_le_one.mp distinct _)
    obtain rfl : e = x := eq_of_countP_le_one few (mem_received at? received)
      (mem_received at? received') answers answers'
    exact decided

theorem polled {capacity : Nat} {c : Hop} {settlement : Settlement} {result : CallResult}
    {r : PendingReply} (settles : ((start capacity).run moves).Settles c settlement)
    (polled : (start capacity).Does moves c.place (.poll c.reply.ticket) (.polled (some result) r)) :
    result = settlement.result ∧ r.expired = settlement.expired := by
  obtain ⟨before, after, rfl, polled⟩ := polled
  have h := sound_run (η := η) (β := β) capacity before
  obtain ⟨s, at?, said, -⟩ := acted polled
  have coherent := (h.station_at at?).calls
  obtain ⟨channel, given, found, outcome, rfl, expired⟩ :=
    DispatchMachine.channel_of_polled (m := s.on ((start capacity).run before).network) coherent said
  obtain ⟨t, last, later⟩ := Later.run h (.act c.place (.poll c.reply.ticket) :: after) c.place s at?
  obtain ⟨inner, calls⟩ := later.calls
  have stays := coherent.keeps_channel found outcome inner
  obtain ⟨u, at?', ⟨channel', found', outcome'⟩, -⟩ := settles
  rw [run_append] at at?'
  cases last.symm.trans at?'
  rw [calls] at found'
  cases stays.symm.trans found'
  cases outcome.symm.trans outcome'
  exact ⟨rfl, expired⟩

theorem Fails.sends {capacity : Nat} {before : List (FleetMove η β)} {c d : Hop} {error : CallError}
    (distinct : (issued before).Nodup) (fails : (start capacity).Fails before c d error) :
    let told : HandlerError := ⟨d.contexts, .call error⟩
    let failing : FleetMove η β := .act d.place (.conclude d.handler (.failed told))
    ∃ s e refused?, ((start capacity).run (before ++ [failing])).stations[d.place]? = some s ∧
      (e, refused?) ∈ s.machine.sends ∧
        e.message = .errorReply c.id ⟨told.kind, told.message⟩ := by
  intro told failing
  obtain ⟨s, v, at?, runs, own, silent⟩ := fails.handler
  obtain ⟨t, at?', said, next⟩ := acted fails.ends
  cases at?.symm.trans at?'
  let m := s.on ((start capacity : Fleet η β).run before).network
  let a : HolderAct β := .move (.conclude d.handler (.failed told))
  have ends : m.Concludes a d.handler (.failed told) := ⟨rfl, said⟩
  -- Its request is in flight, as nobody replied and no other request has this id.
  let key : RequestKey := ⟨c.id, v.sender⟩
  have serves : m.Serves d.handler key :=
    DispatchMachine.serves_of_running runs (congrArg (Option.map _) own)
  have tended : s.Tended d.handler key := tended_run capacity distinct silent at?
  have open' : key ∈ m.inFlight := tended.waits serves (DispatchMachine.running?_eq_some.mp runs).1
  have coherent : m.Coherent := ((sound_run capacity before).station_at at?).on _
  rw [← run_concat] at next
  exact ⟨_, _, _, next, DispatchMachine.sends_of_concluded coherent serves open' ends rfl, rfl⟩

theorem relayed {capacity : Nat} {c d : Hop} {told : CallError} {settlement : Settlement}
    (distinct : (issued moves).Nodup) (relays : (start capacity).Relays moves c d)
    (accepted : ∀ s ∈ ((start capacity).run moves).stations, ∀ x ∈ s.machine.sends, x.2 = none)
    (settles : ((start capacity).run moves).Settles d settlement)
    (failed : settlement.result = .error told) :
    ∃ s e, ((start capacity).run moves).stations[c.place]? = some s ∧ e ∈ s.received ∧
      RequestKey.answeredBy ⟨c.id, s.name⟩ e = true ∧
        e.message.result c.id = .error (d.retold c.id told) := by
  obtain ⟨before, error, after, fails, rfl⟩ := relays.fails
  have own : error = told := by
    obtain ⟨r, early, late, rfl, polls⟩ := fails.told
    have given := (polled settles ⟨early, _, List.append_assoc .., polls⟩).1
    rw [failed] at given
    cases given
    rfl
  subst own
  rw [issued_append] at distinct
  obtain ⟨s, e, refused?, at?, handed, content⟩ := fails.sends (List.nodup_append.mp distinct).1
  obtain ⟨t, last, later⟩ := sends_run at? after
  rw [← run_after] at last
  have taken : refused? = none := accepted t (List.mem_of_getElem? last) _ (later _ handed)
  have sent : e ∈ t.sent := mem_taken.mpr (taken ▸ later _ handed)
  have kind : e.message.kind = .reply := congrArg Message.kind content
  have named : e.message.id? = some c.id := congrArg Message.id? content
  obtain ⟨u, there, received⟩ := relays.arrives e (mem_sent last sent) kind named
  have mine := ((sound_run capacity _).station_at there).mine e received
  refine ⟨u, e, there, received, decide_eq_true ⟨kind, mine, named⟩, ?_⟩
  rw [content, Message.result_errorReply]
  rfl

structure Gets (f : Fleet η β) (moves : List (FleetMove η β)) (c : Hop) (settlement : Settlement) :
    Prop where
  polled : ∀ result r, f.Does moves c.place (.poll c.reply.ticket) (.polled (some result) r) →
    result = settlement.result ∧ r.expired = settlement.expired
  polls : ∀ s, (f.run moves).stations[c.place]? = some s → s.machine.passing = false →
    c.reply ∈ s.machine.replies →
      ((f.run moves).step (.act c.place (.poll c.reply.ticket))).1 =
        .acted (.polled (some settlement.result) (c.reply.delivered settlement))

theorem gets {capacity : Nat} {c : Hop} {settlement : Settlement} (distinct : (issued moves).Nodup)
    (makes : (start capacity).Makes moves c)
    (settles : ((start capacity).run moves).Settles c settlement) :
    (start capacity).Gets moves c settlement where
  polled _ _ delivers := polled settles delivers
  polls s at? code held := by
    obtain ⟨before, move, after, t, call, rfl, begins⟩ := begins distinct makes
    obtain ⟨u, at?', decided⟩ := settles
    cases at?.symm.trans at?'
    have h := sound_run (η := η) (β := β) capacity (before ++ move :: after)
    have polled := DispatchMachine.step_poll
      (m := s.on ((start capacity).run (before ++ move :: after)).network) (h.station_at at?).calls
      (DispatchMachine.inCode_of_passing code) held begins.unsettled (decided.poll begins.fresh)
    simp only [step, at?]
    exact congrArg FleetAnswer.acted polled

/-- Calls that are made along a run, each to serve the one before. But for the last, no deadline ends
one, and nobody gives one up while it is pending. -/
structure Chain (f : Fleet η β) (moves : List (FleetMove η β)) (hops : List Hop) (last : Hop) :
    Prop where
  made : ∀ c ∈ hops, f.Makes moves c
  linked : hops.IsChain (f.Relays moves)
  ends : hops.getLast? = some last
  lasts : ∀ c ∈ hops.dropLast, ¬ f.Ends moves c.place c.id .advance
  kept : ∀ c ∈ hops.dropLast, ∀ ticket, ¬ f.Ends moves c.place c.id (.drop ticket)

theorem Chain.suffix {before after : List Hop} {c last : Hop}
    (chain : f.Chain moves (before ++ c :: after) last) : f.Chain moves (c :: after) last := by
  have some : c :: after ≠ [] := List.cons_ne_nil c after
  obtain ⟨made, linked, ends, lasts, kept⟩ := chain
  rw [List.dropLast_append_of_ne_nil some] at lasts kept
  rw [List.getLast?_append_of_ne_nil before some] at ends
  exact ⟨fun d member => made d (List.mem_append_right _ member), linked.right_of_append, ends,
    fun d member => lasts d (List.mem_append_right _ member),
    fun d member => kept d (List.mem_append_right _ member)⟩

/-- From hop to hop the error of the last call goes back. -/
theorem Chain.settles {capacity : Nat} {c last : Hop} {after : List Hop} {error : CallError}
    {expired : Bool} (chain : (start capacity).Chain moves (c :: after) last)
    (distinct : (issued moves).Nodup)
    (accepted : ∀ s ∈ ((start capacity).run moves).stations, ∀ x ∈ s.machine.sends, x.2 = none)
    (open' : ∀ k, .act k .shutdown ∉ moves)
    (fails : ((start capacity).run moves).Settles last ⟨.error error, expired⟩) :
    ((start capacity).run moves).Settles c
      ⟨.error (Hop.failure error (c :: after)), after.isEmpty && expired⟩ := by
  induction after generalizing c with
  | nil =>
    cases chain.ends
    exact fails
  | cons d after ih =>
    have whole : (start capacity).Chain moves ([c] ++ d :: after) last := chain
    have next := ih whole.suffix
    have relays := (List.isChain_cons_cons.mp chain.linked).1
    obtain ⟨s, e, at?, received, answers, result⟩ := relayed distinct relays accepted next rfl
    have settles := answered distinct (chain.made c List.mem_cons_self)
      (chain.lasts c List.mem_cons_self) (chain.kept c List.mem_cons_self) (open' c.place) at?
      received answers
    rw [result] at settles
    exact settles

/-- Calls that are made along a run, each to serve the one before. The last expires; no deadline ends
another, and nobody gives another up while it is pending. -/
structure TimesOut (f : Fleet η β) (moves : List (FleetMove η β)) (hops : List Hop) (last : Hop) :
    Prop where
  made : ∀ c ∈ hops, f.Makes moves c
  linked : hops.IsChain (f.Relays moves)
  ends : hops.getLast? = some last
  expires : f.Ends moves last.place last.id .advance
  lasts : ∀ c ∈ hops.dropLast, ¬ f.Ends moves c.place c.id .advance
  kept : ∀ c ∈ hops.dropLast, ∀ ticket, ¬ f.Ends moves c.place c.id (.drop ticket)

theorem TimesOut.chain {hops : List Hop} {last : Hop} (late : f.TimesOut moves hops last) :
    f.Chain moves hops last :=
  { late with }

theorem TimesOut.suffix {before after : List Hop} {c last : Hop}
    (chain : f.TimesOut moves (before ++ c :: after) last) : f.TimesOut moves (c :: after) last :=
  { chain.chain.suffix with expires := chain.expires }

theorem TimesOut.settles {capacity : Nat} {c last : Hop} {after : List Hop}
    (chain : (start capacity).TimesOut moves (c :: after) last) (distinct : (issued moves).Nodup)
    (accepted : ∀ s ∈ ((start capacity).run moves).stations, ∀ x ∈ s.machine.sends, x.2 = none)
    (open' : ∀ k, .act k .shutdown ∉ moves) : ((start capacity).run moves).Settles c
      ⟨.error (.timeout c.id (Hop.told (c :: after))), after.isEmpty⟩ := by
  have made := chain.made last (List.mem_of_getLast? chain.ends)
  have late := expired distinct made chain.expires
  have settles := chain.chain.settles distinct accepted open' late
  rwa [Hop.failure_timeout c after chain.ends, Bool.and_true] at settles

/-- For every run of dispatchers on a network that never makes an id twice, and every chain of calls in
it of which the last expires, if the network takes everything and nobody shuts down: each call of the
chain fails with a timeout under its own id, told in words that end with those of the last. Only that
one counts as expired, so only there a call that may end with no reply does so. -/
theorem timeouts_travel_back (capacity : Nat) (distinct : (issued moves).Nodup) {hops : List Hop}
    {last : Hop} (chain : (start capacity).TimesOut moves hops last)
    (accepted : ∀ s ∈ ((start capacity).run moves).stations, ∀ x ∈ s.machine.sends, x.2 = none)
    (open' : ∀ k, .act k .shutdown ∉ moves) {before after : List Hop} {c : Hop}
    (split : hops = before ++ c :: after) :
    let detail := Hop.told (c :: after)
    let settlement : Settlement := ⟨.error (.timeout c.id detail), after.isEmpty⟩
    (∃ front, detail = front ++ last.detail) ∧ (start capacity).Gets moves c settlement ∧
      ∀ payload, (Program.callOrNone c.target c.typeName payload c.timeout).settled? c.reply
        settlement = some (if after.isEmpty then .ok none else .error (.timeout c.id detail)) := by
  intro detail settlement
  subst split
  have rest := chain.suffix
  have settles := rest.settles distinct accepted open'
  refine ⟨Hop.told_ends c after rest.ends, ?_, fun payload => ?_⟩
  · exact gets distinct (rest.made c List.mem_cons_self) settles
  · cases after with
    | nil => rfl
    | cons => rfl

def finding : Hop where
  place := 0
  id := ⟨0, 1⟩
  target := "B"
  typeName := "Find"
  timeout := 1000000000
  reply := ⟨⟨0, 1⟩, 0, false, false⟩

def looking : Hop where
  place := 1
  id := ⟨0, 2⟩
  target := "C"
  typeName := "Look"
  timeout := 5000000
  reply := ⟨⟨0, 2⟩, 0, false, false⟩
  contexts := ["looking"]

def downstream : List (FleetMove Unit Empty) :=
  [.join "A" {} 0, .join "B" ⟨[("", ())]⟩ 0, .join "C" ⟨[("", ())]⟩ 0, .attach "A", .attach "B",
    .attach "C", .act 0 (.request finding.id "B" "Find" .null 1000000000), .receive 1 1,
    .act 1 (.request looking.id "C" "Look" .null 5000000), .act 1 (.elapse 5000000),
    .act 1 (.enter 5000000), .act 1 .advance, .act 1 .advance, .act 1 (.poll 0),
    .act 1 (.conclude 0 (.failed ⟨["looking"], .call (.timeout looking.id looking.detail)⟩)),
    .receive 0 0]

theorem relays_downstream : (start 4).Relays downstream finding looking where
  fails := by
    refine ⟨downstream.take 14, .timeout looking.id looking.detail, [.receive 0 0], ?_, rfl⟩
    exact ⟨⟨_, _, rfl, rfl, rfl, fun r => by simp [downstream]⟩, ⟨_, downstream.take 13, [], rfl, rfl⟩,
      rfl⟩
  arrives e sent kind named := by
    have all : ((start 4).run downstream).sent =
        [.of "A" "B" (.request "Find" .null ⟨0, 1⟩), .of "B" "C" (.request "Look" .null ⟨0, 2⟩),
          .of "B" "A" (.errorReply ⟨0, 1⟩ ⟨.timeout, Hop.told [finding, looking]⟩)] := rfl
    rw [all] at sent
    simp only [List.mem_cons, List.not_mem_nil, or_false] at sent
    rcases sent with rfl | rfl | rfl
    · cases kind
    · cases kind
    · exact ⟨_, rfl, List.mem_singleton.mpr rfl⟩

theorem timesOut_downstream : (start 4).TimesOut downstream [finding, looking] looking where
  made c member := by
    simp only [List.mem_cons, List.not_mem_nil, or_false] at member
    rcases member with rfl | rfl
    · exact ⟨.null, downstream.take 6, downstream.drop 7, rfl, rfl⟩
    · exact ⟨.null, downstream.take 8, downstream.drop 9, rfl, rfl⟩
  linked := .cons_cons relays_downstream (.singleton _)
  ends := rfl
  expires := ⟨downstream.take 11, downstream.drop 12, rfl, rfl, rfl⟩
  lasts c member := by
    cases List.mem_singleton.mp member
    rintro ⟨before, after, split, -⟩
    have there : FleetMove.act 0 .advance ∈ downstream := split ▸ by simp [finding]
    simp [downstream] at there
  kept c member ticket := by
    cases List.mem_singleton.mp member
    rintro ⟨before, after, split, -⟩
    have there : FleetMove.act 0 (.drop ticket) ∈ downstream := split ▸ by simp [finding]
    simp [downstream] at there

theorem timeouts_travel_back_downstream :
    let detail := "looking: request 00000000-0000-0000-0000-000000000002 timed out: " ++
      "Look to C got no reply within 5ms"
    (issued downstream).Nodup ∧ (start 4).TimesOut downstream [finding, looking] looking ∧
      (start 4).Gets downstream finding ⟨.error (.timeout ⟨0, 1⟩ detail), false⟩ ∧
        ∀ payload, (Program.callOrNone "B" "Find" payload 1000000000).settled? finding.reply
          ⟨.error (.timeout ⟨0, 1⟩ detail), false⟩ = some (.error (.timeout ⟨0, 1⟩ detail)) := by
  intro detail
  have distinct : (issued downstream).Nodup := by decide
  have accepted : ∀ s ∈ ((start 4).run downstream).stations, ∀ x ∈ s.machine.sends, x.2 = none := by
    have all : (((start 4).run downstream).stations.all fun s =>
        s.machine.sends.all fun x => x.2.isNone) = true := rfl
    simpa using all
  have told : Hop.told [finding, looking] = detail := by decide +kernel
  have open' (k : Nat) : .act k .shutdown ∉ downstream := by simp [downstream]
  have first : [finding, looking] = [] ++ finding :: [looking] := rfl
  obtain ⟨-, gets, orNone⟩ :=
    timeouts_travel_back 4 distinct timesOut_downstream accepted open' first
  rw [← told]
  exact ⟨distinct, timesOut_downstream, gets, orNone⟩

end Fleet

end MessageRelay
