import MessageRelay.Proofs.Call.Balance
import MessageRelay.Proofs.Call.Counters
import MessageRelay.Proofs.Dispatch.Calls
import MessageRelay.Proofs.Dispatch.Events

/-!
One move of a dispatch machine, told by what it enters in the books: what is reported and counted, what
the table counts, and what becomes of the timers. `Booking` lists all that a move may enter, each with
the answer that the move gives, so that the books can be held against the answers.
-/
namespace MessageRelay

def DispatchAnswer.isSilent {η : Type} : DispatchAnswer η → Bool
  | .routed (.resolved _) | .routed (.stale _) | .requested (.ok _) | .requested (.error (.transport _))
  | .requested (.error (.duplicateId _)) | .handle _ | .count _ | .fired | .finished _ => false
  | _ => true

namespace CallTable

variable {β : Type} {t : CallTable β}

theorem receive_of_find? {id : CorrelationId} {call : PendingCall} (message : Message)
    (found : t.find? id = some call) : ∃ way s, (way = .completed ∨ way = .failed) ∧
      t.receive id message = (true, t.ending id call (·.addEnded 1 way) (.settled s)) := by
  obtain ⟨count, s, rfl | rfl, takes⟩ := t.takes_receive id message
  · exact ⟨.completed, s, .inl rfl, takes.pending call found⟩
  · exact ⟨.failed, s, .inr rfl, takes.pending call found⟩

theorem receive_of_not_pending {id : CorrelationId} (message : Message)
    (past : t.find? id = none) : t.receive id message = (false, t.countStale) := by
  obtain ⟨count, s, -, takes⟩ := t.takes_receive id message
  exact takes.past past

end CallTable

namespace Dispatcher

variable {η β : Type} {d : Dispatcher η β} {now : Nanos} {j : TimerId}
  {timers : TimerQueue (CallTimer β)}

theorem fireNext_nothing (idle : d.table.timers.popDue now = (none, timers)) :
    d.fireNext now = (.nothing, { d with table.timers := timers }) := by
  rw [fireNext, idle]

theorem fireNext_other {payload : β}
    (due : d.table.timers.popDue now = (some (j, .other payload), timers)) :
    d.fireNext now = (.payload payload,
      if j ∈ d.foreign then { d with table.timers := timers }
      else { d with table.timers := timers }.report .timerFired) := by
  simp only [fireNext, due, List.contains_iff_mem]

theorem fireNext_expiry (h : d.table.Coherent) {id : CorrelationId}
    (due : d.table.timers.popDue now = (some (j, .expiry id), timers)) :
    ∃ call c, d.fireNext now = (.expiry,
      { d with
        table := { d.table with timers := timers }.ending id call (·.addEnded 1 .timedOut) c
        }.report .callTimedOut) := by
  obtain ⟨call, found, -⟩ := h.expiry (TimerQueue.popDue_some due).1
  have entry : { d.table with timers := timers }.find? id = some call := found
  refine ⟨call, .settled ⟨.error (.timeout id call.timeoutDetail), true⟩, ?_⟩
  rw [fireNext, due]
  dsimp only
  rw [CallTable.expire_of_find? entry, if_pos rfl]
  rfl

end Dispatcher

namespace DispatchMachine

open CallTable Dispatcher

variable {η β : Type} {m n : DispatchMachine η β}

def table (m : DispatchMachine η β) : CallTable β := m.site.dispatcher.table

/-- How many timers were taken by passes that have not ended. One of which the callback still runs counts
as taken by the pass below. -/
def underway : List (DispatchFrame β) → Nat
  | [] => 0
  | .pass _ count :: below => count + underway below
  | .callback _ :: .pass _ count :: below => count + 1 + underway below
  | .callback _ :: below => underway below

theorem underway_countFired (payload : β) (below : List (DispatchFrame β)) :
    underway (countFired below) = underway (.callback payload :: below) := by
  rcases below with _ | ⟨_ | _, below⟩ <;> rfl

/-- What a step enters in the books: these events, and these counters of the table; no timer was added
but one that carries this, and none was taken by a pass. -/
structure Wrote (m : DispatchMachine η β) (told : List MetricEvent) (stats : CallStats)
    (added : Option (CallTimer β)) (n : DispatchMachine η β) : Prop where
  told : m.site.dispatcher.Told told n.site.dispatcher
  stats : n.table.stats = stats
  timers : m.table.timers.Rearranged added n.table.timers
  underway : underway n.stack = underway m.stack

theorem Wrote.of_table {told : List MetricEvent} (wrote : m.site.dispatcher.Told told n.site.dispatcher)
    (table : n.table = m.table) (stack : DispatchMachine.underway n.stack =
      DispatchMachine.underway m.stack) : m.Wrote told m.table.stats none n :=
  ⟨wrote, by rw [table], by rw [table]; exact .refl _, stack⟩

structure SameHandlers (m n : DispatchMachine η β) : Prop where
  started : n.started = m.started
  running : n.running = m.running

/-- All that a move may enter in the books. -/
inductive Booking (m : DispatchMachine η β) :
    DispatchMove β → DispatchAnswer η → DispatchMachine η β → Prop
  | plain {move : DispatchMove β} {answer : DispatchAnswer η} {n : DispatchMachine η β}
    {told : List MetricEvent} (silent : answer.isSilent = true)
    (plain : ∀ e ∈ told, e.isPlain = true) (same : m.SameHandlers n)
    (wrote : m.Wrote told m.table.stats none n) : Booking m move answer n
  | dispatched {move : DispatchMove β} {v : Invocation} {handler : η} {n : DispatchMachine η β}
    {told : List MetricEvent} (plain : ∀ e ∈ told, e.isPlain = true)
    (started : n.started = m.started.push v) (running : n.running = m.started.size :: m.running)
    (wrote : m.Wrote told m.table.stats none n) : Booking m move (.routed (.dispatched v handler)) n
  | concluded {number : Nat} {o : Outcome} {v : Invocation} {n : DispatchMachine η β}
    {told : List MetricEvent} (runs : m.running? number = some v)
    (plain : ∀ e ∈ told, e.isPlain = true) (started : n.started = m.started)
    (running : n.running = m.running.erase number)
    (wrote : m.Wrote (.handlerCompleted v.typeName (m.now - v.started) :: told) m.table.stats none n) :
    Booking m (.conclude number o) .done n
  | matched {move : DispatchMove β} {id : CorrelationId} {way : Ending} {n : DispatchMachine η β}
    (replied : way = .completed ∨ way = .failed) (same : m.SameHandlers n)
    (wrote : m.Wrote [.responseMatched, .pendingCalls n.table.pendingCount]
      (m.table.stats.addEnded 1 way) none n) :
    Booking m move (.routed (.resolved id)) n
  | stale {move : DispatchMove β} {id : CorrelationId} {n : DispatchMachine η β}
    (same : m.SameHandlers n)
    (wrote : m.Wrote [.staleResponse] { m.table.stats with stale := m.table.stats.stale + 1 } none n) :
    Booking m move (.routed (.stale id)) n
  | requested {id : CorrelationId} {target : PeerName} {typeName : String} {payload : Json}
    {timeout : Nanos} {reply : PendingReply} {n : DispatchMachine η β} (same : m.SameHandlers n)
    (wrote : m.Wrote [.requestSent typeName, .pendingCalls n.table.pendingCount]
      { m.table.stats with registered := m.table.stats.registered + 1 } (some (.expiry id)) n) :
    Booking m (.request id target typeName payload timeout) (.requested (.ok reply)) n
  | refused {id : CorrelationId} {target : PeerName} {typeName : String} {payload : Json}
    {timeout : Nanos} {e : TransportError} {n : DispatchMachine η β} (same : m.SameHandlers n)
    (wrote : m.Wrote []
      ({ m.table.stats with registered := m.table.stats.registered + 1 }.addEnded 1 .cancelled)
      (some (.expiry id)) n) :
    Booking m (.request id target typeName payload timeout) (.requested (.error (.transport e))) n
  | duplicate {id : CorrelationId} {target : PeerName} {typeName : String} {payload : Json}
    {timeout : Nanos} {n : DispatchMachine η β} (pending : m.table.isPending id = true)
    (same : m.SameHandlers n)
    (wrote : m.Wrote [] { m.table.stats with duplicates := m.table.stats.duplicates + 1 } none n) :
    Booking m (.request id target typeName payload timeout) (.requested (.error (.duplicateId id))) n
  | dropped {ticket : Ticket} {k : Nat} {n : DispatchMachine η β} (same : m.SameHandlers n)
    (wrote : m.Wrote [] (m.table.stats.addEnded k .cancelled) none n) :
    Booking m (.drop ticket) .done n
  | after {delay : Nanos} {payload : β} {handle : TimerHandle} {n : DispatchMachine η β}
    (fresh : handle.id = m.table.timers.issued) (same : m.SameHandlers n)
    (wrote : m.Wrote [] m.table.stats (some (.other payload)) n) :
    Booking m (.after delay payload) (.handle handle) n
  | closed {k : Nat} {n : DispatchMachine η β} (idle : n.table.pendingCount = 0)
    (same : m.SameHandlers n)
    (wrote : m.Wrote [.pendingCalls 0] (m.table.stats.addEnded k .failed) none n) :
    Booking m .shutdown (.count k) n
  | finished {now : Nanos} {count : Nat} {below : List (DispatchFrame β)}
    {timers : TimerQueue (CallTimer β)} {n : DispatchMachine η β}
    (pass : m.stack = .pass now count :: below) (idle : m.table.timers.popDue now = (none, timers))
    (same : m.SameHandlers n) (told : m.site.dispatcher.Told [] n.site.dispatcher)
    (stats : n.table.stats = m.table.stats) (left : n.table.timers = timers.endPass count)
    (stack : n.stack = below) : Booking m .advance (.finished count) n
  | expired {now : Nanos} {count : Nat} {below : List (DispatchFrame β)} {j : TimerId}
    {id : CorrelationId} {timers : TimerQueue (CallTimer β)} {n : DispatchMachine η β}
    (pass : m.stack = .pass now count :: below)
    (due : m.table.timers.popDue now = (some (j, .expiry id), timers)) (same : m.SameHandlers n)
    (told : m.site.dispatcher.Told [.callTimedOut] n.site.dispatcher)
    (stats : n.table.stats = m.table.stats.addEnded 1 .timedOut)
    (left : timers.Rearranged none n.table.timers)
    (stack : n.stack = .pass now (count + 1) :: below) : Booking m .advance .fired n
  | began {now : Nanos} {count : Nat} {below : List (DispatchFrame β)} {j : TimerId} {payload : β}
    {timers : TimerQueue (CallTimer β)} {n : DispatchMachine η β}
    (pass : m.stack = .pass now count :: below)
    (due : m.table.timers.popDue now = (some (j, .other payload), timers)) (same : m.SameHandlers n)
    (told : m.site.dispatcher.Told
      (if j ∈ m.site.dispatcher.foreign then [] else [.timerFired]) n.site.dispatcher)
    (stats : n.table.stats = m.table.stats) (left : n.table.timers = timers)
    (stack : n.stack = .callback payload :: m.stack) : Booking m .advance .fired n

theorem Booking.told {move : DispatchMove β} {answer : DispatchAnswer η}
    (booked : Booking m move answer n) : ∃ told, m.site.dispatcher.Told told n.site.dispatcher := by
  cases booked with
  | plain _ _ _ wrote | dispatched _ _ _ wrote | concluded _ _ _ _ wrote | matched _ _ wrote
  | stale _ wrote | requested _ wrote | refused _ wrote | duplicate _ _ wrote | dropped _ wrote
  | after _ _ wrote | closed _ _ wrote => exact ⟨_, wrote.told⟩
  | finished _ _ _ told | expired _ _ _ told | began _ _ _ told => exact ⟨_, told⟩

theorem quiet_booking {move : DispatchMove β} {answer : DispatchAnswer η}
    (silent : answer.isSilent = true) (same : m.SameHandlers n)
    (dispatcher : n.site.dispatcher = m.site.dispatcher)
    (stack : underway n.stack = underway m.stack) : Booking m move answer n := by
  have told : m.site.dispatcher.Told [] n.site.dispatcher := dispatcher ▸ Told.refl _
  exact .plain silent (List.forall_mem_nil _) same
    (.of_table told (congrArg Dispatcher.table dispatcher) stack)

theorem plain_booking {move : DispatchMove β} {answer : DispatchAnswer η}
    (silent : answer.isSilent = true) (same : m.SameHandlers n)
    (told : m.site.dispatcher.PlainlyTold n.site.dispatcher) (table : n.table = m.table)
    (stack : n.stack = m.stack) : Booking m move answer n := by
  obtain ⟨told, plain, wrote⟩ := told
  exact .plain silent plain same (.of_table wrote table (congrArg underway stack))

theorem reply_booking (m : DispatchMachine η β) (sender : PeerName) (message : Message)
    (kind : message.kind = .reply) :
    Booking m (.inbound sender message) (m.operate (.inbound sender message)).1
      (m.operate (.inbound sender message)).2 := by
  simp only [operate, Site.onInbound, kind, Site.lift,
    start_of_not_dispatched (onReply_not_dispatched message m.site.dispatcher)]
  cases named : message.id? with
  | none =>
    simp only [Dispatcher.onReply, named]
    exact quiet_booking rfl ⟨rfl, rfl⟩ rfl rfl
  | some id =>
    rw [Dispatcher.onReply_of_id named]
    cases found : m.site.dispatcher.table.find? id with
    | none =>
      simp only [receive_of_not_pending message found, Bool.false_eq_true, if_false]
      have received := (Told.refl m.site.dispatcher).table m.table.countStale
      exact .stale ⟨rfl, rfl⟩ ⟨received.trans (.counted (fun _ => rfl) _), rfl, .refl _, rfl⟩
    | some call =>
      obtain ⟨way, s, replied, settled⟩ := receive_of_find? message found
      simp only [settled, if_true]
      have received := (Told.refl m.site.dispatcher).table
        (m.table.ending id call (·.addEnded 1 way) (.settled s))
      refine .matched replied ⟨rfl, rfl⟩ ⟨?_, rfl, .cancel call.timer _, rfl⟩
      exact (received.trans (.counted (fun _ => rfl) _)).trans (.uncounted (fun _ => rfl) _)

theorem inbound_booking (m : DispatchMachine η β) (sender : PeerName) (message : Message) :
    Booking m (.inbound sender message) (m.operate (.inbound sender message)).1
      (m.operate (.inbound sender message)).2 := by
  cases kind : message.kind with
  | reply => exact reply_booking m sender message kind
  | request =>
    have routed := Site.onRequest_routed m.now sender message m.site
    have table := (Site.onRequest_alike m.now sender message m.site).table
    obtain ⟨told, plain, wrote⟩ := Site.told_onRequest m.now sender message m.site
    simp only [operate, Site.onInbound, kind]
    generalize m.site.onRequest m.now sender message = result at routed table wrote ⊢
    obtain ⟨outcome, site⟩ := result
    cases routed with
    | dispatched => exact .dispatched plain rfl rfl (.of_table wrote table rfl)
    | unhandled => exact .plain rfl plain ⟨rfl, rfl⟩ (.of_table wrote table rfl)
    | discarded => exact .plain rfl plain ⟨rfl, rfl⟩ (.of_table wrote table rfl)

theorem conclude_booking (m : DispatchMachine η β) (number : Nat) (o : Outcome) :
    Booking m (.conclude number o) (m.operate (.conclude number o)).1
      (m.operate (.conclude number o)).2 := by
  simp only [operate]
  cases runs : m.running? number with
  | none => exact quiet_booking rfl ⟨rfl, rfl⟩ rfl rfl
  | some v =>
    obtain ⟨told, plain, wrote⟩ := Site.told_conclude m.now v o m.site
    exact .concluded runs plain rfl rfl (.of_table wrote (Site.conclude_alike m.now v o m.site).table rfl)

theorem request_booking (m : DispatchMachine η β) (id : CorrelationId) (target : PeerName)
    (typeName : String) (payload : Json) (timeout : Nanos) :
    Booking m (.request id target typeName payload timeout)
      (m.operate (.request id target typeName payload timeout)).1
      (m.operate (.request id target typeName payload timeout)).2 := by
  cases closed : m.site.dispatcher.table.closed with
  | true =>
    simp only [operate, Site.sendRequest, register_of_closed _ _ _ _ closed]
    exact quiet_booking rfl ⟨rfl, rfl⟩ rfl rfl
  | false =>
    cases pending : m.site.dispatcher.table.isPending id with
    | true =>
      simp only [operate, Site.sendRequest, register_of_pending _ _ _ _ closed pending]
      exact .duplicate pending ⟨rfl, rfl⟩ ⟨(Told.refl _).table _, rfl, .refl _, rfl⟩
    | false =>
      let info : CallInfo := ⟨some target, typeName⟩
      have told := (Told.refl m.site.dispatcher).table (m.table.registering m.now id timeout info)
      have scheduled := timers_registering m.now id timeout info m.table
      simp only [operate, Site.sendRequest, register_of_free _ _ _ _ closed pending,
        Site.transmit_eq, Site.told, Site.modify]
      cases m.site.network.refusal? target with
      | none =>
        refine .requested ⟨rfl, rfl⟩ ⟨?_, rfl, scheduled, rfl⟩
        exact ((told.trans (.sent _ _ _)).trans (.counted (fun _ => rfl) _)).trans
          (.uncounted (fun _ => rfl) _)
      | some e =>
        -- What was just registered is found, and cancelled.
        have entry : (m.table.registering m.now id timeout info).find? id = some _ :=
          (find?_registering m.now id timeout info id).trans (if_pos rfl)
        refine .refused ⟨rfl, rfl⟩ ⟨?_, ?_, scheduled.trans (takes_cancel _ id).timers, rfl⟩
        · exact (told.trans (.sent _ _ _)).table _
        · exact congrArg (·.2.stats) (cancel_of_find? entry)

theorem drop_booking (m : DispatchMachine η β) (ticket : Ticket) :
    Booking m (.drop ticket) (m.operate (.drop ticket)).1 (m.operate (.drop ticket)).2 := by
  simp only [operate]
  cases m.replies.find? (·.ticket = ticket) with
  | none => exact quiet_booking rfl ⟨rfl, rfl⟩ rfl rfl
  | some r =>
    have told : m.site.dispatcher.Told [] (m.site.dispatcher.dropReply r) :=
      (Told.refl m.site.dispatcher).table _
    obtain ⟨k, stats⟩ : ∃ k, (m.table.drop r).stats = m.table.stats.addEnded k .cancelled := by
      unfold CallTable.drop
      split
      · exact ⟨0, rfl⟩
      · cases found : m.table.find? r.id with
        | none => exact ⟨0, congrArg (·.2.stats) (cancel_of_not_pending found)⟩
        | some call => exact ⟨1, congrArg (·.2.stats) (cancel_of_find? found)⟩
    exact .dropped ⟨rfl, rfl⟩ ⟨told, stats, timers_drop r m.table, rfl⟩

theorem operate_booking (m : DispatchMachine η β) (move : DispatchMove β) :
    Booking m move (m.operate move).1 (m.operate move).2 := by
  cases move with
  | inbound sender message => exact inbound_booking m sender message
  | reply number r =>
    simp only [operate]
    cases m.running? number with
    | none => exact quiet_booking rfl ⟨rfl, rfl⟩ rfl rfl
    | some v =>
      simp only [withSite, Site.replyEarly]
      cases v.id? with
      | none => exact quiet_booking rfl ⟨rfl, rfl⟩ rfl rfl
      | some id =>
        exact plain_booking rfl ⟨rfl, rfl⟩ (Site.told_answer _ _ _ _) (Site.answer_alike _ _ _ _).table rfl
  | conclude number o => exact conclude_booking m number o
  | sendReply recipient id r =>
    exact plain_booking rfl ⟨rfl, rfl⟩ (Site.told_answer _ _ _ _) (Site.answer_alike _ _ _ _).table rfl
  | request id target typeName payload timeout => exact request_booking m id target typeName payload timeout
  | notify target typeName payload =>
    exact plain_booking rfl ⟨rfl, rfl⟩ (Site.told_notify _ _ _ _) (Site.notify_alike _ _ _ _).table rfl
  | poll ticket =>
    simp only [operate]
    split
    · exact quiet_booking rfl ⟨rfl, rfl⟩ rfl rfl
    · split <;> exact quiet_booking rfl ⟨rfl, rfl⟩ rfl rfl
  | drop ticket => exact drop_booking m ticket
  | after delay payload =>
    exact .after rfl ⟨rfl, rfl⟩ ⟨(Told.refl _).table _, rfl, .scheduleAfter m.now delay _ _, rfl⟩
  | cancelTimer id =>
    exact .plain rfl (List.forall_mem_nil _) ⟨rfl, rfl⟩
      ⟨(Told.refl _).table _, rfl, .cancel id _, rfl⟩
  | shutdown =>
    have told : m.site.dispatcher.Told [.pendingCalls 0] m.site.dispatcher.shutdown.2 :=
      ((Told.refl m.site.dispatcher).table _).trans (.uncounted (fun _ => rfl) _)
    refine .closed ?_ ⟨rfl, rfl⟩ ⟨told, ?_, (timers_close m.table).trans (.clear _), rfl⟩
    · exact congrArg List.length (calls_failAll .cancelled { m.table with closed := true })
    · have stats := stats_failAll .cancelled { m.table with closed := true }
      rw [List.length_map]
      exact stats
  | enter now => exact quiet_booking rfl ⟨rfl, rfl⟩ rfl (Nat.zero_add _)
  | elapse | network | advance | leave => exact quiet_booking rfl ⟨rfl, rfl⟩ rfl rfl

theorem advance_booking (h : m.table.Coherent) {now : Nanos} {count : Nat}
    {below : List (DispatchFrame β)} (pass : m.stack = .pass now count :: below) :
    Booking m .advance (m.advance now count below).1 (m.advance now count below).2 := by
  rcases due : m.table.timers.popDue now with ⟨_ | ⟨j, id | payload⟩, timers⟩
  · simp only [advance, Site.lift, fireNext_nothing due]
    exact .finished pass due ⟨rfl, rfl⟩ ((Told.refl _).table _) rfl rfl rfl
  · obtain ⟨call, c, fired⟩ := fireNext_expiry h due
    simp only [advance, Site.lift, fired]
    refine .expired pass due ⟨rfl, rfl⟩ ?_ rfl (.cancel call.timer timers) (by rw [pass]; rfl)
    exact ((Told.refl _).table _).trans (.uncounted (fun _ => rfl) _)
  · simp only [advance, Site.lift, fireNext_other due]
    refine .began pass due ⟨rfl, rfl⟩ ?_ ?_ ?_ rfl
    · split
      · exact (Told.refl _).table _
      · exact ((Told.refl _).table _).trans (.uncounted (fun _ => rfl) _)
    · split <;> rfl
    · split <;> rfl

theorem step_booking (h : m.table.Coherent) (move : DispatchMove β) :
    Booking m move (m.step move).1 (m.step move).2 := by
  unfold step
  split
  · rename_i pass
    exact advance_booking h pass
  · exact quiet_booking rfl ⟨rfl, rfl⟩ rfl rfl
  · rename_i stack
    exact quiet_booking rfl ⟨rfl, rfl⟩ rfl ((underway_countFired _ _).trans (by rw [stack]))
  · exact operate_booking m _

end DispatchMachine

end MessageRelay
