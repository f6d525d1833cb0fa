import MessageRelay.Proofs.Call.Machine

/-!
One settlement for each registration. As long as the entry of a call stays, polls of its reply find
nothing; the first move that takes the entry out decides what they find from then on, and no later
move changes it. The main statement follows a registration through a whole run.
-/
namespace MessageRelay.CallMachine

open CallTable

variable {β : Type} {m n : CallMachine β} {reply : PendingReply} {call : PendingCall}
  {s : Settlement}

/-- The call is pending, and so is the reply that its registration gave. -/
structure Awaited (m : CallMachine β) (reply : PendingReply) (call : PendingCall) : Prop where
  held : reply ∈ m.replies
  unsettled : reply.settled = false
  found : m.table.find? reply.id = some call
  ticket : call.ticket = reply.ticket

/-- The channel gives `s` from now on, and whoever polled the reply got it. -/
structure Decided (m : CallMachine β) (reply : PendingReply) (s : Settlement) : Prop where
  channel : ∃ c, m.table.channels[reply.ticket]? = some c ∧ c.outcome? = some s
  replies : ∀ r ∈ m.replies, r.ticket = reply.ticket → r = reply ∨ r = reply.delivered s

theorem Awaited.waiting (h : m.Coherent) (a : m.Awaited reply call) :
    m.table.channels[reply.ticket]? = some .waiting :=
  a.ticket ▸ h.table.waiting a.found

theorem Awaited.poll (h : m.Coherent) (a : m.Awaited reply call) :
    m.table.poll reply = (none, reply) :=
  poll_eq_none (a.waiting h) rfl

theorem Awaited.mem_filter (a : m.Awaited reply call) {q : PendingReply}
    (other : reply.ticket ≠ q.ticket) : reply ∈ m.replies.filter (·.ticket ≠ q.ticket) :=
  List.mem_filter.mpr ⟨a.held, decide_eq_true other⟩

theorem Awaited.of_ending (h : m.Coherent) (a : m.Awaited reply call) {t : CallTable β}
    {ended : PendingCall} {count : CallStats → CallStats} {c : Channel}
    (before : m.table.Undisturbed t) (entry : m.table.find? reply.id = some ended)
    (table : n.table = t.ending reply.id ended count c) :
    ended = call ∧ n.table.find? reply.id = none ∧
      n.table.channels[reply.ticket]? = some c := by
  have it : ended = call := Option.some.inj (entry.symm.trans a.found)
  have bound : call.ticket < t.channels.size := before.channels ▸ h.table.ticket_lt a.found
  refine ⟨it, ?_, ?_⟩
  · rw [table, find?_ending (before.coherent h.table), if_pos rfl]
  · rw [table, it, ← a.ticket, channels_ending _ _ _ _ bound, if_pos rfl]

theorem Awaited.of_ending_other (h : m.Coherent) (a : m.Awaited reply call) {t : CallTable β}
    {id : CorrelationId} {ended : PendingCall} {count : CallStats → CallStats} {c : Channel}
    (before : m.table.Undisturbed t) (other : reply.id ≠ id)
    (table : n.table = t.ending id ended count c) : n.table.find? reply.id = some call := by
  rw [table, find?_ending (before.coherent h.table), if_neg other, before.find?]
  exact a.found

theorem Awaited.change (h : m.Coherent) (a : m.Awaited reply call) {move : CallMove β}
    (change : Change m move n) :
    n.Awaited reply call ∨
      n.table.find? reply.id = none ∧ ∃ s, m.Ends reply.id call move s ∧
        ∃ c, n.table.channels[reply.ticket]? = some c ∧ c.outcome? = some s := by
  have found := a.found
  cases change with
  | quiet table replies =>
    exact .inl ⟨replies ▸ a.held, a.unsettled, (table.find? _).trans found, a.ticket⟩
  | registered free table replies =>
    have other : reply.id ≠ _ := fun same => by rw [same, free] at found; cases found
    refine .inl ⟨?_, a.unsettled, ?_, a.ticket⟩
    · rw [replies]
      exact List.mem_append_left _ a.held
    · rw [table, find?_registering, if_neg other]
      exact found
  | @ended _ _ id ended s c count t before entry ends outcome table replies =>
    by_cases same : reply.id = id
    · subst same
      obtain ⟨rfl, gone, channel⟩ := a.of_ending h before entry table
      exact .inr ⟨gone, s, ends, c, channel, outcome⟩
    · have stays := a.of_ending_other h before same table
      exact .inl ⟨replies ▸ a.held, a.unsettled, stays, a.ticket⟩
  | @endedAll _ _ e t before ends table replies =>
    have bound : reply.ticket < t.channels.size :=
      before.channels ▸ a.ticket ▸ h.table.ticket_lt found
    have listed : call ∈ t.calls.map (·.2) := mem_calls ((before.find? _).trans found)
    refine .inr ⟨by rw [table, find?_failAll], _, ends _ _, .settled ⟨.error e, false⟩, ?_, rfl⟩
    rw [table, channels_failAll e bound, if_pos (List.mem_map.mpr ⟨call, listed, a.ticket⟩)]
  | polled held unsettled table replies =>
    refine .inl ⟨?_, a.unsettled, table ▸ found, a.ticket⟩
    rw [replies]
    refine List.mem_map.mpr ⟨reply, a.held, ?_⟩
    split
    · rename_i same
      rw [← h.eq_of_ticket a.held held same, a.poll h]
    · rfl
  | dropped held past table replies =>
    have other : reply.ticket ≠ _ := fun same => by
      rw [← h.eq_of_ticket a.held held same, a.unsettled, found] at past
      rcases past with settled | free
      · cases settled
      · cases free
    exact .inl ⟨replies ▸ a.mem_filter other, a.unsettled, table ▸ found, a.ticket⟩
  | @gaveUp _ r dropped code held unsettled entry table replies =>
    by_cases same : reply.id = r.id
    · rw [← same] at entry table
      obtain ⟨rfl, gone, channel⟩ := a.of_ending h (.refl _) entry table
      exact .inr ⟨gone, _, .drop code held same.symm rfl unsettled, .abandoned, channel, rfl⟩
    · have other : reply.ticket ≠ r.ticket := fun tickets =>
        same (congrArg PendingReply.id (h.eq_of_ticket a.held held tickets))
      have stays := a.of_ending_other h (.refl _) same table
      exact .inl ⟨replies ▸ a.mem_filter other, a.unsettled, stays, a.ticket⟩

def AllAwaited (m : CallMachine β) : Prop :=
  ∀ id call, m.table.find? id = some call → ∃ reply, reply.id = id ∧ m.Awaited reply call

theorem AllAwaited.step (h : m.Coherent) (all : m.AllAwaited) (move : CallMove β) :
    (m.step move).2.AllAwaited := by
  intro id call found
  have change := step_change h.table move
  rcases change.entry_cases h.table found with old | ⟨-, fresh, replies⟩
  · obtain ⟨reply, rfl, awaited⟩ := all id call old
    rcases awaited.change h change with kept | ⟨gone, -⟩
    · exact ⟨reply, rfl, kept⟩
    · rw [gone] at found
      cases found
  · refine ⟨⟨id, m.table.channels.size, false, false⟩, rfl, ?_, rfl, found, fresh⟩
    rw [replies]
    exact List.mem_append_right _ (List.mem_singleton.mpr rfl)

theorem AllAwaited.run (h : m.Coherent) (all : m.AllAwaited) (moves : List (CallMove β)) :
    (m.run moves).AllAwaited := by
  induction moves generalizing m with
  | nil => exact all
  | cons move moves ih => exact ih (h.step move) (all.step h move)

theorem Change.keeps_channel (h : m.Coherent) {move : CallMove β} (change : Change m move n)
    {k : Ticket} {c : Channel} (channel : m.table.channels[k]? = some c)
    (outcome : c.outcome? = some s) : n.table.channels[k]? = some c := by
  have bound : k < m.table.channels.size := (Array.getElem?_eq_some_iff.mp channel).1
  have free {id : CorrelationId} {call : PendingCall} (found : m.table.find? id = some call) :
      k ≠ call.ticket := fun same => by
    rw [same, h.table.waiting found] at channel
    cases channel
    cases outcome
  cases change with
  | quiet table => exact table.channels ▸ channel
  | registered _ table => rw [table, channels_registering _ _ _ _ bound, channel]
  | ended before found _ _ table =>
    rw [table, channels_ending _ _ _ _ (before.channels ▸ bound), if_neg (free found),
      before.channels, channel]
  | @endedAll _ _ e t before _ table =>
    have unlisted : k ∉ (t.calls.map (·.2)).map (·.ticket) := fun listed => by
      obtain ⟨call, member, ticket⟩ := List.mem_map.mp listed
      obtain ⟨⟨id, call⟩, entry, rfl⟩ := List.mem_map.mp member
      rw [before.calls] at entry
      exact free ((find?_eq_some_iff_mem h.table.nodup).mpr entry) ticket.symm
    rw [table, channels_failAll e (before.channels ▸ bound), if_neg unlisted, before.channels,
      channel]
  | polled _ _ table | dropped _ _ table => exact table ▸ channel
  | gaveUp _ _ _ found table =>
    rw [table, channels_ending _ _ _ _ bound, if_neg (free found), channel]

theorem Decided.poll (d : m.Decided reply s) (fresh : reply.expired = false) :
    m.table.poll reply = (some s.result, reply.delivered s) := by
  obtain ⟨c, channel, outcome⟩ := d.channel
  exact poll_eq_some channel outcome fresh

theorem Change.keeps_replies {move : CallMove β} (change : Change m move n)
    (bound : reply.ticket < m.table.channels.size)
    (old : ∀ r ∈ m.replies, r.ticket = reply.ticket → r = reply ∨ r = reply.delivered s)
    (polled : m.table.poll reply = (none, reply) ∨ (m.table.poll reply).2 = reply.delivered s) :
    ∀ r ∈ n.replies, r.ticket = reply.ticket → r = reply ∨ r = reply.delivered s := by
  intro r held ticket
  rcases change.reply_cases held with before | ⟨id, rfl, -⟩ | ⟨q, before, unsettled, rfl⟩
  · exact old r before ticket
  · exact absurd bound (ticket ▸ Nat.lt_irrefl _)
  · rw [(poll_keeps _ _).2] at ticket
    rcases old q before ticket with rfl | rfl
    · rcases polled with none | some
      · exact .inl (by rw [none])
      · exact .inr some
    · cases unsettled

theorem Decided.change (h : m.Coherent) (d : m.Decided reply s) (fresh : reply.expired = false)
    {move : CallMove β} (change : Change m move n) : n.Decided reply s := by
  obtain ⟨c, channel, outcome⟩ := d.channel
  have bound := (Array.getElem?_eq_some_iff.mp channel).1
  refine ⟨⟨c, change.keeps_channel h channel outcome, outcome⟩, ?_⟩
  exact change.keeps_replies bound d.replies (.inr (by rw [d.poll fresh]))

theorem Decided.run (h : m.Coherent) (d : m.Decided reply s) (fresh : reply.expired = false)
    (moves : List (CallMove β)) : (m.run moves).Decided reply s := by
  induction moves generalizing m with
  | nil => exact d
  | cons move moves ih => exact ih (h.step move) (d.change h fresh (step_change h.table move))

/-- The first move after which the call is not pending decides what its caller gets. -/
theorem Awaited.decided (h : m.Coherent) (a : m.Awaited reply call) (move : CallMove β)
    (past : (m.step move).2.table.isPending reply.id = false) :
    ∃ s, m.Ends reply.id call move s ∧ (m.step move).2.Decided reply s := by
  have change := step_change h.table move
  have gone := isPending_eq_false_iff.mp past
  rcases a.change h change with kept | ⟨-, s, ends, channel⟩
  · rw [kept.found] at gone
    cases gone
  · refine ⟨s, ends, channel, ?_⟩
    refine change.keeps_replies (h.ticket_lt a.held) (fun r held ticket => ?_) (.inl (a.poll h))
    exact .inl (h.eq_of_ticket held a.held ticket)

theorem Awaited.step (h : m.Coherent) (a : m.Awaited reply call) (move : CallMove β)
    (pending : (m.step move).2.table.isPending reply.id = true) :
    (m.step move).2.Awaited reply call := by
  rcases a.change h (step_change h.table move) with kept | ⟨gone, -⟩
  · exact kept
  · rw [isPending_eq_false_iff.mpr gone] at pending
    cases pending

def PendingThrough (id : CorrelationId) : CallMachine β → List (CallMove β) → Prop
  | m, [] => m.table.isPending id = true
  | m, move :: moves => m.table.isPending id = true ∧ PendingThrough id (m.step move).2 moves

theorem PendingThrough.first {id : CorrelationId} {moves : List (CallMove β)}
    (through : PendingThrough id m moves) : m.table.isPending id = true := by
  cases moves with
  | nil => exact through
  | cons move moves => exact through.1

theorem Awaited.run (h : m.Coherent) (a : m.Awaited reply call) {moves : List (CallMove β)}
    (through : PendingThrough reply.id m moves) : (m.run moves).Awaited reply call := by
  induction moves generalizing m with
  | nil => exact a
  | cons move moves ih => exact ih (h.step move) (a.step h move through.2.first) through.2

theorem find?_reply (h : m.Coherent) {r : PendingReply} (held : r ∈ m.replies) :
    m.replies.find? (·.ticket = r.ticket) = some r :=
  (Keyed.find?_eq_some_iff h.nodup).mpr ⟨held, rfl⟩

theorem step_poll (h : m.Coherent) (code : m.InCode) {r : PendingReply} (held : r ∈ m.replies)
    (unsettled : r.settled = false) :
    (m.step (.poll r.ticket)).1 = .polled (m.table.poll r).1 (m.table.poll r).2 := by
  rw [step_inCode code (by simp)]
  simp only [operate, find?_reply h held, unsettled, Bool.false_eq_true, if_false]

theorem Change.still_held {move : CallMove β} (change : Change m move n) {ticket : Ticket}
    (held : ∃ r ∈ m.replies, r.ticket = ticket) (other : move ≠ .drop ticket) :
    ∃ r ∈ n.replies, r.ticket = ticket := by
  obtain ⟨r, held, rfl⟩ := held
  cases change with
  | quiet _ replies | ended _ _ _ _ _ replies | endedAll _ _ _ replies =>
    exact ⟨r, replies ▸ held, rfl⟩
  | registered _ _ replies =>
    rw [replies]
    exact ⟨r, List.mem_append_left _ held, rfl⟩
  | @polled _ q _ _ _ replies =>
    rw [replies]
    refine ⟨_, List.mem_map_of_mem held, ?_⟩
    split
    · rename_i same
      rw [(poll_keeps _ _).2, same]
    · rfl
  | @dropped _ q _ _ _ replies | @gaveUp _ q _ _ _ _ _ _ replies =>
    rw [replies]
    have different : r.ticket ≠ q.ticket := fun same => other (by rw [same])
    exact ⟨r, List.mem_filter.mpr ⟨held, decide_eq_true different⟩, rfl⟩

theorem Coherent.still_held_run (h : m.Coherent) {ticket : Ticket}
    (held : ∃ r ∈ m.replies, r.ticket = ticket) {moves : List (CallMove β)}
    (others : ∀ move ∈ moves, move ≠ .drop ticket) :
    ∃ r ∈ (m.run moves).replies, r.ticket = ticket := by
  induction moves generalizing m with
  | nil => exact held
  | cons move moves ih =>
    have next := (step_change h.table move).still_held held (others move List.mem_cons_self)
    exact ih (h.step move) next fun later member => others later (List.mem_cons_of_mem _ member)

/-- Resolving, failing, expiring and cancelling tell whether the call was pending. -/
def TellsPending (m : CallMachine β) (id : CorrelationId) : Prop :=
  (∀ reply, (m.step (.resolve id reply)).1 = .flag (m.table.isPending id)) ∧
    (∀ e, (m.step (.fail id e)).1 = .flag (m.table.isPending id)) ∧
    (m.step (.expire id)).1 = .flag (m.table.isPending id) ∧
    (m.step (.cancel id)).1 = .flag (m.table.isPending id)

theorem tellsPending (code : m.InCode) (id : CorrelationId) : m.TellsPending id := by
  refine ⟨fun reply => ?_, fun e => ?_, ?_, ?_⟩
  · rw [step_inCode code (by simp), ← (takes_resolve _ id reply).flag]
    rfl
  · rw [step_inCode code (by simp), ← (takes_fail _ id e).flag]
    rfl
  · rw [step_inCode code (by simp), ← (takes_expire _ id).flag]
    rfl
  · rw [step_inCode code (by simp), ← (takes_cancel _ id).flag]
    rfl

theorem not_isPending_of_takes {t : CallTable β} (h : t.Coherent) {id : CorrelationId}
    {count : CallStats → CallStats} {c : PendingCall → Channel} {stats : CallStats}
    {result : Bool × CallTable β} (takes : t.Takes id count c stats result) :
    result.2.isPending id = false := by
  rw [isPending_eq_false_iff]
  cases found : t.find? id with
  | none =>
    rw [takes.past found]
    exact found
  | some call => rw [takes.pending call found, find?_ending h, if_pos rfl]

theorem Ends.not_isPending (h : m.Coherent) {id : CorrelationId} {move : CallMove β}
    (ends : m.Ends id call move s) :
    (m.step move).2.table.isPending id = false := by
  cases ends with
  | resolve code reply =>
    rw [step_inCode code (by simp)]
    exact not_isPending_of_takes h.table (takes_resolve _ id reply)
  | fail code e =>
    rw [step_inCode code (by simp)]
    exact not_isPending_of_takes h.table (takes_fail _ id e)
  | cancel code =>
    rw [step_inCode code (by simp)]
    exact not_isPending_of_takes h.table (takes_cancel _ id)
  | expire code =>
    rw [step_inCode code (by simp)]
    exact not_isPending_of_takes h.table (takes_expire _ id)
  | failAll code e =>
    rw [step_inCode code (by simp)]
    exact isPending_eq_false_iff.mpr (find?_failAll e id)
  | close code =>
    rw [step_inCode code (by simp)]
    exact isPending_eq_false_iff.mpr (find?_failAll _ id)
  | drop code held same under unsettled =>
    subst same under
    rw [step_inCode code (by simp)]
    simp only [operate, find?_reply h held, CallTable.drop, unsettled, Bool.false_eq_true, if_false]
    exact not_isPending_of_takes h.table (takes_cancel _ _)
  | @timer now count below pass due =>
    rw [step_advance pass]
    obtain ⟨timers, popped⟩ : ∃ timers,
        m.table.timers.popDue now = (some (call.timer, .expiry id), timers) :=
      ⟨_, Prod.ext due rfl⟩
    have coherent := (Undisturbed.of_popDue popped).coherent h.table
    have gone := not_isPending_of_takes coherent (takes_expire _ id)
    simp only [advance, popped]
    split <;> exact gone

/-- The reply is held, and a poll of it finds nothing. -/
def Waits (m : CallMachine β) (reply : PendingReply) : Prop :=
  reply ∈ m.replies ∧ (m.InCode → (m.step (.poll reply.ticket)).1 = .polled none reply)

/-- Where the reply is held, a poll gives `s`, or has given it. -/
def Gives (m : CallMachine β) (reply : PendingReply) (s : Settlement) : Prop :=
  ∀ r ∈ m.replies, r.ticket = reply.ticket →
    r = reply.delivered s ∨
      r = reply ∧ (m.InCode →
        (m.step (.poll reply.ticket)).1 = .polled (some s.result) (reply.delivered s))

theorem Awaited.waits (h : m.Coherent) (a : m.Awaited reply call) : m.Waits reply := by
  refine ⟨a.held, fun code => ?_⟩
  rw [step_poll h code a.held a.unsettled, a.poll h]

theorem Decided.gives (h : m.Coherent) (d : m.Decided reply s) (unsettled : reply.settled = false)
    (fresh : reply.expired = false) : m.Gives reply s := by
  intro r held ticket
  rcases d.replies r held ticket with rfl | delivered
  · refine .inr ⟨rfl, fun code => ?_⟩
    rw [step_poll h code held unsettled, d.poll fresh]
  · exact .inl delivered

theorem register_awaited {id : CorrelationId} {timeout : Nanos} {info : CallInfo}
    (registered : (m.step (.register id timeout info)).1 = .registered (.ok reply)) :
    ∃ ticket timer, reply = ⟨id, ticket, false, false⟩ ∧
      (m.step (.register id timeout info)).2.Awaited reply ⟨info, timeout, timer, ticket⟩ := by
  obtain ⟨-, rfl, next⟩ := registered_ok registered
  refine ⟨_, m.table.timers.next, rfl, ?_, rfl, ?_, rfl⟩
  · rw [next]
    exact List.mem_append_right _ (List.mem_singleton.mpr rfl)
  · rw [next]
    exact (find?_registering _ _ _ _ _).trans (if_pos rfl)

/-- In a run from an empty table: the reply of a registration waits as long as its call is pending;
the moves that end the call are those listed in `Ends`; and what the first of them gives is all that
the reply ever gives, whatever is done afterwards. -/
theorem first_event_settles (before : List (CallMove β)) :
    let m := ({} : CallMachine β).run before
    (m.InCode → ∀ id, m.TellsPending id) ∧
    ∀ id timeout info reply,
      (m.step (.register id timeout info)).1 = .registered (.ok reply) →
      reply.id = id ∧ reply.settled = false ∧ reply.expired = false ∧
      ∀ during, PendingThrough id (m.step (.register id timeout info)).2 during →
        let n := (m.step (.register id timeout info)).2.run during
        n.Waits reply ∧
        ∃ call, n.table.find? id = some call ∧ call.info = info ∧ call.timeout = timeout ∧
          ∀ event,
            ((n.step event).2.table.isPending id = false ↔ ∃ s, n.Ends id call event s) ∧
            ∀ s, n.Ends id call event s → ∀ after,
              ((n.step event).2.run after).Gives reply s ∧
              ((∀ move ∈ event :: after, move ≠ .drop reply.ticket) →
                ∃ r ∈ ((n.step event).2.run after).replies, r.ticket = reply.ticket) := by
  intro m
  have coherent : m.Coherent := Coherent.empty.run before
  refine ⟨fun code id => tellsPending code id, fun id timeout info reply registered => ?_⟩
  obtain ⟨ticket, timer, rfl, awaited⟩ := register_awaited registered
  refine ⟨rfl, rfl, rfl, fun during through => ?_⟩
  have start := coherent.step (.register id timeout info)
  have there := start.run during
  have waiting := awaited.run start through
  refine ⟨waiting.waits there, _, waiting.found, rfl, rfl, fun event => ⟨⟨fun past => ?_, ?_⟩, ?_⟩⟩
  · obtain ⟨s, ends, -⟩ := waiting.decided there event past
    exact ⟨s, ends⟩
  · rintro ⟨s, ends⟩
    exact ends.not_isPending there
  · intro s ends after
    have gone := ends.not_isPending there
    obtain ⟨s', ends', decided⟩ := waiting.decided there event gone
    cases ends.unique ends'
    have next := there.step event
    refine ⟨(decided.run next rfl after).gives (next.run after) rfl rfl, fun others => ?_⟩
    exact there.still_held_run ⟨_, waiting.held, rfl⟩ others

theorem first_event_settles_timeout :
    let n := (({} : CallMachine Empty).step (.register default 5 {})).2.run [.elapse 5, .enter 5]
    let l := (n.step .advance).2.run [.register default 7 {}, .advance, .fail default .cancelled]
    n.Waits ⟨default, 0, false, false⟩ ∧
      l.Gives ⟨default, 0, false, false⟩
        ⟨.error (.timeout default (PendingCall.timeoutDetail ⟨{}, 5, 0, 0⟩)), true⟩ := by
  intro n l
  obtain ⟨-, -, -, following⟩ :=
    (first_event_settles ([] : List (CallMove Empty))).2 default 5 {} ⟨default, 0, false, false⟩ rfl
  obtain ⟨waits, call, found, -, -, events⟩ := following [.elapse 5, .enter 5] ⟨rfl, rfl, rfl⟩
  cases found
  exact ⟨waits, ((events .advance).2 _ (.timer rfl rfl) _).1⟩

end MessageRelay.CallMachine
