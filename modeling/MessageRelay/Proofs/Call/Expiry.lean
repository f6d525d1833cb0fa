import MessageRelay.Proofs.Call.Closing

/-!
The calls that time out in a run, and the runs of the hook. Both are read off the states alone: a call
times out where its channel comes to tell so, and the hook runs where its frame comes on top of the
stack. The hook, once it is set, runs for each such call once, when the call is over.
-/
namespace MessageRelay

def CallTable.isExpired {β : Type} (k : Ticket) (t : CallTable β) : Bool :=
  match t.channels[k]? with
  | some (.settled s) => s.expired
  | _ => false

/-- A call that timed out. -/
structure Expiry where
  id : CorrelationId
  call : PendingCall
  pass? : Option Nanos

def Expiry.settlement (e : Expiry) : Settlement := ⟨.error (.timeout e.id e.call.timeoutDetail), true⟩

namespace CallMachine

open CallTable

variable {β : Type} {m n : CallMachine β} {move : CallMove β}

def pass? (m : CallMachine β) : CallMove β → Option Nanos
  | .advance =>
    match m.stack with
    | .pass now _ :: _ => some now
    | _ => none
  | _ => none

/-- The call that times out by a move. -/
def expires? (m : CallMachine β) (move : CallMove β) : Option Expiry :=
  (m.table.calls.find? fun entry => (m.step move).2.table.isExpired entry.2.ticket).map fun entry =>
    ⟨entry.1, entry.2, m.pass? move⟩

def entered? (m : CallMachine β) (move : CallMove β) : Option CorrelationId :=
  match (m.step move).2.stack with
  | .hook id :: below => if below.length = m.stack.length then some id else none
  | _ => none

def expirations (m : CallMachine β) : List (CallMove β) → List Expiry
  | [] => []
  | move :: moves => (m.expires? move).toList ++ (m.step move).2.expirations moves

def hookRuns (m : CallMachine β) : List (CallMove β) → List CorrelationId
  | [] => []
  | move :: moves => (m.entered? move).toList ++ (m.step move).2.hookRuns moves

abbrev TimesOut (m : CallMachine β) (id : CorrelationId) (call : PendingCall) (move : CallMove β) :
    Prop := m.Ends id call move ⟨.error (.timeout id call.timeoutDetail), true⟩

theorem isExpired_of_waiting {t : CallTable β} {k : Ticket}
    (waiting : t.channels[k]? = some .waiting) : t.isExpired k = false := by
  rw [isExpired, waiting]

theorem Change.timesOut (change : Change m move n) (h : m.table.Coherent) {id : CorrelationId}
    {call : PendingCall} (found : m.table.find? id = some call)
    (expired : n.table.isExpired call.ticket = true) : m.TimesOut id call move := by
  have waits (waiting : n.table.channels[call.ticket]? = some .waiting) : m.TimesOut id call move := by
    rw [isExpired_of_waiting waiting] at expired
    cases expired
  have waiting := h.waiting found
  have below := h.ticket_lt found
  cases change with
  | quiet table => exact waits (table.channels ▸ waiting)
  | registered free table =>
    refine waits ?_
    rw [table, channels_registering _ _ _ _ below]
    exact waiting
  | ended before entry ends outcome table =>
    rename_i k other s c count t _
    have channels : n.table.channels[call.ticket]? =
        if call.ticket = other.ticket then some c else m.table.channels[call.ticket]? := by
      rw [table, channels_ending _ _ _ _ (by rw [before.channels]; exact below), before.channels]
    by_cases same : call.ticket = other.ticket
    · have key := h.sameTicket found entry same
      subst key
      cases found.symm.trans entry
      rw [if_pos rfl] at channels
      rw [isExpired, channels] at expired
      cases c with
      | waiting => cases expired
      | abandoned => cases expired
      | settled s' =>
        cases outcome
        cases ends with
        | expire code => exact .expire code
        | timer pass due => exact .timer pass due
        | _ => cases expired
    · rw [if_neg same] at channels
      exact waits (channels.trans waiting)
  | endedAll before ends table =>
    rename_i e t _
    have channels := channels_failAll (t := t) e (by rw [before.channels]; exact below)
    rw [← table, before.channels] at channels
    split at channels
    · rw [isExpired, channels] at expired
      cases expired
    · exact waits (channels.trans waiting)
  | polled _ _ table | dropped _ _ table => exact waits (table ▸ waiting)
  | gaveUp code held unsettled entry table =>
    rename_i r other _
    have channels : n.table.channels[call.ticket]? = if call.ticket = other.ticket then
        some .abandoned else m.table.channels[call.ticket]? := by
      rw [table, channels_ending _ _ _ _ below]
    split at channels
    · rw [isExpired, channels] at expired
      cases expired
    · exact waits (channels.trans waiting)

/-- A call that times out has left the table, its caller has been told, and the hook is about to run,
if there is one. -/
structure Expired (m n : CallMachine β) (e : Expiry) : Prop where
  pending : m.table.find? e.id = some e.call
  gone : n.table.find? e.id = none
  told : n.table.channels[e.call.ticket]? = some (.settled e.settlement)
  hooked : m.hooked = true → n.stack = .hook e.id :: m.stack
  unhooked : m.hooked = false → n.stack.length = m.stack.length

theorem length_countFired (stack : List (CallFrame β)) :
    (countFired stack).length = stack.length := by
  unfold countFired
  split <;> rfl

theorem ending_timedOut {t : CallTable β} (h : t.Coherent) {id : CorrelationId} {call : PendingCall}
    (found : t.find? id = some call) :
    let u := t.ending id call countTimedOut (.settled ⟨.error (.timeout id call.timeoutDetail), true⟩)
    u.find? id = none ∧ u.channels[call.ticket]? =
      some (.settled ⟨.error (.timeout id call.timeoutDetail), true⟩) := by
  refine ⟨(find?_ending h id call _ _ id).trans (if_pos rfl), ?_⟩
  rw [channels_ending _ _ _ _ (h.ticket_lt found), if_pos rfl]

theorem TimesOut.expired (h : m.table.Coherent) {id : CorrelationId} {call : PendingCall}
    (found : m.table.find? id = some call) (ends : m.TimesOut id call move) :
    m.Expired (m.step move).2 ⟨id, call, m.pass? move⟩ := by
  cases ends with
  | expire code =>
    have told : m.step (.expire id) = (.flag (m.expire id).1, (m.expire id).2) :=
      step_inCode code (by simp)
    obtain ⟨gone, channel⟩ := ending_timedOut h found
    rw [told]
    simp only [CallMachine.expire, expire_of_find? found]
    exact ⟨found, gone, channel, fun hooked => by simp [hooked], fun unhooked => by simp [unhooked]⟩
  | @timer now count below pass due =>
    obtain ⟨popped, taken⟩ : ∃ timers, m.table.timers.popDue now =
        (some (call.timer, .expiry id), timers) := ⟨_, Prod.ext due rfl⟩
    have entry : { m.table with timers := popped }.find? id = some call := found
    obtain ⟨gone, channel⟩ := ending_timedOut ((Undisturbed.of_popDue taken).coherent h) entry
    rw [step_advance pass]
    simp only [advance, taken, CallMachine.expire, expire_of_find? entry, Bool.true_and]
    cases hooked : m.hooked with
    | true => exact ⟨found, gone, channel, fun _ => by simp, fun unset => by simp [hooked] at unset⟩
    | false =>
      exact ⟨found, gone, channel, fun set => by simp [hooked] at set,
        fun _ => by simp [length_countFired]⟩

theorem TimesOut.unique {id id' : CorrelationId} {call call' : PendingCall}
    (a : m.TimesOut id call move) (b : m.TimesOut id' call' move) : id = id' := by
  cases a with
  | expire => cases b; rfl
  | timer _ due =>
    cases b with
    | timer pass due' =>
      rename_i top _ _ _
      cases pass.symm.trans top
      have same := due.symm.trans due'
      simp only [Option.some.injEq, Prod.mk.injEq, CallTimer.expiry.injEq] at same
      exact same.2

theorem isExpired_of_told {t : CallTable β} {e : Expiry}
    (told : t.channels[e.call.ticket]? = some (.settled e.settlement)) :
    t.isExpired e.call.ticket = true := by
  rw [isExpired, told]
  rfl

theorem expires?_eq_some_iff (h : m.table.Coherent) {e : Expiry} :
    m.expires? move = some e ↔ m.table.find? e.id = some e.call ∧ m.TimesOut e.id e.call move ∧
      m.pass? move = e.pass? := by
  have entry_found {id : CorrelationId} {call : PendingCall} (member : (id, call) ∈ m.table.calls) :
      m.table.find? id = some call := (find?_eq_some_iff_mem h.nodup).mpr member
  constructor
  · intro expires
    obtain ⟨⟨id, call⟩, listed, rfl⟩ := Option.map_eq_some_iff.mp expires
    have found := entry_found (List.mem_of_find?_eq_some listed)
    have expired := List.find?_some listed
    exact ⟨found, (step_change h move).timesOut h found expired, rfl⟩
  · rintro ⟨found, ends, pass⟩
    obtain ⟨id, call, _⟩ := e
    subst pass
    have told := isExpired_of_told (ends.expired h found).told
    cases listed : m.table.calls.find?
        fun entry => (m.step move).2.table.isExpired entry.2.ticket with
    | none =>
      have member := mem_of_find? found
      exact absurd told (List.find?_eq_none.mp listed _ member)
    | some entry =>
      obtain ⟨id', call'⟩ := entry
      have found' := entry_found (List.mem_of_find?_eq_some listed)
      have expired := List.find?_some listed
      have same := ends.unique ((step_change h move).timesOut h found' expired)
      subst same
      cases found.symm.trans found'
      rw [expires?, listed]
      rfl

theorem Expired.of_expires (h : m.table.Coherent) {e : Expiry}
    (expires : m.expires? move = some e) : m.Expired (m.step move).2 e := by
  obtain ⟨found, ends, pass⟩ := (expires?_eq_some_iff h).mp expires
  have expired := ends.expired h found
  rwa [pass] at expired

theorem entered?_eq_some_iff {id : CorrelationId} : m.entered? move = some id ↔
    (m.step move).2.stack.length = m.stack.length + 1 ∧
      (m.step move).2.stack.head? = some (.hook id) := by
  unfold entered?
  split
  · rename_i k below stack
    rw [stack]
    simp [and_comm]
  · rename_i other
    refine ⟨nofun, fun ⟨_, top⟩ => ?_⟩
    obtain ⟨below, stack⟩ := List.head?_eq_some_iff.mp top
    exact absurd stack (other id below)

theorem entered?_of_le (le : (m.step move).2.stack.length ≤ m.stack.length) :
    m.entered? move = none := by
  rw [Option.eq_none_iff_forall_ne_some]
  intro id entered
  have longer := (entered?_eq_some_iff.mp entered).1
  omega

theorem leave_length_le (m : CallMachine β) :
    (m.step .leave).2.stack.length ≤ m.stack.length := by
  rcases stack : m.stack with _ | ⟨_ | _ | _, below⟩
  · simp [step, stack, operate]
  · simp [step, stack]
  · simp [step, stack, leave, length_countFired]
  · simp [step, stack, leave, length_countFired]

theorem operate_stack (m : CallMachine β) (move : CallMove β) :
    (m.operate move).2.stack = m.stack ∨ (∃ now, move = .enter now) ∨ ∃ id, move = .expire id := by
  cases move with
  | enter now => exact .inr (.inl ⟨now, rfl⟩)
  | expire id => exact .inr (.inr ⟨id, rfl⟩)
  | register id timeout info =>
    simp only [operate]
    split <;> exact .inl rfl
  | poll ticket =>
    simp only [operate]
    split
    · exact .inl rfl
    · split <;> exact .inl rfl
  | drop ticket =>
    simp only [operate]
    split <;> exact .inl rfl
  | _ => exact .inl rfl

theorem operate_top {id : CorrelationId}
    (longer : (m.operate move).2.stack.length = m.stack.length + 1)
    (top : (m.operate move).2.stack.head? = some (.hook id)) :
    move = .expire id ∧ m.table.isPending id = true := by
  rcases operate_stack m move with same | ⟨now, rfl⟩ | ⟨k, rfl⟩
  · rw [same] at longer
    omega
  · cases top
  · have flag := (takes_expire m.table k).flag
    simp only [operate, expire] at longer top
    split at top
    · rename_i done
      cases top
      exact ⟨rfl, flag.symm.trans (Bool.and_eq_true_iff.mp done).1⟩
    · rename_i skipped
      rw [if_neg skipped] at longer
      omega

theorem advance_top (h : m.table.Coherent) {now : Nanos} {count : Nat} {below : List (CallFrame β)}
    (pass : m.stack = .pass now count :: below) {id : CorrelationId}
    (longer : (m.step .advance).2.stack.length = m.stack.length + 1)
    (top : (m.step .advance).2.stack.head? = some (.hook id)) :
    ∃ call, m.table.find? id = some call ∧ m.TimesOut id call .advance := by
  rw [step_advance pass] at longer top
  rcases taken : m.table.timers.popDue now with ⟨_ | ⟨j, k | payload⟩, timers⟩
  · simp only [advance, taken, pass, List.length_cons] at longer
    omega
  · obtain ⟨call, found, timer⟩ := h.expiry (TimerQueue.popDue_some taken).1
    have due : (m.table.timers.popDue now).1 = some (call.timer, .expiry k) := by rw [taken, timer]
    have ends : m.TimesOut k call .advance := .timer pass due
    have expired := ends.expired h found
    rw [step_advance pass] at expired
    cases hooked : m.hooked with
    | true =>
      rw [expired.hooked hooked] at top
      cases top
      exact ⟨call, found, ends⟩
    | false =>
      have same := expired.unhooked hooked
      omega
  · simp only [advance, taken] at top
    cases top

theorem entered_timesOut (h : m.table.Coherent) {id : CorrelationId}
    (entered : m.entered? move = some id) :
    ∃ call, m.table.find? id = some call ∧ m.TimesOut id call move := by
  obtain ⟨longer, top⟩ := entered?_eq_some_iff.mp entered
  rcases m.inCode_or_pass with code | ⟨now, count, below, pass⟩
  · have other : move ≠ .leave := by
      rintro rfl
      have le := leave_length_le m
      omega
    rw [step_inCode code other] at longer top
    obtain ⟨rfl, pending⟩ := operate_top longer top
    obtain ⟨call, found⟩ := isPending_iff.mp pending
    exact ⟨call, found, .expire code⟩
  · by_cases advances : move = .advance
    · subst advances
      exact advance_top h pass longer top
    · rw [step_refused pass advances] at longer
      exact absurd longer (Nat.ne_of_lt (Nat.lt_succ_self _))

theorem entered?_eq (h : m.table.Coherent) (move : CallMove β) :
    m.entered? move = if m.hooked then (m.expires? move).map (·.id) else none := by
  cases expires : m.expires? move with
  | some e =>
    have expired := Expired.of_expires h expires
    cases hooked : m.hooked with
    | true =>
      have stack := expired.hooked hooked
      exact entered?_eq_some_iff.mpr ⟨by rw [stack]; rfl, by rw [stack]; rfl⟩
    | false => exact entered?_of_le (Nat.le_of_eq (expired.unhooked hooked))
  | none =>
    rw [Option.map_none, ite_self, Option.eq_none_iff_forall_ne_some]
    intro id entered
    obtain ⟨call, found, ends⟩ := entered_timesOut h entered
    have expires' := (expires?_eq_some_iff h (e := ⟨id, call, m.pass? move⟩)).mpr ⟨found, ends, rfl⟩
    exact nomatch expires.symm.trans expires'

theorem operate_hooked (hooked : m.hooked = true) (move : CallMove β) :
    (m.operate move).2.hooked = true := by
  cases move with
  | setHook => rfl
  | register id timeout info =>
    simp only [operate]
    split <;> exact hooked
  | poll ticket =>
    simp only [operate]
    split
    · exact hooked
    · split <;> exact hooked
  | drop ticket =>
    simp only [operate]
    split <;> exact hooked
  | _ => exact hooked

theorem step_hooked (hooked : m.hooked = true) (move : CallMove β) :
    (m.step move).2.hooked = true := by
  unfold step
  split
  · unfold advance
    split
    · exact hooked
    · exact hooked
    · dsimp only
      split <;> exact hooked
  · exact hooked
  · exact hooked
  · exact hooked
  · exact operate_hooked hooked _

/-- Once it is set, the hook runs for each call that times out, in that order. -/
theorem hookRuns_eq (h : m.Coherent) (hooked : m.hooked = true) (moves : List (CallMove β)) :
    m.hookRuns moves = (m.expirations moves).map (·.id) := by
  induction moves generalizing m with
  | nil => rfl
  | cons move moves ih =>
    have now := entered?_eq h.table move
    rw [if_pos hooked] at now
    rw [hookRuns, expirations, List.map_append, now, ih (h.step move) (step_hooked hooked move)]
    cases m.expires? move <;> rfl

theorem mem_expirations {e : Expiry} {moves : List (CallMove β)} :
    e ∈ m.expirations moves ↔ ∃ before move after, moves = before ++ move :: after ∧
      (m.run before).expires? move = some e := by
  induction moves generalizing m with
  | nil => simp [expirations]
  | cons move moves ih =>
    rw [expirations, List.mem_append, Option.mem_toList, ih]
    constructor
    · rintro (now | ⟨before, later, after, rfl, expires⟩)
      · exact ⟨[], move, moves, rfl, now⟩
      · exact ⟨move :: before, later, after, rfl, expires⟩
    · rintro ⟨_ | ⟨first, before⟩, later, after, split, expires⟩
      · obtain ⟨rfl, rfl⟩ := List.cons.inj split
        exact .inl expires
      · obtain ⟨rfl, rfl⟩ := List.cons.inj split
        exact .inr ⟨before, later, after, rfl, expires⟩

theorem ticket_ne_of_told (h : m.Coherent) {k : Ticket} {s : Settlement}
    (told : m.table.channels[k]? = some (.settled s)) {e : Expiry} {moves : List (CallMove β)}
    (later : e ∈ m.expirations moves) : e.call.ticket ≠ k := by
  rintro rfl
  obtain ⟨before, move, after, -, expires⟩ := mem_expirations.mp later
  have there := h.run before
  have waiting := there.table.waiting ((expires?_eq_some_iff there.table).mp expires).1
  cases waiting.symm.trans (h.keeps_channel told rfl before)

theorem expirations_nodup (h : m.Coherent) (moves : List (CallMove β)) :
    ((m.expirations moves).map (·.call.ticket)).Nodup := by
  induction moves generalizing m with
  | nil => exact List.nodup_nil
  | cons move moves ih =>
    have next := h.step move
    rw [expirations]
    cases expires : m.expires? move with
    | none => exact ih next
    | some e =>
      refine List.nodup_cons.mpr ⟨fun again => ?_, ih next⟩
      obtain ⟨e', later, same⟩ := List.mem_map.mp again
      exact ticket_ne_of_told next (Expired.of_expires h.table expires).told later same

end CallMachine

end MessageRelay
