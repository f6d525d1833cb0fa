import MessageRelay.Call.Table
import MessageRelay.Proofs.Timer.Live

/-!
What the operations of a call table do to its entries, channels and timers, and what always ties
these together: the channel of a pending call waits, no two calls share a channel or a timer, and a
timer that would end a call is the one recorded in the entry of that call.
-/
namespace MessageRelay

def Channel.outcome? : Channel → Option Settlement
  | .waiting => none
  | .settled s => some s
  | .abandoned => some ⟨.error .cancelled, false⟩

def PendingReply.delivered (s : Settlement) (r : PendingReply) : PendingReply :=
  { r with settled := true, expired := s.expired }

namespace CallTable

variable {β : Type} {t : CallTable β}

theorem find?_eq_lookup (t : CallTable β) (id : CorrelationId) :
    t.find? id = t.calls.lookup id := Keyed.find?_map_eq_lookup t.calls id

theorem find?_eq_none_iff {id : CorrelationId} :
    t.find? id = none ↔ id ∉ t.calls.map (·.1) := by
  rw [find?_eq_lookup, Keyed.lookup_eq_none_iff_keys]

theorem mem_of_find? {id : CorrelationId} {call : PendingCall} (found : t.find? id = some call) :
    (id, call) ∈ t.calls :=
  Keyed.mem_of_lookup (t.find?_eq_lookup id ▸ found)

theorem find?_eq_some_iff_mem (nodup : (t.calls.map (·.1)).Nodup) {id : CorrelationId}
    {call : PendingCall} : t.find? id = some call ↔ (id, call) ∈ t.calls := by
  rw [find?_eq_lookup, Keyed.lookup_eq_some_iff_mem nodup]

theorem isPending_iff {id : CorrelationId} :
    t.isPending id = true ↔ ∃ call, t.find? id = some call := by
  rw [isPending, Option.isSome_iff_exists]

theorem isPending_eq_false_iff {id : CorrelationId} :
    t.isPending id = false ↔ t.find? id = none := by
  rw [isPending, Option.isSome_eq_false_iff, Option.isNone_iff_eq_none]

theorem poll_eq_none {r : PendingReply} {c : Channel} (channel : t.channels[r.ticket]? = some c)
    (h : c.outcome? = none) : t.poll r = (none, r) := by
  cases c with
  | waiting => simp [poll, channel]
  | settled s => simp [Channel.outcome?] at h
  | abandoned => simp [Channel.outcome?] at h

theorem poll_eq_some {r : PendingReply} {c : Channel} {s : Settlement}
    (channel : t.channels[r.ticket]? = some c) (h : c.outcome? = some s)
    (fresh : r.expired = false) : t.poll r = (some s.result, r.delivered s) := by
  cases c with
  | waiting => simp [Channel.outcome?] at h
  | settled s' =>
    simp only [Channel.outcome?, Option.some.injEq] at h
    simp [poll, channel, h, PendingReply.delivered]
  | abandoned =>
    simp only [Channel.outcome?, Option.some.injEq] at h
    simp [poll, channel, ← h, PendingReply.delivered, fresh]

def ending (id : CorrelationId) (call : PendingCall) (count : CallStats → CallStats) (c : Channel)
    (t : CallTable β) : CallTable β :=
  { t with
    calls := t.calls.eraseP (·.1 = id)
    stats := count t.stats
    timers := (t.timers.cancel call.timer).2
    channels := t.channels.setIfInBounds call.ticket c }

theorem take_of_find? {id : CorrelationId} {call : PendingCall} (count : CallStats → CallStats)
    (h : t.find? id = some call) :
    t.take id count = (some call, t.ending id call count .abandoned) := by
  rw [take, h]
  rfl

theorem take_of_not_pending {id : CorrelationId} (count : CallStats → CallStats)
    (h : t.find? id = none) : t.take id count = (none, t) := by
  rw [take, h]

theorem settle_ending (id : CorrelationId) (call : PendingCall) (count : CallStats → CallStats)
    (c : Channel) (s : Settlement) :
    (t.ending id call count c).settle call s = t.ending id call count (.settled s) := by
  simp only [settle, ending, Array.setIfInBounds_setIfInBounds]

def countCompleted (s : CallStats) : CallStats := { s with completed := s.completed + 1 }

def countFailed (s : CallStats) : CallStats := { s with failed := s.failed + 1 }

def countTimedOut (s : CallStats) : CallStats := { s with timedOut := s.timedOut + 1 }

def countCancelled (s : CallStats) : CallStats := { s with cancelled := s.cancelled + 1 }

theorem resolve_of_find? {id : CorrelationId} {call : PendingCall} (reply : Reply)
    (h : t.find? id = some call) :
    t.resolve id reply = (true, t.ending id call countCompleted (.settled ⟨.ok reply, false⟩)) := by
  rw [resolve, take_of_find? _ h]
  exact congrArg (true, ·) (settle_ending id call _ _ _)

theorem resolve_of_not_pending {id : CorrelationId} (reply : Reply) (h : t.find? id = none) :
    t.resolve id reply = (false, t.countStale) := by
  rw [resolve, take_of_not_pending _ h]

theorem fail_of_find? {id : CorrelationId} {call : PendingCall} (e : CallError)
    (h : t.find? id = some call) :
    t.fail id e = (true, t.ending id call countFailed (.settled ⟨.error e, false⟩)) := by
  rw [fail, take_of_find? _ h]
  exact congrArg (true, ·) (settle_ending id call _ _ _)

theorem fail_of_not_pending {id : CorrelationId} (e : CallError) (h : t.find? id = none) :
    t.fail id e = (false, t.countStale) := by
  rw [fail, take_of_not_pending _ h]

theorem expire_of_find? {id : CorrelationId} {call : PendingCall} (h : t.find? id = some call) :
    t.expire id = (true, t.ending id call countTimedOut
      (.settled ⟨.error (.timeout id call.timeoutDetail), true⟩)) := by
  rw [expire, take_of_find? _ h]
  exact congrArg (true, ·) (settle_ending id call _ _ _)

theorem expire_of_not_pending {id : CorrelationId} (h : t.find? id = none) :
    t.expire id = (false, t) := by
  rw [expire, take_of_not_pending _ h]

theorem cancel_of_find? {id : CorrelationId} {call : PendingCall} (h : t.find? id = some call) :
    t.cancel id = (true, t.ending id call countCancelled .abandoned) := by
  rw [cancel, take_of_find? _ h]
  rfl

theorem cancel_of_not_pending {id : CorrelationId} (h : t.find? id = none) :
    t.cancel id = (false, t) := by
  rw [cancel, take_of_not_pending _ h]

/-- What an operation for one id gives. It takes the pending call of the id out, counts it, and leaves
this in its channel; or else it says that none is pending, and only sets the counters. -/
structure Takes (t : CallTable β) (id : CorrelationId) (count : CallStats → CallStats)
    (c : PendingCall → Channel) (stats : CallStats) (result : Bool × CallTable β) : Prop where
  pending : ∀ call, t.find? id = some call → result = (true, t.ending id call count (c call))
  past : t.find? id = none → result = (false, { t with stats := stats })

theorem takes_resolve (t : CallTable β) (id : CorrelationId) (reply : Reply) :
    t.Takes id countCompleted (fun _ => .settled ⟨.ok reply, false⟩) t.countStale.stats
      (t.resolve id reply) :=
  ⟨fun _ => resolve_of_find? reply, resolve_of_not_pending reply⟩

theorem takes_fail (t : CallTable β) (id : CorrelationId) (e : CallError) :
    t.Takes id countFailed (fun _ => .settled ⟨.error e, false⟩) t.countStale.stats
      (t.fail id e) :=
  ⟨fun _ => fail_of_find? e, fail_of_not_pending e⟩

theorem takes_expire (t : CallTable β) (id : CorrelationId) :
    t.Takes id countTimedOut
      (fun call => .settled ⟨.error (.timeout id call.timeoutDetail), true⟩) t.stats
      (t.expire id) :=
  ⟨fun _ => expire_of_find?, expire_of_not_pending⟩

theorem takes_cancel (t : CallTable β) (id : CorrelationId) :
    t.Takes id countCancelled (fun _ => .abandoned) t.stats (t.cancel id) :=
  ⟨fun _ => cancel_of_find?, cancel_of_not_pending⟩

section Takes

variable {id : CorrelationId} {count : CallStats → CallStats} {c : PendingCall → Channel}
  {stats : CallStats} {result : Bool × CallTable β}

theorem Takes.flag (takes : t.Takes id count c stats result) : result.1 = t.isPending id := by
  cases found : t.find? id with
  | none => rw [takes.past found, isPending_eq_false_iff.mpr found]
  | some call => rw [takes.pending call found, isPending_iff.mpr ⟨call, found⟩]

theorem Takes.closed (takes : t.Takes id count c stats result) : result.2.closed = t.closed := by
  cases found : t.find? id with
  | none => rw [takes.past found]
  | some call =>
    rw [takes.pending call found]
    rfl

end Takes

def endAll (e : CallError) (calls : List PendingCall) (t : CallTable β) : CallTable β :=
  calls.foldl (fun t call =>
    { t with timers := (t.timers.cancel call.timer).2 }.settle call ⟨.error e, false⟩) t

def cleared (t : CallTable β) : CallTable β :=
  { t with calls := [], stats.failed := t.stats.failed + t.calls.length }

theorem failAll_eq (e : CallError) (t : CallTable β) :
    t.failAll e = (t.calls.length, endAll e (t.calls.map (·.2)) t.cleared) := by
  simp only [failAll, endAll, cleared, List.length_map]

theorem endAll_cons (e : CallError) (call : PendingCall) (calls : List PendingCall)
    (t : CallTable β) :
    endAll e (call :: calls) t = endAll e calls
      { t with
        timers := (t.timers.cancel call.timer).2
        channels := t.channels.setIfInBounds call.ticket (.settled ⟨.error e, false⟩) } := rfl

theorem endAll_calls (e : CallError) (calls : List PendingCall) (t : CallTable β) :
    (endAll e calls t).calls = t.calls := by
  induction calls generalizing t with
  | nil => rfl
  | cons call calls ih => rw [endAll_cons, ih]

theorem endAll_numbered (e : CallError) (calls : List PendingCall) {t : CallTable β}
    (h : t.timers.Numbered) : (endAll e calls t).timers.Numbered := by
  induction calls generalizing t with
  | nil => exact h
  | cons call calls ih =>
    rw [endAll_cons]
    exact ih (h.cancel call.timer)

theorem live?_endAll (e : CallError) (calls : List PendingCall) {t : CallTable β}
    (h : t.timers.Numbered) (n : TimerId) :
    (endAll e calls t).timers.live? n =
      if n ∈ calls.map (·.timer) then none else t.timers.live? n := by
  induction calls generalizing t with
  | nil => simp [endAll]
  | cons call calls ih =>
    rw [endAll_cons, ih (h.cancel call.timer), TimerQueue.live?_cancel h]
    by_cases same : n = call.timer <;> by_cases later : n ∈ calls.map (·.timer) <;>
      simp [same, later]

theorem channels_endAll (e : CallError) (calls : List PendingCall) (t : CallTable β)
    (k : Ticket) (h : k < t.channels.size) :
    (endAll e calls t).channels[k]? =
      if k ∈ calls.map (·.ticket) then some (.settled ⟨.error e, false⟩) else t.channels[k]? := by
  induction calls generalizing t with
  | nil => simp [endAll]
  | cons call calls ih =>
    rw [endAll_cons, ih _ (by simpa using h)]
    by_cases same : call.ticket = k
    · subst same
      simp [h]
    · have other : ¬ k = call.ticket := fun eq => same eq.symm
      simp [same, other]

theorem size_endAll (e : CallError) (calls : List PendingCall) (t : CallTable β) :
    (endAll e calls t).channels.size = t.channels.size := by
  induction calls generalizing t with
  | nil => rfl
  | cons call calls ih =>
    rw [endAll_cons, ih]
    simp

structure Coherent (t : CallTable β) : Prop where
  numbered : t.timers.Numbered
  nodup : (t.calls.map (·.1)).Nodup
  waiting : ∀ {id call}, t.find? id = some call → t.channels[call.ticket]? = some .waiting
  sameTicket : ∀ {id call id' call'}, t.find? id = some call → t.find? id' = some call' →
    call.ticket = call'.ticket → id = id'
  sameTimer : ∀ {id call id' call'}, t.find? id = some call → t.find? id' = some call' →
    call.timer = call'.timer → id = id'
  timer_lt : ∀ {id call}, t.find? id = some call → call.timer < t.timers.next
  expiry : ∀ {n id}, t.timers.live? n = some (.expiry id) →
    ∃ call, t.find? id = some call ∧ call.timer = n

namespace Coherent

theorem empty : Coherent ({} : CallTable β) where
  numbered := TimerQueue.empty_numbered
  nodup := List.nodup_nil
  waiting h := by cases h
  sameTicket h := by cases h
  sameTimer h := by cases h
  timer_lt h := by cases h
  expiry h := by cases h

theorem ticket_lt (h : Coherent t) {id : CorrelationId} {call : PendingCall}
    (found : t.find? id = some call) : call.ticket < t.channels.size := by
  have waiting := h.waiting found
  rw [Array.getElem?_eq_some_iff] at waiting
  exact waiting.1

theorem withTimers (h : Coherent t) {timers : TimerQueue (CallTimer β)} (numbered : timers.Numbered)
    (next : t.timers.next ≤ timers.next)
    (expiry : ∀ {n id}, timers.live? n = some (.expiry id) → t.timers.live? n = some (.expiry id)) :
    Coherent { t with timers := timers } where
  numbered := numbered
  nodup := h.nodup
  waiting := h.waiting
  sameTicket := h.sameTicket
  sameTimer := h.sameTimer
  timer_lt found := Nat.lt_of_lt_of_le (h.timer_lt found) next
  expiry live := h.expiry (expiry live)

theorem withStats (h : Coherent t) (stats : CallStats) (closed : Bool) :
    Coherent { t with stats := stats, closed := closed } where
  numbered := h.numbered
  nodup := h.nodup
  waiting := h.waiting
  sameTicket := h.sameTicket
  sameTimer := h.sameTimer
  timer_lt := h.timer_lt
  expiry := h.expiry

end Coherent

def registering (now : Nanos) (id : CorrelationId) (timeout : Nanos) (info : CallInfo)
    (t : CallTable β) : CallTable β :=
  { t with
    calls := (id, ⟨info, timeout, t.timers.next, t.channels.size⟩) :: t.calls
    stats.registered := t.stats.registered + 1
    timers := (t.timers.scheduleAfter now timeout (.expiry id)).2
    channels := t.channels.push .waiting }

theorem register_of_closed (now : Nanos) (id : CorrelationId) (timeout : Nanos) (info : CallInfo)
    (h : t.closed = true) : t.register now id timeout info = (.error .cancelled, t) := by
  rw [register, if_pos h]

theorem register_of_pending (now : Nanos) (id : CorrelationId) (timeout : Nanos) (info : CallInfo)
    (closed : t.closed = false) (h : t.isPending id = true) :
    t.register now id timeout info =
      (.error (.duplicateId id), { t with stats.duplicates := t.stats.duplicates + 1 }) := by
  rw [register, if_neg (by rw [closed]; exact Bool.false_ne_true), if_pos h]

theorem register_of_free (now : Nanos) (id : CorrelationId) (timeout : Nanos) (info : CallInfo)
    (closed : t.closed = false) (h : t.isPending id = false) :
    t.register now id timeout info =
      (.ok ⟨id, t.channels.size, false, false⟩, t.registering now id timeout info) := by
  rw [register, if_neg (by rw [closed]; exact Bool.false_ne_true),
    if_neg (by rw [h]; exact Bool.false_ne_true)]
  rfl

theorem find?_registering (now : Nanos) (id : CorrelationId) (timeout : Nanos) (info : CallInfo)
    (k : CorrelationId) :
    (t.registering now id timeout info).find? k =
      if k = id then some ⟨info, timeout, t.timers.next, t.channels.size⟩ else t.find? k := by
  by_cases same : k = id
  · simp [find?, registering, same]
  · simp [find?, registering, same, Ne.symm same]

theorem entry_registering {now : Nanos} {id : CorrelationId} {timeout : Nanos} {info : CallInfo}
    {k : CorrelationId} {call : PendingCall}
    (found : (t.registering now id timeout info).find? k = some call) :
    (k = id ∧ call = ⟨info, timeout, t.timers.next, t.channels.size⟩) ∨ t.find? k = some call := by
  rw [find?_registering] at found
  split at found
  · rename_i same
    exact .inl ⟨same, (Option.some.inj found).symm⟩
  · exact .inr found

theorem live?_registering (now : Nanos) (id : CorrelationId) (timeout : Nanos) (info : CallInfo)
    (n : TimerId) :
    (t.registering now id timeout info).timers.live? n =
      if n = t.timers.next then some (.expiry id) else t.timers.live? n :=
  TimerQueue.live?_scheduleAt _ _ t.timers n

theorem channels_registering (now : Nanos) (id : CorrelationId) (timeout : Nanos) (info : CallInfo)
    {k : Ticket} (h : k < t.channels.size) :
    (t.registering now id timeout info).channels[k]? = t.channels[k]? := by
  simp only [registering]
  rw [Array.getElem?_push_lt h, Array.getElem?_eq_getElem h]

theorem Coherent.registering (h : Coherent t) (now : Nanos) {id : CorrelationId} (timeout : Nanos)
    (info : CallInfo) (free : t.find? id = none) :
    Coherent (t.registering now id timeout info) := by
  -- An entry found afterwards is the new one, or was there before.
  have cases {k : CorrelationId} {call : PendingCall}
      (found : (t.registering now id timeout info).find? k = some call) :
      (k = id ∧ call = ⟨info, timeout, t.timers.next, t.channels.size⟩) ∨
        t.find? k = some call := by
    rw [find?_registering] at found
    split at found
    · rename_i same
      exact .inl ⟨same, (Option.some.inj found).symm⟩
    · exact .inr found
  refine ⟨h.numbered.scheduleAt _ _, ?_, ?_, ?_, ?_, ?_, ?_⟩
  · change (id :: t.calls.map (·.1)).Nodup
    exact List.nodup_cons.mpr ⟨find?_eq_none_iff.mp free, h.nodup⟩
  · intro k call found
    obtain ⟨-, rfl⟩ | old := cases found
    · simp [CallTable.registering]
    · rw [channels_registering _ _ _ _ (h.ticket_lt old)]
      exact h.waiting old
  · intro k call k' call' found found' same
    obtain ⟨rfl, rfl⟩ | old := cases found <;> obtain ⟨rfl, rfl⟩ | old' := cases found'
    · rfl
    · exact absurd (h.ticket_lt old') (same ▸ Nat.lt_irrefl _)
    · exact absurd (h.ticket_lt old) (same ▸ Nat.lt_irrefl _)
    · exact h.sameTicket old old' same
  · intro k call k' call' found found' same
    obtain ⟨rfl, rfl⟩ | old := cases found <;> obtain ⟨rfl, rfl⟩ | old' := cases found'
    · rfl
    · exact absurd (h.timer_lt old') (same ▸ Nat.lt_irrefl _)
    · exact absurd (h.timer_lt old) (same ▸ Nat.lt_irrefl _)
    · exact h.sameTimer old old' same
  · intro k call found
    change call.timer < t.timers.next + 1
    obtain ⟨-, rfl⟩ | old := cases found
    · exact Nat.lt_succ_self _
    · exact Nat.lt_succ_of_lt (h.timer_lt old)
  · intro n k live
    rw [live?_registering] at live
    split at live
    · rename_i same
      cases live
      exact ⟨_, by rw [find?_registering, if_pos rfl], same.symm⟩
    · obtain ⟨call, found, timer⟩ := h.expiry live
      have other : k ≠ id := fun same => by rw [same, free] at found; cases found
      exact ⟨call, by rw [find?_registering, if_neg other]; exact found, timer⟩

theorem find?_ending (h : Coherent t) (id : CorrelationId) (call : PendingCall)
    (count : CallStats → CallStats) (c : Channel) (k : CorrelationId) :
    (t.ending id call count c).find? k = if k = id then none else t.find? k := by
  rw [find?_eq_lookup, find?_eq_lookup, ending, Keyed.lookup_eraseP h.nodup]

theorem live?_ending (h : Coherent t) (id : CorrelationId) (call : PendingCall)
    (count : CallStats → CallStats) (c : Channel) (n : TimerId) :
    (t.ending id call count c).timers.live? n =
      if n = call.timer then none else t.timers.live? n :=
  TimerQueue.live?_cancel h.numbered call.timer n

theorem channels_ending (id : CorrelationId) (call : PendingCall) (count : CallStats → CallStats)
    (c : Channel) {k : Ticket} (h : k < t.channels.size) :
    (t.ending id call count c).channels[k]? =
      if k = call.ticket then some c else t.channels[k]? := by
  simp only [ending, Array.getElem?_setIfInBounds]
  by_cases same : call.ticket = k
  · subst same
    simp [h]
  · have other : ¬ k = call.ticket := fun eq => same eq.symm
    rw [if_neg same, if_neg other]

theorem Coherent.ending (h : Coherent t) {id : CorrelationId} {call : PendingCall}
    (found : t.find? id = some call) (count : CallStats → CallStats) (c : Channel) :
    Coherent (t.ending id call count c) := by
  have cases {k : CorrelationId} {other : PendingCall}
      (after : (t.ending id call count c).find? k = some other) :
      k ≠ id ∧ t.find? k = some other := by
    rw [find?_ending h] at after
    split at after
    · cases after
    · rename_i different
      exact ⟨different, after⟩
  refine ⟨h.numbered.cancel _, Keyed.nodup_eraseP h.nodup id, ?_, ?_, ?_, ?_, ?_⟩
  · intro k other after
    obtain ⟨different, old⟩ := cases after
    have ticket : other.ticket ≠ call.ticket := fun same => different (h.sameTicket old found same)
    rw [channels_ending _ _ _ _ (h.ticket_lt old), if_neg ticket]
    exact h.waiting old
  · intro k other k' other' after after'
    exact h.sameTicket (cases after).2 (cases after').2
  · intro k other k' other' after after'
    exact h.sameTimer (cases after).2 (cases after').2
  · intro k other after
    exact h.timer_lt (cases after).2
  · intro n k live
    rw [live?_ending h] at live
    split at live
    · cases live
    · rename_i different
      obtain ⟨other, old, timer⟩ := h.expiry live
      -- The timer is not that of the call, so the entry it belongs to is another one.
      have key : k ≠ id := fun same => by
        rw [same, found] at old
        cases old
        exact different timer.symm
      exact ⟨other, by rw [find?_ending h, if_neg key]; exact old, timer⟩

theorem find?_failAll (e : CallError) (k : CorrelationId) : (t.failAll e).2.find? k = none := by
  rw [failAll_eq, find?_eq_lookup, endAll_calls]
  rfl

theorem mem_calls {id : CorrelationId} {call : PendingCall} (found : t.find? id = some call) :
    call ∈ t.calls.map (·.2) :=
  List.mem_map_of_mem (f := (·.2)) (mem_of_find? found)

theorem live?_failAll (h : Coherent t) (e : CallError) (n : TimerId) :
    (t.failAll e).2.timers.live? n =
      if n ∈ (t.calls.map (·.2)).map (·.timer) then none else t.timers.live? n := by
  have numbered : t.cleared.timers.Numbered := h.numbered
  rw [failAll_eq]
  exact live?_endAll e _ numbered n

theorem channels_failAll (e : CallError) {k : Ticket} (h : k < t.channels.size) :
    (t.failAll e).2.channels[k]? =
      if k ∈ (t.calls.map (·.2)).map (·.ticket) then some (.settled ⟨.error e, false⟩)
      else t.channels[k]? := by
  rw [failAll_eq]
  exact channels_endAll e _ t.cleared k h

theorem Coherent.failAll (h : Coherent t) (e : CallError) : Coherent (t.failAll e).2 := by
  refine ⟨?_, ?_, ?_, ?_, ?_, ?_, ?_⟩
  · have numbered : t.cleared.timers.Numbered := h.numbered
    rw [failAll_eq]
    exact endAll_numbered e _ numbered
  · rw [failAll_eq, endAll_calls]
    exact List.nodup_nil
  · intro k call found
    rw [find?_failAll] at found
    cases found
  · intro k call k' call' found
    rw [find?_failAll] at found
    cases found
  · intro k call k' call' found
    rw [find?_failAll] at found
    cases found
  · intro k call found
    rw [find?_failAll] at found
    cases found
  · intro n k live
    rw [live?_failAll h] at live
    split at live
    · cases live
    · rename_i kept
      obtain ⟨call, found, timer⟩ := h.expiry live
      exact absurd (List.mem_map.mpr ⟨call, mem_calls found, timer⟩) kept

end CallTable

end MessageRelay
