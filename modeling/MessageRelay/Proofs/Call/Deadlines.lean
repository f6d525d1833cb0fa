import MessageRelay.Proofs.Call.Machine

/-!
Pending calls and the timers that would end them stand one to one. Every operation adds or takes out
an entry together with its timer, so this holds of each state there is, as long as nobody clears the
queue under pending calls or cancels one of their timers. Where nothing else uses the queue, it holds
as many timers as there are calls.
-/
namespace MessageRelay

def CallTimer.isExpiry {β : Type} : CallTimer β → Bool
  | .expiry _ => true
  | .other _ => false

namespace CallTable

variable {β : Type} {t u : CallTable β}

/-- Pending calls and live timers that would end a call are the two sides of one correspondence. -/
structure Paired (t : CallTable β) : Prop where
  live : ∀ {id call}, t.find? id = some call → t.timers.live? call.timer = some (.expiry id)
  only : ∀ {id call n}, t.find? id = some call → t.timers.live? n = some (.expiry id) →
    n = call.timer
  apart : ∀ {id call id' call'}, t.find? id = some call → t.find? id' = some call' → id ≠ id' →
    call.timer ≠ call'.timer
  entry : ∀ {n id}, t.timers.live? n = some (.expiry id) →
    ∃ call, t.find? id = some call ∧ call.timer = n

/-- Every pending call still has its timer. -/
def Timed (t : CallTable β) : Prop :=
  ∀ {id call}, t.find? id = some call → t.timers.live? call.timer = some (.expiry id)

theorem Coherent.paired (h : Coherent t) (timed : Timed t) : Paired t where
  live := timed
  only found alive := by
    obtain ⟨call, entry, timer⟩ := h.expiry alive
    rw [found] at entry
    cases entry
    exact timer.symm
  apart found found' different same := different (h.sameTimer found found' same)
  entry := h.expiry

def Sole (t : CallTable β) : Prop := ∀ n payload, t.timers.live? n ≠ some (.other payload)

/-- What an operation does to the entries and the timers together. -/
inductive Retimed (t : CallTable β) (added : Bool) : CallTable β → Prop
  | kept {u : CallTable β} (calls : u.calls = t.calls)
    (live : ∀ {n id}, t.timers.live? n = some (.expiry id) → u.timers.live? n = some (.expiry id))
    (others : added = false → ∀ n payload, u.timers.live? n = some (.other payload) →
      t.timers.live? n = some (.other payload)) : Retimed t added u
  | registered (now : Nanos) (id : CorrelationId) (timeout : Nanos) (info : CallInfo) :
    Retimed t added (t.registering now id timeout info)
  | ended {u : CallTable β} {id : CorrelationId} {call : PendingCall}
    (found : t.find? id = some call) (calls : ∀ k, u.find? k = if k = id then none else t.find? k)
    (live : ∀ n, u.timers.live? n = if n = call.timer then none else t.timers.live? n) :
    Retimed t added u
  | endedAll {u : CallTable β} (calls : ∀ k, u.find? k = none)
    (live : ∀ n payload, u.timers.live? n = some payload → t.timers.live? n = some payload) :
    Retimed t added u

namespace Retimed

variable {added : Bool}

theorem of_same (calls : u.calls = t.calls) (timers : u.timers = t.timers) :
    Retimed t added u :=
  .kept calls (fun alive => timers ▸ alive) fun _ _ _ alive => timers ▸ alive

theorem refl (t : CallTable β) : Retimed t added t := of_same rfl rfl

theorem timed (h : Coherent t) (retimed : Retimed t added u) (timed : Timed t) : Timed u := by
  intro id call found
  cases retimed with
  | kept calls kept =>
    have before : t.find? id = some call := by rw [← found, CallTable.find?, CallTable.find?, calls]
    exact kept (timed before)
  | registered now k timeout info =>
    rw [find?_registering] at found
    rw [live?_registering]
    split at found
    · rename_i same
      cases found
      rw [if_pos rfl, same]
    · rw [if_neg (Nat.ne_of_lt (h.timer_lt found))]
      exact timed found
  | ended entry calls timers =>
    rw [calls] at found
    split at found
    · cases found
    · rename_i different
      rw [timers, if_neg fun same => different (h.sameTimer found entry same)]
      exact timed found
  | endedAll calls =>
    rw [calls] at found
    cases found

theorem sole (retimed : Retimed t false u) (h : Sole t) : Sole u := by
  intro n payload alive
  cases retimed with
  | kept calls kept others => exact h n payload (others rfl n payload alive)
  | registered now k timeout info =>
    rw [live?_registering] at alive
    split at alive
    · cases alive
    · exact h n payload alive
  | ended entry calls timers =>
    rw [timers] at alive
    split at alive
    · cases alive
    · exact h n payload alive
  | endedAll calls timers => exact h n payload (timers n _ alive)

theorem old_entry (retimed : Retimed t added u) {id : CorrelationId} {call : PendingCall}
    (found : u.find? id = some call) (old : call.timer < t.timers.next) :
    t.find? id = some call := by
  cases retimed with
  | kept calls => rw [← found, CallTable.find?, CallTable.find?, calls]
  | registered now k timeout info =>
    rw [find?_registering] at found
    split at found
    · cases found
      exact absurd old (Nat.lt_irrefl _)
    · exact found
  | ended entry calls =>
    rw [calls] at found
    split at found
    · cases found
    · exact found
  | endedAll calls =>
    rw [calls] at found
    cases found

theorem of_ending (h : Coherent t) {id : CorrelationId} {call : PendingCall}
    (found : t.find? id = some call) (count : CallStats → CallStats) (c : Channel) :
    Retimed t added (t.ending id call count c) :=
  .ended found (find?_ending h id call count c) (live?_ending h id call count c)

theorem live_of_failAll (h : Coherent t) {e : CallError} {n : TimerId} {payload : CallTimer β}
    (alive : (t.failAll e).2.timers.live? n = some payload) : t.timers.live? n = some payload := by
  rw [live?_failAll h] at alive
  split at alive
  · cases alive
  · exact alive

theorem of_failAll (h : Coherent t) (e : CallError) : Retimed t added (t.failAll e).2 :=
  .endedAll (find?_failAll e) fun _ _ => live_of_failAll h

theorem of_close (h : Coherent t) : Retimed t added t.close.2 := by
  have closed : Coherent { t with closed := true } := h.withStats t.stats true
  exact .endedAll (find?_failAll .cancelled) fun _ _ alive => live_of_failAll closed alive

theorem of_register (now : Nanos) (id : CorrelationId) (timeout : Nanos) (info : CallInfo) :
    Retimed t added (t.register now id timeout info).2 := by
  cases closed : t.closed with
  | true =>
    rw [register_of_closed _ _ _ _ closed]
    exact .refl t
  | false =>
    cases pending : t.isPending id with
    | true =>
      rw [register_of_pending _ _ _ _ closed pending]
      exact of_same rfl rfl
    | false =>
      rw [register_of_free _ _ _ _ closed pending]
      exact .registered now id timeout info

theorem of_takes (h : Coherent t) {id : CorrelationId} {count : CallStats → CallStats}
    {c : PendingCall → Channel} {stats : CallStats} {result : Bool × CallTable β}
    (takes : t.Takes id count c stats result) : Retimed t added result.2 := by
  cases found : t.find? id with
  | none =>
    rw [takes.past found]
    exact of_same rfl rfl
  | some call =>
    rw [takes.pending call found]
    exact of_ending h found _ _

theorem of_drop (h : Coherent t) (r : PendingReply) : Retimed t added (t.drop r) := by
  unfold CallTable.drop
  split
  · exact .refl t
  · exact of_takes h (takes_cancel t r.id)

theorem of_fewer {timers : TimerQueue (CallTimer β)}
    (live : ∀ {n id}, t.timers.live? n = some (.expiry id) → timers.live? n = some (.expiry id))
    (fewer : ∀ n payload, timers.live? n = some payload → t.timers.live? n = some payload) :
    Retimed t added { t with timers := timers } :=
  .kept rfl live fun _ n payload => fewer n (.other payload)

theorem of_without {timers : TimerQueue (CallTimer β)} {j : TimerId}
    (after : ∀ n, timers.live? n = if n = j then none else t.timers.live? n)
    (other : ∀ id, t.timers.live? j ≠ some (.expiry id)) :
    Retimed t added { t with timers := timers } := by
  refine .of_fewer (fun {n id} alive => ?_) fun n payload alive => ?_
  · rw [after, if_neg]
    · exact alive
    · rintro rfl
      exact other id alive
  · rw [after] at alive
    split at alive
    · cases alive
    · exact alive

theorem of_popped (h : Coherent t) {now : Nanos} {j : TimerId} {id : CorrelationId}
    {timers : TimerQueue (CallTimer β)}
    (due : t.timers.popDue now = (some (j, .expiry id), timers)) :
    Retimed t added ({ t with timers := timers }.expire id).2 := by
  obtain ⟨alive, erased, -⟩ := TimerQueue.popDue_some due
  obtain ⟨call, found, rfl⟩ := h.expiry alive
  have coherent : Coherent { t with timers := timers } := (Undisturbed.of_popDue due).coherent h
  have entry : { t with timers := timers }.find? id = some call := found
  rw [expire_of_find? entry]
  refine .ended found (find?_ending coherent id call _ _) fun n => ?_
  rw [live?_ending coherent]
  split
  · rfl
  · rename_i other
    exact (TimerQueue.live?_erase h.numbered erased n).trans (if_neg other)

end Retimed

theorem next_endAll (e : CallError) (calls : List PendingCall) (t : CallTable β) :
    (endAll e calls t).timers.next = t.timers.next := by
  induction calls generalizing t with
  | nil => rfl
  | cons call calls ih => exact ih _

theorem next_failAll (e : CallError) (t : CallTable β) :
    (t.failAll e).2.timers.next = t.timers.next := by
  rw [failAll_eq]
  exact next_endAll e _ t.cleared

def expiries (t : CallTable β) : Nat := t.timers.schedule.live.countP (·.2.isExpiry)

theorem Paired.expiries_eq (p : Paired t) (h : Coherent t) : t.expiries = t.pendingCount := by
  have calls : (t.calls.map (·.2.timer)).Nodup := by
    refine List.Nodup.map_on (fun x hx y hy same => ?_) (List.Nodup.of_map _ h.nodup)
    have found := (find?_eq_some_iff_mem h.nodup).mpr hx
    have found' := (find?_eq_some_iff_mem h.nodup).mpr hy
    have key := h.sameTimer found found' same
    rw [key] at found
    exact Prod.ext key (Option.some.inj (found.symm.trans found'))
  let own := t.timers.schedule.live.filter (·.2.isExpiry)
  have nodup : (own.map (·.1)).Nodup := h.numbered.nodup.sublist (List.filter_sublist.map _)
  have members : (own.map (·.1)).Perm (t.calls.map (·.2.timer)) := by
    refine (List.perm_ext_iff_of_nodup nodup calls).mpr fun n => ?_
    simp only [own, List.mem_map, List.mem_filter]
    constructor
    · rintro ⟨⟨j, payload⟩, ⟨member, expires⟩, rfl⟩
      have alive : t.timers.live? j = some payload :=
        (Schedule.find?_eq_some_iff_mem h.numbered.nodup).mpr member
      cases payload with
      | expiry id =>
        obtain ⟨call, found, timer⟩ := p.entry alive
        exact ⟨(id, call), mem_of_find? found, timer⟩
      | other payload => cases expires
    · rintro ⟨⟨id, call⟩, member, rfl⟩
      have alive := p.live ((find?_eq_some_iff_mem h.nodup).mpr member)
      exact ⟨(call.timer, .expiry id), ⟨Schedule.mem_of_find? alive, rfl⟩, rfl⟩
  have same := members.length_eq
  rwa [List.length_map, List.length_map, ← List.countP_eq_length_filter] at same

theorem Paired.size_eq (p : Paired t) (h : Coherent t) (sole : Sole t) :
    t.timers.size = t.pendingCount := by
  rw [← p.expiries_eq h]
  refine (List.countP_eq_length.mpr fun entry member => ?_).symm
  obtain ⟨j, payload⟩ := entry
  cases payload with
  | expiry id => rfl
  | other payload =>
    have alive := (Schedule.find?_eq_some_iff_mem h.numbered.nodup).mpr member
    exact absurd alive (sole j payload)

end CallTable

/-- Whether a move puts a timer into the queue that is not that of a call. -/
def CallMove.addsOther {β : Type} : CallMove β → Bool
  | .schedule _ _ => true
  | _ => false

namespace CallMachine

open CallTable

variable {β : Type} {m : CallMachine β}

/-- A move from outside of the table does no harm to the timers of calls: it does not clear the queue
while calls are pending, and cancels none of their timers. -/
def Spares (m : CallMachine β) : CallMove β → Prop
  | .cancelTimer j => ∀ id, m.table.timers.live? j ≠ some (.expiry id)
  | .clearTimers => m.table.pendingCount = 0
  | _ => True

def SparesAll (m : CallMachine β) : List (CallMove β) → Prop
  | [] => True
  | move :: moves => m.Spares move ∧ (m.step move).2.SparesAll moves

theorem advance_retimed (h : m.table.Coherent) {added : Bool} {now : Nanos} {count : Nat}
    {below : List (CallFrame β)} : Retimed m.table added (m.advance now count below).2.table := by
  unfold advance
  split
  · rename_i timers due
    have live := (TimerQueue.popDue_none due).1
    refine .of_fewer (fun {n id} alive => ?_) fun n payload alive => ?_
    · exact (congrArg (Schedule.find? · n) live).trans alive
    · exact (congrArg (Schedule.find? · n) live).symm.trans alive
  · rename_i j payload timers due
    obtain ⟨alive, erased, -⟩ := TimerQueue.popDue_some due
    exact .of_without (TimerQueue.live?_erase h.numbered erased) fun id call => by
      cases alive.symm.trans call
  · rename_i j id timers due
    have popped : Retimed m.table added _ := .of_popped h due
    simp only [expire]
    split <;> exact popped

theorem operate_retimed (h : m.table.Coherent) {move : CallMove β} (spares : m.Spares move) :
    Retimed m.table move.addsOther (m.operate move).2.table := by
  cases move with
  | register id timeout info =>
    have registered : Retimed m.table false _ := .of_register m.now id timeout info
    simp only [operate]
    split <;> rename_i result <;> rw [result] at registered <;> exact registered
  | resolve id reply => exact .of_takes h (takes_resolve _ id reply)
  | fail id e => exact .of_takes h (takes_fail _ id e)
  | expire id => exact .of_takes h (takes_expire _ id)
  | cancel id => exact .of_takes h (takes_cancel _ id)
  | failAll e => exact .of_failAll h e
  | close => exact .of_close h
  | poll ticket =>
    simp only [operate]
    split
    · exact .refl _
    · split <;> exact .refl _
  | drop ticket =>
    simp only [operate]
    split
    · exact .refl _
    · exact .of_drop h _
  | schedule delay payload =>
    refine .kept rfl (fun {n id} alive => ?_) fun adds => by cases adds
    have old := Nat.ne_of_lt (h.numbered.lt_next alive)
    exact (TimerQueue.live?_scheduleAt _ _ m.table.timers n).trans ((if_neg old).trans alive)
  | cancelTimer j => exact .of_without (TimerQueue.live?_cancel h.numbered j) spares
  | clearTimers =>
    refine .of_fewer (fun {n id} alive => ?_) fun n payload alive => by cases alive
    -- A timer of a call would have its entry, but there are none.
    obtain ⟨call, found, -⟩ := h.expiry alive
    have none : m.table.calls = [] := List.length_eq_zero_iff.mp spares
    rw [CallTable.find?, none] at found
    cases found
  | elapse | setHook | enter | advance | leave => exact .refl _

theorem step_retimed (h : m.table.Coherent) {move : CallMove β} (spares : m.Spares move) :
    Retimed m.table move.addsOther (m.step move).2.table := by
  unfold step
  split
  · exact advance_retimed h
  · exact .refl _
  · exact .refl _
  · exact .refl _
  · exact operate_retimed h spares

theorem Change.next_le {n : CallMachine β} {move : CallMove β} (change : Change m move n) :
    m.table.timers.next ≤ n.table.timers.next := by
  cases change with
  | quiet table => exact table.next
  | registered _ table => exact table ▸ Nat.le_succ _
  | ended before _ _ _ table => exact table ▸ before.next
  | endedAll before _ table =>
    rw [table, next_failAll]
    exact before.next
  | polled _ _ table | dropped _ _ table => exact Nat.le_of_eq (by rw [table])
  | gaveUp _ _ _ _ table => exact Nat.le_of_eq (by rw [table]; rfl)

theorem run_timed (h : m.Coherent) (timed : Timed m.table) {moves : List (CallMove β)}
    (spares : m.SparesAll moves) : Timed (m.run moves).table := by
  induction moves generalizing m with
  | nil => exact timed
  | cons move moves ih =>
    exact ih (h.step move) ((step_retimed h.table spares.1).timed h.table timed) spares.2

theorem run_sole (h : m.Coherent) (sole : Sole m.table) {moves : List (CallMove β)}
    (spares : m.SparesAll moves) (own : ∀ move ∈ moves, move.addsOther = false) :
    Sole (m.run moves).table := by
  induction moves generalizing m with
  | nil => exact sole
  | cons move moves ih =>
    have retimed := step_retimed h.table spares.1
    rw [own move List.mem_cons_self] at retimed
    exact ih (h.step move) (retimed.sole sole) spares.2
      fun later member => own later (List.mem_cons_of_mem _ member)

theorem run_old_entry (h : m.Coherent) {moves : List (CallMove β)} (spares : m.SparesAll moves)
    {id : CorrelationId} {call : PendingCall} (found : (m.run moves).table.find? id = some call)
    (old : call.timer < m.table.timers.next) : m.table.find? id = some call := by
  induction moves generalizing m with
  | nil => exact found
  | cons move moves ih =>
    have later := (step_change h.table move).next_le
    have entry := ih (h.step move) spares.2 found (Nat.lt_of_lt_of_le old later)
    exact (step_retimed h.table spares.1).old_entry entry old

theorem ended_by_timer (h : m.table.Coherent) {now : Nanos} {count : Nat}
    {below : List (CallFrame β)} (pass : m.stack = .pass now count :: below) {j : TimerId}
    {payload : CallTimer β} (due : (m.table.timers.popDue now).1 = some (j, payload))
    {id : CorrelationId} {call : PendingCall} (found : m.table.find? id = some call)
    (gone : (m.step .advance).2.table.find? id ≠ some call) : call.timer = j := by
  cases step_change h .advance with
  | quiet table => exact absurd ((table.find? id).trans found) gone
  | ended before entry ends _ table =>
    rename_i k owner _ _ _ _ _ _
    cases ends with
    | timer top taken =>
      have same : k = id := Classical.byContradiction fun other => gone <| by
        have different : id ≠ k := fun same => other same.symm
        rw [table, find?_ending (before.coherent h), if_neg different]
        exact (before.find? id).trans found
      subst same
      rw [found] at entry
      cases entry
      rw [pass] at top
      cases top
      rw [due] at taken
      cases taken
      rfl
  | endedAll _ ends => cases ends id call

/-- In every state of a run that spares the timers of calls, pending calls and their timers are
paired. The timer of a registration never ends another one, however often its id is registered
again. Where the run puts no other timers into the queue, it holds one for each pending call. -/
theorem deadlines_match_calls (moves : List (CallMove β)) (spares : SparesAll {} moves) :
    let m : CallMachine β := run {} moves
    m.table.Paired ∧
    (∀ id timeout info reply,
      (m.step (.register id timeout info)).1 = .registered (.ok reply) →
      ∃ entry, (m.step (.register id timeout info)).2.table.find? id = some entry ∧
        entry.ticket = reply.ticket ∧ entry.timer = m.table.timers.next ∧
        ∀ later, (m.step (.register id timeout info)).2.SparesAll later →
          let n := (m.step (.register id timeout info)).2.run later
          ∀ now count below payload, n.stack = .pass now count :: below →
            (n.table.timers.popDue now).1 = some (entry.timer, payload) →
            ∀ id' call, n.table.find? id' = some call →
              (n.step .advance).2.table.find? id' ≠ some call → id' = id ∧ call = entry) ∧
    ((∀ move ∈ moves, move.addsOther = false) → m.table.timers.size = m.table.pendingCount) := by
  intro m
  have coherent : m.Coherent := Coherent.empty.run moves
  have paired := coherent.table.paired (run_timed .empty (fun found => by cases found) spares)
  refine ⟨paired, fun id timeout info reply answer => ?_, fun own => ?_⟩
  · obtain ⟨-, rfl, result⟩ := registered_ok answer
    have table := congrArg CallMachine.table result
    have entered := find?_registering (t := m.table) m.now id timeout info
    refine ⟨_, by rw [table, entered, if_pos rfl], rfl, rfl, ?_⟩
    intro later spared n now count below payload pass due id' call found gone
    have next := coherent.step (.register id timeout info)
    have timer := ended_by_timer (next.run later).table pass due found gone
    have entry := run_old_entry next spared found (by rw [timer, table]; exact Nat.lt_succ_self _)
    rw [table, entered] at entry
    split at entry
    · rename_i same
      exact ⟨same, (Option.some.inj entry).symm⟩
    · have old := coherent.table.timer_lt entry
      rw [timer] at old
      exact absurd old (Nat.lt_irrefl _)
  · have sole := run_sole .empty (fun _ _ alive => by cases alive) spares own
    exact paired.size_eq coherent.table sole

theorem deadlines_match_calls_reuse :
    let m : CallMachine Empty := run {} [.cancelTimer 0, .clearTimers, .register default 5 {},
      .cancel default, .register default 9 {}, .elapse 6, .enter 6, .advance]
    m.table.Paired ∧ m.table.pendingCount = 1 ∧ m.table.timers.size = m.table.pendingCount := by
  obtain ⟨paired, -, own⟩ := deadlines_match_calls
    ([.cancelTimer 0, .clearTimers, .register default 5 {}, .cancel default,
      .register default 9 {}, .elapse 6, .enter 6, .advance] : List (CallMove Empty))
    ⟨nofun, rfl, trivial, trivial, trivial, trivial, trivial, trivial, trivial⟩
  exact ⟨paired, rfl, own (by decide)⟩

end CallMachine

end MessageRelay
