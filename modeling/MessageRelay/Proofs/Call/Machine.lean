import MessageRelay.Call.Machine
import MessageRelay.Proofs.Call.Table

/-!
One move of a call machine, told by its effect on entries, channels and held replies: `Change` lists
all that a move may do, and each law of a run is a case analysis over it. The calls that a move can
end, and what their callers get then, are listed by `Ends`.
-/
namespace MessageRelay

namespace CallTable

variable {β : Type}

/-- Entries and channels stay as they are, and no timer is added that would end a call. -/
structure Undisturbed (t u : CallTable β) : Prop where
  calls : u.calls = t.calls
  channels : u.channels = t.channels
  next : t.timers.next ≤ u.timers.next
  numbered : t.timers.Numbered → u.timers.Numbered
  expiry : t.timers.Numbered → ∀ {n id}, u.timers.live? n = some (.expiry id) →
    t.timers.live? n = some (.expiry id)

namespace Undisturbed

variable {t u : CallTable β}

theorem refl (t : CallTable β) : t.Undisturbed t := ⟨rfl, rfl, Nat.le_refl _, id, fun _ => id⟩

theorem find? (h : t.Undisturbed u) (id : CorrelationId) : u.find? id = t.find? id := by
  rw [CallTable.find?, h.calls]
  rfl

theorem coherent (h : t.Undisturbed u) (c : t.Coherent) : u.Coherent := by
  have base := (c.withTimers (h.numbered c.numbered) h.next (h.expiry c.numbered)).withStats
    u.stats u.closed
  have same : u = { t with timers := u.timers, stats := u.stats, closed := u.closed } := by
    cases u
    cases h.calls
    cases h.channels
    rfl
  rw [same]
  exact base

theorem of_stats {t : CallTable β} (stats : CallStats) :
    t.Undisturbed { t with stats := stats } := ⟨rfl, rfl, Nat.le_refl _, id, fun _ => id⟩

theorem of_popDue {t : CallTable β} {now : Nanos} {due : Option (TimerId × CallTimer β)}
    {timers : TimerQueue (CallTimer β)} (h : t.timers.popDue now = (due, timers)) :
    t.Undisturbed { t with timers := timers } := by
  cases due with
  | none =>
    obtain ⟨live, next⟩ := TimerQueue.popDue_none h
    refine ⟨rfl, rfl, Nat.le_of_eq next.symm, fun numbered => ?_, fun _ n k alive => ?_⟩
    · exact numbered.sublist (live ▸ List.Sublist.refl _) next
    · rw [← alive, TimerQueue.live?, TimerQueue.live?, live]
  | some entry =>
    obtain ⟨j, payload⟩ := entry
    obtain ⟨-, live, next⟩ := TimerQueue.popDue_some h
    refine ⟨rfl, rfl, Nat.le_of_eq next.symm, fun numbered => ?_, fun numbered n k alive => ?_⟩
    · exact numbered.sublist (live ▸ List.eraseP_sublist) next
    · rw [TimerQueue.live?_erase numbered live] at alive
      split at alive
      · cases alive
      · exact alive

theorem of_schedule (t : CallTable β) (now delay : Nanos) (payload : β) :
    t.Undisturbed { t with timers := (t.timers.scheduleAfter now delay (.other payload)).2 } := by
  refine ⟨rfl, rfl, Nat.le_succ _, fun numbered => numbered.scheduleAt _ _,
    fun _ n k alive => ?_⟩
  have alive' := (TimerQueue.live?_scheduleAt _ _ t.timers n).symm.trans alive
  split at alive'
  · cases alive'
  · exact alive'

theorem of_cancel (t : CallTable β) (j : TimerId) :
    t.Undisturbed { t with timers := (t.timers.cancel j).2 } := by
  refine ⟨rfl, rfl, Nat.le_refl _, fun numbered => numbered.cancel j, fun numbered n k alive => ?_⟩
  have alive' := (TimerQueue.live?_cancel numbered j n).symm.trans alive
  split at alive'
  · cases alive'
  · exact alive'

theorem of_clear (t : CallTable β) : t.Undisturbed { t with timers := t.timers.clear.2 } :=
  ⟨rfl, rfl, Nat.le_refl _, fun numbered => numbered.clear, fun _ n k alive => by cases alive⟩

theorem of_endPass (t : CallTable β) (count : Nat) :
    t.Undisturbed { t with timers := t.timers.endPass count } :=
  ⟨rfl, rfl, Nat.le_refl _, fun numbered => ⟨numbered.nodup, numbered.below⟩, fun _ => id⟩

theorem trans {v : CallTable β} (h : t.Undisturbed u) (h' : u.Undisturbed v) : t.Undisturbed v where
  calls := h'.calls.trans h.calls
  channels := h'.channels.trans h.channels
  next := Nat.le_trans h.next h'.next
  numbered numbered := h'.numbered (h.numbered numbered)
  expiry numbered _ _ alive := h.expiry numbered (h'.expiry (h.numbered numbered) alive)

end Undisturbed

end CallTable

namespace CallMachine

open CallTable

variable {β : Type} {m n : CallMachine β}

def run (m : CallMachine β) (moves : List (CallMove β)) : CallMachine β :=
  moves.foldl (fun m move => (m.step move).2) m

theorem run_cons (m : CallMachine β) (move : CallMove β) (moves : List (CallMove β)) :
    m.run (move :: moves) = (m.step move).2.run moves := rfl

theorem run_append (m : CallMachine β) (first second : List (CallMove β)) :
    m.run (first ++ second) = (m.run first).run second := List.foldl_append

/-- Code is running that may use the table, not a pass between two timers. -/
def InCode (m : CallMachine β) : Prop := ∀ now count below, m.stack ≠ .pass now count :: below

theorem inCode_of_nil (h : m.stack = []) : m.InCode := fun now count below pass => by
  rw [h] at pass
  cases pass

theorem inCode_or_pass (m : CallMachine β) :
    m.InCode ∨ ∃ now count below, m.stack = .pass now count :: below := by
  by_cases code : m.InCode
  · exact .inl code
  · simp only [InCode, not_forall, not_not] at code
    exact .inr code

theorem step_inCode (h : m.InCode) {move : CallMove β} (other : move ≠ .leave) :
    m.step move = m.operate move := by
  unfold step
  split
  · rename_i stack
    exact absurd stack (h _ _ _)
  · rename_i stack _
    exact absurd stack (h _ _ _)
  · exact absurd rfl other
  · exact absurd rfl other
  · rfl

theorem step_advance {now : Nanos} {count : Nat} {below : List (CallFrame β)}
    (pass : m.stack = .pass now count :: below) : m.step .advance = m.advance now count below := by
  simp only [step, pass]

theorem step_refused {now : Nanos} {count : Nat} {below : List (CallFrame β)}
    (pass : m.stack = .pass now count :: below) {move : CallMove β} (other : move ≠ .advance) :
    m.step move = (.refused, m) := by
  cases move <;> simp only [step, pass]
  exact absurd rfl other

theorem registered_ok {id : CorrelationId} {timeout : Nanos} {info : CallInfo}
    {reply : PendingReply}
    (registered : (m.step (.register id timeout info)).1 = .registered (.ok reply)) :
    m.table.find? id = none ∧ reply = ⟨id, m.table.channels.size, false, false⟩ ∧
      (m.step (.register id timeout info)).2 =
        { m with
          table := m.table.registering m.now id timeout info
          replies := m.replies ++ [reply] } := by
  have code : m.InCode := fun now count below pass => by
    rw [step_refused pass (by simp)] at registered
    cases registered
  rw [step_inCode code (by simp)] at registered ⊢
  cases closed : m.table.closed with
  | true =>
    simp only [operate, register_of_closed _ _ _ _ closed] at registered
    cases registered
  | false =>
    cases pending : m.table.isPending id with
    | true =>
      simp only [operate, register_of_pending _ _ _ _ closed pending] at registered
      cases registered
    | false =>
      simp only [operate, register_of_free _ _ _ _ closed pending] at registered ⊢
      cases registered
      exact ⟨isPending_eq_false_iff.mp pending, rfl, rfl⟩

/-- How a move ends the pending call of an id, and what its caller gets. -/
inductive Ends (m : CallMachine β) (id : CorrelationId) (call : PendingCall) :
    CallMove β → Settlement → Prop
  | resolve (code : m.InCode) (reply : Reply) :
    Ends m id call (.resolve id reply) ⟨.ok reply, false⟩
  | fail (code : m.InCode) (e : CallError) : Ends m id call (.fail id e) ⟨.error e, false⟩
  | failAll (code : m.InCode) (e : CallError) : Ends m id call (.failAll e) ⟨.error e, false⟩
  | close (code : m.InCode) : Ends m id call .close ⟨.error .cancelled, false⟩
  | cancel (code : m.InCode) : Ends m id call (.cancel id) ⟨.error .cancelled, false⟩
  | drop (code : m.InCode) {r : PendingReply} {ticket : Ticket} (held : r ∈ m.replies)
    (same : r.id = id) (under : r.ticket = ticket) (unsettled : r.settled = false) :
    Ends m id call (.drop ticket) ⟨.error .cancelled, false⟩
  | expire (code : m.InCode) :
    Ends m id call (.expire id) ⟨.error (.timeout id call.timeoutDetail), true⟩
  | timer {now : Nanos} {count : Nat} {below : List (CallFrame β)}
    (pass : m.stack = .pass now count :: below)
    (due : (m.table.timers.popDue now).1 = some (call.timer, .expiry id)) :
    Ends m id call .advance ⟨.error (.timeout id call.timeoutDetail), true⟩

theorem Ends.unique {id : CorrelationId} {call : PendingCall} {move : CallMove β}
    {s s' : Settlement} (a : m.Ends id call move s) (b : m.Ends id call move s') : s = s' := by
  cases a <;> cases b <;> rfl

/-- All that a move may do to entries, channels and replies. -/
inductive Change (m : CallMachine β) : CallMove β → CallMachine β → Prop
  | quiet {move : CallMove β} {n : CallMachine β} (table : m.table.Undisturbed n.table)
    (replies : n.replies = m.replies) : Change m move n
  | registered {id : CorrelationId} {timeout : Nanos} {info : CallInfo} {n : CallMachine β}
    (free : m.table.find? id = none)
    (table : n.table = m.table.registering m.now id timeout info)
    (replies : n.replies = m.replies ++ [⟨id, m.table.channels.size, false, false⟩]) :
    Change m (.register id timeout info) n
  | ended {move : CallMove β} {n : CallMachine β} {id : CorrelationId} {call : PendingCall}
    {s : Settlement} {c : Channel} {count : CallStats → CallStats} {t : CallTable β}
    (before : m.table.Undisturbed t) (found : m.table.find? id = some call)
    (ends : m.Ends id call move s) (outcome : c.outcome? = some s)
    (table : n.table = t.ending id call count c) (replies : n.replies = m.replies) :
    Change m move n
  | endedAll {move : CallMove β} {n : CallMachine β} {e : CallError} {t : CallTable β}
    (before : m.table.Undisturbed t) (ends : ∀ id call, m.Ends id call move ⟨.error e, false⟩)
    (table : n.table = (t.failAll e).2) (replies : n.replies = m.replies) : Change m move n
  | polled {n : CallMachine β} {r : PendingReply} (held : r ∈ m.replies)
    (unsettled : r.settled = false) (table : n.table = m.table)
    (replies : n.replies =
      m.replies.map fun q => if q.ticket = r.ticket then (m.table.poll r).2 else q) :
    Change m (.poll r.ticket) n
  | dropped {n : CallMachine β} {r : PendingReply} (held : r ∈ m.replies)
    (past : r.settled = true ∨ m.table.find? r.id = none) (table : n.table = m.table)
    (replies : n.replies = m.replies.filter (·.ticket ≠ r.ticket)) : Change m (.drop r.ticket) n
  | gaveUp {n : CallMachine β} {r : PendingReply} {call : PendingCall} (code : m.InCode)
    (held : r ∈ m.replies)
    (unsettled : r.settled = false) (found : m.table.find? r.id = some call)
    (table : n.table = m.table.ending r.id call countCancelled .abandoned)
    (replies : n.replies = m.replies.filter (·.ticket ≠ r.ticket)) : Change m (.drop r.ticket) n

theorem change_of_takes {t : CallTable β} {move : CallMove β} {id : CorrelationId}
    {count : CallStats → CallStats} {c : PendingCall → Channel} {stats : CallStats}
    {result : Bool × CallTable β} {s : PendingCall → Settlement}
    (takes : t.Takes id count c stats result) (before : m.table.Undisturbed t)
    (ends : ∀ call, m.table.find? id = some call → m.Ends id call move (s call))
    (outcome : ∀ call, (c call).outcome? = some (s call)) (table : n.table = result.2)
    (replies : n.replies = m.replies) : Change m move n := by
  cases found : m.table.find? id with
  | none =>
    rw [takes.past ((before.find? id).trans found)] at table
    exact .quiet (table ▸ before.trans (.of_stats _)) replies
  | some call =>
    rw [takes.pending call ((before.find? id).trans found)] at table
    exact .ended before found (ends call found) (outcome call) table replies

theorem advance_change (coherent : m.table.Coherent) {now : Nanos} {count : Nat}
    {below : List (CallFrame β)} (pass : m.stack = .pass now count :: below) :
    Change m .advance (m.advance now count below).2 := by
  unfold advance
  split
  · rename_i timers due
    exact .quiet ((Undisturbed.of_popDue due).trans (.of_endPass _ count)) rfl
  · rename_i j payload timers due
    exact .quiet (.of_popDue due) rfl
  · rename_i j id timers due
    -- The timer that was taken is the one that the entry of the call names.
    have ends (call : PendingCall) (found : m.table.find? id = some call) :
        m.Ends id call .advance ⟨.error (.timeout id call.timeoutDetail), true⟩ := by
      obtain ⟨owner, entry, timer⟩ := coherent.expiry (TimerQueue.popDue_some due).1
      rw [found] at entry
      cases entry
      exact .timer pass (by rw [due, timer])
    apply change_of_takes (takes_expire _ id) (.of_popDue due) ends fun _ => rfl
    · simp only [expire]
      split <;> rfl
    · simp only [expire]
      split <;> rfl

theorem register_change (m : CallMachine β) (id : CorrelationId) (timeout : Nanos)
    (info : CallInfo) :
    Change m (.register id timeout info) (m.operate (.register id timeout info)).2 := by
  cases closed : m.table.closed with
  | true =>
    simp only [operate, register_of_closed _ _ _ _ closed]
    exact .quiet (.refl _) rfl
  | false =>
    cases pending : m.table.isPending id with
    | true =>
      simp only [operate, register_of_pending _ _ _ _ closed pending]
      exact .quiet (.of_stats _) rfl
    | false =>
      simp only [operate, register_of_free _ _ _ _ closed pending]
      exact .registered (isPending_eq_false_iff.mp pending) rfl rfl

theorem poll_change (m : CallMachine β) (ticket : Ticket) :
    Change m (.poll ticket) (m.operate (.poll ticket)).2 := by
  simp only [operate]
  split
  · exact .quiet (.refl _) rfl
  · rename_i r found
    have key : r.ticket = ticket := by simpa using List.find?_some found
    subst key
    split
    · exact .quiet (.refl _) rfl
    · rename_i unsettled
      exact .polled (List.mem_of_find?_eq_some found) (by simpa using unsettled) rfl rfl

theorem drop_change (code : m.InCode) (ticket : Ticket) :
    Change m (.drop ticket) (m.operate (.drop ticket)).2 := by
  simp only [operate]
  split
  · exact .quiet (.refl _) rfl
  · rename_i r found
    have key : r.ticket = ticket := by simpa using List.find?_some found
    have held := List.mem_of_find?_eq_some found
    subst key
    cases settled : r.settled with
    | true => exact .dropped held (.inl settled) (by simp [CallTable.drop, settled]) rfl
    | false =>
      cases entry : m.table.find? r.id with
      | none =>
        refine .dropped held (.inr entry) ?_ rfl
        simp [CallTable.drop, settled, cancel_of_not_pending entry]
      | some call =>
        refine .gaveUp code held settled entry ?_ rfl
        simp [CallTable.drop, settled, cancel_of_find? entry]

theorem operate_change (code : m.InCode) (move : CallMove β) :
    Change m move (m.operate move).2 := by
  cases move with
  | register id timeout info => exact register_change m id timeout info
  | resolve id reply =>
    exact change_of_takes (takes_resolve _ id reply) (.refl _) (fun _ _ => .resolve code reply)
      (fun _ => rfl) rfl rfl
  | fail id e =>
    exact change_of_takes (takes_fail _ id e) (.refl _) (fun _ _ => .fail code e)
      (fun _ => rfl) rfl rfl
  | cancel id =>
    exact change_of_takes (takes_cancel _ id) (.refl _) (fun _ _ => .cancel code)
      (fun _ => rfl) rfl rfl
  | expire id =>
    exact change_of_takes (takes_expire _ id) (.refl _) (fun _ _ => .expire code)
      (fun _ => rfl) rfl rfl
  | failAll e => exact .endedAll (.refl _) (fun _ _ => .failAll code e) rfl rfl
  | close =>
    exact .endedAll (t := { m.table with closed := true })
      ⟨rfl, rfl, Nat.le_refl _, id, fun _ => id⟩
      (fun _ _ => .close code) rfl rfl
  | poll ticket => exact poll_change m ticket
  | drop ticket => exact drop_change code ticket
  | schedule delay payload => exact .quiet (.of_schedule _ _ _ _) rfl
  | cancelTimer j => exact .quiet (.of_cancel _ j) rfl
  | clearTimers => exact .quiet (.of_clear _) rfl
  | elapse | setHook | enter | advance | leave => exact .quiet (.refl _) rfl

theorem step_change (coherent : m.table.Coherent) (move : CallMove β) :
    Change m move (m.step move).2 := by
  unfold step
  split
  · rename_i stack
    exact advance_change coherent stack
  · exact .quiet (.refl _) rfl
  · exact .quiet (.refl _) rfl
  · exact .quiet (.refl _) rfl
  · rename_i code _ _ _
    exact operate_change code _

structure Coherent (m : CallMachine β) : Prop where
  table : m.table.Coherent
  nodup : (m.replies.map (·.ticket)).Nodup
  ticket_lt : ∀ {r}, r ∈ m.replies → r.ticket < m.table.channels.size
  sameId : ∀ {r id call}, r ∈ m.replies → m.table.find? id = some call →
    call.ticket = r.ticket → id = r.id
  unexpired : ∀ {r}, r ∈ m.replies → r.settled = false → r.expired = false

theorem Coherent.empty : Coherent ({} : CallMachine β) where
  table := CallTable.Coherent.empty
  nodup := List.nodup_nil
  ticket_lt h := by cases h
  sameId h := by cases h
  unexpired h := by cases h

theorem Coherent.eq_of_ticket (h : m.Coherent) {q r : PendingReply} (hq : q ∈ m.replies)
    (hr : r ∈ m.replies) (same : q.ticket = r.ticket) : q = r :=
  List.inj_on_of_nodup_map h.nodup hq hr same

theorem poll_cases (t : CallTable β) {r : PendingReply} (fresh : r.expired = false) :
    t.poll r = (none, r) ∨ ∃ s, t.poll r = (some s.result, r.delivered s) := by
  cases channel : t.channels[r.ticket]? with
  | none => exact .inl (by simp [poll, channel])
  | some c =>
    cases outcome : c.outcome? with
    | none => exact .inl (poll_eq_none channel outcome)
    | some s => exact .inr ⟨s, poll_eq_some channel outcome fresh⟩

theorem Change.reply_cases {move : CallMove β} (change : Change m move n) {q : PendingReply}
    (held : q ∈ n.replies) :
    q ∈ m.replies ∨
      (∃ id, q = ⟨id, m.table.channels.size, false, false⟩ ∧
        m.table.channels.size < n.table.channels.size) ∨
      ∃ r ∈ m.replies, r.settled = false ∧ q = (m.table.poll r).2 := by
  cases change with
  | quiet _ replies | ended _ _ _ _ _ replies | endedAll _ _ _ replies =>
    exact .inl (replies ▸ held)
  | registered _ table replies =>
    rw [replies] at held
    rcases List.mem_append.mp held with old | new
    · exact .inl old
    · exact .inr (.inl ⟨_, List.mem_singleton.mp new, by rw [table]; simp [registering]⟩)
  | polled polled unsettled _ replies =>
    rw [replies] at held
    obtain ⟨p, hp, rfl⟩ := List.mem_map.mp held
    split
    · exact .inr (.inr ⟨_, polled, unsettled, rfl⟩)
    · exact .inl hp
  | dropped _ _ _ replies | gaveUp _ _ _ _ _ replies =>
    rw [replies] at held
    exact .inl (List.mem_filter.mp held).1

theorem Change.table_coherent {move : CallMove β} (change : Change m move n)
    (h : m.table.Coherent) : n.table.Coherent := by
  cases change with
  | quiet table => exact table.coherent h
  | registered free table => exact table ▸ h.registering _ _ _ free
  | ended before found _ _ table =>
    exact table ▸ (before.coherent h).ending ((before.find? _).trans found) _ _
  | endedAll before _ table => exact table ▸ (before.coherent h).failAll _
  | polled _ _ table | dropped _ _ table => exact table ▸ h
  | gaveUp _ _ _ found table => exact table ▸ h.ending found _ _

theorem Change.size_le {move : CallMove β} (change : Change m move n) :
    m.table.channels.size ≤ n.table.channels.size := by
  cases change with
  | quiet table => exact Nat.le_of_eq (congrArg Array.size table.channels.symm)
  | registered _ table => rw [table]; simp [registering]
  | ended before _ _ _ table =>
    rw [table]
    simp [ending, before.channels]
  | endedAll before _ table =>
    rw [table, failAll_eq, size_endAll]
    exact Nat.le_of_eq (congrArg Array.size before.channels.symm)
  | polled _ _ table | dropped _ _ table => exact Nat.le_of_eq (by rw [table])
  | gaveUp _ _ _ _ table => rw [table]; simp [ending]

theorem Change.entry_cases {move : CallMove β} (change : Change m move n) (h : m.table.Coherent)
    {id : CorrelationId} {call : PendingCall} (found : n.table.find? id = some call) :
    m.table.find? id = some call ∨
      ((∃ timeout info, move = .register id timeout info) ∧
        call.ticket = m.table.channels.size ∧
        n.replies = m.replies ++ [⟨id, m.table.channels.size, false, false⟩]) := by
  cases change with
  | quiet table => exact .inl ((table.find? id).symm.trans found)
  | registered _ table replies =>
    rw [table, find?_registering] at found
    split at found
    · rename_i same
      subst same
      cases found
      exact .inr ⟨⟨_, _, rfl⟩, rfl, replies⟩
    · exact .inl found
  | ended before _ _ _ table =>
    rw [table, find?_ending (before.coherent h)] at found
    split at found
    · cases found
    · exact .inl ((before.find? id).symm.trans found)
  | endedAll _ _ table =>
    rw [table, find?_failAll] at found
    cases found
  | polled _ _ table | dropped _ _ table => exact .inl (table ▸ found)
  | gaveUp _ _ _ _ table =>
    rw [table, find?_ending h] at found
    split at found
    · cases found
    · exact .inl found

theorem poll_keeps (t : CallTable β) (r : PendingReply) :
    (t.poll r).2.id = r.id ∧ (t.poll r).2.ticket = r.ticket := by
  unfold poll
  split <;> exact ⟨rfl, rfl⟩

theorem Change.nodup {move : CallMove β} (change : Change m move n) (h : m.Coherent) :
    (n.replies.map (·.ticket)).Nodup := by
  cases change with
  | quiet _ replies | ended _ _ _ _ _ replies | endedAll _ _ _ replies => exact replies ▸ h.nodup
  | registered _ _ replies =>
    rw [replies, List.map_append]
    refine List.nodup_append.mpr ⟨h.nodup, List.nodup_singleton _, fun k hk k' hk' => ?_⟩
    obtain ⟨r, hr, rfl⟩ := List.mem_map.mp hk
    rw [List.mem_singleton.mp hk']
    exact Nat.ne_of_lt (h.ticket_lt hr)
  | polled _ _ _ replies =>
    have tickets : n.replies.map (·.ticket) = m.replies.map (·.ticket) := by
      rw [replies, List.map_map]
      refine List.map_congr_left fun q _ => ?_
      simp only [Function.comp_apply]
      split
      · rename_i same
        rw [(poll_keeps _ _).2, same]
      · rfl
    exact tickets ▸ h.nodup
  | dropped _ _ _ replies | gaveUp _ _ _ _ _ replies =>
    rw [replies]
    exact h.nodup.sublist (List.filter_sublist.map _)

theorem Coherent.change (h : m.Coherent) {move : CallMove β} (change : Change m move n) :
    n.Coherent := by
  refine ⟨change.table_coherent h.table, change.nodup h, ?_, ?_, ?_⟩
  · intro q held
    rcases change.reply_cases held with old | ⟨id, rfl, grown⟩ | ⟨r, old, -, rfl⟩
    · exact Nat.lt_of_lt_of_le (h.ticket_lt old) change.size_le
    · exact grown
    · rw [(poll_keeps _ _).2]
      exact Nat.lt_of_lt_of_le (h.ticket_lt old) change.size_le
  · intro q id call held found same
    have ticketOf {r : PendingReply} (old : r ∈ m.replies) : r.ticket ≠ m.table.channels.size :=
      Nat.ne_of_lt (h.ticket_lt old)
    rcases change.entry_cases h.table found with entry | ⟨-, fresh, replies⟩
    · have old := h.table.ticket_lt entry
      rcases change.reply_cases held with before | ⟨k, rfl, -⟩ | ⟨r, before, -, rfl⟩
      · exact h.sameId before entry same
      · exact absurd old (same ▸ Nat.lt_irrefl _)
      · rw [(poll_keeps _ _).2] at same
        rw [(poll_keeps _ _).1]
        exact h.sameId before entry same
    · -- The entry is new, and so is the only reply with its ticket.
      rw [replies] at held
      rcases List.mem_append.mp held with before | new
      · exact absurd (same.symm.trans fresh) (ticketOf before)
      · rw [List.mem_singleton.mp new]
  · intro q held unsettled
    rcases change.reply_cases held with old | ⟨id, rfl, -⟩ | ⟨r, old, fresh, rfl⟩
    · exact h.unexpired old unsettled
    · rfl
    · have unexpired := h.unexpired old fresh
      rcases poll_cases m.table unexpired with same | ⟨s, delivered⟩
      · rw [same]
        exact unexpired
      · rw [delivered] at unsettled
        cases unsettled

theorem Coherent.step (h : m.Coherent) (move : CallMove β) : (m.step move).2.Coherent :=
  h.change (step_change h.table move)

theorem Coherent.run (h : m.Coherent) (moves : List (CallMove β)) : (m.run moves).Coherent := by
  induction moves generalizing m with
  | nil => exact h
  | cons move moves ih => exact ih (h.step move)

theorem Coherent.old_entry (h : m.Coherent) {moves : List (CallMove β)} {id : CorrelationId}
    (others : ∀ timeout info, .register id timeout info ∉ moves) {call : PendingCall}
    (found : (m.run moves).table.find? id = some call) : m.table.find? id = some call := by
  induction moves generalizing m with
  | nil => exact found
  | cons move moves ih =>
    have rest := ih (h.step move)
      (fun timeout info later => others timeout info (List.mem_cons_of_mem _ later)) found
    rcases (step_change h.table move).entry_cases h.table rest with old | ⟨⟨timeout, info, rfl⟩, -⟩
    · exact old
    · exact absurd List.mem_cons_self (others timeout info)

end CallMachine

end MessageRelay
