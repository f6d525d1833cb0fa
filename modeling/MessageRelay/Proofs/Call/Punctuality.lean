import MessageRelay.Proofs.Call.Expiry
import MessageRelay.Proofs.Timer.Later

/-!
Timeouts are neither early nor missed. Each pending call has a live timer that is due when the call is,
a delay after its registration; a pass takes the first of all timers that are due, and ends when none
is. So calls time out in the order of their deadlines, whatever hooks and callbacks do in between.
-/
namespace MessageRelay

namespace CallTable

variable {β : Type} {t : CallTable β}

theorem Takes.later (h : t.timers.Aligned) {id : CorrelationId} {count : CallStats → CallStats}
    {c : PendingCall → Channel} {stats : CallStats} {result : Bool × CallTable β}
    (takes : t.Takes id count c stats result) : t.timers.Later result.2.timers := by
  cases found : t.find? id with
  | none =>
    rw [takes.past found]
    exact .refl h
  | some call =>
    rw [takes.pending call found]
    exact .cancel h call.timer

theorem later_drop (h : t.timers.Aligned) (r : PendingReply) : t.timers.Later (t.drop r).timers := by
  unfold drop
  split
  · exact .refl h
  · exact (takes_cancel t r.id).later h

theorem later_endAll (e : CallError) (calls : List PendingCall) {t : CallTable β}
    (h : t.timers.Aligned) : t.timers.Later (endAll e calls t).timers := by
  induction calls generalizing t with
  | nil => exact .refl h
  | cons call calls ih =>
    have first := TimerQueue.Later.cancel h call.timer
    exact first.trans (ih (t := { t with timers := _, channels := _ }) first.aligned)

theorem later_failAll (h : t.timers.Aligned) (e : CallError) :
    t.timers.Later (t.failAll e).2.timers := by
  rw [failAll_eq]
  exact later_endAll (t := t.cleared) e _ h

theorem later_register (h : t.timers.Aligned) (now : Nanos) (id : CorrelationId) (timeout : Nanos)
    (info : CallInfo) : t.timers.Later (t.register now id timeout info).2.timers := by
  unfold register
  split
  · exact .refl h
  · split
    · exact .refl h
    · exact .scheduleAt h _ _

end CallTable

namespace CallMachine

open CallTable

variable {β : Type} {m n : CallMachine β} {move : CallMove β}

theorem operate_later (h : m.table.timers.Aligned) (move : CallMove β) :
    m.table.timers.Later (m.operate move).2.table.timers := by
  cases move with
  | register id timeout info =>
    have registered := later_register h m.now id timeout info
    simp only [operate]
    split <;> rename_i result <;> rw [result] at registered <;> exact registered
  | resolve id reply => exact (takes_resolve _ id reply).later h
  | fail id e => exact (takes_fail _ id e).later h
  | expire id => exact (takes_expire _ id).later h
  | cancel id => exact (takes_cancel _ id).later h
  | failAll e => exact later_failAll h e
  | close => exact later_failAll (t := { m.table with closed := true }) h .cancelled
  | poll ticket =>
    simp only [operate]
    split
    · exact .refl h
    · split <;> exact .refl h
  | drop ticket =>
    simp only [operate]
    split
    · exact .refl h
    · exact later_drop h _
  | schedule delay payload => exact .scheduleAt h _ _
  | cancelTimer j => exact .cancel h j
  | clearTimers => exact .clear h
  | elapse | setHook | enter | advance | leave => exact .refl h

theorem step_later (h : m.table.timers.Aligned) (move : CallMove β) :
    m.table.timers.Later (m.step move).2.table.timers := by
  unfold step
  split
  · rename_i now count below _
    have popped := TimerQueue.Later.popDue h now
    unfold advance
    split <;> rename_i taken <;> rw [taken] at popped
    · exact popped.trans (.endPass popped.aligned count)
    · exact popped
    · rename_i id timers
      have ended := (takes_expire { m.table with timers := timers } id).later popped.aligned
      dsimp only
      split <;> exact popped.trans ended
  · exact .refl h
  · exact .refl h
  · exact .refl h
  · exact operate_later h _

end CallMachine

/-- A registration that succeeded. -/
structure Registration where
  ticket : Ticket
  id : CorrelationId
  clock : Nanos
  timeout : Nanos
  deriving DecidableEq

namespace Registration

def deadline (r : Registration) : Nanos := r.clock + min r.timeout maxDelay

def Before (r r' : Registration) : Prop :=
  r.deadline < r'.deadline ∨ r.deadline = r'.deadline ∧ r.ticket < r'.ticket

structure Of (r : Registration) (id : CorrelationId) (call : PendingCall) : Prop where
  ticket : r.ticket = call.ticket
  id : r.id = id
  timeout : r.timeout = call.timeout

end Registration

namespace CallMachine

open CallTable

variable {β : Type} {m n : CallMachine β} {move : CallMove β} {rs : List Registration}

def registers? (m : CallMachine β) : CallMove β → Option Registration
  | .register id timeout info =>
    match (m.step (.register id timeout info)).1 with
    | .registered (.ok reply) => some ⟨reply.ticket, id, m.now, timeout⟩
    | _ => none
  | _ => none

def registrations (m : CallMachine β) : List (CallMove β) → List Registration
  | [] => []
  | move :: moves => (m.registers? move).toList ++ (m.step move).2.registrations moves

/-- What ties calls, their registrations and their timers. -/
structure Timetable (rs : List Registration) (m : CallMachine β) : Prop where
  coherent : m.Coherent
  aligned : m.table.timers.Aligned
  timed : Timed m.table
  sorted : rs.Pairwise fun r r' => r.ticket < r'.ticket
  issued : ∀ r ∈ rs, r.ticket < m.table.channels.size
  entry : ∀ {id call}, m.table.find? id = some call → ∃ r ∈ rs, r.Of id call ∧
    ∀ t ∈ m.table.timers.agenda.timers, t.id = call.timer → t.fireAt = r.deadline
  order : ∀ {id call id' call'}, m.table.find? id = some call → m.table.find? id' = some call' →
    call.ticket < call'.ticket → call.timer < call'.timer

namespace Timetable

theorem empty : Timetable [] ({} : CallMachine β) where
  coherent := .empty
  aligned := Schedule.Aligned.empty
  timed found := by cases found
  sorted := List.Pairwise.nil
  issued _ member := absurd member List.not_mem_nil
  entry found := by cases found
  order found := by cases found

theorem shrink (tt : Timetable rs m) (spares : m.Spares move)
    (old : ∀ {id call}, (m.step move).2.table.find? id = some call →
      m.table.find? id = some call) : Timetable rs (m.step move).2 where
  coherent := tt.coherent.step move
  aligned := (step_later tt.aligned move).aligned
  timed := (step_retimed tt.coherent.table spares).timed tt.coherent.table tt.timed
  sorted := tt.sorted
  issued r member :=
    Nat.lt_of_lt_of_le (tt.issued r member) (step_change tt.coherent.table move).size_le
  entry found := by
    obtain ⟨r, member, of, due⟩ := tt.entry (old found)
    refine ⟨r, member, of, fun t live own => due t ?_ own⟩
    have below := tt.coherent.table.timer_lt (old found)
    exact (step_later tt.aligned move).old t live (own ▸ below)
  order found found' := tt.order (old found) (old found')

theorem register (tt : Timetable rs m) {id : CorrelationId} {timeout : Nanos} {info : CallInfo}
    {reply : PendingReply}
    (answer : (m.step (.register id timeout info)).1 = .registered (.ok reply)) :
    Timetable (rs ++ [⟨reply.ticket, id, m.now, timeout⟩]) (m.step (.register id timeout info)).2 := by
  obtain ⟨free, rfl, result⟩ := registered_ok answer
  have table := congrArg CallMachine.table result
  have h := tt.coherent.table
  have later := step_later tt.aligned (.register id timeout info)
  have ticket_lt {k : CorrelationId} {call : PendingCall} (old : m.table.find? k = some call) :
      call.ticket < m.table.channels.size := h.ticket_lt old
  have spares : m.Spares (.register id timeout info) := trivial
  refine ⟨tt.coherent.step _, later.aligned, (step_retimed h spares).timed h tt.timed, ?_, ?_, ?_, ?_⟩
  · refine List.pairwise_append.mpr ⟨tt.sorted, List.pairwise_singleton _ _, fun r member r' new => ?_⟩
    rw [List.mem_singleton.mp new]
    exact tt.issued r member
  · intro r member
    have size : (m.step (.register id timeout info)).2.table.channels.size =
        m.table.channels.size + 1 := by rw [table]; exact Array.size_push _
    rw [size]
    rcases List.mem_append.mp member with old | new
    · exact Nat.lt_succ_of_lt (tt.issued r old)
    · rw [List.mem_singleton.mp new]
      exact Nat.lt_succ_self _
  · intro k call found
    rw [table] at found
    rcases entry_registering found with ⟨rfl, rfl⟩ | old
    · refine ⟨_, List.mem_append_right _ List.mem_cons_self, ⟨rfl, rfl, rfl⟩, fun t live own => ?_⟩
      rw [table] at live
      exact tt.aligned.fireAt_scheduleAt live own
    · obtain ⟨r, member, of, due⟩ := tt.entry old
      refine ⟨r, List.mem_append_left _ member, of, fun t live own => due t ?_ own⟩
      exact later.old t live (own ▸ h.timer_lt old)
  · intro k call k' call' found found' lt
    rw [table] at found found'
    rcases entry_registering found with ⟨rfl, rfl⟩ | old <;>
      rcases entry_registering found' with ⟨rfl, rfl⟩ | old'
    · exact absurd lt (Nat.lt_irrefl _)
    · exact absurd lt (Nat.not_lt_of_lt (ticket_lt old'))
    · exact h.timer_lt old
    · exact tt.order old old' lt

theorem register_refused {id : CorrelationId} {timeout : Nanos} {info : CallInfo}
    (refused : ∀ reply, (m.step (.register id timeout info)).1 ≠ .registered (.ok reply)) :
    (m.step (.register id timeout info)).2.table.calls = m.table.calls := by
  rcases m.inCode_or_pass with code | ⟨now, count, below, pass⟩
  · rw [step_inCode code (by simp)] at refused ⊢
    simp only [operate] at refused ⊢
    cases closed : m.table.closed with
    | true => rw [register_of_closed _ _ _ _ closed]
    | false =>
      cases pending : m.table.isPending id with
      | true => rw [register_of_pending _ _ _ _ closed pending]
      | false =>
        rw [register_of_free _ _ _ _ closed pending] at refused
        exact absurd rfl (refused _)
  · rw [step_refused pass (by simp)]

theorem step (tt : Timetable rs m) (spares : m.Spares move) :
    Timetable (rs ++ (m.registers? move).toList) (m.step move).2 := by
  by_cases registers : ∃ id timeout info, move = .register id timeout info
  · obtain ⟨id, timeout, info, rfl⟩ := registers
    by_cases succeeds : ∃ reply, (m.step (.register id timeout info)).1 = .registered (.ok reply)
    · obtain ⟨reply, answer⟩ := succeeds
      have new : m.registers? (.register id timeout info) =
          some ⟨reply.ticket, id, m.now, timeout⟩ := by simp only [registers?, answer]
      rw [new]
      exact tt.register answer
    · have refused := fun reply answer => succeeds ⟨reply, answer⟩
      have none : m.registers? (.register id timeout info) = none := by
        simp only [registers?]
      rw [none, Option.toList_none, List.append_nil]
      refine tt.shrink spares fun found => ?_
      rwa [CallTable.find?, register_refused refused] at found
  · have none : m.registers? move = none := by
      cases move with
      | register id timeout info => exact absurd ⟨id, timeout, info, rfl⟩ registers
      | _ => rfl
    rw [none, Option.toList_none, List.append_nil]
    refine tt.shrink spares fun found => ?_
    rcases (step_change tt.coherent.table move).entry_cases tt.coherent.table found with
      old | ⟨⟨timeout, info, rfl⟩, -⟩
    · exact old
    · exact absurd ⟨_, timeout, info, rfl⟩ registers

theorem run (tt : Timetable rs m) {moves : List (CallMove β)} (spares : m.SparesAll moves) :
    Timetable (rs ++ m.registrations moves) (m.run moves) := by
  induction moves generalizing m rs with
  | nil => exact (List.append_nil rs).symm ▸ tt
  | cons move moves ih =>
    rw [registrations, ← List.append_assoc]
    exact ih (tt.step spares.1) spares.2

theorem timer (tt : Timetable rs m) {id : CorrelationId} {call : PendingCall}
    (found : m.table.find? id = some call) :
    ∃ r ∈ rs, r.Of id call ∧
      ∃ t ∈ m.table.timers.agenda.timers, t.id = call.timer ∧ t.fireAt = r.deadline := by
  obtain ⟨r, member, of, due⟩ := tt.entry found
  obtain ⟨t, live, own, -⟩ := tt.aligned.live?_eq_some_iff.mp (tt.timed found)
  exact ⟨r, member, of, t, live, own, due t live own⟩

theorem not_early (tt : Timetable rs m) {e : Expiry} (expires : m.expires? move = some e) :
    ∃ r ∈ rs, r.Of e.id e.call ∧ ∀ now, e.pass? = some now → r.deadline ≤ now := by
  obtain ⟨found, ends, pass⟩ := (expires?_eq_some_iff tt.coherent.table).mp expires
  obtain ⟨r, member, of, due⟩ := tt.entry found
  refine ⟨r, member, of, fun now own => ?_⟩
  rw [← pass] at own
  cases ends with
  | expire => cases own
  | timer top taken =>
    simp only [pass?, top, Option.some.injEq] at own
    subst own
    obtain ⟨t, first, inTime, same⟩ := tt.aligned.first_of_popDue taken
    exact due t first.1 same ▸ inTime

theorem not_missed (tt : Timetable rs m) {now : Nanos} {count : Nat} {below : List (CallFrame β)}
    (pass : m.stack = .pass now count :: below) {k : Nat}
    (finished : (m.step .advance).1 = .finished k) {id : CorrelationId} {call : PendingCall}
    (found : (m.step .advance).2.table.find? id = some call) :
    ∃ r ∈ rs, r.Of id call ∧ now < r.deadline := by
  rw [step_advance pass] at finished found
  unfold advance at finished found
  rcases taken : m.table.timers.popDue now with ⟨_ | ⟨j, k | payload⟩, timers⟩
  · rw [taken] at found
    have pending : m.table.find? id = some call := found
    obtain ⟨r, member, of, t, live, -, due⟩ := tt.timer pending
    have late := tt.aligned.late_of_popDue (congrArg Prod.fst taken) t live
    exact ⟨r, member, of, due ▸ late⟩
  · rw [taken] at finished
    cases finished
  · rw [taken] at finished
    cases finished

theorem in_order (tt : Timetable rs m) {e : Expiry} (expires : m.expires? move = some e)
    (passing : e.pass?.isSome) {id : CorrelationId} {call : PendingCall}
    (found : m.table.find? id = some call) (other : id ≠ e.id) :
    ∃ r ∈ rs, ∃ r' ∈ rs, r.Of e.id e.call ∧ r'.Of id call ∧ r.Before r' := by
  obtain ⟨pending, ends, pass⟩ := (expires?_eq_some_iff tt.coherent.table).mp expires
  obtain ⟨r, member, of, due⟩ := tt.entry pending
  obtain ⟨r', member', of', t', live', own', due'⟩ := tt.timer found
  refine ⟨r, member, r', member', of, of', ?_⟩
  rw [← pass] at passing
  cases ends with
  | expire => cases passing
  | timer top taken =>
    obtain ⟨t, first, -, own⟩ := tt.aligned.first_of_popDue taken
    have due := due t first.1 own
    have h := tt.coherent.table
    rcases first.2 t' live' with same | earlier | ⟨together, before⟩
    · subst same
      exact absurd (h.sameTimer found pending (own'.symm.trans own)) other
    · exact .inl (due ▸ due' ▸ earlier)
    · refine .inr ⟨due ▸ due' ▸ together, ?_⟩
      -- Timers were scheduled in the order of the tickets.
      rw [own, own'] at before
      rw [of.ticket, of'.ticket]
      rcases Nat.lt_trichotomy e.call.ticket call.ticket with lt | same | gt
      · exact lt
      · exact absurd (h.sameTicket found pending same.symm) other
      · exact absurd (tt.order found pending gt) (Nat.not_lt_of_lt before)

end Timetable

theorem sparesAll_append {first second : List (CallMove β)} :
    m.SparesAll (first ++ second) ↔ m.SparesAll first ∧ (m.run first).SparesAll second := by
  induction first generalizing m with
  | nil => exact ⟨fun spares => ⟨trivial, spares⟩, fun spares => spares.2⟩
  | cons move moves ih => exact (and_congr_right fun _ => ih).trans and_assoc.symm

theorem registrations_append (m : CallMachine β) (first second : List (CallMove β)) :
    m.registrations (first ++ second) =
      m.registrations first ++ (m.run first).registrations second := by
  induction first generalizing m with
  | nil => rfl
  | cons move moves ih =>
    rw [List.cons_append, registrations, registrations, ih, List.append_assoc]
    rfl

theorem pending_of_expirations (h : m.Coherent) {moves : List (CallMove β)}
    (spares : m.SparesAll moves) {e : Expiry} (later : e ∈ m.expirations moves)
    (old : e.call.timer < m.table.timers.next) : m.table.find? e.id = some e.call := by
  obtain ⟨before, move, after, split, expires⟩ := mem_expirations.mp later
  have pending := ((expires?_eq_some_iff (h.run before).table).mp expires).1
  exact run_old_entry h (sparesAll_append.mp (split ▸ spares)).1 pending old

/-- One call is due before the other, by their registrations. -/
def DueBefore (rs : List Registration) (e e' : Expiry) : Prop :=
  ∃ r ∈ rs, ∃ r' ∈ rs, r.Of e.id e.call ∧ r'.Of e'.id e'.call ∧ r.Before r'

/-- Of the calls with old timers, those that passes end time out in the order in which they are due. -/
theorem Timetable.pairwise (tt : Timetable rs m) {moves : List (CallMove β)}
    (spares : m.SparesAll moves) {all : List Registration}
    (within : rs ++ m.registrations moves ⊆ all) {old : Expiry → Bool}
    (below : ∀ e, old e = true → e.call.timer < m.table.timers.next) :
    ((m.expirations moves).filter fun e => e.pass?.isSome && old e).Pairwise (DueBefore all) := by
  induction moves generalizing m rs with
  | nil => exact List.Pairwise.nil
  | cons move moves ih =>
    have next := (step_change tt.coherent.table move).next_le
    have rest := ih (tt.step spares.1) spares.2
      (by rwa [List.append_assoc]) fun e kept => Nat.lt_of_lt_of_le (below e kept) next
    rw [expirations]
    cases expires : m.expires? move with
    | none => exact rest
    | some e =>
      rw [Option.toList_some, List.singleton_append, List.filter_cons]
      split
      · rename_i counts
        refine List.pairwise_cons.mpr ⟨fun e' listed => ?_, rest⟩
        obtain ⟨later, counts'⟩ := List.mem_filter.mp listed
        obtain ⟨passing, -⟩ := Bool.and_eq_true_iff.mp counts
        obtain ⟨-, kept⟩ := Bool.and_eq_true_iff.mp counts'
        have both : e' ∈ m.expirations (move :: moves) := List.mem_append_right _ later
        have pending := pending_of_expirations tt.coherent spares both (below e' kept)
        have expired := Expired.of_expires tt.coherent.table expires
        have other : e'.id ≠ e.id := fun same => by
          rw [same] at pending
          have call := Option.some.inj (pending.symm.trans expired.pending)
          exact ticket_ne_of_told (tt.coherent.step move) expired.told later (congrArg (·.ticket) call)
        obtain ⟨r, member, r', member', of, of', earlier⟩ := tt.in_order expires passing pending other
        have inside {r : Registration} (member : r ∈ rs) : r ∈ all :=
          within (List.mem_append_left _ member)
        exact ⟨r, inside member, r', inside member', of, of', earlier⟩
      · exact rest

/-- In every run that spares the timers of calls, for every stretch of it: the calls that passes end in
it are due by the times of these passes, and of those pending at its start the ones due first end
first. No call that is pending at the end of a pass is due by the time of it. Each call times out once
at most, and the hook, if it is set, runs for each that does, when the call has left the table and its
caller has been told. -/
theorem timeouts_punctual (before during : List (CallMove β))
    (spares : SparesAll {} (before ++ during)) :
    let m : CallMachine β := run {} before
    let n := m.run during
    let rs := registrations {} (before ++ during)
    rs.Pairwise (fun r r' => r.ticket < r'.ticket) ∧
    (∀ e ∈ m.expirations during, ∃ r ∈ rs, r.Of e.id e.call ∧
      ∀ now, e.pass? = some now → r.deadline ≤ now) ∧
    (∀ now count below k, n.stack = .pass now count :: below →
      (n.step .advance).1 = .finished k →
      ∀ id call, (n.step .advance).2.table.find? id = some call →
        ∃ r ∈ rs, r.Of id call ∧ now < r.deadline) ∧
    ((m.expirations during).filter fun e =>
      e.pass?.isSome && m.table.find? e.id = some e.call).Pairwise (DueBefore rs) ∧
    ((m.expirations during).map (·.call.ticket)).Nodup ∧
    (m.hooked = true → m.hookRuns during = (m.expirations during).map (·.id)) ∧
    ∀ move, n.entered? move = (if n.hooked then (n.expires? move).map (·.id) else none) ∧
      ∀ e, n.expires? move = some e → n.Expired (n.step move).2 e := by
  intro m n rs
  obtain ⟨spares₁, spares₂⟩ := sparesAll_append.mp spares
  have start : Timetable (registrations {} before) m := Timetable.empty.run spares₁
  have all : rs = registrations {} before ++ m.registrations during := registrations_append _ _ _
  have finish : Timetable rs n := all ▸ start.run spares₂
  refine ⟨finish.sorted, fun e expired => ?_, ?_, ?_, expirations_nodup start.coherent during,
    fun hooked => hookRuns_eq start.coherent hooked during, fun move => ⟨?_, ?_⟩⟩
  · obtain ⟨first, move, rest, split, expires⟩ := mem_expirations.mp expired
    obtain ⟨spared, -⟩ := sparesAll_append.mp (split ▸ spares₂)
    obtain ⟨r, member, of, due⟩ := (start.run spared).not_early expires
    refine ⟨r, ?_, of, due⟩
    rw [all, split, registrations_append, ← List.append_assoc]
    exact List.mem_append_left _ member
  · intro now count below k pass finished id call found
    exact finish.not_missed pass finished found
  · refine start.pairwise spares₂ (all ▸ List.Subset.refl _) fun e kept => ?_
    exact start.coherent.table.timer_lt (of_decide_eq_true kept)
  · exact entered?_eq finish.coherent.table move
  · exact fun e expires => .of_expires finish.coherent.table expires

def threeCalls : List (CallMove Empty) :=
  [.setHook, .register default 5 {}, .register ⟨0, 1⟩ 3 {}, .register ⟨0, 2⟩ 9 {}]

def rerun : List (CallMove Empty) :=
  [.enter 7, .advance, .register ⟨0, 1⟩ 4 {}, .leave, .advance, .leave, .advance, .leave]

def fourRegistrations : List Registration :=
  [⟨0, default, 0, 5⟩, ⟨1, ⟨0, 1⟩, 0, 3⟩, ⟨2, ⟨0, 2⟩, 0, 9⟩, ⟨3, ⟨0, 1⟩, 0, 4⟩]

theorem timeouts_punctual_reregistered :
    ((run {} threeCalls).expirations rerun).map (fun e => (e.call.ticket, e.pass?)) =
        [(1, some 7), (3, some 7), (0, some 7)] ∧
      (run {} threeCalls).hookRuns rerun = [⟨0, 1⟩, ⟨0, 1⟩, default] ∧
      (((run {} threeCalls).expirations rerun).filter fun e => e.pass?.isSome &&
        (run {} threeCalls).table.find? e.id = some e.call).Pairwise (DueBefore fourRegistrations) ∧
      ∀ id call, (((run {} threeCalls).run rerun).step .advance).2.table.find? id = some call →
        ∃ r ∈ fourRegistrations, r.Of id call ∧ 7 < r.deadline := by
  have spares : SparesAll {} (threeCalls ++ rerun) :=
    ⟨trivial, trivial, trivial, trivial, trivial, trivial, trivial, trivial, trivial, trivial, trivial,
      trivial, trivial⟩
  obtain ⟨-, -, missed, order, -, hooks, -⟩ := timeouts_punctual threeCalls rerun spares
  have registered : registrations {} (threeCalls ++ rerun) = fourRegistrations := by decide
  rw [registered] at missed order
  have stack : ((run {} threeCalls).run rerun).stack = [.pass 7 3] := rfl
  have finished : (((run {} threeCalls).run rerun).step .advance).1 = .finished 3 := rfl
  exact ⟨by decide, (hooks (by decide)).trans (by decide), order, missed 7 3 [] 3 stack finished⟩

end CallMachine

end MessageRelay
