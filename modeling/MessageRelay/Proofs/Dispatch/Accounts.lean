import MessageRelay.Proofs.Call.Deadlines
import MessageRelay.Proofs.Dispatch.Posts
import MessageRelay.Proofs.Dispatch.Record

/-!
A dispatcher, its table and the queue of its timers each count for themselves. Where the table and the
queue are used only through the dispatcher, the three sets of counters say the same: what one move
enters in one of them it enters in the others, or tells to the code that made it. So each relation
between them holds of a new dispatcher and is kept by every move.
-/
namespace MessageRelay

theorem DispatchCounters.tell_plain {told : List MetricEvent}
    (plain : ∀ e ∈ told, e.isPlain = true) (c : DispatchCounters) :
    let c' := told.foldl .tell c
    c'.requestsSent = c.requestsSent ∧ c'.responsesMatched = c.responsesMatched ∧
      c'.staleResponses = c.staleResponses := by
  induction told generalizing c with
  | nil => exact ⟨rfl, rfl, rfl⟩
  | cons e told ih =>
    have first : (c.tell e).requestsSent = c.requestsSent ∧
        (c.tell e).responsesMatched = c.responsesMatched ∧
        (c.tell e).staleResponses = c.staleResponses := by
      have := plain e List.mem_cons_self
      cases e <;> first | exact ⟨rfl, rfl, rfl⟩ | cases this
    obtain ⟨sent, matched, stale⟩ := ih (fun e member => plain e (List.mem_cons_of_mem _ member)) (c.tell e)
    exact ⟨sent.trans first.1, matched.trans first.2.1, stale.trans first.2.2⟩

namespace HolderAct

variable {β : Type}

/-- The table and the queue are used through the dispatcher, if at all. -/
def isOwn : HolderAct β → Bool
  | .table _ => false
  | _ => true

def issued? (a : HolderAct β) : Option CorrelationId := a.move?.bind DispatchMove.issued?

def cancelled? : HolderAct β → Option TimerId
  | .move (.cancelTimer j) | .hook (.cancelTimer j) => some j
  | _ => none

end HolderAct

namespace DispatchMachine

open CallTable

variable {η β : Type} {m n : DispatchMachine η β} {r r' : DispatchRecord}
  {move : DispatchMove β} {answer : DispatchAnswer η} {told : List MetricEvent} {a : HolderAct β}

theorem own_booking (h : m.bare.Coherent) (own : a.isOwn = true) :
    ∃ move : DispatchMove β, move.issued? = a.issued? ∧ Booking m move (m.answer a) (m.act a) := by
  have untold {timers : TimerQueue (CallTimer β)} (left : m.table.timers.Rearranged none timers) :
      Booking m .leave .done
        { m with site.dispatcher.table := { m.table with timers := timers } } :=
    .plain rfl (List.forall_mem_nil _) ⟨rfl, rfl⟩
      ⟨(Dispatcher.Told.refl _).table _, rfl, left, rfl⟩
  cases a with
  | move move => exact ⟨move, rfl, act_booking h rfl⟩
  | hook move => exact ⟨move, rfl, act_booking h rfl⟩
  | table operation => cases own
  | look => exact ⟨.leave, rfl, untold (.look _)⟩
  | heed => exact ⟨.leave, rfl, untold (.heed _)⟩

/-- Calls, as the dispatcher counts them, as the table does, and as it was told. -/
structure CallsAgree (c : DispatchCounters) (s : CallStats) (r : DispatchRecord) : Prop where
  stale : c.staleResponses = s.stale
  settled : c.responsesMatched + r.closed = s.completed + s.failed
  registered : s.registered = c.requestsSent + r.refused

theorem CallsAgree.plain {c : DispatchCounters} {s : CallStats} (h : CallsAgree c s r)
    (plain : ∀ e ∈ told, e.isPlain = true) : CallsAgree (told.foldl .tell c) s r := by
  obtain ⟨sent, matched, stale⟩ := DispatchCounters.tell_plain plain c
  exact ⟨stale.trans h.stale, (congrArg (· + r.closed) matched).trans h.settled,
    h.registered.trans (congrArg (· + r.refused) sent.symm)⟩

theorem Booking.callsAgree (booked : Booking m move answer n) (taken? : Option TimerId)
    (h : CallsAgree m.site.dispatcher.counters m.table.stats r) :
    CallsAgree n.site.dispatcher.counters n.table.stats (r.note answer taken?) := by
  obtain ⟨stale, settled, registered⟩ := id h
  have entered {told : List MetricEvent} {s : CallStats}
      (wrote : m.site.dispatcher.Told told n.site.dispatcher) (stats : n.table.stats = s)
      (agree : CallsAgree (told.foldl .tell m.site.dispatcher.counters) s (r.note answer taken?)) :
      CallsAgree n.site.dispatcher.counters n.table.stats (r.note answer taken?) := by
    rw [wrote.counters, stats]
    exact agree
  cases booked with
  | plain silent plain _ wrote =>
    refine entered wrote.told wrote.stats ?_
    rw [DispatchRecord.note_silent silent]
    exact h.plain plain
  | dispatched plain _ _ wrote | concluded _ plain _ _ wrote =>
    have agree := h.plain plain
    exact entered wrote.told wrote.stats agree
  | matched replied _ wrote =>
    refine entered wrote.told wrote.stats ?_
    rcases replied with rfl | rfl
    · refine ⟨stale, ?_, registered⟩
      change m.site.dispatcher.counters.responsesMatched + 1 + r.closed =
        m.table.stats.completed + 1 + m.table.stats.failed
      omega
    · refine ⟨stale, ?_, registered⟩
      change m.site.dispatcher.counters.responsesMatched + 1 + r.closed =
        m.table.stats.completed + (m.table.stats.failed + 1)
      omega
  | stale _ wrote =>
    exact entered wrote.told wrote.stats ⟨congrArg (· + 1) stale, settled, registered⟩
  | requested _ wrote =>
    refine entered wrote.told wrote.stats ⟨stale, settled, ?_⟩
    change m.table.stats.registered + 1 = m.site.dispatcher.counters.requestsSent + 1 + r.refused
    omega
  | refused _ wrote =>
    exact entered wrote.told wrote.stats ⟨stale, settled, congrArg (· + 1) registered⟩
  | duplicate _ _ wrote | dropped _ wrote | after _ _ wrote =>
    exact entered wrote.told wrote.stats ⟨stale, settled, registered⟩
  | @closed k _ _ _ wrote =>
    refine entered wrote.told wrote.stats ⟨stale, ?_, registered⟩
    change m.site.dispatcher.counters.responsesMatched + (r.closed + k) =
      m.table.stats.completed + (m.table.stats.failed + k)
    omega
  | finished _ _ _ wrote stats | expired _ _ _ wrote stats =>
    exact entered wrote stats ⟨stale, settled, registered⟩
  | began _ _ _ wrote stats =>
    refine entered wrote stats ?_
    split <;> exact ⟨stale, settled, registered⟩

/-- Timers, as the queue counts them, as the table does, and as was told. -/
structure TimersAgree (m : DispatchMachine η β) (r : DispatchRecord) : Prop where
  scheduled : m.table.timers.issued = r.afters.length + m.table.stats.registered
  fired : m.table.timers.fired + underway m.stack = r.begun.length + m.table.stats.timedOut
  accounted : m.table.timers.Accounted (m.table.timers.fired + underway m.stack)

theorem TimersAgree.wrote (h : m.TimersAgree r) {stats : CallStats} {added : Option (CallTimer β)}
    (wrote : m.Wrote told stats added n)
    (scheduled : m.table.timers.issued + added.toList.length = r'.afters.length + stats.registered)
    (fired : m.table.timers.fired + underway m.stack = r'.begun.length + stats.timedOut) :
    n.TimersAgree r' where
  scheduled := by rw [wrote.timers.issued, wrote.stats, scheduled]
  fired := by rw [wrote.timers.fired, wrote.underway, wrote.stats, fired]
  accounted := by
    rw [wrote.timers.fired, wrote.underway]
    exact wrote.timers.accounted h.accounted

theorem TimersAgree.taken (h : m.TimersAgree r) {now : Nanos} {count : Nat}
    {below : List (DispatchFrame β)} {j : TimerId} {payload : CallTimer β}
    {timers : TimerQueue (CallTimer β)} (pass : m.stack = .pass now count :: below)
    (due : m.table.timers.popDue now = (some (j, payload), timers))
    (left : timers.Rearranged none n.table.timers)
    (stack : underway n.stack = count + 1 + underway below) (afters : r'.afters = r.afters)
    (registered : n.table.stats.registered = m.table.stats.registered)
    (one : r'.begun.length + n.table.stats.timedOut =
      r.begun.length + m.table.stats.timedOut + 1) : n.TimersAgree r' := by
  have more : n.table.timers.fired + underway n.stack =
      m.table.timers.fired + underway m.stack + 1 := by
    rw [left.fired, TimerQueue.fired_popDue due, stack, pass, underway]
    omega
  refine ⟨?_, ?_, ?_⟩
  · rw [left.issued, afters, registered, ← h.scheduled]
    exact (TimerQueue.liveIds_popDue_some due).2.2
  · rw [more, h.fired, one]
  · rw [more]
    exact left.accounted (h.accounted.popDue_some due)

theorem Booking.timersAgree (booked : Booking m move answer n) (owned : m.Owned r)
    (foreign : m.foreign = []) (h : m.TimersAgree r) :
    n.TimersAgree (r.note answer m.taken?) := by
  obtain ⟨scheduled, fired, accounted⟩ := id h
  cases booked with
  | plain silent _ _ wrote =>
    rw [DispatchRecord.note_silent silent]
    exact h.wrote wrote scheduled fired
  | dispatched _ _ _ wrote | concluded _ _ _ _ wrote | stale _ wrote | duplicate _ _ wrote
  | dropped _ wrote | closed _ _ wrote => exact h.wrote wrote scheduled fired
  | matched replied _ wrote =>
    rcases replied with rfl | rfl <;> exact h.wrote wrote scheduled fired
  | requested _ wrote | refused _ wrote => exact h.wrote wrote (congrArg (· + 1) scheduled) fired
  | after _ _ wrote =>
    refine h.wrote wrote ?_ fired
    rw [DispatchRecord.note, List.length_append, Nat.add_right_comm, ← scheduled]
    rfl
  | @finished now count below timers _ pass idle _ _ stats left stack =>
    have same : n.table.timers.fired + underway n.stack =
        m.table.timers.fired + underway m.stack := by
      rw [left, stack, pass, ← TimerQueue.fired_popDue idle]
      exact Nat.add_assoc _ _ _
    refine ⟨?_, ?_, ?_⟩
    · rw [stats, left]
      exact (TimerQueue.liveIds_popDue_none idle).2.trans scheduled
    · rw [same, stats]
      exact fired
    · have rest := accounted.popDue_none idle
      rw [same, left]
      exact rest
  | expired pass due _ _ stats left stack =>
    have begun : (r.note (.fired : DispatchAnswer η) m.taken?).begun = r.begun := by
      rw [taken?_expiry pass due]
      exact List.append_nil _
    refine h.taken pass due left (by rw [stack]; rfl) rfl (by rw [stats]; rfl) ?_
    rw [begun, stats]
    exact (Nat.add_assoc _ _ _).symm
  | @began now count below j payload timers _ pass due _ _ stats left stack =>
    -- Nobody else puts timers into the queue.
    have given : j ∈ r.afters := by
      have either := (owned.kind (TimerQueue.popDue_some due).1).mp rfl
      rw [foreign] at either
      exact either.resolve_right List.not_mem_nil
    have begun : (r.note (.fired : DispatchAnswer η) m.taken?).begun.length = r.begun.length + 1 := by
      rw [taken?_other pass due]
      simp [DispatchRecord.note, given]
    refine h.taken pass due (left ▸ .refl _) (by rw [stack, pass]; rfl) rfl
      (congrArg CallStats.registered stats) ?_
    rw [begun, stats]
    exact Nat.add_right_comm _ _ _

theorem Owned.size_eq (owned : m.Owned r) (numbered : m.table.timers.Numbered)
    (foreign : m.foreign = []) : m.table.timers.size =
      m.table.expiries + r.afters.countP (m.table.timers.isScheduled ·) := by
  let live := m.table.timers.schedule.live
  let others := live.filter (!·.2.isExpiry)
  have nodup : (others.map (·.1)).Nodup := numbered.nodup.sublist (List.filter_sublist.map _)
  have members : (others.map (·.1)).Perm (r.afters.filter (m.table.timers.isScheduled ·)) := by
    refine (List.perm_ext_iff_of_nodup nodup (owned.nodup.filter _)).mpr fun j => ?_
    rw [List.mem_filter, ← TimerQueue.mem_liveIds]
    constructor
    · intro member
      obtain ⟨⟨j, payload⟩, entry, rfl⟩ := List.mem_map.mp member
      obtain ⟨entry, other⟩ := List.mem_filter.mp entry
      have alive : m.table.timers.live? j = some payload :=
        (Schedule.find?_eq_some_iff_mem numbered.nodup).mpr entry
      have either := (owned.kind alive).mp (by simpa using other)
      rw [foreign] at either
      exact ⟨either.resolve_right List.not_mem_nil, List.mem_map_of_mem entry⟩
    · rintro ⟨given, listed⟩
      obtain ⟨⟨j, payload⟩, entry, rfl⟩ := List.mem_map.mp listed
      have alive : m.table.timers.live? j = some payload :=
        (Schedule.find?_eq_some_iff_mem numbered.nodup).mpr entry
      have other := (owned.kind alive).mpr (.inl given)
      exact List.mem_map.mpr ⟨(j, payload), List.mem_filter.mpr ⟨entry, by simp [other]⟩, rfl⟩
  have own : m.table.expiries = live.countP (·.2.isExpiry) := rfl
  have size : m.table.timers.size = live.length := rfl
  have both := List.length_eq_countP_add_countP (fun t => t.2.isExpiry) (l := live)
  have rest := members.length_eq
  rw [List.length_map, ← List.countP_eq_length_filter, ← List.countP_eq_length_filter] at rest
  simp only [Bool.not_eq_true, Bool.decide_eq_false] at both
  rw [size, both, own, ← rest]

theorem act_moves (h : m.bare.Coherent) (makes : a.move? = some move) :
    ∃ (c : CallMachine β) (inner : List (CallMove β)), m.bare.Alike c ∧
      (inner = [] ∨ inner = m.callMoves move ∧ (c.InCode ∨ move = .advance)) ∧
      (c.run inner).Alike (m.act a).bare := by
  have coherent {c : CallMachine β} (same : m.bare.Alike c) : c.Coherent := same.coherent h
  cases a with
  | move _ =>
    cases makes
    by_cases possible : m.InCode ∨ move = .advance
    · refine ⟨m.calls, m.callMoves move, ⟨rfl, rfl⟩, .inr ⟨rfl, possible.imp_left calls_inCode⟩, ?_⟩
      rw [← step_calls (coherent ⟨rfl, rfl⟩)]
      exact bare_calls _
    · obtain ⟨passing, other⟩ := not_or.mp possible
      have same : m.act (.move move) = m := congrArg Prod.snd (step_of_not_inCode passing other)
      exact ⟨m.bare, [], ⟨rfl, rfl⟩, .inl rfl, by rw [same]; exact ⟨rfl, rfl⟩⟩
  | hook _ =>
    cases makes
    by_cases leaves : move = .leave
    · subst leaves
      exact ⟨m.bare, [], ⟨rfl, rfl⟩, .inl rfl, ⟨rfl, rfl⟩⟩
    · have code : m.idle.InCode := inCode_of_nil rfl
      refine ⟨m.idle.calls, m.idle.callMoves move, ⟨rfl, rfl⟩,
        .inr ⟨by cases move <;> rfl, .inl (calls_inCode code)⟩, ?_⟩
      have inner := operate_calls (m := m.idle) (coherent ⟨rfl, rfl⟩) code leaves
      rw [← inner]
      exact operate_idle m move
  | table | look | heed => cases makes

theorem act_pending (h : m.bare.Coherent) (own : a.isOwn = true) {id : CorrelationId}
    (other : a.issued? ≠ some id) (past : m.table.isPending id = false) :
    (m.act a).table.isPending id = false := by
  cases makes : a.move? with
  | none =>
    cases a with
    | move | hook => cases makes
    | table => cases own
    | look | heed => exact past
  | some move =>
    obtain ⟨c, inner, before, which, after⟩ := act_moves h makes
    have others (timeout : Nanos) (info : CallInfo) : .register id timeout info ∉ inner := by
      rcases which with rfl | ⟨rfl, -⟩
      · exact List.not_mem_nil
      · refine register_not_mem_callMoves (fun issued => other ?_) timeout info
        rw [HolderAct.issued?, makes]
        exact issued
    refine isPending_eq_false_iff.mpr (Option.eq_none_iff_forall_ne_some.mpr fun call found => ?_)
    have entry : (c.run inner).table.find? id = some call := by rw [← after.table]; exact found
    have old := (before.coherent h).old_entry others entry
    rw [before.table] at old
    exact absurd (old.symm.trans (isPending_eq_false_iff.mp past)) nofun

theorem Booking.duplicates (booked : Booking m move answer n)
    (fresh : ∀ id, move.issued? = some id → m.table.isPending id = false) :
    n.table.stats.duplicates = m.table.stats.duplicates := by
  have counted {s : CallStats} (stats : n.table.stats = s)
      (same : s.duplicates = m.table.stats.duplicates) :
      n.table.stats.duplicates = m.table.stats.duplicates := by
    rw [stats, same]
  cases booked with
  | plain _ _ _ wrote | dispatched _ _ _ wrote | concluded _ _ _ _ wrote | stale _ wrote
  | requested _ wrote | refused _ wrote | dropped _ wrote | after _ _ wrote | closed _ _ wrote =>
    exact counted wrote.stats rfl
  | matched replied _ wrote => rcases replied with rfl | rfl <;> exact counted wrote.stats rfl
  | @duplicate id _ _ _ _ _ pending => exact absurd pending (by rw [fresh id rfl]; nofun)
  | finished _ _ _ _ stats | expired _ _ _ _ stats | began _ _ _ _ stats => exact counted stats rfl

theorem acts_duplicates (h : m.bare.Coherent) {as : List (HolderAct β)}
    (own : ∀ a ∈ as, a.isOwn = true) (distinct : (as.filterMap HolderAct.issued?).Nodup)
    (fresh : ∀ id ∈ as.filterMap HolderAct.issued?, m.table.isPending id = false) :
    (m.acts as).table.stats.duplicates = m.table.stats.duplicates := by
  induction as generalizing m with
  | nil => rfl
  | cons a as ih =>
    have first := own a List.mem_cons_self
    obtain ⟨move, same, booked⟩ := own_booking h first
    have once : (m.act a).table.stats.duplicates = m.table.stats.duplicates := by
      refine booked.duplicates fun id issued => fresh id ?_
      exact List.mem_filterMap.mpr ⟨a, List.mem_cons_self, same ▸ issued⟩
    refine (ih (act_coherent h a) (fun b later => own b (List.mem_cons_of_mem _ later)) ?_ ?_).trans once
    · refine distinct.sublist ?_
      exact (List.sublist_cons_self a as).filterMap _
    · intro id later
      refine act_pending h first (fun issued => ?_) (fresh id ?_)
      · rw [List.filterMap_cons_some issued] at distinct
        exact (List.nodup_cons.mp distinct).1 later
      · exact ((List.sublist_cons_self a as).filterMap _).subset later

theorem spares_callMoves {c : CallMachine β} (same : c.table = m.table)
    (possible : c.InCode ∨ move = .advance)
    (spared : ∀ j, move = .cancelTimer j → ∀ id, m.table.timers.live? j ≠ some (.expiry id)) :
    c.SparesAll (m.callMoves move) := by
  cases move with
  | cancelTimer j =>
    refine ⟨fun id => ?_, trivial⟩
    rw [same]
    exact spared j rfl id
  | shutdown =>
    refine ⟨trivial, ?_, trivial⟩
    have code : c.InCode := possible.resolve_right nofun
    have closed := calls_failAll .cancelled { c.table with closed := true }
    change (c.step .close).2.table.pendingCount = 0
    rw [CallMachine.step_inCode code (by simp)]
    exact congrArg List.length closed
  | inbound sender message =>
    simp only [callMoves, Message.callMove?]
    split <;> first | exact trivial | exact ⟨trivial, trivial⟩
  | request id target typeName payload timeout =>
    refine ⟨trivial, ?_⟩
    split
    · exact ⟨trivial, trivial, trivial⟩
    · exact trivial
  | network | reply | conclude | sendReply | notify => exact trivial
  | elapse | poll | drop | after | enter | advance | leave => exact ⟨trivial, trivial⟩

theorem act_timed (h : m.bare.Coherent) (own : a.isOwn = true) (timed : Timed m.table)
    (spared : ∀ j ∈ a.cancelled?, ∀ id, m.table.timers.live? j ≠ some (.expiry id)) :
    Timed (m.act a).table := by
  cases makes : a.move? with
  | none =>
    cases a with
    | move | hook => cases makes
    | table => cases own
    | look | heed => exact timed
  | some move =>
    obtain ⟨c, inner, before, which, after⟩ := act_moves h makes
    have spares : c.SparesAll inner := by
      rcases which with rfl | ⟨rfl, possible⟩
      · exact trivial
      · refine spares_callMoves before.table possible fun j cancels => spared j ?_
        subst cancels
        cases a <;> cases makes <;> rfl
    have start : Timed c.table := by rw [before.table]; exact timed
    change Timed (m.act a).bare.table
    rw [after.table]
    exact CallMachine.run_timed (before.coherent h) start spares

/-- Only timers that `after` gave are cancelled through the dispatcher. -/
def Handled (r : DispatchRecord) (m : DispatchMachine η β) : List (HolderAct β) → Prop
  | [] => True
  | a :: as => (∀ j ∈ a.cancelled?, j ∈ r.afters) ∧ Handled (r.note (m.answer a) m.taken?) (m.act a) as

instance Handled.decidable (r : DispatchRecord) (m : DispatchMachine η β) :
    (as : List (HolderAct β)) → Decidable (Handled r m as)
  | [] => .isTrue trivial
  | a :: as =>
    have := Handled.decidable (r.note (m.answer a) m.taken?) (m.act a) as
    inferInstanceAs (Decidable (_ ∧ _))

structure Kept (m : DispatchMachine η β) (r : DispatchRecord) : Prop where
  coherent : m.bare.Coherent
  owned : m.Owned r
  foreign : m.foreign = []
  calls : CallsAgree m.site.dispatcher.counters m.table.stats r
  timers : m.TimersAgree r

theorem Kept.fresh (name : PeerName) (registry : Registry η) (defaultTimeout : Nanos)
    (network : Network) :
    (DispatchMachine.fresh name registry defaultTimeout network : DispatchMachine η β).Kept {} where
  coherent := bare_fresh name registry defaultTimeout network
  owned := .fresh name registry defaultTimeout network
  foreign := rfl
  calls := ⟨rfl, rfl, rfl⟩
  timers := ⟨rfl, rfl, rfl⟩

theorem Kept.act (h : m.Kept r) (own : a.isOwn = true) :
    (m.act a).Kept (r.note (m.answer a) m.taken?) := by
  obtain ⟨move, -, booked⟩ := own_booking h.coherent own
  obtain ⟨told, wrote⟩ := booked.told
  exact ⟨act_coherent h.coherent a, h.owned.act h.coherent a, wrote.foreign.trans h.foreign,
    booked.callsAgree m.taken? h.calls, booked.timersAgree h.owned h.foreign h.timers⟩

theorem Kept.acts (h : m.Kept r) {as : List (HolderAct β)} (own : ∀ a ∈ as, a.isOwn = true) :
    (m.acts as).Kept (record r m as) := by
  induction as generalizing m r with
  | nil => exact h
  | cons a as ih =>
    exact ih (h.act (own a List.mem_cons_self)) fun b later => own b (List.mem_cons_of_mem _ later)

theorem Kept.timed (h : m.Kept r) (timed : Timed m.table) {as : List (HolderAct β)}
    (own : ∀ a ∈ as, a.isOwn = true) (handled : Handled r m as) : Timed (m.acts as).table := by
  induction as generalizing m r with
  | nil => exact timed
  | cons a as ih =>
    have first := own a List.mem_cons_self
    have next : Timed (m.act a).table := by
      refine act_timed h.coherent first timed fun j cancels id alive => ?_
      exact absurd ((h.owned.kind alive).mpr (.inl (handled.1 j cancels))) nofun
    change Timed ((m.act a).acts as).table
    exact ih (h.act first) next (fun b later => own b (List.mem_cons_of_mem _ later)) handled.2

/-- Where a table and its timers are used only through the dispatcher and the replies that it gives:
whenever no pass is under way, what the dispatcher, the table and the queue have counted agrees, up to
the calls that a shutdown has ended, the requests that the network refused and the timers of `after`.
A timer of a call has no handle that is given to anybody, so what is cancelled is from `after`. -/
theorem accounts_agree (name : PeerName) (registry : Registry η) (defaultTimeout : Nanos)
    (network : Network) (as : List (HolderAct β)) (own : ∀ a ∈ as, a.isOwn = true)
    (idle : ((fresh name registry defaultTimeout network : DispatchMachine η β).acts as).stack = []) :
    let start : DispatchMachine η β := fresh name registry defaultTimeout network
    let m := start.acts as
    let r := record {} start as
    let s := m.site.dispatcher.stats
    s.counters.staleResponses = s.pending.stale ∧
    s.counters.responsesMatched + r.closed = s.pending.completed + s.pending.failed ∧
    s.pending.registered = s.counters.requestsSent + r.refused ∧
    ((as.filterMap HolderAct.issued?).Nodup → s.pending.duplicates = 0) ∧
    s.timers.fired = r.begun.length + s.pending.timedOut ∧
    s.timers.scheduled = r.afters.length + s.pending.registered ∧
    (Handled {} start as →
      s.timers.live = s.pending.pending + r.afters.countP (m.table.timers.isScheduled ·)) := by
  intro start m r s
  have first : start.Kept {} := .fresh name registry defaultTimeout network
  have kept : m.Kept r := first.acts own
  have none : underway m.stack = 0 := congrArg underway idle
  have fired : m.table.timers.fired = r.begun.length + m.table.stats.timedOut := by
    rw [← kept.timers.fired, none, Nat.add_zero]
  have issued : m.table.timers.issued =
      m.table.timers.cancelled + m.table.timers.size + m.table.timers.fired := by
    have all := kept.timers.accounted
    rw [none, Nat.add_zero] at all
    exact all
  refine ⟨kept.calls.stale, kept.calls.settled, kept.calls.registered, fun distinct => ?_, fired, ?_,
    fun handled => ?_⟩
  · exact acts_duplicates first.coherent own distinct fun _ _ => rfl
  · change m.table.timers.fired + m.table.timers.cancelled + m.table.timers.size =
      r.afters.length + m.table.stats.registered
    rw [← kept.timers.scheduled, issued]
    omega
  · have timed : Timed m.table := first.timed (fun found => by cases found) own handled
    have table : m.table.Coherent := kept.coherent.table
    change m.table.timers.size =
      m.table.pendingCount + r.afters.countP (m.table.timers.isScheduled ·)
    rw [kept.owned.size_eq table.numbered kept.foreign, (table.paired timed).expiries_eq table]

def busy : List (HolderAct Nat) :=
  [.move (.request (.fresh 0) "B" "Ask" .null 9), .move (.request (.fresh 1) "B" "Ask" .null 5),
    .move (.request (.fresh 2) "C" "Ask" .null 9), .move (.request (.fresh 3) "B" "Ask" .null 9),
    .move (.request (.fresh 4) "B" "Ask" .null 9), .move (.drop 3),
    .move (.inbound "B" (.reply (.fresh 0) "Told" .null)),
    .move (.inbound "B" (.reply (.fresh 0) "Told" .null)), .move (.after 4 1), .move (.after 8 2),
    .move (.after 8 3), .move (.cancelTimer 6), .look, .move (.enter 6), .move .advance,
    .move .leave, .move .advance, .move .advance]

theorem accounts_agree_busy :
    let network : Network := { lanes := #[{}], peers := [("B", 0)] }
    let start : DispatchMachine Empty Nat := fresh "A" {} 0 network
    let s := (start.acts busy).site.dispatcher.stats
    let last := (start.acts (busy ++ [.move .shutdown])).site.dispatcher.stats
    s.pending.registered = 4 + 1 ∧ s.pending.duplicates = 0 ∧ s.timers.fired = 1 + 1 ∧
      s.timers.scheduled = 3 + 5 ∧ s.timers.live = 1 + 1 ∧
      last.pending.completed + last.pending.failed = 1 + 1 := by
  intro network start s last
  obtain ⟨-, -, registered, distinct, fired, scheduled, live⟩ :=
    accounts_agree (η := Empty) "A" {} 0 network busy (by decide) (by decide)
  obtain ⟨-, settled, -⟩ :=
    accounts_agree (η := Empty) "A" {} 0 network (busy ++ [.move .shutdown]) (by decide) (by decide)
  simp only [s, last, start]
  exact ⟨registered.trans (by decide), distinct (by decide), fired.trans (by decide),
    scheduled.trans (by decide), (live (by decide)).trans (by decide),
    settled.symm.trans (by decide)⟩

/-- A handle is looked up by its number alone, so one that another dispatcher gave takes away the timer
of a call here. And of a call that is registered with the table that it shows, a dispatcher has not sent
the request. -/
theorem accounts_disagree_on_strangers :
    let network : Network := { lanes := #[{}], peers := [("B", 0)] }
    let start (name : PeerName) : DispatchMachine Empty Nat := fresh name {} 0 network
    (∃ handle, ((start "C").step (.after 9 1)).1 = .handle handle ∧
      let as : List (HolderAct Nat) :=
        [.move (.request (.fresh 0) "B" "Ask" .null 9), .move (.cancelTimer handle.id)]
      let m := (start "A").acts as
      let r := record {} (start "A") as
      let s := m.site.dispatcher.stats
      (∀ a ∈ as, a.isOwn = true) ∧ m.stack = [] ∧
        s.timers.live ≠ s.pending.pending + r.afters.countP (m.table.timers.isScheduled ·)) ∧
    let as : List (HolderAct Nat) := [.table (.register (.fresh 0) 9 {})]
    let s := ((start "A").acts as).site.dispatcher.stats
    s.pending.registered ≠ s.counters.requestsSent + (record {} (start "A") as).refused := by
  refine ⟨⟨⟨0, 9⟩, rfl, by decide, rfl, ?_⟩, ?_⟩
  · decide
  · decide

end DispatchMachine

end MessageRelay
