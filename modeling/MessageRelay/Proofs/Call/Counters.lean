import Mathlib.Data.Set.Card
import MessageRelay.Proofs.Call.Machine

/-!
What the counters of a call table count. They are held against a history: the moves that were made,
the answers these gave, and the calls that were pending before a move and no more after it. One move
adds the same to the counters and to the history, whether it is made by a hook in the middle of a
pass or from outside. And since a call that was registered is pending or has ended, they balance.
-/
namespace MessageRelay

inductive Ending where
  | completed
  | failed
  | timedOut
  | cancelled
  deriving DecidableEq

inductive Notice where
  | registered
  | duplicate
  | stale
  deriving DecidableEq

namespace CallStats

def endings (s : CallStats) : Ending → Nat
  | .completed => s.completed
  | .failed => s.failed
  | .timedOut => s.timedOut
  | .cancelled => s.cancelled

def notices (s : CallStats) : Notice → Nat
  | .registered => s.registered
  | .duplicate => s.duplicates
  | .stale => s.stale

def addEnded (k : Nat) (s : CallStats) : Ending → CallStats
  | .completed => { s with completed := s.completed + k }
  | .failed => { s with failed := s.failed + k }
  | .timedOut => { s with timedOut := s.timedOut + k }
  | .cancelled => { s with cancelled := s.cancelled + k }

theorem endings_addEnded (k : Nat) (s : CallStats) (way e : Ending) :
    (s.addEnded k way).endings e = s.endings e + if way = e then k else 0 := by
  cases way <;> cases e <;> rfl

theorem notices_addEnded (k : Nat) (s : CallStats) (way : Ending) (notice : Notice) :
    (s.addEnded k way).notices notice = s.notices notice := by
  cases way <;> cases notice <;> rfl

theorem ended_eq (s : CallStats) :
    s.ended = s.endings .completed + s.endings .failed + s.endings .timedOut +
      s.endings .cancelled := rfl

end CallStats

namespace CallMove

variable {β : Type}

def ending? : CallMove β → Option Ending
  | .resolve _ _ => some .completed
  | .fail _ _ | .failAll _ | .close => some .failed
  | .expire _ | .advance => some .timedOut
  | .cancel _ | .drop _ => some .cancelled
  | _ => none

def notice? : CallMove β → CallAnswer → Option Notice
  | .register _ _ _, .registered (.ok _) => some .registered
  | .register _ _ _, .registered (.error (.duplicateId _)) => some .duplicate
  | .resolve _ _, .flag false => some .stale
  | .fail _ _, .flag false => some .stale
  | _, _ => none

theorem notice?_refused (move : CallMove β) : move.notice? .refused = none := by
  cases move <;> rfl

end CallMove

namespace CallTable

variable {β : Type} {t : CallTable β}

theorem isPending_of_mem {entry : CorrelationId × PendingCall} (member : entry ∈ t.calls) :
    t.isPending entry.1 = true := by
  rw [isPending, find?, Option.isSome_map, List.find?_isSome]
  exact ⟨entry, member, by simp⟩

theorem stats_endAll (e : CallError) (calls : List PendingCall) (t : CallTable β) :
    (endAll e calls t).stats = t.stats := by
  induction calls generalizing t with
  | nil => rfl
  | cons call calls ih => exact ih _

theorem stats_failAll (e : CallError) (t : CallTable β) :
    (t.failAll e).2.stats = t.stats.addEnded t.calls.length .failed := by
  rw [failAll_eq]
  exact stats_endAll e _ t.cleared

theorem calls_failAll (e : CallError) (t : CallTable β) : (t.failAll e).2.calls = [] := by
  rw [failAll_eq]
  exact endAll_calls e _ t.cleared

theorem Coherent.pendingCount_eq (h : Coherent t) :
    t.pendingCount = {id | t.isPending id = true}.ncard := by
  have same : {id | t.isPending id = true} = ((t.calls.map (·.1)).toFinset : Set CorrelationId) := by
    ext id
    rw [Set.mem_ofPred_eq, List.coe_toFinset, Set.mem_ofPred_eq, isPending_iff,
      ← Option.isSome_iff_exists, ← not_iff_not, Bool.not_eq_true, Option.isSome_eq_false_iff,
      Option.isNone_iff_eq_none, find?_eq_none_iff]
  rw [same, Set.ncard_coe_finset, List.toFinset_card_of_nodup h.nodup, List.length_map]
  rfl

end CallTable

namespace CallMachine

open CallTable

variable {β : Type} {m n : CallMachine β} {move : CallMove β} {answer : CallAnswer}

/-- The calls that are pending in `m` and not in `n`. -/
def lost (m n : CallMachine β) : Nat :=
  m.table.calls.countP fun entry => !n.table.isPending entry.1

/-- What a move adds to the counters is what it adds to the history. -/
structure Booked (m : CallMachine β) (move : CallMove β) (answer : CallAnswer)
    (n : CallMachine β) : Prop where
  endings : ∀ e, n.table.stats.endings e =
    m.table.stats.endings e + if move.ending? = some e then m.lost n else 0
  notices : ∀ k, n.table.stats.notices k =
    m.table.stats.notices k + if move.notice? answer = some k then 1 else 0
  spared : move.ending? = none → m.lost n = 0
  pending : n.table.pendingCount + m.lost n =
    m.table.pendingCount + if move.notice? answer = some .registered then 1 else 0

theorem lost_eq_zero (kept : ∀ entry ∈ m.table.calls, n.table.isPending entry.1 = true) :
    m.lost n = 0 :=
  List.countP_eq_zero.mpr fun entry member => by simp [kept entry member]

namespace Booked

theorem of_calls (calls : n.table.calls = m.table.calls)
    (endings : ∀ e, n.table.stats.endings e = m.table.stats.endings e)
    (notices : ∀ k, n.table.stats.notices k =
      m.table.stats.notices k + if move.notice? answer = some k then 1 else 0)
    (known : move.notice? answer ≠ some .registered) : Booked m move answer n := by
  have none : m.lost n = 0 := lost_eq_zero fun entry member => isPending_of_mem (calls ▸ member)
  refine ⟨fun e => ?_, notices, fun _ => none, ?_⟩
  · rw [none, endings, ite_self]
    rfl
  · rw [none, if_neg known, pendingCount, calls]
    rfl

theorem of_kept (calls : n.table.calls = m.table.calls) (stats : n.table.stats = m.table.stats)
    (silent : move.notice? answer = none) : Booked m move answer n :=
  of_calls calls (fun _ => by rw [stats]) (fun _ => by rw [stats, silent]; rfl) (by rw [silent]; simp)

theorem of_refused (silent : move.notice? answer = none) : Booked m move answer m :=
  of_kept rfl rfl silent

theorem of_registering {id : CorrelationId} {timeout : Nanos} {info : CallInfo}
    {reply : PendingReply} (table : n.table = m.table.registering m.now id timeout info) :
    Booked m (.register id timeout info) (.registered (.ok reply)) n := by
  have none : m.lost n = 0 := lost_eq_zero fun entry member => by
    refine isPending_of_mem ?_
    rw [table]
    exact List.mem_cons_of_mem _ member
  refine ⟨fun e => ?_, fun k => ?_, fun _ => none, ?_⟩
  · rw [none, ite_self, table]
    cases e <;> rfl
  · rw [table]
    cases k <;> rfl
  · rw [none, table]
    rfl

variable {t : CallTable β}

theorem lost_of_ending (h : t.Coherent) (calls : t.calls = m.table.calls) {id : CorrelationId}
    {call : PendingCall} {count : CallStats → CallStats} {c : Channel}
    (found : t.find? id = some call) (table : n.table = t.ending id call count c) :
    m.lost n = 1 := by
  have gone (entry : CorrelationId × PendingCall) (member : entry ∈ t.calls) :
      (!n.table.isPending entry.1) = true ↔ (entry.1 == id) = true := by
    rw [table, isPending, find?_ending h, Bool.not_eq_true', beq_iff_eq]
    by_cases same : entry.1 = id
    · simp [same]
    · rw [if_neg same]
      have pending := isPending_of_mem member
      rw [isPending] at pending
      simp [pending, same]
  rw [lost, ← calls, List.countP_congr gone]
  have listed : id ∈ t.calls.map (·.1) := List.mem_map.mpr ⟨_, mem_of_find? found, rfl⟩
  have once := List.count_eq_one_of_mem h.nodup listed
  rwa [List.count, List.countP_map] at once

theorem of_ending (h : t.Coherent) (calls : t.calls = m.table.calls)
    (stats : t.stats = m.table.stats) {id : CorrelationId} {call : PendingCall} {way : Ending}
    {c : Channel} (found : t.find? id = some call) (ends : move.ending? = some way)
    (table : n.table = t.ending id call (·.addEnded 1 way) c)
    (silent : move.notice? answer = none) : Booked m move answer n := by
  have one := lost_of_ending h calls found table
  refine ⟨fun e => ?_, fun k => ?_, fun none => ?_, ?_⟩
  · rw [one, ends, table]
    change (t.stats.addEnded 1 way).endings e = _
    rw [CallStats.endings_addEnded, stats]
    simp
  · rw [silent, table]
    change (t.stats.addEnded 1 way).notices k = _
    rw [CallStats.notices_addEnded, stats]
    rfl
  · rw [ends] at none
    cases none
  · have member : ((id, call) : CorrelationId × PendingCall) ∈ t.calls := mem_of_find? found
    rw [one, silent, table]
    change (t.calls.eraseP (·.1 = id)).length + 1 = m.table.calls.length
    rw [List.length_eraseP_of_mem member (by simp), calls]
    exact Nat.succ_pred_eq_of_pos (List.length_pos_of_mem (calls ▸ member))

theorem of_failAll (calls : t.calls = m.table.calls) (stats : t.stats = m.table.stats)
    {error : CallError} (ends : move.ending? = some .failed) (table : n.table = (t.failAll error).2)
    (silent : move.notice? answer = none) : Booked m move answer n := by
  have all : m.lost n = m.table.calls.length := by
    refine List.countP_eq_length.mpr fun entry _ => ?_
    rw [table, isPending, find?_failAll]
    rfl
  refine ⟨fun e => ?_, fun k => ?_, fun none => ?_, ?_⟩
  · rw [all, ends, table, stats_failAll, CallStats.endings_addEnded, stats, calls]
    simp
  · rw [silent, table, stats_failAll, CallStats.notices_addEnded, stats]
    rfl
  · rw [ends] at none
    cases none
  · rw [all, silent, table, pendingCount, calls_failAll]
    simp [pendingCount]

theorem of_takes (h : t.Coherent) (calls : t.calls = m.table.calls)
    (kept : t.stats = m.table.stats) {id : CorrelationId} {way : Ending}
    {c : PendingCall → Channel} {result : Bool × CallTable β} {stats : CallStats}
    (takes : t.Takes id (·.addEnded 1 way) c stats result) (ends : move.ending? = some way)
    (table : n.table = result.2) (silent : result.1 = true → move.notice? answer = none)
    (past : result = (false, { t with stats := stats }) → Booked m move answer n) :
    Booked m move answer n := by
  cases found : t.find? id with
  | none => exact past (takes.past found)
  | some call =>
    have taken := takes.pending call found
    exact .of_ending h calls kept found ends (table.trans (congrArg Prod.snd taken))
      (silent (congrArg Prod.fst taken))

theorem of_silent (h : t.Coherent) (calls : t.calls = m.table.calls)
    (kept : t.stats = m.table.stats) {id : CorrelationId} {way : Ending}
    {c : PendingCall → Channel} {result : Bool × CallTable β}
    (takes : t.Takes id (·.addEnded 1 way) c t.stats result) (ends : move.ending? = some way)
    (table : n.table = result.2) (silent : move.notice? answer = none) :
    Booked m move answer n := by
  refine .of_takes h calls kept takes ends table (fun _ => silent) fun past => ?_
  rw [past] at table
  exact .of_kept (table ▸ calls) (table ▸ kept) silent

theorem of_reply (h : m.table.Coherent) {id : CorrelationId} {way : Ending}
    {c : PendingCall → Channel} {f : CallTable β → Bool × CallTable β}
    (takes : m.table.Takes id (·.addEnded 1 way) c m.table.countStale.stats (f m.table))
    (ends : move.ending? = some way) (silent : move.notice? (.flag true) = none)
    (stale : move.notice? (.flag false) = some .stale) :
    Booked m move (m.withTable f .flag).1 (m.withTable f .flag).2 := by
  refine .of_takes h rfl rfl takes ends rfl (fun done => ?_) fun past => ?_
  · simp only [withTable, done, silent]
  · simp only [withTable, past]
    exact .of_calls rfl (fun e => by cases e <;> rfl) (fun k => by rw [stale]; cases k <;> rfl)
      (by simp [stale])

end Booked

theorem advance_booked (h : m.table.Coherent) (now : Nanos) (count : Nat)
    (below : List (CallFrame β)) :
    Booked m .advance (m.advance now count below).1 (m.advance now count below).2 := by
  unfold advance
  split
  · exact .of_kept rfl rfl rfl
  · exact .of_kept rfl rfl rfl
  · rename_i j id timers due
    have coherent := (Undisturbed.of_popDue due).coherent h
    refine .of_silent coherent rfl rfl (takes_expire _ id) rfl ?_ rfl
    simp only [expire]
    split <;> rfl

theorem register_booked (m : CallMachine β) (id : CorrelationId) (timeout : Nanos)
    (info : CallInfo) :
    Booked m (.register id timeout info) (m.operate (.register id timeout info)).1
      (m.operate (.register id timeout info)).2 := by
  cases closed : m.table.closed with
  | true =>
    simp only [operate, register_of_closed _ _ _ _ closed]
    exact .of_kept rfl rfl rfl
  | false =>
    cases pending : m.table.isPending id with
    | true =>
      simp only [operate, register_of_pending _ _ _ _ closed pending]
      exact .of_calls rfl (fun e => by cases e <;> rfl) (fun k => by cases k <;> rfl) (by
        simp [CallMove.notice?])
    | false =>
      simp only [operate, register_of_free _ _ _ _ closed pending]
      exact .of_registering rfl

theorem drop_booked (h : m.table.Coherent) (ticket : Ticket) :
    Booked m (.drop ticket) (m.operate (.drop ticket)).1 (m.operate (.drop ticket)).2 := by
  simp only [operate]
  split
  · exact .of_refused rfl
  · rename_i r _
    cases settled : r.settled with
    | true =>
      have same : m.table.drop r = m.table := by simp [CallTable.drop, settled]
      exact .of_kept (congrArg calls same) (congrArg stats same) rfl
    | false =>
      exact .of_silent h rfl rfl (takes_cancel _ r.id) rfl (by simp [CallTable.drop, settled]) rfl

theorem poll_booked (m : CallMachine β) (ticket : Ticket) :
    Booked m (.poll ticket) (m.operate (.poll ticket)).1 (m.operate (.poll ticket)).2 := by
  simp only [operate]
  split
  · exact .of_refused rfl
  · split
    · exact .of_refused rfl
    · exact .of_kept rfl rfl rfl

theorem operate_booked (h : m.table.Coherent) (move : CallMove β) :
    Booked m move (m.operate move).1 (m.operate move).2 := by
  cases move with
  | register id timeout info => exact register_booked m id timeout info
  | resolve id reply => exact .of_reply h (takes_resolve _ id reply) rfl rfl rfl
  | fail id e => exact .of_reply h (takes_fail _ id e) rfl rfl rfl
  | expire id => exact .of_silent h rfl rfl (takes_expire _ id) rfl rfl rfl
  | cancel id => exact .of_silent h rfl rfl (takes_cancel _ id) rfl rfl rfl
  | failAll e => exact .of_failAll rfl rfl rfl rfl rfl
  | close => exact .of_failAll (t := { m.table with closed := true }) rfl rfl rfl rfl rfl
  | poll ticket => exact poll_booked m ticket
  | drop ticket => exact drop_booked h ticket
  | elapse | setHook | schedule | cancelTimer | clearTimers | enter | advance | leave =>
    exact .of_kept rfl rfl rfl

theorem step_booked (h : m.table.Coherent) (move : CallMove β) :
    Booked m move (m.step move).1 (m.step move).2 := by
  unfold step
  split
  · exact advance_booked h _ _ _
  · exact .of_refused (CallMove.notice?_refused _)
  · exact .of_kept rfl rfl rfl
  · exact .of_kept rfl rfl rfl
  · exact operate_booked h _

/-- What the moves of a run add up to, each with its weight in the state where it is made. -/
def tally (weight : CallMachine β → CallMove β → Nat) (m : CallMachine β) :
    List (CallMove β) → Nat
  | [] => 0
  | move :: moves => weight m move + tally weight (m.step move).2 moves

/-- A count to which each move adds its weight is that of the whole run. -/
theorem run_tally (count : CallMachine β → Nat) {weight : CallMachine β → CallMove β → Nat}
    (each : ∀ m : CallMachine β, m.Coherent → ∀ move,
      count (m.step move).2 = count m + weight m move)
    (h : m.Coherent) (moves : List (CallMove β)) :
    count (m.run moves) = count m + tally weight m moves := by
  induction moves generalizing m with
  | nil => rfl
  | cons move moves ih =>
    rw [run_cons, ih (h.step move), each m h move, tally, Nat.add_assoc]

/-- The calls that a move ends in this way. -/
def endedAs (e : Ending) (m : CallMachine β) (move : CallMove β) : Nat :=
  if move.ending? = some e then m.lost (m.step move).2 else 0

def noticed (k : Notice) (m : CallMachine β) (move : CallMove β) : Nat :=
  if move.notice? (m.step move).1 = some k then 1 else 0

theorem run_endings (h : m.Coherent) (moves : List (CallMove β)) (e : Ending) :
    (m.run moves).table.stats.endings e =
      m.table.stats.endings e + tally (endedAs e) m moves :=
  run_tally (fun m => m.table.stats.endings e)
    (fun _ h move => (step_booked h.table move).endings e) h moves

theorem run_notices (h : m.Coherent) (moves : List (CallMove β)) (k : Notice) :
    (m.run moves).table.stats.notices k = m.table.stats.notices k + tally (noticed k) m moves :=
  run_tally (fun m => m.table.stats.notices k)
    (fun _ h move => (step_booked h.table move).notices k) h moves

theorem Booked.ended (booked : Booked m move answer n) :
    n.table.stats.ended = m.table.stats.ended + m.lost n := by
  have endings := booked.endings
  rw [CallStats.ended_eq, CallStats.ended_eq, endings, endings, endings, endings]
  cases ends : move.ending? with
  | none => simp [booked.spared ends]
  | some way => cases way <;> simp <;> omega

def Balanced (m : CallMachine β) : Prop :=
  m.table.stats.registered = m.table.stats.ended + m.table.pendingCount

theorem Balanced.step (h : m.table.Coherent) (balanced : m.Balanced) (move : CallMove β) :
    (m.step move).2.Balanced := by
  have booked := step_booked h move
  have ended := booked.ended
  have pending := booked.pending
  have registered := booked.notices .registered
  simp only [CallStats.notices] at registered
  unfold Balanced at balanced ⊢
  omega

theorem Balanced.run (h : m.Coherent) (balanced : m.Balanced) (moves : List (CallMove β)) :
    (m.run moves).Balanced := by
  induction moves generalizing m with
  | nil => exact balanced
  | cons move moves ih => exact ih (h.step move) (balanced.step h.table move)

/-- In every state of every run, those in the middle of a pass and in a hook included: the calls that
were registered are those that have ended and those that are pending; and each counter is the number
of moves, or of calls that moves of its kind took out, that it stands for. -/
theorem counters_balance (moves : List (CallMove β)) :
    let m : CallMachine β := run {} moves
    let s := m.table.currentStats
    s.registered = s.completed + s.failed + s.timedOut + s.cancelled + s.pending ∧
    s.pending = {id | m.table.isPending id = true}.ncard ∧
    s.registered = tally (noticed .registered) {} moves ∧
    s.completed = tally (endedAs .completed) {} moves ∧
    s.failed = tally (endedAs .failed) {} moves ∧
    s.timedOut = tally (endedAs .timedOut) {} moves ∧
    s.cancelled = tally (endedAs .cancelled) {} moves ∧
    s.stale = tally (noticed .stale) {} moves ∧
    s.duplicates = tally (noticed .duplicate) {} moves := by
  intro m s
  have coherent : m.Coherent := Coherent.empty.run moves
  have balanced : m.Balanced := Balanced.run .empty rfl moves
  have endings (e : Ending) : m.table.stats.endings e = tally (endedAs e) {} moves := by
    rw [run_endings .empty moves e]
    cases e <;> exact Nat.zero_add _
  have notices (k : Notice) : m.table.stats.notices k = tally (noticed k) {} moves := by
    rw [run_notices .empty moves k]
    cases k <;> exact Nat.zero_add _
  exact ⟨balanced, coherent.table.pendingCount_eq, notices .registered, endings .completed,
    endings .failed, endings .timedOut, endings .cancelled, notices .stale, notices .duplicate⟩

example :
    let m : CallMachine Empty := run {} [.setHook, .register default 5 {}, .register default 7 {},
      .enter 5, .advance, .register default 9 {}, .resolve default ⟨"", .null⟩,
      .resolve default ⟨"", .null⟩, .close, .register default 5 {}]
    m.stack.length = 2 ∧ m.table.currentStats =
      { registered := 2, completed := 1, timedOut := 1, stale := 1, duplicates := 1 } := by
  decide

end CallMachine

end MessageRelay
