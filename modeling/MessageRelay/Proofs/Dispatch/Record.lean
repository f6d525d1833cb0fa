import MessageRelay.Proofs.Dispatch.Bookings
import MessageRelay.Proofs.Dispatch.Holder

/-!
What those who hold a dispatcher are told of its calls and timers. The answers along a run are the
other half of the books: a timer that carries something was given out by `after`, or somebody else put
it into the queue, and never both; so it is known of every callback that starts whose it is.
-/
namespace MessageRelay

/-- What was told along a run: the timers that `after` gave and those whose callback began, the requests
that the network refused, and the calls that a shutdown ended. -/
structure DispatchRecord where
  afters : List TimerId := []
  begun : List TimerId := []
  refused : Nat := 0
  closed : Nat := 0

namespace DispatchRecord

variable {η : Type}

def note (answer : DispatchAnswer η) (taken? : Option TimerId) (r : DispatchRecord) :
    DispatchRecord :=
  match answer with
  | .handle handle => { r with afters := r.afters ++ [handle.id] }
  | .requested (.error (.transport _)) => { r with refused := r.refused + 1 }
  | .count k => { r with closed := r.closed + k }
  | .fired => { r with begun := r.begun ++ (taken?.filter (· ∈ r.afters)).toList }
  | _ => r

theorem note_silent {answer : DispatchAnswer η} (silent : answer.isSilent = true)
    (taken? : Option TimerId) (r : DispatchRecord) : r.note answer taken? = r := by
  unfold note
  split <;> first | rfl | cases silent

end DispatchRecord

def HolderAct.move? {β : Type} : HolderAct β → Option (DispatchMove β)
  | .move made | .hook made => some made
  | .table _ | .look | .heed => none

namespace DispatchMachine

open CallTable TimerQueue

variable {η β : Type} {m n : DispatchMachine η β} {r r' : DispatchRecord}

def answer (m : DispatchMachine η β) : HolderAct β → DispatchAnswer η
  | .move move => (m.step move).1
  | .hook move => (m.operate move).1
  | .table _ | .look | .heed => .done

def taken? (m : DispatchMachine η β) : Option TimerId :=
  match m.stack with
  | .pass now _ :: _ =>
    match (m.table.timers.popDue now).1 with
    | some (j, .other _) => some j
    | _ => none
  | _ => none

theorem taken?_expiry {now : Nanos} {count : Nat} {below : List (DispatchFrame β)} {j : TimerId}
    {id : CorrelationId} {timers : TimerQueue (CallTimer β)}
    (pass : m.stack = .pass now count :: below)
    (due : m.table.timers.popDue now = (some (j, .expiry id), timers)) : m.taken? = none := by
  simp only [taken?, pass, due]

theorem taken?_other {now : Nanos} {count : Nat} {below : List (DispatchFrame β)} {j : TimerId}
    {payload : β} {timers : TimerQueue (CallTimer β)} (pass : m.stack = .pass now count :: below)
    (due : m.table.timers.popDue now = (some (j, .other payload), timers)) : m.taken? = some j := by
  simp only [taken?, pass, due]

/-- What is told along a run, after what was told before. -/
def record (r : DispatchRecord) (m : DispatchMachine η β) : List (HolderAct β) → DispatchRecord
  | [] => r
  | a :: as => record (r.note (m.answer a) m.taken?) (m.act a) as

theorem act_booking (h : m.bare.Coherent) {a : HolderAct β} {move : DispatchMove β}
    (makes : a.move? = some move) : Booking m move (m.answer a) (m.act a) := by
  cases a with
  | move _ =>
    cases makes
    exact step_booking h.table move
  | hook _ =>
    cases makes
    exact operate_booking m move
  | table | look | heed => cases makes

theorem onTable_told (h : m.bare.Coherent) (operation : CallMove β) :
    ∃ told, (told = [] ∨ told = [.callTimedOut]) ∧
      (m.onTable operation).2.site.dispatcher.events = m.site.dispatcher.events ++ told ∧
      (m.onTable operation).2.site.dispatcher.counters = m.site.dispatcher.counters ∧
      (m.onTable operation).2.table.stats.timedOut = m.table.stats.timedOut + told.length ∧
      m.SameHandlers (m.onTable operation).2 := by
  have booked := (CallMachine.operate_booked h.table operation).endings .timedOut
  have quiet (other : operation.ending? ≠ some .timedOut) :
      (m.bare.operate operation).2.table.stats.timedOut = m.table.stats.timedOut := by
    rw [if_neg other] at booked
    exact booked
  cases operation with
  | expire id =>
    cases found : m.table.find? id with
    | none =>
      have past : m.bare.table.expire id = (false, m.table) := expire_of_not_pending found
      have same : (m.onTable (.expire id)).2 = m := by
        simp only [onTable, CallMachine.operate, CallMachine.expire, past]
        rfl
      rw [same]
      exact ⟨[], .inl rfl, (List.append_nil _).symm, rfl, rfl, rfl, rfl⟩
    | some call =>
      have ended : m.bare.table.expire id = (true, _) := expire_of_find? found
      simp only [onTable, CallMachine.operate, CallMachine.expire, ended]
      exact ⟨[.callTimedOut], .inr rfl, Dispatcher.events_record _ _, rfl, rfl, rfl, rfl⟩
  | advance => exact ⟨[], .inl rfl, (List.append_nil _).symm, rfl, rfl, rfl, rfl⟩
  | _ => exact ⟨[], .inl rfl, (List.append_nil _).symm, rfl, quiet (by simp [CallMove.ending?]), rfl, rfl⟩

def foreign (m : DispatchMachine η β) : List TimerId := m.site.dispatcher.foreign

/-- A timer is that of a call, or `after` gave it, or others put it into the queue. -/
structure Owned (m : DispatchMachine η β) (r : DispatchRecord) : Prop where
  afters : ∀ j ∈ r.afters, j < m.table.timers.issued
  foreign : ∀ j ∈ m.foreign, j < m.table.timers.issued
  apart : ∀ j ∈ r.afters, j ∉ m.foreign
  nodup : r.afters.Nodup
  kind : ∀ {j payload}, m.table.timers.live? j = some payload →
    (payload.isExpiry = false ↔ j ∈ r.afters ∨ j ∈ m.foreign)

namespace Owned

theorem fresh (name : PeerName) (registry : Registry η) (defaultTimeout : Nanos) (network : Network) :
    (DispatchMachine.fresh name registry defaultTimeout network : DispatchMachine η β).Owned {} where
  afters _ member := by cases member
  foreign _ member := by cases member
  apart _ member := by cases member
  nodup := List.nodup_nil
  kind alive := by cases alive

theorem of_live (h : m.Owned r) (issued : m.table.timers.issued ≤ n.table.timers.issued)
    (live : ∀ {j payload}, n.table.timers.live? j = some payload →
      m.table.timers.live? j = some payload ∨
        (j = m.table.timers.issued ∧ payload.isExpiry = true))
    (foreign : n.foreign = m.foreign) (afters : r'.afters = r.afters) : n.Owned r' := by
  refine ⟨fun j member => ?_, fun j member => ?_, ?_, afters ▸ h.nodup, fun {j payload} alive => ?_⟩
  · exact Nat.lt_of_lt_of_le (h.afters j (afters ▸ member)) issued
  · exact Nat.lt_of_lt_of_le (h.foreign j (foreign ▸ member)) issued
  · rw [afters, foreign]
    exact h.apart
  · rw [afters, foreign]
    rcases live alive with old | ⟨rfl, expires⟩
    · exact h.kind old
    · rw [expires]
      refine ⟨nofun, fun member => ?_⟩
      exact absurd (member.elim (h.afters _) (h.foreign _)) (Nat.lt_irrefl _)

theorem of_calls (h : m.Owned r) (numbered : m.table.timers.Numbered) {added : Option (CallTimer β)}
    (timers : m.table.timers.Rearranged added n.table.timers)
    (call : ∀ payload, added = some payload → payload.isExpiry = true)
    (foreign : n.foreign = m.foreign) (afters : r'.afters = r.afters) : n.Owned r' := by
  refine h.of_live ?_ (fun {j payload} alive => ?_) foreign afters
  · rw [timers.issued]
    exact Nat.le_add_right _ _
  · exact (timers.live numbered alive).imp_right fun new => ⟨new.1, call payload new.2⟩

theorem of_fewer (h : m.Owned r) (numbered : m.table.timers.Numbered)
    (timers : m.table.timers.Rearranged none n.table.timers) (foreign : n.foreign = m.foreign)
    (afters : r'.afters = r.afters) : n.Owned r' :=
  h.of_calls numbered timers (fun _ added => by cases added) foreign afters

theorem of_popDue (h : m.Owned r) (numbered : m.table.timers.Numbered) {now : Nanos}
    {due : Option (TimerId × CallTimer β)} {timers : TimerQueue (CallTimer β)}
    (popped : m.table.timers.popDue now = (due, timers))
    (issued : n.table.timers.issued = timers.issued)
    (live : ∀ {j payload}, n.table.timers.live? j = some payload → timers.live? j = some payload)
    (foreign : n.foreign = m.foreign) (afters : r'.afters = r.afters) : n.Owned r' := by
  obtain ⟨-, same, fewer⟩ := fewer_of_popDue numbered popped
  exact h.of_live (Nat.le_of_eq (same.symm.trans issued.symm)) (fun alive => .inl (fewer (live alive)))
    foreign afters

theorem of_other (h : m.Owned r) (numbered : m.table.timers.Numbered) {payload : β}
    (timers : m.table.timers.Rearranged (some (.other payload)) n.table.timers)
    (either : (r'.afters = r.afters ++ [m.table.timers.issued] ∧ n.foreign = m.foreign) ∨
      (r'.afters = r.afters ∧ n.foreign = m.table.timers.issued :: m.foreign)) : n.Owned r' := by
  have issued : n.table.timers.issued = m.table.timers.issued + 1 := timers.issued
  have past {j : TimerId} : j ∈ r.afters ∨ j ∈ m.foreign → j ≠ m.table.timers.issued :=
    fun member => Nat.ne_of_lt (member.elim (h.afters j) (h.foreign j))
  have known {j : TimerId} : j ∈ r'.afters ∨ j ∈ n.foreign ↔
      (j ∈ r.afters ∨ j ∈ m.foreign) ∨ j = m.table.timers.issued := by
    rcases either with ⟨afters, foreign⟩ | ⟨afters, foreign⟩
    · rw [afters, foreign, List.mem_append, List.mem_singleton]
      tauto
    · rw [afters, foreign, List.mem_cons]
      tauto
  have below {j : TimerId} (member : j ∈ r'.afters ∨ j ∈ n.foreign) : j < n.table.timers.issued := by
    rw [issued]
    rcases known.mp member with old | rfl
    · exact Nat.lt_succ_of_lt (old.elim (h.afters j) (h.foreign j))
    · exact Nat.lt_succ_self _
  refine ⟨fun j member => below (.inl member), fun j member => below (.inr member),
    fun j member other => ?_, ?_, fun {j p} alive => ?_⟩
  · rcases either with ⟨afters, foreign⟩ | ⟨afters, foreign⟩
    · rw [afters, List.mem_append, List.mem_singleton] at member
      rw [foreign] at other
      rcases member with old | rfl
      · exact h.apart j old other
      · exact past (.inr other) rfl
    · rw [afters] at member
      rw [foreign, List.mem_cons] at other
      rcases other with rfl | old
      · exact past (.inl member) rfl
      · exact h.apart j member old
  · rcases either with ⟨afters, -⟩ | ⟨afters, -⟩
    · rw [afters]
      refine List.nodup_append.mpr ⟨h.nodup, List.nodup_singleton _, fun j old k new => ?_⟩
      rw [List.mem_singleton.mp new]
      exact past (.inl old)
    · rw [afters]
      exact h.nodup
  · rw [known]
    rcases timers.live numbered alive with old | ⟨rfl, added⟩
    · have lt : j ≠ m.table.timers.issued := Nat.ne_of_lt (numbered.lt_next old)
      rw [h.kind old]
      tauto
    · cases added
      exact ⟨fun _ => .inr rfl, fun _ => rfl⟩

theorem booking (h : m.Owned r) (numbered : m.table.timers.Numbered) {move : DispatchMove β}
    {answer : DispatchAnswer η} (booked : Booking m move answer n) :
    n.Owned (r.note answer m.taken?) := by
  cases booked with
  | plain silent _ _ wrote =>
    rw [DispatchRecord.note_silent silent]
    exact h.of_fewer numbered wrote.timers wrote.told.foreign rfl
  | dispatched _ _ _ wrote | concluded _ _ _ _ wrote | matched _ _ wrote | stale _ wrote
  | duplicate _ _ wrote | dropped _ wrote | closed _ _ wrote =>
    exact h.of_fewer numbered wrote.timers wrote.told.foreign rfl
  | requested _ wrote | refused _ wrote =>
    exact h.of_calls numbered wrote.timers (fun _ added => by cases added; rfl) wrote.told.foreign rfl
  | after fresh _ wrote =>
    refine h.of_other numbered wrote.timers (.inl ⟨?_, wrote.told.foreign⟩)
    rw [DispatchRecord.note, fresh]
  | finished pass idle _ told _ left =>
    exact h.of_popDue numbered idle (by rw [left]; rfl) (fun alive => by rw [left] at alive; exact alive)
      told.foreign rfl
  | expired pass due _ told _ left =>
    have numbered' := (fewer_of_popDue numbered due).1
    refine h.of_popDue numbered due left.issued (fun alive => ?_) told.foreign rfl
    exact (left.live numbered' alive).resolve_right nofun
  | began pass due _ told _ left =>
    exact h.of_popDue numbered due (by rw [left]) (fun alive => by rw [left] at alive; exact alive)
      told.foreign rfl

theorem table (h : m.Owned r) (numbered : m.table.timers.Numbered) (operation : CallMove β) :
    (m.onTable operation).2.Owned r := by
  have timers := CallMachine.operate_rearranged m.bare operation
  cases operation with
  | schedule delay payload => exact h.of_other numbered timers (.inr ⟨rfl, rfl⟩)
  | register id timeout info =>
    refine h.of_calls numbered timers (fun payload added => ?_) rfl rfl
    unfold CallMove.timer? at added
    split at added
    · cases added
      rfl
    · rename_i other
      cases other
    · cases added
  | expire id =>
    have expired := (takes_expire m.table id).timers
    simp only [onTable]
    split
    · exact h.of_fewer numbered expired rfl rfl
    · rename_i other _
      cases other
    · exact h.of_fewer numbered expired rfl rfl
  | _ => exact h.of_fewer numbered timers rfl rfl

theorem act (h : m.Owned r) (coherent : m.bare.Coherent) (a : HolderAct β) :
    (m.act a).Owned (r.note (m.answer a) m.taken?) := by
  have numbered : m.table.timers.Numbered := coherent.table.numbered
  cases a with
  | move move => exact h.booking numbered (act_booking coherent rfl)
  | hook move => exact h.booking numbered (act_booking coherent rfl)
  | table operation => exact h.table numbered operation
  | look => exact h.of_fewer numbered (.look _) rfl rfl
  | heed => exact h.of_fewer numbered (.heed _) rfl rfl

end Owned

end DispatchMachine

end MessageRelay
