import MessageRelay.Proofs.Timer.Machine
import MessageRelay.Timer.Driver

/-!
The driver does not oversleep. Scheduling compares with the timers that are live, not with the deadline
the driver sleeps on, and timers are taken out in between. So what is kept up is a comparison of
queues: as long as no signal is there, each live timer is due no earlier than one that was live
before. The driver sleeps on the first of those it saw, and the comparison is transitive.
-/
namespace MessageRelay

variable {α : Type}

namespace TimerQueue

variable {q r : TimerQueue α}

/-- What came up from `q` to `r` came up behind a timer that was live, or with a signal. -/
structure Heralded (q r : TimerQueue α) : Prop where
  aligned : r.Aligned
  quiet : r.rearm = false → q.rearm = false
  behind : r.rearm = false → ∀ t ∈ r.agenda.timers, ∃ u ∈ q.agenda.timers, u.fireAt ≤ t.fireAt

namespace Heralded

theorem of_subset (aligned : r.Aligned) (signal : r.rearm = q.rearm)
    (subset : ∀ t ∈ r.agenda.timers, t ∈ q.agenda.timers) : Heralded q r :=
  ⟨aligned, fun quiet => signal ▸ quiet, fun _ t member => ⟨t, subset t member, Nat.le_refl _⟩⟩

theorem refl (h : q.Aligned) : Heralded q q := of_subset h rfl fun _ member => member

end Heralded

theorem nextDeadline_eq (q : TimerQueue α) : q.nextDeadline.1 = q.agenda.nextDeadline :=
  Schedule.nextDeadline_eq q.schedule

theorem Aligned.first_eq_some_iff (h : q.Aligned) {deadline : Nanos} :
    q.nextDeadline.1 = some deadline ↔
      (∃ t ∈ q.agenda.timers, t.fireAt = deadline) ∧
        ∀ t ∈ q.agenda.timers, deadline ≤ t.fireAt := by
  rw [nextDeadline_eq]
  exact (Schedule.Aligned.ordered h).nextDeadline_eq_some_iff

theorem first_eq_none_iff : q.nextDeadline.1 = none ↔ q.agenda.timers = [] := by
  rw [nextDeadline_eq, Agenda.nextDeadline, Option.map_eq_none_iff, List.head?_eq_none_iff]

theorem Aligned.heralded_nextDeadline (h : q.Aligned) : Heralded q q.nextDeadline.2 :=
  .of_subset h.nextDeadline rfl fun t member => by rwa [agenda_nextDeadline] at member

theorem Aligned.heralded_scheduleAt (h : q.Aligned) (deadline : Nanos) (payload : α) :
    Heralded q (q.scheduleAt deadline payload).2 := by
  obtain ⟨aligned, agenda⟩ := h.scheduleAt deadline payload
  have signal : (q.scheduleAt deadline payload).2.rearm =
      (q.rearm || q.nextDeadline.1.all fun earliest => decide (deadline < earliest)) := rfl
  refine ⟨aligned, fun silent => ?_, fun silent t member => ?_⟩
  · rw [signal, Bool.or_eq_false_iff] at silent
    exact silent.1
  · rw [signal, Bool.or_eq_false_iff] at silent
    rw [agenda] at member
    rcases (Agenda.mem_insert _ _ _ _).mp member with old | rfl
    · exact ⟨t, old, Nat.le_refl _⟩
    · cases first : q.nextDeadline.1 with
      | none => simp [first] at silent
      | some earliest =>
        obtain ⟨u, live, rfl⟩ := (h.first_eq_some_iff.mp first).1
        refine ⟨u, live, Nat.le_of_not_lt ?_⟩
        simpa [first] using silent.2

theorem Aligned.heralded_cancel (h : q.Aligned) (id : TimerId) : Heralded q (q.cancel id).2 := by
  obtain ⟨aligned, agenda⟩ := h.cancel id
  refine .of_subset aligned rfl fun t member => ?_
  rw [agenda] at member
  exact List.mem_of_mem_filter member

theorem Aligned.heralded_clear (h : q.Aligned) : Heralded q q.clear.2 := by
  obtain ⟨aligned, agenda⟩ := h.clear
  refine .of_subset aligned rfl fun t member => ?_
  rw [agenda] at member
  exact absurd member List.not_mem_nil

theorem Aligned.heralded_popDue (h : q.Aligned) (now : Nanos) : Heralded q (q.popDue now).2 := by
  obtain ⟨aligned, -, agenda⟩ := h.popDue now
  refine .of_subset aligned rfl fun t member => ?_
  rw [agenda] at member
  rcases (Schedule.Aligned.ordered h).popDue_cases now with ⟨u, -, -, -, rest⟩ | ⟨-, same⟩
  · exact ((rest t).mp member).1
  · have same : q.agenda.popDue now = (none, q.agenda) := same
    rwa [same] at member

end TimerQueue

open TimerQueue (Heralded)

theorem TimerMachine.step_heralded {m : TimerMachine α} (h : m.queue.Aligned)
    (move : TimerMove α) : Heralded m.queue (m.step move).2.queue := by
  rcases m.inCode_or_pass with code | ⟨now, count, below, pass⟩
  · cases move with
    | schedule deadline payload => rw [schedule_eq code]; exact h.heralded_scheduleAt _ _
    | cancel id => rw [cancel_eq code]; exact h.heralded_cancel id
    | clear => rw [clear_eq code]; exact h.heralded_clear
    | look => rw [look_eq code]; exact h.heralded_nextDeadline
    | enter now => rw [enter_eq code]; exact .refl h
    | advance =>
      rw [advance_inCode code]
      exact .refl h
    | leave => rw [(leave_shift m).2]; exact .refl h
  · by_cases advances : move = .advance
    · subst advances
      have popped := h.heralded_popDue now
      rw [advance_eq pass]
      split
      · rename_i taken
        rwa [taken] at popped
      · rename_i none
        rw [none] at popped
        exact ⟨popped.aligned, popped.quiet, popped.behind⟩
    · rw [step_refused pass advances]
      exact .refl h

def Sleeper.Covers (q : TimerQueue α) : Sleeper → Prop
  | .looking => True
  | .waiting deadline => ∀ t ∈ q.agenda.timers, deadline ≤ t.fireAt
  | .idle => q.agenda.timers = []

namespace Sleeper

variable {q r : TimerQueue α}

theorem le_wholeMillis (t : Nanos) : t ≤ wholeMillis t := by
  have rounded (n : Nat) : n ≤ (n + 999999) / 1000000 * 1000000 := by omega
  exact rounded t

theorem look_snd (q : TimerQueue α) : (look q).2 = q.nextDeadline.2 := by
  unfold look
  split <;> rename_i seen <;> rw [seen]

theorem look_covers (h : q.Aligned) : (look q).2.Aligned ∧ (look q).1.Covers (look q).2 := by
  have aligned := h.nextDeadline
  have same := q.agenda_nextDeadline
  unfold look
  split
  · rename_i deadline queue seen
    rw [seen] at aligned same
    have first := (h.first_eq_some_iff.mp (congrArg Prod.fst seen)).2
    exact ⟨aligned, fun t member => first t (same ▸ member)⟩
  · rename_i queue seen
    rw [seen] at aligned same
    have none := TimerQueue.first_eq_none_iff.mp (congrArg Prod.fst seen)
    exact ⟨aligned, (congrArg Agenda.timers same).trans none⟩

theorem Covers.heralded {s : Sleeper} (h : s.Covers q) (next : Heralded q r)
    (silent : r.rearm = false) : s.Covers r := by
  cases s with
  | looking => trivial
  | waiting deadline =>
    intro t member
    obtain ⟨u, live, le⟩ := next.behind silent t member
    exact Nat.le_trans (h u live) le
  | idle =>
    refine List.eq_nil_iff_forall_not_mem.mpr fun t member => ?_
    obtain ⟨u, live, -⟩ := next.behind silent t member
    exact absurd (h ▸ live) List.not_mem_nil

end Sleeper

namespace Driver

variable {q r : TimerQueue α} {d e : Driver}

/-- A sleep without a signal covers all live timers. -/
def Alert (q : TimerQueue α) (d : Driver) : Prop :=
  ∀ s, d = .free s → q.rearm = false → s.Covers q

theorem Alert.heralded (h : d.Alert q) (next : Heralded q r) (height : Nat) :
    (d.settle height).Alert r := by
  intro s awake silent
  cases d with
  | free sleeper =>
    cases awake
    exact (h s rfl (next.quiet silent)).heralded next silent
  | firing base =>
    rw [settle] at awake
    split at awake
    · cases awake
      trivial
    · cases awake

theorem turn_alert (h : q.Aligned) {now : Nanos} {height : Nat} {t : DriverTurn}
    (turned : d.turn now height q t = some (e, r)) : r.Aligned ∧ e.Alert r := by
  unfold turn at turned
  split at turned
  · cases turned
    obtain ⟨aligned, covers⟩ := Sleeper.look_covers h
    exact ⟨aligned, fun s free _ => by cases free; exact covers⟩
  · cases turned
  · split at turned
    · cases turned
      exact ⟨h, fun s free _ => by cases free; trivial⟩
    · cases turned
  · split at turned
    · cases turned
      exact ⟨h, fun s free _ => by cases free⟩
    · cases turned
  · cases turned

theorem turn_keeps {now : Nanos} {height : Nat} {t : DriverTurn}
    (turned : d.turn now height q t = some (e, r)) :
    r.schedule.live = q.schedule.live ∧ r.next = q.next := by
  unfold turn at turned
  split at turned
  · have same := Sleeper.look_snd q
    cases turned
    exact same ▸ ⟨rfl, rfl⟩
  · cases turned
  · split at turned <;> cases turned
    exact ⟨rfl, rfl⟩
  · split at turned <;> cases turned
    exact ⟨rfl, rfl⟩
  · cases turned

theorem Alert.turn_of_due (h : d.Alert q) {s : Sleeper} (free : d = .free s) {t : Timer α}
    (live : t ∈ q.agenda.timers) {now : Nanos} (due : t.fireAt ≤ now) (height : Nat) :
    ∃ turn, (d.turn now height q turn).isSome := by
  subst free
  cases signal : q.rearm with
  | true =>
    cases s with
    | looking => exact ⟨.look, rfl⟩
    | waiting deadline => exact ⟨.heed, by simp [turn, signal]⟩
    | idle => exact ⟨.heed, by simp [turn, signal]⟩
  | false =>
    have covers := h s rfl signal
    cases s with
    | looking => exact ⟨.look, rfl⟩
    | waiting deadline =>
      have reached : deadline ≤ now := Nat.le_trans (covers t live) due
      exact ⟨.wake, by simp [turn, reached]⟩
    | idle => exact absurd (covers ▸ live) List.not_mem_nil

/-- A sleeper that wakes at whole milliseconds takes no turn that a driver could not take. -/
theorem turn_of_sleeper (s : Sleeper) (now : Nanos) (height : Nat) (q : TimerQueue α) :
    (s.turn now q.rearm = .fire → ((free s).turn now height q .wake).isSome) ∧
      (s.turn now q.rearm = .look → ∃ t, t ≠ .wake ∧ ((free s).turn now height q t).isSome) := by
  cases s with
  | looking => exact ⟨nofun, fun _ => ⟨.look, nofun, rfl⟩⟩
  | waiting deadline =>
    have rounded := Sleeper.le_wholeMillis deadline
    simp only [Sleeper.turn, Sleeper.isOver, decide_eq_true_eq]
    split
    · rename_i reached
      have due : deadline ≤ now := Nat.le_trans rounded reached
      exact ⟨fun _ => by simp [turn, due], nofun⟩
    · split
      · rename_i signal
        exact ⟨nofun, fun _ => ⟨.heed, nofun, by simp [turn, signal]⟩⟩
      · exact ⟨nofun, nofun⟩
  | idle =>
    simp only [Sleeper.turn]
    split
    · rename_i signal
      exact ⟨nofun, fun _ => ⟨.heed, nofun, by simp [turn, signal]⟩⟩
    · exact ⟨nofun, nofun⟩

end Driver

namespace TimerDriver

variable {d : TimerDriver α}

structure Sound (d : TimerDriver α) : Prop where
  aligned : d.machine.queue.Aligned
  alert : d.driver.Alert d.machine.queue

theorem Sound.act (h : d.Sound) (move : TimerMove α) : (d.act move).Sound := by
  have next := TimerMachine.step_heralded h.aligned move
  exact ⟨next.aligned, h.alert.heralded next _⟩

theorem Sound.turn (h : d.Sound) (t : DriverTurn) : (d.turn t).Sound := by
  unfold TimerDriver.turn
  split
  · rename_i code
    split
    · exact h
    · rename_i driver queue turned
      obtain ⟨aligned, alert⟩ := Driver.turn_alert h.aligned turned
      have entered := TimerMachine.enter_eq (m := { d.machine with queue := queue }) code d.now
      dsimp only
      split
      · rw [entered]
        exact ⟨aligned, alert⟩
      · exact ⟨aligned, alert⟩
  · exact h

theorem Sound.step (h : d.Sound) (move : DriverMove α) : (d.step move).Sound := by
  cases move with
  | elapse duration => exact ⟨h.aligned, h.alert⟩
  | act move => exact h.act move
  | after delay payload => exact h.act _
  | turn t => exact h.turn t

theorem Sound.run (h : d.Sound) (moves : List (DriverMove α)) : (d.run moves).Sound := by
  induction moves generalizing d with
  | nil => exact h
  | cons move moves ih => exact ih (h.step move)

theorem Sound.empty : ({} : TimerDriver α).Sound :=
  ⟨Schedule.Aligned.empty, fun s free _ => by cases free; trivial⟩

/-- In every state that can come about: if the driver sleeps and no signal is there, every live timer
is due at the deadline it sleeps on or after, and there is none if it sleeps on the signal alone. So a
timer that is due never waits for anything else than the driver's turn. -/
theorem never_oversleeps (moves : List (DriverMove α)) :
    let d : TimerDriver α := run {} moves
    let q := d.machine.queue
    (q.rearm = false →
      (∀ deadline, d.driver = .free (.waiting deadline) →
        ∀ t ∈ q.agenda.timers, deadline ≤ t.fireAt) ∧
      (d.driver = .free .idle → q.agenda.timers = [])) ∧
    ∀ sleeper, d.driver = .free sleeper → ∀ t ∈ q.agenda.timers, t.fireAt ≤ d.now →
      ∃ turn, (d.driver.turn d.now d.machine.stack.length q turn).isSome := by
  intro d q
  have sound : d.Sound := Sound.run .empty moves
  refine ⟨fun silent => ⟨fun deadline asleep => ?_, fun asleep => ?_⟩, fun s free t live due => ?_⟩
  · exact sound.alert _ asleep silent
  · exact sound.alert _ asleep silent
  · exact sound.alert.turn_of_due free live due _

theorem never_oversleeps_cancelled_first :
    let d : TimerDriver Nat := run {} [.turn .look, .act (.schedule 50 1), .turn .heed,
      .turn .look, .act (.schedule 80 2), .act (.cancel 0), .act .leave, .act (.schedule 90 3)]
    d.driver = .free (.waiting 50) ∧ d.machine.queue.rearm = false ∧
      d.machine.queue.size = 2 ∧ ∀ t ∈ d.machine.queue.agenda.timers, 50 ≤ t.fireAt :=
  ⟨by decide, by decide, by decide,
    ((never_oversleeps [.turn .look, .act (.schedule 50 1), .turn .heed, .turn .look,
      .act (.schedule 80 2), .act (.cancel 0), .act .leave, .act (.schedule 90 3)]).1
      (by decide)).1 50 (by decide)⟩

end TimerDriver

end MessageRelay
