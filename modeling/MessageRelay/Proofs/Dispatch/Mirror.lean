import MessageRelay.Proofs.Dispatch.Record

/-!
The metrics of a dispatcher and its statistics. Each step adds to both sides what it adds to the other,
whatever it is: so the events that were reported, counted by kind, are the statistics. Beside them, an
event stands for each handler that has ended, and for each callback of `after` that was started.
-/
namespace MessageRelay

inductive Statistic where
  | requestsSent
  | notificationsSent
  | repliesSent
  | requestsReceived
  | responsesMatched
  | staleResponses
  | unhandled
  | handlerFailures
  | timedOut
  deriving DecidableEq

def Statistic.of (c : DispatchCounters) (timedOut : Nat) : Statistic → Nat
  | .requestsSent => c.requestsSent
  | .notificationsSent => c.notificationsSent
  | .repliesSent => c.repliesSent
  | .requestsReceived => c.requestsReceived
  | .responsesMatched => c.responsesMatched
  | .staleResponses => c.staleResponses
  | .unhandled => c.unhandled
  | .handlerFailures => c.handlerFailures
  | .timedOut => timedOut

def Statistic.value (s : DispatchStats) (k : Statistic) : Nat := k.of s.counters s.pending.timedOut

namespace MetricEvent

/-- The statistic that an event stands for. -/
def statistic? : MetricEvent → Option Statistic
  | .requestSent _ => some .requestsSent
  | .notificationSent _ => some .notificationsSent
  | .replySent _ => some .repliesSent
  | .requestReceived _ => some .requestsReceived
  | .responseMatched => some .responsesMatched
  | .staleResponse => some .staleResponses
  | .unhandled _ => some .unhandled
  | .handlerFailed _ _ => some .handlerFailures
  | .callTimedOut => some .timedOut
  | .handlerCompleted _ _ | .timerFired | .pendingCalls _ => none

def completed? : MetricEvent → Option String
  | .handlerCompleted typeName _ => some typeName
  | _ => none

theorem value_tell (c : DispatchCounters) (timedOut : Nat) (e : MetricEvent) (k : Statistic) :
    k.of (c.tell e) (timedOut + if e = .callTimedOut then 1 else 0) =
      k.of c timedOut + if e.statistic? = some k then 1 else 0 := by
  cases e <;> cases k <;> rfl

theorem value_of_told (told : List MetricEvent) (c : DispatchCounters) (timedOut : Nat)
    (k : Statistic) :
    k.of (told.foldl .tell c) (timedOut + told.count .callTimedOut) =
      k.of c timedOut + told.countP (·.statistic? = some k) := by
  induction told generalizing c timedOut with
  | nil => rfl
  | cons e told ih =>
    have both : timedOut + (told.count .callTimedOut + if e = .callTimedOut then 1 else 0) =
        (timedOut + if e = .callTimedOut then 1 else 0) + told.count .callTimedOut := by omega
    rw [List.foldl_cons, List.count_cons, List.countP_cons]
    simp only [beq_iff_eq, decide_eq_true_eq]
    rw [both, ih, value_tell, Nat.add_assoc, Nat.add_comm (ite _ _ _)]

def isQuiet : MetricEvent → Bool
  | .handlerCompleted _ _ | .callTimedOut | .timerFired => false
  | _ => true

theorem isQuiet_of_isPlain {e : MetricEvent} (plain : e.isPlain = true) : e.isQuiet = true := by
  cases e <;> first | rfl | cases plain

theorem count_of_quiet {told : List MetricEvent} (quiet : ∀ e ∈ told, e.isQuiet = true)
    {e : MetricEvent} (other : e.isQuiet = false) : told.count e = 0 :=
  List.count_eq_zero.mpr fun member => by simp [quiet e member] at other

theorem completed?_of_quiet {told : List MetricEvent} (quiet : ∀ e ∈ told, e.isQuiet = true) :
    told.filterMap completed? = [] := by
  refine List.filterMap_eq_nil_iff.mpr fun e member => ?_
  have := quiet e member
  cases e <;> first | rfl | cases this

end MetricEvent

/-- It leaves the hook of the table as the dispatcher has set it. -/
def HolderAct.keepsHook {β : Type} : HolderAct β → Bool
  | .hook _ | .table .setHook => false
  | _ => true

namespace DispatchMachine

open MetricEvent

variable {η β : Type} {m n : DispatchMachine η β} {r r' : DispatchRecord} {told : List MetricEvent}

inductive Turnover (m n : DispatchMachine η β) : List String → Prop
  | same (same : m.SameHandlers n) : Turnover m n []
  | started {v : Invocation} (started : n.started = m.started.push v)
    (running : n.running = m.started.size :: m.running) : Turnover m n []
  | ended {number : Nat} {v : Invocation} (runs : m.running? number = some v)
    (started : n.started = m.started) (running : n.running = m.running.erase number) :
    Turnover m n [v.typeName]

/-- What a step adds to the statistics, to the record and to the handlers that have ended is what it
reports. -/
structure Reported (m : DispatchMachine η β) (r : DispatchRecord) (told : List MetricEvent)
    (n : DispatchMachine η β) (r' : DispatchRecord) : Prop where
  events : n.site.dispatcher.events = m.site.dispatcher.events ++ told
  counters : n.site.dispatcher.counters = told.foldl .tell m.site.dispatcher.counters
  timedOut : n.table.stats.timedOut = m.table.stats.timedOut + told.count .callTimedOut
  begun : r'.begun.length = r.begun.length + told.count .timerFired
  ended : m.Turnover n (told.filterMap completed?)

theorem Reported.of_quiet (quiet : ∀ e ∈ told, e.isQuiet = true) {stats : CallStats}
    {added : Option (CallTimer β)} (wrote : m.Wrote told stats added n)
    (timedOut : stats.timedOut = m.table.stats.timedOut) (begun : r'.begun = r.begun)
    (ended : m.Turnover n []) : m.Reported r told n r' where
  events := wrote.told.events
  counters := wrote.told.counters
  timedOut := by rw [count_of_quiet quiet rfl, wrote.stats, timedOut, Nat.add_zero]
  begun := by rw [count_of_quiet quiet rfl, begun, Nat.add_zero]
  ended := (completed?_of_quiet quiet).symm ▸ ended

theorem began_reported (owned : m.Owned r) {now : Nanos} {count : Nat}
    {below : List (DispatchFrame β)} {j : TimerId} {payload : β} {timers : TimerQueue (CallTimer β)}
    (pass : m.stack = .pass now count :: below)
    (due : m.table.timers.popDue now = (some (j, .other payload), timers)) :
    (r.note (.fired : DispatchAnswer η) m.taken?).begun.length = r.begun.length +
      (if j ∈ m.foreign then [] else [MetricEvent.timerFired]).count .timerFired := by
  have alive := (TimerQueue.popDue_some due).1
  have either := (owned.kind alive).mp rfl
  rw [taken?_other pass due]
  by_cases own : j ∈ r.afters
  · rw [if_neg (owned.apart j own)]
    simp [DispatchRecord.note, own]
  · rw [if_pos (either.resolve_left own)]
    simp [DispatchRecord.note, own]

theorem Booking.reported (owned : m.Owned r) {move : DispatchMove β} {answer : DispatchAnswer η}
    (booked : Booking m move answer n) : ∃ told, m.Reported r told n (r.note answer m.taken?) := by
  have quiet_of_plain {told : List MetricEvent} (plain : ∀ e ∈ told, e.isPlain = true) :
      ∀ e ∈ told, e.isQuiet = true := fun e member => isQuiet_of_isPlain (plain e member)
  cases booked with
  | plain silent plain same wrote =>
    rw [DispatchRecord.note_silent silent]
    exact ⟨_, .of_quiet (quiet_of_plain plain) wrote rfl rfl (.same same)⟩
  | dispatched plain started running wrote =>
    exact ⟨_, .of_quiet (quiet_of_plain plain) wrote rfl rfl (.started started running)⟩
  | concluded runs plain started running wrote =>
    rename_i number o v told
    have quiet := quiet_of_plain plain
    have uncounted {e : MetricEvent} (other : e.isQuiet = false) (timely : e.completed? = none) :
        (MetricEvent.handlerCompleted v.typeName (m.now - v.started) :: told).count e = 0 := by
      rw [List.count_cons_of_ne (fun same => by rw [← same] at timely; cases timely),
        count_of_quiet quiet other]
    refine ⟨_, wrote.told.events, wrote.told.counters, ?_, ?_, ?_⟩
    · rw [uncounted rfl rfl, wrote.stats, Nat.add_zero]
    · rw [uncounted rfl rfl, Nat.add_zero]
      rfl
    · have types : (MetricEvent.handlerCompleted v.typeName (m.now - v.started) :: told).filterMap
          completed? = [v.typeName] := congrArg (v.typeName :: ·) (completed?_of_quiet quiet)
      rw [types]
      exact .ended runs started running
  | matched replied same wrote =>
    rcases replied with rfl | rfl <;>
      exact ⟨_, .of_quiet (by simp [isQuiet]) wrote rfl rfl (.same same)⟩
  | stale same wrote | requested same wrote | refused same wrote | duplicate _ same wrote
  | dropped same wrote | after _ same wrote | closed _ same wrote =>
    exact ⟨_, .of_quiet (by simp [isQuiet]) wrote rfl rfl (.same same)⟩
  | finished pass idle same told stats =>
    exact ⟨[], told.events, told.counters, congrArg CallStats.timedOut stats, rfl, .same same⟩
  | expired pass due same told stats =>
    refine ⟨_, told.events, told.counters, congrArg CallStats.timedOut stats, ?_, .same same⟩
    rw [taken?_expiry pass due]
    simp [DispatchRecord.note]
  | began pass due same told stats =>
    refine ⟨_, told.events, told.counters, ?_, began_reported owned pass due, ?_⟩
    · rw [stats]
      split <;> rfl
    · split <;> exact .same same

theorem act_reported (coherent : m.bare.Coherent) (owned : m.Owned r) {a : HolderAct β}
    (keeps : a.keepsHook = true) :
    ∃ told, m.Reported r told (m.act a) (r.note (m.answer a) m.taken?) := by
  cases a with
  | move move => exact (act_booking coherent rfl).reported owned
  | hook move => cases keeps
  | table operation =>
    obtain ⟨told, either, events, counters, timedOut, same⟩ := onTable_told coherent operation
    rcases either with rfl | rfl
    · exact ⟨[], events, counters, timedOut, rfl, .same same⟩
    · exact ⟨[.callTimedOut], events, counters, timedOut, rfl, .same same⟩
  | look | heed => exact ⟨[], (List.append_nil _).symm, rfl, rfl, rfl, .same ⟨rfl, rfl⟩⟩

def Ended (m : DispatchMachine η β) (ended : List Nat) (types : List String) : Prop :=
  (ended ++ m.running).Perm (List.range m.started.size) ∧
    types = ended.filterMap fun number => m.started[number]?.map (·.typeName)

theorem Ended.turnover {ended : List Nat} {types more : List String} (h : m.Ended ended types)
    (turnover : m.Turnover n more) : ∃ ended, n.Ended ended (types ++ more) := by
  obtain ⟨all, rfl⟩ := h
  cases turnover with
  | same same =>
    refine ⟨ended, ?_, ?_⟩
    · rw [same.running, same.started]
      exact all
    · rw [same.started, List.append_nil]
  | started started running =>
    refine ⟨ended, ?_, ?_⟩
    · rw [running, started, Array.size_push, List.range_succ]
      have moved : (ended ++ m.started.size :: m.running).Perm (m.started.size :: (ended ++ m.running)) :=
        List.perm_middle
      exact moved.trans ((all.cons _).trans (List.perm_append_singleton _ _).symm)
    · rw [List.append_nil]
      refine List.filterMap_congr fun number member => ?_
      have below := List.mem_range.mp (all.subset (List.mem_append_left _ member))
      rw [started, Array.getElem?_push, if_neg (Nat.ne_of_lt below)]
  | ended runs started running =>
    rename_i number v
    obtain ⟨runs, found⟩ := running?_eq_some.mp runs
    refine ⟨ended ++ [number], ?_, ?_⟩
    · rw [running, started, List.append_assoc]
      exact ((List.perm_cons_erase runs).symm.append_left ended).trans all
    · rw [started, List.filterMap_append]
      simp [found]

/-- The statistics are those of the events that were reported, and so are the handlers that have ended
and the callbacks that were started. -/
structure Mirrored (m : DispatchMachine η β) (r : DispatchRecord) : Prop where
  counters : m.site.dispatcher.counters = m.site.dispatcher.events.foldl .tell {}
  timedOut : m.table.stats.timedOut = m.site.dispatcher.events.count .callTimedOut
  begun : r.begun.length = m.site.dispatcher.events.count .timerFired
  ended : ∃ ended, m.Ended ended (m.site.dispatcher.events.filterMap completed?)

theorem Mirrored.reported (h : m.Mirrored r) (reported : m.Reported r told n r') : n.Mirrored r' where
  counters := by rw [reported.counters, reported.events, List.foldl_append, h.counters]
  timedOut := by rw [reported.timedOut, reported.events, List.count_append, h.timedOut]
  begun := by rw [reported.begun, reported.events, List.count_append, h.begun]
  ended := by
    obtain ⟨ended, all⟩ := h.ended
    rw [reported.events, List.filterMap_append]
    exact all.turnover reported.ended

theorem Mirrored.acts (h : m.Mirrored r) (coherent : m.bare.Coherent) (owned : m.Owned r)
    {as : List (HolderAct β)} (keeps : ∀ a ∈ as, a.keepsHook = true) :
    (m.acts as).Mirrored (record r m as) := by
  induction as generalizing m r with
  | nil => exact h
  | cons a as ih =>
    obtain ⟨told, reported⟩ := act_reported coherent owned (keeps a List.mem_cons_self)
    exact ih (h.reported reported) (act_coherent coherent a) (owned.act coherent a)
      fun b member => keeps b (List.mem_cons_of_mem _ member)

/-- Whatever is done to a dispatcher and to its table, as long as the hook stays the one that it has
set: each statistic is the number of events reported for it. Each handler that has ended was reported
once, with the type of its request, and no other; and so was each callback of `after` that was started. -/
theorem metrics_mirror_statistics (name : PeerName) (registry : Registry η) (defaultTimeout : Nanos)
    (network : Network) (as : List (HolderAct β)) (keeps : ∀ a ∈ as, a.keepsHook = true) :
    let start : DispatchMachine η β := fresh name registry defaultTimeout network
    let m := start.acts as
    let events := m.site.dispatcher.events
    (∀ k : Statistic, k.value m.site.dispatcher.stats = events.countP (·.statistic? = some k)) ∧
    (∃ ended : List Nat, (ended ++ m.running).Perm (List.range m.started.size) ∧
      events.filterMap completed? =
        ended.filterMap fun number => m.started[number]?.map (·.typeName)) ∧
    events.count .timerFired = (record {} start as).begun.length := by
  intro start m events
  have mirrored : m.Mirrored (record {} start as) :=
    Mirrored.acts ⟨rfl, rfl, rfl, [], .refl _, rfl⟩ (bare_fresh name registry defaultTimeout network)
      (.fresh name registry defaultTimeout network) keeps
  refine ⟨fun k => ?_, mirrored.ended, mirrored.begun.symm⟩
  have told := value_of_told events {} 0 k
  rw [← mirrored.counters, Nat.zero_add, ← mirrored.timedOut] at told
  refine told.trans ?_
  cases k <;> exact Nat.zero_add _

def attended : DispatchMachine Unit Nat :=
  fresh "B" ⟨[("", ())]⟩ 0 { lanes := #[{}], peers := [("A", 0)] }

def mixed : List (HolderAct Nat) :=
  [.move (.inbound "A" (.request "Ping" .null default)), .move (.conclude 0 (.broken none)),
    .move (.request default "A" "Ask" .null 7), .move (.after 5 1), .table (.schedule 6 2),
    .move (.enter 9), .move .advance, .move .leave, .move .advance, .move .leave, .move .advance,
    .move .advance]

theorem metrics_mirror_statistics_mixed :
    let m := attended.acts mixed
    let events := m.site.dispatcher.events
    m.site.dispatcher.stats.timers.fired = 3 ∧ events.countP (·.statistic? = some .timedOut) = 1 ∧
      events.countP (·.statistic? = some .handlerFailures) = 1 ∧
      events.filterMap completed? = ["Ping"] ∧ events.count .timerFired = 1 := by
  intro m events
  obtain ⟨values, ⟨ended, all, types⟩, fired⟩ :=
    metrics_mirror_statistics "B" ⟨[("", ())]⟩ 0 { lanes := #[{}], peers := [("A", 0)] } mixed
      (by decide)
  have idle : (attended.acts mixed).running = [] := by decide
  have one : (attended.acts mixed).started.size = 1 := by decide
  have first : (attended.acts mixed).started[0]?.map (·.typeName) = some "Ping" := by decide
  have which : ended = [0] := by
    change (ended ++ (attended.acts mixed).running).Perm
      (List.range (attended.acts mixed).started.size) at all
    rwa [idle, one, List.append_nil, List.range_one, List.perm_singleton] at all
  refine ⟨by decide, (values .timedOut).symm.trans (by decide),
    (values .handlerFailures).symm.trans (by decide), ?_, fired.trans (by decide)⟩
  refine types.trans ?_
  rw [which]
  exact List.filterMap_cons_some first

end DispatchMachine

end MessageRelay
