import MessageRelay.Proofs.Call.Settlement

/-!
Giving up a reply. A reply knows the id of its call, and whether a poll has delivered, but not which
registration of the id it belongs to. So it ends its own call only, except where its call has ended
without a poll and the id was registered again: then it ends the later call. The main statement is
that this exception is the only one.
-/
namespace MessageRelay.CallMachine

open CallTable

variable {β : Type} {m n : CallMachine β} {r : PendingReply} {call : PendingCall}

def OwnPending (m : CallMachine β) (r : PendingReply) : Prop :=
  ∃ call, m.table.find? r.id = some call ∧ call.ticket = r.ticket

/-- No poll of the reply has delivered, and the id is pending for another registration. -/
def Overtaken (m : CallMachine β) (r : PendingReply) : Prop :=
  r.settled = false ∧ ∃ call, m.table.find? r.id = some call ∧ call.ticket ≠ r.ticket

/-- All that belongs to other registrations than that of `r` is in `n` as it was in `m`. -/
structure SparesOthers (r : PendingReply) (m n : CallMachine β) : Prop where
  entries : ∀ {id call}, call.ticket ≠ r.ticket →
    (n.table.find? id = some call ↔ m.table.find? id = some call)
  timers : ∀ {j},
    (∀ call, m.table.find? r.id = some call → call.ticket = r.ticket → j ≠ call.timer) →
      n.table.timers.live? j = m.table.timers.live? j
  outcomes : ∀ {k}, k ≠ r.ticket → n.table.channels[k]? = m.table.channels[k]?
  replies : ∀ {q}, q.ticket ≠ r.ticket → (q ∈ n.replies ↔ q ∈ m.replies)
  counters : m.OwnPending r → n.table.stats = countCancelled m.table.stats
  untouched : ¬ m.OwnPending r → n.table = m.table

theorem step_drop (h : m.Coherent) (code : m.InCode) (held : r ∈ m.replies) :
    (m.step (.drop r.ticket)).2.table = m.table.drop r ∧
      (m.step (.drop r.ticket)).2.replies = m.replies.filter (·.ticket ≠ r.ticket) := by
  rw [step_inCode code (by simp)]
  simp only [operate, find?_reply h held, and_self]

theorem drop_of_settled {t : CallTable β} (settled : r.settled = true) : t.drop r = t := by
  rw [CallTable.drop, if_pos settled]

theorem drop_of_unsettled {t : CallTable β} (unsettled : r.settled = false) :
    t.drop r = (t.cancel r.id).2 := by
  rw [CallTable.drop, unsettled, if_neg Bool.false_ne_true]

def DeliveredOver (m : CallMachine β) : Prop :=
  ∀ r ∈ m.replies, r.settled = true → ∃ c s,
    m.table.channels[r.ticket]? = some c ∧ c.outcome? = some s

theorem DeliveredOver.change (h : m.Coherent) (past : m.DeliveredOver) {move : CallMove β}
    (change : Change m move n) : n.DeliveredOver := by
  intro q held settled
  rcases change.reply_cases held with before | ⟨id, rfl, -⟩ | ⟨r, before, unsettled, rfl⟩
  · obtain ⟨c, s, channel, outcome⟩ := past q before settled
    exact ⟨c, s, change.keeps_channel h channel outcome, outcome⟩
  · cases settled
  · rw [(poll_keeps _ _).2]
    -- The poll has delivered, so it has found something in the channel.
    obtain ⟨c, channel⟩ : ∃ c, m.table.channels[r.ticket]? = some c :=
      ⟨_, Array.getElem?_eq_getElem (h.ticket_lt before)⟩
    cases outcome : c.outcome? with
    | none =>
      rw [poll_eq_none channel outcome, unsettled] at settled
      cases settled
    | some s => exact ⟨c, s, change.keeps_channel h channel outcome, outcome⟩

theorem DeliveredOver.run (h : m.Coherent) (past : m.DeliveredOver) (moves : List (CallMove β)) :
    (m.run moves).DeliveredOver := by
  induction moves generalizing m with
  | nil => exact past
  | cons move moves ih => exact ih (h.step move) (past.change h (step_change h.table move))

theorem DeliveredOver.not_ownPending (h : m.Coherent) (past : m.DeliveredOver)
    (held : r ∈ m.replies) (settled : r.settled = true) : ¬ m.OwnPending r := by
  rintro ⟨call, found, ticket⟩
  obtain ⟨c, s, channel, outcome⟩ := past r held settled
  rw [← ticket, h.table.waiting found] at channel
  cases channel
  cases outcome

theorem ownPending_sparesOthers (h : m.Coherent) (found : m.table.find? r.id = some call)
    (ticket : call.ticket = r.ticket)
    (table : n.table = m.table.ending r.id call countCancelled .abandoned)
    (replies : n.replies = m.replies.filter (·.ticket ≠ r.ticket)) : SparesOthers r m n where
  entries {id other} different := by
    rw [table, find?_ending h.table]
    constructor
    · intro after
      split at after
      · cases after
      · exact after
    · intro entry
      have key : id ≠ r.id := fun same => by
        rw [same, found] at entry
        cases entry
        exact different ticket
      rw [if_neg key]
      exact entry
  timers {j} foreign := by
    rw [table, live?_ending h.table, if_neg (foreign call found ticket)]
  outcomes {k} different := by
    rw [table]
    simp only [ending, Array.getElem?_setIfInBounds]
    rw [if_neg (fun same => different (same.symm.trans ticket))]
  replies {q} different := by
    rw [replies, List.mem_filter]
    exact ⟨fun kept => kept.1, fun held => ⟨held, decide_eq_true different⟩⟩
  counters _ := by
    rw [table]
    rfl
  untouched none := absurd ⟨call, found, ticket⟩ none

theorem untouched_sparesOthers (table : n.table = m.table) (none : ¬ m.OwnPending r)
    (replies : n.replies = m.replies.filter (·.ticket ≠ r.ticket)) : SparesOthers r m n where
  entries _ := by rw [table]
  timers _ := by rw [table]
  outcomes _ := by rw [table]
  replies {q} different := by
    rw [replies, List.mem_filter]
    exact ⟨fun kept => kept.1, fun held => ⟨held, decide_eq_true different⟩⟩
  counters own := absurd own none
  untouched _ := table

theorem step_drop_of_overtaken (h : m.Coherent) (code : m.InCode) (held : r ∈ m.replies)
    (unsettled : r.settled = false) (found : m.table.find? r.id = some call) :
    let n := (m.step (.drop r.ticket)).2
    n.table.find? r.id = none ∧ n.table.timers.live? call.timer = none ∧
      n.table.channels[call.ticket]? = some .abandoned ∧
      n.table.stats = countCancelled m.table.stats := by
  intro n
  have table : n.table = m.table.ending r.id call countCancelled .abandoned := by
    rw [(step_drop h code held).1, drop_of_unsettled unsettled, cancel_of_find? found]
  rw [table]
  refine ⟨?_, ?_, ?_, rfl⟩
  · rw [find?_ending h.table, if_pos rfl]
  · rw [live?_ending h.table, if_pos rfl]
  · rw [channels_ending _ _ _ _ (h.table.ticket_lt found), if_pos rfl]

/-- In every state that a run reaches: giving up a reply leaves all other registrations as they are
unless the reply is overtaken; and then it ends the later call of its id, whose caller gets that it
was cancelled. -/
theorem drop_sparesOthers_iff (before : List (CallMove β)) :
    let m := ({} : CallMachine β).run before
    m.InCode → ∀ r ∈ m.replies,
      let n := (m.step (.drop r.ticket)).2
      (SparesOthers r m n ↔ ¬ m.Overtaken r) ∧
      ∀ call, m.Overtaken r → m.table.find? r.id = some call →
        n.table.find? r.id = none ∧ n.table.timers.live? call.timer = none ∧
          n.table.channels[call.ticket]? = some .abandoned ∧
          n.table.stats = countCancelled m.table.stats := by
  intro m code r held n
  have h : m.Coherent := Coherent.empty.run before
  have past : m.DeliveredOver :=
    DeliveredOver.run Coherent.empty (fun r held => by cases held) before
  obtain ⟨table, replies⟩ := step_drop h code held
  refine ⟨⟨fun spares => ?_, fun current => ?_⟩, fun call overtaken found => ?_⟩
  · rintro ⟨unsettled, call, found, other⟩
    have kept := (spares.entries other).mpr found
    rw [(step_drop_of_overtaken h code held unsettled found).1] at kept
    cases kept
  · cases settled : r.settled with
    | true =>
      exact untouched_sparesOthers (table.trans (drop_of_settled settled))
        (past.not_ownPending h held settled) replies
    | false =>
      rw [drop_of_unsettled settled] at table
      cases found : m.table.find? r.id with
      | none =>
        rw [cancel_of_not_pending found] at table
        refine untouched_sparesOthers table (fun own => ?_) replies
        obtain ⟨call, entry, -⟩ := own
        rw [found] at entry
        cases entry
      | some call =>
        rw [cancel_of_find? found] at table
        have ticket : call.ticket = r.ticket := by
          by_contra other
          exact current ⟨settled, call, found, other⟩
        exact ownPending_sparesOthers h found ticket table replies
  · exact step_drop_of_overtaken h code held overtaken.1 found

/-- A reply that was resolved and not polled ends the call that was registered under its id next. -/
theorem drop_ends_later_call :
    let m : CallMachine Empty := run {}
      [.register default 5 {}, .resolve default ⟨"Pong", .null⟩, .register default 5 {}]
    ⟨default, 0, false, false⟩ ∈ m.replies ∧
      m.table.find? default = some ⟨{}, 5, 1, 1⟩ ∧
      ¬ SparesOthers ⟨default, 0, false, false⟩ m (m.step (.drop 0)).2 := by
  intro m
  have found : m.table.find? default = some ⟨{}, 5, 1, 1⟩ := rfl
  refine ⟨by decide, found, fun spares => ?_⟩
  have kept := (spares.entries (by decide)).mpr found
  cases kept

theorem drop_sparesOthers_iff_resolved :
    let m : CallMachine Empty := run {}
      [.register default 5 {}, .resolve default ⟨"Pong", .null⟩, .register default 5 {}]
    let n := (m.step (.drop 0)).2
    m.Overtaken ⟨default, 0, false, false⟩ ∧ ¬ SparesOthers ⟨default, 0, false, false⟩ m n ∧
      n.table.channels[1]? = some .abandoned := by
  intro m n
  have overtaken : m.Overtaken ⟨default, 0, false, false⟩ := ⟨rfl, ⟨{}, 5, 1, 1⟩, rfl, by decide⟩
  obtain ⟨spares, ends⟩ := drop_sparesOthers_iff
    [.register default 5 {}, .resolve default ⟨"Pong", .null⟩, .register default 5 {}]
    (inCode_of_nil (m := m) rfl) ⟨default, 0, false, false⟩ (by decide)
  exact ⟨overtaken, fun alone => spares.mp alone overtaken, (ends _ overtaken rfl).2.2.1⟩

end MessageRelay.CallMachine
