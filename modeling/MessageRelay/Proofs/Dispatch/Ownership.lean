import MessageRelay.Proofs.Dispatch.Answers

/-!
The end of a handler. A request in flight is known by its sender and id alone, not by the handler
that it has started. A handler that has answered early may still run when its sender uses the id
again; where it ends then, it answers or releases the later request. The main statement is that this
is the only way in which the end of a handler bears on a request that it was not started for.
-/
namespace MessageRelay.DispatchMachine

variable {η β : Type} {m n : DispatchMachine η β} {number other : Nat} {v : Invocation}
  {key : RequestKey} {o : Outcome}

/-- A request with the sender and id of this handler is in flight, but has started another one. -/
def Overtaken (m : DispatchMachine η β) (number : Nat) : Prop :=
  ∃ v key other, m.running? number = some v ∧ v.key? = some key ∧ other ≠ number ∧
    m.Opened other key

/-- Requests that have started other handlers are in flight as before, and all that is sent answers
the request that has started this one. -/
structure LeavesOthers (number : Nat) (m n : DispatchMachine η β) : Prop where
  openings : ∀ {other key}, other ≠ number → (n.Opened other key ↔ m.Opened other key)
  sends : ∃ sent, n.sends = m.sends ++ sent ∧
    ∀ x ∈ sent, ∃ key, m.Opened number key ∧ key.answeredBy x.1 = true

theorem step_conclude (h : m.Coherent) (code : m.InCode) (runs : m.running? number = some v) :
    let n := (m.step (.conclude number o)).2
    n.inFlight = m.site.remaining v ∧ n.sends = m.sends ++ m.site.conclusion v o ∧
      ∀ other key, n.Opened other key ↔ m.Opened other key ∧ v.key? ≠ some key := by
  intro n
  have ended : n = { m with
      site := m.site.conclude m.now v o
      running := m.running.erase number } := by
    have other : (.conclude number o : DispatchMove β) ≠ .leave := by simp
    simp only [n, step_inCode code other, operate, runs]
  have started : n.started = m.started := by rw [ended]
  have inFlight : n.inFlight = m.site.remaining v := by
    rw [ended]
    exact Site.inFlight_conclude _ v o m.site
  have sends : n.sends = m.sends ++ m.site.conclusion v o := by
    rw [ended]
    exact Site.sends_conclude _ v o m.site
  have remains {key : RequestKey} : key ∈ n.inFlight ↔ key ∈ m.inFlight ∧ v.key? ≠ some key :=
    inFlight ▸ mem_remaining h.nodup
  refine ⟨inFlight, sends, fun other key => ⟨fun opened => ?_, fun opened => ?_⟩⟩
  · obtain ⟨before, foreign⟩ := remains.mp opened.inFlight
    exact ⟨opened.of_started started.symm before, foreign⟩
  · exact opened.1.of_started started (remains.mpr ⟨opened.1.inFlight, opened.2⟩)

theorem opened_of_not_overtaken (h : m.Coherent) (runs : m.running? number = some v)
    (current : ¬ m.Overtaken number) (named : v.key? = some key) (open' : key ∈ m.inFlight) :
    m.Opened number key := by
  obtain ⟨other, -, opened⟩ := h.opened key open'
  by_cases same : other = number
  · exact same ▸ opened
  · exact absurd ⟨v, key, other, runs, named, same, opened⟩ current

theorem leavesOthers_of_not_overtaken (h : m.Coherent) (code : m.InCode)
    (runs : m.running? number = some v) (current : ¬ m.Overtaken number) :
    LeavesOthers number m (m.step (.conclude number o)).2 := by
  obtain ⟨inFlight, sends, openings⟩ := step_conclude (o := o) h code runs
  refine ⟨fun {other key} different => ?_, _, sends, fun x sent => ?_⟩
  · rw [openings, and_iff_left_iff_imp]
    exact fun opened own => current ⟨v, key, other, runs, own, different, opened⟩
  · obtain ⟨own, named, open'⟩ : ∃ own, v.key? = some own ∧ own ∈ m.inFlight := by
      by_contra past
      rw [Site.conclusion_of_over fun key named open' => past ⟨key, named, open'⟩] at sent
      exact List.not_mem_nil sent
    refine ⟨own, opened_of_not_overtaken h runs current named open', ?_⟩
    rw [Site.answeredBy_conclusion sent]
    exact decide_eq_true named

theorem step_conclude_of_overtaken (h : m.Coherent) (code : m.InCode)
    (runs : m.running? number = some v) (named : v.key? = some key) (different : other ≠ number)
    (opened : m.Opened other key) :
    let n := (m.step (.conclude number o)).2
    number < other ∧ other ∈ m.running ∧ ¬ n.Opened other key ∧
      n.sends = m.sends ++ (o.message? key.id).toList.map fun message =>
        m.site.sending key.sender message := by
  intro n
  obtain ⟨-, sends, openings⟩ := step_conclude (o := o) h code runs
  obtain ⟨going, runsToo, opens⟩ := h.opened key opened.inFlight
  have started := (running?_eq_some.mp runs).2
  have notBefore : ¬ other < number := fun lt => opened.last number v lt started named
  refine ⟨by omega, opens.unique opened ▸ runsToo, fun still => ?_, ?_⟩
  · exact ((openings other key).mp still).2 named
  · have open' : key ∈ m.site.dispatcher.inFlight := opened.inFlight
    rw [sends, Site.conclusion, named]
    simp only [if_pos open']

theorem opened_before_run (below : number < m.started.size) (moves : List (DispatchMove β))
    (opened : (m.run moves).Opened number key) : m.Opened number key := by
  induction moves generalizing m with
  | nil => exact opened
  | cons move moves ih =>
    have traffic := step_traffic m move
    exact traffic.opened_before below (ih (Nat.lt_of_lt_of_le below traffic.size_le) opened)

theorem not_opened_of_told (h : m.Coherent) {r : Reply}
    (told : (m.step (.reply number r)).1 = .replied (.ok true)) :
    number < (m.step (.reply number r)).2.started.size ∧
      ∀ key, ¬ (m.step (.reply number r)).2.Opened number key := by
  have traffic := step_traffic m (.reply number r)
  obtain ⟨own, about, -, past, -⟩ := traffic.of_told h told
  obtain ⟨v, runs, named⟩ := Option.bind_eq_some_iff.mp about
  have started := (running?_eq_some.mp runs).2
  have below : number < m.started.size := (Array.getElem?_eq_some_iff.mp started).1
  refine ⟨Nat.lt_of_lt_of_le below traffic.size_le, fun key opened => ?_⟩
  -- The handler can have opened a request of its own key only, and that is used up by the reply.
  obtain ⟨w, found, sameKey⟩ := (traffic.opened_before below opened).started
  cases started.symm.trans found
  cases named.symm.trans sameKey
  exact past opened.inFlight

/-- In every state that a run reaches, and however a handler ends: it leaves the requests of other
handlers as they are unless it is overtaken; if it is, it takes the later request of its sender and
id from the handler that this has started, and what it ends with is sent for an answer. If the
handler was told before that its reply was sent, its own request is in flight no more, and unless it
is overtaken nothing is sent and nothing released. -/
theorem conclude_leavesOthers_iff (name : PeerName) (registry : Registry η) (defaultTimeout : Nanos)
    (network : Network) (before : List (DispatchMove β)) :
    let start : DispatchMachine η β := fresh name registry defaultTimeout network
    let m := start.run before
    m.InCode → ∀ number v, m.running? number = some v → ∀ o : Outcome,
      let n := (m.step (.conclude number o)).2
      (LeavesOthers number m n ↔ ¬ m.Overtaken number) ∧
      (∀ key other, v.key? = some key → other ≠ number → m.Opened other key →
        number < other ∧ other ∈ m.running ∧ ¬ n.Opened other key ∧
          n.sends = m.sends ++ (o.message? key.id).toList.map fun message =>
            m.site.sending key.sender message) ∧
      ∀ first r rest, before = first ++ .reply number r :: rest →
        ((start.run first).step (.reply number r)).1 = .replied (.ok true) →
        (∀ key, ¬ m.Opened number key) ∧
          (¬ m.Overtaken number → n.inFlight = m.inFlight ∧ n.sends = m.sends) := by
  intro start m code number v runs o n
  have coherent : start.Coherent := Coherent.fresh name registry defaultTimeout network
  have h : m.Coherent := coherent.run before
  obtain ⟨inFlight, sends, openings⟩ := step_conclude (o := o) h code runs
  refine ⟨⟨fun leaves => ?_, fun current => ?_⟩, fun key other named different opened => ?_, ?_⟩
  · rintro ⟨w, key, other, runs', named, different, opened⟩
    cases runs.symm.trans runs'
    exact ((openings other key).mp ((leaves.openings different).mpr opened)).2 named
  · exact leavesOthers_of_not_overtaken h code runs current
  · exact step_conclude_of_overtaken h code runs named different opened
  · intro first r rest split told
    obtain ⟨below, answered⟩ := not_opened_of_told (coherent.run first) told
    have never (key : RequestKey) : ¬ m.Opened number key := fun opened => by
      have reached : m = ((start.run first).step (.reply number r)).2.run rest := by
        simp only [m, split, run_append, run_cons]
      rw [reached] at opened
      exact answered key (opened_before_run below rest opened)
    refine ⟨never, fun current => ?_⟩
    have past (key : RequestKey) (named : v.key? = some key) : key ∉ m.inFlight := fun open' =>
      never key (opened_of_not_overtaken h runs current named open')
    refine ⟨inFlight.trans ?_, sends.trans ?_⟩
    · unfold Site.remaining
      split
      · rfl
      · rename_i key named
        exact List.erase_of_not_mem (past key named)
    · rw [Site.conclusion_of_over past, List.append_nil]

def solo : DispatchMachine Unit Empty :=
  fresh "B" ⟨[("", ())]⟩ 0 { lanes := #[{}], peers := [("A", 0)] }

def reuse : List (DispatchMove Empty) :=
  [.inbound "A" (.request "" .null default), .reply 0 ⟨"Accepted", .null⟩,
    .inbound "A" (.request "" .null default)]

theorem reuse_opened : (solo.run reuse).Opened 1 ⟨default, "A"⟩ where
  inFlight := by decide
  started := ⟨_, rfl, rfl⟩
  last later v lt found := by
    have within : later < 2 := (Array.getElem?_eq_some_iff.mp found).1
    omega

/-- The handler that answered first ends, and takes the request of the other. -/
theorem conclude_ends_later_request : ¬ LeavesOthers 0 (solo.run reuse)
    ((solo.run reuse).step (.conclude 0 (.reply ⟨"Finished", .null⟩))).2 := by
  intro leaves
  have still := (leaves.openings (by decide)).mpr reuse_opened
  exact List.not_mem_nil still.inFlight

theorem conclude_leavesOthers_iff_reuse :
    let m := solo.run reuse
    let n := (m.step (.conclude 0 (.reply ⟨"Finished", .null⟩))).2
    (∀ key, ¬ m.Opened 0 key) ∧ ¬ LeavesOthers 0 m n ∧ ¬ n.Opened 1 ⟨default, "A"⟩ ∧
      n.sends = m.sends ++ [m.site.sending "A" (.reply default "Finished" .null)] := by
  intro m n
  obtain ⟨leaves, overtaken, told⟩ :=
    conclude_leavesOthers_iff "B" ⟨[("", ())]⟩ 0 { lanes := #[{}], peers := [("A", 0)] } reuse
      (inCode_of_nil (m := m) rfl) 0 ⟨"A", "B", "", .null, some default, 0⟩ rfl
      (.reply ⟨"Finished", .null⟩)
  obtain ⟨-, -, closed, sends⟩ := overtaken ⟨default, "A"⟩ 1 rfl (by decide) reuse_opened
  obtain ⟨past, -⟩ := told [.inbound "A" (.request "" .null default)] ⟨"Accepted", .null⟩
    [.inbound "A" (.request "" .null default)] rfl rfl
  refine ⟨past, fun alone => leaves.mp alone ?_, closed, sends⟩
  exact ⟨_, ⟨default, "A"⟩, 1, rfl, rfl, by decide, reuse_opened⟩

end MessageRelay.DispatchMachine
