import MessageRelay.Dispatch.Loop
import MessageRelay.Proofs.Dispatch.Posts

/-!
The loop of a dispatcher routes what the network takes for it, all of it and in order. What is done to
the network in a run is read off the moves and off what the dispatcher sends; then the law of lanes
says what comes out of the loop's own lane, and the loop routes that.
-/
namespace MessageRelay

namespace DispatchMachine

variable {η β : Type} {m : DispatchMachine η β}

theorem inCode_of_not_passing (free : m.passing = false) : m.InCode := by
  intro now count below pass
  rw [passing, pass] at free
  cases free

theorem step_enter (m : DispatchMachine η β) (now : Nanos) :
    (m.step (.enter now)).2.site = m.site := by
  by_cases code : m.InCode
  · rw [step_inCode code (by simp)]
    rfl
  · rw [step_of_not_inCode code (by simp)]

end DispatchMachine

namespace DispatchLoop

variable {η β : Type} {l : DispatchLoop η β} {peer : PeerName}

inductive Change (l : DispatchLoop η β) : LoopMove β → LoopAnswer η → DispatchLoop η β → Prop
  | refused (move : LoopMove β) : Change l move .refused l
  | used (move : NetworkMove) (leaves : l.leaves move = true) :
    Change l (.others move) (.used (l.network.step move).1) (l.on (l.network.step move).2)
  | acted (move : DispatchMove β) (inside : ∀ network, move ≠ .network network) :
    Change l (.act move) (.acted (l.move move).1) (l.move move).2
  | routed (ready : l.isReady = true) {e : Envelope} {network : Network}
    (next : l.network.receive l.lane = (.envelope e, network)) (mine : e.recipient = l.name) :
    Change l .take
      (.took (.routed e ((l.on network).machine.site.onInbound l.machine.now e.sender e.message).1))
      ((l.on network).move (.inbound e.sender e.message)).2
  | misrouted (ready : l.isReady = true) {e : Envelope} {network : Network}
    (next : l.network.receive l.lane = (.envelope e, network)) (foreign : e.recipient ≠ l.name) :
    Change l .take (.took (.misrouted e)) (l.on network)
  | nothing (ready : l.isReady = true) : Change l .take (.took .nothing) l
  | closed (ready : l.isReady = true) (empty : (l.network.lane l.lane).waiting = [])
    (past : (l.network.lane l.lane).attached = false) :
    Change l .take (.took .closed) { (l.move .shutdown).2 with phase := .closing }
  | driven (ready : l.isReady = true) {turn : DriverTurn} {driver : Driver}
    {timers : TimerQueue (CallTimer β)} {machine : DispatchMachine η β}
    (turned : l.driver.turn l.machine.now l.machine.stack.length l.table.timers turn =
      some (driver, timers))
    (entered : machine = { l.machine with site.dispatcher.table.timers := timers } ∨
      machine = ({ l.machine with site.dispatcher.table.timers := timers }.step
        (.enter l.machine.now)).2) :
    Change l (.drive turn) .driven { l with machine := machine, driver := driver }
  | ended (closing : l.phase = .closing) :
    Change l .finish (.ended l.machine.site.dispatcher.stats)
      { l.on (l.network.dropLane l.lane) with phase := .ended l.machine.site.dispatcher.stats }

theorem isReady_iff :
    l.isReady = true ↔
      l.phase = .running ∧ l.machine.passing = false ∧ l.driver.isFiring = false := by
  simp only [isReady, Bool.and_eq_true, decide_eq_true_eq, Bool.not_eq_true', and_assoc]

theorem move_inbound (ready : l.isReady = true) (sender : PeerName) (message : Message) :
    (l.move (.inbound sender message)).2 =
      { l with
        machine := { l.machine with
          site := (l.machine.site.onInbound l.machine.now sender message).2 }.start
            (l.machine.site.onInbound l.machine.now sender message).1 } := by
  obtain ⟨-, free, awake⟩ := isReady_iff.mp ready
  have code := DispatchMachine.inCode_of_not_passing free
  have other : DispatchMove.inbound sender message ≠ (.leave : DispatchMove β) := nofun
  have settled (height : Nat) : l.driver.settle height = l.driver := by
    cases driver : l.driver with
    | free sleeper => rfl
    | firing base =>
      rw [driver] at awake
      cases awake
  simp only [move, DispatchMachine.step_inCode code other, DispatchMachine.operate, settled]

theorem take_change (ready : l.isReady = true) : Change l .take l.take.1 l.take.2 := by
  unfold take Site.take
  rcases Network.receive_cases l.lane l.network with ⟨e, rest, -, next⟩ | ⟨empty, none⟩
  · generalize l.network.modify _ l.lane = network at next
    have received : l.machine.site.network.receive l.lane = (.envelope e, network) := next
    simp only [received]
    split
    · rename_i mine
      have moved := move_inbound (l := l.on network) ready e.sender e.message
      have change := Change.routed ready next mine
      rw [moved] at change
      exact change
    · rename_i foreign
      exact .misrouted ready next foreign
  · have received : l.machine.site.network.receive l.lane = _ := none
    cases attached : (l.network.lane l.lane).attached with
    | true =>
      simp only [received, attached, if_true]
      exact .nothing ready
    | false =>
      simp only [received, attached, Bool.false_eq_true, if_false]
      exact .closed ready empty attached

theorem step_change (l : DispatchLoop η β) (move : LoopMove β) :
    Change l move (l.step move).1 (l.step move).2 := by
  cases move with
  | others move =>
    simp only [step]
    split
    · rename_i leaves
      exact .used move leaves
    · exact .refused _
  | act move =>
    cases move with
    | network network => exact .refused _
    | _ => exact .acted _ nofun
  | take =>
    simp only [step]
    split
    · rename_i ready
      exact take_change ready
    · exact .refused _
  | drive turn =>
    simp only [step]
    split
    · rename_i ready
      unfold drive
      split
      · exact .refused _
      · rename_i driver timers turned
        refine .driven ready turned ?_
        split
        · exact .inr rfl
        · exact .inl rfl
    · exact .refused _
  | finish =>
    simp only [step]
    split
    · rename_i closing
      simp only [Bool.and_eq_true, decide_eq_true_eq] at closing
      exact .ended closing.1
    · exact .refused _

theorem change_of_answer {move : LoopMove β} {answer : LoopAnswer η}
    (told : (l.step move).1 = answer) : Change l move answer (l.step move).2 :=
  told ▸ l.step_change move

def touches (l : DispatchLoop η β) : LoopMove β → LoopAnswer η → List NetworkMove
  | .others move, .used _ => [move]
  | .take, .took (.routed _ _) => [.receive l.lane]
  | .take, .took (.misrouted _) => [.receive l.lane]
  | .finish, .ended _ => [.dropLane l.lane]
  | _, _ => []

def posted (l l' : DispatchLoop η β) : List NetworkMove :=
  (l'.machine.sends.drop l.machine.sends.length).map fun x => .send x.1

/-- What is done to the network in a run. -/
def uses : DispatchLoop η β → List (LoopMove β) → List NetworkMove
  | _, [] => []
  | l, move :: moves =>
    l.touches move (l.step move).1 ++ l.posted (l.step move).2 ++ (l.step move).2.uses moves

theorem posted_of_same {l' : DispatchLoop η β} (same : l'.machine.sends = l.machine.sends) :
    l.posted l' = [] := by
  rw [posted, same, List.drop_length]
  rfl

theorem move_network (l : DispatchLoop η β) (move : DispatchMove β)
    (inside : ∀ network, move ≠ .network network) :
    (l.move move).2.network = l.network.run (l.posted (l.move move).2) ∧
      (l.move move).2.name = l.name := by
  obtain ⟨sent, posts, -⟩ := DispatchMachine.step_posts l.machine inside
  have sends : (l.machine.step move).2.sends = l.machine.sends ++ sent := posts.sends
  have handed : l.posted (l.move move).2 = sent.map fun x => .send x.1 := by
    change ((l.machine.step move).2.sends.drop _).map _ = _
    rw [sends, List.drop_left]
  rw [handed]
  exact ⟨posts.network, posts.name⟩

/-- The lane is held until the loop ends. -/
def Holds (l : DispatchLoop η β) : Prop :=
  (∀ stats, l.phase ≠ .ended stats) → l.network.isHeld l.lane = true

theorem Holds.of_running (h : l.Holds) (running : l.phase = .running) :
    l.network.isHeld l.lane = true :=
  h fun stats ended => by
    rw [running] at ended
    cases ended

/-- What a move is to the lane of the loop, and to the network. -/
structure Traces (l : DispatchLoop η β) (move : LoopMove β) (answer : LoopAnswer η)
    (l' : DispatchLoop η β) : Prop where
  name : l'.name = l.name
  lane : l'.lane = l.lane
  network : l'.network = l.network.run (l.touches move answer ++ l.posted l')
  received : (l.network.received l.lane (l.touches move answer)).filter (·.recipient = l.name) =
    routedBy answer
  dropped : .dropLane l.lane ∈ l.touches move answer → ∃ stats, l'.phase = .ended stats

namespace Traces

variable {move : LoopMove β} {answer : LoopAnswer η} {l' : DispatchLoop η β}

theorem of_posted (name : l'.name = l.name) (lane : l'.lane = l.lane)
    (network : l'.network = l.network.run (l.posted l')) (touches : l.touches move answer = [])
    (routed : routedBy answer = []) : Traces l move answer l' where
  name := name
  lane := lane
  network := by rw [touches, network]; rfl
  received := by rw [touches, routed]; rfl
  dropped member := by rw [touches] at member; cases member

theorem of_still (dispatcher : l'.name = l.name) (lane : l'.lane = l.lane)
    (sends : l'.machine.sends = l.machine.sends) (network : l'.network = l.network)
    (touches : l.touches move answer = []) (routed : routedBy answer = []) :
    Traces l move answer l' :=
  of_posted dispatcher lane (by rw [posted_of_same sends, network]; rfl) touches routed

theorem of_taken (held : l.network.isHeld l.lane = true) {e : Envelope} {network : Network}
    (next : l.network.receive l.lane = (.envelope e, network)) (name : l'.name = l.name)
    (lane : l'.lane = l.lane) (sent : l'.network = network.run (l.posted l'))
    (touches : l.touches move answer = [.receive l.lane])
    (routed : routedBy answer = [e].filter (·.recipient = l.name)) : Traces l move answer l' := by
  have step : l.network.step (.receive l.lane) = (.received (.envelope e), network) := by
    simp only [Network.step, held, next, if_true]
  refine ⟨name, lane, ?_, ?_, fun member => ?_⟩
  · rw [touches, sent, List.singleton_append, Network.run_cons, step]
  · rw [touches, routed]
    simp [Network.received, Network.receivedBy, step]
  · rw [touches] at member
    simp at member

end Traces

theorem Change.traces {move : LoopMove β} {answer : LoopAnswer η} {l' : DispatchLoop η β}
    (holds : l.Holds) (change : Change l move answer l') : Traces l move answer l' := by
  cases change with
  | refused move =>
    refine .of_still rfl rfl rfl rfl ?_ rfl
    cases move <;> rfl
  | used move leaves =>
    have silent : l.posted (l.on (l.network.step move).2) = [] := posted_of_same rfl
    have others : .receive l.lane ∉ [move] := by
      rintro member
      rw [← List.mem_singleton.mp member] at leaves
      simp [DispatchLoop.leaves] at leaves
    refine ⟨rfl, rfl, ?_, ?_, fun member => ?_⟩
    · rw [silent]
      rfl
    · change (l.network.received l.lane [move]).filter _ = []
      rw [Network.received_eq_nil others]
      rfl
    · rw [← List.mem_singleton.mp member] at leaves
      simp [DispatchLoop.leaves] at leaves
  | acted move inside =>
    obtain ⟨network, name⟩ := l.move_network move inside
    exact .of_posted name rfl network rfl rfl
  | routed ready next mine =>
    rename_i e network
    have held := holds.of_running (isReady_iff.mp ready).1
    obtain ⟨sent, name⟩ :=
      (l.on network).move_network (.inbound e.sender e.message) nofun
    exact .of_taken held next name rfl sent rfl (by simp [routedBy, mine])
  | misrouted ready next foreign =>
    rename_i e network
    have held := holds.of_running (isReady_iff.mp ready).1
    have silent : l.posted (l.on network) = [] := posted_of_same rfl
    refine .of_taken held next rfl rfl ?_ rfl (by simp [routedBy, foreign])
    rw [silent]
    rfl
  | nothing ready => exact .of_still rfl rfl rfl rfl rfl rfl
  | closed ready =>
    obtain ⟨network, name⟩ := l.move_network .shutdown nofun
    exact .of_posted name rfl network rfl rfl
  | driven ready turned entered =>
    rename_i turn driver timers machine
    have site : machine.site = { l.machine.site with dispatcher.table.timers := timers } := by
      rcases entered with rfl | rfl
      · rfl
      · exact DispatchMachine.step_enter _ _
    refine .of_still ?_ rfl ?_ ?_ rfl rfl
    · exact congrArg (·.dispatcher.name) site
    · exact congrArg (·.dispatcher.sends) site
    · exact congrArg (·.network) site
  | ended closing =>
    have held : l.network.isHeld l.lane = true := holds fun stats ended => by
      rw [closing] at ended
      cases ended
    have dropped : l.network.step (.dropLane l.lane) = (.dropped, l.network.dropLane l.lane) := by
      simp only [Network.step, held, if_true]
    refine ⟨rfl, rfl, ?_, rfl, fun _ => ⟨_, rfl⟩⟩
    refine .trans ?_ (congrArg (fun sent => l.network.run (.dropLane l.lane :: sent))
      (posted_of_same rfl).symm)
    exact (congrArg Prod.snd dropped).symm

theorem Change.phase {move : LoopMove β} {answer : LoopAnswer η} {l' : DispatchLoop η β}
    (change : Change l move answer l') :
    l'.phase = l.phase ∨
      (l.phase = .running ∧ l'.phase = .closing ∧ move = .take ∧ answer = .took .closed) ∨
      (l.phase = .closing ∧ ∃ stats, l'.phase = .ended stats) := by
  cases change with
  | closed ready => exact .inr (.inl ⟨(isReady_iff.mp ready).1, rfl, rfl, rfl⟩)
  | ended closing => exact .inr (.inr ⟨closing, _, rfl⟩)
  | refused | used | acted | routed | misrouted | nothing | driven => exact .inl rfl

theorem step_traces (holds : l.Holds) (move : LoopMove β) :
    Traces l move (l.step move).1 (l.step move).2 :=
  (l.step_change move).traces holds

theorem posted_sends {l' : DispatchLoop η β} {use : NetworkMove} (member : use ∈ l.posted l') :
    ∃ e, use = .send e := by
  obtain ⟨x, -, rfl⟩ := List.mem_map.mp member
  exact ⟨x.1, rfl⟩

theorem Holds.step (holds : l.Holds) (move : LoopMove β) : (l.step move).2.Holds := by
  intro goes
  have traces := l.step_traces holds move
  have before : ∀ stats, l.phase ≠ .ended stats := fun stats ended => by
    rcases (l.step_change move).phase with same | ⟨running, -⟩ | ⟨closing, -⟩
    · exact goes stats (same.trans ended)
    · cases running.symm.trans ended
    · cases closing.symm.trans ended
  obtain ⟨there, held⟩ := Network.isHeld_iff.mp (holds before)
  rw [traces.lane, traces.network, Network.isHeld_iff]
  -- Nobody but the loop gives the lane up, and that ends the loop.
  refine ⟨Network.size_run _ _ there, (Network.held_run there _).mpr ⟨held, fun member => ?_⟩⟩
  rcases List.mem_append.mp member with touched | sent
  · obtain ⟨stats, ended⟩ := traces.dropped touched
    exact goes stats ended
  · obtain ⟨e, same⟩ := posted_sends sent
    cases same

theorem take_routed {e : Envelope} {outcome : InboundOutcome η}
    (taken : (l.step .take).1 = .took (.routed e outcome)) :
    e.recipient = l.name ∧
      outcome =
        ({ l.machine.site with network := (l.network.receive l.lane).2 }.onInbound l.machine.now
          e.sender e.message).1 ∧
      (l.step .take).2 =
        ((l.on (l.network.receive l.lane).2).move (.inbound e.sender e.message)).2 := by
  have change := change_of_answer taken
  generalize (l.step .take).2 = l' at change ⊢
  cases change with
  | routed ready next mine => exact ⟨mine, by rw [next]; rfl, by rw [next]⟩

theorem take_misrouted {e : Envelope} (taken : (l.step .take).1 = .took (.misrouted e)) :
    e.recipient ≠ l.name ∧ (l.step .take).2 = l.on (l.network.receive l.lane).2 := by
  have change := change_of_answer taken
  generalize (l.step .take).2 = l' at change ⊢
  cases change with
  | misrouted ready next foreign => exact ⟨foreign, by rw [next]⟩

theorem finish_ended {stats : DispatchStats} (ended : (l.step .finish).1 = .ended stats) :
    l.phase = .closing ∧ stats = l.machine.site.dispatcher.stats := by
  have change := change_of_answer ended
  generalize (l.step .finish).2 = l' at change
  cases change with
  | ended closing => exact ⟨closing, rfl⟩

theorem run_cons (l : DispatchLoop η β) (move : LoopMove β) (moves : List (LoopMove β)) :
    l.run (move :: moves) = (l.step move).2.run moves := rfl

theorem run_append (l : DispatchLoop η β) (first second : List (LoopMove β)) :
    l.run (first ++ second) = (l.run first).run second := List.foldl_append

theorem routed_append (l : DispatchLoop η β) (first second : List (LoopMove β)) :
    l.routed (first ++ second) = l.routed first ++ (l.run first).routed second := by
  induction first generalizing l with
  | nil => rfl
  | cons move moves ih => rw [List.cons_append, routed, ih, routed, List.append_assoc, run_cons]

theorem uses_append (l : DispatchLoop η β) (first second : List (LoopMove β)) :
    l.uses (first ++ second) = l.uses first ++ (l.run first).uses second := by
  induction first generalizing l with
  | nil => rfl
  | cons move moves ih => rw [List.cons_append, uses, ih, uses, ← List.append_assoc, run_cons]

structure Track (l : DispatchLoop η β) (moves : List (LoopMove β)) : Prop where
  name : (l.run moves).name = l.name
  lane : (l.run moves).lane = l.lane
  network : (l.run moves).network = l.network.run (l.uses moves)
  received : (l.network.received l.lane (l.uses moves)).filter (·.recipient = l.name) =
    l.routed moves
  holds : (l.run moves).Holds

theorem Holds.track (holds : l.Holds) (moves : List (LoopMove β)) : l.Track moves := by
  induction moves generalizing l with
  | nil => exact ⟨rfl, rfl, rfl, rfl, holds⟩
  | cons move moves ih =>
    have traces := l.step_traces holds move
    have rest := ih (holds.step move)
    -- What the dispatcher sends takes nothing off the lane, so the touch of the move alone counts.
    have silent : .receive l.lane ∉ l.posted (l.step move).2 := fun member => by
      obtain ⟨e, same⟩ := posted_sends member
      cases same
    refine ⟨rest.name.trans traces.name, rest.lane.trans traces.lane, ?_, ?_, rest.holds⟩
    · simp only [run_cons, rest.network, traces.network, uses, Network.run_append]
    · have later := rest.received
      rw [traces.lane, traces.name, traces.network] at later
      rw [uses, Network.received_append, Network.received_append, Network.received_eq_nil silent,
        List.append_nil, List.filter_append, traces.received, later, routed]

theorem past_run (past : l.phase ≠ .running) (moves : List (LoopMove β)) :
    (l.run moves).phase ≠ .running ∧ l.routed moves = [] := by
  induction moves generalizing l with
  | nil => exact ⟨past, rfl⟩
  | cons move moves ih =>
    have change := l.step_change move
    have next : (l.step move).2.phase ≠ .running := by
      rcases change.phase with same | ⟨-, closing, -⟩ | ⟨-, stats, ended⟩
      · rwa [same]
      · rw [closing]
        nofun
      · rw [ended]
        nofun
    have nothing : routedBy (l.step move).1 = [] := by
      generalize (l.step move).1 = answer at change
      generalize (l.step move).2 = l' at change
      cases change with
      | routed ready => exact absurd (isReady_iff.mp ready).1 past
      | _ => rfl
    obtain ⟨still, none⟩ := ih next
    exact ⟨still, by rw [routed, nothing, none]; rfl⟩

theorem found_closed (running : l.phase = .running) {moves : List (LoopMove β)}
    (past : (l.run moves).phase ≠ .running) :
    ∃ first last, moves = first ++ .take :: last ∧ (l.run first).phase = .running ∧
      ((l.run first).step .take).1 = .took .closed := by
  induction moves generalizing l with
  | nil => exact absurd running past
  | cons move moves ih =>
    rcases (l.step_change move).phase with same | ⟨-, -, rfl, answer⟩ | ⟨closing, -⟩
    · obtain ⟨first, last, rfl, still, answer⟩ := ih (same.trans running) past
      exact ⟨move :: first, last, rfl, still, answer⟩
    · exact ⟨[], moves, rfl, running, answer⟩
    · cases closing.symm.trans running

def accepted (peer : PeerName) (l : DispatchLoop η β) (moves : List (LoopMove β)) : List Envelope :=
  (l.network.accepted peer l.lane (l.uses moves)).filter (·.recipient = l.name)

/-- What waits for the dispatcher. -/
def backlog (l : DispatchLoop η β) : List Envelope :=
  (l.network.lane l.lane).waiting.filter (·.recipient = l.name)

theorem start_holds (m : DispatchMachine η β) (peer : PeerName) : (start m peer).Holds := by
  intro _
  have lane : (start m peer).lane = m.site.network.lanes.size :=
    Network.size_detach peer m.site.network
  rw [lane, Network.isHeld_iff]
  change _ < (m.site.network.attach peer).2.lanes.size ∧
    ((m.site.network.attach peer).2.lane _).held = true
  rw [Network.size_attach, Network.lane_attach_new]
  exact ⟨Nat.lt_succ_self _, rfl⟩

/-- As long as the loop runs, what it has routed and what waits is what was taken for it. -/
theorem routed_of_running (holds : l.Holds) (serves : l.network.Serves peer l.lane)
    {moves : List (LoopMove β)} (running : (l.run moves).phase = .running) :
    l.routed moves ++ (l.run moves).backlog = l.backlog ++ l.accepted peer moves ∧
      (l.run moves).network.Serves peer l.lane := by
  have track := holds.track moves
  have held := track.holds.of_running running
  rw [track.network, track.lane] at held
  have course := serves.course (Network.isHeld_iff.mp held).2
  have flow := congrArg (List.filter (·.recipient = l.name)) course.flow
  rw [List.filter_append, List.filter_append, track.received] at flow
  refine ⟨?_, track.network ▸ course.serves⟩
  rw [backlog, track.name, track.lane, track.network]
  exact flow

theorem routed_of_closed (holds : l.Holds) (serves : l.network.Serves peer l.lane)
    {first : List (LoopMove β)} (running : (l.run first).phase = .running)
    (empty : ((l.run first).network.lane l.lane).waiting = [])
    (past : ((l.run first).network.lane l.lane).attached = false) :
    (l.run first).network.lane? peer ≠ some l.lane ∧
      l.routed first = l.backlog ++ l.accepted peer first ∧
      ∀ last, l.accepted peer (first ++ last) = l.accepted peer first := by
  obtain ⟨flow, still⟩ := routed_of_running holds serves running
  have track := holds.track first
  have held := track.holds.of_running running
  rw [track.lane] at held
  have gone : (l.run first).network.lane? peer ≠ some l.lane := fun current => by
    have attached := (still.attached (Network.isHeld_iff.mp held).2).mpr current
    rw [past] at attached
    cases attached
  refine ⟨gone, ?_, fun last => ?_⟩
  · rw [← flow, backlog, track.lane, empty, List.filter_nil, List.append_nil]
  · have nothing := (Network.past_run still.there gone ((l.run first).uses last)).2
    rw [accepted, uses_append, Network.accepted_append, ← track.network, nothing, List.append_nil]
    rfl

end DispatchLoop

end MessageRelay
