import MessageRelay.Proofs.Call.Closing
import MessageRelay.Proofs.Dispatch.Loop
import MessageRelay.Proofs.Timer.Driver

/-!
The end of a loop. When it finds its lane closed and empty, nothing more can come: the calls that are
pending then end as cancelled, and from there on none is registered. What the code around does after
that, and the looks of the driver before, are moves of the calls, so the counters of calls balance at
the end and no timer of theirs is left.
-/
namespace MessageRelay

/-- Whether a move schedules a timer from outside of the calls. -/
def LoopMove.addsTimer {β : Type} : LoopMove β → Bool
  | .act (.after _ _) => true
  | _ => false

namespace DispatchMachine

variable {η β : Type} {m : DispatchMachine η β}

theorem addsOther_callMoves {move : DispatchMove β} (other : ∀ d p, move ≠ .after d p) :
    ∀ inner ∈ m.callMoves move, inner.addsOther = false := by
  intro inner member
  cases move with
  | after delay payload => exact absurd rfl (other delay payload)
  | inbound sender message =>
    simp only [callMoves, Message.callMove?, Option.mem_toList] at member
    split at member <;> cases member <;> rfl
  | request id target typeName payload timeout =>
    rcases List.mem_cons.mp member with rfl | late
    · rfl
    · split at late
      · simp only [List.mem_cons, List.not_mem_nil, or_false] at late
        rcases late with rfl | rfl <;> rfl
      · cases late
  | shutdown =>
    simp only [callMoves, List.mem_cons, List.not_mem_nil, or_false] at member
    rcases member with rfl | rfl <;> rfl
  | elapse | poll | drop | cancelTimer | enter | advance | leave =>
    rw [List.mem_singleton.mp member]
    rfl
  | network | reply | conclude | sendReply | notify => cases member

theorem run_coherent (h : m.calls.Coherent) (moves : List (DispatchMove β)) :
    (m.run moves).calls.Coherent := by
  induction moves generalizing m with
  | nil => exact h
  | cons move moves ih =>
    refine ih ?_
    rw [step_calls h]
    exact h.run _

theorem run_balanced (h : m.calls.Coherent) (balanced : m.calls.Balanced)
    (moves : List (DispatchMove β)) : (m.run moves).calls.Balanced := by
  induction moves generalizing m with
  | nil => exact balanced
  | cons move moves ih =>
    have same := step_calls h move
    refine ih ?_ ?_
    · rw [same]
      exact h.run _
    · rw [same]
      exact balanced.run h _

end DispatchMachine

namespace DispatchLoop

open CallTable CallMachine

variable {η β : Type} {l : DispatchLoop η β} {peer : PeerName}

theorem Change.moved (h : l.machine.calls.Coherent) {move : LoopMove β} {answer : LoopAnswer η}
    {l' : DispatchLoop η β} (change : Change l move answer l') :
    Moved move.addsTimer l.machine.calls l'.machine.calls := by
  have stepped (m : DispatchMachine η β) (same : m.calls = l.machine.calls) (move : DispatchMove β)
      {added : Bool} (own : added = false → ∀ d p, move ≠ .after d p) :
      Moved added l.machine.calls (m.step move).2.calls := by
    rw [DispatchMachine.step_calls (same ▸ h), same]
    exact .of_run _ _ fun none => DispatchMachine.addsOther_callMoves (own none)
  cases change with
  | refused | used | misrouted | nothing | ended => exact .refl _
  | acted move inside =>
    refine stepped l.machine rfl move fun none d p same => ?_
    subst same
    cases none
  | routed ready next mine =>
    rename_i e network
    exact stepped (l.on network).machine rfl (.inbound e.sender e.message) fun _ _ _ => nofun
  | closed ready => exact stepped l.machine rfl .shutdown fun _ _ _ => nofun
  | driven ready turned entered =>
    obtain ⟨live, next⟩ := Driver.turn_keeps turned
    rcases entered with rfl | rfl
    · exact ⟨_, [], live, next, rfl, fun _ => nofun⟩
    · rename_i timers
      let looked := { l.machine with site.dispatcher.table.timers := timers }
      have coherent : looked.calls.Coherent := Moved.coherent_look h live next
      refine ⟨timers, looked.callMoves (.enter l.machine.now), live, next, ?_, fun _ => ?_⟩
      · exact DispatchMachine.step_calls coherent _
      · exact DispatchMachine.addsOther_callMoves nofun

theorem run_calls {P : CallMachine β → Prop} {added : Bool}
    (keeps : ∀ m n, m.Coherent → P m → Moved added m n → P n) (h : l.machine.calls.Coherent)
    (holds : P l.machine.calls) (moves : List (LoopMove β))
    (own : ∀ move ∈ moves, move.addsTimer = true → added = true) :
    (l.run moves).machine.calls.Coherent ∧ P (l.run moves).machine.calls := by
  induction moves generalizing l with
  | nil => exact ⟨h, holds⟩
  | cons move moves ih =>
    have moved := (l.step_change move).moved h
    refine ih (moved.coherent h) (keeps _ _ h holds ?_)
      fun later member => own later (List.mem_cons_of_mem _ member)
    exact moved.mono (own move List.mem_cons_self)

theorem take_closed (h : l.machine.calls.Coherent) (answer : (l.step .take).1 = .took .closed) :
    (l.network.lane l.lane).waiting = [] ∧ (l.network.lane l.lane).attached = false ∧
      (l.step .take).2.phase = .closing ∧ Spent (l.step .take).2.table ∧ Sole (l.step .take).2.table ∧
      ∀ id call, l.table.find? id = some call →
        (l.step .take).2.table.channels[call.ticket]? =
          some (.settled ⟨.error .cancelled, false⟩) := by
  have change := change_of_answer answer
  generalize (l.step .take).2 = l' at change
  cases change with
  | closed ready empty past =>
    have code := DispatchMachine.inCode_of_not_passing (isReady_iff.mp ready).2.1
    let closed : CallTable β :=
      { l.table.close.2 with timers := l.table.close.2.timers.clear.2 }
    have other : DispatchMove.shutdown ≠ (.leave : DispatchMove β) := nofun
    have left : (l.move .shutdown).2.table = closed := by
      simp only [move, table, DispatchMachine.step_inCode code other]
      rfl
    have spent := Spent.of_close l.table
    have cleared : Sole closed := fun _ _ alive => by cases alive
    have cancelled (id : CorrelationId) (call : PendingCall) (found : l.table.find? id = some call) :
        closed.channels[call.ticket]? = some (.settled ⟨.error .cancelled, false⟩) :=
      h.table.channel_close found
    rw [← left] at cleared cancelled
    have none : Spent (l.move .shutdown).2.table := left ▸ ⟨spent.closed, spent.none⟩
    exact ⟨empty, past, rfl, none, cleared, cancelled⟩

theorem stats_closed (h : l.machine.calls.Coherent) (balanced : l.machine.calls.Balanced)
    (spent : Spent l.table) :
    let stats := l.machine.site.dispatcher.stats
    stats.pending.pending = 0 ∧ stats.pending.registered = stats.pending.ended ∧
      (Sole l.table → stats.timers.live = 0) := by
  intro stats
  have none : l.table.pendingCount = 0 := spent.pendingCount_eq
  have balance : l.table.stats.registered = l.table.stats.ended + l.table.pendingCount := balanced
  rw [none] at balance
  exact ⟨none, balance, fun sole => spent.size_eq h.table sole⟩

theorem calls_of_closed (h : l.machine.calls.Coherent) (answer : (l.step .take).1 = .took .closed)
    (last : List (LoopMove β)) :
    Spent (l.run (.take :: last)).table ∧
      (∀ id call, l.table.find? id = some call → ∀ reply, reply.ticket = call.ticket →
        ((l.run (.take :: last)).table.poll reply).1 = some (.error .cancelled)) ∧
      ((∀ move ∈ last, move.addsTimer = false) → Sole (l.run (.take :: last)).table) := by
  obtain ⟨-, -, -, spent, sole, cancelled⟩ := take_closed h answer
  have coherent := ((l.step_change .take).moved h).coherent h
  rw [run_cons]
  refine ⟨?_, fun id call found reply same => ?_, fun own => ?_⟩
  · have keeps (m n : CallMachine β) (h : m.Coherent) (spent : Spent m.table)
        (moved : Moved true m n) : Spent n.table := moved.spent h spent
    exact (run_calls keeps coherent spent last fun _ _ _ => rfl).2
  · have keeps (m n : CallMachine β) (h : m.Coherent)
        (channel : m.table.channels[call.ticket]? = some (.settled ⟨.error .cancelled, false⟩))
        (moved : Moved true m n) :
        n.table.channels[call.ticket]? = some (.settled ⟨.error .cancelled, false⟩) :=
      moved.keeps_channel h channel rfl
    have channel := (run_calls keeps coherent (cancelled id call found) last fun _ _ _ => rfl).2
    exact CallTable.poll_of_settled (same ▸ channel)
  · have keeps (m n : CallMachine β) (h : m.Coherent) (both : Spent m.table ∧ Sole m.table)
        (moved : Moved false m n) : Spent n.table ∧ Sole n.table :=
      ⟨moved.spent h both.1, moved.sole h both.1 both.2⟩
    -- Only now it matters that no move of the rest adds a timer.
    refine (run_calls keeps coherent ⟨spent, sole⟩ last fun move member adds => ?_).2.2
    rw [own move member] at adds
    cases adds

/-- What a loop routes in a run is, in order, what the network took for its dispatcher into its lane,
each envelope once, but for what still waits. To route an envelope is the move of the dispatcher on
its message. An envelope for somebody else is taken off the lane and changes nothing besides. The loop
ends only where its lane was found closed and empty. Then all that was ever taken has been routed;
every call that was pending there gives that it was cancelled, and no other is pending; the counters
of calls balance, and no timer is left if none was added since. -/
theorem routes_all_and_ends_clean (name : PeerName) (registry : Registry η) (timeout : Nanos)
    (capacity : Nat) (before : List NetworkMove) (earlier : List (DispatchMove β))
    (peer : PeerName) (moves : List (LoopMove β)) :
    let network := (Network.start capacity).run before
    let m : DispatchMachine η β := (DispatchMachine.fresh name registry timeout network).run earlier
    let s := start { m with site.network := network } peer
    let l := s.run moves
    l.network = s.network.run (s.uses moves) ∧
    (l.phase = .running → s.routed moves ++ l.backlog = s.accepted peer moves) ∧
    (∀ e outcome, (l.step .take).1 = .took (.routed e outcome) →
      e.recipient = l.name ∧
      outcome =
        ({ l.machine.site with network := (l.network.receive l.lane).2 }.onInbound l.machine.now
          e.sender e.message).1 ∧
      (l.step .take).2 =
        ((l.on (l.network.receive l.lane).2).move (.inbound e.sender e.message)).2) ∧
    (∀ e, (l.step .take).1 = .took (.misrouted e) →
      e.recipient ≠ l.name ∧ (l.step .take).2 = l.on (l.network.receive l.lane).2) ∧
    ∀ stats, (l.step .finish).1 = .ended stats →
      s.routed moves = s.accepted peer moves ∧
      (∀ id, l.table.isPending id = false) ∧
      stats.pending.pending = 0 ∧ stats.pending.registered = stats.pending.ended ∧
      ∃ first last, moves = first ++ .take :: last ∧
        let c := s.run first
        (c.step .take).1 = .took .closed ∧ c.network.lane? peer ≠ some s.lane ∧
        (c.network.lane s.lane).waiting = [] ∧
        (∀ more, s.accepted peer (moves ++ more) = s.accepted peer moves) ∧
        (∀ id call, c.table.find? id = some call → ∀ reply, reply.ticket = call.ticket →
          (l.table.poll reply).1 = some (.error .cancelled)) ∧
        ((∀ move ∈ last, move.addsTimer = false) → stats.timers.live = 0) := by
  intro network m s l
  have bounded : network.Bounded := (Network.Bounded.start capacity).run before
  have lane : s.lane = network.lanes.size := Network.size_detach peer network
  have serves : s.network.Serves peer s.lane := lane ▸ bounded.serves_attach peer
  have none : s.backlog = [] := by
    rw [backlog, lane]
    change ((network.attach peer).2.lane network.lanes.size).waiting.filter _ = []
    rw [Network.lane_attach_new]
    rfl
  have holds : s.Holds := start_holds _ peer
  have track : s.Track moves := holds.track moves
  have fresh : (DispatchMachine.fresh name registry timeout network :
    DispatchMachine η β).calls.Coherent := Coherent.empty
  have coherent : s.machine.calls.Coherent := DispatchMachine.run_coherent fresh earlier
  have balanced : s.machine.calls.Balanced := DispatchMachine.run_balanced fresh rfl earlier
  have keeps (c d : CallMachine β) (h : c.Coherent) (balanced : c.Balanced)
      (moved : Moved true c d) : d.Balanced := moved.balanced h balanced
  have sound (moves : List (LoopMove β)) :=
    run_calls keeps coherent balanced moves fun _ _ _ => rfl
  refine ⟨track.network, fun running => ?_, fun _ _ => take_routed, fun _ => take_misrouted,
    fun stats ended => ?_⟩
  · have flow := (routed_of_running holds serves running).1
    rwa [none, List.nil_append] at flow
  · obtain ⟨closing, rfl⟩ := finish_ended ended
    have past : l.phase ≠ .running := fun running => by cases closing.symm.trans running
    obtain ⟨first, last, rfl, running, answer⟩ := found_closed rfl past
    obtain ⟨empty, retired, phase, -⟩ := take_closed (sound first).1 answer
    rw [(holds.track first).lane] at empty retired
    obtain ⟨gone, all, nothing⟩ := routed_of_closed holds serves running empty retired
    obtain ⟨spent, cancelled, sole⟩ := calls_of_closed (sound first).1 answer last
    rw [← run_append] at spent cancelled sole
    obtain ⟨idle, balance, clear⟩ := stats_closed (sound _).1 (sound _).2 spent
    have silent : (s.run first).routed (.take :: last) = [] := by
      have closed : ((s.run first).step .take).2.phase ≠ .running := by simp [phase]
      rw [routed, answer, (past_run closed last).2]
      rfl
    refine ⟨?_, fun id => isPending_eq_false_iff.mpr (spent.none id), idle, balance, first, last,
      rfl, answer, gone, empty, fun more => ?_, cancelled, fun own => clear (sole own)⟩
    · rw [routed_append, silent, List.append_nil, all, none, nothing]
      rfl
    · rw [List.append_assoc, nothing, nothing]

def closingDown : List (LoopMove Nat) :=
  [.act (.request default "B" "Ask" .null 100), .act (.after 5 7), .drive .look, .act (.elapse 5),
    .drive .wake, .act .advance, .act (.notify "B" "Fired" .null), .act .leave, .act .advance,
    .others (.send ⟨9, "B", "A", .notification "Tell" .null⟩), .others (.detach "A"), .take, .take]

theorem routes_all_and_ends_clean_detached :
    let network := (Network.start 2).run [.attach "B"]
    let s : DispatchLoop Empty Nat := start (.fresh "A" {} 1000 network) "A"
    let l := s.run closingDown
    let stats := l.machine.site.dispatcher.stats
    (s.run (closingDown.take 12)).table.pendingCount = 1 ∧
      (s.routed closingDown).map (fun e => (e.sender, e.message.typeName)) = [("B", "Tell")] ∧
      (l.step .finish).1 = .ended stats ∧ l.table.isPending default = false ∧
      stats.pending.registered = 1 ∧ stats.pending.ended = 1 := by
  intro network s l stats
  have pending : (s.run (closingDown.take 12)).table.pendingCount = 1 := by decide
  have accepted : (s.accepted "A" closingDown).map (fun e => (e.sender, e.message.typeName)) =
      [("B", "Tell")] := by decide
  have registered : stats.pending.registered = 1 := by decide
  have free : l.phase = .closing ∧ l.machine.passing = false := by decide
  have ended : (l.step .finish).1 = .ended stats := by simp only [step, free]; rfl
  obtain ⟨-, -, -, -, clean⟩ :=
    routes_all_and_ends_clean (η := Empty) "A" {} 1000 2 [.attach "B"] [] "A" closingDown
  obtain ⟨routed, idle, -, balance, -⟩ := clean stats ended
  exact ⟨pending, (congrArg _ routed).trans accepted, ended, idle default, registered,
    balance.symm.trans registered⟩

end DispatchLoop

end MessageRelay
