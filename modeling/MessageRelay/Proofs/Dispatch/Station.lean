import MessageRelay.Dispatch.Fleet
import MessageRelay.Proofs.Dispatch.Posts

/-!
One dispatcher of many, with what it has sent and received. It sends in its own name, takes what is
for it, answers no more requests than it received, and has a call pending only if the network took
the request. What it adds to the network it has sent.
-/
namespace MessageRelay

def RequestKey.askedBy (key : RequestKey) (e : Envelope) : Bool :=
  decide (e.message.kind = .request ∧ e.sender = key.sender ∧ e.message.id? = some key.id)

theorem RequestKey.asks_of_askedBy {key : RequestKey} {e : Envelope}
    (asked : key.askedBy e = true) : e.asks key.id = true := by
  obtain ⟨kind, -, named⟩ := of_decide_eq_true asked
  exact decide_eq_true ⟨kind, named⟩

namespace DispatchMachine

variable {η β : Type} {m : DispatchMachine η β}

theorem advance_not_routed (now : Nanos) (count : Nat) (below : List (DispatchFrame β))
    (outcome : InboundOutcome η) : (m.advance now count below).1 ≠ .routed outcome := by
  unfold advance
  split <;> simp

theorem operate_not_routed {move : DispatchMove β}
    (other : ∀ sender message, move ≠ .inbound sender message) (outcome : InboundOutcome η) :
    (m.operate move).1 ≠ .routed outcome := by
  cases move with
  | inbound sender message => exact absurd rfl (other sender message)
  | reply number r | conclude number o | drop ticket =>
    simp only [operate]
    split <;> simp [withSite]
  | request id target typeName payload timeout =>
    simp only [operate]
    split <;> simp
  | poll ticket =>
    simp only [operate]
    split
    · simp
    · split <;> simp
  | _ => simp [operate, withSite]

theorem received_imp_askedBy {key : RequestKey} {e : Envelope} {answer : DispatchAnswer η}
    (arrives : received key m (.inbound e.sender e.message) answer = true) :
    key.askedBy e = true := by
  unfold received at arrives
  split at arrives
  · have about := of_decide_eq_true arrives
    simp only [about?] at about
    split at about
    · rename_i kind
      obtain ⟨id, named, rfl⟩ := Option.map_eq_some_iff.mp about
      exact decide_eq_true ⟨kind, rfl, named⟩
    · cases about
  · cases arrives

theorem step_not_routed {move : DispatchMove β}
    (other : ∀ sender message, move ≠ .inbound sender message) (outcome : InboundOutcome η) :
    (m.step move).1 ≠ .routed outcome := by
  unfold step
  split
  · exact advance_not_routed _ _ _ _
  · simp
  · simp
  · exact operate_not_routed other outcome

end DispatchMachine

namespace Station

variable {η β : Type} {s t : Station η β}

def sent (s : Station η β) : List Envelope := taken s.machine.sends

def table (s : Station η β) : CallTable β := s.machine.site.dispatcher.table

def fresh (name : PeerName) (registry : Registry η) (defaultTimeout : Nanos) (network : Network) :
    Station η β := ⟨.fresh name registry defaultTimeout network, []⟩

/-- What always holds of a dispatcher. -/
structure Sound (s : Station η β) : Prop where
  coherent : s.machine.Coherent
  calls : s.machine.calls.Coherent
  awaited : s.machine.calls.AllAwaited
  own : ∀ e ∈ s.sent, e.sender = s.name
  mine : ∀ e ∈ s.received, e.recipient = s.name
  answers : ∀ key, s.machine.repliesTo key + s.machine.possible key ≤ s.received.countP key.askedBy
  entry : ∀ {id call}, s.table.find? id = some call → ∃ target payload,
    call.info.target? = some target ∧
      .of s.name target (.request call.info.typeName payload id) ∈ s.sent

theorem Sound.on (h : s.Sound) (network : Network) : (s.on network).Coherent :=
  h.coherent.shrink (List.Sublist.refl _) rfl rfl

theorem Sound.fresh (name : PeerName) (registry : Registry η) (defaultTimeout : Nanos)
    (network : Network) : (fresh name registry defaultTimeout network : Station η β).Sound where
  coherent := .fresh name registry defaultTimeout network
  calls := CallMachine.Coherent.empty
  awaited id call found := by cases found
  own e member := absurd member List.not_mem_nil
  mine e member := absurd member List.not_mem_nil
  answers key := Nat.le_refl 0
  entry found := by cases found

/-- What a move of a dispatcher leaves of it and of the network. What the network carries more was
sent, with a request of this id at most; and what is or may be answered more was received. -/
structure Moved (id? : Option CorrelationId) (network : Network) (s t : Station η β) : Prop where
  name : t.name = s.name
  sent : ∃ more, t.sent = s.sent ++ more
  carried : ∀ p, t.machine.site.network.carried.countP p + s.sent.countP p ≤
    network.carried.countP p + t.sent.countP p
  asked : ∀ id, t.sent.countP (Envelope.asks id) ≤
    s.sent.countP (Envelope.asks id) + if id? = some id then 1 else 0
  answers : ∀ key,
    t.machine.repliesTo key + t.machine.possible key + s.received.countP key.askedBy ≤
      s.machine.repliesTo key + s.machine.possible key + t.received.countP key.askedBy
  calls : ∃ moves, t.machine.calls = s.machine.calls.run moves

def Paid (s : Station η β) (network : Network) (move : DispatchMove β) (received : List Envelope) :
    Prop :=
  ∀ key, s.received.countP key.askedBy +
    (DispatchMachine.received key (s.on network) move ((s.on network).step move).1).toNat ≤
      received.countP key.askedBy

theorem paid_of_other (network : Network) {move : DispatchMove β}
    (other : ∀ sender message, move ≠ .inbound sender message) :
    s.Paid network move s.received := fun key => by
  have none :
      DispatchMachine.received key (s.on network) move ((s.on network).step move).1 = false := by
    unfold DispatchMachine.received
    split
    · rename_i outcome routed
      exact absurd routed (DispatchMachine.step_not_routed other outcome)
    · rfl
  rw [none]
  exact Nat.le_refl _

theorem paid_inbound (e : Envelope) (network : Network) :
    s.Paid network (.inbound e.sender e.message) (e :: s.received) := fun key => by
  rw [List.countP_cons]
  refine Nat.add_le_add_left ?_ _
  split
  · exact Bool.toNat_le _
  · rename_i foreign
    rw [Bool.eq_false_iff.mpr fun arrives => foreign (DispatchMachine.received_imp_askedBy arrives)]
    exact Nat.le_refl _

theorem countP_sent (key : RequestKey) (s : Station η β) :
    s.sent.countP key.answeredBy = s.machine.repliesTo key := countP_taken _ _

theorem Sound.request_received (h : s.Sound) {key : RequestKey} {e : Envelope} (sent : e ∈ s.sent)
    (answers : key.answeredBy e = true) : ∃ x ∈ s.received, key.askedBy x = true := by
  have some : 0 < s.sent.countP key.answeredBy := List.countP_pos_iff.mpr ⟨e, sent, answers⟩
  have paid := h.answers key
  rw [countP_sent] at some
  exact List.countP_pos_iff.mp (by omega)

section step

variable {network : Network} {move : DispatchMove β} {received : List Envelope}

theorem Sound.moved (h : s.Sound) (inside : ∀ n, move ≠ .network n)
    (paid : s.Paid network move received) :
    Moved move.issued? network s ⟨((s.on network).step move).2, received⟩ := by
  let t : Station η β := ⟨((s.on network).step move).2, received⟩
  obtain ⟨more, posts, asked⟩ := (s.on network).step_posts inside
  have grown : t.sent = s.sent ++ taken more := posts.taken
  refine ⟨posts.name, ⟨taken more, grown⟩, fun p => ?_, fun id => ?_, fun key => ?_, ?_⟩
  · have le : t.machine.site.network.carried.countP p ≤
        network.carried.countP p + (taken more).countP p := posts.carried p
    change t.machine.site.network.carried.countP p + s.sent.countP p ≤
      network.carried.countP p + t.sent.countP p
    rw [grown, List.countP_append]
    omega
  · change t.sent.countP (Envelope.asks id) ≤ _
    rw [grown, List.countP_append]
    exact Nat.add_le_add_left (asked id) _
  · have once := ((s.on network).step_traffic move).replies_le (h.on network) key
    have before : (s.on network).repliesTo key + (s.on network).possible key =
        s.machine.repliesTo key + s.machine.possible key := rfl
    have arrived := paid key
    dsimp only
    omega
  · exact ⟨_, DispatchMachine.step_calls (m := s.on network) h.calls move⟩

theorem Sound.step (h : s.Sound) (inside : ∀ n, move ≠ .network n)
    (mine : ∀ e ∈ received, e.recipient = s.name) (paid : s.Paid network move received) :
    Sound ⟨((s.on network).step move).2, received⟩ := by
  let t : Station η β := ⟨((s.on network).step move).2, received⟩
  have calls := DispatchMachine.step_calls (m := s.on network) h.calls move
  have moved := h.moved inside paid
  obtain ⟨more, posts, -⟩ := (s.on network).step_posts inside
  have name : t.name = s.name := posts.name
  have grown : t.sent = s.sent ++ taken more := posts.taken
  refine ⟨(h.on network).step move, calls ▸ h.calls.run _, ?_, ?_, ?_, fun key => ?_, ?_⟩
  · exact calls ▸ h.awaited.run h.calls _
  · change ∀ e ∈ t.sent, e.sender = t.name
    rw [name, grown]
    intro e member
    rcases List.mem_append.mp member with old | new
    · exact h.own e old
    · exact posts.own _ (mem_taken.mp new)
  · exact fun e member => (mine e member).trans name.symm
  · have balance := moved.answers key
    have before := h.answers key
    dsimp only at balance ⊢
    omega
  · intro id call found
    change ∃ target payload, call.info.target? = some target ∧
      Envelope.of t.name target (.request call.info.typeName payload id) ∈ t.sent
    rw [name, grown]
    rcases DispatchMachine.step_entry (m := s.on network) h.calls move found with old | new
    · obtain ⟨target, payload, info, asked⟩ := h.entry old
      exact ⟨target, payload, info, List.mem_append_left _ asked⟩
    · obtain ⟨target, payload, info, sends⟩ := new
      refine ⟨target, payload, info, grown ▸ mem_taken.mpr ?_⟩
      exact sends ▸ List.mem_append_right _ (List.mem_singleton.mpr rfl)

end step

end Station

end MessageRelay
