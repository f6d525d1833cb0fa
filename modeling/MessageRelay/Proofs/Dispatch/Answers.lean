import MessageRelay.Proofs.Dispatch.Machine

/-!
No request is answered twice. A request that is in flight is worth one reply: receiving it makes
the reply possible, and an answer uses it up. Counted along a run, the replies that were sent under
a key and the one that is still possible are no more than the requests received under that key.
-/
namespace MessageRelay

def RequestKey.answeredBy (key : RequestKey) (e : Envelope) : Bool :=
  decide (e.message.kind = .reply ∧ e.recipient = key.sender ∧ e.message.id? = some key.id)

theorem answeredBy_reply {η β : Type} (s : Site η β) (key own : RequestKey) (typeName : String)
    (payload : Json) : key.answeredBy (s.sending own.sender (.reply own.id typeName payload)).1 =
      decide (own = key) := by
  cases own
  cases key
  simp only [RequestKey.answeredBy, Site.sending, Envelope.of, Message.reply, RequestKey.mk.injEq,
    Option.some.injEq, true_and, and_comm]

theorem Outcome.message?_eq_reply {o : Outcome} {id : CorrelationId} {m : Message}
    (h : o.message? id = some m) : ∃ typeName payload, m = .reply id typeName payload := by
  unfold Outcome.message? at h
  split at h
  · exact ⟨_, _, (Option.some.inj h).symm⟩
  · obtain ⟨e, -, rfl⟩ := Option.map_eq_some_iff.mp h
    exact ⟨_, _, rfl⟩

namespace Site

variable {η β : Type} {s : Site η β} {v : Invocation} {o : Outcome}

theorem length_conclusion_le : (s.conclusion v o).length ≤ 1 := by
  unfold conclusion
  split
  · exact Nat.zero_le 1
  · split
    · rw [List.length_map]
      exact Option.length_toList_le
    · exact Nat.zero_le 1

theorem conclusion_of_over (past : ∀ key, v.key? = some key → key ∉ s.dispatcher.inFlight) :
    s.conclusion v o = [] := by
  unfold conclusion
  split
  · rfl
  · rename_i key named
    exact if_neg (past key named)

theorem answeredBy_conclusion {x : Sending} (sent : x ∈ s.conclusion v o) (key : RequestKey) :
    key.answeredBy x.1 = decide (v.key? = some key) := by
  unfold conclusion at sent
  split at sent
  · cases sent
  · rename_i own named
    split at sent
    · obtain ⟨m, said, rfl⟩ := List.mem_map.mp sent
      obtain ⟨typeName, payload, rfl⟩ := Outcome.message?_eq_reply (Option.mem_toList.mp said)
      rw [answeredBy_reply]
      simp only [named, Option.some.injEq]
    · cases sent

end Site

namespace DispatchMachine

variable {η β : Type} {m n : DispatchMachine η β} {key : RequestKey} {move : DispatchMove β}
  {answer : DispatchAnswer η}

/-- How often something happens along a run. -/
def timesIn (happens : DispatchMachine η β → DispatchMove β → DispatchAnswer η → Bool) :
    DispatchMachine η β → List (DispatchMove β) → Nat
  | _, [] => 0
  | m, move :: moves =>
    (happens m move (m.step move).1).toNat + timesIn happens (m.step move).2 moves

def received (key : RequestKey) (m : DispatchMachine η β) (move : DispatchMove β) :
    DispatchAnswer η → Bool
  | .routed _ => m.about? move = some key
  | _ => false

def accepted (key : RequestKey) (m : DispatchMachine η β) (move : DispatchMove β) :
    DispatchAnswer η → Bool
  | .routed (.dispatched ..) => m.about? move = some key
  | _ => false

/-- A caller is told that its reply to this request was sent. -/
def told (key : RequestKey) (m : DispatchMachine η β) (move : DispatchMove β) :
    DispatchAnswer η → Bool
  | .replied (.ok true) => m.about? move = some key
  | _ => false

def repliesTo (key : RequestKey) (m : DispatchMachine η β) : Nat :=
  m.sends.countP fun x => x.2.isNone && key.answeredBy x.1

/-- Replies to this request that are still possible. -/
def possible (key : RequestKey) (m : DispatchMachine η β) : Nat := if key ∈ m.inFlight then 1 else 0

theorem repliesTo_of_sends {sent : List Sending} (sends : n.sends = m.sends ++ sent) :
    n.repliesTo key = m.repliesTo key + sent.countP fun x => x.2.isNone && key.answeredBy x.1 := by
  rw [repliesTo, sends, List.countP_append]
  rfl

theorem repliesTo_of_foreign {sent : List Sending} (sends : n.sends = m.sends ++ sent)
    (foreign : ∀ x ∈ sent, key.answeredBy x.1 = false) : n.repliesTo key = m.repliesTo key := by
  have none : (sent.countP fun x => x.2.isNone && key.answeredBy x.1) = 0 :=
    List.countP_eq_zero.mpr fun x member => by simp [foreign x member]
  rw [repliesTo_of_sends sends, none, Nat.add_zero]

theorem possible_of_iff {key : RequestKey} (same : key ∈ n.inFlight ↔ key ∈ m.inFlight) :
    n.possible key = m.possible key := by
  simp only [possible, same]

theorem possible_of_inFlight (same : n.inFlight = m.inFlight) : n.possible key = m.possible key :=
  possible_of_iff (by rw [same])

theorem repliesTo_of_same (same : n.sends = m.sends) : n.repliesTo key = m.repliesTo key := by
  rw [repliesTo, same]
  rfl

theorem about?_inbound {sender : PeerName} {message : Message} (kind : message.kind = .request) :
    m.about? (.inbound sender message) = message.id?.map fun id => ⟨id, sender⟩ := by
  simp only [about?, kind, if_true]

theorem about?_conclude {number : Nat} {v : Invocation} {o : Outcome}
    (runs : m.running? number = some v) : m.about? (.conclude number o) = v.key? := by
  simp only [about?, runs, Option.bind_some]

theorem Traffic.sends_foreign (traffic : m.Traffic move answer n)
    (other : m.about? move ≠ some key) :
    ∃ sent, n.sends = m.sends ++ sent ∧ ∀ x ∈ sent, key.answeredBy x.1 = false := by
  cases traffic with
  | asked asks =>
    obtain ⟨-, asked, kind, sends⟩ := asks
    exact ⟨asked, sends, fun x member => by simp [RequestKey.answeredBy, kind x member]⟩
  | unhandled kind _ sends =>
    refine ⟨_, sends, fun x member => ?_⟩
    rw [about?_inbound kind] at other
    obtain ⟨id, named, rfl⟩ := List.mem_map.mp member
    rw [Option.mem_toList.mp named] at other
    rw [Message.errorReply, answeredBy_reply _ key ⟨id, _⟩]
    exact decide_eq_false fun same => other (congrArg some same)
  | dispatched _ _ _ _ _ sends => exact ⟨[], sends.trans (List.append_nil _).symm, nofun⟩
  | answered about _ _ sends =>
    refine ⟨_, sends, fun x member => ?_⟩
    rw [List.mem_singleton.mp member, answeredBy_reply]
    exact decide_eq_false fun same => other (about.trans (congrArg some same))
  | concluded runs _ sends =>
    rw [about?_conclude runs] at other
    refine ⟨_, sends, fun x member => ?_⟩
    rw [Site.answeredBy_conclusion member]
    exact decide_eq_false other

theorem Traffic.foreign (h : m.Coherent) (traffic : m.Traffic move answer n)
    (other : m.about? move ≠ some key) :
    (key ∈ n.inFlight ↔ key ∈ m.inFlight) ∧ n.repliesTo key = m.repliesTo key := by
  obtain ⟨sent, sends, foreign⟩ := traffic.sends_foreign other
  refine ⟨?_, repliesTo_of_foreign sends foreign⟩
  cases traffic with
  | asked asks => rw [show n.inFlight = m.inFlight from asks.1]
  | unhandled _ inFlight => rw [inFlight]
  | dispatched kind origin named _ inFlight =>
    rw [about?_inbound kind, ← named, ← origin] at other
    rw [inFlight, List.mem_append, Option.mem_toList]
    exact or_iff_right other
  | answered about _ inFlight =>
    have different := fun same => other (about.trans (congrArg some same))
    rw [inFlight, h.nodup.mem_erase_iff, and_iff_right fun same => different same.symm]
  | concluded runs inFlight =>
    rw [about?_conclude runs] at other
    rw [inFlight, mem_remaining h.nodup, and_iff_left other]
    rfl

theorem received_of_about (outcome : InboundOutcome η) (about : m.about? move = some key) :
    received key m move (.routed outcome) = true := decide_eq_true about

theorem possible_le_one (key : RequestKey) (m : DispatchMachine η β) : m.possible key ≤ 1 := by
  unfold possible
  split <;> omega

theorem possible_of_mem (open' : key ∈ m.inFlight) : m.possible key = 1 := if_pos open'

theorem possible_of_not_mem (past : key ∉ m.inFlight) : m.possible key = 0 := if_neg past

theorem repliesTo_le (key : RequestKey) {sent : List Sending} (sends : n.sends = m.sends ++ sent)
    (few : sent.length ≤ 1) : n.repliesTo key ≤ m.repliesTo key + 1 := by
  have le : (sent.countP fun x => x.2.isNone && key.answeredBy x.1) ≤ sent.length :=
    List.countP_le_length
  rw [repliesTo_of_sends sends]
  omega

theorem Traffic.replies_le (h : m.Coherent) (traffic : m.Traffic move answer n) (key : RequestKey) :
    n.repliesTo key + n.possible key ≤
      m.repliesTo key + m.possible key + (received key m move answer).toNat := by
  by_cases other : m.about? move ≠ some key
  · obtain ⟨same, replies⟩ := traffic.foreign h other
    rw [replies, possible_of_iff same]
    exact Nat.le_add_right _ _
  · have about : m.about? move = some key := not_not.mp other
    cases traffic with
    | asked asks =>
      obtain ⟨inFlight, asked, kind, sends⟩ := asks
      have same : n.possible key = m.possible key := possible_of_inFlight inFlight
      have none : n.repliesTo key = m.repliesTo key :=
        repliesTo_of_foreign sends fun x member => by simp [RequestKey.answeredBy, kind x member]
      omega
    | unhandled kind inFlight sends =>
      have arrived := received_of_about .unhandled about
      have sent := repliesTo_le key sends (by simp [Option.length_toList_le])
      have same : n.possible key = m.possible key := possible_of_inFlight inFlight
      rw [same, arrived, Bool.toNat_true]
      omega
    | @dispatched _ _ v handler _ kind origin named fresh inFlight sends =>
      have arrived := received_of_about (.dispatched v handler) about
      have le := possible_le_one key n
      have same : n.repliesTo key = m.repliesTo key := repliesTo_of_same sends
      rw [same, arrived, Bool.toNat_true]
      omega
    | answered own open' inFlight sends =>
      cases own.symm.trans about
      have past : key ∉ n.inFlight := inFlight ▸ h.nodup.not_mem_erase
      have sent := repliesTo_le key sends (Nat.le_refl 1)
      rw [possible_of_mem open', possible_of_not_mem past]
      omega
    | @concluded _ v o _ runs inFlight sends =>
      have own : v.key? = some key := about?_conclude runs ▸ about
      have past : key ∉ n.inFlight := inFlight ▸ not_mem_remaining h.nodup own
      rw [possible_of_not_mem past]
      by_cases open' : key ∈ m.inFlight
      · have sent := repliesTo_le key sends Site.length_conclusion_le
        rw [possible_of_mem open']
        omega
      · have nothing : m.site.conclusion v o = [] := Site.conclusion_of_over fun key' named => by
          cases own.symm.trans named
          exact open'
        rw [nothing, List.append_nil] at sends
        have same : n.repliesTo key = m.repliesTo key := repliesTo_of_same sends
        omega

theorem told_eq_true_iff :
    told key m move answer = true ↔ answer = .replied (.ok true) ∧ m.about? move = some key := by
  unfold told
  split
  · simp
  · rename_i other
    exact ⟨fun yes => (Bool.false_ne_true yes).elim, fun yes => (other yes.1).elim⟩

theorem told_of_other (other : answer ≠ .replied (.ok true)) : told key m move answer = false :=
  Bool.eq_false_iff.mpr fun yes => other (told_eq_true_iff.mp yes).1

theorem Traffic.told_le (h : m.Coherent) (traffic : m.Traffic move answer n) (key : RequestKey) :
    n.possible key + (told key m move answer).toNat ≤
      m.possible key + (accepted key m move answer).toNat := by
  by_cases other : m.about? move ≠ some key
  · have untold : told key m move answer = false :=
      Bool.eq_false_iff.mpr fun yes => other (told_eq_true_iff.mp yes).2
    rw [possible_of_iff (traffic.foreign h other).1, untold]
    exact Nat.le_add_right _ _
  · have about : m.about? move = some key := not_not.mp other
    cases traffic with
    | asked asks _ _ untold =>
      rw [possible_of_inFlight asks.1, told_of_other untold]
      exact Nat.le_add_right _ _
    | unhandled _ inFlight =>
      rw [possible_of_inFlight inFlight, told_of_other (by simp)]
      exact Nat.le_add_right _ _
    | @dispatched _ _ v handler _ kind origin named fresh inFlight sends =>
      have started : accepted key m _ (.routed (.dispatched v handler)) = true :=
        decide_eq_true about
      have le := possible_le_one key n
      rw [told_of_other (by simp), started, Bool.toNat_true, Bool.toNat_false]
      omega
    | answered own open' inFlight sends =>
      cases own.symm.trans about
      have past : key ∉ n.inFlight := inFlight ▸ h.nodup.not_mem_erase
      have once := Bool.toNat_le (told key m move (.replied (m.site.told true key.sender)))
      rw [possible_of_mem open', possible_of_not_mem past]
      omega
    | @concluded _ v _ _ runs inFlight sends =>
      have own : v.key? = some key := about?_conclude runs ▸ about
      have past : key ∉ n.inFlight := inFlight ▸ not_mem_remaining h.nodup own
      rw [possible_of_not_mem past, told_of_other (by simp)]
      exact Nat.zero_le _

theorem Traffic.of_told (h : m.Coherent) (traffic : m.Traffic move answer n)
    (yes : answer = .replied (.ok true)) : ∃ own, m.about? move = some own ∧ own ∈ m.inFlight ∧
      own ∉ n.inFlight ∧ n.repliesTo own = m.repliesTo own + 1 := by
  cases traffic with
  | asked _ _ _ untold => exact absurd yes untold
  | unhandled => cases yes
  | dispatched => cases yes
  | concluded => cases yes
  | @answered _ own r _ about open' inFlight sends =>
    refine ⟨own, about, open', inFlight ▸ h.nodup.not_mem_erase, ?_⟩
    have taken : m.site.network.refusal? own.sender = none := by
      simp only [Site.told] at yes
      split at yes
      · assumption
      · cases yes
    have answers := answeredBy_reply m.site own own r.typeName r.payload
    have accepted : (m.site.sending own.sender (.reply own.id r.typeName r.payload)).2 = none :=
      taken
    rw [decide_eq_true rfl] at answers
    rw [repliesTo_of_sends sends, List.countP_singleton, answers, accepted]
    rfl

/-- Where each move that gains something has it paid for, so has the run. -/
theorem timesIn_balance (worth : DispatchMachine η β → Nat)
    (gains costs : DispatchMachine η β → DispatchMove β → DispatchAnswer η → Bool)
    (paid : ∀ m : DispatchMachine η β, m.Coherent → ∀ move,
      worth (m.step move).2 + (gains m move (m.step move).1).toNat ≤
        worth m + (costs m move (m.step move).1).toNat)
    (h : m.Coherent) (moves : List (DispatchMove β)) :
    worth (m.run moves) + m.timesIn gains moves ≤ worth m + m.timesIn costs moves := by
  induction moves generalizing m with
  | nil => exact Nat.le_refl _
  | cons move moves ih =>
    -- What the first move gains it pays for itself, and the rest of the run does so by induction.
    have first := paid m h move
    have rest := ih (h.step move)
    rw [run_cons, timesIn, timesIn]
    omega

theorem replies_add_possible_le (h : m.Coherent) (key : RequestKey)
    (moves : List (DispatchMove β)) :
    (m.run moves).repliesTo key + (m.run moves).possible key ≤
      m.repliesTo key + m.possible key + m.timesIn (received key) moves := by
  have balance := timesIn_balance (fun m => m.repliesTo key + m.possible key) (fun _ _ _ => false)
    (received key) (fun m coherent move => (step_traffic m move).replies_le coherent key) h moves
  omega

/-- For every run of a new dispatcher and every sender and id: the replies that the network took are
no more than the requests received, and those who were told that their reply was sent are no more
than the requests that started a handler. To be told so uses up such a request of the same sender
and id; and what is done about one sender and id leaves the others as they are. -/
theorem replies_le_requests (name : PeerName) (registry : Registry η) (defaultTimeout : Nanos)
    (network : Network) (moves : List (DispatchMove β)) (key : RequestKey) :
    let start : DispatchMachine η β := fresh name registry defaultTimeout network
    let m := start.run moves
    m.repliesTo key ≤ start.timesIn (received key) moves ∧
    start.timesIn (told key) moves ≤ start.timesIn (accepted key) moves ∧
    ∀ move, let n := (m.step move).2
      ((m.step move).1 = .replied (.ok true) → ∃ own, m.about? move = some own ∧
        (∃ number, m.Opened number own) ∧ own ∉ n.inFlight ∧
        n.repliesTo own = m.repliesTo own + 1) ∧
      (m.about? move ≠ some key →
        (key ∈ n.inFlight ↔ key ∈ m.inFlight) ∧ n.repliesTo key = m.repliesTo key) := by
  intro start m
  have coherent : start.Coherent := Coherent.fresh name registry defaultTimeout network
  have there : m.Coherent := coherent.run moves
  refine ⟨?_, ?_, fun move => ⟨fun answer => ?_, fun other => ?_⟩⟩
  · have bound : m.repliesTo key + m.possible key ≤
        start.repliesTo key + start.possible key + start.timesIn (received key) moves :=
      replies_add_possible_le coherent key moves
    have none : start.repliesTo key + start.possible key = 0 := rfl
    omega
  · have bound := timesIn_balance (possible key) (told key) (accepted key)
      (fun m coherent move => (step_traffic m move).told_le coherent key) coherent moves
    have none : start.possible key = 0 := rfl
    omega
  · obtain ⟨own, about, open', past, replies⟩ := (step_traffic m move).of_told there answer
    obtain ⟨number, -, opened⟩ := there.opened own open'
    exact ⟨own, about, ⟨number, opened⟩, past, replies⟩
  · exact (step_traffic m move).foreign there other

end DispatchMachine

end MessageRelay
