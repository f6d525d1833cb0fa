import MessageRelay.Network
import Mathlib.Data.List.Basic

/-!
What a network carries. Sending adds one envelope if it is not refused, receiving takes one out, and
nothing else adds any.
-/
namespace MessageRelay

theorem countP_flatMap_set {α γ : Type} {l : List α} {k : Nat} {a : α} (at? : l[k]? = some a)
    (b : α) (has : α → List γ) (p : γ → Bool) :
    ((l.set k b).flatMap has).countP p + (has a).countP p =
      (l.flatMap has).countP p + (has b).countP p := by
  induction l generalizing k with
  | nil => cases at?
  | cons c l ih =>
    cases k with
    | zero =>
      cases at?
      simp only [List.set_cons_zero, List.flatMap_cons, List.countP_append]
      omega
    | succ k =>
      have rest := ih (k := k) at?
      simp only [List.set_cons_succ, List.flatMap_cons, List.countP_append]
      omega

namespace Network

variable {n : Network} {p : Envelope → Bool}

/-- All envelopes that wait in lanes. -/
def carried (n : Network) : List Envelope := n.lanes.toList.flatMap (·.waiting)

theorem modify_of_outside (f : Lane → Lane) {lane : LaneId} (outside : n.lanes.size ≤ lane) :
    n.modify f lane = n := by
  have same : n.lanes.modify lane f = n.lanes := by
    apply Array.ext'
    rw [Array.toList_modify, List.modify_eq_self (by simpa using outside)]
  rw [modify, same]

theorem carried_modify (f : Lane → Lane) {lane : LaneId} (there : lane < n.lanes.size) :
    (n.modify f lane).carried.countP p + (n.lane lane).waiting.countP p =
      n.carried.countP p + (f (n.lane lane)).waiting.countP p := by
  have found : n.lanes.toList[lane]? = some (n.lane lane) := by
    simp [Network.lane, there]
  have set : (n.modify f lane).lanes.toList = n.lanes.toList.set lane (f (n.lane lane)) := by
    rw [modify, Array.toList_modify, List.modify_eq_set_getElem?, found]
    rfl
  rw [carried, carried, set]
  exact countP_flatMap_set found _ _ p

theorem carried_modify_of_waiting {f : Lane → Lane} (same : ∀ l, (f l).waiting = l.waiting)
    (lane : LaneId) : (n.modify f lane).carried.countP p = n.carried.countP p := by
  by_cases there : lane < n.lanes.size
  · have changed := carried_modify (p := p) f there
    rw [same] at changed
    omega
  · rw [modify_of_outside f (Nat.le_of_not_lt there)]

theorem carried_detach (peer : PeerName) (n : Network) :
    (n.detach peer).2.carried.countP p = n.carried.countP p := by
  unfold detach
  split
  · rfl
  · rename_i lane _
    exact carried_modify_of_waiting (f := fun l => { l with attached := false }) (fun _ => rfl) lane

theorem carried_attach (peer : PeerName) (n : Network) :
    (n.attach peer).2.carried.countP p = n.carried.countP p := by
  rw [← carried_detach peer n]
  have lanes : (n.attach peer).2.carried = (n.detach peer).2.carried ++ [] := by
    simp only [attach, carried, Array.toList_push, List.flatMap_append]
    rfl
  rw [lanes, List.append_nil]

theorem carried_dropLane_le (lane : LaneId) (n : Network) :
    (n.dropLane lane).carried.countP p ≤ n.carried.countP p := by
  by_cases there : lane < n.lanes.size
  · have changed := carried_modify (p := p) (fun l => { l with waiting := [], held := false }) there
    exact Nat.le_of_add_right_le (Nat.le_of_eq changed)
  · exact Nat.le_of_eq (by rw [dropLane, modify_of_outside _ (Nat.le_of_not_lt there)])

theorem carried_receive {lane : LaneId} {e : Envelope} {m : Network}
    (received : n.receive lane = (.envelope e, m)) :
    m.carried.countP p + [e].countP p = n.carried.countP p := by
  simp only [receive] at received
  split at received
  · rename_i first rest waiting
    simp only [Prod.mk.injEq, Received.envelope.injEq] at received
    obtain ⟨rfl, rfl⟩ := received
    have there : lane < n.lanes.size := by
      by_contra outside
      simp [Network.lane, Array.getD, outside] at waiting
    have changed := carried_modify (p := p) (fun l => { l with waiting := rest }) there
    rw [waiting, ← List.singleton_append, List.countP_append] at changed
    dsimp only at changed
    omega
  · simp only [Prod.mk.injEq] at received
    split at received <;> cases received.1

theorem mem_carried_of_receive {lane : LaneId} {e : Envelope} {m : Network}
    (received : n.receive lane = (.envelope e, m)) : e ∈ n.carried := by
  classical
  have taken := carried_receive (p := fun x => decide (x = e)) received
  rw [List.countP_singleton, if_pos (decide_eq_true rfl)] at taken
  have some : 0 < n.carried.countP fun x => decide (x = e) := by omega
  obtain ⟨x, there, same⟩ := List.countP_pos_iff.mp some
  exact of_decide_eq_true same ▸ there

theorem receive_of_other {lane : LaneId} {m : Network} {received : Received}
    (other : ∀ e, received ≠ .envelope e) (result : n.receive lane = (received, m)) : m = n := by
  simp only [receive] at result
  split at result <;> cases result
  · exact absurd rfl (other _)
  · rfl

theorem carried_send_le (e : Envelope) (n : Network) :
    (n.send e).2.carried.countP p ≤
      n.carried.countP p + if n.refusal? e.recipient = none then [e].countP p else 0 := by
  unfold send
  split
  · rename_i error refused
    split <;> exact Nat.le_add_right _ _
  · rename_i taken
    dsimp only
    split
    · rename_i lane _
      let counted : Network := { n with delivered := n.delivered + 1 }
      let add : Lane → Lane := fun l => { l with waiting := l.waiting ++ [e] }
      have same : counted.carried = n.carried := rfl
      change (counted.modify add lane).carried.countP p ≤ _
      by_cases there : lane < counted.lanes.size
      · have changed := carried_modify (p := p) add there
        rw [List.countP_append] at changed
        rw [if_pos taken, ← same]
        omega
      · rw [modify_of_outside _ (Nat.le_of_not_lt there)]
        exact Nat.le_add_right _ _
    · exact Nat.le_add_right _ _

end Network

end MessageRelay
