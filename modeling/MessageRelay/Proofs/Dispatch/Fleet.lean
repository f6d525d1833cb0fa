import MessageRelay.Proofs.Dispatch.Station
import Mathlib.Algebra.Order.BigOperators.Group.List
import Mathlib.Algebra.Order.Group.Nat

/-!
Conservation over a network. Of every kind of envelope, no more were received or are carried than
were sent, and no more requests of an id were sent than the id was made. With what each dispatcher
does by itself this bounds, one after another, the replies received, the replies sent, the requests
received and the requests sent; where no id is made twice, there is one of each at most.
-/
namespace MessageRelay

theorem eq_of_countP_le_one {α : Type} {l : List α} {p : α → Bool} (few : l.countP p ≤ 1) {a b : α}
    (ha : a ∈ l) (hb : b ∈ l) (pa : p a = true) (pb : p b = true) : a = b := by
  rw [List.countP_eq_length_filter] at few
  have ha := List.mem_filter.mpr ⟨ha, pa⟩
  have hb := List.mem_filter.mpr ⟨hb, pb⟩
  match kept : l.filter p, few with
  | [], _ => rw [kept] at ha; cases ha
  | [c], _ =>
    rw [kept, List.mem_singleton] at ha hb
    exact ha.trans hb.symm

theorem subset_of_countP_le {α : Type} {l l' : List α}
    (le : ∀ p : α → Bool, l.countP p ≤ l'.countP p) {a : α} (member : a ∈ l) : a ∈ l' := by
  classical
  have once : 0 < l.countP (fun b => decide (b = a)) :=
    List.countP_pos_iff.mpr ⟨a, member, decide_eq_true rfl⟩
  obtain ⟨b, there, same⟩ := List.countP_pos_iff.mp (Nat.lt_of_lt_of_le once (le _))
  exact of_decide_eq_true same ▸ there

def FleetMove.issued? {η β : Type} : FleetMove η β → Option CorrelationId
  | .act _ move => move.issued?
  | _ => none

@[simp] theorem FleetMove.issued?_receive {η β : Type} (station : Nat) (lane : LaneId) :
    (FleetMove.receive station lane : FleetMove η β).issued? = none := rfl

structure Station.Later {η β : Type} (s t : Station η β) : Prop where
  name : t.name = s.name
  sent : ∃ more, t.sent = s.sent ++ more
  received : ∃ more, t.received = more ++ s.received
  calls : ∃ moves, t.machine.calls = s.machine.calls.run moves

namespace Station.Later

variable {η β : Type} {s t u : Station η β}

theorem refl (s : Station η β) : s.Later s :=
  ⟨rfl, ⟨[], (List.append_nil _).symm⟩, ⟨[], rfl⟩, ⟨[], rfl⟩⟩

theorem trans (h : s.Later t) (h' : t.Later u) : s.Later u := by
  obtain ⟨name, ⟨sent, hs⟩, ⟨received, hr⟩, moves, hm⟩ := h
  obtain ⟨name', ⟨sent', hs'⟩, ⟨received', hr'⟩, moves', hm'⟩ := h'
  refine ⟨name'.trans name, ⟨sent ++ sent', ?_⟩, ⟨received' ++ received, ?_⟩, moves ++ moves', ?_⟩
  · rw [hs', hs, List.append_assoc]
  · rw [hr', hr, List.append_assoc]
  · rw [hm', hm, CallMachine.run_append]

theorem of_moved {id? : Option CorrelationId} {network : Network} {arrived : List Envelope}
    (moved : Moved id? network s t) (received : t.received = arrived ++ s.received) : s.Later t :=
  ⟨moved.name, moved.sent, ⟨arrived, received⟩, moved.calls⟩

theorem mem_sent (h : s.Later t) {e : Envelope} (sent : e ∈ s.sent) : e ∈ t.sent := by
  obtain ⟨more, grown⟩ := h.sent
  exact grown ▸ List.mem_append_left _ sent

theorem mem_received (h : s.Later t) {e : Envelope} (received : e ∈ s.received) :
    e ∈ t.received := by
  obtain ⟨more, grown⟩ := h.received
  exact grown ▸ List.mem_append_right _ received

end Station.Later

namespace Fleet

variable {η β : Type} {f g : Fleet η β} {ids : List CorrelationId}

/-- All that the network ever took. -/
def sent (f : Fleet η β) : List Envelope := f.stations.flatMap Station.sent

def received (f : Fleet η β) : List Envelope := f.stations.flatMap (·.received)

theorem mem_flatMap_stations {has : Station η β → List Envelope} {e : Envelope} :
    e ∈ f.stations.flatMap has ↔
      ∃ (k : Nat) (s : Station η β), f.stations[k]? = some s ∧ e ∈ has s := by
  rw [List.mem_flatMap]
  constructor
  · rintro ⟨s, there, member⟩
    obtain ⟨k, at?⟩ := List.mem_iff_getElem?.mp there
    exact ⟨k, s, at?, member⟩
  · rintro ⟨k, s, at?, member⟩
    exact ⟨s, List.mem_of_getElem? at?, member⟩

theorem mem_sent {k : Nat} {s : Station η β} (at? : f.stations[k]? = some s) {e : Envelope}
    (member : e ∈ s.sent) : e ∈ f.sent := mem_flatMap_stations.mpr ⟨k, s, at?, member⟩

theorem mem_received {k : Nat} {s : Station η β} (at? : f.stations[k]? = some s) {e : Envelope}
    (member : e ∈ s.received) : e ∈ f.received := mem_flatMap_stations.mpr ⟨k, s, at?, member⟩

/-- What holds of dispatchers and network at any time, where requests were made of these ids. -/
structure Sound (f : Fleet η β) (ids : List CorrelationId) : Prop where
  station : ∀ s ∈ f.stations, s.Sound
  conserved : ∀ p, f.received.countP p + f.network.carried.countP p ≤ f.sent.countP p
  asked : ∀ id, f.sent.countP (Envelope.asks id) ≤ ids.count id

/-- All that a move may do: the network changes, and carries no more; one more dispatcher is there;
or a dispatcher moves, and takes what arrives for it. -/
inductive Change (f : Fleet η β) (id? : Option CorrelationId) : Fleet η β → Prop
  | network {n : Network} (carried : ∀ p, n.carried.countP p ≤ f.network.carried.countP p) :
    Change f id? { f with network := n }
  | joined (name : PeerName) (registry : Registry η) (defaultTimeout : Nanos) :
    Change f id?
      { f with stations := f.stations ++ [.fresh name registry defaultTimeout f.network] }
  | moved {k : Nat} {s t : Station η β} {network : Network} {arrived : List Envelope}
    (at? : f.stations[k]? = some s) (moved : Station.Moved id? network s t) (sound : t.Sound)
    (received : t.received = arrived ++ s.received)
    (balance : ∀ p, network.carried.countP p + arrived.countP p ≤ f.network.carried.countP p) :
    Change f id? (f.put k t)

theorem Sound.station_at (h : f.Sound ids) {k : Nat} {s : Station η β}
    (at? : f.stations[k]? = some s) : s.Sound := h.station s (List.mem_of_getElem? at?)

theorem take_change (h : f.Sound ids) {k : Nat} {s : Station η β} (at? : f.stations[k]? = some s)
    {lane : LaneId} {e : Envelope} {network : Network}
    (taken : f.network.receive lane = (.envelope e, network)) (mine : e.recipient = s.name) :
    Change f none (f.put k (s.take e network).2) := by
  have sound := h.station_at at?
  have paid := s.paid_inbound e network
  have all : ∀ x ∈ e :: s.received, x.recipient = s.name := fun x member => by
    rcases List.mem_cons.mp member with rfl | old
    · exact mine
    · exact sound.mine x old
  have arrives : (s.take e network).2.received = [e] ++ s.received := rfl
  exact .moved at? (sound.moved (by simp) paid) (sound.step (by simp) all paid) arrives
    fun p => Nat.le_of_eq (Network.carried_receive taken)

theorem act_change (h : f.Sound ids) {k : Nat} {s : Station η β} (at? : f.stations[k]? = some s)
    {move : DispatchMove β} (inside : ∀ n, move ≠ .network n)
    (other : ∀ sender message, move ≠ .inbound sender message) :
    Change f move.issued? (f.put k (s.move move f.network).2) := by
  have sound := h.station_at at?
  have paid := Station.paid_of_other (s := s) f.network other
  have same : (s.move move f.network).2.received = [] ++ s.received := rfl
  exact .moved at? (sound.moved inside paid) (sound.step inside sound.mine paid) same
    fun p => Nat.le_refl _

theorem Change.refl (f : Fleet η β) (id? : Option CorrelationId) : Change f id? f :=
  .network (n := f.network) fun _ => Nat.le_refl _

theorem step_change (h : f.Sound ids) (move : FleetMove η β) :
    Change f move.issued? (f.step move).2 := by
  cases move with
  | attach peer => exact .network fun p => Nat.le_of_eq (Network.carried_attach peer f.network)
  | detach peer => exact .network fun p => Nat.le_of_eq (Network.carried_detach peer f.network)
  | dropLane lane => exact .network fun p => Network.carried_dropLane_le lane f.network
  | join name registry defaultTimeout => exact .joined name registry defaultTimeout
  | receive number lane =>
    simp only [step]
    split
    · exact .refl _ _
    · rename_i s at?
      split
      · exact .refl _ _
      · split
        · rename_i e network taken
          split
          · rename_i mine
            exact take_change h at? taken mine
          · exact .network fun p => Nat.le.intro (Network.carried_receive taken)
        · rename_i received network other taken
          have same := Network.receive_of_other (fun e envelope => other e (envelope ▸ rfl)) taken
          exact .network fun p => Nat.le_of_eq (by rw [same])
  | act number move =>
    simp only [step]
    split
    · exact .refl _ _
    · exact .refl _ _
    · exact .refl _ _
    · rename_i at? inside other
      exact act_change h at? inside other

namespace Sound

theorem mono (h : f.Sound ids) (more : List CorrelationId) : f.Sound (ids ++ more) where
  station := h.station
  conserved := h.conserved
  asked id := by
    rw [List.count_append]
    exact Nat.le_add_right_of_le (h.asked id)

theorem of_network (h : f.Sound ids) {network : Network}
    (carried : ∀ p, network.carried.countP p ≤ f.network.carried.countP p) :
    Sound { f with network := network } ids where
  station := h.station
  conserved p := Nat.le_trans (Nat.add_le_add_left (carried p) _) (h.conserved p)
  asked := h.asked

theorem join (h : f.Sound ids) (name : PeerName) (registry : Registry η) (defaultTimeout : Nanos) :
    Sound { f with stations := f.stations ++ [.fresh name registry defaultTimeout f.network] }
      ids := by
  let g : Fleet η β :=
    { f with stations := f.stations ++ [.fresh name registry defaultTimeout f.network] }
  have sends : g.sent = f.sent := by
    simp only [g, Fleet.sent, List.flatMap_append]
    exact List.append_nil _
  have receipts : g.received = f.received := by
    simp only [g, Fleet.received, List.flatMap_append]
    exact List.append_nil _
  refine ⟨fun s member => ?_, fun p => ?_, fun id => ?_⟩
  · rcases List.mem_append.mp member with old | new
    · exact h.station s old
    · exact List.mem_singleton.mp new ▸ .fresh name registry defaultTimeout f.network
  · change g.received.countP p + f.network.carried.countP p ≤ g.sent.countP p
    rw [sends, receipts]
    exact h.conserved p
  · change g.sent.countP _ ≤ _
    rw [sends]
    exact h.asked id

theorem put (h : f.Sound ids) {k : Nat} {s t : Station η β} (at? : f.stations[k]? = some s)
    {id? : Option CorrelationId} {network : Network} (moved : Station.Moved id? network s t)
    (sound : t.Sound) {arrived : List Envelope} (received : t.received = arrived ++ s.received)
    (balance : ∀ p, network.carried.countP p + arrived.countP p ≤ f.network.carried.countP p) :
    (f.put k t).Sound (ids ++ id?.toList) := by
  refine ⟨fun u member => ?_, fun p => ?_, fun id => ?_⟩
  · rcases List.mem_or_eq_of_mem_set member with old | rfl
    · exact h.station u old
    · exact sound
  · have sends := countP_flatMap_set at? t Station.sent p
    have receipts := countP_flatMap_set at? t (·.received) p
    have carried := moved.carried p
    have before := h.conserved p
    have left := balance p
    rw [received, List.countP_append] at receipts
    change ((f.stations.set k t).flatMap (·.received)).countP p +
      t.machine.site.network.carried.countP p ≤ ((f.stations.set k t).flatMap Station.sent).countP p
    unfold Fleet.sent Fleet.received at before
    omega
  · have sends := countP_flatMap_set at? t Station.sent (Envelope.asks id)
    have more := moved.asked id
    have before := h.asked id
    have issued : (ids ++ id?.toList).count id = ids.count id + if id? = some id then 1 else 0 := by
      rw [List.count_append]
      cases id? <;> simp [List.count_singleton]
    change ((f.stations.set k t).flatMap Station.sent).countP (Envelope.asks id) ≤ _
    unfold Fleet.sent at before
    omega

theorem change (h : f.Sound ids) {id? : Option CorrelationId} (change : Change f id? g) :
    g.Sound (ids ++ id?.toList) := by
  cases change with
  | network carried => exact (h.of_network carried).mono _
  | joined name registry defaultTimeout => exact (h.join name registry defaultTimeout).mono _
  | moved at? moved sound received balance => exact h.put at? moved sound received balance

theorem start (capacity : Nat) : (start capacity : Fleet η β).Sound [] where
  station _ member := absurd member List.not_mem_nil
  conserved _ := Nat.le_refl 0
  asked _ := Nat.le_refl 0

end Sound

def issued (moves : List (FleetMove η β)) : List CorrelationId := moves.filterMap FleetMove.issued?

theorem issued_cons (move : FleetMove η β) (moves : List (FleetMove η β)) :
    issued (move :: moves) = move.issued?.toList ++ issued moves := by
  unfold issued
  cases issued : move.issued? with
  | none => rw [List.filterMap_cons_none issued]; rfl
  | some id => rw [List.filterMap_cons_some issued]; rfl

theorem issued_append (first second : List (FleetMove η β)) :
    issued (first ++ second) = issued first ++ issued second := List.filterMap_append

theorem Sound.step (h : f.Sound ids) (move : FleetMove η β) :
    (f.step move).2.Sound (ids ++ move.issued?.toList) := h.change (step_change h move)

theorem Sound.run (h : f.Sound ids) (moves : List (FleetMove η β)) :
    (f.run moves).Sound (ids ++ issued moves) := by
  induction moves generalizing f ids with
  | nil => exact (List.append_nil ids).symm ▸ h
  | cons move moves ih =>
    rw [issued_cons, ← List.append_assoc]
    exact ih (h.step move)

theorem sound_run (capacity : Nat) (moves : List (FleetMove η β)) :
    ((start capacity).run moves).Sound (issued moves) := (Sound.start capacity).run moves

def Later (f g : Fleet η β) : Prop :=
  ∀ (k : Nat) (s : Station η β), f.stations[k]? = some s →
    ∃ t, g.stations[k]? = some t ∧ s.Later t

theorem Later.mem_sent (h : f.Later g) {e : Envelope} (sent : e ∈ f.sent) : e ∈ g.sent := by
  obtain ⟨k, s, at?, member⟩ := mem_flatMap_stations.mp sent
  obtain ⟨t, next, later⟩ := h k s at?
  exact Fleet.mem_sent next (later.mem_sent member)

theorem Change.later {id? : Option CorrelationId} (change : Change f id? g) : f.Later g := by
  intro k s at?
  have there := (List.getElem?_eq_some_iff.mp at?).1
  cases change with
  | network => exact ⟨s, at?, .refl s⟩
  | joined => exact ⟨s, (List.getElem?_append_left there).trans at?, .refl s⟩
  | @moved k' s' t network arrived at?' moved sound received balance =>
    by_cases same : k' = k
    · subst same
      cases at?'.symm.trans at?
      exact ⟨t, List.getElem?_set_self there, .of_moved moved received⟩
    · exact ⟨s, (List.getElem?_set_ne same).trans at?, .refl s⟩

theorem Later.run (h : f.Sound ids) (moves : List (FleetMove η β)) : f.Later (f.run moves) := by
  induction moves generalizing f ids with
  | nil => exact fun k s at? => ⟨s, at?, .refl s⟩
  | cons move moves ih =>
    intro k s at?
    obtain ⟨t, next, later⟩ := (step_change h move).later k s at?
    obtain ⟨u, last, later'⟩ := ih (h.step move) k t next
    exact ⟨u, last, later.trans later'⟩

namespace Sound

theorem mem_sent_of_received (h : f.Sound ids) {e : Envelope}
    (there : e ∈ f.received ++ f.network.carried) : e ∈ f.sent :=
  subset_of_countP_le (fun p => by rw [List.countP_append]; exact h.conserved p) there

theorem replies_le (h : f.Sound ids) (key : RequestKey) :
    f.sent.countP key.answeredBy ≤ f.received.countP key.askedBy := by
  rw [Fleet.sent, Fleet.received, List.countP_flatMap, List.countP_flatMap]
  refine List.sum_le_sum fun s member => ?_
  have own := (h.station s member).answers key
  rw [← Station.countP_sent] at own
  exact Nat.le_of_add_right_le own

theorem requests_le (h : f.Sound ids) (key : RequestKey) :
    f.received.countP key.askedBy ≤ ids.count key.id := by
  have narrower : f.sent.countP key.askedBy ≤ f.sent.countP (Envelope.asks key.id) :=
    List.countP_mono_left fun _ _ asked => key.asks_of_askedBy asked
  have sent : f.received.countP key.askedBy ≤ f.sent.countP key.askedBy :=
    Nat.le_of_add_right_le (h.conserved _)
  exact Nat.le_trans sent (Nat.le_trans narrower (h.asked key.id))

theorem requests_at_le (h : f.Sound ids) {k : Nat} {s : Station η β} (at? : f.stations[k]? = some s)
    (key : RequestKey) : s.received.countP key.askedBy ≤ ids.count key.id := by
  refine Nat.le_trans ?_ (h.requests_le key)
  rw [Fleet.received, List.countP_flatMap]
  exact List.le_sum_of_mem (List.mem_map_of_mem (List.mem_of_getElem? at?))

theorem replies_received_le (h : f.Sound ids) (key : RequestKey) :
    f.received.countP key.answeredBy ≤ ids.count key.id := by
  have sent : f.received.countP key.answeredBy ≤ f.sent.countP key.answeredBy :=
    Nat.le_of_add_right_le (h.conserved _)
  exact Nat.le_trans sent (Nat.le_trans (h.replies_le key) (h.requests_le key))

theorem asked_unique (h : f.Sound ids) {id : CorrelationId} (few : ids.count id ≤ 1)
    {a b : Envelope} (ha : a ∈ f.sent) (hb : b ∈ f.sent) (asks : a.asks id = true)
    (asks' : b.asks id = true) : a = b :=
  eq_of_countP_le_one (Nat.le_trans (h.asked id) few) ha hb asks asks'

end Sound

end Fleet

end MessageRelay
