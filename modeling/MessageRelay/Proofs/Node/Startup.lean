import MessageRelay.Node.Container
import MessageRelay.Proofs.Network.Lanes
import MessageRelay.Proofs.Timer.Machine

/-!
The start of the node. The checks of the settings leave one thing open: how many envelopes wait for
a peer at most. If lanes can be made for so many, the services stand as they were configured, each
under its own name; if not, no service is started.
-/
namespace MessageRelay

theorem Network.attach_new {n : Network} {name : PeerName} (new : n.lane? name = none) :
    n.attach name = (n.lanes.size,
      { n with lanes := n.lanes.push {}, peers := n.peers ++ [(name, n.lanes.size)] }) := by
  simp [attach, detach, new]

namespace Relay

variable {r r' r'' : Relay}

def Woken (r r' : Relay) : Prop := ∃ ready collectors, r' = { r with ready, collectors }

namespace Woken

theorem refl (r : Relay) : r.Woken r := ⟨_, _, rfl⟩

theorem trans (first : r.Woken r') (rest : r'.Woken r'') : r.Woken r'' := by
  obtain ⟨_, _, rfl⟩ := first
  obtain ⟨_, _, rfl⟩ := rest
  exact ⟨_, _, rfl⟩

theorem wake (t : TaskId) (r : Relay) : r.Woken (r.wake t) := by
  unfold Relay.wake
  split
  · exact refl r
  · exact ⟨_, _, rfl⟩

theorem wakeReader (lane? : Option LaneId) (r : Relay) : r.Woken (r.wakeReader lane?) := by
  unfold Relay.wakeReader
  split
  · exact wake _ r
  · exact refl r

theorem wakeSleeper (h : HostId) (r : Relay) : r.Woken (r.wakeSleeper h) := by
  simp only [Relay.wakeSleeper]
  split
  · exact wake _ r
  · exact refl r

theorem wakeServed (h : HostId) (r : Relay) : r.Woken (r.wakeServed h) := ⟨_, _, rfl⟩

theorem publish (h : HostId) (r : Relay) (deed : Deed) : r.Woken (r.publish h deed) := by
  cases deed with
  | reported event =>
    simp only [Relay.publish]
    split
    · exact ⟨_, _, rfl⟩
    · exact refl r
  | sent e refused? =>
    cases refused? with
    | none => exact wakeReader _ r
    | some error => exact refl r

theorem publishAll (h : HostId) (deeds : Array Deed) (r : Relay) :
    r.Woken (deeds.foldl (Relay.publish h) r) := by
  rw [← Array.foldl_toList]
  induction deeds.toList generalizing r with
  | nil => exact refl r
  | cons deed deeds ih => exact (publish h r deed).trans (ih _)

theorem act {α : Type} (h : HostId) (f : Site Handler Reminder → α × Site Handler Reminder)
    (r : Relay) :
    let s := (f ⟨(r.host h).dispatcher, r.network⟩).2
    Woken ({ r with network := s.network }.modifyHost h fun host =>
      { host with
        dispatcher := { s.dispatcher with journal := #[] }
        journal := host.journal ++ s.dispatcher.journal }) (r.act h f).2 := by
  intro s
  have told (r : Relay) := (wakeSleeper h r).trans (publishAll h s.dispatcher.journal _)
  simp only [Relay.act]
  split
  · exact told _
  · exact (told _).trans (wakeServed h _)

end Woken

/-- Each name has a lane of its own, and a dispatcher that reads it. No time has passed. -/
structure Seated (capacity : Nat) (timeout : Nanos) (names : List PeerName) (r : Relay) : Prop where
  now : r.now = 0
  capacity : r.network.capacity = capacity
  lanes : r.network.lanes = Array.replicate names.length {}
  peers : r.network.peers = names.zipIdx
  size : r.hosts.size = names.length
  host : ∀ h name, names[h]? = some name → (r.host h).dispatcher.name = name ∧
    (r.host h).dispatcher.defaultTimeout = timeout ∧ (r.host h).lane? = some h

def queue (r : Relay) (h : HostId) : TimerQueue (CallTimer Reminder) :=
  (r.host h).dispatcher.table.timers

theorem attach_new {name : PeerName} (new : r.network.lane? name = none) :
    r.attach name =
      ((r.network.attach name).1, { r with network := (r.network.attach name).2 }) := by
  simp [attach, new, wakeReader]

theorem addHost_new (key : String) {name : PeerName} (registry : Registry Handler) (timeout : Nanos)
    (collected : Bool) (new : r.network.lane? name = none) :
    let added := r.addHost key name registry timeout collected .own
    added.1 = r.hosts.size ∧ Woken { r with
      network := (r.network.attach name).2
      tasks := r.tasks.push (.loop r.hosts.size)
      hosts := r.hosts.push
        { key, dispatcher := { name, registry, defaultTimeout := timeout }, collected,
          lane? := some r.network.lanes.size, loop := r.tasks.size } } added.2 := by
  simp only [addHost, attach_new new, Network.attach_new new, spawn]
  refine ⟨trivial, ?_⟩
  obtain ⟨ready, collectors, woken⟩ := Woken.wake r.tasks.size { r with
    network := { r.network with
      lanes := r.network.lanes.push {}
      peers := r.network.peers ++ [(name, r.network.lanes.size)] }
    tasks := r.tasks.push (.loop r.hosts.size) }
  rw [woken]
  exact ⟨_, _, rfl⟩

theorem host_of_push {s : Relay} {host : Host} (hosts : s.hosts = r.hosts.push host) (h : HostId) :
    s.host h = if h = r.hosts.size then host else r.host h := by
  simp only [Relay.host, hosts, Array.getD_eq_getD_getElem?, Array.getElem?_push]
  split <;> rfl

theorem host_modify {h : HostId} (there : h < r.hosts.size) (f : Host → Host) (k : HostId) :
    (r.modifyHost h f).host k = if h = k then f (r.host k) else r.host k := by
  simp only [Relay.host, modifyHost, Array.getD_eq_getD_getElem?, Array.getElem?_modify]
  by_cases same : h = k
  · subst same
    simp [there]
  · simp [same]

theorem act_host {α : Type} {h : HostId} (there : h < r.hosts.size)
    (f : Site Handler Reminder → α × Site Handler Reminder) (k : HostId) :
    let s := (f ⟨(r.host h).dispatcher, r.network⟩).2
    (r.act h f).2.host k = if h = k then
      { r.host k with
        dispatcher := { s.dispatcher with journal := #[] }
        journal := (r.host k).journal ++ s.dispatcher.journal } else r.host k := by
  intro s
  obtain ⟨ready, collectors, acted⟩ := Woken.act h f r
  rw [acted]
  exact host_modify there _ k

theorem remind_eq {h : HostId} (there : h < r.hosts.size) (delay : Nanos) (reminder : Reminder) :
    let s := (r.remind h delay reminder).2
    s.now = r.now ∧ s.network = r.network ∧ s.hosts.size = r.hosts.size ∧
    (∀ k, (s.host k).dispatcher.name = (r.host k).dispatcher.name ∧
      (s.host k).dispatcher.defaultTimeout = (r.host k).dispatcher.defaultTimeout ∧
      (s.host k).lane? = (r.host k).lane?) ∧
    ∀ k, s.queue k =
      if h = k then ((r.queue k).scheduleAfter r.now delay (.other reminder)).2 else r.queue k := by
  let f : Site Handler Reminder → _ := Site.lift (Dispatcher.after r.now delay reminder)
  let keep (host : Host) : Host :=
    { host with reminders := (reminder.plan.name, (r.act h f).1) :: host.reminders }
  obtain ⟨ready, collectors, acted⟩ := Woken.act h f r
  have now : (r.act h f).2.now = r.now := by rw [acted]; rfl
  have network : (r.act h f).2.network = r.network := by rw [acted]; rfl
  have size : (r.act h f).2.hosts.size = r.hosts.size := by rw [acted]; exact Array.size_modify
  have kept : (r.remind h delay reminder).2 = (r.act h f).2.modifyHost h keep := rfl
  have host (k : HostId) := host_modify (r := (r.act h f).2) (size ▸ there) keep k
  refine ⟨now, network, Array.size_modify.trans size, fun k => ?_, fun k => ?_⟩
  · rw [kept, host, act_host there]
    split
    · rename_i same
      subst same
      exact ⟨rfl, rfl, rfl⟩
    · exact ⟨rfl, rfl, rfl⟩
  · rw [queue, kept, host, act_host there]
    split
    · rename_i same
      subst same
      rfl
    · rfl

namespace Seated

variable {capacity : Nat} {timeout : Nanos} {names : List PeerName} {name : PeerName}

theorem empty (capacity : Nat) (timeout : Nanos) :
    Seated capacity timeout [] { network := { capacity } } := by
  refine ⟨rfl, rfl, rfl, rfl, rfl, ?_⟩
  rintro h name ⟨⟩

theorem new (s : Seated capacity timeout names r) (fresh : name ∉ names) :
    r.network.lane? name = none := by
  refine Network.lane?_eq_none_iff.mpr ?_
  rw [s.peers]
  simpa using fresh

theorem woken (s : Seated capacity timeout names r) (w : r.Woken r') :
    Seated capacity timeout names r' := by
  obtain ⟨_, _, rfl⟩ := w
  exact ⟨s.now, s.capacity, s.lanes, s.peers, s.size, s.host⟩

theorem addHost (s : Seated capacity timeout names r) (key : String) (registry : Registry Handler)
    (collected : Bool) (fresh : name ∉ names) :
    Seated capacity timeout (names ++ [name])
      (r.addHost key name registry timeout collected .own).2 := by
  obtain ⟨-, w⟩ := addHost_new key registry timeout collected (s.new fresh)
  have lanes : r.network.lanes.size = names.length := by rw [s.lanes, Array.size_replicate]
  refine woken ?_ w
  refine ⟨s.now, ?_, ?_, ?_, ?_, ?_⟩
  · rw [Network.attach_new (s.new fresh)]
    exact s.capacity
  · rw [Network.attach_new (s.new fresh), List.length_append, List.length_singleton,
      Array.replicate_succ, ← s.lanes]
  · rw [Network.attach_new (s.new fresh), List.zipIdx_append, ← s.peers, lanes]
    simp
  · rw [Array.size_push, s.size, List.length_append, List.length_singleton]
  · intro h other at?
    rw [host_of_push rfl, s.size]
    split
    · rename_i last
      rw [last, List.getElem?_concat_length] at at?
      cases at?
      rw [lanes, last]
      exact ⟨rfl, rfl, rfl⟩
    · rename_i before
      have inside : h < (names ++ [name]).length := (List.getElem?_eq_some_iff.mp at?).1
      rw [List.length_append, List.length_singleton] at inside
      have old : h < names.length := Nat.lt_of_le_of_ne (Nat.le_of_lt_succ inside) before
      rw [List.getElem?_append_left old] at at?
      exact s.host h other at?

theorem remind (s : Seated capacity timeout names r) {h : HostId} (there : h < r.hosts.size)
    (delay : Nanos) (reminder : Reminder) :
    Seated capacity timeout names (r.remind h delay reminder).2 := by
  obtain ⟨now, network, size, same, -⟩ := remind_eq there delay reminder
  refine ⟨now.trans s.now, network ▸ s.capacity, network ▸ s.lanes, network ▸ s.peers,
    size.trans s.size, fun k name at? => ?_⟩
  obtain ⟨called, usual, reads⟩ := same k
  rw [called, usual, reads]
  exact s.host k name at?

theorem lane?_eq (s : Seated capacity timeout names r) (distinct : names.Nodup) {h : HostId}
    (at? : names[h]? = some name) : r.network.lane? name = some h := by
  refine (Network.lane?_eq_some_iff_mem ?_).mpr ?_
  · rw [s.peers]
    simpa using distinct
  · rw [s.peers]
    exact List.mem_zipIdx_iff_getElem?.mpr at?

end Seated

theorem queue_addHost (key : String) {name : PeerName} (registry : Registry Handler)
    (timeout : Nanos) (collected : Bool) (new : r.network.lane? name = none) :
    (r.addHost key name registry timeout collected .own).2.queue = r.queue := by
  obtain ⟨-, ready, collectors, added⟩ := addHost_new key registry timeout collected new
  funext k
  rw [queue, added, host_of_push (r := r) rfl]
  split
  · rename_i last
    have none : r.hosts[k]? = none := Array.getElem?_eq_none (Nat.le_of_eq last.symm)
    rw [queue, Relay.host, Array.getD_eq_getD_getElem?, none]
    rfl
  · rfl

end Relay

namespace RuntimeConfig

theorem repeated?_eq_none_iff (names : List String) : repeated? names = none ↔ names.Nodup := by
  induction names with
  | nil => simp [repeated?]
  | cons name names ih =>
    rw [repeated?, List.nodup_cons, ← ih]
    by_cases again : name ∈ names <;> simp [again]

theorem validate_eq_ok_iff (c : RuntimeConfig) :
    c.validate = .ok () ↔ c.defaultTimeout ≠ 0 ∧ c.inboundCapacity ≠ 0 ∧
      (∀ name ∈ c.serviceNames, Text.trim name ≠ "") ∧ c.serviceNames.Nodup := by
  have named : (c.serviceNames.any fun name => (Text.trim name).isEmpty) = false ↔
      ∀ name ∈ c.serviceNames, Text.trim name ≠ "" := by
    simp [List.any_eq_false]
  rw [← repeated?_eq_none_iff, ← named, validate]
  split
  · rename_i zero
    simp [zero]
  · split
    · rename_i zero
      simp [zero]
    · split
      · rename_i blank
        simp [blank]
      · rename_i timeout capacity names
        cases repeated? c.serviceNames <;> simp [timeout, capacity, names]

theorem validate_capacity {capacity : Nat} (some : capacity ≠ 0) :
    ({ inboundCapacity := capacity } : RuntimeConfig).validate = .ok () := by
  have usual : 10000 ≠ 0 := by decide
  refine (validate_eq_ok_iff _).mpr ⟨usual, some, ?_, ?_⟩
  · change ∀ name ∈ ["TestService", "ScriptService", "Console"], Text.trim name ≠ ""
    decide +kernel
  · change ["TestService", "ScriptService", "Console"].Nodup
    decide

end RuntimeConfig

namespace Container

variable {c : RuntimeConfig}

/-- The services as configured. -/
structure Stands (c : RuntimeConfig) (k : Container) : Prop where
  capacity : k.relay.network.capacity = c.inboundCapacity
  peers : k.relay.network.peers =
    [(c.services.test, 0), (c.services.script, 1), (c.services.console, 2)]
  distinct : (k.relay.network.peers.map (·.1)).Nodup
  lanes : k.relay.network.lanes = #[{}, {}, {}]
  services : k.services = [(c.services.test, 0), (c.services.script, 1), (c.services.console, 2)]
  console : k.console = 2
  size : k.relay.hosts.size = 3
  host : ∀ name h, (name, h) ∈ k.services → (k.relay.host h).dispatcher.name = name ∧
    (k.relay.host h).dispatcher.defaultTimeout = milliseconds c.defaultTimeout ∧
    (k.relay.host h).lane? = k.relay.network.lane? name
  reminder : (k.relay.queue 1).agenda.timers =
    [⟨⟨deadlineAfter 0 (milliseconds c.scriptTimer), 0⟩, .other startupReminder⟩]
  quiet : ∀ h, h ≠ 1 → (k.relay.queue h).agenda.timers = []

theorem addService_spec {names : List PeerName} {r : Relay} (collected : Bool) (name : PeerName)
    (registry : Registry Handler)
    (seated : r.Seated c.inboundCapacity (milliseconds c.defaultTimeout) names)
    (fresh : name ∉ names) :
    ∃ r', addService c collected name registry r = (r.hosts.size, r') ∧ r'.queue = r.queue ∧
      r'.Seated c.inboundCapacity (milliseconds c.defaultTimeout) (names ++ [name]) := by
  have new := seated.new fresh
  have host :=
    (Relay.addHost_new name registry (milliseconds c.defaultTimeout) collected new).1
  have queue := Relay.queue_addHost name registry (milliseconds c.defaultTimeout) collected new
  exact ⟨_, Prod.ext host rfl, queue, seated.addHost name registry collected fresh⟩

theorem arrange_stands (collected : Bool) (test script : Registry Handler)
    (distinct : c.serviceNames.Nodup) : Stands c (arrange c collected test script) := by
  have apart := distinct
  simp only [RuntimeConfig.serviceNames, List.nodup_cons, List.mem_cons, List.not_mem_nil, or_false,
    not_or] at apart
  obtain ⟨⟨script_ne, console_ne⟩, console_ne', -⟩ := apart
  obtain ⟨r₁, added₁, queue₁, seated₁⟩ :=
    addService_spec (c := c) collected c.services.test test (.empty _ _) nofun
  obtain ⟨r₂, added₂, queue₂, seated₂⟩ :=
    addService_spec collected c.services.script script seated₁
      (by simpa [eq_comm] using script_ne)
  have size₁ : r₁.hosts.size = 1 := seated₁.size
  have there : 1 < r₂.hosts.size := by simp [seated₂.size]
  have seated₃ := seated₂.remind there (milliseconds c.scriptTimer) startupReminder
  have queue₃ :=
    (Relay.remind_eq there (milliseconds c.scriptTimer) startupReminder).2.2.2.2
  obtain ⟨r₄, added₄, queue₄, seated₄⟩ :=
    addService_spec collected c.services.console Registry.empty seated₃
      (by simpa [eq_comm] using And.intro console_ne console_ne')
  have size₃ : (r₂.remind 1 (milliseconds c.scriptTimer) startupReminder).2.hosts.size = 2 :=
    seated₃.size
  have same : arrange c collected test script = ⟨r₄,
      [(c.services.test, 0), (c.services.script, 1), (c.services.console, 2)], 2, false⟩ := by
    simp only [arrange, added₁, added₂, size₁, added₄, size₃]
    rfl
  rw [same]
  refine ⟨seated₄.capacity, seated₄.peers, ?_, seated₄.lanes, rfl, rfl, seated₄.size, ?_, ?_, ?_⟩
  · rw [seated₄.peers]
    exact distinct
  · intro name h member
    have numbered : (name, h) ∈ c.serviceNames.zipIdx := member
    have at? : c.serviceNames[h]? = some name := List.mem_zipIdx_iff_getElem?.mp numbered
    obtain ⟨called, usual, reads⟩ := seated₄.host h name at?
    exact ⟨called, usual, reads.trans (seated₄.lane?_eq distinct at?).symm⟩
  · rw [queue₄, queue₃, if_pos rfl, seated₂.now, queue₂, queue₁]
    rfl
  · intro h other
    rw [queue₄, queue₃, if_neg fun same => other same.symm, queue₂, queue₁]
    rfl

theorem assemble_eq (c : RuntimeConfig) (collected : Bool) :
    ∃ test script, assemble c collected =
      if Network.maxCapacity < c.inboundCapacity then .error (.capacity c.inboundCapacity)
      else .ok (arrange c collected test script) := by
  refine ⟨⟨[(loginNamespace, LoginService.test)]⟩,
    ⟨[("", LoginService.script c.services.test)]⟩, ?_⟩
  have registered : ofRegistry testRegistry = .ok ⟨[(loginNamespace, LoginService.test)]⟩ := rfl
  have registered' : ofRegistry (scriptRegistry c.services.test) =
      .ok ⟨[("", LoginService.script c.services.test)]⟩ := rfl
  rw [assemble, registered, registered']
  split <;> rfl

/-- Settings that are valid start the services, as they are configured, if and only if lanes can be
made for so many envelopes. This is not checked; it is found out at the start. -/
theorem valid_starts_iff (c : RuntimeConfig) (collected : Bool) (valid : c.validate = .ok ()) :
    (c.inboundCapacity ≤ Network.maxCapacity → ∃ k, Stands c k ∧ assemble c collected = .ok k ∧
      start c collected = .ok { k with relay := k.relay.settle }) ∧
    (Network.maxCapacity < c.inboundCapacity →
      start c collected = .error (.capacity c.inboundCapacity)) := by
  obtain ⟨-, -, -, distinct⟩ := c.validate_eq_ok_iff.mp valid
  obtain ⟨test, script, assembled⟩ := assemble_eq c collected
  constructor
  · intro enough
    rw [if_neg (Nat.not_lt_of_le enough)] at assembled
    refine ⟨arrange c collected test script, arrange_stands collected test script distinct,
      assembled, ?_⟩
    rw [start, assembled]
    rfl
  · intro tooMany
    rw [if_pos tooMany] at assembled
    rw [start, assembled]
    rfl

theorem valid_starts_iff_largest :
    let c : RuntimeConfig := { inboundCapacity := Network.maxCapacity }
    let c' : RuntimeConfig := { inboundCapacity := Network.maxCapacity + 1 }
    (∃ k, Stands c k ∧ assemble c false = .ok k) ∧
      start c' false = .error (.capacity (Network.maxCapacity + 1)) := by
  intro c c'
  have valid : c.validate = .ok () := RuntimeConfig.validate_capacity (by decide)
  have valid' : c'.validate = .ok () := RuntimeConfig.validate_capacity (by decide)
  obtain ⟨k, stands, assembled, -⟩ := (valid_starts_iff c false valid).1 (Nat.le_refl _)
  exact ⟨⟨k, stands, assembled⟩, (valid_starts_iff c' false valid').2 (Nat.lt_succ_self _)⟩

/-- The settings are valid, and the number fits into a word; the services do not start. -/
theorem valid_not_started :
    let c : RuntimeConfig := { inboundCapacity := Network.maxCapacity + 1 }
    c.inboundCapacity < UInt64.size ∧ c.validate = .ok () ∧ ¬ ∃ k, start c false = .ok k := by
  refine ⟨by decide, RuntimeConfig.validate_capacity (by decide), ?_⟩
  rintro ⟨k, started⟩
  cases started

end Container

end MessageRelay
