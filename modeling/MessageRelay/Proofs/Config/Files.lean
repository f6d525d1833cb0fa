import Mathlib.Data.List.Defs
import MessageRelay.Proofs.Json.Parts
import MessageRelay.Proofs.Config.Layers

/-!
Settings in a file. Whatever text is decoded, the settings are those of the layer that its document
gives, part by part; and any layer can be written as a document, from which the same settings come back.
-/
namespace MessageRelay

open Json
open Json.Reader (Reads Ends Yields ReadAt PassedOver)
open Json.Decoder

namespace ServiceNames

def bindings : List (Binding Draft) :=
  [⟨String, "test", true, Draft.test?, fun v r => { r with test? := some v }, .text⟩,
   ⟨String, "script", true, Draft.script?, fun v r => { r with script? := some v }, .text⟩,
   ⟨String, "console", true, Draft.console?, fun v r => { r with console? := some v }, .text⟩]

def fields : List (Json.Decoder.Field Draft) := bindings.map Binding.field

variable {room : Nat} {c c' : Cursor} {s : ServiceNames}

theorem separate_bindings : Separate bindings where
  names := by decide
  kept := by simp [bindings]
  apart := by simp [bindings, Binding.Apart]

theorem passedOver_fields : ∀ f ∈ fields, PassedOver (f.decoder.read room) :=
  List.forall_iff_forall_mem.mp
    ⟨(passedOver_text room).map _, (passedOver_text room).map _, (passedOver_text room).map _⟩

theorem passedOver_decoder : PassedOver (decoder.read (room + 1)) :=
  passedOver_record passedOver_fields

theorem given_of_decoder (read : decoder.read (room + 1) c = .ok (s, c')) :
    ∃ r : Draft, valueAt [⟨"test", 0⟩] c = .ok (r.test?.map .str) ∧
      valueAt [⟨"script", 1⟩] c = .ok (r.script?.map .str) ∧
      valueAt [⟨"console", 2⟩] c = .ok (r.console?.map .str) ∧
      s = (RuntimeConfig.Layer.settled
        { test? := r.test?, script? := r.script?, console? := r.console? }).services := by
  obtain ⟨o, r, outlined, filled, made⟩ := record_eq_ok passedOver_fields read
  cases made
  have owns {i : Nat} {b : Binding Draft} (here : bindings[i]? = some b) :=
    (Owns.of_separate separate_bindings here).readAt filled
  exact ⟨r, valueAt_of_readAt shows_text outlined (owns (i := 0) rfl rfl),
    valueAt_of_readAt shows_text outlined (owns (i := 1) rfl rfl),
    valueAt_of_readAt shows_text outlined (owns (i := 2) rfl rfl), rfl⟩

end ServiceNames

namespace RuntimeConfig

def bindings : List (Binding Draft) :=
  [⟨Nat, "default_timeout_ms", true, Draft.defaultTimeout?,
     fun v r => { r with defaultTimeout? := some v }, .natural 64 "u64"⟩,
   ⟨Nat, "inbound_capacity", true, Draft.inboundCapacity?,
     fun v r => { r with inboundCapacity? := some v }, .natural 64 "usize"⟩,
   ⟨ServiceNames, "services", true, Draft.services?, fun v r => { r with services? := some v },
     ServiceNames.decoder⟩,
   ⟨Nat, "script_timer_ms", true, Draft.scriptTimer?, fun v r => { r with scriptTimer? := some v },
     .natural 64 "u64"⟩,
   ⟨Bool, "demo_request", true, Draft.demoRequest?, fun v r => { r with demoRequest? := some v },
     .boolean⟩]

def fields : List (Json.Decoder.Field Draft) := bindings.map Binding.field

variable {room : Nat} {c c' : Cursor} {config : RuntimeConfig}

theorem separate_bindings : Separate bindings where
  names := by decide
  kept := by simp [bindings]
  apart := by simp [bindings, Binding.Apart]

theorem passedOver_fields : ∀ f ∈ fields, PassedOver (f.decoder.read (room + 1)) :=
  List.forall_iff_forall_mem.mp
    ⟨(passedOver_natural 64 "u64" _).map _, (passedOver_natural 64 "usize" _).map _,
      ServiceNames.passedOver_decoder.map _, (passedOver_natural 64 "u64" _).map _,
      (passedOver_boolean _).map _⟩

namespace Layer

/-- The document gives for each setting what the layer does: the numbers, the flag and, inside of a part
of their own, the names. -/
structure GivenBy (l : Layer) (text : String) : Prop where
  defaultTimeout : given? [⟨"default_timeout_ms", 0⟩] text = .ok (l.defaultTimeout?.map .ofNat)
  inboundCapacity : given? [⟨"inbound_capacity", 1⟩] text = .ok (l.inboundCapacity?.map .ofNat)
  test : given? [⟨"services", 2⟩, ⟨"test", 0⟩] text = .ok (l.test?.map .str)
  script : given? [⟨"services", 2⟩, ⟨"script", 1⟩] text = .ok (l.script?.map .str)
  console : given? [⟨"services", 2⟩, ⟨"console", 2⟩] text = .ok (l.console?.map .str)
  scriptTimer : given? [⟨"script_timer_ms", 3⟩] text = .ok (l.scriptTimer?.map .ofNat)
  demoRequest : given? [⟨"demo_request", 4⟩] text = .ok (l.demoRequest?.map .bool)

structure InRange (l : Layer) : Prop where
  defaultTimeout : ∀ n ∈ l.defaultTimeout?, n < 2 ^ 64
  inboundCapacity : ∀ n ∈ l.inboundCapacity?, n < 2 ^ 64
  scriptTimer : ∀ n ∈ l.scriptTimer?, n < 2 ^ 64

theorem ofNat_injective : Function.Injective Json.ofNat := fun _ _ same =>
  Int.ofNat.inj (Number.int.inj (Json.num.inj same))

theorem GivenBy.unique {l l' : Layer} {text : String} (h : l.GivenBy text) (h' : l'.GivenBy text) :
    l = l' := by
  have same {α : Type} {f : α → Json} {a? b? : Option α} {path : List Part} (inj : Function.Injective f)
      (a : given? path text = .ok (a?.map f)) (b : given? path text = .ok (b?.map f)) : a? = b? :=
    Option.map_injective inj (Except.ok.inj (a.symm.trans b))
  have str : Function.Injective Json.str := fun _ _ => Json.str.inj
  have bool : Function.Injective Json.bool := fun _ _ => Json.bool.inj
  cases l
  cases l'
  rw [mk.injEq]
  exact ⟨same ofNat_injective h.defaultTimeout h'.defaultTimeout,
    same ofNat_injective h.inboundCapacity h'.inboundCapacity, same str h.test h'.test,
    same str h.script h'.script, same str h.console h'.console,
    same ofNat_injective h.scriptTimer h'.scriptTimer, same bool h.demoRequest h'.demoRequest⟩

end Layer

/-- Settings that are decoded from a text are those that its document gives, else their defaults. -/
theorem given_of_ofText {text : String} (decoded : decoder.ofText text = .ok config) :
    ∃ l : Layer, l.GivenBy text ∧ l.InRange ∧ config = l.settled := by
  obtain ⟨c, read⟩ := Reader.whole?_eq_ok decoded
  obtain ⟨o, r, outlined, filled, made⟩ := record_eq_ok passedOver_fields read
  have owns {i : Nat} {b : Binding Draft} (here : bindings[i]? = some b) :=
    (Owns.of_separate separate_bindings here).readAt filled
  have timeout := owns (i := 0) rfl rfl
  have capacity := owns (i := 1) rfl rfl
  have services : ReadAt (ServiceNames.decoder.read _) (o.part? ⟨"services", 2⟩) r.services? :=
    owns (i := 2) rfl rfl
  have timer := owns (i := 3) rfl rfl
  have demo := owns (i := 4) rfl rfl
  -- The names are inside of one part, which may be missing.
  have names : ∃ n : ServiceNames.Draft,
      given? [⟨"services", 2⟩, ⟨"test", 0⟩] text = .ok (n.test?.map .str) ∧
      given? [⟨"services", 2⟩, ⟨"script", 1⟩] text = .ok (n.script?.map .str) ∧
      given? [⟨"services", 2⟩, ⟨"console", 2⟩] text = .ok (n.console?.map .str) ∧
      r.services?.getD ({} : RuntimeConfig).services =
        (Layer.settled { test? := n.test?, script? := n.script?, console? := n.console? }).services := by
    unfold given?
    simp only [valueAt_cons _ _ outlined]
    cases known : r.services? with
    | none =>
      rw [known] at services
      simp only [services.eq_none]
      exact ⟨⟨none, none, none⟩, rfl, rfl, rfl, rfl⟩
    | some s =>
      rw [known] at services
      obtain ⟨here, c₁, there, inner⟩ := services.eq_some
      simp only [there]
      exact ServiceNames.given_of_decoder inner
  obtain ⟨n, test, script, console, named⟩ := names
  cases made
  refine ⟨⟨r.defaultTimeout?, r.inboundCapacity?, n.test?, n.script?, n.console?, r.scriptTimer?,
    r.demoRequest?⟩, ⟨?_, ?_, test, script, console, ?_, ?_⟩,
    ⟨timeout.yields (yields_natural 64 "u64"), capacity.yields (yields_natural 64 "usize"),
      timer.yields (yields_natural 64 "u64")⟩, ?_⟩
  · exact valueAt_of_readAt (shows_natural 64 "u64") outlined timeout
  · exact valueAt_of_readAt (shows_natural 64 "usize") outlined capacity
  · exact valueAt_of_readAt (shows_natural 64 "u64") outlined timer
  · exact valueAt_of_readAt shows_boolean outlined demo
  · simp only [named]
    rfl

def present (ms : List (String × Option Json)) : List (String × Json) :=
  ms.filterMap fun m => m.2.map (m.1, ·)

theorem mem_present {ms : List (String × Option Json)} {key : String} {v : Json} :
    (key, v) ∈ present ms ↔ (key, some v) ∈ ms := by
  simp [present, List.mem_filterMap, Option.map_eq_some_iff]

theorem nodup_present {ms : List (String × Option Json)} (distinct : (ms.map Prod.fst).Nodup) :
    ((present ms).map Prod.fst).Nodup := by
  induction ms with
  | nil => exact List.nodup_nil
  | cons m ms ih =>
    obtain ⟨key, v?⟩ := m
    obtain ⟨apart, rest⟩ := List.nodup_cons.mp distinct
    cases v? with
    | none => exact ih rest
    | some v =>
      refine List.nodup_cons.mpr ⟨fun again => apart ?_, ih rest⟩
      obtain ⟨m, member, same⟩ := List.mem_map.mp again
      exact same ▸ List.mem_map_of_mem (f := Prod.fst) (mem_present.mp member)

theorem known_of_seen {α : Type} {ms : List (String × Option Json)} {seen : List String} {key : String}
    {a? : Option α} {f : α → Json} (known : ∀ k, k ∈ seen ↔ k ∈ (present ms).map Prod.fst)
    (member : (key, a?.map f) ∈ ms) : (if key ∈ seen then a? else none) = a? := by
  split
  · rfl
  · rename_i unseen
    cases a? with
    | none => rfl
    | some a =>
      exact absurd ((known key).mpr (List.mem_map_of_mem (f := Prod.fst) (mem_present.mpr member)))
        unseen

namespace Layer

variable {l : Layer} {services? : Option Json} {v : Json}

def names (l : Layer) : List (String × Option Json) :=
  [("test", l.test?.map .str), ("script", l.script?.map .str), ("console", l.console?.map .str)]

def members (l : Layer) (services? : Option Json) : List (String × Option Json) :=
  [("default_timeout_ms", l.defaultTimeout?.map .ofNat),
   ("inbound_capacity", l.inboundCapacity?.map .ofNat), ("services", services?),
   ("script_timer_ms", l.scriptTimer?.map .ofNat), ("demo_request", l.demoRequest?.map .bool)]

def NamesWritten (l : Layer) (v : Json) : Prop := ∃ ms, ms.Perm (present l.names) ∧ v = .obj ms

/-- An object with what the layer gives, in any order; the part for the names is left out only where it
gives none. -/
def Written (l : Layer) (v : Json) : Prop :=
  ∃ services? ms, (services? = none → l.Unnamed) ∧
    (∀ services ∈ services?, l.NamesWritten services) ∧ ms.Perm (present (l.members services?)) ∧
    v = .obj ms

def namesDraft (l : Layer) (seen : List String) : ServiceNames.Draft where
  test? := if "test" ∈ seen then l.test? else none
  script? := if "script" ∈ seen then l.script? else none
  console? := if "console" ∈ seen then l.console? else none

/-- What is known of the settings once these members were seen. -/
def draft (l : Layer) (services? : Option Json) (seen : List String) : Draft where
  defaultTimeout? := if "default_timeout_ms" ∈ seen then l.defaultTimeout? else none
  inboundCapacity? := if "inbound_capacity" ∈ seen then l.inboundCapacity? else none
  services? := if "services" ∈ seen then services?.map fun _ => l.settled.services else none
  scriptTimer? := if "script_timer_ms" ∈ seen then l.scriptTimer? else none
  demoRequest? := if "demo_request" ∈ seen then l.demoRequest? else none

theorem takes_name {member : String × Json} (inside : member ∈ present l.names) (seen : List String)
    (new : member.1 ∉ seen) : Takes ServiceNames.fields room member (l.namesDraft seen)
      (l.namesDraft (member.1 :: seen)) := by
  obtain ⟨key, v⟩ := member
  have listed := mem_present.mp inside
  simp only [names, List.mem_cons, Prod.mk.injEq, List.not_mem_nil, or_false] at listed
  rcases listed with ⟨rfl, given⟩ | ⟨rfl, given⟩ | ⟨rfl, given⟩
  all_goals obtain ⟨s, known, rfl⟩ := Option.map_eq_some_iff.mp given.symm
  · exact takes_field rfl (if_neg new) (reads_text s) (by simp [namesDraft, known])
  · exact takes_field rfl (if_neg new) (reads_text s) (by simp [namesDraft, known])
  · exact takes_field rfl (if_neg new) (reads_text s) (by simp [namesDraft, known])

theorem reads_names (written : l.NamesWritten v) :
    Reads Ends (ServiceNames.decoder.read (room + 1)) v.toChars l.settled.services := by
  obtain ⟨ms, same, rfl⟩ := written
  have distinct : ((present l.names).map Prod.fst).Nodup :=
    nodup_present (show ["test", "script", "console"].Nodup by decide)
  refine reads_record l.namesDraft rfl ((same.map _).nodup_iff.mpr distinct)
    (fun member inside => takes_name (same.mem_iff.mp inside)) fun seen known => ?_
  have known (k : String) := (known k).trans (same.map Prod.fst).mem_iff
  have test : (if "test" ∈ seen then l.test? else none) = l.test? :=
    known_of_seen (f := .str) known (by simp [names])
  have script : (if "script" ∈ seen then l.script? else none) = l.script? :=
    known_of_seen (f := .str) known (by simp [names])
  have console : (if "console" ∈ seen then l.console? else none) = l.console? :=
    known_of_seen (f := .str) known (by simp [names])
  simp only [namesDraft, test, script, console]
  rfl

theorem takes_member (fits : l.InRange) (written : ∀ services ∈ services?, l.NamesWritten services)
    {member : String × Json} (inside : member ∈ present (l.members services?)) (seen : List String)
    (new : member.1 ∉ seen) : Takes fields (room + 1) member (l.draft services? seen)
      (l.draft services? (member.1 :: seen)) := by
  obtain ⟨key, v⟩ := member
  have listed := mem_present.mp inside
  simp only [members, List.mem_cons, Prod.mk.injEq, List.not_mem_nil, or_false] at listed
  rcases listed with ⟨rfl, given⟩ | ⟨rfl, given⟩ | ⟨rfl, given⟩ | ⟨rfl, given⟩ | ⟨rfl, given⟩
  · obtain ⟨n, known, rfl⟩ := Option.map_eq_some_iff.mp given.symm
    exact takes_field rfl (if_neg new)
      (reads_natural (fits.defaultTimeout n known) (Nat.le_refl 64)) (by simp [draft, known])
  · obtain ⟨n, known, rfl⟩ := Option.map_eq_some_iff.mp given.symm
    exact takes_field rfl (if_neg new)
      (reads_natural (fits.inboundCapacity n known) (Nat.le_refl 64)) (by simp [draft, known])
  · exact takes_field rfl (if_neg new) (reads_names (written v given.symm))
      (by simp [draft, ← given])
  · obtain ⟨n, known, rfl⟩ := Option.map_eq_some_iff.mp given.symm
    exact takes_field rfl (if_neg new)
      (reads_natural (fits.scriptTimer n known) (Nat.le_refl 64)) (by simp [draft, known])
  · obtain ⟨b, known, rfl⟩ := Option.map_eq_some_iff.mp given.symm
    exact takes_field rfl (if_neg new) (reads_boolean b) (by simp [draft, known])

/-- Settings are read from what is written for a layer, in any order. -/
theorem reads_decoder (fits : l.InRange) (written : l.Written v) :
    Reads Ends (decoder.read (room + 2)) v.toChars l.settled := by
  obtain ⟨services?, ms, without, inner, same, rfl⟩ := written
  have distinct : ((present (l.members services?)).map Prod.fst).Nodup := nodup_present
    (show ["default_timeout_ms", "inbound_capacity", "services", "script_timer_ms",
      "demo_request"].Nodup by decide)
  refine reads_record (l.draft services?) rfl ((same.map _).nodup_iff.mpr distinct)
    (fun member inside => takes_member fits inner (same.mem_iff.mp inside)) fun seen known => ?_
  have known (k : String) := (known k).trans (same.map Prod.fst).mem_iff
  have timeout : (if "default_timeout_ms" ∈ seen then l.defaultTimeout? else none) =
      l.defaultTimeout? := known_of_seen (f := .ofNat) known (by simp [members])
  have capacity : (if "inbound_capacity" ∈ seen then l.inboundCapacity? else none) =
      l.inboundCapacity? := known_of_seen (f := .ofNat) known (by simp [members])
  have timer : (if "script_timer_ms" ∈ seen then l.scriptTimer? else none) = l.scriptTimer? :=
    known_of_seen (f := .ofNat) known (by simp [members])
  have demo : (if "demo_request" ∈ seen then l.demoRequest? else none) = l.demoRequest? :=
    known_of_seen (f := .bool) known (by simp [members])
  have services : (if "services" ∈ seen then services?.map fun _ => l.settled.services
      else none).getD ({} : RuntimeConfig).services = l.settled.services := by
    cases services? with
    | none =>
      obtain ⟨test, script, console⟩ := without rfl
      simp only [Option.map_none, ite_self, settled, test, script, console]
      rfl
    | some s =>
      have listed : ("services", some s) ∈ l.members (some s) := by simp [members]
      have seen : "services" ∈ seen :=
        (known _).mpr (List.mem_map_of_mem (f := Prod.fst) (mem_present.mpr listed))
      rw [if_pos seen]
      rfl
  simp only [draft, timeout, capacity, timer, demo, services]
  rfl

end Layer

def layer (c : RuntimeConfig) : Layer where
  defaultTimeout? := c.defaultTimeout
  inboundCapacity? := c.inboundCapacity
  test? := c.services.test
  script? := c.services.script
  console? := c.services.console
  scriptTimer? := c.scriptTimer
  demoRequest? := c.demoRequest

theorem settled_layer (c : RuntimeConfig) : c.layer.settled = c := rfl

def Written (c : RuntimeConfig) (v : Json) : Prop := c.layer.Written v

def inOrder (c : RuntimeConfig) : Json :=
  .obj (present (c.layer.members (some (.obj (present c.layer.names)))))

theorem written_inOrder (c : RuntimeConfig) : c.Written c.inOrder := by
  refine ⟨some _, _, nofun, fun services same => ?_, .refl _, rfl⟩
  cases same
  exact ⟨_, .refl _, rfl⟩

theorem written_toJson (c : RuntimeConfig) : c.Written c.toJson := by
  have names : (([("test", Json.str c.services.test), ("script", .str c.services.script),
      ("console", .str c.services.console)] : List (String × Json)).map Prod.fst).Nodup := by simp
  obtain ⟨ms, same, made⟩ := ofMembers_perm names
  have keys : (([("default_timeout_ms", Json.ofNat c.defaultTimeout),
      ("inbound_capacity", .ofNat c.inboundCapacity), ("services", c.services.toJson),
      ("script_timer_ms", .ofNat c.scriptTimer), ("demo_request", .bool c.demoRequest)] :
      List (String × Json)).map Prod.fst).Nodup := by simp
  obtain ⟨ms', same', made'⟩ := ofMembers_perm keys
  refine ⟨some c.services.toJson, ms', nofun, fun services given => ?_, same', made'⟩
  cases given
  exact ⟨ms, same, made⟩

end RuntimeConfig

end MessageRelay
