import Mathlib.Algebra.Group.Nat.Defs
import MessageRelay.Config.Runtime

/-!
Settings in layers. A layer gives some of the settings; of two layers the upper one counts, setting by
setting, and what none of them gives has its default. The variables are such a layer, unless one of them
has a text that is not of its kind.
-/
namespace MessageRelay

/-- Decimal digits, with or without a plus sign, of a number that fits a word of so many bits. -/
def Text.Numeral (bits : Nat) (s : String) (n : Nat) : Prop :=
  ∃ ds : List Char, (s.toList = ds ∨ s.toList = '+' :: ds) ∧ ds ≠ [] ∧ (∀ d ∈ ds, d.isDigit) ∧
    n = Nat.ofDigitChars 10 ds 0 ∧ n < 2 ^ bits

theorem Text.unsigned?_eq_some_iff (bits : Nat) (s : String) (n : Nat) :
    unsigned? bits s = some n ↔ Numeral bits s n := by
  have digits (ds : List Char) :
      (let m := ds.foldl (fun n c => n * 10 + (c.toNat - '0'.toNat)) 0
        if ds.isEmpty || !ds.all Char.isDigit || Nat.pow 2 bits ≤ m then none else some m) = some n ↔
        ds ≠ [] ∧ (∀ d ∈ ds, d.isDigit) ∧ n = Nat.ofDigitChars 10 ds 0 ∧ n < 2 ^ bits := by
    simp only [Nat.ofDigitChars_eq_foldl, Nat.mul_comm 10]
    split
    · rename_i refused
      simp only [Bool.or_eq_true, List.isEmpty_iff, Bool.not_eq_true', List.all_eq_false,
        decide_eq_true_eq] at refused
      refine ⟨nofun, fun ⟨full, all, value, fits⟩ => ?_⟩
      rcases refused with (none | ⟨d, member, other⟩) | large
      · exact absurd none full
      · exact absurd (all d member) other
      · exact absurd (value ▸ fits) (Nat.not_lt.mpr large)
    · rename_i taken
      simp only [Bool.or_eq_true, List.isEmpty_iff, Bool.not_eq_true', List.all_eq_false,
        decide_eq_true_eq, not_or, not_exists, not_and, Decidable.not_not] at taken
      obtain ⟨⟨full, all⟩, large⟩ := taken
      rw [Option.some_inj]
      exact ⟨fun value => ⟨full, all, value.symm, value ▸ Nat.not_le.mp large⟩,
        fun ⟨_, _, value, _⟩ => value.symm⟩
  have plus : ¬ '+'.isDigit = true := by decide
  unfold unsigned? Numeral
  split
  · rename_i ds signed
    rw [signed]
    refine (digits ds).trans ⟨fun spelled => ⟨ds, .inr rfl, spelled⟩, ?_⟩
    rintro ⟨ds', rfl | same, full, all, value⟩
    · exact absurd (all '+' List.mem_cons_self) plus
    · cases same
      exact ⟨full, all, value⟩
  · rename_i unsigned
    refine (digits s.toList).trans ⟨fun spelled => ⟨_, .inl rfl, spelled⟩, ?_⟩
    rintro ⟨ds, rfl | same, spelled⟩
    · exact spelled
    · exact absurd same (unsigned ds)

namespace RuntimeConfig

theorem boolean?_eq_some_iff (s : String) (b : Bool) : boolean? s = some b ↔ s = toString b := by
  have distinct : "false" ≠ "true" := by decide
  unfold boolean?
  split
  · subst s
    cases b <;> simp [toString, distinct.symm]
  · split
    · subst s
      cases b <;> simp [toString, distinct]
    · cases b <;> simp [toString, *]

/-- What one place says about the settings. -/
structure Layer where
  defaultTimeout? : Option Nat := none
  inboundCapacity? : Option Nat := none
  test? : Option String := none
  script? : Option String := none
  console? : Option String := none
  scriptTimer? : Option Nat := none
  demoRequest? : Option Bool := none

/-- What the upper layer gives, else what the lower one does. -/
def Layer.over (upper lower : Layer) : Layer where
  defaultTimeout? := upper.defaultTimeout? <|> lower.defaultTimeout?
  inboundCapacity? := upper.inboundCapacity? <|> lower.inboundCapacity?
  test? := upper.test? <|> lower.test?
  script? := upper.script? <|> lower.script?
  console? := upper.console? <|> lower.console?
  scriptTimer? := upper.scriptTimer? <|> lower.scriptTimer?
  demoRequest? := upper.demoRequest? <|> lower.demoRequest?

def Layer.settled (l : Layer) : RuntimeConfig :=
  let default : RuntimeConfig := {}
  { defaultTimeout := l.defaultTimeout?.getD default.defaultTimeout
    inboundCapacity := l.inboundCapacity?.getD default.inboundCapacity
    services :=
      { test := l.test?.getD default.services.test
        script := l.script?.getD default.services.script
        console := l.console?.getD default.services.console }
    scriptTimer := l.scriptTimer?.getD default.scriptTimer
    demoRequest := l.demoRequest?.getD default.demoRequest }

/-- A variable gives nothing where it is not set, else what its text spells without the blanks around. -/
def Gives {α : Type} (env : Environment) (key : String) (Spells : String → α → Prop) :
    Option α → Prop
  | none => env key = none
  | some a => ∃ value, env key = some value ∧ Spells (Text.trim value) a

def Layer.Unnamed (l : Layer) : Prop := l.test? = none ∧ l.script? = none ∧ l.console? = none

structure Layer.SetBy (env : Environment) (l : Layer) : Prop where
  defaultTimeout : Gives env "SR_DEFAULT_TIMEOUT_MS" (Text.Numeral 64) l.defaultTimeout?
  inboundCapacity : Gives env "SR_INBOUND_CAPACITY" (Text.Numeral 64) l.inboundCapacity?
  scriptTimer : Gives env "SR_SCRIPT_TIMER_MS" (Text.Numeral 64) l.scriptTimer?
  demoRequest : Gives env "SR_DEMO_REQUEST" (fun s b => s = toString b) l.demoRequest?
  unnamed : l.Unnamed

def overrides : List (String × (String → Prop)) :=
  [("SR_DEFAULT_TIMEOUT_MS", fun s => ∃ n, Text.Numeral 64 s n),
   ("SR_INBOUND_CAPACITY", fun s => ∃ n, Text.Numeral 64 s n),
   ("SR_SCRIPT_TIMER_MS", fun s => ∃ n, Text.Numeral 64 s n),
   ("SR_DEMO_REQUEST", fun s => ∃ b : Bool, s = toString b)]

/-- The first of these variables with a text that it may not have, and that text as it was set. -/
inductive FirstRefused (env : Environment) : List (String × (String → Prop)) → String → String → Prop
  | here {key value : String} {Spelled : String → Prop} {later : List (String × (String → Prop))}
      (set : env key = some value) (refused : ¬ Spelled (Text.trim value)) :
      FirstRefused env ((key, Spelled) :: later) key value
  | later {key k v : String} {Spelled : String → Prop} {later : List (String × (String → Prop))}
      (fine : ∀ value, env key = some value → Spelled (Text.trim value))
      (first : FirstRefused env later k v) : FirstRefused env ((key, Spelled) :: later) k v

section override

variable {α β : Type} {env : Environment} {key k v : String} {parse? : String → Option α}
  {Spells : String → α → Prop} {current : α}

theorem override_of_unset (unset : env key = none) : override env key parse? current = .ok current := by
  rw [override, unset]

theorem override_of_set {value : String} (set : env key = some value) :
    override env key parse? current =
      match parse? (Text.trim value) with
      | some a => .ok a
      | none => .error (.invalidOverride key value) := by
  cases parsed : parse? (Text.trim value) <;> simp [override, set, parsed]

theorem exists_of_override_bind {next : α → Except ConfigError β} {e : ConfigError}
    (rest : ∀ a, next a = .error e → ∃ k v, e = .invalidOverride k v)
    (failed : (override env key parse? current >>= next) = .error e) :
    ∃ k v, e = .invalidOverride k v := by
  cases set : env key with
  | none =>
    rw [override_of_unset set] at failed
    exact rest _ failed
  | some value =>
    rw [override_of_set set] at failed
    cases parsed : parse? (Text.trim value) with
    | none =>
      rw [parsed] at failed
      cases failed
      exact ⟨key, value, rfl⟩
    | some a =>
      rw [parsed] at failed
      exact rest a failed

variable (spelled : ∀ s a, parse? s = some a ↔ Spells s a)
include spelled

theorem override_eq_ok_iff {lower? : Option α} {usual a : α} :
    override env key parse? (lower?.getD usual) = .ok a ↔
      ∃ upper?, Gives env key Spells upper? ∧ a = (upper? <|> lower?).getD usual := by
  cases set : env key with
  | none =>
    rw [override_of_unset set]
    constructor
    · rintro ⟨⟩
      exact ⟨none, set, rfl⟩
    · rintro ⟨upper?, gives, rfl⟩
      cases upper? with
      | none => rfl
      | some a =>
        obtain ⟨value, there, -⟩ := gives
        cases set.symm.trans there
  | some value =>
    rw [override_of_set set]
    constructor
    · intro taken
      cases parsed : parse? (Text.trim value) with
      | none =>
        rw [parsed] at taken
        cases taken
      | some b =>
        rw [parsed] at taken
        cases taken
        exact ⟨some a, ⟨value, set, (spelled _ _).mp parsed⟩, rfl⟩
    · rintro ⟨upper?, gives, rfl⟩
      cases upper? with
      | none => cases set.symm.trans gives
      | some a =>
        obtain ⟨value', there, spells⟩ := gives
        cases set.symm.trans there
        rw [(spelled _ _).mpr spells]
        rfl

theorem override_bind_refused {next : α → Except ConfigError β}
    {later : List (String × (String → Prop))}
    (rest : ∀ a, next a = .error (.invalidOverride k v) ↔ FirstRefused env later k v) :
    (override env key parse? current >>= next) = .error (.invalidOverride k v) ↔
      FirstRefused env ((key, fun s => ∃ a, Spells s a) :: later) k v := by
  cases set : env key with
  | none =>
    rw [override_of_unset set]
    refine (rest current).trans ⟨fun first => .later (fun value there => ?_) first, ?_⟩
    · cases set.symm.trans there
    · rintro (⟨there, -⟩ | ⟨-, first⟩)
      · cases set.symm.trans there
      · exact first
  | some value =>
    rw [override_of_set set]
    cases parsed : parse? (Text.trim value) with
    | none =>
      have refused : ¬ ∃ a, Spells (Text.trim value) a := fun ⟨a, spells⟩ => by
        cases parsed.symm.trans ((spelled _ _).mpr spells)
      constructor
      · rintro ⟨⟩
        exact .here set refused
      · rintro (⟨there, -⟩ | ⟨fine, -⟩)
        · cases set.symm.trans there
          rfl
        · exact absurd (fine value set) refused
    | some a =>
      have fine : ∃ a, Spells (Text.trim value) a := ⟨a, (spelled _ _).mp parsed⟩
      refine (rest a).trans ⟨fun first => .later (fun value' there => ?_) first, ?_⟩
      · cases set.symm.trans there
        exact fine
      · rintro (⟨there, refused⟩ | ⟨-, first⟩)
        · cases set.symm.trans there
          exact absurd fine refused
        · exact first

end override

theorem bind_eq_ok_iff {ε α β : Type} {x : Except ε α} {next : α → Except ε β} {b : β} :
    (x >>= next) = .ok b ↔ ∃ a, x = .ok a ∧ next a = .ok b := by
  cases x with
  | error e => exact ⟨nofun, nofun⟩
  | ok a => exact ⟨fun ok => ⟨a, rfl, ok⟩, fun ⟨_, same, ok⟩ => by cases same; exact ok⟩

variable {env : Environment}

/-- Where all variables are of their kind their layer goes over what was settled before. -/
theorem withOverrides_eq_ok_iff {file : Layer} {c : RuntimeConfig} :
    file.settled.withOverrides env = .ok c ↔
      ∃ above : Layer, above.SetBy env ∧ c = (above.over file).settled := by
  have word := Text.unsigned?_eq_some_iff 64
  have flag := boolean?_eq_some_iff
  constructor
  · intro loaded
    obtain ⟨timeout, first, loaded⟩ := bind_eq_ok_iff.mp loaded
    obtain ⟨capacity, second, loaded⟩ := bind_eq_ok_iff.mp loaded
    obtain ⟨timer, third, loaded⟩ := bind_eq_ok_iff.mp loaded
    obtain ⟨demo, fourth, loaded⟩ := bind_eq_ok_iff.mp loaded
    obtain ⟨timeout?, givesTimeout, rfl⟩ := (override_eq_ok_iff word).mp first
    obtain ⟨capacity?, givesCapacity, rfl⟩ := (override_eq_ok_iff word).mp second
    obtain ⟨timer?, givesTimer, rfl⟩ := (override_eq_ok_iff word).mp third
    obtain ⟨demo?, givesDemo, rfl⟩ := (override_eq_ok_iff flag).mp fourth
    cases loaded
    exact ⟨⟨timeout?, capacity?, none, none, none, timer?, demo?⟩,
      ⟨givesTimeout, givesCapacity, givesTimer, givesDemo, rfl, rfl, rfl⟩, rfl⟩
  · rintro ⟨⟨timeout?, capacity?, _, _, _, timer?, demo?⟩, set, rfl⟩
    obtain ⟨rfl, rfl, rfl⟩ := set.unnamed
    refine bind_eq_ok_iff.mpr ⟨_, (override_eq_ok_iff word).mpr ⟨_, set.defaultTimeout, rfl⟩, ?_⟩
    refine bind_eq_ok_iff.mpr ⟨_, (override_eq_ok_iff word).mpr ⟨_, set.inboundCapacity, rfl⟩, ?_⟩
    refine bind_eq_ok_iff.mpr ⟨_, (override_eq_ok_iff word).mpr ⟨_, set.scriptTimer, rfl⟩, ?_⟩
    exact bind_eq_ok_iff.mpr ⟨_, (override_eq_ok_iff flag).mpr ⟨_, set.demoRequest, rfl⟩, rfl⟩

theorem withOverrides_eq_invalidOverride_iff {c : RuntimeConfig} {key value : String} :
    c.withOverrides env = .error (.invalidOverride key value) ↔
      FirstRefused env overrides key value := by
  have word := Text.unsigned?_eq_some_iff 64
  have flag := boolean?_eq_some_iff
  refine override_bind_refused word fun timeout => override_bind_refused word fun capacity => ?_
  refine override_bind_refused word fun timer => override_bind_refused flag fun demo => ?_
  exact ⟨nofun, nofun⟩

theorem exists_of_withOverrides {c : RuntimeConfig} {e : ConfigError}
    (failed : c.withOverrides env = .error e) : ∃ key value, e = .invalidOverride key value :=
  exists_of_override_bind (fun _ failed => exists_of_override_bind (fun _ failed =>
    exists_of_override_bind (fun _ failed => exists_of_override_bind nofun failed) failed) failed)
      failed

end RuntimeConfig

end MessageRelay
