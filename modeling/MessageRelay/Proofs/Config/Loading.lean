import MessageRelay.Proofs.Config.Files

/-!
Settings as they are loaded: the variables over the file over the defaults. The file is looked at first,
and then the variables in their order; the first complaint counts. Settings that were loaded can be
written to a file and loaded from there.
-/
namespace MessageRelay.RuntimeConfig

open Json

/-- What the file gives; nothing where no variable names one. -/
inductive Layer.FromFile (env : Environment) (files : String → Except ReadError String) : Layer → Prop
  | noFile (unset : env fileVariable = none) : FromFile env files {}
  | file {path text : String} {c : RuntimeConfig} {l : Layer} (set : env fileVariable = some path)
      (read : files path = .ok text) (decoded : decoder.ofText text = .ok c)
      (given : l.GivenBy text) : FromFile env files l

def base (env : Environment) (files : String → Except ReadError String) :
    Except ConfigError RuntimeConfig :=
  match env fileVariable with
  | some path => ofFile path (files path)
  | none => .ok {}

variable {env : Environment} {files : String → Except ReadError String} {c : RuntimeConfig}

theorem load_eq : load env files = base env files >>= withOverrides env := by
  unfold load base
  cases env fileVariable <;> rfl

theorem ofFile_of_ok {path text : String} (decoded : decoder.ofText text = .ok c) :
    ofFile path (.ok text) = .ok c := by
  simp only [ofFile, decoded]

theorem base_eq_ok_iff : base env files = .ok c ↔ ∃ file, Layer.FromFile env files file ∧
    c = file.settled := by
  unfold base
  cases set : env fileVariable with
  | none =>
    constructor
    · rintro ⟨⟩
      exact ⟨{}, .noFile set, rfl⟩
    · rintro ⟨file, unset | ⟨there, -, -, -⟩, rfl⟩
      · rfl
      · cases set.symm.trans there
  | some path =>
    constructor
    · intro loaded
      cases read : files path with
      | error cause =>
        simp only [read, ofFile] at loaded
        cases loaded
      | ok text =>
        cases decoded : decoder.ofText text with
        | error cause =>
          simp only [read, ofFile, decoded] at loaded
          cases loaded
        | ok c' =>
          simp only [read, ofFile_of_ok decoded] at loaded
          cases loaded
          obtain ⟨l, given, -, rfl⟩ := given_of_ofText decoded
          exact ⟨l, .file set read decoded given, rfl⟩
    · rintro ⟨file, unset | ⟨there, read, decoded, given⟩, rfl⟩
      · cases set.symm.trans unset
      · cases set.symm.trans there
        obtain ⟨l, given', -, rfl⟩ := given_of_ofText decoded
        simp only [read, ofFile_of_ok decoded, given.unique given']

theorem base_eq_error_iff {e : ConfigError} : base env files = .error e ↔
    ∃ path, env fileVariable = some path ∧
      ((∃ cause, files path = .error cause ∧ e = .read path cause) ∨
        ∃ text cause, files path = .ok text ∧ decoder.ofText text = .error cause ∧
          e = .parse path cause) := by
  unfold base
  cases set : env fileVariable with
  | none => exact ⟨nofun, nofun⟩
  | some path =>
    simp only [Option.some_inj, exists_eq_left']
    cases read : files path with
    | error cause =>
      constructor
      · rintro ⟨⟩
        exact .inl ⟨cause, rfl, rfl⟩
      · rintro (⟨_, ⟨⟩, rfl⟩ | ⟨_, _, ⟨⟩, -⟩)
        rfl
    | ok text =>
      cases decoded : decoder.ofText text with
      | error cause =>
        simp only [ofFile, decoded]
        constructor
        · rintro ⟨⟩
          exact .inr ⟨text, cause, rfl, decoded, rfl⟩
        · rintro (⟨_, ⟨⟩, -⟩ | ⟨_, _, ⟨⟩, decoded', rfl⟩)
          cases decoded.symm.trans decoded'
          rfl
      | ok c =>
        simp only [ofFile_of_ok decoded]
        constructor
        · rintro ⟨⟩
        · rintro (⟨_, ⟨⟩, -⟩ | ⟨_, _, ⟨⟩, decoded', -⟩)
          cases decoded.symm.trans decoded'

theorem load_eq_ok_iff : load env files = .ok c ↔ ∃ file above,
    Layer.FromFile env files file ∧ Layer.SetBy env above ∧ c = (above.over file).settled := by
  rw [load_eq, bind_eq_ok_iff]
  constructor
  · rintro ⟨c', based, overridden⟩
    obtain ⟨file, given, rfl⟩ := base_eq_ok_iff.mp based
    obtain ⟨above, set, rfl⟩ := withOverrides_eq_ok_iff.mp overridden
    exact ⟨file, above, given, set, rfl⟩
  · rintro ⟨file, above, given, set, rfl⟩
    exact ⟨file.settled, base_eq_ok_iff.mpr ⟨file, given, rfl⟩,
      withOverrides_eq_ok_iff.mpr ⟨above, set, rfl⟩⟩

theorem load_eq_error_iff {e : ConfigError} : load env files = .error e ↔
    base env files = .error e ∨
      ∃ file, Layer.FromFile env files file ∧ file.settled.withOverrides env = .error e := by
  rw [load_eq]
  cases based : base env files with
  | error e' =>
    refine ⟨fun same => .inl same, ?_⟩
    rintro (same | ⟨file, given, -⟩)
    · exact same
    · cases based.symm.trans (base_eq_ok_iff.mpr ⟨file, given, rfl⟩)
  | ok c =>
    obtain ⟨file, given, rfl⟩ := base_eq_ok_iff.mp based
    refine ⟨fun refused => .inr ⟨file, given, refused⟩, ?_⟩
    rintro (none | ⟨file', given', refused⟩)
    · cases none
    · have same := Except.ok.inj (based.symm.trans (base_eq_ok_iff.mpr ⟨file', given', rfl⟩))
      exact same ▸ refused

theorem load_eq_error_iff_of_file {e : ConfigError}
    (other : ∀ key value, e ≠ .invalidOverride key value) :
    load env files = .error e ↔ base env files = .error e := by
  refine load_eq_error_iff.trans ⟨?_, .inl⟩
  rintro (failed | ⟨file, -, refused⟩)
  · exact failed
  · obtain ⟨key, value, same⟩ := exists_of_withOverrides refused
    exact absurd same (other key value)

theorem Layer.FromFile.inRange {file : Layer} (h : file.FromFile env files) : file.InRange := by
  cases h with
  | noFile => exact ⟨nofun, nofun, nofun⟩
  | file set read decoded given =>
    obtain ⟨l, given', fits, -⟩ := given_of_ofText decoded
    exact given.unique given' ▸ fits

theorem Layer.SetBy.inRange {above : Layer} (h : above.SetBy env) : above.InRange := by
  have fits {key : String} {n? : Option Nat} (gives : Gives env key (Text.Numeral 64) n?) :
      ∀ n ∈ n?, n < 2 ^ 64 := by
    rintro n rfl
    obtain ⟨value, -, ds, -, -, -, -, fits⟩ := gives
    exact fits
  exact ⟨fits h.defaultTimeout, fits h.inboundCapacity, fits h.scriptTimer⟩

theorem Layer.InRange.over {upper lower : Layer} (above : upper.InRange) (below : lower.InRange) :
    (upper.over lower).InRange := by
  have fits {u? l? : Option Nat} (hu : ∀ n ∈ u?, n < 2 ^ 64) (hl : ∀ n ∈ l?, n < 2 ^ 64) :
      ∀ n ∈ (u? <|> l?), n < 2 ^ 64 := by
    cases u? with
    | none => exact hl
    | some u => exact hu
  exact ⟨fits above.defaultTimeout below.defaultTimeout,
    fits above.inboundCapacity below.inboundCapacity, fits above.scriptTimer below.scriptTimer⟩

theorem Layer.InRange.layer {l : Layer} (h : l.InRange) : l.settled.layer.InRange := by
  have fits {a? : Option Nat} {usual : Nat} (small : usual < 2 ^ 64) (ha : ∀ n ∈ a?, n < 2 ^ 64) :
      ∀ n ∈ some (a?.getD usual), n < 2 ^ 64 := by
    rintro _ ⟨⟩
    cases a? with
    | none => exact small
    | some a => exact ha a rfl
  exact ⟨fits (by decide) h.defaultTimeout, fits (by decide) h.inboundCapacity,
    fits (by decide) h.scriptTimer⟩

theorem ofText_written {l : Layer} {v : Json} (fits : l.InRange) (written : l.Written v) :
    decoder.ofText v.render = .ok l.settled := (Layer.reads_decoder fits written).whole?

theorem withOverrides_of_unset (unset : ∀ key ∈ overrides.map Prod.fst, env key = none) :
    c.withOverrides env = .ok c := by
  change c.layer.settled.withOverrides env = .ok c
  refine withOverrides_eq_ok_iff.mpr
    ⟨{}, ⟨unset _ ?_, unset _ ?_, unset _ ?_, unset _ ?_, rfl, rfl, rfl⟩, rfl⟩
  all_goals simp [overrides]

theorem load_congr {env' : Environment} {files' : String → Except ReadError String}
    (same : ∀ key ∈ fileVariable :: overrides.map Prod.fst, env' key = env key)
    (content : ∀ path ∈ env fileVariable, files' path = files path) :
    load env' files' = load env files := by
  have based : base env' files' = base env files := by
    unfold base
    rw [same _ List.mem_cons_self]
    cases set : env fileVariable with
    | none => rfl
    | some path =>
      simp only
      rw [content path set]
  have later (c : RuntimeConfig) : c.withOverrides env' = c.withOverrides env := by
    unfold withOverrides override
    rw [same "SR_DEFAULT_TIMEOUT_MS" (by simp [overrides]),
      same "SR_INBOUND_CAPACITY" (by simp [overrides]),
      same "SR_SCRIPT_TIMER_MS" (by simp [overrides]), same "SR_DEMO_REQUEST" (by simp [overrides])]
  rw [load_eq, load_eq, based]
  exact congrArg _ (funext later)

theorem load_written {v : Json} {path : String} (fits : c.layer.InRange) (written : c.Written v)
    (set : env fileVariable = some path) (content : files path = .ok v.render)
    (unset : ∀ key ∈ overrides.map Prod.fst, env key = none) : load env files = .ok c := by
  have decoded : decoder.ofText v.render = .ok c := c.settled_layer ▸ ofText_written fits written
  have based : base env files = .ok c := by
    unfold base
    simp only [set, content, ofFile_of_ok decoded]
  rw [load_eq, based]
  exact withOverrides_of_unset unset

/-- Loading looks at the file first, and complains where it cannot be read or decoded; then at the
variables in their order, of which the first that is refused counts, with its text as it was set. Otherwise
each setting is that of its variable, else that of the file, else its default, and the names are those of the
file, else their defaults. Nothing but these variables and the file that is named makes a difference. What
is written for a layer is decoded to its settings; and settings that were loaded can be written, with their
members in any order, and are the same when they are loaded from there. -/
theorem load_layers (env : Environment) (files : String → Except ReadError String) :
    (∀ path cause, load env files = .error (.read path cause) ↔
      env "SR_CONFIG_FILE" = some path ∧ files path = .error cause) ∧
    (∀ path cause, load env files = .error (.parse path cause) ↔
      env "SR_CONFIG_FILE" = some path ∧
        ∃ text, files path = .ok text ∧ decoder.ofText text = .error cause) ∧
    (∀ key value, load env files = .error (.invalidOverride key value) ↔
      (∃ file, Layer.FromFile env files file) ∧ FirstRefused env overrides key value) ∧
    (∀ reason, load env files ≠ .error (.invalid reason)) ∧
    (∀ c, load env files = .ok c ↔ ∃ file above, Layer.FromFile env files file ∧
      Layer.SetBy env above ∧ c = (above.over file).settled) ∧
    (∀ env' files', (∀ key ∈ "SR_CONFIG_FILE" :: overrides.map Prod.fst, env' key = env key) →
      (∀ path ∈ env "SR_CONFIG_FILE", files' path = files path) →
        load env' files' = load env files) ∧
    (∀ l : Layer, l.InRange → ∀ v, l.Written v → decoder.ofText v.render = .ok l.settled) ∧
    ∀ c, load env files = .ok c → c.Written c.toJson ∧ c.Written c.inOrder ∧ ∀ v, c.Written v →
      ∀ env' files' path, env' "SR_CONFIG_FILE" = some path → files' path = .ok v.render →
        (∀ key ∈ overrides.map Prod.fst, env' key = none) → load env' files' = .ok c := by
  refine ⟨fun path cause => ?_, fun path cause => ?_, fun key value => ?_, fun reason failed => ?_,
    fun c => load_eq_ok_iff, fun env' files' same content => load_congr same content,
    fun l fits v written => ofText_written fits written, fun c loaded => ?_⟩
  · rw [load_eq_error_iff_of_file (e := .read path cause) nofun, base_eq_error_iff]
    constructor
    · rintro ⟨_, set, ⟨_, unread, ⟨⟩⟩ | ⟨_, _, _, _, ⟨⟩⟩⟩
      exact ⟨set, unread⟩
    · rintro ⟨set, unread⟩
      exact ⟨path, set, .inl ⟨cause, unread, rfl⟩⟩
  · rw [load_eq_error_iff_of_file (e := .parse path cause) nofun, base_eq_error_iff]
    constructor
    · rintro ⟨_, set, ⟨_, _, ⟨⟩⟩ | ⟨text, _, read, unparsed, ⟨⟩⟩⟩
      exact ⟨set, text, read, unparsed⟩
    · rintro ⟨set, text, read, unparsed⟩
      exact ⟨path, set, .inr ⟨text, cause, read, unparsed, rfl⟩⟩
  · rw [load_eq_error_iff, base_eq_error_iff]
    constructor
    · rintro (⟨_, _, ⟨_, _, ⟨⟩⟩ | ⟨_, _, _, _, ⟨⟩⟩⟩ | ⟨file, given, refused⟩)
      exact ⟨⟨file, given⟩, withOverrides_eq_invalidOverride_iff.mp refused⟩
    · rintro ⟨⟨file, given⟩, first⟩
      exact .inr ⟨file, given, withOverrides_eq_invalidOverride_iff.mpr first⟩
  · rw [load_eq_error_iff_of_file (e := .invalid reason) nofun, base_eq_error_iff] at failed
    obtain ⟨_, _, ⟨_, _, ⟨⟩⟩ | ⟨_, _, _, _, ⟨⟩⟩⟩ := failed
  · obtain ⟨file, above, given, set, rfl⟩ := load_eq_ok_iff.mp loaded
    have fits := (set.inRange.over given.inRange).layer
    exact ⟨written_toJson _, written_inOrder _, fun v written env' files' path set content unset =>
      load_written fits written set content unset⟩

def partialFile (path : String) : Except ReadError String :=
  if path = "runtime.json" then
    .ok "\x7b\"default_timeout_ms\": 500, \"services\": \x7b\"test\": \"Db\"\x7d\x7d"
  else .error .notFound

def ofList (set : List (String × String)) : Environment := fun key => List.lookup key set

theorem load_layers_partialFile :
    let env := ofList [("SR_CONFIG_FILE", "runtime.json"), ("SR_DEFAULT_TIMEOUT_MS", " +750\n")]
    let c : RuntimeConfig := { defaultTimeout := 750, services := { test := "Db" } }
    load env partialFile = .ok c ∧
      (∃ file above, Layer.FromFile env partialFile file ∧ Layer.SetBy env above ∧
        file.test? = some "Db" ∧ above.defaultTimeout? = some 750) ∧
      load (ofList [("HOME", "/"), ("SR_DEFAULT_TIMEOUT_MS", " +750\n"),
        ("SR_CONFIG_FILE", "runtime.json")]) partialFile = .ok c ∧
      load (ofList [("SR_CONFIG_FILE", "saved.json")]) (fun _ => .ok c.toJson.render) = .ok c ∧
      decoder.ofText (Json.obj [("demo_request", .bool false)]).render =
        .ok { demoRequest := false } ∧
      load (ofList [("SR_DEMO_REQUEST", "yes"), ("SR_INBOUND_CAPACITY", " -1 ")]) partialFile =
        .error (.invalidOverride "SR_INBOUND_CAPACITY" " -1 ") := by
  intro env c
  obtain ⟨-, -, -, -, layers, congr, decodes, again⟩ := load_layers env partialFile
  have loaded : load env partialFile = .ok c := by
    have checked : (load env partialFile).toOption = some c := by decide +kernel
    cases given : load env partialFile with
    | error e =>
      rw [given] at checked
      cases checked
    | ok c' =>
      rw [given] at checked
      exact congrArg Except.ok (Option.some.inj checked)
  obtain ⟨file, above, given, set, settled⟩ := (layers c).mp loaded
  refine ⟨loaded, ⟨file, above, given, set, ?_, ?_⟩, ?_, ?_, ?_, ?_⟩
  · have name : "Db" = (above.test? <|> file.test?).getD "TestService" :=
      congrArg (·.services.test) settled
    rw [set.unnamed.1] at name
    cases known : file.test? with
    | none =>
      rw [known] at name
      exact absurd name (by decide)
    | some s =>
      rw [known] at name
      exact congrArg some name.symm
  · have timeout : 750 = (above.defaultTimeout? <|> file.defaultTimeout?).getD 10000 :=
      congrArg (·.defaultTimeout) settled
    cases known : above.defaultTimeout? with
    | none =>
      have unset := set.defaultTimeout
      rw [known] at unset
      cases unset
    | some n =>
      rw [known] at timeout
      exact congrArg some timeout.symm
  · rw [congr _ partialFile (by decide) fun _ _ => rfl]
    exact loaded
  · exact (again c loaded).2.2 _ (again c loaded).1 _ _ "saved.json" rfl rfl (by decide)
  · exact decodes { demoRequest? := some false } ⟨nofun, nofun, nofun⟩ _
      ⟨none, _, fun _ => ⟨rfl, rfl, rfl⟩, nofun, .refl _, rfl⟩
  · refine ((load_layers _ partialFile).2.2.1 _ _).mpr ⟨⟨{}, .noFile rfl⟩, ?_⟩
    refine .later nofun (.here rfl fun ⟨n, spelled⟩ => ?_)
    have refused : Text.unsigned? 64 (Text.trim " -1 ") = none := by decide +kernel
    cases refused.symm.trans ((Text.unsigned?_eq_some_iff 64 _ n).mpr spelled)

end MessageRelay.RuntimeConfig
