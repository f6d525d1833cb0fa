import MessageRelay.Proofs.Json.Records

/-!
Values that are passed over. What a reader takes for a value of some kind is passed over as well where
nobody asks for it, and ends at the same place.
-/
namespace MessageRelay.Json.Reader

variable {α β : Type} {c c' : Cursor}

/-- What one reader makes of a text the other does, too. -/
def Extends (reader reader' : Reader α) : Prop := ∀ c x, reader c = .ok x → reader' c = .ok x

namespace Extends

variable {reader reader' : Reader α}

theorem refl (reader : Reader α) : Extends reader reader := fun _ _ read => read

theorem bind {next next' : α → Reader β} (first : Extends reader reader')
    (second : ∀ a, Extends (next a) (next' a)) : Extends (reader >>= next) (reader' >>= next') := by
  rintro c ⟨b, c'⟩ read
  obtain ⟨a, c₁, given, read⟩ := bind_eq_ok.mp read
  exact bind_eq_ok.mpr ⟨a, c₁, first _ _ given, second a _ _ read⟩

theorem after {next next' : α → Reader β} (second : ∀ a, Extends (next a) (next' a)) :
    Extends (reader >>= next) (reader >>= next') := (refl reader).bind second

theorem ite {p : Prop} [Decidable p] {r r' s s' : Reader α} (yes : Extends r r')
    (no : Extends s s') : Extends (if p then r else s) (if p then r' else s') := by
  split
  · exact yes
  · exact no

end Extends

theorem extends_ignoreItems {item item' : Reader Unit} (more : Extends item item') (fuel : Nat) :
    Extends (ignoreItems item fuel) (ignoreItems item' fuel) := by
  induction fuel with
  | zero => exact .refl _
  | succ fuel ih =>
    refine more.bind fun _ => .after fun c? => ?_
    cases c? with
    | none => exact .refl _
    | some c => exact .ite (.after fun _ => ih) (.refl _)

theorem extends_ignoreMembers {item item' : Reader Unit} (more : Extends item item') (fuel : Nat) :
    Extends (ignoreMembers item fuel) (ignoreMembers item' fuel) := by
  induction fuel with
  | zero => exact .refl _
  | succ fuel ih =>
    unfold ignoreMembers
    refine .after fun c? => ?_
    cases c? with
    | none => exact nofun
    | some c =>
      refine .ite (.after fun _ => .after fun _ => more.bind fun _ => .after fun c? => ?_) nofun
      cases c? with
      | none => exact .refl _
      | some c => exact .ite (.after fun _ => ih) (.refl _)

theorem extends_ignoreValue {fuel more : Nat} (le : fuel ≤ more) :
    Extends (ignoreValue fuel) (ignoreValue more) := by
  induction fuel generalizing more with
  | zero => exact nofun
  | succ fuel ih =>
    obtain ⟨more, rfl⟩ := Nat.exists_eq_add_one_of_ne_zero (Nat.ne_zero_of_lt le)
    have inside := ih (Nat.le_of_succ_le_succ le)
    refine .after fun c? => ?_
    cases c? with
    | none => exact .refl _
    | some c =>
      refine .ite (.refl _) (.ite (.refl _) (.ite (.refl _) (.ite (.refl _) (.ite (.refl _) ?_))))
      refine .ite (.after fun _ => .after fun d? => ?_) (.ite (.after fun _ => .after fun d? => ?_) ?_)
      · cases d? with
        | none => exact .refl _
        | some d => exact .ite (.refl _) (.after fun n => extends_ignoreItems inside _)
      · cases d? with
        | none => exact .refl _
        | some d => exact .ite (.refl _) (.after fun n => extends_ignoreMembers inside _)
      · exact .refl _

def Forward (reader : Reader α) : Prop :=
  ∀ c a c', reader c = .ok (a, c') → c'.rest.length ≤ c.rest.length

namespace Forward

theorem done (a : α) : Forward (pure a) := by
  rintro c _ _ ⟨⟩
  exact Nat.le_refl _

theorem failHere (problem : Problem) : Forward (α := α) (failHere problem) := nofun

theorem failAhead (problem : Problem) : Forward (α := α) (failAhead problem) := nofun

theorem bind {reader : Reader α} {next : α → Reader β} (first : Forward reader)
    (second : ∀ a, Forward (next a)) : Forward (reader >>= next) := by
  intro c b c' read
  obtain ⟨a, c₁, given, read⟩ := bind_eq_ok.mp read
  exact Nat.le_trans (second a _ _ _ read) (first _ _ _ given)

theorem ite {p : Prop} [Decidable p] {r r' : Reader α} (yes : Forward r) (no : Forward r') :
    Forward (if p then r else r') := by
  split
  · exact yes
  · exact no

theorem peek? : Forward peek? := by
  rintro c _ _ ⟨⟩
  exact Nat.le_refl _

theorem remaining : Forward remaining := by
  rintro c _ _ ⟨⟩
  exact Nat.le_refl _

theorem skip : Forward skip := by
  rintro ⟨rest, p⟩ _ c' read
  cases rest with
  | nil => cases read; exact Nat.le_refl _
  | cons d rest => cases read; exact Nat.le_succ _

theorem takeWhile (test : Char → Bool) : Forward (takeWhile test) := by
  rintro c _ _ ⟨⟩
  exact (List.dropWhile_sublist test).length_le

theorem ahead? : Forward ahead? := (takeWhile _).bind fun _ => peek?

theorem look {reader : Reader (Option Char)} {next : Option Char → Reader α} (first : Forward reader)
    (none : Forward (next none)) (some : ∀ d, Forward (next (some d))) : Forward (reader >>= next) :=
  first.bind fun c? => match c? with
    | .none => none
    | .some d => some d

end Forward

theorem forward_word (w : List Char) : Forward (word w) := by
  induction w with
  | nil => exact .done _
  | cons expected w ih =>
    refine .look .peek? (.failHere _) fun d => ?_
    exact .ite (.bind .skip fun _ => ih) (.failAhead _)

theorem forward_hexWord : Forward hexWord := by
  intro c n c' read
  unfold hexWord at read
  split at read
  · cases read
  · split at read
    · cases read
      exact (List.drop_sublist 4 c.rest).length_le
    · cases read

theorem forward_ignoreHexWord : Forward ignoreHexWord := .bind forward_hexWord fun _ => .done _

theorem forward_ignoreTextFrom (fuel : Nat) : Forward (ignoreTextFrom fuel) := by
  induction fuel with
  | zero => exact .failHere _
  | succ fuel ih =>
    refine .look .peek? (.failHere _) fun d => .ite .skip (.ite ?_ ?_)
    · refine .bind .skip fun _ => .look .peek? nofun fun e => ?_
      refine .ite (.bind .skip fun _ => .bind forward_ignoreHexWord fun _ => ih) ?_
      exact .ite (.bind .skip fun _ => ih) nofun
    · exact .ite (.failHere _) (.bind .skip fun _ => ih)

theorem forward_ignoreText : Forward ignoreText :=
  .bind .skip fun _ => .bind .remaining fun _ => forward_ignoreTextFrom _

theorem forward_ignoreExponent : Forward ignoreExponent := by
  refine .bind .skip fun _ => .bind (.bind .peek? fun c? => ?_) fun _ => .bind .peek? fun c? => ?_
  · split
    · exact .bind .skip fun _ => .done _
    · exact .bind .skip fun _ => .done _
    · exact .done _
  · exact .ite (.bind (.takeWhile _) fun _ => .done _) (.failAhead _)

theorem forward_ignoreNumber : Forward ignoreNumber := by
  have last : Forward (do if isExponentMark (← peek?) then ignoreExponent) :=
    .bind .peek? fun c? => .ite forward_ignoreExponent (.done _)
  have point : Forward (do
      if (← peek?) = some '.' then
        skip
        let ds ← takeWhile Char.isDigit
        if ds.isEmpty then failAhead .invalidNumber
      if isExponentMark (← peek?) then ignoreExponent) :=
    .bind .peek? fun c? => .ite (.bind .skip fun _ => .bind (.takeWhile _) fun ds => .ite nofun last) last
  refine .bind .peek? fun c? => .ite (.bind .skip fun _ => ?_) ?_
  all_goals
    refine .look .peek? (.failHere _) fun d => .ite nofun (.bind .skip fun _ => .ite ?_ ?_)
    · exact .bind .peek? fun c? => .ite nofun point
    · exact .bind (.takeWhile _) fun _ => point

theorem forward_colon : Forward colon :=
  .look .ahead? (.failAhead _) fun _ => .ite .skip (.failAhead _)

theorem forward_ignoreItems {item : Reader Unit} (h : Forward item) (fuel : Nat) :
    Forward (ignoreItems item fuel) := by
  induction fuel with
  | zero => exact .failAhead _
  | succ fuel ih =>
    refine .bind h fun _ => .look .ahead? (.failAhead _) fun d => ?_
    exact .ite (.bind .skip fun _ => ih) (.ite .skip (.failAhead _))

theorem forward_ignoreMembers {item : Reader Unit} (h : Forward item) (fuel : Nat) :
    Forward (ignoreMembers item fuel) := by
  induction fuel with
  | zero => exact .failAhead _
  | succ fuel ih =>
    refine .look .ahead? nofun fun d => .ite (.bind forward_ignoreText fun _ => ?_) nofun
    refine .bind forward_colon fun _ => .bind h fun _ => .look .ahead? (.failAhead _) fun d => ?_
    exact .ite (.bind .skip fun _ => ih) (.ite .skip (.failAhead _))

theorem forward_ignoreValue (fuel : Nat) : Forward (ignoreValue fuel) := by
  induction fuel with
  | zero => exact .failAhead _
  | succ fuel ih =>
    refine .look .ahead? (.failAhead _) fun d => ?_
    refine .ite (forward_word _) (.ite (forward_word _) (.ite (forward_word _) ?_))
    refine .ite forward_ignoreNumber (.ite forward_ignoreText (.ite ?_ (.ite ?_ (.failAhead _))))
    · refine .bind .skip fun _ => .look .ahead? (.failAhead _) fun e => .ite .skip ?_
      exact .bind .remaining fun n => forward_ignoreItems ih _
    · refine .bind .skip fun _ => .look .ahead? (.failAhead _) fun e => .ite .skip ?_
      exact .bind .remaining fun n => forward_ignoreMembers ih _

theorem forward_ignore : Forward ignore := .bind .remaining fun _ => forward_ignoreValue _

def Passed (P : α → Prop) (reader : Reader α) (passing : Reader Unit) (c : Cursor) : Prop :=
  ∀ a c', reader c = .ok (a, c') → P a → passing c = .ok ((), c')

namespace Passed

variable {P : α → Prop} {reader : Reader α} {passing : Reader Unit}

theorem failHere (problem : Problem) : Passed P (failHere problem) passing c := nofun

theorem failAhead (problem : Problem) : Passed P (failAhead problem) passing c := nofun

theorem shared {first : Reader β} {next : β → Reader α} {next' : β → Reader Unit}
    (rest : ∀ b c₁, first c = .ok (b, c₁) → Passed P (next b) (next' b) c₁) :
    Passed P (first >>= next) (first >>= next') c := by
  intro a c' read such
  obtain ⟨b, c₁, given, read⟩ := bind_eq_ok.mp read
  exact bind_eq_ok.mpr ⟨b, c₁, given, rest b c₁ given a c' read such⟩

theorem ite {p : Prop} [Decidable p] {r : Reader α} {r' : Reader Unit}
    (yes : p → Passed P reader passing c) (no : ¬ p → Passed P r r' c) :
    Passed P (if p then reader else r) (if p then passing else r') c := by
  by_cases h : p
  · rw [if_pos h, if_pos h]
    exact yes h
  · rw [if_neg h, if_neg h]
    exact no h

theorem never (other : Yields reader (¬ P ·)) : Passed P reader passing c :=
  fun a c' read such => absurd such (other c a c' read)

end Passed

def IsInt (n : Number) : Prop := ∃ i, n = .int i

theorem not_isInt_double (x : Float) : ¬ IsInt (.double x) := nofun

theorem passed_afterDigits (negative : Bool) (n excess : Nat) : Passed IsInt (do
    let next ← peek?
    if next = some '.' then fractionPart negative n excess
    else if isExponentMark next then exponentPart negative n excess
    else if excess = 0 then pure (whole negative n)
    else scaled negative n excess) (do
    if (← peek?) = some '.' then
      skip
      let ds ← takeWhile Char.isDigit
      if ds.isEmpty then failAhead .invalidNumber
    if isExponentMark (← peek?) then ignoreExponent) c := by
  refine .shared fun next c₁ looked => ?_
  cases looked
  by_cases point : c.rest.head? = some '.'
  · rw [if_pos point]
    exact .never (yields_fractionPart not_isInt_double _ _ _)
  rw [if_neg point, if_neg point]
  by_cases mark : isExponentMark c.rest.head?
  · rw [if_pos mark]
    exact .never (yields_exponentPart not_isInt_double _ _ _)
  rw [if_neg mark]
  have ends : (do if isExponentMark (← peek?) then ignoreExponent : Reader Unit) c = .ok ((), c) :=
    bind_eq_ok.mpr ⟨_, c, rfl, by rw [if_neg mark]; rfl⟩
  split
  · rintro _ _ ⟨⟩ -
    exact ends
  · exact .never (yields_scaled not_isInt_double _ _ _)

theorem passed_number (c : Cursor) : Passed IsInt number ignoreNumber c := by
  refine .shared fun c? c₁ _ => .ite (fun _ => .shared fun _ c₁ _ => ?_) fun _ => ?_
  all_goals
    refine .shared fun c? c₁ looked => ?_
    cases c? with
    | none => exact .failHere _
    | some d =>
      refine .ite (fun _ => .failAhead _) fun _ => .shared fun _ c₁ _ => ?_
      by_cases zero : d = '0'
      · simp only [zero, if_true, decide_true, Bool.true_and]
        refine .shared fun next c₁ _ => .ite (fun _ => .failAhead _) fun _ => ?_
        exact passed_afterDigits _ _ _
      · simp only [zero, if_false, decide_false, Bool.false_and, Bool.false_eq_true]
        -- Only the one reader looks at what comes after the first digit.
        intro a c' read such
        obtain ⟨next, _, looked, read⟩ := bind_eq_ok.mp read
        cases looked
        exact Passed.shared (fun ds c₁ _ => passed_afterDigits _ _ _) a c' read such

theorem surrogateMark_eq_ok {mark : Char} (read : surrogateMark mark c = .ok ((), c')) :
    ∃ rest, c.rest = mark :: rest ∧ c' = ⟨rest, c.position.past mark⟩ := by
  obtain ⟨rest, p⟩ := c
  obtain ⟨_, _, looked, read⟩ := bind_eq_ok.mp read
  cases looked
  cases rest with
  | nil => cases read
  | cons d rest =>
    simp only [List.head?_cons] at read
    split at read
    · rename_i same
      cases read
      exact ⟨rest, congrArg (· :: rest) same, same ▸ rfl⟩
    · cases read

theorem hexEscape_eq_ok {e : Char} (read : hexEscape c = .ok (e, c')) :
    ∃ n c₁, hexWord c = .ok (n, c₁) ∧ (c' = c₁ ∨ ∃ rest p m, c₁ = ⟨'\\' :: 'u' :: rest, p⟩ ∧
      hexWord ⟨rest, (p.past '\\').past 'u'⟩ = .ok (m, c')) := by
  obtain ⟨n, ⟨rest₁, p⟩, word, read⟩ := bind_eq_ok.mp read
  refine ⟨n, _, word, ?_⟩
  split at read
  · cases read
  · split at read
    · cases read
      exact .inl rfl
    · obtain ⟨_, _, slash, read⟩ := bind_eq_ok.mp read
      obtain ⟨_, rfl, rfl⟩ := surrogateMark_eq_ok slash
      obtain ⟨_, _, letter, read⟩ := bind_eq_ok.mp read
      obtain ⟨rest, rfl, rfl⟩ := surrogateMark_eq_ok letter
      obtain ⟨m, c₂, second, read⟩ := bind_eq_ok.mp read
      split at read
      · have same : c₂ = c' := (Prod.mk.inj (Except.ok.inj read)).2
        exact .inr ⟨rest, p, m, rfl, same ▸ second⟩
      · cases read

theorem ignoreTextFrom_unit {rest : List Char} {p : Position} {n : Nat} (fuel : Nat)
    (word : hexWord ⟨rest, (p.past '\\').past 'u'⟩ = .ok (n, c)) :
    ignoreTextFrom (fuel + 1) ⟨'\\' :: 'u' :: rest, p⟩ = ignoreTextFrom fuel c := by
  have passed : ignoreHexWord ⟨rest, (p.past '\\').past 'u'⟩ = .ok ((), c) :=
    bind_eq_ok.mpr ⟨n, c, word, rfl⟩
  have unfolded : ignoreTextFrom (fuel + 1) ⟨'\\' :: 'u' :: rest, p⟩ =
      ignoreHexWord ⟨rest, (p.past '\\').past 'u'⟩ >>= fun x => ignoreTextFrom fuel x.2 := rfl
  rw [unfolded, passed]
  rfl

theorem ignoreTextFrom_short {d e : Char} {rest : List Char} {p : Position} (fuel : Nat)
    (other : d ≠ 'u') (short : shortEscape? d = some e) :
    ignoreTextFrom (fuel + 1) ⟨'\\' :: d :: rest, p⟩ =
      ignoreTextFrom fuel ⟨rest, (p.past '\\').past d⟩ := by
  have unfolded : ignoreTextFrom (fuel + 1) ⟨'\\' :: d :: rest, p⟩ =
      (if d = 'u' then (do skip; ignoreHexWord; ignoreTextFrom fuel)
        else if (shortEscape? d).isSome then (do skip; ignoreTextFrom fuel)
        else (do failAhead .invalidEscape; ignoreTextFrom fuel) : Reader Unit)
          ⟨d :: rest, p.past '\\'⟩ := rfl
  rw [unfolded, if_neg other, if_pos (short ▸ rfl)]
  rfl

theorem ignoreTextFrom_plain {d : Char} {rest : List Char} {p : Position} (fuel : Nat)
    (quote : d ≠ '"') (slash : d ≠ '\\') (control : ¬ d.toNat < 0x20) :
    ignoreTextFrom (fuel + 1) ⟨d :: rest, p⟩ = ignoreTextFrom fuel ⟨rest, p.past d⟩ := by
  exact congrFun ((if_neg quote).trans ((if_neg slash).trans (if_neg control))) _

theorem ignoreTextFrom_escaped {e : Char} {rest : List Char} {p : Position} {fuel : Nat}
    (enough : rest.length < fuel) (escape : escaped ⟨rest, p.past '\\'⟩ = .ok (e, c)) :
    ∃ left, c.rest.length < left ∧
      ignoreTextFrom (fuel + 1) ⟨'\\' :: rest, p⟩ = ignoreTextFrom left c := by
  cases rest with
  | nil => cases escape
  | cons d rest =>
    rw [List.length_cons] at enough
    by_cases unit : d = 'u'
    · subst unit
      obtain ⟨n, c₁, word, next⟩ := hexEscape_eq_ok escape
      have shorter : c₁.rest.length ≤ rest.length := forward_hexWord _ _ _ word
      rw [ignoreTextFrom_unit fuel word]
      rcases next with rfl | ⟨rest₁, q, m, rfl, second⟩
      · exact ⟨fuel, by omega, rfl⟩
      · have last : c.rest.length ≤ rest₁.length := forward_hexWord _ _ _ second
        simp only [List.length_cons] at shorter
        obtain ⟨fuel, rfl⟩ := Nat.exists_eq_add_one_of_ne_zero (Nat.ne_zero_of_lt enough)
        exact ⟨fuel, by omega, ignoreTextFrom_unit fuel second⟩
    · obtain ⟨d?, c₁, looked, escape⟩ := bind_eq_ok.mp escape
      cases looked
      simp only [List.head?_cons, if_neg unit] at escape
      cases short : shortEscape? d with
      | none =>
        rw [short] at escape
        cases escape
      | some e' =>
        rw [short] at escape
        cases escape
        exact ⟨fuel, by simp only; omega, ignoreTextFrom_short fuel unit short⟩

theorem passed_textFrom (fuel : Nat) {more : Nat} (c : Cursor) (enough : c.rest.length < more) :
    Passed (fun _ => True) (textFrom fuel) (ignoreTextFrom more) c := by
  induction fuel generalizing more c with
  | zero => exact .failHere _
  | succ fuel ih =>
    obtain ⟨more, rfl⟩ := Nat.exists_eq_add_one_of_ne_zero (Nat.ne_zero_of_lt enough)
    obtain ⟨_ | ⟨d, rest⟩, p⟩ := c
    · exact nofun
    have left : rest.length < more := Nat.lt_of_succ_lt_succ enough
    intro s c' read _
    by_cases quote : d = '"'
    · subst quote
      cases read
      rfl
    by_cases slash : d = '\\'
    · subst slash
      have read : (do let e ← escaped; return e :: (← textFrom fuel) : Reader (List Char))
        ⟨rest, p.past '\\'⟩ = .ok (s, c') := read
      obtain ⟨e, c₁, escape, read⟩ := bind_eq_ok.mp read
      obtain ⟨s', c₂, later, read⟩ := bind_eq_ok.mp read
      cases read
      obtain ⟨fuel', enough', passes⟩ := ignoreTextFrom_escaped left escape
      exact passes.trans (ih c₁ enough' s' c' later trivial)
    · have read : (if d.toNat < 0x20 then failAhead .controlCharacter
          else (do skip; return d :: (← textFrom fuel)) : Reader (List Char)) ⟨d :: rest, p⟩ =
            .ok (s, c') := by
        rw [← read]
        exact (congrFun ((if_neg quote).trans (if_neg slash)) _).symm
      by_cases control : d.toNat < 0x20
      · rw [if_pos control] at read
        cases read
      · rw [if_neg control] at read
        obtain ⟨_, _, skipped, read⟩ := bind_eq_ok.mp read
        cases skipped
        obtain ⟨s', c₂, later, read⟩ := bind_eq_ok.mp read
        cases read
        rw [ignoreTextFrom_plain more quote slash control]
        exact ih _ left s' c' later trivial

theorem passed_text (c : Cursor) : Passed (fun _ => True) text ignoreText c := by
  refine .shared fun _ c₁ _ => .shared fun n c₂ counted => ?_
  cases counted
  intro s c' read _
  obtain ⟨cs, c₂, given, read⟩ := bind_eq_ok.mp read
  cases read
  exact passed_textFrom _ c₁ (Nat.lt_succ_self _) cs c' given trivial

/-- What the reader takes is passed over, with fuel for what is left of the document. -/
def PassedOver (reader : Reader α) : Prop :=
  ∀ c fuel, c.rest.length < fuel → Passed (fun _ => True) reader (ignoreValue fuel) c

theorem passedOver_ignore : PassedOver ignore := by
  intro c fuel enough _ c' read _
  obtain ⟨n, c₁, counted, read⟩ := bind_eq_ok.mp read
  cases counted
  exact extends_ignoreValue enough c _ read

namespace PassedOver

theorem map {γ : Type} {reader : Reader α} (f : α → γ) (h : PassedOver reader) :
    PassedOver (do return f (← reader)) := by
  intro c fuel enough _ c' read _
  obtain ⟨a, c₁, given, read⟩ := bind_eq_ok.mp read
  cases read
  exact h c fuel enough a c' given trivial

end PassedOver

end MessageRelay.Json.Reader

namespace MessageRelay.Json.Decoder

open Reader

variable {α : Type} {c c' : Cursor}

theorem checked_eq_ok {result : Except Problem α} {a : α} (read : checked result c = .ok (a, c')) :
    result = .ok a ∧ c' = c := by
  cases result with
  | error p => cases read
  | ok b => cases read; exact ⟨rfl, rfl⟩

theorem passedOver_integer (low high : Int) (name : String) (room : Nat) :
    PassedOver ((integer low high name).read room) := by
  intro c fuel enough
  obtain ⟨fuel, rfl⟩ := Nat.exists_eq_add_one_of_ne_zero (Nat.ne_zero_of_lt enough)
  refine .shared fun c? c₁ _ => ?_
  cases c? with
  | none => exact .failAhead _
  | some d =>
    by_cases number : (d = '-' || d.isDigit) = true
    · intro i c' read _
      have plain : ¬ d = 'n' ∧ ¬ d = 't' ∧ ¬ d = 'f' := by
        refine ⟨?_, ?_, ?_⟩ <;> rintro rfl <;> cases number
      simp only [if_pos number, plain, if_false] at read ⊢
      obtain ⟨n, c₂, taken, read⟩ := bind_eq_ok.mp read
      obtain ⟨inside, rfl⟩ := checked_eq_ok read
      refine passed_number c₁ n c' taken ?_
      cases n with
      | int n => exact ⟨n, rfl⟩
      | double x => cases inside
    · simp only [if_neg number]
      exact .never (yields_mismatch _)

theorem passedOver_natural (bits : Nat) (name : String) (room : Nat) :
    PassedOver ((natural bits name).read room) := (passedOver_integer _ _ _ room).map _

theorem passedOver_text (room : Nat) : PassedOver (text.read room) := by
  intro c fuel enough
  obtain ⟨fuel, rfl⟩ := Nat.exists_eq_add_one_of_ne_zero (Nat.ne_zero_of_lt enough)
  refine .shared fun c? c₁ _ => ?_
  cases c? with
  | none => exact .failAhead _
  | some d =>
    by_cases quote : d = '"'
    · subst quote
      intro s c' read _
      obtain ⟨s', c₂, taken, read⟩ := bind_eq_ok.mp read
      obtain ⟨-, rfl⟩ := checked_eq_ok read
      exact passed_text c₁ s' c' taken trivial
    · simp only [if_neg quote]
      exact .never (yields_mismatch _)

theorem passedOver_boolean (room : Nat) : PassedOver (boolean.read room) := by
  have both (w : List Char) (b : Bool) (c : Cursor) :
      Passed (fun _ => True) (do word w; pure b) (word w) c := by
    intro _ c' read _
    obtain ⟨_, c₁, taken, read⟩ := bind_eq_ok.mp read
    cases read
    exact taken
  intro c fuel enough
  obtain ⟨fuel, rfl⟩ := Nat.exists_eq_add_one_of_ne_zero (Nat.ne_zero_of_lt enough)
  refine .shared fun c? c₁ _ => ?_
  cases c? with
  | none => exact .failAhead _
  | some d =>
    by_cases yes : d = 't'
    · subst yes
      exact both _ _ _
    by_cases no : d = 'f'
    · subst no
      exact both _ _ _
    · simp only [if_neg yes, if_neg no]
      exact .never (yields_mismatch _)

end MessageRelay.Json.Decoder
