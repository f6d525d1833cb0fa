import MessageRelay.Json.Reader
import Mathlib.Algebra.Group.Int.Defs
import Mathlib.Algebra.Group.Nat.Defs
import Mathlib.Data.List.Basic

/-!
Readers take what was printed: words, texts with their escapes, and integers, in front of whatever
follows them in a document.
-/
namespace MessageRelay.Json.Reader

variable {α β : Type} {follow : List Char → Prop}

/-- The reader takes this text for that value, wherever it stands and whatever of this kind follows. -/
def Reads (follow : List Char → Prop) (reader : Reader α) (text : List Char) (a : α) : Prop :=
  ∀ rest p, follow rest → reader ⟨text ++ rest, p⟩ = .ok (a, ⟨rest, text.foldl Position.past p⟩)

def Anything (_ : List Char) : Prop := True

def Ends (rest : List Char) : Prop := ∀ c ∈ rest.head?, c = ',' ∨ c = ']' ∨ c = '}'

theorem ends_nil : Ends [] := nofun

theorem ends_cons {c : Char} {rest : List Char} (ends : c = ',' ∨ c = ']' ∨ c = '}') :
    Ends (c :: rest) := fun d same => by
  cases same
  exact ends

theorem ahead?_eq {rest : List Char} {c : Char} {p : Position} (first : rest.head? = some c)
    (dark : isBlank c = false) : ahead? ⟨rest, p⟩ = .ok (some c, ⟨rest, p⟩) := by
  obtain ⟨cs, rfl⟩ := List.head?_eq_some_iff.mp first
  have none : (c :: cs).takeWhile isBlank = [] := List.takeWhile_cons_of_neg (by simp [dark])
  have all : (c :: cs).dropWhile isBlank = c :: cs := List.dropWhile_cons_of_neg (by simp [dark])
  have still : takeWhile isBlank ⟨c :: cs, p⟩ = .ok ([], ⟨c :: cs, p⟩) := by
    simp only [takeWhile, none, all, List.foldl_nil]
  have read : ahead? ⟨c :: cs, p⟩ = takeWhile isBlank ⟨c :: cs, p⟩ >>= fun x => peek? x.2 := rfl
  rw [read, still]
  rfl

namespace Reads

variable {reader : Reader α} {next : α → Reader β} {s t : List Char} {a : α} {b : β} {c : Char}

theorem done (a : α) : Reads follow (pure a) [] a := fun _ _ _ => rfl

theorem weaken {follow' : List Char → Prop} (h : Reads follow' reader t a)
    (fits : ∀ rest, follow rest → follow' rest) : Reads follow reader t a :=
  fun rest p ok => h rest p (fits rest ok)

theorem free (h : Reads Anything reader t a) : Reads follow reader t a :=
  h.weaken fun _ _ => trivial

theorem bind {follow' : List Char → Prop} (first : Reads follow' reader s a)
    (second : Reads follow (next a) t b) (fits : ∀ rest, follow rest → follow' (t ++ rest)) :
    Reads follow (reader >>= next) (s ++ t) b := fun rest p ok => by
  have whole : s ++ t ++ rest = s ++ (t ++ rest) := List.append_assoc _ _ _
  have read : (reader >>= next) ⟨s ++ t ++ rest, p⟩ =
      reader ⟨s ++ t ++ rest, p⟩ >>= fun x => next x.1 x.2 := rfl
  rw [read, whole, first _ p (fits rest ok), List.foldl_append]
  exact second rest _ ok

theorem before (first : Reads Anything reader s a) (second : Reads follow (next a) t b) :
    Reads follow (reader >>= next) (s ++ t) b := first.bind second fun _ _ => trivial

theorem map {γ : Type} {f : α → γ} (h : Reads follow reader t a) :
    Reads follow (do return f (← reader)) t (f a) := by
  rw [← List.append_nil t]
  exact h.bind (.done _) fun _ ok => ok

theorem peek {next : Option Char → Reader β} (h : Reads follow (next (some c)) (c :: t) b) :
    Reads follow (peek? >>= next) (c :: t) b := h

theorem ahead {next : Option Char → Reader β} (h : Reads follow (next (some c)) (c :: t) b)
    (dark : isBlank c = false) : Reads follow (ahead? >>= next) (c :: t) b := fun rest p ok => by
  have read : (ahead? >>= next) ⟨c :: t ++ rest, p⟩ =
      ahead? ⟨c :: (t ++ rest), p⟩ >>= fun x => next x.1 x.2 := rfl
  rw [read, ahead?_eq rfl dark]
  exact h rest p ok

theorem aheadNext {next : Option Char → Reader β}
    (h : ∀ rest, follow rest → ∃ c, rest.head? = some c ∧ isBlank c = false ∧
      Reads (· = rest) (next (some c)) [] b) : Reads follow (ahead? >>= next) [] b :=
  fun rest p ok => by
    obtain ⟨c, first, dark, reads⟩ := h rest ok
    have read : (ahead? >>= next) ⟨rest, p⟩ = ahead? ⟨rest, p⟩ >>= fun x => next x.1 x.2 := rfl
    rw [List.nil_append, read, ahead?_eq first dark]
    exact reads rest p rfl

theorem skip {next : Unit → Reader β} (h : Reads follow (next ()) t b) :
    Reads follow (Reader.skip >>= next) (c :: t) b := fun rest p ok => h rest (p.past c) ok

theorem skipped (c : Char) : Reads Anything Reader.skip [c] () := fun _ _ _ => rfl

theorem fueled {next : Nat → Reader β} (h : ∀ n, t.length ≤ n → Reads follow (next n) t b) :
    Reads follow (remaining >>= next) t b := fun rest p ok =>
  h (t ++ rest).length (by rw [List.length_append]; exact Nat.le_add_right _ _) rest p ok

end Reads

theorem reads_word (w : List Char) : Reads Anything (word w) w () := by
  induction w with
  | nil => exact .done ()
  | cons c w ih =>
    refine Reads.peek ?_
    simp only [if_true]
    exact Reads.skip ih

theorem hexWord?_hexDigits : ∀ n < 32, hexWord? (hexDigits n) = some n ∧
    (hexDigits n).length = 4 ∧ (hexDigits n).all (·.utf8Size = 1) = true := by decide

theorem reads_hexWord {n : Nat} (small : n < 32) : Reads Anything hexWord (hexDigits n) n := by
  intro rest p _
  obtain ⟨value, four, ascii⟩ := hexWord?_hexDigits n small
  generalize hexDigits n = ds at value four ascii
  have bytes : ∀ (cs : List Char) (k : Nat), k ≤ cs.foldl (fun n d => n + d.utf8Size) k := fun cs => by
    induction cs with
    | nil => exact fun k => Nat.le_refl k
    | cons c cs ih => exact fun k => Nat.le_trans (Nat.le_add_right _ _) (ih _)
  match ds, four with
  | [a, b, c, d], _ =>
    have enough : ¬ (a :: b :: c :: d :: rest).foldl (fun n d => n + d.utf8Size) 0 < 4 := by
      have sizes : a.utf8Size = 1 ∧ b.utf8Size = 1 ∧ c.utf8Size = 1 ∧ d.utf8Size = 1 := by
        simpa using ascii
      obtain ⟨ha, hb, hc, hd⟩ := sizes
      simp only [List.foldl_cons, ha, hb, hc, hd]
      exact Nat.not_lt.mpr (bytes rest 4)
    simp only [hexWord, List.cons_append, List.nil_append, if_neg enough, List.take_succ_cons,
      List.take_zero, value, List.drop_succ_cons, List.drop_zero]

theorem reads_hexEscape {n : Nat} (small : n < 32) :
    Reads Anything hexEscape (hexDigits n) (Char.ofNat n) := by
  rw [← List.append_nil (hexDigits n)]
  refine (reads_hexWord small).before ?_
  have low : ¬ (0xDC00 ≤ n && n ≤ 0xDFFF) = true := by simp; omega
  have first : (n < 0xD800 || 0xDBFF < n) = true := by simp; omega
  simp only [if_neg low, if_pos first]
  exact .done _

theorem reads_escaped {c e : Char} (short : shortEscape? e = some c) (other : e ≠ 'u') :
    Reads Anything escaped [e] c := by
  refine Reads.peek ?_
  simp only [if_neg other, short]
  exact Reads.skip (.done c)

theorem reads_escapedWord {n : Nat} (small : n < 32) :
    Reads Anything escaped ('u' :: hexDigits n) (Char.ofNat n) := by
  refine Reads.peek ?_
  simp only [if_true]
  exact Reads.skip (reads_hexEscape small)

theorem escape_cases (c : Char) :
    (escape c = [c] ∧ c ≠ '"' ∧ c ≠ '\\' ∧ ¬ c.toNat < 0x20) ∨
      ∃ s, escape c = '\\' :: s ∧ Reads Anything escaped s c := by
  have short {e : Char} (printed : escape c = ['\\', e]) (read : shortEscape? e = some c)
      (other : e ≠ 'u') : ∃ s, escape c = '\\' :: s ∧ Reads Anything escaped s c :=
    ⟨[e], printed, reads_escaped read other⟩
  by_cases quote : c = '"'
  · subst quote
    exact .inr (short rfl rfl (by decide))
  by_cases slash : c = '\\'
  · subst slash
    exact .inr (short rfl rfl (by decide))
  by_cases newline : c = '\n'
  · subst newline
    exact .inr (short rfl rfl (by decide))
  by_cases tab : c = '\t'
  · subst tab
    exact .inr (short rfl rfl (by decide))
  by_cases back : c = '\r'
  · subst back
    exact .inr (short rfl rfl (by decide))
  by_cases erase : c = '\x08'
  · subst erase
    exact .inr (short rfl rfl (by decide))
  by_cases feed : c = '\x0c'
  · subst feed
    exact .inr (short rfl rfl (by decide))
  by_cases control : c.toNat < 0x20
  · refine .inr ⟨'u' :: hexDigits c.toNat, ?_, ?_⟩
    · simp only [escape, if_neg quote, if_neg slash, if_neg newline, if_neg tab, if_neg back,
        if_neg erase, if_neg feed, if_pos control]
    · have read := reads_escapedWord control
      rwa [Char.ofNat_toNat] at read
  · refine .inl ⟨?_, quote, slash, control⟩
    simp only [escape, if_neg quote, if_neg slash, if_neg newline, if_neg tab, if_neg back,
      if_neg erase, if_neg feed, if_neg control]

theorem reads_textFrom (cs : List Char) {fuel : Nat} (enough : cs.length < fuel) :
    Reads Anything (textFrom fuel) (cs.flatMap escape ++ ['"']) cs := by
  induction cs generalizing fuel with
  | nil =>
    obtain ⟨fuel, rfl⟩ := Nat.exists_eq_add_one_of_ne_zero (Nat.ne_of_gt enough)
    refine Reads.peek ?_
    simp only [if_true]
    exact Reads.skip (.done [])
  | cons c cs ih =>
    obtain ⟨fuel, rfl⟩ := Nat.exists_eq_add_one_of_ne_zero (Nat.ne_zero_of_lt enough)
    have rest := (ih (Nat.lt_of_succ_lt_succ enough)).map (f := (c :: ·))
    rw [List.flatMap_cons, List.append_assoc]
    obtain ⟨plain, quote, slash, control⟩ | ⟨s, printed, read⟩ := escape_cases c
    · rw [plain]
      refine Reads.peek ?_
      simp only [if_neg quote, if_neg slash, if_neg control]
      exact Reads.skip rest
    · rw [printed]
      refine Reads.peek ?_
      simp only [if_true]
      exact Reads.skip (read.before rest)

theorem length_le_flatMap_escape (cs : List Char) : cs.length ≤ (cs.flatMap escape).length := by
  induction cs with
  | nil => exact Nat.le_refl 0
  | cons c cs ih =>
    have some : 1 ≤ (escape c).length := by
      obtain ⟨plain, -⟩ | ⟨s, printed, -⟩ := escape_cases c
      · rw [plain]
        exact Nat.le_refl 1
      · rw [printed, List.length_cons]
        exact Nat.le_add_left 1 _
    rw [List.flatMap_cons, List.length_append, List.length_cons]
    omega

theorem reads_text (s : String) : Reads Anything text (textChars s) s := by
  refine Reads.skip (Reads.fueled fun n long => ?_)
  have enough : s.toList.length < n + 1 := by
    have shorter := length_le_flatMap_escape s.toList
    have long : (s.toList.flatMap escape ++ ['"']).length ≤ n := long
    rw [List.length_append] at long
    omega
  have read := (reads_textFrom s.toList enough).map (f := String.ofList)
  rwa [String.ofList_toList] at read

theorem le_ofDigitChars (ds : List Char) (n : Nat) : n ≤ Nat.ofDigitChars 10 ds n := by
  rw [Nat.ofDigitChars_eq_ofDigitChars_zero]
  exact Nat.le_trans (Nat.le_mul_of_pos_left n (Nat.pow_pos (by decide))) (Nat.le_add_right _ _)

theorem append?_of_lt {n : Nat} {d : Char} (fits : n * 10 + digitValue d < UInt64.size) :
    append? n d = some (n * 10 + digitValue d) := if_pos fits

-- The definition is taken apart by hand, as its equations are only found by computing `append?`.
theorem appendWhole_cons (n : Nat) (d : Char) (ds : List Char) : appendWhole n (d :: ds) =
    match append? n d with
    | some m => appendWhole m ds
    | none => (n, ds.length + 1) := by
  cases more : append? n d with
  | none =>
    delta appendWhole List.brecOn List.brecOn.go appendWhole._f
    simp only [more]
  | some m =>
    delta appendWhole List.brecOn List.brecOn.go appendWhole._f
    simp only [more]

theorem ofDigitChars_cons (d : Char) (ds : List Char) (n : Nat) :
    Nat.ofDigitChars 10 (d :: ds) n = Nat.ofDigitChars 10 ds (n * 10 + digitValue d) := by
  rw [Nat.ofDigitChars_cons, Nat.mul_comm, digitValue]

theorem appendWhole_of_lt (ds : List Char) (n : Nat)
    (fits : Nat.ofDigitChars 10 ds n < UInt64.size) :
    appendWhole n ds = (Nat.ofDigitChars 10 ds n, 0) := by
  induction ds generalizing n with
  | nil => rfl
  | cons d ds ih =>
    rw [ofDigitChars_cons] at fits ⊢
    have now : n * 10 + digitValue d < UInt64.size :=
      Nat.lt_of_le_of_lt (le_ofDigitChars ds (n * 10 + digitValue d)) fits
    rw [appendWhole_cons, append?_of_lt now]
    exact ih _ fits

theorem head_toDigits (n : Nat) (positive : 0 < n) :
    ∃ c cs, Nat.toDigits 10 n = c :: cs ∧ c ≠ '0' := by
  induction n using Nat.strongRecOn with
  | ind n ih =>
    by_cases small : n < 10
    · refine ⟨n.digitChar, [], Nat.toDigits_of_lt_base small, fun zero => ?_⟩
      exact Nat.ne_of_gt positive (Nat.digitChar_eq_zero.mp zero)
    · obtain ⟨c, cs, digits, other⟩ := ih (n / 10) (by omega) (by omega)
      refine ⟨c, cs ++ [(n % 10).digitChar], ?_, other⟩
      rw [Nat.toDigits_of_base_le (by decide) (by omega), digits, List.cons_append]

theorem not_isDigit_of_ends {rest : List Char} (ends : Ends rest) :
    ∀ c ∈ rest.head?, c.isDigit = false := fun c first => by
  rcases ends c first with rfl | rfl | rfl <;> rfl

namespace Reads

variable {t : List Char} {b : β} {next : Option Char → Reader β}

theorem peekAny (h : ∀ c?, Reads follow (next c?) t b) : Reads follow (peek? >>= next) t b :=
  fun rest p ok => h (t ++ rest).head? rest p ok

theorem peekEnd (h : ∀ rest, Ends rest → Reads Ends (next rest.head?) [] b) :
    Reads Ends (peek? >>= next) [] b := fun rest p ok => h rest ok rest p ok

end Reads

theorem reads_takeWhile {test : Char → Bool} {cs : List Char} (all : ∀ c ∈ cs, test c = true) :
    Reads (fun rest => ∀ c ∈ rest.head?, test c = false) (takeWhile test) cs cs := by
  intro rest p stops
  have none : rest.takeWhile test = [] ∧ rest.dropWhile test = rest := by
    cases rest with
    | nil => exact ⟨rfl, rfl⟩
    | cons c rest =>
      have stop := stops c rfl
      exact ⟨List.takeWhile_cons_of_neg (by simp [stop]), List.dropWhile_cons_of_neg (by simp [stop])⟩
  simp only [takeWhile, List.takeWhile_append_of_pos all, List.dropWhile_append_of_pos all, none,
    List.append_nil]

theorem reads_afterDigits (negative : Bool) (n : Nat) : Reads Ends (do
    let next ← peek?
    if next = some '.' then fractionPart negative n 0
    else if isExponentMark next then exponentPart negative n 0
    else pure (whole negative n)) [] (whole negative n) := by
  refine Reads.peekEnd fun rest ends => ?_
  have point : rest.head? ≠ some '.' := fun first => by simpa using ends _ first
  have mark : isExponentMark rest.head? = false := by
    simp only [isExponentMark, Bool.or_eq_false_iff, decide_eq_false_iff_not]
    exact ⟨fun first => by simpa using ends _ first, fun first => by simpa using ends _ first⟩
  simp only [if_neg point, mark, Bool.false_eq_true, if_false]
  exact .done _

theorem reads_magnitude (negative : Bool) {n : Nat} (fits : n < UInt64.size) :
    Reads Ends (magnitude negative) (Nat.toDigits 10 n) (whole negative n) := by
  have last := reads_afterDigits negative n
  have value : Nat.ofDigitChars 10 (Nat.toDigits 10 n) 0 = n := Nat.ofDigitChars_ten_toDigits
  have digits : ∀ c ∈ Nat.toDigits 10 n, c.isDigit = true :=
    fun c => Nat.isDigit_of_mem_toDigits (by decide) (by decide)
  rcases Nat.eq_zero_or_pos n with rfl | positive
  · refine Reads.peek (Reads.skip (Reads.peekEnd fun rest ends => ?_))
    have stop : rest.head?.any Char.isDigit = false := by
      cases first : rest.head? with
      | none => rfl
      | some c => exact not_isDigit_of_ends ends c first
    simp only [stop, Bool.and_false, Bool.false_eq_true, if_false]
    exact last
  · obtain ⟨c, cs, printed, other⟩ := head_toDigits n positive
    rw [printed] at value digits ⊢
    have first : c.isDigit = true := digits c List.mem_cons_self
    rw [ofDigitChars_cons, Nat.zero_mul, Nat.zero_add] at value
    have whole : appendWhole (digitValue c) cs = (n, 0) :=
      (appendWhole_of_lt cs _ (value.symm ▸ fits)).trans (by rw [value])
    refine Reads.peek ?_
    simp only [first, Bool.not_true, Bool.false_eq_true, if_false, other, decide_false, Bool.false_and]
    refine Reads.skip (Reads.peekAny fun c? => ?_)
    rw [← List.append_nil cs]
    refine (reads_takeWhile fun d member => digits d (List.mem_cons_of_mem c member)).bind ?_
      fun rest ends => not_isDigit_of_ends ends
    simp only [whole]
    exact last

theorem toChars_ofNat (n : Nat) : (Number.int n).toChars = Nat.toDigits 10 n := Nat.toList_repr

theorem toChars_negSucc (n : Nat) :
    (Number.int (.negSucc n)).toChars = '-' :: Nat.toDigits 10 (n + 1) := by
  have printed : toString (Int.negSucc n) = "-" ++ (n + 1).repr := rfl
  rw [Number.toChars, printed, String.toList_append, Nat.toList_repr]
  rfl

theorem toDigits_cons (n : Nat) : ∃ c cs, Nat.toDigits 10 n = c :: cs ∧ c.isDigit = true := by
  obtain ⟨c, cs, printed⟩ := List.exists_cons_of_ne_nil (Nat.toDigits_ne_nil (n := n) (b := 10))
  exact ⟨c, cs, printed, Nat.isDigit_of_mem_toDigits (b := 10) (n := n) (by decide) (by decide)
    (printed ▸ List.mem_cons_self)⟩

theorem toChars_int (n : Int) :
    ∃ c cs, (Number.int n).toChars = c :: cs ∧ (c = '-' ∨ c.isDigit = true) := by
  cases n with
  | ofNat n =>
    obtain ⟨c, cs, printed, digit⟩ := toDigits_cons n
    exact ⟨c, cs, (toChars_ofNat n).trans printed, .inr digit⟩
  | negSucc n => exact ⟨'-', _, toChars_negSucc n, .inl rfl⟩

theorem reads_number {n : Int} (low : -2 ^ 63 ≤ n) (high : n < 2 ^ 64) :
    Reads Ends number (Number.int n).toChars (.int n) := by
  cases n with
  | ofNat n =>
    have read := reads_magnitude false (n := n) (Int.ofNat_lt.mp high)
    obtain ⟨c, cs, printed, digit⟩ := toDigits_cons n
    have unsigned : ¬ some c = some '-' := fun same => by
      cases same
      cases digit
    rw [show (Number.int (.ofNat n)).toChars = _ from toChars_ofNat n]
    rw [printed] at read ⊢
    refine Reads.peek ?_
    rw [if_neg unsigned]
    exact read
  | negSucc n =>
    have small : n + 1 ≤ 2 ^ 63 := by omega
    have read := reads_magnitude true (n := n + 1) (Nat.lt_of_le_of_lt small (by decide))
    have value : whole true (n + 1) = .int (.negSucc n) := by
      have half : UInt64.size / 2 = 2 ^ 63 := by decide
      have fits : (1 ≤ n + 1 && n + 1 ≤ UInt64.size / 2) = true := by
        rw [half, Bool.and_eq_true, decide_eq_true_eq, decide_eq_true_eq]
        exact ⟨Nat.le_add_left 1 n, small⟩
      simp only [whole, Bool.not_true, Bool.false_eq_true, if_false, if_pos fits]
      rfl
    rw [value] at read
    rw [toChars_negSucc]
    refine Reads.peek ?_
    rw [if_pos rfl]
    exact Reads.skip read

end MessageRelay.Json.Reader
