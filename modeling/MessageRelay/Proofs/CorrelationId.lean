import MessageRelay.CorrelationId
import Mathlib.Algebra.Ring.Nat
import Mathlib.Data.List.Basic

/-!
The written form of an id reads back as the id: its digits are the number in base sixteen, and the
hyphens part them into the groups that are asked for.
-/
namespace MessageRelay.CorrelationId

variable {ds : List Char} {n : Nat}

theorem hexValue?_digitChar : ∀ d < 16, hexValue? (Nat.digitChar d) = some d := by decide

theorem mem_digits {c : Char} {count : Nat} (member : c ∈ digits count n) :
    ∃ d < 16, c = Nat.digitChar d := by
  induction count generalizing n with
  | zero => cases member
  | succ count ih =>
    rcases List.mem_append.mp member with before | last
    · exact ih before
    · exact ⟨n % 16, Nat.mod_lt n (by decide), List.mem_singleton.mp last⟩

theorem isSome_hexValue? {d : Nat} (below : d < 16) : (hexValue? (Nat.digitChar d)).isSome := by
  rw [hexValue?_digitChar d below]
  rfl

theorem digitChar_ne : ∀ d < 16,
    Nat.digitChar d ≠ '-' ∧ Nat.digitChar d ≠ '{' ∧ (Nat.digitChar d).toLower ≠ 'u' := by decide

theorem length_digits (count n : Nat) : (digits count n).length = count := by
  induction count generalizing n with
  | zero => rfl
  | succ count ih => rw [digits, List.length_append, ih, List.length_singleton]

theorem foldl_digits (count n : Nat) :
    (digits count n).foldl (fun n c => n * 16 + (hexValue? c).getD 0) 0 = n % 16 ^ count := by
  induction count generalizing n with
  | zero => exact (Nat.mod_one n).symm
  | succ count ih =>
    rw [digits, List.foldl_append, ih, List.foldl_cons, List.foldl_nil,
      hexValue?_digitChar _ (Nat.mod_lt n (by decide)), Option.getD_some, Nat.pow_succ,
      Nat.mul_comm (16 ^ count), Nat.mod_mul]
    omega

theorem toNat_lt (id : CorrelationId) : id.toNat < 16 ^ 32 := by
  have high := id.high.toNat_lt
  have low := id.low.toNat_lt
  have size : UInt64.size = 2 ^ 64 := by decide
  rw [toNat, size]
  omega

theorem ofNat_toNat (id : CorrelationId) : ofNat id.toNat = id := by
  obtain ⟨high, low⟩ := id
  have below : low.toNat < UInt64.size := low.toNat_lt
  have first : (high.toNat * UInt64.size + low.toNat) / UInt64.size = high.toNat := by
    rw [Nat.add_comm, Nat.add_mul_div_right _ _ (by decide), Nat.div_eq_of_lt below, Nat.zero_add]
  have second : UInt64.ofNat (high.toNat * UInt64.size + low.toNat) = low := by
    refine UInt64.toNat_inj.mp ?_
    rw [UInt64.toNat_ofNat']
    exact (Nat.mul_add_mod_self_right _ _ _).trans (Nat.mod_eq_of_lt below)
  rw [ofNat, toNat, first, second, UInt64.ofNat_toNat]

theorem valueOf_digits (id : CorrelationId) : valueOf (digits 32 id.toNat) = id := by
  rw [valueOf, foldl_digits, Nat.mod_eq_of_lt id.toNat_lt, ofNat_toNat]

def parts : List Nat → List Char → List (List Char)
  | [], _ => [[]]
  | [_], ds => [ds]
  | n :: m :: rest, ds => ds.take n :: parts (m :: rest) (ds.drop n)

theorem groups_ne_nil (s : List Char) : groups s ≠ [] := by
  cases s with
  | nil => exact List.cons_ne_nil _ _
  | cons c s =>
    rw [groups]
    split
    · exact List.cons_ne_nil _ _
    · split <;> exact List.cons_ne_nil _ _

theorem groups_hyphen (s : List Char) : groups ('-' :: s) = [] :: groups s := by
  rw [groups]
  cases parted : groups s with
  | nil => exact absurd parted (groups_ne_nil s)
  | cons g gs => rfl

theorem groups_append {g : List Char} (plain : ∀ c ∈ g, c ≠ '-') {s h : List Char}
    {gs : List (List Char)} (parted : groups s = h :: gs) : groups (g ++ s) = (g ++ h) :: gs := by
  induction g with
  | nil => exact parted
  | cons c g ih =>
    have rest := ih fun d member => plain d (List.mem_cons_of_mem c member)
    rw [List.cons_append, groups, rest]
    exact if_neg (plain c List.mem_cons_self)

theorem groups_grouped (lengths : List Nat) (plain : ∀ c ∈ ds, c ≠ '-') :
    groups (grouped lengths ds) = parts lengths ds := by
  induction lengths generalizing ds with
  | nil => rfl
  | cons n lengths ih =>
    cases lengths with
    | nil =>
      have alone := groups_append plain (s := []) rfl
      rwa [List.append_nil] at alone
    | cons m lengths =>
      have later := @ih (ds.drop n) fun c member => plain c (List.mem_of_mem_drop member)
      have first := groups_append (g := ds.take n) (s := '-' :: grouped (m :: lengths) (ds.drop n))
        (fun c member => plain c (List.mem_of_mem_take member)) (groups_hyphen _)
      rw [grouped, first, later, List.append_nil, parts]

theorem flatten_parts {lengths : List Nat} (some : lengths ≠ []) (ds : List Char) :
    (parts lengths ds).flatten = ds := by
  induction lengths generalizing ds with
  | nil => exact absurd rfl some
  | cons n lengths ih =>
    cases lengths with
    | nil => exact List.append_nil ds
    | cons m lengths =>
      rw [parts, List.flatten_cons, ih (List.cons_ne_nil _ _), List.take_append_drop]

theorem length_parts {lengths : List Nat} (some : lengths ≠ []) (ds : List Char) :
    (parts lengths ds).length = lengths.length := by
  induction lengths generalizing ds with
  | nil => exact absurd rfl some
  | cons n lengths ih =>
    cases lengths with
    | nil => rfl
    | cons m lengths =>
      rw [parts, List.length_cons, ih (List.cons_ne_nil _ _)]
      rfl

theorem wrongGroup?_parts {lengths : List Nat} (index : Nat) (whole : ds.length = lengths.sum) :
    wrongGroup? lengths index (parts lengths ds) = none := by
  induction lengths generalizing ds index with
  | nil => rfl
  | cons n lengths ih =>
    cases lengths with
    | nil =>
      rw [parts, wrongGroup?, if_pos (by simpa using whole)]
      rfl
    | cons m lengths =>
      rw [List.sum_cons] at whole
      have taken : (ds.take n).length = n := by
        rw [List.length_take]
        omega
      rw [parts, wrongGroup?, if_pos taken]
      exact ih _ (by rw [List.length_drop]; omega)

theorem mem_grouped {lengths : List Nat} {c : Char} (member : c ∈ grouped lengths ds) :
    c = '-' ∨ c ∈ ds := by
  induction lengths generalizing ds with
  | nil => cases member
  | cons n lengths ih =>
    cases lengths with
    | nil => exact .inr member
    | cons m lengths =>
      rw [grouped, List.mem_append, List.mem_cons] at member
      rcases member with first | rfl | later
      · exact .inr (List.mem_of_mem_take first)
      · exact .inl rfl
      · exact (ih later).imp_right List.mem_of_mem_drop

theorem stray?_eq_none {s : List Char} (index : Nat)
    (plain : ∀ c ∈ s, c = '-' ∨ (hexValue? c).isSome) : stray? s index = none := by
  induction s generalizing index with
  | nil => rfl
  | cons c s ih =>
    have here : (c = '-' || (hexValue? c).isSome) = true := by
      simpa using plain c List.mem_cons_self
    rw [stray?, if_pos here]
    exact ih _ fun d member => plain d (List.mem_cons_of_mem c member)

theorem unwrap_eq {d : Nat} (below : d < 16) (s : List Char) :
    unwrap (Nat.digitChar d :: s) = (.none, Nat.digitChar d :: s) := by
  obtain ⟨-, brace, letter⟩ := digitChar_ne d below
  have noBraces : ¬ (2 ≤ (Nat.digitChar d :: s).length && (Nat.digitChar d :: s).head? = some '{' &&
      (Nat.digitChar d :: s).getLast? = some '}') = true := by
    simp [brace]
  have noUrn : ¬ ((Nat.digitChar d :: s).take 9).map Char.toLower = urn := fun same =>
    letter (List.cons.inj same).1
  rw [unwrap, if_neg noBraces, if_neg noUrn]

theorem parseChars_grouped (full : ds.length = groupLengths.sum)
    (hex : ∀ c ∈ ds, ∃ d < 16, c = Nat.digitChar d) :
    parseChars (grouped groupLengths ds) = .ok (valueOf ds) := by
  have some : groupLengths ≠ [] := List.cons_ne_nil _ _
  have wrapped : unwrap (grouped groupLengths ds) = (.none, grouped groupLengths ds) := by
    cases ds with
    | nil => cases full
    | cons c cs =>
      obtain ⟨d, below, rfl⟩ := hex c List.mem_cons_self
      exact unwrap_eq below _
  have plain : stray? (grouped groupLengths ds) Wrapping.none.offset = none :=
    stray?_eq_none _ fun c member => (mem_grouped member).imp_right fun inside => by
      obtain ⟨d, below, rfl⟩ := hex c inside
      exact isSome_hexValue? below
  have parted : groups (grouped groupLengths ds) = parts groupLengths ds :=
    groups_grouped groupLengths fun c member => by
      obtain ⟨d, below, rfl⟩ := hex c member
      exact (digitChar_ne d below).1
  have five : (parts groupLengths ds).length = 5 := length_parts some ds
  have right : wrongGroup? groupLengths 0 (parts groupLengths ds) = none := wrongGroup?_parts 0 full
  rw [parseChars, wrapped]
  simp only [plain, parted, five, right, flatten_parts some]
  rfl

/-- The canonical text of an id reads back as the id. -/
theorem parse_toText (id : CorrelationId) : parse id.toText = .ok id := by
  have read : parseChars (grouped groupLengths (digits 32 id.toNat)) =
      .ok (valueOf (digits 32 id.toNat)) :=
    parseChars_grouped (length_digits 32 _) fun c => mem_digits
  rw [valueOf_digits] at read
  rw [parse, toText, String.toList_ofList]
  exact read

end MessageRelay.CorrelationId
