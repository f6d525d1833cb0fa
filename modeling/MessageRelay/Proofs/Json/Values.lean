import MessageRelay.Proofs.Json.Tokens

/-!
Values that are printed and read again. A value without doubles whose members are sorted comes back as
it was, if its lists and objects are not nested too deep.
-/
namespace MessageRelay

def Number.Exact : Number → Prop
  | .int n => -2 ^ 63 ≤ n ∧ n < 2 ^ 64
  | .double _ => False

namespace Json

mutual

def numbers : Json → List Number
  | .num n => [n]
  | .arr items => numbersOfItems items
  | .obj members => numbersOfMembers members
  | .null | .bool _ | .str _ => []

def numbersOfItems : List Json → List Number
  | [] => []
  | v :: rest => numbers v ++ numbersOfItems rest

def numbersOfMembers : List (String × Json) → List Number
  | [] => []
  | (_, v) :: rest => numbers v ++ numbersOfMembers rest

end

def Within : (room : Nat) → Json → Prop
  | 0, .arr _ | 0, .obj _ => False
  | room + 1, .arr items => ∀ v ∈ items, Within room v
  | room + 1, .obj members =>
    members.Pairwise (fun a b => a.1 < b.1) ∧ ∀ m ∈ members, Within room m.2
  | _, .null | _, .bool _ | _, .num _ | _, .str _ => True

/-- The value fits into a document, and is the same when it is read again. -/
structure Portable (room : Nat) (v : Json) : Prop where
  within : v.Within room
  exact : ∀ n ∈ v.numbers, n.Exact

theorem mem_numbers_arr {n : Number} {items : List Json} :
    n ∈ (Json.arr items).numbers ↔ ∃ v ∈ items, n ∈ v.numbers := by
  rw [numbers]
  induction items with
  | nil => simp [numbersOfItems]
  | cons v items ih => simp [numbersOfItems, ih]

theorem mem_numbers_obj {n : Number} {members : List (String × Json)} :
    n ∈ (Json.obj members).numbers ↔ ∃ m ∈ members, n ∈ m.2.numbers := by
  rw [numbers]
  induction members with
  | nil => simp [numbersOfMembers]
  | cons m members ih => simp [numbersOfMembers, ih]

namespace Portable

variable {room : Nat}

theorem item {items : List Json} {v : Json} (h : Portable (room + 1) (.arr items))
    (member : v ∈ items) : Portable room v :=
  ⟨h.within v member, fun n inside => h.exact n (mem_numbers_arr.mpr ⟨v, member, inside⟩)⟩

theorem member {members : List (String × Json)} {m : String × Json}
    (h : Portable (room + 1) (.obj members)) (member : m ∈ members) : Portable room m.2 :=
  ⟨h.within.2 m member, fun n inside => h.exact n (mem_numbers_obj.mpr ⟨m, member, inside⟩)⟩

end Portable

theorem insertMember_last {key : String} {value : Json} {sorted : List (String × Json)}
    (last : ∀ m ∈ sorted, m.1 < key) : insertMember key value sorted = sorted ++ [(key, value)] := by
  induction sorted with
  | nil => rfl
  | cons m sorted ih =>
    have before : m.1 < key := last m List.mem_cons_self
    have other : key ≠ m.1 := fun same => String.lt_irrefl key (same ▸ before)
    rw [insertMember, if_neg (String.lt_asymm before), if_neg other,
      ih fun n member => last n (List.mem_cons_of_mem m member), List.cons_append]

theorem ofMembers_of_sorted {members : List (String × Json)}
    (sorted : members.Pairwise (fun a b => a.1 < b.1)) : ofMembers members = .obj members := by
  have fold : ∀ (rest done : List (String × Json)),
      (done ++ rest).Pairwise (fun a b => a.1 < b.1) →
        rest.foldl (fun sorted m => insertMember m.1 m.2 sorted) done = done ++ rest := by
    intro rest
    induction rest with
    | nil => exact fun done _ => (List.append_nil done).symm
    | cons m rest ih =>
      intro done sorted
      have last : ∀ n ∈ done, n.1 < m.1 := fun n member =>
        (List.pairwise_append.mp sorted).2.2 n member m List.mem_cons_self
      rw [List.foldl_cons, insertMember_last last, ih _ (by rwa [List.append_assoc]),
        List.append_assoc]
      rfl
  exact congrArg Json.obj (fold members [] sorted)

namespace Reader

def Opens (close : Char) (rest : List Char) : Prop :=
  ∃ c ∈ rest.head?, isBlank c = false ∧ c ≠ close

def Next (c : Char) (rest : List Char) : Prop := rest.head? = some c

theorem Next.ends {close : Char} (bracket : close = ']' ∨ close = '}') {rest : List Char}
    (closes : Next close rest) : Ends rest := fun c first => by
  cases closes.symm.trans first
  exact .inr bracket

theorem opens_cons {close c : Char} (rest : List Char) (dark : isBlank c = false)
    (other : c ≠ close) : Opens close (c :: rest) := ⟨c, rfl, dark, other⟩

theorem ne_of_isDigit {c d : Char} (digit : c.isDigit = true) (other : d.isDigit = false) : c ≠ d := by
  rintro rfl
  exact Bool.false_ne_true (other.symm.trans digit)

theorem not_isBlank_of_isDigit {c : Char} (digit : c.isDigit = true) : isBlank c = false := by
  simp only [isBlank, Bool.or_eq_false_iff, decide_eq_false_iff_not]
  exact ⟨⟨⟨ne_of_isDigit digit rfl, ne_of_isDigit digit rfl⟩, ne_of_isDigit digit rfl⟩,
    ne_of_isDigit digit rfl⟩

theorem opens_toChars {v : Json} (exact : ∀ n ∈ v.numbers, n.Exact) (rest : List Char) :
    Opens ']' (v.toChars ++ rest) := by
  cases v with
  | null => exact opens_cons _ rfl (by decide)
  | bool b => cases b <;> exact opens_cons _ rfl (by decide)
  | num n =>
    cases n with
    | double => exact (exact _ List.mem_cons_self).elim
    | int n =>
      obtain ⟨c, cs, printed, first⟩ := toChars_int n
      rw [toChars, printed]
      rcases first with rfl | digit
      · exact opens_cons _ rfl (by decide)
      · exact opens_cons _ (not_isBlank_of_isDigit digit) (ne_of_isDigit digit rfl)
  | str s => exact opens_cons _ rfl (by decide)
  | arr items => exact opens_cons _ rfl (by decide)
  | obj members => exact opens_cons _ rfl (by decide)

def lead (first : Bool) : List Char := if first then [] else [',']

def separated : (first : Bool) → List (List Char) → List Char
  | _, [] => []
  | first, t :: rest => lead first ++ (t ++ separated false rest)

theorem ends_separated {close : Char} (bracket : close = ']' ∨ close = '}')
    (texts : List (List Char)) {rest : List Char} (closes : Next close rest) :
    Ends (separated false texts ++ rest) := by
  cases texts with
  | nil => exact closes.ends bracket
  | cons t texts => exact ends_cons (.inl rfl)

theorem length_le_separated (first : Bool) {texts : List (List Char)}
    (full : ∀ t ∈ texts, t ≠ []) : texts.length ≤ (separated first texts).length := by
  induction texts generalizing first with
  | nil => exact Nat.le_refl 0
  | cons t texts ih =>
    have now := List.length_pos_iff.mpr (full t List.mem_cons_self)
    have later := ih false fun u member => full u (List.mem_cons_of_mem t member)
    rw [separated, List.length_append, List.length_append, List.length_cons]
    omega

theorem lt_of_separated {texts : List (List Char)} {close : Char} {n : Nat}
    (full : ∀ t ∈ texts, t ≠ []) (long : (separated true texts ++ [close]).length ≤ n) :
    texts.length < n + 1 := by
  have shorter := length_le_separated true full
  rw [List.length_append] at long
  omega

theorem itemChars_eq (items : List Json) : itemChars items = separated true (items.map toChars) := by
  have more : ∀ (v : Json) (rest : List Json),
      itemChars (v :: rest) = v.toChars ++ separated false (rest.map toChars) := by
    intro v rest
    induction rest generalizing v with
    | nil => exact (List.append_nil _).symm
    | cons w rest ih =>
      rw [itemChars, ih w]
      rfl
  cases items with
  | nil => rfl
  | cons v rest => exact more v rest

def memberText (m : String × Json) : List Char := textChars m.1 ++ ':' :: m.2.toChars

theorem memberChars_eq (members : List (String × Json)) :
    memberChars members = separated true (members.map memberText) := by
  have more : ∀ (m : String × Json) (rest : List (String × Json)),
      memberChars (m :: rest) = memberText m ++ separated false (rest.map memberText) := by
    intro m rest
    induction rest generalizing m with
    | nil => exact (List.append_nil _).symm
    | cons n rest ih =>
      rw [memberChars, ih n]
      rfl
  cases members with
  | nil => rfl
  | cons m rest => exact more m rest

theorem reads_hasItem (first : Bool) : Reads (Opens ']') (hasItem first) (lead first) true := by
  cases first with
  | true =>
    exact Reads.aheadNext fun rest ⟨c, first, dark, other⟩ => ⟨c, first, dark, by
      simp only [if_neg other, if_true]
      exact .done true⟩
  | false =>
    exact Reads.ahead (Reads.skip (Reads.aheadNext fun rest ⟨c, first, dark, other⟩ =>
      ⟨c, first, dark, by
        simp only [if_neg other]
        exact .done true⟩)) rfl

theorem reads_hasItem_none (first : Bool) : Reads (Next ']') (hasItem first) [] false :=
  Reads.aheadNext fun _ closes => ⟨']', closes, rfl, .done false⟩

theorem reads_hasMember (first : Bool) : Reads (Next '"') (hasMember first) (lead first) true := by
  cases first with
  | true => exact Reads.aheadNext fun _ quote => ⟨'"', quote, rfl, .done true⟩
  | false =>
    exact Reads.ahead (Reads.skip (Reads.aheadNext fun _ quote => ⟨'"', quote, rfl, .done true⟩)) rfl

theorem reads_hasMember_none (first : Bool) : Reads (Next '}') (hasMember first) [] false :=
  Reads.aheadNext fun _ closes => ⟨'}', closes, rfl, .done false⟩

theorem reads_closeList : Reads Anything closeList [']'] () :=
  Reads.ahead (Reads.skipped ']') rfl

theorem reads_closeObject : Reads Anything closeObject ['}'] () :=
  Reads.ahead (Reads.skipped '}') rfl

theorem reads_colon : Reads Anything colon [':'] () := Reads.ahead (Reads.skipped ':') rfl

theorem reads_items {item : Reader Json} {vs : List Json} {fuel : Nat} (first : Bool)
    (enough : vs.length < fuel) (reads : ∀ v ∈ vs, Reads Ends item v.toChars v)
    (opens : ∀ v ∈ vs, ∀ rest, Opens ']' (v.toChars ++ rest)) :
    Reads (Next ']') (items item fuel first) (separated first (vs.map toChars)) vs := by
  induction vs generalizing fuel first with
  | nil =>
    obtain ⟨fuel, rfl⟩ := Nat.exists_eq_add_one_of_ne_zero (Nat.ne_zero_of_lt enough)
    exact (reads_hasItem_none first).bind (.done []) fun _ closes => closes
  | cons v vs ih =>
    obtain ⟨fuel, rfl⟩ := Nat.exists_eq_add_one_of_ne_zero (Nat.ne_zero_of_lt enough)
    have later := ih false (Nat.lt_of_succ_lt_succ enough)
      (fun w member => reads w (List.mem_cons_of_mem v member))
      (fun w member => opens w (List.mem_cons_of_mem v member))
    have both : Reads (Next ']') (do let a ← item; return a :: (← items item fuel false))
        (v.toChars ++ separated false (vs.map toChars)) (v :: vs) :=
      (reads v List.mem_cons_self).bind later.map fun _ => ends_separated (.inl rfl) _
    refine (reads_hasItem first).bind both fun rest _ => ?_
    rw [List.append_assoc]
    exact opens v List.mem_cons_self _

theorem reads_members {value : Reader Json} {ms : List (String × Json)} {fuel : Nat} (first : Bool)
    (enough : ms.length < fuel) (reads : ∀ m ∈ ms, Reads Ends value m.2.toChars m.2) :
    Reads (Next '}') (members value fuel first) (separated first (ms.map memberText)) ms := by
  induction ms generalizing fuel first with
  | nil =>
    obtain ⟨fuel, rfl⟩ := Nat.exists_eq_add_one_of_ne_zero (Nat.ne_zero_of_lt enough)
    exact (reads_hasMember_none first).bind (.done []) fun _ closes => closes
  | cons m ms ih =>
    obtain ⟨fuel, rfl⟩ := Nat.exists_eq_add_one_of_ne_zero (Nat.ne_zero_of_lt enough)
    have later := ih false (Nat.lt_of_succ_lt_succ enough)
      (fun n member => reads n (List.mem_cons_of_mem m member))
    have rest : Reads (Next '}')
        (do let a ← value; return (m.1, a) :: (← members value fuel false))
        (m.2.toChars ++ separated false (ms.map memberText)) (m :: ms) :=
      (reads m List.mem_cons_self).bind later.map fun _ => ends_separated (.inr rfl) _
    have all : Reads (Next '}')
        (do let key ← text; colon; let a ← value; return (key, a) :: (← members value fuel false))
        (memberText m ++ separated false (ms.map memberText)) (m :: ms) := by
      rw [memberText, List.append_assoc]
      exact (reads_text m.1).before (reads_colon.before rest)
    exact (reads_hasMember first).bind all fun _ _ => rfl

theorem toChars_ne_nil {v : Json} (exact : ∀ n ∈ v.numbers, n.Exact) : v.toChars ≠ [] := by
  intro none
  obtain ⟨c, first, -⟩ := opens_toChars exact []
  rw [none] at first
  cases first

theorem memberText_ne_nil (m : String × Json) : memberText m ≠ [] := nofun

section values

variable {room : Nat}

theorem reads_null : Reads Ends (value room) (toChars .null) .null := by
  unfold value
  exact Reads.ahead (reads_word _).free.map rfl

theorem reads_bool (b : Bool) : Reads Ends (value room) (toChars (.bool b)) (.bool b) := by
  unfold value
  cases b with
  | true => exact Reads.ahead (reads_word _).free.map rfl
  | false => exact Reads.ahead (reads_word _).free.map rfl

theorem reads_str (s : String) : Reads Ends (value room) (toChars (.str s)) (.str s) := by
  unfold value
  exact Reads.ahead (reads_text s).free.map rfl

theorem reads_num {n : Int} (exact : (Number.int n).Exact) :
    Reads Ends (value room) (toChars (.num (.int n))) (.num (.int n)) := by
  have read := (reads_number exact.1 exact.2).map (f := Json.num)
  obtain ⟨c, cs, printed, first⟩ := toChars_int n
  rw [toChars]
  rw [printed] at read ⊢
  unfold value
  rcases first with rfl | digit
  · exact Reads.ahead read rfl
  · refine Reads.ahead ?_ (not_isBlank_of_isDigit digit)
    have other (d : Char) (plain : d.isDigit = false) : ¬ c = d := ne_of_isDigit digit plain
    simp only [other 'n' rfl, other 't' rfl, other 'f' rfl, digit, Bool.or_true, if_true, if_false]
    exact read

theorem reads_arr {items : List Json} (exact : ∀ n ∈ (Json.arr items).numbers, n.Exact)
    (reads : ∀ v ∈ items, Reads Ends (value room) v.toChars v) :
    Reads Ends (value (room + 1)) (toChars (.arr items)) (.arr items) := by
  have own : ∀ v ∈ items, ∀ n ∈ v.numbers, n.Exact :=
    fun v member n inside => exact n (mem_numbers_arr.mpr ⟨v, member, inside⟩)
  have full : ∀ t ∈ items.map toChars, t ≠ [] := by
    rintro t member
    obtain ⟨v, inside, rfl⟩ := List.mem_map.mp member
    exact toChars_ne_nil (own v inside)
  rw [toChars, itemChars_eq]
  unfold value
  refine Reads.ahead (Reads.skip (Reads.fueled fun n long => ?_)) rfl
  have enough : items.length < n + 1 := List.length_map toChars ▸ lt_of_separated full long
  exact (reads_items true enough reads fun v member => opens_toChars (own v member)).bind
    reads_closeList.free.map fun _ _ => rfl

theorem reads_obj {members : List (String × Json)}
    (sorted : members.Pairwise (fun a b => a.1 < b.1))
    (reads : ∀ m ∈ members, Reads Ends (value room) m.2.toChars m.2) :
    Reads Ends (value (room + 1)) (toChars (.obj members)) (.obj members) := by
  have full : ∀ t ∈ members.map memberText, t ≠ [] := by
    rintro t member
    obtain ⟨m, -, rfl⟩ := List.mem_map.mp member
    exact memberText_ne_nil m
  rw [toChars, memberChars_eq, ← ofMembers_of_sorted sorted]
  unfold value
  refine Reads.ahead (Reads.skip (Reads.fueled fun n long => ?_)) rfl
  have enough : members.length < n + 1 := List.length_map memberText ▸ lt_of_separated full long
  exact (reads_members true enough reads).bind reads_closeObject.free.map fun _ _ => rfl

/-- A value is read from its printed form as it was, whatever follows it in a document. -/
theorem reads_value {v : Json} (portable : Portable room v) :
    Reads Ends (value room) v.toChars v := by
  induction room generalizing v with
  | zero =>
    cases v with
    | null => exact reads_null
    | bool b => exact reads_bool b
    | str s => exact reads_str s
    | num n =>
      cases n with
      | int n => exact reads_num (portable.exact _ List.mem_cons_self)
      | double => exact (portable.exact _ List.mem_cons_self).elim
    | arr | obj => exact portable.within.elim
  | succ room ih =>
    cases v with
    | null => exact reads_null
    | bool b => exact reads_bool b
    | str s => exact reads_str s
    | num n =>
      cases n with
      | int n => exact reads_num (portable.exact _ List.mem_cons_self)
      | double => exact (portable.exact _ List.mem_cons_self).elim
    | arr items => exact reads_arr portable.exact fun v member => ih (portable.item member)
    | obj members =>
      exact reads_obj portable.within.1 fun m member => ih (portable.member member)

end values

end Reader

end Json

end MessageRelay
