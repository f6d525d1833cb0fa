import MessageRelay.Json.Outline
import MessageRelay.Proofs.Json.Passing

/-!
Outlines of documents. What has an outline is passed over as a whole; and a record that is decoded from
a text is filled in from the parts of its outline, in the order in which they stand.
-/
namespace MessageRelay.Json.Reader

variable {α β : Type} {c c' : Cursor}

theorem ahead?_eq_ok {d : Char} (read : ahead? c = .ok (some d, c')) :
    (∃ rest, c'.rest = d :: rest) ∧ c'.rest.length ≤ c.rest.length ∧
      ahead? c' = .ok (some d, c') := by
  obtain ⟨blanks, c₁, taken, looked⟩ := bind_eq_ok.mp read
  cases taken
  obtain ⟨first, rfl⟩ := Prod.mk.inj (Except.ok.inj looked)
  have dark : isBlank d = false := by
    have dropped := List.head?_dropWhile_not isBlank c.rest
    simp only at first
    rw [first] at dropped
    simpa using dropped
  obtain ⟨rest, split⟩ := List.head?_eq_some_iff.mp first
  exact ⟨⟨rest, split⟩, (List.dropWhile_sublist _).length_le, ahead?_eq first dark⟩

theorem skip_lt {d : Char} {rest : List Char} (first : c.rest = d :: rest)
    (read : skip c = .ok ((), c')) : c'.rest.length < c.rest.length := by
  obtain ⟨_, p⟩ := c
  cases first
  cases read
  exact Nat.lt_succ_self _

theorem bind_ahead? {d : Char} {next : Option Char → Reader α}
    (read : ahead? c = .ok (some d, c')) : (ahead? >>= next) c = (ahead? >>= next) c' := by
  have split (c : Cursor) : (ahead? >>= next) c = ahead? c >>= fun x => next x.1 x.2 := rfl
  rw [split, split, read, (ahead?_eq_ok read).2.2]

theorem ignoreValue_ahead {d : Char} (fuel : Nat) (read : ahead? c = .ok (some d, c')) :
    ignoreValue (fuel + 1) c = ignoreValue (fuel + 1) c' := bind_ahead? read

theorem hasMember_cases {first more : Bool} (read : hasMember first c = .ok (more, c')) :
    (more = false ∧ ahead? c = .ok (some '}', c')) ∨
    (more = true ∧ first = true ∧ ahead? c = .ok (some '"', c')) ∨
    (more = true ∧ first = false ∧ ∃ c₁ c₂, ahead? c = .ok (some ',', c₁) ∧
      skip c₁ = .ok ((), c₂) ∧ ahead? c₂ = .ok (some '"', c')) := by
  obtain ⟨d?, c₁, looked, read⟩ := bind_eq_ok.mp read
  cases d? with
  | none => cases read
  | some d =>
    simp only at read
    split at read
    · subst d
      cases read
      exact .inl ⟨rfl, looked⟩
    · split at read
      · split at read
        · subst d
          cases read
          exact .inr (.inl ⟨rfl, ‹_›, looked⟩)
        · cases read
      · split at read
        · subst d
          obtain ⟨_, c₂, skipped, read⟩ := bind_eq_ok.mp read
          obtain ⟨e?, c₃, looked', read⟩ := bind_eq_ok.mp read
          cases e? with
          | none => cases read
          | some e =>
            simp only at read
            split at read
            · subst e
              cases read
              exact .inr (.inr ⟨rfl, (Bool.not_eq_true _).mp ‹_›, c₁, c₂, looked, skipped, looked'⟩)
            · split at read
              · cases read
              · cases read
        · cases read

theorem hasItem_cases {first more : Bool} (read : hasItem first c = .ok (more, c')) :
    (more = false ∧ ahead? c = .ok (some ']', c')) ∨
    (more = true ∧ first = true ∧ ∃ d, d ≠ ']' ∧ ahead? c = .ok (some d, c')) ∨
    (more = true ∧ first = false ∧ ∃ c₁ c₂ d, ahead? c = .ok (some ',', c₁) ∧
      skip c₁ = .ok ((), c₂) ∧ ahead? c₂ = .ok (some d, c')) := by
  obtain ⟨d?, c₁, looked, read⟩ := bind_eq_ok.mp read
  cases d? with
  | none => cases read
  | some d =>
    simp only at read
    split at read
    · subst d
      cases read
      exact .inl ⟨rfl, looked⟩
    · split at read
      · cases read
        exact .inr (.inl ⟨rfl, ‹_›, d, ‹_›, looked⟩)
      · split at read
        · subst d
          obtain ⟨_, c₂, skipped, read⟩ := bind_eq_ok.mp read
          obtain ⟨e?, c₃, looked', read⟩ := bind_eq_ok.mp read
          cases e? with
          | none => cases read
          | some e =>
            simp only at read
            split at read
            · cases read
            · cases read
              exact .inr (.inr ⟨rfl, (Bool.not_eq_true _).mp ‹_›, c₁, c₂, e, looked, skipped,
                looked'⟩)
        · cases read

theorem closeObject_eq_ok (read : closeObject c = .ok ((), c')) :
    ∃ c₁, ahead? c = .ok (some '}', c₁) ∧ skip c₁ = .ok ((), c') := by
  obtain ⟨d?, c₁, looked, read⟩ := bind_eq_ok.mp read
  cases d? with
  | none => cases read
  | some d =>
    simp only at read
    split at read
    · subst d
      exact ⟨c₁, looked, read⟩
    · split at read
      · cases read
      · cases read

theorem closeList_eq_ok (read : closeList c = .ok ((), c')) :
    ∃ c₁, ahead? c = .ok (some ']', c₁) ∧ skip c₁ = .ok ((), c') := by
  obtain ⟨d?, c₁, looked, read⟩ := bind_eq_ok.mp read
  cases d? with
  | none => cases read
  | some d =>
    simp only at read
    split at read
    · subst d
      exact ⟨c₁, looked, read⟩
    · split at read
      · obtain ⟨_, c₂, skipped, read⟩ := bind_eq_ok.mp read
        obtain ⟨e?, c₃, looked', read⟩ := bind_eq_ok.mp read
        split at read
        · cases read
        · cases read
      · cases read

def afterMember (item : Reader Unit) (fuel : Nat) : Reader Unit := do
  match ← ahead? with
  | none => failAhead .endOfObject
  | some c =>
    if c = ',' then skip; ignoreMembers item fuel
    else if c = '}' then skip
    else failAhead .expectedMemberEnd

def afterItem (item : Reader Unit) (fuel : Nat) : Reader Unit := do
  match ← ahead? with
  | none => failAhead .endOfList
  | some c =>
    if c = ',' then skip; ignoreItems item fuel
    else if c = ']' then skip
    else failAhead .expectedItemEnd

theorem place_eq_ok {here : Cursor} (read : place c = .ok (here, c')) :
    here = c ∧ ignore c = .ok ((), c') := by
  obtain ⟨_, _, got, read⟩ := bind_eq_ok.mp read
  cases got
  obtain ⟨_, c₁, passed, read⟩ := bind_eq_ok.mp read
  cases read
  exact ⟨rfl, passed⟩

theorem ignoreMembers_eq_ok {key : String} {c₁ c₂ c₃ c₄ c₅ : Cursor} {item : Reader Unit}
    (fuel : Nat) (looked : ahead? c = .ok (some '"', c₁)) (name : text c₁ = .ok (key, c₂))
    (sign : colon c₂ = .ok ((), c₃)) (passed : item c₃ = .ok ((), c₄))
    (rest : afterMember item fuel c₄ = .ok ((), c₅)) :
    ignoreMembers item (fuel + 1) c = .ok ((), c₅) := by
  refine bind_eq_ok.mpr ⟨_, c₁, looked, bind_eq_ok.mpr ⟨(), c₂, ?_, ?_⟩⟩
  · exact passed_text c₁ key c₂ name trivial
  · exact bind_eq_ok.mpr ⟨(), c₃, sign, bind_eq_ok.mpr ⟨(), c₄, passed, rest⟩⟩

theorem afterMember_close {c₁ : Cursor} (item : Reader Unit) (fuel : Nat)
    (looked : ahead? c = .ok (some '}', c₁)) (closed : closeObject c₁ = .ok ((), c')) :
    afterMember item fuel c = .ok ((), c') := by
  obtain ⟨c₂, looked', skipped⟩ := closeObject_eq_ok closed
  cases (ahead?_eq_ok looked).2.2.symm.trans looked'
  exact bind_eq_ok.mpr ⟨_, c₁, looked, skipped⟩

theorem afterItem_close {c₁ : Cursor} (item : Reader Unit) (fuel : Nat)
    (looked : ahead? c = .ok (some ']', c₁)) (closed : closeList c₁ = .ok ((), c')) :
    afterItem item fuel c = .ok ((), c') := by
  obtain ⟨c₂, looked', skipped⟩ := closeList_eq_ok closed
  cases (ahead?_eq_ok looked).2.2.symm.trans looked'
  exact bind_eq_ok.mpr ⟨_, c₁, looked, skipped⟩

theorem ignoreValue_of_place {here : Cursor} {depth : Nat} (inside : c.rest.length < depth)
    (noted : place c = .ok (here, c')) : ignoreValue depth c = .ok ((), c') :=
  passedOver_ignore c depth inside () c' (place_eq_ok noted).2 trivial

theorem afterMember_of_members {depth : Nat} (fuel : Nat) {more : Nat} {ms : List (String × Cursor)}
    {c₁ : Cursor} (inside : c.rest.length < depth) (enough : c.rest.length ≤ more)
    (noted : members place fuel false c = .ok (ms, c₁)) (closed : closeObject c₁ = .ok ((), c')) :
    afterMember (ignoreValue depth) more c = .ok ((), c') := by
  induction fuel generalizing more ms c with
  | zero =>
    cases noted
    obtain ⟨c₂, looked, skipped⟩ := closeObject_eq_ok closed
    exact bind_eq_ok.mpr ⟨_, c₂, looked, skipped⟩
  | succ fuel ih =>
    obtain ⟨found, c₂, has, noted⟩ := bind_eq_ok.mp noted
    rcases hasMember_cases has with ⟨rfl, looked⟩ | ⟨-, first, -⟩ | ⟨rfl, -, c₃, c₄, comma, skipped, quote⟩
    · cases noted
      exact afterMember_close _ _ looked closed
    · cases first
    · obtain ⟨key, c₅, name, noted⟩ := bind_eq_ok.mp noted
      obtain ⟨_, c₆, sign, noted⟩ := bind_eq_ok.mp noted
      obtain ⟨here, c₇, value, noted⟩ := bind_eq_ok.mp noted
      obtain ⟨ms, c₈, noted, done⟩ := bind_eq_ok.mp noted
      cases done
      -- From the comma on the text gets shorter with each step.
      obtain ⟨⟨_, front⟩, upTo, -⟩ := ahead?_eq_ok comma
      have less₁ := skip_lt front skipped
      have less₂ := (ahead?_eq_ok quote).2.1
      have less₃ := forward_ignoreText _ _ _ (passed_text _ _ _ name trivial)
      have less₄ := forward_colon _ _ _ sign
      have less₅ := forward_ignore _ _ _ (place_eq_ok value).2
      obtain ⟨more, rfl⟩ : ∃ n, more = n + 1 := Nat.exists_eq_add_one_of_ne_zero (by omega)
      refine bind_eq_ok.mpr ⟨_, c₃, comma, bind_eq_ok.mpr ⟨(), c₄, skipped, ?_⟩⟩
      refine ignoreMembers_eq_ok more quote name sign (ignoreValue_of_place (by omega) value) ?_
      exact ih (by omega) (by omega) noted

theorem afterItem_of_items {depth : Nat} (fuel : Nat) {more : Nat} {places : List Cursor}
    {c₁ : Cursor} (inside : c.rest.length < depth) (enough : c.rest.length ≤ more)
    (noted : items place fuel false c = .ok (places, c₁)) (closed : closeList c₁ = .ok ((), c')) :
    afterItem (ignoreValue depth) more c = .ok ((), c') := by
  induction fuel generalizing more places c with
  | zero =>
    cases noted
    obtain ⟨c₂, looked, skipped⟩ := closeList_eq_ok closed
    exact bind_eq_ok.mpr ⟨_, c₂, looked, skipped⟩
  | succ fuel ih =>
    obtain ⟨found, c₂, has, noted⟩ := bind_eq_ok.mp noted
    rcases hasItem_cases has with
      ⟨rfl, looked⟩ | ⟨-, first, -⟩ | ⟨rfl, -, c₃, c₄, d, comma, skipped, begins⟩
    · cases noted
      exact afterItem_close _ _ looked closed
    · cases first
    · obtain ⟨here, c₅, value, noted⟩ := bind_eq_ok.mp noted
      obtain ⟨places, c₆, noted, done⟩ := bind_eq_ok.mp noted
      cases done
      obtain ⟨⟨_, front⟩, upTo, -⟩ := ahead?_eq_ok comma
      have less₁ := skip_lt front skipped
      have less₂ := (ahead?_eq_ok begins).2.1
      have less₃ := forward_ignore _ _ _ (place_eq_ok value).2
      obtain ⟨more, rfl⟩ : ∃ n, more = n + 1 := Nat.exists_eq_add_one_of_ne_zero (by omega)
      obtain ⟨depth, rfl⟩ : ∃ n, depth = n + 1 := Nat.exists_eq_add_one_of_ne_zero (by omega)
      refine bind_eq_ok.mpr ⟨_, c₃, comma, bind_eq_ok.mpr ⟨(), c₄, skipped, ?_⟩⟩
      refine bind_eq_ok.mpr ⟨(), c₅, ?_, ih (by omega) (by omega) noted⟩
      exact (ignoreValue_ahead depth begins).trans (ignoreValue_of_place (by omega) value)

theorem ignoreMembers_of_members {depth fuel : Nat} {ms : List (String × Cursor)} {c₁ : Cursor}
    (inside : c.rest.length < depth) (noted : members place fuel true c = .ok (ms, c₁))
    (closed : closeObject c₁ = .ok ((), c')) : (do
      match ← ahead? with
      | none => failAhead .endOfObject
      | some d =>
        if d = '}' then skip
        else ignoreMembers (ignoreValue depth) ((← remaining) + 1) : Reader Unit) c =
          .ok ((), c') := by
  cases fuel with
  | zero =>
    cases noted
    obtain ⟨c₂, looked, skipped⟩ := closeObject_eq_ok closed
    exact bind_eq_ok.mpr ⟨_, c₂, looked, skipped⟩
  | succ fuel =>
    obtain ⟨found, c₂, has, noted⟩ := bind_eq_ok.mp noted
    rcases hasMember_cases has with ⟨rfl, looked⟩ | ⟨rfl, -, quote⟩ | ⟨-, first, -⟩
    · cases noted
      obtain ⟨c₃, looked', skipped⟩ := closeObject_eq_ok closed
      cases (ahead?_eq_ok looked).2.2.symm.trans looked'
      exact bind_eq_ok.mpr ⟨_, c₁, looked, skipped⟩
    · obtain ⟨key, c₃, name, noted⟩ := bind_eq_ok.mp noted
      obtain ⟨_, c₄, sign, noted⟩ := bind_eq_ok.mp noted
      obtain ⟨here, c₅, value, noted⟩ := bind_eq_ok.mp noted
      obtain ⟨ms, c₆, noted, done⟩ := bind_eq_ok.mp noted
      cases done
      obtain ⟨-, less₁, again⟩ := ahead?_eq_ok quote
      have less₂ := forward_ignoreText _ _ _ (passed_text _ _ _ name trivial)
      have less₃ := forward_colon _ _ _ sign
      have less₄ := forward_ignore _ _ _ (place_eq_ok value).2
      refine bind_eq_ok.mpr ⟨_, c₂, quote, bind_eq_ok.mpr ⟨_, c₂, rfl, ?_⟩⟩
      refine ignoreMembers_eq_ok _ again name sign (ignoreValue_of_place (by omega) value) ?_
      exact afterMember_of_members fuel (by omega) (by omega) noted closed
    · cases first

theorem ignoreItems_of_items {depth fuel : Nat} {places : List Cursor} {c₁ : Cursor}
    (inside : c.rest.length < depth) (noted : items place fuel true c = .ok (places, c₁))
    (closed : closeList c₁ = .ok ((), c')) : (do
      match ← ahead? with
      | none => failAhead .endOfList
      | some d =>
        if d = ']' then skip
        else ignoreItems (ignoreValue depth) ((← remaining) + 1) : Reader Unit) c =
          .ok ((), c') := by
  cases fuel with
  | zero =>
    cases noted
    obtain ⟨c₂, looked, skipped⟩ := closeList_eq_ok closed
    exact bind_eq_ok.mpr ⟨_, c₂, looked, skipped⟩
  | succ fuel =>
    obtain ⟨found, c₂, has, noted⟩ := bind_eq_ok.mp noted
    rcases hasItem_cases has with ⟨rfl, looked⟩ | ⟨rfl, -, d, other, begins⟩ | ⟨-, first, -⟩
    · cases noted
      obtain ⟨c₃, looked', skipped⟩ := closeList_eq_ok closed
      cases (ahead?_eq_ok looked).2.2.symm.trans looked'
      exact bind_eq_ok.mpr ⟨_, c₁, looked, skipped⟩
    · obtain ⟨here, c₃, value, noted⟩ := bind_eq_ok.mp noted
      obtain ⟨places, c₄, noted, done⟩ := bind_eq_ok.mp noted
      cases done
      have less₁ := (ahead?_eq_ok begins).2.1
      have less₂ := forward_ignore _ _ _ (place_eq_ok value).2
      refine bind_eq_ok.mpr ⟨_, c₂, begins, ?_⟩
      simp only [if_neg other]
      refine bind_eq_ok.mpr ⟨_, c₂, rfl, bind_eq_ok.mpr ⟨(), c₃, ?_, ?_⟩⟩
      · exact ignoreValue_of_place (by omega) value
      · exact afterItem_of_items fuel (by omega) (by omega) noted closed
    · cases first

theorem passedOver_outline : PassedOver outline := by
  intro c fuel enough o c' read _
  obtain ⟨fuel, rfl⟩ := Nat.exists_eq_add_one_of_ne_zero (Nat.ne_zero_of_lt enough)
  obtain ⟨d?, c₁, begins, read⟩ := bind_eq_ok.mp read
  refine bind_eq_ok.mpr ⟨d?, c₁, begins, ?_⟩
  cases d? with
  | none => cases read
  | some d =>
    obtain ⟨⟨rest, front⟩, upTo, -⟩ := ahead?_eq_ok begins
    by_cases brace : d = '{'
    · subst brace
      obtain ⟨_, c₂, opened, read⟩ := bind_eq_ok.mp read
      obtain ⟨n, c₃, counted, read⟩ := bind_eq_ok.mp read
      cases counted
      obtain ⟨ms, c₄, noted, read⟩ := bind_eq_ok.mp read
      obtain ⟨_, c₅, closed, read⟩ := bind_eq_ok.mp read
      cases read
      have less := skip_lt front opened
      exact bind_eq_ok.mpr ⟨(), c₂, opened, ignoreMembers_of_members (by omega) noted closed⟩
    by_cases bracket : d = '['
    · subst bracket
      obtain ⟨_, c₂, opened, read⟩ := bind_eq_ok.mp read
      obtain ⟨n, c₃, counted, read⟩ := bind_eq_ok.mp read
      cases counted
      obtain ⟨places, c₄, noted, read⟩ := bind_eq_ok.mp read
      obtain ⟨_, c₅, closed, read⟩ := bind_eq_ok.mp read
      cases read
      have less := skip_lt front opened
      exact bind_eq_ok.mpr ⟨(), c₂, opened, ignoreItems_of_items (by omega) noted closed⟩
    · simp only [if_neg brace, if_neg bracket] at read
      cases read

end MessageRelay.Json.Reader
