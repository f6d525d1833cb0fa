import MessageRelay.Proofs.Json.Values

/-!
What readers give, whatever the text: integers of the 64-bit ranges, and values whose members are
sorted and that are nested no deeper than there was room for.
-/
namespace MessageRelay

def Number.Ranged : Number → Prop
  | .int n => -2 ^ 63 ≤ n ∧ n < 2 ^ 64
  | .double _ => True

namespace Json

namespace Reader

variable {α β : Type} {P : α → Prop}

theorem bind_eq_ok {reader : Reader α} {next : α → Reader β} {b : β} {c c' : Cursor} :
    (reader >>= next) c = .ok (b, c') ↔
      ∃ a c₁, reader c = .ok (a, c₁) ∧ next a c₁ = .ok (b, c') := by
  have split : (reader >>= next) c = reader c >>= fun x => next x.1 x.2 := rfl
  rw [split]
  cases reader c with
  | error e => exact ⟨nofun, nofun⟩
  | ok x => exact ⟨fun read => ⟨x.1, x.2, rfl, read⟩, fun ⟨_, _, same, read⟩ => by cases same; exact read⟩

/-- All that the reader gives is such. -/
def Yields (reader : Reader α) (P : α → Prop) : Prop :=
  ∀ c a c', reader c = .ok (a, c') → P a

namespace Yields

theorem done {a : α} (h : P a) : Yields (pure a) P := by
  rintro c _ _ ⟨⟩
  exact h

theorem failHere (problem : Problem) : Yields (failHere problem) P := nofun

theorem failAhead (problem : Problem) : Yields (failAhead problem) P := nofun

theorem bind {reader : Reader β} {next : β → Reader α} {Q : β → Prop} (first : Yields reader Q)
    (second : ∀ b, Q b → Yields (next b) P) : Yields (reader >>= next) P := by
  intro c a c' read
  obtain ⟨b, c₁, given, read⟩ := bind_eq_ok.mp read
  exact second b (first _ _ _ given) _ _ _ read

theorem after {reader : Reader β} {next : β → Reader α} (second : ∀ b, Yields (next b) P) :
    Yields (reader >>= next) P := bind (Q := fun _ => True) (fun _ _ _ _ => trivial)
  fun b _ => second b

theorem map {Q : β → Prop} {f : β → α} {reader : Reader β} (h : Yields reader Q)
    (all : ∀ b, Q b → P (f b)) : Yields (do return f (← reader)) P :=
  h.bind fun b given => .done (all b given)

theorem ite {p : Prop} [Decidable p] {r r' : Reader α} (yes : p → Yields r P)
    (no : ¬ p → Yields r' P) : Yields (if p then r else r') P := by
  split
  · exact yes ‹_›
  · exact no ‹_›

end Yields

theorem appendWhole_lt (ds : List Char) {n : Nat} (fits : n < UInt64.size) :
    (appendWhole n ds).1 < UInt64.size := by
  induction ds generalizing n with
  | nil => exact fits
  | cons d ds ih =>
    rw [appendWhole_cons]
    by_cases more : n * 10 + digitValue d < UInt64.size
    · rw [append?_of_lt more]
      exact ih more
    · have full : append? n d = none := if_neg more
      rw [full]
      exact fits

theorem whole_ranged (negative : Bool) {n : Nat} (fits : n < UInt64.size) :
    (whole negative n).Ranged := by
  have size : (UInt64.size : Int) = 2 ^ 64 := by decide
  have below : (n : Int) < 2 ^ 64 := size ▸ Int.ofNat_lt.mpr fits
  unfold whole
  split
  · exact ⟨by omega, below⟩
  · split
    · rename_i half
      have half' : UInt64.size / 2 = 2 ^ 63 := by decide
      rw [half', Bool.and_eq_true, decide_eq_true_eq, decide_eq_true_eq] at half
      exact ⟨by omega, by omega⟩
    · trivial

section doubles

variable {P : Number → Prop} (double : ∀ x, P (.double x))
include double

theorem yields_scaled (negative : Bool) (significand : Nat) (exponent : Int) :
    Yields (scaled negative significand exponent) P := by
  unfold scaled
  split
  · exact .done (double _)
  · exact .failHere _

theorem yields_exponentPart (negative : Bool) (significand : Nat) (exponent : Int) :
    Yields (exponentPart negative significand exponent) P := by
  unfold exponentPart
  refine .after fun _ => .after fun positive => .after fun c? => ?_
  split
  · exact .failHere _
  · refine .ite (fun _ => .failAhead _) fun _ => .after fun _ => .after fun x => ?_
    refine .ite (fun _ => ?_) fun _ => yields_scaled double _ _ _
    exact .ite (fun _ => .failHere _) fun _ => .after fun _ => .done (double _)

theorem yields_fractionPart (negative : Bool) (significand : Nat) (exponent : Int) :
    Yields (fractionPart negative significand exponent) P := by
  unfold fractionPart
  refine .after fun _ => .after fun ds => .after fun next => ?_
  refine .ite (fun _ => .ite (fun _ => .failAhead _) fun _ => .failAhead _) fun _ => ?_
  exact .ite (fun _ => yields_exponentPart double _ _ _) fun _ => yields_scaled double _ _ _

end doubles

theorem digitValue_lt (c : Char) : digitValue c < UInt64.size := by
  have word : c.toNat < UInt32.size := c.val.toNat_lt
  have wide : UInt32.size < UInt64.size := by decide
  exact Nat.lt_of_le_of_lt (Nat.sub_le _ _) (Nat.lt_trans word wide)

theorem yields_afterDigits (negative : Bool) {n : Nat} (fits : n < UInt64.size) (excess : Nat) :
    Yields (do
      let next ← peek?
      if next = some '.' then fractionPart negative n excess
      else if isExponentMark next then exponentPart negative n excess
      else if excess = 0 then pure (whole negative n)
      else scaled negative n excess) Number.Ranged := by
  have double (x : Float) : Number.Ranged (.double x) := trivial
  refine .after fun next => .ite (fun _ => yields_fractionPart double _ _ _) fun _ => ?_
  refine .ite (fun _ => yields_exponentPart double _ _ _) fun _ => ?_
  exact .ite (fun _ => .done (whole_ranged negative fits)) fun _ => yields_scaled double _ _ _

theorem yields_magnitude (negative : Bool) : Yields (magnitude negative) Number.Ranged := by
  unfold magnitude
  refine .after fun c? => ?_
  split
  · exact .failHere _
  · rename_i c
    have rest (ds : List Char) := yields_afterDigits negative
      (appendWhole_lt ds (digitValue_lt c)) (appendWhole (digitValue c) ds).2
    refine .ite (fun _ => .failAhead _) fun digit => .after fun _ => .after fun _ => ?_
    refine .ite (fun _ => .failAhead _) fun _ => ?_
    exact .ite (fun _ => .after rest) fun _ => .after rest

theorem yields_number : Yields number Number.Ranged := by
  unfold number
  refine .after fun c? => .ite (fun _ => .after fun _ => yields_magnitude true) fun _ =>
    yields_magnitude false

theorem yields_items {item : Reader α} (h : Yields item P) (fuel : Nat) (first : Bool) :
    Yields (items item fuel first) (fun as => ∀ a ∈ as, P a) := by
  induction fuel generalizing first with
  | zero => exact .done nofun
  | succ fuel ih =>
    refine .after fun more => .ite (fun _ => h.bind fun a here => ?_) fun _ => .done nofun
    refine (ih false).map fun as later b member => ?_
    cases member with
    | head => exact here
    | tail _ member => exact later b member

theorem yields_members {value : Reader α} (h : Yields value P) (fuel : Nat) (first : Bool) :
    Yields (members value fuel first) (fun ms => ∀ m ∈ ms, P m.2) := by
  induction fuel generalizing first with
  | zero => exact .done nofun
  | succ fuel ih =>
    refine .after fun more => .ite (fun _ => .after fun key => .after fun _ => ?_) fun _ => .done nofun
    refine h.bind fun a here => (ih false).map fun ms later m member => ?_
    cases member with
    | head => exact here
    | tail _ member => exact later m member

end Reader

theorem mem_of_mem_insertMember {key : String} {value : Json} {sorted : List (String × Json)}
    {m : String × Json} (member : m ∈ insertMember key value sorted) :
    m = (key, value) ∨ m ∈ sorted := by
  induction sorted with
  | nil => exact .inl (List.mem_singleton.mp member)
  | cons n sorted ih =>
    rw [insertMember] at member
    split at member
    · exact List.mem_cons.mp member
    · split at member
      · exact (List.mem_cons.mp member).imp_right (List.mem_cons_of_mem n)
      · rcases List.mem_cons.mp member with rfl | later
        · exact .inr List.mem_cons_self
        · exact (ih later).imp_right (List.mem_cons_of_mem n)

theorem insertMember_sorted {key : String} {value : Json} {sorted : List (String × Json)}
    (h : sorted.Pairwise (fun a b => a.1 < b.1)) :
    (insertMember key value sorted).Pairwise (fun a b => a.1 < b.1) := by
  induction sorted with
  | nil => exact List.pairwise_singleton _ _
  | cons n sorted ih =>
    obtain ⟨first, later⟩ := List.pairwise_cons.mp h
    rw [insertMember]
    split
    · rename_i before
      refine List.pairwise_cons.mpr ⟨fun m member => ?_, h⟩
      rcases List.mem_cons.mp member with rfl | member
      · exact before
      · exact String.lt_trans before (first m member)
    · rename_i notBefore
      split
      · rename_i same
        exact List.pairwise_cons.mpr ⟨fun m member => same ▸ first m member, later⟩
      · rename_i other
        have after : n.1 < key := by
          by_contra notAfter
          exact other (String.le_antisymm (String.not_lt.mp notAfter) (String.not_lt.mp notBefore))
        refine List.pairwise_cons.mpr ⟨fun m member => ?_, ih later⟩
        rcases mem_of_mem_insertMember member with rfl | member
        · exact after
        · exact first m member

theorem ofMembers_cases (given : List (String × Json)) : ∃ members, ofMembers given = .obj members ∧
    members.Pairwise (fun a b => a.1 < b.1) ∧ ∀ m ∈ members, m ∈ given := by
  have fold : ∀ (rest done : List (String × Json)), done.Pairwise (fun a b => a.1 < b.1) →
      let all := rest.foldl (fun sorted m => insertMember m.1 m.2 sorted) done
      all.Pairwise (fun a b => a.1 < b.1) ∧ ∀ m ∈ all, m ∈ done ∨ m ∈ rest := by
    intro rest
    induction rest with
    | nil => exact fun done h => ⟨h, fun m member => .inl member⟩
    | cons n rest ih =>
      intro done h
      obtain ⟨sorted, from'⟩ := ih (insertMember n.1 n.2 done) (insertMember_sorted h)
      refine ⟨sorted, fun m member => ?_⟩
      rcases from' m member with before | later
      · rcases mem_of_mem_insertMember before with rfl | before
        · exact .inr List.mem_cons_self
        · exact .inl before
      · exact .inr (List.mem_cons_of_mem n later)
  obtain ⟨sorted, from'⟩ := fold given [] List.Pairwise.nil
  exact ⟨_, rfl, sorted, fun m member => (from' m member).resolve_left List.not_mem_nil⟩

theorem insertMember_perm {key : String} (value : Json) {sorted : List (String × Json)}
    (new : key ∉ sorted.map Prod.fst) : (insertMember key value sorted).Perm ((key, value) :: sorted) := by
  induction sorted with
  | nil => exact .refl _
  | cons m sorted ih =>
    obtain ⟨other, later⟩ := List.ne_and_not_mem_of_not_mem_cons new
    rw [insertMember, if_neg other]
    split
    · exact .refl _
    · exact ((ih later).cons m).trans (.swap _ _ _)

theorem ofMembers_perm {given : List (String × Json)} (distinct : (given.map Prod.fst).Nodup) :
    ∃ members, members.Perm given ∧ ofMembers given = .obj members := by
  have fold : ∀ (rest done : List (String × Json)), ((done ++ rest).map Prod.fst).Nodup →
      (rest.foldl (fun sorted m => insertMember m.1 m.2 sorted) done).Perm (done ++ rest) := by
    intro rest
    induction rest with
    | nil => exact fun done _ => (List.append_nil done).symm ▸ .refl _
    | cons m rest ih =>
      intro done distinct
      have moved : (done ++ m :: rest).Perm (m :: (done ++ rest)) := List.perm_middle
      have distinct' := (moved.map Prod.fst).nodup_iff.mp distinct
      have new : m.1 ∉ done.map Prod.fst := fun before =>
        (List.nodup_cons.mp distinct').1 (List.map_append ▸ List.mem_append_left _ before)
      have now := (insertMember_perm m.2 new).append_right rest
      exact (ih _ ((now.map Prod.fst).nodup_iff.mpr distinct')).trans (now.trans moved.symm)
  exact ⟨_, fold given [] distinct, rfl⟩

/-- What a reader with that much room makes of a text. -/
structure Legible (room : Nat) (v : Json) : Prop where
  within : v.Within room
  ranged : ∀ n ∈ v.numbers, n.Ranged

def Integral (v : Json) : Prop := ∀ x, Number.double x ∉ v.numbers

theorem Legible.portable {room : Nat} {v : Json} (h : Legible room v) (integral : v.Integral) :
    Portable room v := by
  refine ⟨h.within, fun n member => ?_⟩
  cases n with
  | int n => exact h.ranged _ member
  | double x => exact absurd member (integral x)

namespace Reader

theorem legible_arr {room : Nat} {items : List Json} (h : ∀ v ∈ items, Legible room v) :
    Legible (room + 1) (.arr items) := by
  refine ⟨fun v member => (h v member).within, fun n member => ?_⟩
  obtain ⟨v, inside, held⟩ := mem_numbers_arr.mp member
  exact (h v inside).ranged n held

theorem legible_ofMembers {room : Nat} {given : List (String × Json)}
    (h : ∀ m ∈ given, Legible room m.2) : Legible (room + 1) (ofMembers given) := by
  obtain ⟨members, made, sorted, from'⟩ := ofMembers_cases given
  rw [made]
  refine ⟨⟨sorted, fun m member => (h m (from' m member)).within⟩, fun n member => ?_⟩
  obtain ⟨m, inside, held⟩ := mem_numbers_obj.mp member
  exact (h m (from' m inside)).ranged n held

theorem legible_flat {room : Nat} {v : Json} (flat : v.Within 0)
    (ranged : ∀ n ∈ v.numbers, n.Ranged) : Legible room v := by
  refine ⟨?_, ranged⟩
  cases room with
  | zero => exact flat
  | succ room =>
    cases v with
    | arr | obj => exact flat.elim
    | _ => trivial

theorem yields_value_of_deeper {room : Nat}
    (deeper : ∀ less, room = less + 1 → Yields (value less) (Legible less)) :
    Yields (value room) (Legible room) := by
  unfold value
  refine .after fun c? => ?_
  split
  · exact .failAhead _
  · refine .ite (fun _ => .after fun _ => .done (legible_flat trivial nofun)) fun _ => ?_
    refine .ite (fun _ => .after fun _ => .done (legible_flat trivial nofun)) fun _ => ?_
    refine .ite (fun _ => .after fun _ => .done (legible_flat trivial nofun)) fun _ => ?_
    refine .ite (fun _ => yields_number.map fun n ranged => ?_) fun _ => ?_
    · exact legible_flat trivial fun m member => List.mem_singleton.mp member ▸ ranged
    refine .ite (fun _ => .after fun _ => .done (legible_flat trivial nofun)) fun _ => ?_
    refine .ite (fun _ => ?_) fun _ => .ite (fun _ => ?_) fun _ => .failAhead _
    · split
      · exact .failAhead _
      · refine .after fun _ => .after fun fuel => ?_
        refine (yields_items (deeper _ rfl) _ _).bind fun xs all => .after fun _ => ?_
        exact .done (legible_arr all)
    · split
      · exact .failAhead _
      · refine .after fun _ => .after fun fuel => ?_
        refine (yields_members (deeper _ rfl) _ _).bind fun ms all => .after fun _ => ?_
        exact .done (legible_ofMembers all)

/-- Every value that is read is legible. -/
theorem yields_value (room : Nat) : Yields (value room) (Legible room) := by
  induction room with
  | zero => exact yields_value_of_deeper nofun
  | succ room ih =>
    refine yields_value_of_deeper fun less same => ?_
    cases same
    exact ih

end Reader

end Json

end MessageRelay
