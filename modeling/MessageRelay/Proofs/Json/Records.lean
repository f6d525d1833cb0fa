import MessageRelay.Json.Decoder
import MessageRelay.Proofs.Json.Results

/-!
Decoders on text. What is printed for a record is taken whatever the order of its members; and whatever
text a record is decoded from, its fields are such as their decoders give.
-/
namespace MessageRelay.Json

open Reader

namespace Reader

variable {α : Type} {reader : Reader α} {a : α}

theorem Reads.whole? {t : List Char} (h : Reads Ends reader t a) :
    reader.whole? (String.ofList t) = .ok a := by
  have read := h [] ⟨1, 0⟩ ends_nil
  have text : Cursor.ofText (String.ofList t) = ⟨t ++ [], 1, 0⟩ := by
    rw [Cursor.ofText, String.toList_ofList, List.append_nil]
  have run : StateT.run (reader <* finish) (Cursor.ofText (String.ofList t)) =
      reader (Cursor.ofText (String.ofList t)) >>= fun x =>
        finish x.2 >>= fun y => .ok (x.1, y.2) := rfl
  rw [Reader.whole?, run, text, read]
  rfl

theorem whole?_eq_ok {text : String} (read : reader.whole? text = .ok a) :
    ∃ c, reader (Cursor.ofText text) = .ok (a, c) := by
  have run : reader.whole? text = ((reader <* finish) (Cursor.ofText text)).map (·.1) := rfl
  rw [run] at read
  cases given : (reader <* finish) (Cursor.ofText text) with
  | error e =>
    rw [given] at read
    cases read
  | ok x =>
    rw [given] at read
    cases read
    obtain ⟨b, c, first, last⟩ := bind_eq_ok.mp given
    obtain ⟨_, _, _, last⟩ := bind_eq_ok.mp last
    cases last
    exact ⟨c, first⟩

theorem Yields.whole? {P : α → Prop} (h : Yields reader P) {text : String}
    (read : reader.whole? text = .ok a) : P a := by
  obtain ⟨c, given⟩ := whole?_eq_ok read
  exact h _ _ _ given

theorem reads_settle {close : Reader Unit} {t : List Char} {follow : List Char → Prop}
    (closes : Reads Anything close t ()) : Reads follow (settle close (.ok a)) t a :=
  fun rest p _ => by
    have read := closes rest p trivial
    simp only [settle, read]

theorem yields_settle {P : α → Prop} {close : Reader Unit} {result : Except Problem α}
    (h : ∀ a, result = .ok a → P a) : Yields (settle close result) P := by
  intro c a c' read
  unfold settle at read
  split at read
  · cases read
    exact h a rfl
  · cases read
  · cases read
  · cases read

end Reader

namespace Decoder

variable {α β ρ : Type} {room : Nat}

theorem reads_map {d : Decoder α} {t : List Char} {a : α} (f : α → β)
    (h : Reads Ends (d.read room) t a) : Reads Ends ((d.map f).read room) t (f a) := Reads.map h

theorem reads_json {v : Json} (portable : Portable room v) :
    Reads Ends (json.read room) v.toChars v := reads_value portable

theorem reads_checked {parse : String → Except Problem α} {s : String} {a : α}
    (ok : parse s = .ok a) : Reads Ends (do checked (parse (← Reader.text))) (textChars s) a := by
  rw [← List.append_nil (textChars s)]
  refine (Reader.reads_text s).before ?_
  rw [ok]
  exact .done a

theorem reads_parsed {expected : String} {parse : String → Except Problem α} {s : String} {a : α}
    (ok : parse s = .ok a) : Reads Ends ((parsed expected parse).read room) (textChars s) a :=
  Reads.ahead (reads_checked ok) rfl

theorem reads_text (s : String) : Reads Ends (text.read room) (textChars s) s := reads_parsed rfl

theorem reads_boolean (b : Bool) : Reads Ends (boolean.read room) (toChars (.bool b)) b := by
  cases b with
  | true => exact Reads.ahead (reads_word _).free.map rfl
  | false => exact Reads.ahead (reads_word _).free.map rfl

theorem reads_choice {variants : List (String × α)} {s : String} {a : α}
    (picked : pick variants s = .ok a) :
    Reads Ends ((choice variants).read room) (textChars s) a := Reads.ahead (reads_checked picked) rfl

theorem reads_integer {low high n : Int} {name : String} (fits : low ≤ n ∧ n ≤ high)
    (exact : (Number.int n).Exact) :
    Reads Ends ((integer low high name).read room) (ofInt n).toChars n := by
  have read : Reads Ends (do checked (inRange low high name (← number))) (ofInt n).toChars n := by
    rw [← List.append_nil (ofInt n).toChars]
    refine (reads_number exact.1 exact.2).bind ?_ fun _ ends => ends
    rw [inRange, if_pos fits]
    exact .done n
  obtain ⟨c, cs, printed, first⟩ := toChars_int n
  have printed : (ofInt n).toChars = c :: cs := printed
  rw [printed] at read ⊢
  rcases first with rfl | digit
  · exact Reads.ahead read rfl
  · refine Reads.ahead ?_ (not_isBlank_of_isDigit digit)
    simp only [digit, Bool.or_true, if_true]
    exact read

theorem reads_natural {bits n : Nat} {name : String} (fits : n < 2 ^ bits) (small : bits ≤ 64) :
    Reads Ends ((natural bits name).read room) (ofNat n).toChars n := by
  have power : Int.pow 2 bits = ((2 ^ bits : Nat) : Int) := (Int.natCast_pow 2 bits).symm
  have below : n < 2 ^ 64 := Nat.lt_of_lt_of_le fits (Nat.pow_le_pow_right (by decide) small)
  refine reads_map Int.toNat (reads_integer (n := n) ⟨Int.natCast_nonneg n, ?_⟩ ⟨by omega, by omega⟩)
  rw [power]
  omega

theorem reads_optional {d : Decoder α} {s : String} {a : α}
    (h : Reads Ends (d.read room) (textChars s) a) :
    Reads Ends (d.optional.read room) (textChars s) (some a) := Reads.ahead (Reads.map h) rfl

variable {fields : List (Field ρ)} {ms : List (String × Json)}

/-- The field of this member has not been seen, and its decoder takes the value. -/
def Takes (fields : List (Field ρ)) (room : Nat) (m : String × Json) (r r' : ρ) : Prop :=
  ∃ f update, fields.find? (·.name = m.1) = some f ∧ f.seen r = false ∧
    Reads Ends (f.decoder.read room) m.2.toChars update ∧ update r = r'

theorem takes_field {name : String} {optional : Bool} {get : ρ → Option β} {set : β → ρ → ρ}
    {d : Decoder β} {v : Json} {b : β} {r r' : ρ}
    (found : fields.find? (·.name = name) = some (field name optional get set d))
    (unseen : get r = none) (reads : Reads Ends (d.read room) v.toChars b) (updated : set b r = r') :
    Takes fields room (name, v) r r' :=
  ⟨_, _, found, Option.isSome_eq_false_iff.mpr (Option.isNone_iff_eq_none.mpr unseen),
    reads_map set reads, updated⟩

/-- The members of a record are read in any order; `draft` tells what is known once some were seen. -/
theorem reads_readMembers (draft : List String → ρ) (seen : List String) {fuel : Nat} (first : Bool)
    (distinct : (ms.map Prod.fst ++ seen).Nodup)
    (takes : ∀ m ∈ ms, ∀ seen, m.1 ∉ seen → Takes fields room m (draft seen) (draft (m.1 :: seen)))
    (enough : ms.length < fuel) : ∃ all, (∀ k, k ∈ all ↔ k ∈ ms.map Prod.fst ∨ k ∈ seen) ∧
      Reads (Next '}') (readMembers fields room fuel first (draft seen))
        (separated first (ms.map memberText)) (.ok (draft all)) := by
  induction ms generalizing seen fuel first with
  | nil =>
    obtain ⟨fuel, rfl⟩ := Nat.exists_eq_add_one_of_ne_zero (Nat.ne_zero_of_lt enough)
    exact ⟨seen, by simp, (reads_hasMember_none first).bind (.done _) fun _ closes => closes⟩
  | cons m ms ih =>
    obtain ⟨fuel, rfl⟩ := Nat.exists_eq_add_one_of_ne_zero (Nat.ne_zero_of_lt enough)
    have new : m.1 ∉ seen := fun before =>
      (List.nodup_cons.mp distinct).1 (List.mem_append_right _ before)
    obtain ⟨f, update, named, unseen, reads, updated⟩ := takes m List.mem_cons_self seen new
    have distinct' : (ms.map Prod.fst ++ m.1 :: seen).Nodup :=
      List.perm_middle.nodup_iff.mpr distinct
    obtain ⟨all, known, later⟩ := ih (m.1 :: seen) false distinct'
      (fun n member => takes n (List.mem_cons_of_mem m member)) (Nat.lt_of_succ_lt_succ enough)
    refine ⟨all, fun k => ?_, ?_⟩
    · rw [known, List.map_cons, List.mem_cons, List.mem_cons, or_assoc]
      exact or_left_comm
    · have value : Reads (Next '}') (do
          let update ← f.decoder.read room
          readMembers fields room fuel false (update (draft seen)))
          (m.2.toChars ++ separated false (ms.map memberText)) (.ok (draft all)) :=
        reads.bind (updated ▸ later) fun _ => ends_separated (.inr rfl) _
      refine (reads_hasMember first).bind ?_ fun _ _ => rfl
      rw [if_pos rfl, memberText, List.append_assoc]
      refine (Reader.reads_text m.1).before ?_
      simp only [named, unseen, Bool.false_eq_true, if_false]
      exact reads_colon.before value

theorem reads_record {name : String} {blank : ρ} {finish : ρ → Except Problem α} {a : α}
    (draft : List String → ρ) (start : draft [] = blank) (distinct : (ms.map Prod.fst).Nodup)
    (takes : ∀ m ∈ ms, ∀ seen, m.1 ∉ seen → Takes fields room m (draft seen) (draft (m.1 :: seen)))
    (ends : ∀ seen, (∀ k, k ∈ seen ↔ k ∈ ms.map Prod.fst) → finish (draft seen) = .ok a) :
    Reads Ends ((record name fields blank finish).read (room + 1)) (obj ms).toChars a := by
  have full : ∀ t ∈ ms.map memberText, t ≠ [] := by
    rintro t member
    obtain ⟨m, -, rfl⟩ := List.mem_map.mp member
    exact memberText_ne_nil m
  rw [toChars, memberChars_eq]
  refine Reads.ahead (Reads.skip (Reads.fueled fun n long => ?_)) rfl
  have enough : ms.length < n + 1 := List.length_map memberText ▸ lt_of_separated full long
  obtain ⟨all, known, reads⟩ := reads_readMembers draft [] true
    (by rwa [List.append_nil]) takes enough
  rw [start] at reads
  refine reads.bind ?_ fun _ _ => rfl
  have done : Except.bind (.ok (draft all)) finish = .ok a := ends all (by simpa using known)
  rw [done]
  exact reads_settle reads_closeObject

variable {P : α → Prop}

theorem yields_mismatch (expected : String) : Yields (mismatch expected) P :=
  .after fun _ => .failHere _

theorem yields_checked {result : Except Problem α} (h : ∀ a, result = .ok a → P a) :
    Yields (checked result) P := by
  cases result with
  | ok a => exact .done (h a rfl)
  | error p => exact .failHere p

theorem yields_natural (bits : Nat) (name : String) :
    Yields ((natural bits name).read room) (· < 2 ^ bits) := by
  refine Yields.map (Q := fun i => 0 ≤ i ∧ i ≤ Int.pow 2 bits - 1) ?_ fun i within => ?_
  · refine .after fun c? => ?_
    split
    · exact .failAhead _
    · refine .ite (fun _ => .after fun n => yields_checked fun i read => ?_) fun _ => yields_mismatch _
      unfold inRange at read
      split at read
      · split at read
        · cases read
          assumption
        · cases read
      · cases read
  · have power : Int.pow 2 bits = ((2 ^ bits : Nat) : Int) := (Int.natCast_pow 2 bits).symm
    rw [power] at within
    omega

section record

variable {I : ρ → Prop} {fields : List (Field ρ)}

theorem yields_readMembers
    (keeps : ∀ f ∈ fields, Yields (f.decoder.read room) (fun update => ∀ r, I r → I (update r)))
    (fuel : Nat) (first : Bool) {r : ρ} (h : I r) :
    Yields (readMembers fields room fuel first r) (fun result => ∀ d, result = .ok d → I d) := by
  have same {r : ρ} (h : I r) : ∀ d, (.ok r : Except Problem ρ) = .ok d → I d := by
    rintro d ⟨⟩
    exact h
  induction fuel generalizing first r with
  | zero => exact .done (same h)
  | succ fuel ih =>
    refine .after fun more => .ite (fun _ => .after fun key => ?_) fun _ => .done (same h)
    split
    · exact .after fun _ => .after fun _ => ih false h
    · rename_i f named
      refine .ite (fun _ => .done nofun) fun _ => .after fun _ => ?_
      exact (keeps f (List.mem_of_find?_eq_some named)).bind fun update kept => ih false (kept r h)

theorem yields_readItems (name : String) (count : Nat)
    (keeps : ∀ f ∈ fields, Yields (f.decoder.read room) (fun update => ∀ r, I r → I (update r)))
    (index : Nat) {r : ρ} (h : I r) :
    Yields (readItems name count room fields index r) (fun result => ∀ d, result = .ok d → I d) := by
  have same {r : ρ} (h : I r) : ∀ d, (.ok r : Except Problem ρ) = .ok d → I d := by
    rintro d ⟨⟩
    exact h
  induction fields generalizing index r with
  | nil => exact .done (same h)
  | cons f fields ih =>
    refine .after fun more => .ite (fun _ => ?_) fun _ => ?_
    · refine (keeps f List.mem_cons_self).bind fun update kept => ?_
      exact ih (fun g member => keeps g (List.mem_cons_of_mem f member)) _ (kept r h)
    · split
      · exact .done (same h)
      · exact .done nofun

theorem yields_record {name : String} {blank : ρ} {finish : ρ → Except Problem α} (start : I blank)
    (keeps : ∀ f ∈ fields, Yields (f.decoder.read room) (fun update => ∀ r, I r → I (update r)))
    (ends : ∀ r a, I r → finish r = .ok a → P a) :
    Yields ((record name fields blank finish).read (room + 1)) P := by
  have close {close : Reader Unit} {result : Except Problem ρ} (h : ∀ d, result = .ok d → I d) :
      Yields (settle close (result.bind finish)) P := yields_settle fun a made => by
    cases result with
    | error p => cases made
    | ok d => exact ends d a (h d rfl) made
  refine .after fun c? => ?_
  split
  · exact .failAhead _
  · refine .ite (fun _ => ?_) fun _ => .ite (fun _ => ?_) fun _ => yields_mismatch _
    · refine .after fun _ => .after fun fuel => ?_
      exact (yields_readMembers keeps _ true start).bind fun result h => close h
    · refine .after fun _ => ?_
      exact (yields_readItems name fields.length keeps 0 start).bind fun result h => close h

end record

end Decoder

end MessageRelay.Json
