import Mathlib.Data.List.Pairwise
import MessageRelay.Proofs.Keyed
import MessageRelay.Proofs.Json.Outline

/-!
Records and the parts of a document. A record that is decoded from a text is filled in from the parts of
its outline: each field has what its decoder makes of the part that is its own, and nothing where the
document has no such part.
-/
namespace MessageRelay.Json.Reader

variable {α β : Type} {c c' : Cursor}

theorem place_of_passedOver {reader : Reader α} {a : α} (passed : PassedOver reader)
    (read : reader c = .ok (a, c')) : place c = .ok (c, c') := by
  have ignored : ignore c = .ok ((), c') :=
    bind_eq_ok.mpr ⟨_, c, rfl, passed c _ (Nat.lt_succ_self _) a c' read trivial⟩
  exact bind_eq_ok.mpr ⟨c, c, rfl, bind_eq_ok.mpr ⟨(), c', ignored, rfl⟩⟩

theorem settle_eq_ok {close : Reader Unit} {result : Except Problem α} {a : α}
    (read : settle close result c = .ok (a, c')) : result = .ok a ∧ close c = .ok ((), c') := by
  unfold settle at read
  split at read
  · cases read
    exact ⟨rfl, ‹_›⟩
  · cases read
  · cases read
  · cases read

theorem enter_eq_ok {room : Nat} {inside : Nat → Reader α} {a : α}
    (read : enter (room + 1) inside c = .ok (a, c')) :
    ∃ c₁, skip c = .ok ((), c₁) ∧ inside room c₁ = .ok (a, c') := by
  obtain ⟨_, c₁, skipped, read⟩ := bind_eq_ok.mp read
  exact ⟨c₁, skipped, read⟩

/-- What a reader gives where a part begins; nothing where there is no such part. -/
def ReadAt (reader : Reader β) : Option Cursor → Option β → Prop
  | none, b? => b? = none
  | some here, b? => ∃ b c, reader here = .ok (b, c) ∧ b? = some b

namespace ReadAt

variable {reader : Reader β} {here? : Option Cursor}

theorem eq_none (h : ReadAt reader here? none) : here? = none := by
  cases here? with
  | none => rfl
  | some here =>
    obtain ⟨b, c, -, other⟩ := h
    cases other

theorem eq_some {b : β} (h : ReadAt reader here? (some b)) :
    ∃ here c, here? = some here ∧ reader here = .ok (b, c) := by
  cases here? with
  | none => cases h
  | some here =>
    obtain ⟨b', c, read, same⟩ := h
    cases same
    exact ⟨here, c, rfl, read⟩

theorem yields {b? : Option β} {P : β → Prop} (h : ReadAt reader here? b?) (all : Yields reader P) :
    ∀ b ∈ b?, P b := by
  rintro b rfl
  obtain ⟨here, c, -, read⟩ := h.eq_some
  exact all _ _ _ read

end ReadAt

end MessageRelay.Json.Reader

namespace MessageRelay.Json.Decoder

open Reader

variable {α β ρ : Type} {fields : List (Field ρ)} {room : Nat} {c c' : Cursor} {r r' : ρ}

theorem map_eq_ok {d : Decoder β} {f : β → α} {a : α}
    (read : (d.map f).read room c = .ok (a, c')) : ∃ b, d.read room c = .ok (b, c') ∧ a = f b := by
  obtain ⟨b, c₁, given, read⟩ := bind_eq_ok.mp read
  cases read
  exact ⟨b, given, rfl⟩

/-- Members of an object, by what is read at their places. -/
inductive FromMembers (fields : List (Field ρ)) (room : Nat) : List (String × Cursor) → ρ → ρ → Prop
  | done (r : ρ) : FromMembers fields room [] r r
  | unknown {key : String} {here : Cursor} {ms : List (String × Cursor)} {r r' : ρ}
      (none : fields.find? (·.name = key) = none) (later : FromMembers fields room ms r r') :
      FromMembers fields room ((key, here) :: ms) r r'
  | known {key : String} {here c : Cursor} {ms : List (String × Cursor)} {r r' : ρ} {f : Field ρ}
      {update : ρ → ρ} (found : fields.find? (·.name = key) = some f) (unseen : f.seen r = false)
      (read : f.decoder.read room here = .ok (update, c))
      (later : FromMembers fields room ms (update r) r') :
      FromMembers fields room ((key, here) :: ms) r r'

inductive FromItems (room : Nat) : List (Field ρ) → List Cursor → ρ → ρ → Prop
  | done (fields : List (Field ρ)) (r : ρ) : FromItems room fields [] r r
  | item {f : Field ρ} {fields : List (Field ρ)} {here c : Cursor} {places : List Cursor} {r r' : ρ}
      {update : ρ → ρ} (read : f.decoder.read room here = .ok (update, c))
      (later : FromItems room fields places (update r) r') :
      FromItems room (f :: fields) (here :: places) r r'

def FromParts (fields : List (Field ρ)) (room : Nat) : Outline → ρ → ρ → Prop
  | .object ms => FromMembers fields room ms
  | .list places => FromItems room fields places

theorem members_of_readMembers (passed : ∀ f ∈ fields, PassedOver (f.decoder.read room))
    (fuel : Nat) (first : Bool) (read : readMembers fields room fuel first r c = .ok (.ok r', c')) :
    ∃ ms, members place fuel first c = .ok (ms, c') ∧ FromMembers fields room ms r r' := by
  induction fuel generalizing first r c with
  | zero =>
    cases read
    exact ⟨[], rfl, .done _⟩
  | succ fuel ih =>
    obtain ⟨more, c₁, has, read⟩ := bind_eq_ok.mp read
    cases more with
    | false =>
      cases read
      exact ⟨[], bind_eq_ok.mpr ⟨false, _, has, rfl⟩, .done _⟩
    | true =>
      obtain ⟨key, c₂, name, read⟩ := bind_eq_ok.mp read
      -- A member is noted the same way whether or not the record knows it.
      have noted {here c₃ c₄ : Cursor} {ms : List (String × Cursor)}
          (sign : colon c₂ = .ok ((), here)) (value : place here = .ok (here, c₃))
          (later : members place fuel false c₃ = .ok (ms, c₄)) :
          members place (fuel + 1) first c = .ok ((key, here) :: ms, c₄) := by
        refine bind_eq_ok.mpr ⟨true, c₁, has, bind_eq_ok.mpr ⟨key, c₂, name, ?_⟩⟩
        refine bind_eq_ok.mpr ⟨(), here, sign, bind_eq_ok.mpr ⟨here, c₃, value, ?_⟩⟩
        exact bind_eq_ok.mpr ⟨ms, c₄, later, rfl⟩
      cases found : fields.find? (·.name = key) with
      | none =>
        simp only [found] at read
        obtain ⟨_, here, sign, read⟩ := bind_eq_ok.mp read
        obtain ⟨_, c₃, value, read⟩ := bind_eq_ok.mp read
        obtain ⟨ms, later, filled⟩ := ih false read
        exact ⟨_, noted sign (place_of_passedOver passedOver_ignore value) later, .unknown found filled⟩
      | some f =>
        simp only [found] at read
        cases seen : f.seen r with
        | true =>
          simp only [seen, if_true] at read
          cases read
        | false =>
          simp only [seen, Bool.false_eq_true, if_false] at read
          obtain ⟨_, here, sign, read⟩ := bind_eq_ok.mp read
          obtain ⟨update, c₃, value, read⟩ := bind_eq_ok.mp read
          obtain ⟨ms, later, filled⟩ := ih false read
          have skipped := passed f (List.mem_of_find?_eq_some found)
          exact ⟨_, noted sign (place_of_passedOver skipped value) later, .known found seen value filled⟩

theorem items_of_closeList (fuel : Nat) (first : Bool) (closed : closeList c = .ok ((), c')) :
    ∃ c₁, items place fuel first c = .ok ([], c₁) ∧ closeList c₁ = .ok ((), c') := by
  cases fuel with
  | zero => exact ⟨c, rfl, closed⟩
  | succ fuel =>
    obtain ⟨c₁, looked, skipped⟩ := closeList_eq_ok closed
    refine ⟨c₁, bind_eq_ok.mpr ⟨false, c₁, bind_eq_ok.mpr ⟨_, c₁, looked, rfl⟩, rfl⟩, ?_⟩
    exact bind_eq_ok.mpr ⟨_, c₁, (ahead?_eq_ok looked).2.2, skipped⟩

theorem items_of_readItems {name : String} {count fuel : Nat} (index : Nat) {c₁ : Cursor}
    (passed : ∀ f ∈ fields, PassedOver (f.decoder.read room)) (enough : c.rest.length ≤ fuel)
    (start : index = 0 → c.rest.length < fuel)
    (read : readItems name count room fields index r c = .ok (.ok r', c₁))
    (closed : closeList c₁ = .ok ((), c')) :
    ∃ places c₂, items place fuel (index = 0) c = .ok (places, c₂) ∧
      closeList c₂ = .ok ((), c') ∧ FromItems room fields places r r' := by
  induction fields generalizing index fuel r c with
  | nil =>
    cases read
    obtain ⟨c₂, noted, closed⟩ := items_of_closeList fuel (index = 0) closed
    exact ⟨[], c₂, noted, closed, .done [] _⟩
  | cons f fields ih =>
    obtain ⟨more, c₂, has, read⟩ := bind_eq_ok.mp read
    cases more with
    | false =>
      have bracket : ahead? c = .ok (some ']', c₂) := by
        rcases hasItem_cases has with ⟨-, looked⟩ | ⟨none, -⟩ | ⟨none, -⟩
        · exact looked
        · cases none
        · cases none
      simp only [Bool.false_eq_true, if_false] at read
      cases missing : firstRequired (f :: fields) index with
      | some i =>
        simp only [missing] at read
        cases read
      | none =>
        simp only [missing] at read
        cases read
        obtain ⟨c₃, looked, skipped⟩ := closeList_eq_ok closed
        cases (ahead?_eq_ok bracket).2.2.symm.trans looked
        obtain ⟨c₄, noted, closed⟩ := items_of_closeList fuel (index = 0)
          (bind_eq_ok.mpr ⟨_, _, bracket, skipped⟩)
        exact ⟨[], c₄, noted, closed, .done _ _⟩
    | true =>
      obtain ⟨update, c₃, value, read⟩ := bind_eq_ok.mp read
      have noted := place_of_passedOver (passed f List.mem_cons_self) value
      have less := forward_ignore _ _ _ (place_eq_ok noted).2
      -- Each item but the first is shorter by the comma in front of it.
      have left : fuel ≠ 0 ∧ c₃.rest.length + 1 ≤ fuel := by
        rcases hasItem_cases has with ⟨none, -⟩ | ⟨-, first, d, -, begins⟩ |
          ⟨-, -, c₄, c₅, d, comma, skipped, begins⟩
        · cases none
        · have := start (of_decide_eq_true first)
          have := (ahead?_eq_ok begins).2.1
          omega
        · obtain ⟨⟨_, front⟩, upTo, -⟩ := ahead?_eq_ok comma
          have := skip_lt front skipped
          have := (ahead?_eq_ok begins).2.1
          omega
      obtain ⟨fuel, rfl⟩ := Nat.exists_eq_add_one_of_ne_zero left.1
      obtain ⟨places, c₄, later, closed, filled⟩ := ih (index + 1)
        (fun g member => passed g (List.mem_cons_of_mem f member)) (Nat.le_of_succ_le_succ left.2)
        nofun read
      refine ⟨c₂ :: places, c₄, ?_, closed, .item value filled⟩
      refine bind_eq_ok.mpr ⟨true, c₂, has, bind_eq_ok.mpr ⟨c₂, c₃, noted, ?_⟩⟩
      exact bind_eq_ok.mpr ⟨places, c₄, later, rfl⟩

/-- A record is filled in from the parts of the outline of its text. -/
theorem record_eq_ok {name : String} {blank : ρ} {finish : ρ → Except Problem α} {a : α}
    (passed : ∀ f ∈ fields, PassedOver (f.decoder.read room))
    (read : (record name fields blank finish).read (room + 1) c = .ok (a, c')) :
    ∃ o r, outline c = .ok (o, c') ∧ FromParts fields room o blank r ∧ finish r = .ok a := by
  have finished {result : Except Problem ρ} (made : result.bind finish = .ok a) :
      ∃ r, result = .ok r ∧ finish r = .ok a := by
    cases result with
    | error p => cases made
    | ok r => exact ⟨r, rfl, made⟩
  obtain ⟨d?, c₁, begins, read⟩ := bind_eq_ok.mp read
  cases d? with
  | none => cases read
  | some d =>
    simp only at read
    split at read
    · subst d
      obtain ⟨c₂, opened, read⟩ := enter_eq_ok read
      obtain ⟨n, _, counted, read⟩ := bind_eq_ok.mp read
      cases counted
      obtain ⟨result, c₃, taken, read⟩ := bind_eq_ok.mp read
      obtain ⟨made, closed⟩ := settle_eq_ok read
      obtain ⟨r, rfl, made⟩ := finished made
      obtain ⟨ms, noted, filled⟩ := members_of_readMembers passed _ true taken
      refine ⟨.object ms, r, ?_, filled, made⟩
      refine bind_eq_ok.mpr ⟨_, c₁, begins, bind_eq_ok.mpr ⟨(), c₂, opened, ?_⟩⟩
      refine bind_eq_ok.mpr ⟨_, c₂, rfl, bind_eq_ok.mpr ⟨ms, c₃, noted, ?_⟩⟩
      exact bind_eq_ok.mpr ⟨(), c', closed, rfl⟩
    · split at read
      · subst d
        obtain ⟨c₂, opened, read⟩ := enter_eq_ok read
        obtain ⟨result, c₃, taken, read⟩ := bind_eq_ok.mp read
        obtain ⟨made, closed⟩ := settle_eq_ok read
        obtain ⟨r, rfl, made⟩ := finished made
        obtain ⟨places, c₄, noted, closed, filled⟩ := items_of_readItems 0 passed (Nat.le_succ _)
          (fun _ => Nat.lt_succ_self _) taken closed
        refine ⟨.list places, r, ?_, filled, made⟩
        refine bind_eq_ok.mpr ⟨_, c₁, begins, bind_eq_ok.mpr ⟨(), c₂, opened, ?_⟩⟩
        refine bind_eq_ok.mpr ⟨_, c₂, rfl, bind_eq_ok.mpr ⟨places, c₄, noted, ?_⟩⟩
        exact bind_eq_ok.mpr ⟨(), c', closed, rfl⟩
      · obtain ⟨_, _, _, failed⟩ := bind_eq_ok.mp read
        cases failed

theorem passedOver_record {name : String} {blank : ρ} {finish : ρ → Except Problem α}
    (passed : ∀ f ∈ fields, PassedOver (f.decoder.read room)) :
    PassedOver ((record name fields blank finish).read (room + 1)) := by
  intro c fuel enough a c' read _
  obtain ⟨o, r, outlined, -, -⟩ := record_eq_ok passed read
  exact passedOver_outline c fuel enough o c' outlined trivial

def Keeps (room : Nat) (get : ρ → Option β) (f : Field ρ) : Prop :=
  Yields (f.decoder.read room) fun update => ∀ r, get (update r) = get r

theorem keeps_field {name : String} {optional : Bool} {get : ρ → Option β} {get' : ρ → Option α}
    {set : α → ρ → ρ} {d : Decoder α} (same : ∀ a r, get (set a r) = get r) :
    Keeps room get (field name optional get' set d) := .after fun a => .done (same a)

/-- A field, and where in the record its value is kept. -/
structure Binding (ρ : Type) where
  Value : Type
  name : String
  optional : Bool
  get : ρ → Option Value
  set : Value → ρ → ρ
  decoder : Decoder Value

def Binding.field (b : Binding ρ) : Field ρ :=
  Json.Decoder.field b.name b.optional b.get b.set b.decoder

def Binding.Apart (b b' : Binding ρ) : Prop :=
  (∀ v r, b.get (b'.set v r) = b.get r) ∧ ∀ v r, b'.get (b.set v r) = b'.get r

instance : Std.Symm (@Binding.Apart ρ) := ⟨fun _ _ apart => apart.symm⟩

/-- Each value is kept under a name and in a place of its own. -/
structure Separate (bindings : List (Binding ρ)) : Prop where
  names : (bindings.map Binding.name).Nodup
  kept : ∀ b ∈ bindings, ∀ v r, b.get (b.set v r) = some v
  apart : bindings.Pairwise Binding.Apart

structure Owns (fields : List (Field ρ)) (room : Nat) (part : Part) (get : ρ → Option β)
    (d : Decoder β) : Prop where
  distinct : (fields.map Field.name).Nodup
  own : ∃ optional set, fields[part.index]? = some (field part.name optional get set d) ∧
    ∀ b r, get (set b r) = some b
  alone : ∀ f ∈ fields, f.name ≠ part.name → Keeps room get f

namespace Owns

variable {part : Part} {get : ρ → Option β} {d : Decoder β}

theorem of_separate {bindings : List (Binding ρ)} (separate : Separate bindings) {b : Binding ρ}
    {i : Nat} (here : bindings[i]? = some b) :
    Owns (bindings.map Binding.field) room ⟨b.name, i⟩ b.get b.decoder := by
  have member : b ∈ bindings := List.mem_of_getElem? here
  refine ⟨?_, ⟨b.optional, b.set, ?_, separate.kept b member⟩, fun f among other => ?_⟩
  · rw [List.map_map]
    exact separate.names
  · rw [List.getElem?_map, here]
    rfl
  · obtain ⟨b', member', rfl⟩ := List.mem_map.mp among
    have different : b ≠ b' := fun same => other (congrArg Binding.name same.symm)
    exact keeps_field (separate.apart.forall member member' different).1

theorem sets (owns : Owns fields room part get d) {f : Field ρ} (member : f ∈ fields)
    (named : f.name = part.name) : (∀ r, f.seen r = (get r).isSome) ∧
      ∀ {here c : Cursor} {update : ρ → ρ}, f.decoder.read room here = .ok (update, c) →
        ∃ b, d.read room here = .ok (b, c) ∧ ∀ r, get (update r) = some b := by
  obtain ⟨optional, set, here, stored⟩ := owns.own
  have same : f = field part.name optional get set d :=
    List.inj_on_of_nodup_map owns.distinct member (List.mem_of_getElem? here) named
  subst same
  refine ⟨fun _ => rfl, fun read => ?_⟩
  obtain ⟨b, given, rfl⟩ := map_eq_ok read
  exact ⟨b, given, stored b⟩

theorem find? (owns : Owns fields room part get d) :
    ∃ f, fields.find? (·.name = part.name) = some f := by
  obtain ⟨optional, set, here, -⟩ := owns.own
  exact ⟨_, (Keyed.find?_eq_some_iff owns.distinct).mpr ⟨List.mem_of_getElem? here, rfl⟩⟩

theorem tail {f : Field ρ} {name : String} {index : Nat}
    (owns : Owns (f :: fields) room ⟨name, index + 1⟩ get d) : Owns fields room ⟨name, index⟩ get d :=
  ⟨(List.nodup_cons.mp owns.distinct).2, owns.own,
    fun g member => owns.alone g (List.mem_cons_of_mem f member)⟩

theorem kept (owns : Owns fields room part get d) {ms : List (String × Cursor)} {b : β}
    (filled : FromMembers fields room ms r r') (known : get r = some b) : get r' = some b := by
  induction filled with
  | done r => exact known
  | unknown none later ih => exact ih known
  | @known key here c ms r r' f update found unseen read later ih =>
    have member := List.mem_of_find?_eq_some found
    by_cases named : f.name = part.name
    · rw [(owns.sets member named).1, known] at unseen
      cases unseen
    · exact ih ((owns.alone f member named _ _ _ read r).trans known)

theorem readAt_members (owns : Owns fields room part get d) {ms : List (String × Cursor)}
    (filled : FromMembers fields room ms r r') (blank : get r = none) :
    ReadAt (d.read room) (ms.lookup part.name) (get r') := by
  induction filled with
  | done r => exact blank
  | @unknown key here ms r r' none later ih =>
    have other : part.name ≠ key := by
      rintro rfl
      obtain ⟨f, found⟩ := owns.find?
      cases none.symm.trans found
    rw [List.lookup_cons, beq_false_of_ne other]
    exact ih blank
  | @known key here c ms r r' f update found unseen read later ih =>
    have member := List.mem_of_find?_eq_some found
    have key_eq : f.name = key := by simpa using List.find?_some found
    rw [List.lookup_cons]
    by_cases named : f.name = part.name
    · rw [beq_iff_eq.mpr (named.symm.trans key_eq)]
      obtain ⟨b, given, updated⟩ := (owns.sets member named).2 read
      exact ⟨b, c, given, owns.kept later (updated r)⟩
    · rw [beq_false_of_ne fun same => named (key_eq.trans same.symm)]
      exact ih ((owns.alone f member named _ _ _ read r).trans blank)

theorem kept_items {b : β} {places : List Cursor} (filled : FromItems room fields places r r')
    (alone : ∀ f ∈ fields, Keeps room get f) (known : get r = some b) : get r' = some b := by
  induction filled with
  | done fields r => exact known
  | item read later ih =>
    exact ih (fun g member => alone g (List.mem_cons_of_mem _ member))
      ((alone _ List.mem_cons_self _ _ _ read _).trans known)

theorem readAt_items {name : String} {index : Nat} (owns : Owns fields room ⟨name, index⟩ get d)
    {places : List Cursor} (filled : FromItems room fields places r r') (blank : get r = none) :
    ReadAt (d.read room) places[index]? (get r') := by
  induction filled generalizing index with
  | done fields r => exact blank
  | @item f fields here c places r r' update read later ih =>
    have apart := (List.nodup_cons.mp owns.distinct).1
    cases index with
    | zero =>
      obtain ⟨optional, set, first, -⟩ := owns.own
      have named : f.name = name := congrArg Field.name (Option.some.inj first)
      obtain ⟨b, given, updated⟩ := (owns.sets List.mem_cons_self named).2 read
      refine ⟨b, c, given, kept_items later (fun g member => ?_) (updated r)⟩
      refine owns.alone g (List.mem_cons_of_mem f member) fun same => apart ?_
      exact named.trans same.symm ▸ List.mem_map_of_mem member
    | succ index =>
      have other : f.name ≠ name := fun named => by
        obtain ⟨optional, set, there, -⟩ := owns.own
        exact apart (named ▸ List.mem_map.mpr ⟨_, List.mem_of_getElem? there, rfl⟩)
      exact ih owns.tail ((owns.alone f List.mem_cons_self other _ _ _ read r).trans blank)

theorem readAt (owns : Owns fields room part get d) {o : Outline}
    (filled : FromParts fields room o r r') (blank : get r = none) :
    ReadAt (d.read room) (o.part? part) (get r') := by
  cases o with
  | object ms =>
    rw [Outline.part?, Keyed.find?_map_eq_lookup]
    exact owns.readAt_members filled blank
  | list places => exact owns.readAt_items filled blank

end Owns

def Shows (d : Decoder β) (json : β → Json) : Prop :=
  ∀ room free here b c, d.read room here = .ok (b, c) → value free here = .ok (json b, c)

theorem shows_text : Shows text .str := by
  intro room free here s c read
  obtain ⟨d?, c₁, begins, read⟩ := bind_eq_ok.mp read
  cases d? with
  | none => cases read
  | some d =>
    simp only at read
    split at read
    · subst d
      obtain ⟨s', c₂, taken, read⟩ := bind_eq_ok.mp read
      obtain ⟨same, rfl⟩ := checked_eq_ok read
      cases same
      unfold value
      exact bind_eq_ok.mpr ⟨_, c₁, begins, bind_eq_ok.mpr ⟨s, c, taken, rfl⟩⟩
    · exact (yields_mismatch (P := fun _ => False) _ _ _ _ read).elim

theorem shows_boolean : Shows boolean .bool := by
  intro room free here b c read
  obtain ⟨d?, c₁, begins, read⟩ := bind_eq_ok.mp read
  cases d? with
  | none => cases read
  | some d =>
    simp only at read
    unfold value
    split at read
    · subst d
      obtain ⟨_, c₂, taken, read⟩ := bind_eq_ok.mp read
      cases read
      exact bind_eq_ok.mpr ⟨_, c₁, begins, bind_eq_ok.mpr ⟨(), c, taken, rfl⟩⟩
    · split at read
      · subst d
        obtain ⟨_, c₂, taken, read⟩ := bind_eq_ok.mp read
        cases read
        exact bind_eq_ok.mpr ⟨_, c₁, begins, bind_eq_ok.mpr ⟨(), c, taken, rfl⟩⟩
      · exact (yields_mismatch (P := fun _ => False) _ _ _ _ read).elim

theorem inRange_eq_ok {low high i : Int} {name : String} {n : Number}
    (inside : inRange low high name n = .ok i) : n = .int i ∧ low ≤ i ∧ i ≤ high := by
  cases n with
  | double x => cases inside
  | int k =>
    by_cases fits : low ≤ k ∧ k ≤ high
    · rw [inRange, if_pos fits] at inside
      cases inside
      exact ⟨rfl, fits⟩
    · rw [inRange, if_neg fits] at inside
      cases inside

theorem shows_natural (bits : Nat) (name : String) : Shows (natural bits name) .ofNat := by
  intro room free here k c given
  obtain ⟨i, read, rfl⟩ := map_eq_ok (d := integer 0 (Int.pow 2 bits - 1) name) given
  obtain ⟨d?, c₁, begins, read⟩ := bind_eq_ok.mp read
  cases d? with
  | none => cases read
  | some d =>
    simp only at read
    split at read
    · rename_i number
      obtain ⟨n, c₂, taken, read⟩ := bind_eq_ok.mp read
      obtain ⟨inside, rfl⟩ := checked_eq_ok read
      obtain ⟨rfl, positive, -⟩ := inRange_eq_ok inside
      have plain : ¬ d = 'n' ∧ ¬ d = 't' ∧ ¬ d = 'f' := by
        refine ⟨?_, ?_, ?_⟩ <;> rintro rfl <;> cases number
      unfold value
      refine bind_eq_ok.mpr ⟨_, c₁, begins, ?_⟩
      simp only [plain, number, if_false, if_true]
      refine bind_eq_ok.mpr ⟨.int i, c, taken, ?_⟩
      rw [ofNat, Int.toNat_of_nonneg positive]
      rfl
    · exact (yields_mismatch (P := fun _ => False) _ _ _ _ read).elim

theorem valueAt_cons {o : Outline} (part : Part) (path : List Part)
    (outlined : outline c = .ok (o, c')) : valueAt (part :: path) c =
      match o.part? part with
      | none => .ok none
      | some here => valueAt path here := by
  rw [valueAt, outlined]
  rfl

theorem valueAt_of_readAt {d : Decoder β} {json : β → Json} (shows : Shows d json) {o : Outline}
    {part : Part} {b? : Option β} (outlined : outline c = .ok (o, c'))
    (read : ReadAt (d.read room) (o.part? part) b?) : valueAt [part] c = .ok (b?.map json) := by
  rw [valueAt_cons part [] outlined]
  cases there : o.part? part with
  | none =>
    rw [there] at read
    cases read
    rfl
  | some here =>
    rw [there] at read
    obtain ⟨b, c₁, given, rfl⟩ := read
    simp only [valueAt, shows room depthLimit here b c₁ given]
    rfl

end MessageRelay.Json.Decoder
