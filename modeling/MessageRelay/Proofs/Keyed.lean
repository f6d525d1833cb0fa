import Mathlib.Data.List.Basic
import Mathlib.Data.List.Nodup

/-!
Lists of values under keys, and what is looked up in them. Where keys stand once, the value under a
key is the one that is listed with it, and nothing is found under a key that was taken out.
-/
namespace MessageRelay.Keyed

variable {κ α : Type} [DecidableEq κ]

theorem find?_map_eq_lookup (l : List (κ × α)) (k : κ) :
    (l.find? (·.1 = k)).map (·.2) = l.lookup k := by
  induction l with
  | nil => rfl
  | cons entry l ih =>
    obtain ⟨j, a⟩ := entry
    by_cases same : j = k
    · simp [same]
    · rw [List.find?_cons_of_neg (by simpa using same), ih, List.lookup_cons,
        beq_false_of_ne (Ne.symm same)]

theorem lookup_eq_none_iff_keys {l : List (κ × α)} {k : κ} :
    l.lookup k = none ↔ k ∉ l.map (·.1) := by
  simp only [List.lookup_eq_none_iff, bne_iff_ne, List.mem_map, not_exists, not_and]
  exact forall₂_congr fun _ _ => ne_comm

theorem mem_of_lookup {l : List (κ × α)} {k : κ} {a : α} (found : l.lookup k = some a) :
    (k, a) ∈ l := by
  obtain ⟨before, after, rfl, -⟩ := List.lookup_eq_some_iff.mp found
  simp

theorem find?_eq_some_iff {key : α → κ} {l : List α} (nodup : (l.map key).Nodup) {k : κ} {a : α} :
    l.find? (key · = k) = some a ↔ a ∈ l ∧ key a = k := by
  constructor
  · intro found
    exact ⟨List.mem_of_find?_eq_some found, by simpa using List.find?_some found⟩
  · rintro ⟨member, rfl⟩
    cases found : l.find? (key · = key a) with
    | none =>
      rw [List.find?_eq_none] at found
      exact absurd (by simp) (found a member)
    | some b =>
      have sameKey : key b = key a := by simpa using List.find?_some found
      have same := List.inj_on_of_nodup_map nodup (List.mem_of_find?_eq_some found) member sameKey
      rw [same]

theorem filter_eq_singleton {key : α → κ} {l : List α} (nodup : (l.map key).Nodup) {a : α}
    (member : a ∈ l) : l.filter (key · = key a) = [a] := by
  obtain ⟨before, after, rfl⟩ := List.append_of_mem member
  rw [List.map_append, List.map_cons, List.nodup_append, List.nodup_cons] at nodup
  obtain ⟨-, ⟨last, -⟩, apart⟩ := nodup
  have front : before.filter (key · = key a) = [] := List.filter_eq_nil_iff.mpr fun b inside same =>
    apart _ (List.mem_map_of_mem inside) _ List.mem_cons_self (of_decide_eq_true same)
  have behind : after.filter (key · = key a) = [] := List.filter_eq_nil_iff.mpr fun b inside same =>
    last (of_decide_eq_true same ▸ List.mem_map_of_mem inside)
  rw [List.filter_append, front, List.filter_cons_of_pos (by simp), behind]
  rfl

theorem lookup_eq_some_iff_mem {l : List (κ × α)} (nodup : (l.map (·.1)).Nodup) {k : κ} {a : α} :
    l.lookup k = some a ↔ (k, a) ∈ l := by
  refine ⟨mem_of_lookup, fun member => ?_⟩
  rw [← find?_map_eq_lookup, (find?_eq_some_iff nodup).mpr ⟨member, rfl⟩]
  rfl

theorem nodup_eraseP {l : List (κ × α)} (nodup : (l.map (·.1)).Nodup) (j : κ) :
    ((l.eraseP (·.1 = j)).map (·.1)).Nodup :=
  nodup.sublist (List.eraseP_sublist.map _)

theorem lookup_filter (l : List (κ × α)) (j k : κ) :
    (l.filter (·.1 ≠ j)).lookup k = if k = j then none else l.lookup k := by
  induction l with
  | nil => simp
  | cons entry rest ih =>
    obtain ⟨i, a⟩ := entry
    by_cases same : i = j
    · rw [List.filter_cons_of_neg (by simpa using same), ih, List.lookup_cons]
      by_cases h : k = j
      · rw [if_pos h, if_pos h]
      · rw [if_neg h, if_neg h, beq_false_of_ne fun eq => h (eq.trans same)]
    · rw [List.filter_cons_of_pos (by simpa using same), List.lookup_cons, ih, List.lookup_cons]
      by_cases h : k = i
      · have other : k ≠ j := fun eq => same (h.symm.trans eq)
        rw [beq_iff_eq.mpr h, if_neg other, if_neg other]
      · rw [beq_false_of_ne h]

theorem eraseP_eq_filter {l : List (κ × α)} (nodup : (l.map (·.1)).Nodup) (j : κ) :
    l.eraseP (·.1 = j) = l.filter (·.1 ≠ j) := by
  induction l with
  | nil => rfl
  | cons entry rest ih =>
    obtain ⟨i, a⟩ := entry
    obtain ⟨fresh, nodup⟩ := List.nodup_cons.mp nodup
    by_cases same : i = j
    · have others : rest.filter (·.1 ≠ j) = rest := by
        refine List.filter_eq_self.mpr fun other member => decide_eq_true fun eq => fresh ?_
        exact List.mem_map.mpr ⟨other, member, eq.trans same.symm⟩
      rw [List.eraseP_cons_of_pos (by simpa using same),
        List.filter_cons_of_neg (by simpa using same), others]
    · rw [List.eraseP_cons_of_neg (by simpa using same),
        List.filter_cons_of_pos (by simpa using same), ih nodup]

theorem lookup_eraseP {l : List (κ × α)} (nodup : (l.map (·.1)).Nodup) (j k : κ) :
    (l.eraseP (·.1 = j)).lookup k = if k = j then none else l.lookup k := by
  rw [eraseP_eq_filter nodup, lookup_filter]

theorem lookup_concat (l : List (κ × α)) (j k : κ) (a : α) :
    (l ++ [(j, a)]).lookup k = (l.lookup k).or (if k = j then some a else none) := by
  rw [List.lookup_append, List.lookup_cons]
  by_cases h : k = j
  · rw [if_pos h, beq_iff_eq.mpr h]
  · rw [if_neg h, beq_false_of_ne h]
    rfl

end MessageRelay.Keyed
