import Mathlib.Data.List.Induction
import MessageRelay.Registry
import MessageRelay.Proofs.Keyed

/-!
Namespaces are lists of segments between dots. A registry holds the first handler that a well-formed
namespace was given, and a message type is routed to the longest of the registered namespaces that take
it: the type itself, what stands before one of its dots, and the empty namespace.
-/
namespace MessageRelay.Registry

variable {η : Type}

section Segments

/-- A namespace with an empty segment; the empty namespace stands for all types and is not one. -/
def Malformed (ns : String) : Prop := ns ≠ "" ∧ [] ∈ ns.toList.splitOn '.'

instance (ns : String) : Decidable (Malformed ns) := inferInstanceAs (Decidable (_ ∧ _))

theorem hasEmptySegment_iff (l : List Char) :
    (hasEmptySegment true l = true ↔ [] ∈ l.splitOn '.') ∧
      (hasEmptySegment false l = true ↔ [] ∈ (l.splitOn '.').tail) := by
  induction l with
  | nil => simp [hasEmptySegment]
  | cons c rest ih =>
    rw [List.splitOn_cons_eq_if_modifyHead]
    by_cases dot : c = '.'
    · simp [hasEmptySegment, dot, ih.1]
    · obtain ⟨first, others, split⟩ := List.exists_cons_of_ne_nil (List.splitOn_ne_nil '.' rest)
      simp [hasEmptySegment, dot, ih.2, split]

theorem validNamespace_iff (ns : String) : validNamespace ns = true ↔ ¬ Malformed ns := by
  simp only [validNamespace, Malformed, Bool.or_eq_true, String.isEmpty_iff, Bool.not_eq_true',
    ← Bool.not_eq_true, (hasEmptySegment_iff ns.toList).1]
  tauto

end Segments

section Candidates

/-- The namespaces that a message type belongs to. -/
def Takes (ns t : String) : Prop := ns = t ∨ ns.toList ++ ['.'] <+: t.toList ∨ ns = ""

instance (ns t : String) : Decidable (Takes ns t) := inferInstanceAs (Decidable (_ ∨ _))

theorem Takes.isPrefix {ns t : String} (takes : Takes ns t) : ns.toList <+: t.toList := by
  rcases takes with rfl | dotted | rfl
  · exact List.prefix_refl _
  · exact (List.prefix_append _ _).trans dotted
  · exact List.nil_prefix

theorem Takes.eq_of_length {a b t : String} (first : Takes a t) (second : Takes b t)
    (same : a.length = b.length) : a = b := by
  have shorter := List.prefix_of_prefix_length_le first.isPrefix second.isPrefix
    (Nat.le_of_eq same)
  exact String.toList_inj.mp (shorter.eq_of_length same)

theorem mem_cuts {back : List Char} {s : String} :
    s ∈ cuts back ↔ '.' :: s.toList.reverse <:+ back := by
  induction back with
  | nil => simp [cuts]
  | cons c rest ih =>
    rw [List.suffix_cons_iff, List.cons.injEq, ← ih]
    have text : s = String.ofList rest.reverse ↔ s.toList.reverse = rest := by
      rw [← String.toList_inj, String.toList_ofList, List.reverse_eq_iff]
    by_cases dot : c = '.'
    · simp [cuts, dot, text]
    · simp [cuts, dot, Ne.symm dot]

theorem mem_candidates {t ns : String} : ns ∈ candidates t ↔ Takes ns t := by
  have cut : ns ∈ cuts t.toList.reverse ↔ ns.toList ++ ['.'] <+: t.toList := by
    rw [mem_cuts, ← List.reverse_suffix, List.reverse_append]
    rfl
  simp [candidates, Takes, cut]

theorem length_of_mem_cuts {back : List Char} {s : String} (member : s ∈ cuts back) :
    s.length < back.length := by
  have shorter := (mem_cuts.mp member).length_le
  rwa [List.length_cons, List.length_reverse, String.length_toList] at shorter

theorem cuts_pairwise (back : List Char) : (cuts back).Pairwise fun a b => b.length ≤ a.length := by
  induction back with
  | nil => exact List.Pairwise.nil
  | cons c rest ih =>
    by_cases dot : c = '.'
    · rw [cuts, if_pos dot, List.pairwise_cons]
      refine ⟨fun s member => ?_, ih⟩
      have shorter := length_of_mem_cuts member
      rw [String.length_ofList, List.length_reverse]
      exact Nat.le_of_lt shorter
    · rw [cuts, if_neg dot]
      exact ih

theorem candidates_pairwise (t : String) :
    (candidates t).Pairwise fun a b => b.length ≤ a.length := by
  rw [candidates, List.pairwise_append, List.pairwise_cons]
  refine ⟨⟨fun s member => ?_, cuts_pairwise _⟩, List.pairwise_singleton _ _, ?_⟩
  · have shorter := length_of_mem_cuts member
    rw [List.length_reverse] at shorter
    exact Nat.le_of_lt shorter
  · simp

theorem cuts_length (back : List Char) : (cuts back).length = back.count '.' := by
  induction back with
  | nil => rfl
  | cons c rest ih => by_cases dot : c = '.' <;> simp [cuts, dot, ih]

theorem candidates_length (t : String) : (candidates t).length = t.toList.count '.' + 2 := by
  simp [candidates, cuts_length]

end Candidates

section Resolution

/-- The entry that a message type is routed to. -/
structure Routes (r : Registry η) (t ns : String) (handler : η) : Prop where
  found : r.find? ns = some handler
  takes : Takes ns t
  longest : ∀ other, (r.find? other).isSome → Takes other t → other.length ≤ ns.length

theorem resolve_eq_none_iff {r : Registry η} {t : String} :
    r.resolve t = none ↔ ∀ ns, Takes ns t → r.find? ns = none := by
  simp only [resolve, List.findSome?_eq_none_iff, mem_candidates, Option.map_eq_none_iff]

theorem Routes.of_resolve {r : Registry η} {t ns : String} {handler : η}
    (resolved : r.resolve t = some (ns, handler)) : r.Routes t ns handler := by
  obtain ⟨earlier, c, later, split, answer, missed⟩ := List.findSome?_eq_some_iff.mp resolved
  obtain ⟨_, found, same⟩ := Option.map_eq_some_iff.mp answer
  cases same
  have order := candidates_pairwise t
  rw [split, List.pairwise_append, List.pairwise_cons] at order
  refine ⟨found, mem_candidates.mp (by simp [split]), fun other held takes => ?_⟩
  have member := mem_candidates.mpr takes
  rw [split, List.mem_append, List.mem_cons] at member
  rcases member with before | rfl | after
  · have nothing := missed other before
    rw [Option.map_eq_none_iff] at nothing
    simp [nothing] at held
  · exact Nat.le_refl _
  · exact order.2.1.1 other after

theorem Routes.unique {r : Registry η} {t a b : String} {f g : η} (first : r.Routes t a f)
    (second : r.Routes t b g) : a = b ∧ f = g := by
  have below := second.longest a (by simp [first.found]) first.takes
  have above := first.longest b (by simp [second.found]) second.takes
  have same := first.takes.eq_of_length second.takes (Nat.le_antisymm below above)
  subst same
  exact ⟨rfl, Option.some.inj (first.found.symm.trans second.found)⟩

theorem resolve_eq_some_iff {r : Registry η} {t ns : String} {handler : η} :
    r.resolve t = some (ns, handler) ↔ r.Routes t ns handler := by
  refine ⟨Routes.of_resolve, fun routes => ?_⟩
  cases resolved : r.resolve t with
  | none =>
    have missing := resolve_eq_none_iff.mp resolved ns routes.takes
    rw [routes.found] at missing
    exact nomatch missing
  | some entry =>
    obtain ⟨rfl, rfl⟩ := (Routes.of_resolve resolved).unique routes
    rfl

end Resolution

section Building

theorem find?_register {r : Registry η} {ns : String} {handler : η} {r' : Registry η}
    (accepted : r.register ns handler = .ok r') (other : String) :
    r'.find? other = (r.find? other).or (if other = ns then some handler else none) := by
  rw [register] at accepted
  split at accepted
  · exact nomatch accepted
  · split at accepted
    · exact nomatch accepted
    · cases accepted
      rw [find?, find?, Keyed.find?_map_eq_lookup, Keyed.find?_map_eq_lookup, Keyed.lookup_concat]

theorem register_invalid_iff {r : Registry η} {ns : String} {handler : η} :
    r.register ns handler = .error (.invalidNamespace ns) ↔ Malformed ns := by
  rw [register, ← not_iff_not, ← validNamespace_iff]
  cases validNamespace ns <;> cases r.find? ns <;> simp

theorem register_duplicate_iff {r : Registry η} {ns : String} {handler : η} :
    r.register ns handler = .error (.duplicateNamespace ns) ↔
      ¬ Malformed ns ∧ (r.find? ns).isSome := by
  rw [register, ← validNamespace_iff]
  cases validNamespace ns <;> cases r.find? ns <;> simp

theorem register_ok_iff {r : Registry η} {ns : String} {handler : η} :
    (∃ r', r.register ns handler = .ok r') ↔ ¬ Malformed ns ∧ r.find? ns = none := by
  rw [register, ← validNamespace_iff]
  cases validNamespace ns <;> cases r.find? ns <;> simp

def attempt (r : Registry η) (entry : String × η) : Registry η :=
  match r.register entry.1 entry.2 with
  | .ok r' => r'
  | .error _ => r

def build (attempts : List (String × η)) : Registry η := attempts.foldl attempt empty

theorem build_concat (attempts : List (String × η)) (entry : String × η) :
    build (attempts ++ [entry]) = (build attempts).attempt entry := by
  rw [build, List.foldl_append]
  rfl

/-- A namespace with the handler of its attempt that succeeded. -/
def Registered (attempts : List (String × η)) (ns : String) (handler : η) : Prop :=
  ∃ before after r, attempts = before ++ (ns, handler) :: after ∧
    (build before).register ns handler = .ok r

theorem find?_attempt (r : Registry η) (entry : String × η) (ns : String) :
    (r.attempt entry).find? ns =
      (r.find? ns).or (if ns = entry.1 ∧ ¬ Malformed ns then some entry.2 else none) := by
  obtain ⟨name, handler⟩ := entry
  cases answer : r.register name handler with
  | ok r' =>
    have valid := (register_ok_iff.mp ⟨r', answer⟩).1
    rw [attempt, answer, find?_register answer]
    by_cases same : ns = name
    · simp [same, valid]
    · simp [same]
  | error e =>
    rw [attempt, answer]
    by_cases same : ns = name ∧ ¬ Malformed ns
    · obtain ⟨rfl, valid⟩ := same
      have held : r.find? ns ≠ none := fun missing => by
        obtain ⟨_, accepted⟩ := register_ok_iff.mpr ⟨valid, missing⟩
        exact nomatch accepted.symm.trans answer
      obtain ⟨_, found⟩ := Option.ne_none_iff_exists'.mp held
      simp [found]
    · simp [same]

/-- A registry holds the handler of the first attempt for each well-formed namespace. -/
theorem find?_build (attempts : List (String × η)) (ns : String) :
    (build attempts).find? ns = if Malformed ns then none else attempts.lookup ns := by
  induction attempts using List.reverseRecOn with
  | nil => exact (ite_self none).symm
  | append_singleton attempts entry ih =>
    rw [build_concat, find?_attempt, ih, Keyed.lookup_concat]
    by_cases malformed : Malformed ns <;> simp [malformed]

theorem registered_iff {attempts : List (String × η)} {ns : String} {handler : η} :
    Registered attempts ns handler ↔ (build attempts).find? ns = some handler := by
  constructor
  · rintro ⟨before, after, r, rfl, accepted⟩
    obtain ⟨valid, missing⟩ := register_ok_iff.mp ⟨r, accepted⟩
    rw [find?_build, if_neg valid] at missing ⊢
    rw [List.lookup_append, missing, List.lookup_cons_self]
    rfl
  · intro found
    rw [find?_build] at found
    split at found
    · exact nomatch found
    · rename_i valid
      obtain ⟨before, after, rfl, others⟩ := List.lookup_eq_some_iff.mp found
      have fresh : (build before).find? ns = none := by
        rw [find?_build, if_neg valid, List.lookup_eq_none_iff.mpr others]
      obtain ⟨r, accepted⟩ := register_ok_iff.mpr ⟨valid, fresh⟩
      exact ⟨before, after, r, rfl, accepted⟩

theorem isSome_find?_iff {attempts : List (String × η)} {ns : String} :
    ((build attempts).find? ns).isSome ↔ ∃ handler, Registered attempts ns handler := by
  simp only [registered_iff, Option.isSome_iff_exists]

theorem build_refused {attempts : List (String × η)} {ns : String} {handler : η} {e : RegistryError}
    (refused : (build attempts).register ns handler = .error e) (later : List (String × η)) :
    build (attempts ++ (ns, handler) :: later) = build (attempts ++ later) := by
  have unchanged : (build attempts).attempt (ns, handler) = build attempts := by
    rw [attempt, refused]
  rw [List.append_cons, build, List.foldl_append, ← build, build_concat, unchanged, build,
    ← List.foldl_append]
  rfl

/-- What a sequence of attempts to register builds, and where the result routes a message type. -/
theorem build_routes (attempts : List (String × η)) :
    (∀ ns handler,
      ((build attempts).register ns handler = .error (.invalidNamespace ns) ↔ Malformed ns) ∧
      ((build attempts).register ns handler = .error (.duplicateNamespace ns) ↔
        ¬ Malformed ns ∧ ∃ held, Registered attempts ns held) ∧
      ((∃ r, (build attempts).register ns handler = .ok r) ↔
        ¬ Malformed ns ∧ ¬ ∃ held, Registered attempts ns held) ∧
      ∀ e, (build attempts).register ns handler = .error e →
        ∀ later, build (attempts ++ (ns, handler) :: later) = build (attempts ++ later)) ∧
    ∀ t, (candidates t).length = t.toList.count '.' + 2 ∧
      (∀ ns handler, (build attempts).resolve t = some (ns, handler) ↔
        Registered attempts ns handler ∧ Takes ns t ∧
          ∀ other held, Registered attempts other held → Takes other t →
            other.length ≤ ns.length) ∧
      ((build attempts).resolve t = none ↔
        ∀ ns handler, Registered attempts ns handler → ¬ Takes ns t) := by
  refine ⟨fun ns handler => ⟨register_invalid_iff, ?_, ?_, fun e refused later => ?_⟩,
    fun t => ⟨candidates_length t, fun ns handler => ?_, ?_⟩⟩
  · rw [register_duplicate_iff, isSome_find?_iff]
  · rw [register_ok_iff, ← Option.not_isSome_iff_eq_none, isSome_find?_iff]
  · exact build_refused refused later
  · rw [resolve_eq_some_iff, registered_iff]
    constructor
    · rintro ⟨found, takes, longest⟩
      exact ⟨found, takes, fun other held registered =>
        longest other (isSome_find?_iff.mpr ⟨held, registered⟩)⟩
    · rintro ⟨found, takes, longest⟩
      refine ⟨found, takes, fun other held => ?_⟩
      obtain ⟨h, registered⟩ := isSome_find?_iff.mp held
      exact longest other h registered
  · simp only [resolve_eq_none_iff, registered_iff]
    constructor
    · intro missing ns handler found takes
      rw [missing ns takes] at found
      exact nomatch found
    · intro untaken ns takes
      rw [Option.eq_none_iff_forall_ne_some]
      exact fun handler found => untaken ns handler found takes

example :
    let r := build [("a", 1), ("a..b", 2), ("a", 3), ("", 4)]
    r.resolve "a..b" = some ("a", 1) ∧ r.resolve ".a" = some ("", 4) ∧
      r.resolve "a." = some ("a", 1) := by
  decide +kernel

end Building

end MessageRelay.Registry
