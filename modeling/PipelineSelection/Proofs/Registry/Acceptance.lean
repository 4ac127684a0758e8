import PipelineSelection.Proofs.Registry.Construction

/-!
# Which lists make a registry, and what it holds

A list of definitions is refused exactly when a scope has a name twice, and the error tells of the first repetition;
there is only one such place (`FirstRepetition.unique`), and nothing that comes after it counts
(`FirstRepetition.append`).  A list that is accepted is kept as it is, except that the scopes are set apart.  The main
result is `ofList_exact`.
-/

namespace PipelineSelection.Registry

/-! ### The first repetition -/

theorem FirstRepetition.unique {entries : List (Scope × Definition)} {entry other : Scope × Definition}
    (first : FirstRepetition entries entry) (first' : FirstRepetition entries other) : entry = other := by
  obtain ⟨before, after, rfl, nodup, repeated⟩ := first
  obtain ⟨before', after', same, nodup', repeated'⟩ := first'
  -- if one of the places came earlier, the part before the other would hold a repetition
  rcases List.append_eq_append_iff.1 same with ⟨between, rfl, rest⟩ | ⟨between, rfl, rest⟩
  · cases between with
    | nil => exact (List.cons_eq_cons.1 rest).1
    | cons a between =>
      obtain ⟨rfl, _⟩ := List.cons_eq_cons.1 rest
      have earlier : FirstRepetition (before ++ entry :: between) entry := ⟨before, between, rfl, nodup, repeated⟩
      exact absurd nodup' earlier.not_nodup
  · cases between with
    | nil => exact (List.cons_eq_cons.1 rest).1.symm
    | cons a between =>
      obtain ⟨rfl, _⟩ := List.cons_eq_cons.1 rest
      have earlier : FirstRepetition (before' ++ other :: between) other := ⟨before', between, rfl, nodup', repeated'⟩
      exact absurd nodup earlier.not_nodup

theorem FirstRepetition.append {entries : List (Scope × Definition)} {entry : Scope × Definition}
    (first : FirstRepetition entries entry) (more : List (Scope × Definition)) :
    FirstRepetition (entries ++ more) entry := by
  obtain ⟨before, after, rfl, nodup, repeated⟩ := first
  exact ⟨before, after ++ more, by rw [List.append_assoc, List.cons_append], nodup, repeated⟩

theorem ofList_eq_error_iff {entries : List (Scope × Definition)} {error : DuplicatePipeline} :
    ofList entries = .error error ↔
      ∃ entry, FirstRepetition entries entry ∧ error = { scope := entry.1, name := entry.2.name } := by
  rcases ofList_cases entries with ⟨nodup, ok⟩ | ⟨entry, first, failed⟩
  · rw [ok]
    constructor
    · intro h
      cases h
    · rintro ⟨entry, first, _⟩
      exact absurd nodup first.not_nodup
  · rw [failed, Except.error.injEq]
    constructor
    · rintro rfl
      exact ⟨entry, first, rfl⟩
    · rintro ⟨other, first', rfl⟩
      rw [first.unique first']

/-! ### What an accepted list comes to -/

/-- A registry holds exactly the definitions of a list, in the order of the list within each scope. -/
structure Keeps (registry : Registry) (entries : List (Scope × Definition)) : Prop where
  definitions_eq : ∀ scope, registry.definitions scope = (entries.filter (·.1 = scope)).map (·.2)
  /-- One scope comes before the other, and nothing else moves. -/
  toList_eq : registry.toList = entries.filter (·.1 = .cluster) ++ entries.filter (·.1 = .namespaced)
  size_eq : registry.size = entries.length
  /-- Every definition is found under its name. -/
  find?_eq : ∀ entry ∈ entries, registry.find? entry.1 entry.2.name = some entry.2

private theorem keeps_of_ofList {entries : List (Scope × Definition)} {registry : Registry}
    (ok : ofList entries = .ok registry) : registry.Keeps entries := by
  have built : registry.Built := .ofList ok
  obtain ⟨nodup, rfl⟩ := ofList_eq_ok_iff.1 ok
  refine ⟨definitions_ofTrusted entries, ?_, size_ofTrusted entries, ?_⟩
  · rw [toList_ofTrusted]
    simp only [Scope.all, List.flatMap_cons, List.flatMap_nil, List.append_nil]
  · intro entry mem
    rw [built.find?_eq_some_iff, definitions_ofTrusted, List.mem_map]
    exact ⟨⟨entry, by simpa using mem, rfl⟩, rfl⟩

/-- A list makes a registry exactly when no scope has a name twice, and the registry then keeps the list.  Otherwise
the error is the first repetition, whatever comes after it. -/
theorem ofList_exact (entries : List (Scope × Definition)) :
    ((∃ registry, ofList entries = .ok registry) ↔ (entries.map key).Nodup) ∧
    (∀ registry, ofList entries = .ok registry → registry.Keeps entries) ∧
    (∀ error, ofList entries = .error error ↔
      ∃ entry, FirstRepetition entries entry ∧ error = { scope := entry.1, name := entry.2.name }) ∧
    (∀ error more, ofList entries = .error error → ofList (entries ++ more) = .error error) := by
  refine ⟨?_, fun registry => keeps_of_ofList, fun error => ofList_eq_error_iff, ?_⟩
  · constructor
    · rintro ⟨registry, ok⟩
      exact (ofList_eq_ok_iff.1 ok).1
    · intro nodup
      exact ⟨ofTrusted entries, ofList_eq_ok_iff.2 ⟨nodup, rfl⟩⟩
  · intro error more failed
    obtain ⟨entry, first, rfl⟩ := ofList_eq_error_iff.1 failed
    exact ofList_eq_error_iff.2 ⟨entry, first.append more, rfl⟩

/-- A list with one name in both scopes, and the same list with two names repeated. -/
theorem ofList_exact_sample :
    let entries : List (Scope × Definition) :=
      [(.namespaced, .new "pods"), (.cluster, .new "nodes"), (.cluster, .new "pods")]
    let repeated : List (Scope × Definition) := entries ++ [(.cluster, .new "nodes"), (.namespaced, .new "pods")]
    (∃ registry, ofList entries = .ok registry ∧ registry.Keeps entries) ∧
      ofList repeated = .error { scope := .cluster, name := "nodes" } ∧
      ∀ more, ofList (repeated ++ more) = .error { scope := .cluster, name := "nodes" } := by
  intro entries repeated
  obtain ⟨succeeds, keeps, _⟩ := ofList_exact entries
  obtain ⟨_, _, fails, stable⟩ := ofList_exact repeated
  obtain ⟨registry, ok⟩ := succeeds.2 (by decide)
  have failed : ofList repeated = .error { scope := .cluster, name := "nodes" } :=
    (fails _).2 ⟨(.cluster, .new "nodes"), ⟨entries, [(.namespaced, .new "pods")], rfl, by decide, by decide⟩, rfl⟩
  exact ⟨⟨registry, ok, keeps registry ok⟩, failed, fun more => stable _ more failed⟩

end PipelineSelection.Registry
