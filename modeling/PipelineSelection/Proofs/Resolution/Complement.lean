import PipelineSelection.Proofs.Resolution.Effect

/-!
# Allowing some names and denying them

An allow-list and a deny-list of the same names divide the definitions of a registry between them: the first search
finds an entry for a name exactly when the second finds the name (`isSome_entryFor?_eq_denies`), so in every scope the
names of the registry are put together from what the two enable, each in its order (`Interleaves`).  The main result
is `resolve_complement`.
-/

namespace PipelineSelection

/-! ### Lists put together -/

/-- The last list has the elements of the other two, and those of each of them in their order. -/
inductive Interleaves {α : Type} : List α → List α → List α → Prop where
  | nil : Interleaves [] [] []
  | left {a : α} {front back list : List α} :
    Interleaves front back list → Interleaves (a :: front) back (a :: list)
  | right {a : α} {front back list : List α} :
    Interleaves front back list → Interleaves front (a :: back) (a :: list)

theorem interleaves_filter {α : Type} (p : α → Bool) (list : List α) :
    Interleaves (list.filter p) (list.filter fun a => !p a) list := by
  induction list with
  | nil => exact .nil
  | cons a list ih =>
    by_cases h : p a = true
    · rw [List.filter_cons_of_pos h, List.filter_cons_of_neg (by simp [h])]
      exact .left ih
    · rw [List.filter_cons_of_neg h, List.filter_cons_of_pos (by simpa using h)]
      exact .right ih

theorem Interleaves.length_eq {α : Type} {front back list : List α} (h : Interleaves front back list) :
    front.length + back.length = list.length := by
  induction h with
  | nil => rfl
  | left _ ih =>
    rw [List.length_cons, List.length_cons]
    omega
  | right _ ih =>
    rw [List.length_cons, List.length_cons]
    omega

/-! ### Two selections of the same names -/

/-- In a scope each definition is enabled in one of two resolutions, with its subject. -/
structure Resolution.Complements (allowed denied : Resolution) (registry : Registry) (scope : Scope) : Prop where
  exactly_one : ∀ definition ∈ registry.definitions scope,
    definition.name ∈ (denied.pipelinesOf scope).map (·.name) ↔
      definition.name ∉ (allowed.pipelinesOf scope).map (·.name)
  /-- The order is that of the registry in both. -/
  interleaves : Interleaves ((allowed.pipelinesOf scope).map (·.name)) ((denied.pipelinesOf scope).map (·.name))
    ((registry.definitions scope).map (·.name))
  subject_eq : ∀ pipeline, pipeline ∈ allowed.pipelinesOf scope ∨ pipeline ∈ denied.pipelinesOf scope →
    ∃ definition, registry.find? scope pipeline.name = some definition ∧ pipeline.subject = definition.subject

namespace Selection

theorem isSome_entryFor?_eq_denies (entries : List AllowEntry) (name : String) :
    ((ofAllow entries).entryFor? name).isSome = (ofDeny (entries.map (·.resource))).denies name := by
  rw [Bool.eq_iff_iff, denies_iff, entryFor?, List.find?_isSome]
  constructor
  · rintro ⟨entry, mem, same⟩
    have : entry.resource = name := by simpa using same
    exact List.mem_map.2 ⟨entry, mem, this⟩
  · intro mem
    obtain ⟨entry, known, rfl⟩ := List.mem_map.1 mem
    exact ⟨entry, known, by simp⟩

private theorem complements_of_enables {registry : Registry} {entries : List AllowEntry} {allowed denied : Resolution}
    (built : registry.Built) (enables : allowed.Enables registry (ofAllow entries).eventsAllowed)
    (enables' : denied.Enables registry (ofDeny (entries.map (·.resource))).eventsLeft) (scope : Scope) :
    allowed.Complements denied registry scope := by
  have names : (allowed.pipelinesOf scope).map (·.name) = ((registry.definitions scope).map (·.name)).filter
      fun name => ((ofAllow entries).entryFor? name).isSome :=
    enables.names_eq (byName_eventsAllowed _) scope
  have names' : (denied.pipelinesOf scope).map (·.name) = ((registry.definitions scope).map (·.name)).filter
      fun name => !((ofAllow entries).entryFor? name).isSome := by
    simp only [isSome_entryFor?_eq_denies]
    exact enables'.names_eq (byName_eventsLeft _) scope
  refine ⟨?_, ?_, ?_⟩
  · intro definition mem
    have known : definition.name ∈ (registry.definitions scope).map (·.name) := List.mem_map_of_mem mem
    rw [names, names', List.mem_filter, List.mem_filter]
    simp [known]
  · rw [names, names']
    exact interleaves_filter _ _
  · rintro pipeline (mem | mem)
    · rw [enables.pipelinesOf_eq] at mem
      obtain ⟨definition, found, _, subject⟩ := built.find?_of_mem_enableWith mem
      exact ⟨definition, found, subject⟩
    · rw [enables'.pipelinesOf_eq] at mem
      obtain ⟨definition, found, _, subject⟩ := built.find?_of_mem_enableWith mem
      exact ⟨definition, found, subject⟩

private theorem size_add_size {registry : Registry} {allowed denied : Resolution}
    (complements : ∀ scope, allowed.Complements denied registry scope) :
    allowed.size + denied.size = registry.size := by
  refine (ScopeMap.size_eq_size_add_size fun scope => ?_).symm
  have lengths := (complements scope).interleaves.length_eq
  rw [List.length_map, List.length_map, List.length_map] at lengths
  exact lengths.symm

/-- Allowing some names and denying the same names, both in the same order and with repetitions and unknown names
among them, divides the registry. -/
theorem resolve_complement {registry : Registry} {entries : List AllowEntry} {names : List String}
    (built : registry.Built) (nonempty : names ≠ []) (resources : entries.map (·.resource) = names) :
    ∃ allowed denied, (ofAllow entries).resolve registry = .ok allowed ∧
      (ofDeny names).resolve registry = .ok denied ∧
      (∀ scope, allowed.Complements denied registry scope) ∧ allowed.size + denied.size = registry.size := by
  subst resources
  have nonempty' : entries ≠ [] := by
    rintro rfl
    exact nonempty rfl
  obtain ⟨allowed, ok, enables⟩ := resolve_ofAllow registry nonempty'
  obtain ⟨denied, ok', enables'⟩ := resolve_ofDeny registry nonempty
  have complements := complements_of_enables built enables enables'
  exact ⟨allowed, denied, ok, ok', complements, size_add_size complements⟩

/-- A name of both scopes twice, and an unknown one. -/
theorem resolve_complement_sample :
    let entries : List AllowEntry := [⟨"pods", ["DELETED"]⟩, ⟨"none", []⟩, ⟨"pods", []⟩]
    let names := ["pods", "none", "pods"]
    Registry.sample.Built ∧ names ≠ [] ∧ entries.map (·.resource) = names ∧
      ∃ allowed denied, (ofAllow entries).resolve .sample = .ok allowed ∧ (ofDeny names).resolve .sample = .ok denied ∧
        (∀ scope, allowed.Complements denied .sample scope) ∧ allowed.size + denied.size = Registry.sample.size :=
  ⟨Registry.built_sample, by simp, rfl, resolve_complement Registry.built_sample (by simp) rfl⟩

end Selection

end PipelineSelection
