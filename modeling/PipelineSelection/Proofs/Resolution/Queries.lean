import PipelineSelection.Proofs.Registry.Construction
import PipelineSelection.Proofs.Resolution.Emptiness

/-!
# The queries of a store

A registry and a resolution keep lists by scope and are asked in several ways: for the list of one scope, for all
entries, for their number, for the entry of a name, for the scopes that have entries.  Each query goes over the map in
its own way.  The map lists its keys in increasing order (`ScopeMap.keys_increasing`), which is the order in which all
entries are listed, and looking in one scope is looking among all entries for those with its tag
(`ScopeMap.find?_flatten`).  So all answers can be told from the lists of the scopes.  The main result is
`queries_agree`.
-/

namespace PipelineSelection

/-! ### Maps -/

/-- What is looked for in the list of a scope is looked for among all entries under the tag of the scope. -/
theorem ScopeMap.find?_flatten {α : Type} (map : ScopeMap (List α)) (scope : Scope) (p : α → Bool) :
    map.flatten.find? (fun entry => entry.1 = scope && p entry.2) = ((map.entries scope).find? p).map (scope, ·) := by
  have other : ∀ list : List α, list.find? (fun _ => false) = none := by simp
  rw [flatten_eq]
  cases scope <;>
    simp only [Scope.all, List.flatMap_cons, List.flatMap_nil, List.append_nil, List.find?_append, List.find?_map,
      Function.comp_def, decide_true, Bool.true_and, reduceCtorEq, decide_false, Bool.false_and, other, Option.map_none,
      Option.or_none, Option.none_or]

/-! ### Registries -/

/-- Where names do not repeat, there is no other element of a name than the first. -/
theorem filter_name_eq_toList_find? {α : Type} {nameOf : α → String} {list : List α} (nodup : (list.map nameOf).Nodup)
    (name : String) : list.filter (nameOf · == name) = (list.find? (nameOf · == name)).toList := by
  induction list with
  | nil => rfl
  | cons a list ih =>
    rw [List.map_cons, List.nodup_cons] at nodup
    by_cases same : nameOf a = name
    · have others : list.filter (nameOf · == name) = [] := by
        rw [List.filter_eq_nil_iff]
        intro b mem again
        exact nodup.1 (List.mem_map.2 ⟨b, mem, (beq_iff_eq.1 again).trans same.symm⟩)
      rw [List.filter_cons_of_pos (by simpa using same), List.find?_cons_of_pos (by simpa using same), others]
      rfl
    · rw [List.filter_cons_of_neg (by simpa using same), List.find?_cons_of_neg (by simpa using same), ih nodup.2]

namespace Registry

/-- The answers to all queries, told from the definitions of each scope. -/
structure AnswersAgree (registry : Registry) : Prop where
  toList_eq : registry.toList = Scope.all.flatMap fun scope => (registry.definitions scope).map (scope, ·)
  size_eq : registry.size = registry.toList.length
  contains_iff : ∀ name, registry.contains name = true ↔ ∃ scope, (registry.find? scope name).isSome = true
  /-- The definition that is found under a name is the only one of this name in the scope. -/
  filter_eq : ∀ scope name,
    (registry.definitions scope).filter (·.name == name) = (registry.find? scope name).toList
  scopes_increasing : registry.scopes.Pairwise (· < ·)
  scopes_nodup : registry.scopes.Nodup
  mem_scopes_iff : ∀ scope, scope ∈ registry.scopes ↔ registry.definitions scope ≠ []
  isEmpty_iff : registry.isEmpty = true ↔ registry.scopes = []

theorem contains_iff_exists_find? {registry : Registry} {name : String} :
    registry.contains name = true ↔ ∃ scope, (registry.find? scope name).isSome = true := by
  rw [contains_iff]
  refine exists_congr fun scope => ?_
  rw [find?, List.find?_isSome]
  simp only [beq_iff_eq]

theorem scopes_increasing (registry : Registry) : registry.scopes.Pairwise (· < ·) := by
  have sublist : registry.scopes.Sublist registry.table.keys := List.filter_sublist.map _
  exact registry.table.keys_increasing.sublist sublist

theorem scopes_nodup (registry : Registry) : registry.scopes.Nodup := by
  refine registry.scopes_increasing.imp ?_
  rintro scope _ before rfl
  exact scope.lt_irrefl before

/-- A scope with an empty list is not among the scopes, and neither is one without a list. -/
theorem mem_scopes {registry : Registry} {scope : Scope} :
    scope ∈ registry.scopes ↔ registry.definitions scope ≠ [] := by
  rw [definitions, ne_eq, ScopeMap.entries_eq_nil_iff, scopes, List.mem_map]
  cases h : registry.table.get? scope <;> simp [ScopeMap.mem_toList, h]

theorem isEmpty_iff_scopes_eq_nil {registry : Registry} : registry.isEmpty = true ↔ registry.scopes = [] := by
  have none : registry.isEmpty = true ↔ ∀ scope, registry.definitions scope = [] := by
    rw [isEmpty, beq_iff_eq, size, ScopeMap.size_eq_zero_iff, ScopeMap.flatten_eq_nil_iff]
    rfl
  rw [none, List.eq_nil_iff_forall_not_mem]
  simp only [mem_scopes, ne_eq, not_not]

theorem Built.answersAgree {registry : Registry} (built : registry.Built) : registry.AnswersAgree where
  toList_eq := ScopeMap.flatten_eq _
  size_eq := ScopeMap.size_eq_length_flatten _
  contains_iff _ := contains_iff_exists_find?
  filter_eq scope := filter_name_eq_toList_find? (built.nodup_names scope)
  scopes_increasing := registry.scopes_increasing
  scopes_nodup := registry.scopes_nodup
  mem_scopes_iff _ := mem_scopes
  isEmpty_iff := isEmpty_iff_scopes_eq_nil

end Registry

/-! ### Resolutions -/

namespace Resolution

/-- The answers to all queries, told from the pipelines of each scope. -/
structure AnswersAgree (resolution : Resolution) : Prop where
  toList_eq : resolution.toList = Scope.all.flatMap fun scope => (resolution.pipelinesOf scope).map (scope, ·)
  size_eq : resolution.size = resolution.toList.length
  /-- The first of all pipelines with the tag and the name is found; names may repeat. -/
  find?_eq : ∀ scope name, resolution.find? scope name =
    (resolution.toList.find? fun entry => entry.1 = scope && entry.2.name == name).map (·.2)

theorem answersAgree (resolution : Resolution) : resolution.AnswersAgree where
  toList_eq := ScopeMap.flatten_eq _
  size_eq := ScopeMap.size_eq_length_flatten _
  find?_eq scope name := by
    rw [toList, ScopeMap.find?_flatten resolution.pipelines scope (·.name == name), Option.map_map]
    exact Option.map_id'.symm

end Resolution

/-- All queries of a registry, however it has been made, and of a resolution, wherever it comes from, tell the same. -/
theorem queries_agree :
    (∀ registry : Registry, registry.Built → registry.AnswersAgree) ∧
      ∀ resolution : Resolution, resolution.AnswersAgree := by
  refine ⟨?_, Resolution.answersAgree⟩
  intro registry built
  exact built.answersAgree

/-- A registry with a name in both scopes and one in a single scope, and a resolution from a document with an empty
list and a name that is repeated. -/
theorem queries_agree_sample :
    let pods : EnabledPipeline := { name := "pods", subject := "meshery", events := [] }
    let again : EnabledPipeline := { pods with events := ["ADDED"] }
    let read : Resolution := {
      denyList := [], allowList := [], pipelines := { cluster := some [], namespaced := some [pods, again] } }
    Registry.sample.Built ∧ Registry.sample.contains "jobs" = true ∧ .cluster ∈ Registry.sample.scopes ∧
      (∀ name, (Registry.sample.find? .cluster name).toList =
        (Registry.sample.definitions .cluster).filter (·.name == name)) ∧
      Reader.resolution.ofJsonText read.toJson.toCompactText = .ok read ∧ read.size = 2 ∧
      read.find? .namespaced "pods" = some pods ∧ read.find? .cluster "pods" = none := by
  intro pods again read
  obtain ⟨registries, resolutions⟩ := queries_agree
  have agree := registries .sample Registry.built_sample
  have agree' := resolutions read
  have written : read.toJson.toCompactText ∈ read.toJson.writings := List.mem_cons_self ..
  refine ⟨Registry.built_sample, (agree.contains_iff "jobs").2 ⟨.namespaced, by decide⟩,
    (agree.mem_scopes_iff .cluster).2 (by decide), fun name => (agree.filter_eq .cluster name).symm,
    (inverts_resolution.lossless.reads read _ written).2, ?_, ?_, ?_⟩
  · rw [agree'.size_eq, agree'.toList_eq]
    rfl
  · rw [agree'.find?_eq]
    rfl
  · rw [agree'.find?_eq]
    rfl

end PipelineSelection
