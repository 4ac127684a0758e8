import PipelineSelection.Proofs.Resolution.Effect

/-!
# What a deny-list enables

Every definition is enabled with the events of its own, unless the list has its name.  Resolving looks names up in
a set made of the list, which holds a name exactly when a search through the list finds it (`contains_denySet`).
The main result is `resolve_denyList`; its last part is a count: what is enabled and what is denied make up the
registry.
-/

namespace PipelineSelection

namespace Selection

/-- The definitions that a deny-list leaves, as pipelines. -/
theorem undenied_eq (selection : Selection) (definitions : List Definition) :
    undenied (Std.HashSet.ofList selection.deny) definitions =
      (definitions.filter fun definition => !selection.denies definition.name).map fun definition =>
        { name := definition.name, subject := definition.subject, events := definition.events } := by
  simp only [undenied, contains_denySet, Definition.enable]

theorem names_undenied (selection : Selection) (definitions : List Definition) :
    (undenied (Std.HashSet.ofList selection.deny) definitions).map (·.name) =
      (definitions.map (·.name)).filter fun name => !selection.denies name := by
  rw [undenied_eq_enableWith]
  exact names_enableWith selection.byName_eventsLeft definitions

end Selection

/-- What a deny-list enables in a scope, told by the search through the list and the definitions of the scope. -/
structure Resolution.EnablesUndenied (resolution : Resolution) (registry : Registry) (selection : Selection)
    (scope : Scope) : Prop where
  /-- Exactly the definitions that are not denied, in the order of the registry, with the events of their own. -/
  pipelines_eq : resolution.pipelinesOf scope =
    ((registry.definitions scope).filter fun definition => !selection.denies definition.name).map fun definition =>
      { name := definition.name, subject := definition.subject, events := definition.events }
  names_nodup : ((resolution.pipelinesOf scope).map (·.name)).Nodup
  key_iff : scope ∈ resolution.pipelines.keys ↔
    ∃ definition ∈ registry.definitions scope, selection.denies definition.name = false

namespace Selection

/-- In every scope the definitions are those enabled and those denied. -/
private theorem size_add_countP {registry : Registry} {selection : Selection} {resolution : Resolution}
    (pipelines : ∀ scope, resolution.pipelinesOf scope =
      undenied (Std.HashSet.ofList selection.deny) (registry.definitions scope)) :
    resolution.size + registry.toList.countP (fun (_, definition) => selection.denies definition.name) =
      registry.size := by
  have inScope : ∀ scope, (resolution.pipelines.entries scope).length +
      (registry.table.entries scope).countP (fun definition => selection.denies definition.name) =
        (registry.table.entries scope).length := by
    intro scope
    have here : resolution.pipelines.entries scope =
        undenied (Std.HashSet.ofList selection.deny) (registry.table.entries scope) := pipelines scope
    rw [here, undenied_eq, List.length_map, ← List.countP_eq_length_filter, Nat.add_comm]
    simp [List.length_eq_countP_add_countP fun definition : Definition => selection.denies definition.name]
  have denied : registry.toList.countP (fun (_, definition) => selection.denies definition.name) =
      (registry.table.entries .cluster).countP (fun definition => selection.denies definition.name) +
        (registry.table.entries .namespaced).countP fun definition => selection.denies definition.name := by
    rw [Registry.toList, ScopeMap.flatten_eq]
    simp [Scope.all, List.countP_append, List.countP_map, Function.comp_def]
  have cluster := inScope .cluster
  have namespaced := inScope .namespaced
  rw [denied, Resolution.size, Registry.size, ScopeMap.size_eq_add, ScopeMap.size_eq_add]
  omega

/-- Resolving a deny-list succeeds and enables, scope by scope, exactly what the list does not name. -/
theorem resolve_denyList {registry : Registry} {selection : Selection} (built : registry.Built)
    (deny : selection.deny ≠ []) (allow : selection.allow = []) :
    ∃ resolution, selection.resolve registry = .ok resolution ∧
      (∀ scope, resolution.EnablesUndenied registry selection scope) ∧
      (∀ name, (Std.HashSet.ofList selection.deny).contains name = selection.denies name) ∧
      resolution.size + registry.toList.countP (fun (_, definition) => selection.denies definition.name) =
        registry.size ∧
      resolution.denyList = selection.deny ∧ resolution.allowList = [] := by
  obtain ⟨resolution, ok, kept, collected⟩ := resolve_of_mode? (mode?_of_deny deny allow) registry
  have pipelines : ∀ scope, resolution.pipelinesOf scope =
      undenied (Std.HashSet.ofList selection.deny) (registry.definitions scope) :=
    Resolution.pipelinesOf_of_collect collected
  refine ⟨resolution, ok, fun scope => ?_, contains_denySet selection, size_add_countP pipelines,
    congrArg Selection.deny kept, allow ▸ congrArg Selection.allow kept⟩
  exact {
    pipelines_eq := by rw [pipelines, undenied_eq]
    names_nodup := by
      rw [pipelines, names_undenied]
      exact (built.nodup_names scope).filter _
    key_iff := by
      rw [Resolution.mem_keys_of_collect collected, pipelines, undenied_eq]
      simp }

/-- A list that repeats a name of both scopes and has an unknown one. -/
theorem resolve_denyList_sample :
    let selection := ofDeny ["pods", "none", "pods"]
    Registry.sample.Built ∧ selection.deny ≠ [] ∧ selection.allow = [] ∧
      ∃ resolution, selection.resolve .sample = .ok resolution ∧
        (∀ scope, resolution.EnablesUndenied .sample selection scope) ∧
        (∀ name, (Std.HashSet.ofList selection.deny).contains name = selection.denies name) ∧
        resolution.size + Registry.sample.toList.countP (fun (_, definition) => selection.denies definition.name) =
          Registry.sample.size ∧
        resolution.denyList = selection.deny ∧ resolution.allowList = [] :=
  ⟨Registry.built_sample, by simp [ofDeny], rfl,
    resolve_denyList Registry.built_sample (by simp [ofDeny]) rfl⟩

end Selection

end PipelineSelection
