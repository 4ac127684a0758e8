import PipelineSelection.Proofs.Resolution.Effect

/-!
# What an allow-list enables

A definition is enabled when an entry names it, with the events of the first entry that does (`FirstEntry`).  Order
and uniqueness are those of the registry: the names enabled in a scope are the names defined there without those
that no entry has (`names_allowed`).  The main result is `resolve_allowList`, which tells the whole resolution in
terms of the entries and of the definitions of the registry.
-/

namespace PipelineSelection

/-- The entry that counts for a resource: of those naming it, the one with the smallest index. -/
def FirstEntry (entries : List AllowEntry) (resource : String) (entry : AllowEntry) : Prop :=
  ∃ index : Nat, entries[index]? = some entry ∧ entry.resource = resource ∧
    ∀ earlier < index, ∀ other, entries[earlier]? = some other → other.resource ≠ resource

namespace Selection

theorem entryFor?_eq_some_iff {selection : Selection} {resource : String} {entry : AllowEntry} :
    selection.entryFor? resource = some entry ↔ FirstEntry selection.allow resource entry := by
  rw [entryFor?, List.find?_eq_some_iff_getElem]
  constructor
  · rintro ⟨named, index, bound, rfl, before⟩
    refine ⟨index, List.getElem?_eq_getElem bound, by simpa using named, ?_⟩
    intro earlier less other h
    obtain ⟨_, rfl⟩ := List.getElem?_eq_some_iff.1 h
    simpa using before earlier less
  · rintro ⟨index, h, rfl, before⟩
    obtain ⟨bound, rfl⟩ := List.getElem?_eq_some_iff.1 h
    refine ⟨by simp, index, bound, rfl, fun earlier less => ?_⟩
    simpa using before earlier less _ (List.getElem?_eq_getElem (by omega))

theorem isSome_entryFor?_iff {selection : Selection} {resource : String} :
    (selection.entryFor? resource).isSome = true ↔ ∃ entry ∈ selection.allow, entry.resource = resource := by
  simp [entryFor?]

theorem mem_allowed {selection : Selection} {definitions : List Definition} {pipeline : EnabledPipeline} :
    pipeline ∈ selection.allowed definitions ↔
      ∃ definition ∈ definitions, ∃ entry, FirstEntry selection.allow definition.name entry ∧
        definition.enable entry.events = pipeline := by
  simp only [allowed, List.mem_filterMap, Option.map_eq_some_iff, entryFor?_eq_some_iff]

/-- The names that are enabled, in the order of their definitions. -/
theorem names_allowed (selection : Selection) (definitions : List Definition) :
    (selection.allowed definitions).map (·.name) =
      (definitions.map (·.name)).filter fun name => (selection.entryFor? name).isSome := by
  rw [allowed_eq_enableWith]
  exact names_enableWith selection.byName_eventsAllowed definitions

end Selection

/-- What an allow-list enables in a scope, told by its entries and the definitions of the scope. -/
structure Resolution.EnablesAllowed (resolution : Resolution) (registry : Registry) (entries : List AllowEntry)
    (scope : Scope) : Prop where
  /-- The order is that of the registry. -/
  names_sublist : List.Sublist ((resolution.pipelinesOf scope).map (·.name))
    ((registry.definitions scope).map (·.name))
  names_nodup : ((resolution.pipelinesOf scope).map (·.name)).Nodup
  /-- A definition is enabled when an entry has exactly its name. -/
  enabled_iff : ∀ definition ∈ registry.definitions scope,
    definition.name ∈ (resolution.pipelinesOf scope).map (·.name) ↔
      ∃ entry ∈ entries, entry.resource = definition.name
  /-- The events are those of the first entry, never those of the definition. -/
  mem_iff : ∀ pipeline, pipeline ∈ resolution.pipelinesOf scope ↔
    ∃ definition ∈ registry.definitions scope, ∃ entry, FirstEntry entries definition.name entry ∧
      pipeline = { name := definition.name, subject := definition.subject, events := entry.events }
  find?_eq_some_iff : ∀ name pipeline, resolution.find? scope name = some pipeline ↔
    ∃ definition entry, registry.find? scope name = some definition ∧ FirstEntry entries name entry ∧
      pipeline = { name := definition.name, subject := definition.subject, events := entry.events }
  find?_eq_none_iff : ∀ name, resolution.find? scope name = none ↔
    registry.find? scope name = none ∨ ∀ entry ∈ entries, entry.resource ≠ name
  key_iff : scope ∈ resolution.pipelines.keys ↔ resolution.pipelinesOf scope ≠ []

namespace Selection

section

variable {registry : Registry} {selection : Selection} {resolution : Resolution} {scope : Scope}

private theorem mem_pipelines_iff (pipelines : resolution.pipelinesOf scope =
    selection.allowed (registry.definitions scope)) (pipeline : EnabledPipeline) :
    pipeline ∈ resolution.pipelinesOf scope ↔
      ∃ definition ∈ registry.definitions scope, ∃ entry, FirstEntry selection.allow definition.name entry ∧
        pipeline = { name := definition.name, subject := definition.subject, events := entry.events } := by
  rw [pipelines, mem_allowed]
  simp only [Definition.enable, eq_comm]

private theorem find?_pipelines_iff (built : registry.Built) (pipelines : resolution.pipelinesOf scope =
    selection.allowed (registry.definitions scope)) (nodup : ((resolution.pipelinesOf scope).map (·.name)).Nodup)
    (name : String) (pipeline : EnabledPipeline) :
    resolution.find? scope name = some pipeline ↔
      ∃ definition entry, registry.find? scope name = some definition ∧ FirstEntry selection.allow name entry ∧
        pipeline = { name := definition.name, subject := definition.subject, events := entry.events } := by
  rw [Resolution.find?, find?_name_eq_some_iff nodup, mem_pipelines_iff pipelines]
  constructor
  · rintro ⟨⟨definition, mem, entry, first, rfl⟩, rfl⟩
    exact ⟨definition, entry, built.find?_eq_some_iff.2 ⟨mem, rfl⟩, first, rfl⟩
  · rintro ⟨definition, entry, found, first, rfl⟩
    obtain ⟨mem, rfl⟩ := built.find?_eq_some_iff.1 found
    exact ⟨⟨definition, mem, entry, first, rfl⟩, rfl⟩

private theorem find?_pipelines_eq_none_iff (pipelines : resolution.pipelinesOf scope =
    selection.allowed (registry.definitions scope)) (name : String) :
    resolution.find? scope name = none ↔
      registry.find? scope name = none ∨ ∀ entry ∈ selection.allow, entry.resource ≠ name := by
  have hit : (∃ pipeline ∈ resolution.pipelinesOf scope, pipeline.name = name) ↔
      (∃ definition ∈ registry.definitions scope, definition.name = name) ∧
        ∃ entry ∈ selection.allow, entry.resource = name := by
    rw [← isSome_entryFor?_iff, ← List.mem_map, pipelines, names_allowed, List.mem_filter, List.mem_map]
  have miss : resolution.find? scope name = none ↔
      ¬∃ pipeline ∈ resolution.pipelinesOf scope, pipeline.name = name := by
    simp [Resolution.find?]
  rw [miss, hit, Registry.find?_eq_none_iff, not_and_or]
  simp only [not_exists, not_and, ne_eq]

end

/-- Resolving an allow-list succeeds and enables, scope by scope, exactly what the entries name. -/
theorem resolve_allowList {registry : Registry} {selection : Selection} (built : registry.Built)
    (allow : selection.allow ≠ []) (deny : selection.deny = []) :
    ∃ resolution, selection.resolve registry = .ok resolution ∧
      (∀ scope, resolution.EnablesAllowed registry selection.allow scope) ∧
      resolution.denyList = [] ∧ resolution.allowList = selection.allow := by
  obtain ⟨resolution, ok, kept, collected⟩ := resolve_of_mode? (mode?_of_allow allow deny) registry
  refine ⟨resolution, ok, fun scope => ?_, deny ▸ congrArg Selection.deny kept, congrArg Selection.allow kept⟩
  have pipelines : resolution.pipelinesOf scope = selection.allowed (registry.definitions scope) :=
    Resolution.pipelinesOf_of_collect collected scope
  have names : (resolution.pipelinesOf scope).map (·.name) = ((registry.definitions scope).map (·.name)).filter
      fun name => (selection.entryFor? name).isSome := by
    rw [pipelines, names_allowed]
  have nodup : ((resolution.pipelinesOf scope).map (·.name)).Nodup := by
    rw [names]
    exact (built.nodup_names scope).filter _
  exact {
    names_sublist := by
      rw [names]
      exact List.filter_sublist
    names_nodup := nodup
    enabled_iff := fun definition mem => by
      rw [names, List.mem_filter, isSome_entryFor?_iff]
      exact and_iff_right (List.mem_map_of_mem mem)
    mem_iff := mem_pipelines_iff pipelines
    find?_eq_some_iff := find?_pipelines_iff built pipelines nodup
    find?_eq_none_iff := find?_pipelines_eq_none_iff pipelines
    key_iff := Resolution.mem_keys_of_collect collected scope }

/-- A list with a second entry for a name of both scopes and an entry for an unknown name. -/
theorem resolve_allowList_sample :
    let entries : List AllowEntry := [⟨"pods", ["DELETED"]⟩, ⟨"none", []⟩, ⟨"pods", []⟩]
    Registry.sample.Built ∧ (ofAllow entries).allow ≠ [] ∧ (ofAllow entries).deny = [] ∧
      ∃ resolution, (ofAllow entries).resolve .sample = .ok resolution ∧
        (∀ scope, resolution.EnablesAllowed .sample entries scope) ∧
        resolution.denyList = [] ∧ resolution.allowList = entries :=
  ⟨Registry.built_sample, by simp [ofAllow], rfl,
    resolve_allowList Registry.built_sample (by simp [ofAllow]) rfl⟩

end Selection

end PipelineSelection
