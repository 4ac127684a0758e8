import Mathlib.Data.List.Basic
import PipelineSelection.Proofs.Registry.Construction
import PipelineSelection.Resolution

/-!
# What a selection does to a definition

A selection enables a definition with some events or leaves it out.  An allow-list decides by the first entry for the
name (`eventsAllowed`), a deny-list by the name and the events of the definition (`eventsLeft`).  The pipelines of a
scope are put together from these verdicts in the order of the definitions (`enableWith`), and since no list tells
two definitions of one name apart, the verdicts can be read off the pipelines again (`enableWith_inj`).
-/

namespace PipelineSelection

/-! ### Pipelines from verdicts -/

/-- The pipelines of the definitions for which there are events. -/
def enableWith (verdict : Definition → Option (List String)) (definitions : List Definition) : List EnabledPipeline :=
  definitions.filterMap fun definition => (verdict definition).map definition.enable

/-- A definition without its events. -/
def Definition.outline (definition : Definition) : String × String := (definition.name, definition.subject)

/-- A pipeline without its events. -/
def EnabledPipeline.outline (pipeline : EnabledPipeline) : String × String := (pipeline.name, pipeline.subject)

/-- It depends on the name of a definition whether there are events for it. -/
def ByName (verdict : Definition → Option (List String)) (named : String → Bool) : Prop :=
  ∀ definition, (verdict definition).isSome = named definition.name

section

variable {verdict verdict' : Definition → Option (List String)} {named named' : String → Bool}

theorem mem_enableWith {definitions : List Definition} {pipeline : EnabledPipeline} :
    pipeline ∈ enableWith verdict definitions ↔
      ∃ definition ∈ definitions, ∃ events, verdict definition = some events ∧ definition.enable events = pipeline := by
  simp only [enableWith, List.mem_filterMap, Option.map_eq_some_iff]

/-- The enabled pipelines are the definitions of some names, without regard to events. -/
theorem outlines_enableWith (byName : ByName verdict named) (definitions : List Definition) :
    (enableWith verdict definitions).map (·.outline) =
      (definitions.map (·.outline)).filter fun outline => named outline.1 := by
  induction definitions with
  | nil => rfl
  | cons definition definitions ih =>
    unfold enableWith at ih ⊢
    cases h : verdict definition with
    | none =>
      have skipped : named definition.name = false := by rw [← byName, h, Option.isSome_none]
      simpa [h, Definition.outline, skipped] using ih
    | some events =>
      have kept : named definition.name = true := by rw [← byName, h, Option.isSome_some]
      simpa [h, Definition.outline, kept, Definition.enable, EnabledPipeline.outline] using ih

theorem names_enableWith (byName : ByName verdict named) (definitions : List Definition) :
    (enableWith verdict definitions).map (·.name) = (definitions.map (·.name)).filter named := by
  have names := congrArg (List.map (·.1)) (outlines_enableWith byName definitions)
  rw [List.map_map, List.filter_map, List.map_map] at names
  rw [List.filter_map]
  exact names

private theorem agree_of_filter_eq {α : Type} {p q : α → Bool} {list : List α}
    (same : list.filter p = list.filter q) {a : α} (mem : a ∈ list) : p a = q a := by
  have iff : a ∈ list.filter p ↔ a ∈ list.filter q := by
    rw [same]
  rw [List.mem_filter, List.mem_filter] at iff
  rw [Bool.eq_iff_iff]
  simpa [mem] using iff

private theorem agree_of_filterMap_eq {α β : Type} {f g : α → Option β} {list : List α}
    (presence : ∀ a ∈ list, (f a).isSome = (g a).isSome) (same : list.filterMap f = list.filterMap g) :
    ∀ a ∈ list, f a = g a := by
  induction list with
  | nil => simp
  | cons a list ih =>
    obtain ⟨here, later⟩ := List.forall_mem_cons.1 presence
    rw [List.forall_mem_cons]
    cases hf : f a with
    | none =>
      have hg : g a = none := by simpa [hf] using here.symm
      rw [List.filterMap_cons_none hf, List.filterMap_cons_none hg] at same
      exact ⟨hg.symm, ih later same⟩
    | some b =>
      obtain ⟨c, hg⟩ : ∃ c, g a = some c := Option.isSome_iff_exists.1 (by simpa [hf] using here.symm)
      rw [List.filterMap_cons_some hf, List.filterMap_cons_some hg] at same
      obtain ⟨head, tail⟩ := List.cons_eq_cons.1 same
      exact ⟨by rw [hg, head], ih later tail⟩

private theorem enable_inj {definition : Definition} {events other : Option (List String)}
    (same : events.map definition.enable = other.map definition.enable) : events = other := by
  have back := congrArg (Option.map (·.events)) same
  rw [Option.map_map, Option.map_map] at back
  have events_enable : (fun pipeline : EnabledPipeline => pipeline.events) ∘ definition.enable = id := rfl
  rw [events_enable, Option.map_id] at back
  exact back

/-- The pipelines tell what has been decided for every definition. -/
theorem enableWith_inj (byName : ByName verdict named) (byName' : ByName verdict' named')
    {definitions : List Definition} : enableWith verdict definitions = enableWith verdict' definitions ↔
      ∀ definition ∈ definitions, verdict definition = verdict' definition := by
  constructor
  · intro same definition mem
    have names := congrArg (List.map (·.name)) same
    rw [names_enableWith byName, names_enableWith byName'] at names
    -- the names tell what is enabled, and only then can the events be compared in their places
    have presence : ∀ definition ∈ definitions, ((verdict definition).map definition.enable).isSome =
        ((verdict' definition).map definition.enable).isSome := by
      intro definition mem
      rw [Option.isSome_map, Option.isSome_map, byName, byName']
      exact agree_of_filter_eq names (List.mem_map_of_mem mem)
    exact enable_inj (agree_of_filterMap_eq presence same definition mem)
  · intro same
    refine List.filterMap_congr fun definition mem => ?_
    rw [same definition mem]

end

/-! ### The verdicts of a selection -/

namespace Selection

/-- The events that an allow-list has for a definition, if it names it. -/
def eventsAllowed (selection : Selection) (definition : Definition) : Option (List String) :=
  (selection.entryFor? definition.name).map (·.events)

/-- The events that a deny-list leaves a definition, if it does not name it. -/
def eventsLeft (selection : Selection) (definition : Definition) : Option (List String) :=
  if selection.denies definition.name then none else some definition.events

theorem byName_eventsAllowed (selection : Selection) :
    ByName selection.eventsAllowed fun name => (selection.entryFor? name).isSome :=
  fun _ => Option.isSome_map

theorem byName_eventsLeft (selection : Selection) :
    ByName selection.eventsLeft fun name => !selection.denies name := by
  intro definition
  unfold eventsLeft
  by_cases h : selection.denies definition.name = true <;> simp [h]

theorem contains_denySet (selection : Selection) (name : String) :
    (Std.HashSet.ofList selection.deny).contains name = selection.denies name := by
  rw [Std.HashSet.contains_ofList, denies, Bool.eq_iff_iff]
  simp

theorem allowed_eq_enableWith (selection : Selection) (definitions : List Definition) :
    selection.allowed definitions = enableWith selection.eventsAllowed definitions := by
  refine List.filterMap_congr fun definition _ => ?_
  rw [eventsAllowed, Option.map_map]
  rfl

theorem undenied_eq_enableWith (selection : Selection) (definitions : List Definition) :
    undenied (Std.HashSet.ofList selection.deny) definitions = enableWith selection.eventsLeft definitions := by
  unfold undenied enableWith
  rw [← List.filterMap_eq_map, List.filterMap_filter]
  refine List.filterMap_congr fun definition _ => ?_
  rw [contains_denySet, eventsLeft]
  by_cases h : selection.denies definition.name = true <;> simp [h]

theorem eventsLeft_eq_iff {selection other : Selection} {definition : Definition} :
    selection.eventsLeft definition = other.eventsLeft definition ↔
      (definition.name ∈ selection.deny ↔ definition.name ∈ other.deny) := by
  rw [← denies_iff, ← denies_iff, ← Bool.eq_iff_iff]
  unfold eventsLeft
  cases selection.denies definition.name <;> cases other.denies definition.name <;> simp

theorem denies_ofDeny (names : List String) (name : String) : (ofDeny names).denies name = decide (name ∈ names) := by
  rw [Bool.eq_iff_iff, denies_iff, decide_eq_true_eq]
  rfl

end Selection

/-! ### The pipelines of a registry -/

/-- The pipelines are those that some verdicts give, scope by scope. -/
def Resolution.Enables (resolution : Resolution) (registry : Registry)
    (verdict : Definition → Option (List String)) : Prop :=
  resolution.pipelines = .collect fun scope => enableWith verdict (registry.definitions scope)

section

variable {registry : Registry} {resolution resolution' : Resolution}
  {verdict verdict' : Definition → Option (List String)} {named named' : String → Bool}

theorem Resolution.Enables.pipelinesOf_eq (enables : resolution.Enables registry verdict) (scope : Scope) :
    resolution.pipelinesOf scope = enableWith verdict (registry.definitions scope) :=
  Resolution.pipelinesOf_of_collect enables scope

/-- The names of the pipelines are those names of the registry that get a verdict, in the order of the registry. -/
theorem Resolution.Enables.names_eq (enables : resolution.Enables registry verdict) (byName : ByName verdict named)
    (scope : Scope) :
    (resolution.pipelinesOf scope).map (·.name) = ((registry.definitions scope).map (·.name)).filter named := by
  rw [enables.pipelinesOf_eq, names_enableWith byName]

/-- Two resolutions have the same pipelines when the verdicts on all definitions of the registry are the same. -/
theorem Resolution.Enables.pipelines_eq_iff (enables : resolution.Enables registry verdict)
    (enables' : resolution'.Enables registry verdict') (byName : ByName verdict named)
    (byName' : ByName verdict' named') :
    resolution.pipelines = resolution'.pipelines ↔
      ∀ scope, ∀ definition ∈ registry.definitions scope, verdict definition = verdict' definition := by
  rw [enables, enables', ScopeMap.collect_inj, funext_iff]
  exact forall_congr' fun scope => enableWith_inj byName byName'

/-- A pipeline has name and subject of a definition, whatever the events are. -/
theorem Registry.Built.find?_of_mem_enableWith {registry : Registry} (built : registry.Built) {scope : Scope}
    {verdict : Definition → Option (List String)} {pipeline : EnabledPipeline}
    (mem : pipeline ∈ enableWith verdict (registry.definitions scope)) :
    ∃ definition, registry.find? scope pipeline.name = some definition ∧ verdict definition = some pipeline.events ∧
      pipeline.subject = definition.subject := by
  obtain ⟨definition, here, events, given, rfl⟩ := mem_enableWith.1 mem
  exact ⟨definition, built.find?_eq_some_iff.2 ⟨here, rfl⟩, given, rfl⟩

end

namespace Selection

private theorem exists_enables {selection : Selection} {mode : Mode} {verdict : Definition → Option (List String)}
    (inForce : selection.mode? = .ok mode)
    (enabled : ∀ definitions, selection.enabled mode definitions = enableWith verdict definitions)
    (registry : Registry) :
    ∃ resolution, selection.resolve registry = .ok resolution ∧ resolution.Enables registry verdict := by
  obtain ⟨resolution, ok, _, pipelines⟩ := resolve_of_mode? inForce registry
  simp only [enabled] at pipelines
  exact ⟨resolution, ok, pipelines⟩

/-- Exactly one of the lists holds something. -/
def Valid (selection : Selection) : Prop := selection.allow = [] ↔ selection.deny ≠ []

theorem valid_iff {selection : Selection} : selection.Valid ↔ ∃ mode, selection.mode? = .ok mode := by
  unfold Valid mode?
  cases selection.allow <;> cases selection.deny <;> simp

theorem Valid.cases {selection : Selection} (valid : selection.Valid) :
    (∃ entries, entries ≠ [] ∧ selection = ofAllow entries) ∨ ∃ names, names ≠ [] ∧ selection = ofDeny names := by
  obtain ⟨deny, allow⟩ := selection
  by_cases h : allow = []
  · subst h
    exact .inr ⟨deny, valid.1 rfl, rfl⟩
  · have none : deny = [] := not_not.1 fun given => h (valid.2 given)
    subst none
    exact .inl ⟨allow, h, rfl⟩

/-- Resolving an allow-list succeeds, and the pipelines are those of its verdicts. -/
theorem resolve_ofAllow (registry : Registry) {entries : List AllowEntry} (nonempty : entries ≠ []) :
    ∃ resolution, (ofAllow entries).resolve registry = .ok resolution ∧
      resolution.Enables registry (ofAllow entries).eventsAllowed :=
  exists_enables (mode?_of_allow nonempty rfl) (allowed_eq_enableWith _) registry

/-- Resolving a deny-list succeeds, and the pipelines are those of its verdicts. -/
theorem resolve_ofDeny (registry : Registry) {names : List String} (nonempty : names ≠ []) :
    ∃ resolution, (ofDeny names).resolve registry = .ok resolution ∧
      resolution.Enables registry (ofDeny names).eventsLeft :=
  exists_enables (mode?_of_deny nonempty rfl) (undenied_eq_enableWith _) registry

end Selection

end PipelineSelection
