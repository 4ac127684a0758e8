import PipelineSelection.Proofs.Resolution.Effect
import PipelineSelection.Source

/-!
# Where the events of definitions go

The outline of a definition is its name and subject.  Which pipelines there are depends on the outlines alone
(`outlines_enableWith`); the events of definitions are passed on by a deny-list and never by an allow-list
(`allowed_eq_of_outlines`).  So two registries with the same outlines give the same for every allow-list, and the
same but for the events of pipelines for every deny-list, and what is logged does not tell them apart.  The main
result is `events_noninterference`; it covers the registries that come from settings.
-/

namespace PipelineSelection

/-! ### The same but for events -/

/-- Registries with the same names and subjects in the same places of every scope. -/
def Registry.SameButEvents (registry other : Registry) : Prop :=
  ∀ scope, (registry.definitions scope).map (·.outline) = (other.definitions scope).map (·.outline)

/-- Resolutions with the same lists, the same keys, and the same names and subjects in the same places. -/
structure Resolution.SameButEvents (resolution other : Resolution) : Prop where
  denyList_eq : resolution.denyList = other.denyList
  allowList_eq : resolution.allowList = other.allowList
  key_iff : ∀ scope, scope ∈ resolution.pipelines.keys ↔ scope ∈ other.pipelines.keys
  outlines_eq : ∀ scope, (resolution.pipelinesOf scope).map (·.outline) = (other.pipelinesOf scope).map (·.outline)

/-- Failures are the same, and so are resolutions but for the events of their pipelines. -/
inductive SameOutcome : Except Failure Resolution → Except Failure Resolution → Prop where
  | failed (failure : Failure) : SameOutcome (.error failure) (.error failure)
  | resolved {resolution other : Resolution} : resolution.SameButEvents other →
    SameOutcome (.ok resolution) (.ok other)

/-- The pipelines are the definitions that are not denied, each with the events of its own. -/
def Resolution.HasEventsOf (resolution : Resolution) (registry : Registry) (denied : List String) : Prop :=
  ∀ scope, resolution.pipelinesOf scope =
    ((registry.definitions scope).filter (·.name ∉ denied)).map fun definition => definition.enable definition.events

namespace Registry

variable {registry other : Registry}

theorem SameButEvents.contains_eq (same : registry.SameButEvents other) (name : String) :
    registry.contains name = other.contains name := by
  have named : ∀ definitions : List Definition, (∃ definition ∈ definitions, definition.name = name) ↔
      ∃ outline ∈ definitions.map (·.outline), outline.1 = name := by
    intro definitions
    simp only [List.mem_map, exists_exists_and_eq_and, Definition.outline]
  rw [Bool.eq_iff_iff, contains_iff, contains_iff]
  simp only [named, same _]

theorem sameButEvents_builtinWithEvents (events events' : List String) :
    (builtinWithEvents events).SameButEvents (builtinWithEvents events') := by
  have outlines : ∀ events scope, ((builtinWithEvents events).definitions scope).map (·.outline) =
      (Builtin.definitions.filter (·.1 = scope)).map (·.2.outline) := by
    intro events scope
    rw [builtinWithEvents, definitions_ofTrusted, List.filter_map, List.map_map, List.map_map]
    rfl
  intro scope
  rw [outlines, outlines]

end Registry

namespace Selection

variable {registry other : Registry}

/-! ### What a selection makes of the same outlines -/

/-- An allow-list looks at names and subjects only. -/
theorem allowed_eq_of_outlines (selection : Selection) {definitions others : List Definition}
    (same : definitions.map (·.outline) = others.map (·.outline)) :
    selection.allowed definitions = selection.allowed others := by
  have byOutline : ∀ definitions, selection.allowed definitions = (definitions.map (·.outline)).filterMap
      fun (name, subject) => (selection.entryFor? name).map fun entry => { name, subject, events := entry.events } := by
    intro definitions
    rw [List.filterMap_map]
    rfl
  rw [byOutline, byOutline, same]

private theorem resolve_ofAllow_eq (same : registry.SameButEvents other) {entries : List AllowEntry}
    (nonempty : entries ≠ []) : (ofAllow entries).resolve registry = (ofAllow entries).resolve other := by
  have inForce : (ofAllow entries).mode? = .ok (.allow entries) := mode?_of_allow nonempty rfl
  have lists : ∀ scope, (ofAllow entries).allowed (registry.definitions scope) =
      (ofAllow entries).allowed (other.definitions scope) :=
    fun scope => allowed_eq_of_outlines _ (same scope)
  rw [resolve_eq_of_mode? inForce, resolve_eq_of_mode? inForce]
  simp only [enabled, lists]

theorem hasEventsOf_of_enables {resolution : Resolution} {names : List String}
    (enables : resolution.Enables registry (ofDeny names).eventsLeft) : resolution.HasEventsOf registry names := by
  intro scope
  rw [enables.pipelinesOf_eq, ← undenied_eq_enableWith, undenied]
  simp only [contains_denySet, denies_ofDeny, decide_not]

private theorem sameButEvents_of_enables {resolution resolution' : Resolution}
    {verdict verdict' : Definition → Option (List String)} {named : String → Bool}
    (same : registry.SameButEvents other) (enables : resolution.Enables registry verdict)
    (enables' : resolution'.Enables other verdict') (byName : ByName verdict named) (byName' : ByName verdict' named)
    (kept : resolution.selection = resolution'.selection) : resolution.SameButEvents resolution' := by
  have outlines : ∀ scope,
      (resolution.pipelinesOf scope).map (·.outline) = (resolution'.pipelinesOf scope).map (·.outline) := by
    intro scope
    rw [enables.pipelinesOf_eq, enables'.pipelinesOf_eq, outlines_enableWith byName, outlines_enableWith byName', same]
  refine ⟨congrArg deny kept, congrArg allow kept, fun scope => ?_, outlines⟩
  -- a scope is a key when it has a pipeline, and the outlines tell whether it has one
  rw [Resolution.mem_keys_of_collect enables, Resolution.mem_keys_of_collect enables', ne_eq, ne_eq,
    ← List.map_eq_nil_iff (f := (·.outline)), outlines, List.map_eq_nil_iff]

private theorem resolve_ofDeny_sameButEvents (same : registry.SameButEvents other) {names : List String}
    (nonempty : names ≠ []) :
    ∃ resolution resolution', (ofDeny names).resolve registry = .ok resolution ∧
      (ofDeny names).resolve other = .ok resolution' ∧ resolution.SameButEvents resolution' ∧
      resolution.HasEventsOf registry names ∧ resolution'.HasEventsOf other names := by
  obtain ⟨resolution, ok, enables⟩ := resolve_ofDeny registry nonempty
  obtain ⟨resolution', ok', enables'⟩ := resolve_ofDeny other nonempty
  have kept : resolution.selection = resolution'.selection := by
    rw [selection_of_resolve ok, selection_of_resolve ok']
  exact ⟨resolution, resolution', ok, ok', sameButEvents_of_enables same enables enables' (byName_eventsLeft _)
    (byName_eventsLeft _) kept, hasEventsOf_of_enables enables, hasEventsOf_of_enables enables'⟩

/-- Every selection with a list in force resolves to the same but for events. -/
theorem resolve_sameButEvents (same : registry.SameButEvents other) {selection : Selection} (valid : selection.Valid) :
    ∃ resolution resolution', selection.resolve registry = .ok resolution ∧
      selection.resolve other = .ok resolution' ∧ resolution.SameButEvents resolution' := by
  rcases valid.cases with ⟨entries, nonempty, rfl⟩ | ⟨names, nonempty, rfl⟩
  · obtain ⟨resolution, ok, _⟩ := resolve_ofAllow registry nonempty
    have ok' : (ofAllow entries).resolve other = .ok resolution := by
      rw [← resolve_ofAllow_eq same nonempty, ok]
    exact ⟨resolution, resolution, ok, ok', rfl, rfl, fun _ => Iff.rfl, fun _ => rfl⟩
  · obtain ⟨resolution, resolution', ok, ok', alike, _⟩ := resolve_ofDeny_sameButEvents same nonempty
    exact ⟨resolution, resolution', ok, ok', alike⟩

private theorem resolveLogged_events_eq (same : registry.SameButEvents other) {selection : Selection} {mode : Mode}
    {resolution resolution' : Resolution} (inForce : selection.mode? = .ok mode)
    (ok : selection.resolve registry = .ok resolution) (ok' : selection.resolve other = .ok resolution')
    (alike : resolution.SameButEvents resolution') :
    (selection.resolveLogged registry).events = (selection.resolveLogged other).events := by
  have told : modeEvents registry mode = modeEvents other mode := by
    cases mode with
    | allow entries => simp only [modeEvents, same.contains_eq]
    | deny names => rfl
  have lengths : ∀ scope, (resolution.pipelinesOf scope).length = (resolution'.pipelinesOf scope).length := by
    intro scope
    rw [← List.length_map (f := (·.outline)), alike.outlines_eq, List.length_map]
  rw [resolveLogged_of_mode? inForce ok, resolveLogged_of_mode? inForce ok', told, lengths, lengths]

end Selection

/-! ### Loading -/

namespace Source

open Selection

variable {registry other : Registry}

/-- Loading comes out the same but for events, and the record of it is the same. -/
theorem load_sameOutcome (same : registry.SameButEvents other) (source : Source) :
    SameOutcome (source.load registry).value (source.load other).value ∧
      (source.load registry).events = (source.load other).events := by
  cases fetched : source.fetch with
  | error failure =>
    rw [load_of_failure fetched, load_of_failure fetched]
    exact ⟨.failed failure, rfl⟩
  | ok selection =>
    rw [load_of_fetch fetched, load_of_fetch fetched]
    cases inForce : selection.mode? with
    | error error =>
      rw [← resolveLogged_value, ← resolveLogged_value, resolveLogged_of_error inForce,
        resolveLogged_of_error inForce]
      exact ⟨.failed _, rfl⟩
    | ok mode =>
      obtain ⟨resolution, resolution', ok, ok', alike⟩ := resolve_sameButEvents same (valid_iff.2 ⟨mode, inForce⟩)
      rw [ok, ok']
      exact ⟨.resolved alike, resolveLogged_events_eq same inForce ok ok' alike⟩

private theorem load_ofAllow_eq (same : registry.SameButEvents other) {source : Source} {entries : List AllowEntry}
    (fetched : source.fetch = .ok (ofAllow entries)) (nonempty : entries ≠ []) :
    (∃ resolution, (source.load registry).value = .ok resolution) ∧ source.load other = source.load registry := by
  obtain ⟨resolution, ok, _⟩ := resolve_ofAllow registry nonempty
  have recorded : (source.load registry).events = (source.load other).events := (load_sameOutcome same source).2
  rw [load_of_fetch fetched, load_of_fetch fetched] at recorded ⊢
  refine ⟨⟨resolution, by rw [ok]; rfl⟩, ?_⟩
  rw [← resolve_ofAllow_eq same nonempty, ← recorded]

private theorem load_ofDeny_events (settings : Settings) {names : List String}
    (fetched : settings.selection = ofDeny names) (nonempty : names ≠ []) :
    ∃ resolution, ((ofSettings settings).load settings.registry).value = .ok resolution ∧
      ∀ scope, ∀ pipeline ∈ resolution.pipelinesOf scope, pipeline.events = settings.events.events := by
  obtain ⟨resolution, ok, enables⟩ := resolve_ofDeny settings.registry nonempty
  refine ⟨resolution, ?_, fun scope pipeline mem => ?_⟩
  · have given : (ofSettings settings).fetch = .ok (ofDeny names) := congrArg Except.ok fetched
    rw [load_of_fetch given, ok]
    rfl
  · rw [hasEventsOf_of_enables enables scope, List.mem_map] at mem
    obtain ⟨definition, left, rfl⟩ := mem
    exact Registry.events_of_mem_builtinWithEvents (List.mem_filter.1 left).1

end Source

/-- How little selections tell of the events in which two registries differ. -/
structure Registry.AlikeButEvents (registry other : Registry) : Prop where
  /-- An allow-list tells nothing of them. -/
  allowList : ∀ entries : List AllowEntry, entries ≠ [] → ∃ resolution,
    (Selection.ofAllow entries).resolve registry = .ok resolution ∧
    (Selection.ofAllow entries).resolve other = .ok resolution
  /-- A deny-list tells them by the events of pipelines and by nothing else. -/
  denyList : ∀ names : List String, names ≠ [] → ∃ resolution resolution',
    (Selection.ofDeny names).resolve registry = .ok resolution ∧
    (Selection.ofDeny names).resolve other = .ok resolution' ∧ resolution.SameButEvents resolution' ∧
    resolution.HasEventsOf registry names ∧ resolution'.HasEventsOf other names
  load : ∀ source : Source, SameOutcome (source.load registry).value (source.load other).value ∧
    (source.load registry).events = (source.load other).events

/-- Where the events of registries and of settings go. -/
structure EventsNoninterference : Prop where
  registries : ∀ registry other : Registry, registry.SameButEvents other → registry.AlikeButEvents other
  builtinWithEvents : ∀ events events', (Registry.builtinWithEvents events).SameButEvents (.builtinWithEvents events')
  /-- All pipelines that a deny-list in settings enables have the events of the settings. -/
  settings_deny : ∀ settings : Settings, settings.selection.deny ≠ [] → settings.selection.allow = [] →
    ∃ resolution, ((Source.ofSettings settings).load settings.registry).value = .ok resolution ∧
      ∀ scope, ∀ pipeline ∈ resolution.pipelinesOf scope, pipeline.events = settings.events.events
  /-- The events of settings do not matter to an allow-list in them. -/
  settings_allow : ∀ (settings : Settings) (events : EventDefaults), settings.selection.allow ≠ [] →
    settings.selection.deny = [] →
    let changed := { settings with events }
    (∃ resolution, ((Source.ofSettings settings).load settings.registry).value = .ok resolution) ∧
      (Source.ofSettings changed).load changed.registry = (Source.ofSettings settings).load settings.registry
  /-- Nor do they matter to the local default selection. -/
  localDefault : ∀ (settings : Settings) (events : EventDefaults),
    let changed := { settings with events }
    (∃ resolution, (Source.localDefault.load settings.registry).value = .ok resolution) ∧
      Source.localDefault.load changed.registry = Source.localDefault.load settings.registry

theorem Registry.SameButEvents.alikeButEvents {registry other : Registry} (same : registry.SameButEvents other) :
    registry.AlikeButEvents other where
  allowList entries nonempty := by
    obtain ⟨resolution, ok, _⟩ := Selection.resolve_ofAllow registry nonempty
    exact ⟨resolution, ok, by rw [← Selection.resolve_ofAllow_eq same nonempty, ok]⟩
  denyList _ := Selection.resolve_ofDeny_sameButEvents same
  load := Source.load_sameOutcome same

/-- Registries that differ in the events of their definitions cannot be told apart by an allow-list, and by a
deny-list only by the events of the pipelines, which are those of the definitions.  So the events of settings are
those of every pipeline that a deny-list enables, and do not matter to an allow-list. -/
theorem events_noninterference : EventsNoninterference where
  registries _ _ := Registry.SameButEvents.alikeButEvents
  builtinWithEvents := Registry.sameButEvents_builtinWithEvents
  settings_deny := by
    intro settings deny allow
    have fetched : settings.selection = .ofDeny settings.selection.deny :=
      congrArg (Selection.mk settings.selection.deny) allow
    exact Source.load_ofDeny_events settings fetched deny
  settings_allow := by
    intro settings events allow deny changed
    have fetched : (Source.ofSettings settings).fetch = .ok (.ofAllow settings.selection.allow) :=
      congrArg (fun names => Except.ok (Selection.mk names settings.selection.allow)) deny
    exact Source.load_ofAllow_eq (Registry.sameButEvents_builtinWithEvents _ _) fetched allow
  localDefault := by
    intro settings events changed
    have fetched : Source.localDefault.fetch = .ok (.ofAllow Source.localDefaultSelection.allow) := rfl
    have nonempty : Source.localDefaultSelection.allow ≠ [] := List.cons_ne_nil _ _
    exact Source.load_ofAllow_eq (Registry.sameButEvents_builtinWithEvents _ _) fetched nonempty

/-- Two registries with no events in common, and settings with a deny-list and events of their own. -/
theorem events_noninterference_sample :
    let quiet : Registry := .ofTrusted [(.cluster, (Definition.new "nodes").withEvents []),
      (.namespaced, (Definition.new "pods").withEvents ["\"", ""]), (.cluster, (Definition.new "pods").withEvents []),
      (.namespaced, (Definition.new "jobs").withEvents ["", ""])]
    let settings : Settings := { Settings.default with events := ⟨["GONE", "GONE"]⟩, selection := .ofDeny ["pods.v1."] }
    Registry.sample.SameButEvents quiet ∧
      (∃ resolution, (Selection.ofAllow [⟨"pods", ["GONE"]⟩]).resolve .sample = .ok resolution ∧
        (Selection.ofAllow [⟨"pods", ["GONE"]⟩]).resolve quiet = .ok resolution) ∧
      (∃ resolution resolution', (Selection.ofDeny ["nodes"]).resolve .sample = .ok resolution ∧
        (Selection.ofDeny ["nodes"]).resolve quiet = .ok resolution' ∧ resolution.SameButEvents resolution' ∧
        resolution.HasEventsOf .sample ["nodes"] ∧ resolution'.HasEventsOf quiet ["nodes"]) ∧
      ∃ resolution, ((Source.ofSettings settings).load settings.registry).value = .ok resolution ∧
        ∀ scope, ∀ pipeline ∈ resolution.pipelinesOf scope, pipeline.events = ["GONE", "GONE"] := by
  intro quiet settings
  have same : Registry.sample.SameButEvents quiet := by
    intro scope
    cases scope <;> decide
  have alike := events_noninterference.registries .sample quiet same
  have denies : settings.selection.deny ≠ [] := List.cons_ne_nil _ _
  exact ⟨same, alike.allowList _ (List.cons_ne_nil _ _), alike.denyList _ (List.cons_ne_nil _ _),
    events_noninterference.settings_deny settings denies rfl⟩

end PipelineSelection
