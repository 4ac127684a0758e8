import Mathlib.Data.Fintype.EquivFin
import PipelineSelection.Proofs.Resolution.Effect

/-!
# What one kind of list can say for the other

An allow-list has one answer for a name, whatever the scope, and a deny-list has no events of its own.  Where neither
matters, the lists can stand for each other: the allow-list of what a deny-list leaves (`allowing`), and the deny-list
of what an allow-list does not name (`denying`).  Each of them also has a name that no scope defines, because a list
must not be empty even where it has nothing to say.  The main result is `resolve_expressible`.
-/

namespace PipelineSelection

namespace Registry

theorem exists_unknown (registry : Registry) : ∃ name, registry.contains name = false := by
  obtain ⟨name, fresh⟩ := Infinite.exists_notMem_finset (registry.toList.map (·.2.name)).toFinset
  refine ⟨name, ?_⟩
  rw [Bool.eq_false_iff]
  intro known
  apply fresh
  obtain ⟨scope, definition, mem, rfl⟩ := contains_iff.1 known
  rw [List.mem_toFinset, List.mem_map]
  exact ⟨(scope, definition), mem_toList.2 mem, rfl⟩

theorem name_ne_of_unknown {registry : Registry} {name : String} (unknown : registry.contains name = false)
    {scope : Scope} {definition : Definition} (mem : definition ∈ registry.definitions scope) :
    definition.name ≠ name := by
  rintro rfl
  have known : registry.contains definition.name = true := contains_iff.2 ⟨scope, definition, mem, rfl⟩
  rw [unknown] at known
  cases known

/-- Definitions of one name have the same events, those of denied names aside. -/
def AgreesUnless (registry : Registry) (denied : List String) : Prop :=
  ∀ scope scope', ∀ definition ∈ registry.definitions scope, ∀ definition' ∈ registry.definitions scope',
    definition.name = definition'.name → definition.name ∉ denied → definition.events = definition'.events

/-- Two definitions of one name are of different scopes. -/
theorem Built.eq_of_name_eq {registry : Registry} (built : registry.Built) {scope : Scope}
    {definition definition' : Definition} (mem : definition ∈ registry.definitions scope)
    (mem' : definition' ∈ registry.definitions scope) (same : definition.name = definition'.name) :
    definition = definition' :=
  List.inj_on_of_nodup_map (built.nodup_names scope) mem mem' same

end Registry

namespace Selection

/-! ### From a deny-list to an allow-list -/

/-- An entry for every definition that a deny-list leaves, with the events of the definition. -/
def allowing (registry : Registry) (denied : List String) (unknown : String) : List AllowEntry :=
  { resource := unknown, events := [] } ::
    (registry.toList.filter fun (_, definition) => !(ofDeny denied).denies definition.name).map
      fun (_, definition) => { resource := definition.name, events := definition.events }

private theorem mem_allowing {registry : Registry} {denied : List String} {unknown : String} {entry : AllowEntry} :
    entry ∈ allowing registry denied unknown ↔ entry = { resource := unknown, events := [] } ∨
      ∃ scope, ∃ definition ∈ registry.definitions scope, definition.name ∉ denied ∧
        entry = { resource := definition.name, events := definition.events } := by
  have notDenied : ∀ name, (!(ofDeny denied).denies name) = true ↔ name ∉ denied := by
    intro name
    rw [Bool.not_eq_true', Bool.eq_false_iff, ne_eq, denies_iff]
    rfl
  simp only [allowing, List.mem_cons, List.mem_map, List.mem_filter, notDenied, Prod.exists, Registry.mem_toList,
    and_assoc, eq_comm]

private theorem eventsAllowed_eq_none_iff {selection : Selection} {definition : Definition} :
    selection.eventsAllowed definition = none ↔ ∀ entry ∈ selection.allow, entry.resource ≠ definition.name := by
  simp [eventsAllowed, entryFor?]

private theorem exists_entry_of_eventsAllowed {selection : Selection} {definition : Definition} {events : List String}
    (given : selection.eventsAllowed definition = some events) :
    ∃ entry ∈ selection.allow, entry.resource = definition.name ∧ entry.events = events := by
  obtain ⟨entry, found, rfl⟩ := Option.map_eq_some_iff.1 given
  exact ⟨entry, List.mem_of_find?_eq_some found, by simpa using List.find?_some found, rfl⟩

/-- Where definitions of one name agree, the entries have the events that the deny-list leaves. -/
private theorem eventsAllowed_allowing {registry : Registry} {denied : List String} {unknown : String}
    (agrees : registry.AgreesUnless denied) (fresh : registry.contains unknown = false) {scope : Scope}
    {definition : Definition} (mem : definition ∈ registry.definitions scope) :
    (ofAllow (allowing registry denied unknown)).eventsAllowed definition = (ofDeny denied).eventsLeft definition := by
  have ne : definition.name ≠ unknown := Registry.name_ne_of_unknown fresh mem
  unfold eventsLeft
  by_cases left : definition.name ∈ denied
  · rw [if_pos (denies_iff.2 left), eventsAllowed_eq_none_iff]
    intro entry listed same
    rcases mem_allowing.1 listed with rfl | ⟨scope', definition', _, left', rfl⟩
    · exact ne same.symm
    · rw [← same] at left
      exact left' left
  · rw [if_neg fun h => left (denies_iff.1 h)]
    cases given : (ofAllow (allowing registry denied unknown)).eventsAllowed definition with
    | none =>
      have listed : { resource := definition.name, events := definition.events } ∈ allowing registry denied unknown :=
        mem_allowing.2 (.inr ⟨scope, definition, mem, left, rfl⟩)
      exact absurd rfl (eventsAllowed_eq_none_iff.1 given _ listed)
    | some events =>
      obtain ⟨entry, listed, same, rfl⟩ := exists_entry_of_eventsAllowed given
      rcases mem_allowing.1 listed with rfl | ⟨scope', definition', mem', left', rfl⟩
      · exact absurd same.symm ne
      · exact congrArg some (agrees scope' scope definition' mem' definition mem same left')

/-! ### From an allow-list to a deny-list -/

/-- The names of the registry that an allow-list has no entry for. -/
def denying (registry : Registry) (entries : List AllowEntry) (unknown : String) : List String :=
  unknown :: (registry.toList.filter fun (_, definition) => ((ofAllow entries).eventsAllowed definition).isNone).map
    fun (_, definition) => definition.name

private theorem mem_denying {registry : Registry} {entries : List AllowEntry} {unknown name : String} :
    name ∈ denying registry entries unknown ↔ name = unknown ∨
      ∃ scope, ∃ definition ∈ registry.definitions scope, (ofAllow entries).eventsAllowed definition = none ∧
        definition.name = name := by
  simp only [denying, List.mem_cons, List.mem_map, List.mem_filter, Option.isNone_iff_eq_none, Prod.exists,
    Registry.mem_toList, and_assoc]

/-- Where an entry has the events of the definition, the deny-list leaves the events that it has. -/
private theorem eventsLeft_denying {registry : Registry} {entries : List AllowEntry} {unknown : String}
    (fresh : registry.contains unknown = false) {scope : Scope} {definition : Definition}
    (mem : definition ∈ registry.definitions scope)
    (own : ∀ events, (ofAllow entries).eventsAllowed definition = some events → events = definition.events) :
    (ofDeny (denying registry entries unknown)).eventsLeft definition = (ofAllow entries).eventsAllowed definition := by
  unfold eventsLeft
  cases given : (ofAllow entries).eventsAllowed definition with
  | none =>
    have listed : definition.name ∈ denying registry entries unknown :=
      mem_denying.2 (.inr ⟨scope, definition, mem, given, rfl⟩)
    exact if_pos (denies_iff.2 listed)
  | some events =>
    have unlisted : definition.name ∉ denying registry entries unknown := by
      intro listed
      rcases mem_denying.1 listed with same | ⟨scope', definition', _, missing, same⟩
      · exact Registry.name_ne_of_unknown fresh mem same
      · -- the entry is looked for by name alone, so it is missing for one definition as for the other
        unfold eventsAllowed at given missing
        rw [same, given] at missing
        cases missing
    rw [if_neg fun h => unlisted (denies_iff.1 h), own events given]

/-! ### The characterization -/

/-- Resolving a selection succeeds with these pipelines. -/
def Gives (selection : Selection) (registry : Registry) (pipelines : ScopeMap (List EnabledPipeline)) : Prop :=
  ∃ resolution, selection.resolve registry = .ok resolution ∧ resolution.pipelines = pipelines

section

variable {registry : Registry} {resolution : Resolution} {verdict : Definition → Option (List String)}
  {named : String → Bool}

private theorem gives_ofAllow_iff (enables : resolution.Enables registry verdict) (byName : ByName verdict named)
    {entries : List AllowEntry} (nonempty : entries ≠ []) :
    (ofAllow entries).Gives registry resolution.pipelines ↔ ∀ scope, ∀ definition ∈ registry.definitions scope,
      (ofAllow entries).eventsAllowed definition = verdict definition := by
  obtain ⟨other, ok, enables'⟩ := resolve_ofAllow registry nonempty
  rw [← enables'.pipelines_eq_iff enables (byName_eventsAllowed _) byName]
  simp [Gives, ok]

private theorem gives_ofDeny_iff (enables : resolution.Enables registry verdict) (byName : ByName verdict named)
    {names : List String} (nonempty : names ≠ []) :
    (ofDeny names).Gives registry resolution.pipelines ↔ ∀ scope, ∀ definition ∈ registry.definitions scope,
      (ofDeny names).eventsLeft definition = verdict definition := by
  obtain ⟨other, ok, enables'⟩ := resolve_ofDeny registry nonempty
  rw [← enables'.pipelines_eq_iff enables (byName_eventsLeft _) byName]
  simp [Gives, ok]

end

private theorem allow_expresses_deny_iff (registry : Registry) {names : List String} (nonempty : names ≠ []) :
    ∃ resolution, (ofDeny names).resolve registry = .ok resolution ∧
      ((∃ entries, entries ≠ [] ∧ (ofAllow entries).Gives registry resolution.pipelines) ↔
        registry.AgreesUnless names) := by
  obtain ⟨resolution, ok, enables⟩ := resolve_ofDeny registry nonempty
  refine ⟨resolution, ok, ?_, ?_⟩
  · rintro ⟨entries, nonempty', gives⟩ scope scope' definition mem definition' mem' same left
    rw [gives_ofAllow_iff enables (byName_eventsLeft _) nonempty'] at gives
    have here := gives scope definition mem
    have there := gives scope' definition' mem'
    -- both definitions are left with events of their own, and the entries have one answer for the two
    unfold eventsLeft at here there
    rw [if_neg fun h => left (denies_iff.1 h)] at here
    rw [← same, if_neg fun h => left (denies_iff.1 h)] at there
    unfold eventsAllowed at here there
    rw [← same, here] at there
    exact Option.some.inj there
  · intro agrees
    obtain ⟨unknown, fresh⟩ := registry.exists_unknown
    have nonempty' : allowing registry names unknown ≠ [] := List.cons_ne_nil _ _
    refine ⟨allowing registry names unknown, nonempty', ?_⟩
    rw [gives_ofAllow_iff enables (byName_eventsLeft _) nonempty']
    intro scope definition mem
    exact eventsAllowed_allowing agrees fresh mem

private theorem deny_expresses_allow_iff {registry : Registry} (built : registry.Built) {entries : List AllowEntry}
    (nonempty : entries ≠ []) :
    ∃ resolution, (ofAllow entries).resolve registry = .ok resolution ∧
      ((∃ names, names ≠ [] ∧ (ofDeny names).Gives registry resolution.pipelines) ↔
        ∀ scope, ∀ pipeline ∈ resolution.pipelinesOf scope, ∃ definition,
          registry.find? scope pipeline.name = some definition ∧ pipeline.events = definition.events) := by
  obtain ⟨resolution, ok, enables⟩ := resolve_ofAllow registry nonempty
  refine ⟨resolution, ok, ?_, ?_⟩
  · rintro ⟨names, nonempty', gives⟩ scope pipeline mem
    rw [gives_ofDeny_iff enables (byName_eventsAllowed _) nonempty'] at gives
    rw [enables.pipelinesOf_eq] at mem
    obtain ⟨definition, found, given, _⟩ := built.find?_of_mem_enableWith mem
    refine ⟨definition, found, ?_⟩
    have left := gives scope definition (built.find?_eq_some_iff.1 found).1
    rw [given] at left
    unfold eventsLeft at left
    split at left
    · cases left
    · exact (Option.some.inj left).symm
  · intro own
    obtain ⟨unknown, fresh⟩ := registry.exists_unknown
    have nonempty' : denying registry entries unknown ≠ [] := List.cons_ne_nil _ _
    refine ⟨denying registry entries unknown, nonempty', ?_⟩
    rw [gives_ofDeny_iff enables (byName_eventsAllowed _) nonempty']
    intro scope definition mem
    apply eventsLeft_denying fresh mem
    intro events given
    have enabled : definition.enable events ∈ resolution.pipelinesOf scope := by
      rw [enables.pipelinesOf_eq, mem_enableWith]
      exact ⟨definition, mem, events, given, rfl⟩
    obtain ⟨definition', found, same⟩ := own scope _ enabled
    have itself : registry.find? scope definition.name = some definition := built.find?_eq_some_iff.2 ⟨mem, rfl⟩
    cases itself.symm.trans found
    exact same

/-- An allow-list can say what a deny-list says exactly when definitions of one name agree on their events, and the
other way round exactly when all that is enabled has the events of its definition.  The built-in pipelines with events
of one's own always agree. -/
theorem resolve_expressible :
    (∀ registry : Registry, registry.Built →
      (∀ names : List String, names ≠ [] → ∃ resolution, (ofDeny names).resolve registry = .ok resolution ∧
        ((∃ entries, entries ≠ [] ∧ (ofAllow entries).Gives registry resolution.pipelines) ↔
          registry.AgreesUnless names)) ∧
      (∀ entries : List AllowEntry, entries ≠ [] → ∃ resolution,
        (ofAllow entries).resolve registry = .ok resolution ∧
        ((∃ names, names ≠ [] ∧ (ofDeny names).Gives registry resolution.pipelines) ↔
          ∀ scope, ∀ pipeline ∈ resolution.pipelinesOf scope, ∃ definition,
            registry.find? scope pipeline.name = some definition ∧ pipeline.events = definition.events)) ∧
      ∀ scope, ∀ definition ∈ registry.definitions scope, ∀ definition' ∈ registry.definitions scope,
        definition.name = definition'.name → definition = definition') ∧
    ∀ events names, (Registry.builtinWithEvents events).AgreesUnless names := by
  constructor
  · intro registry built
    refine ⟨fun names => allow_expresses_deny_iff registry, fun entries => deny_expresses_allow_iff built, ?_⟩
    intro scope definition mem definition' mem' same
    exact built.eq_of_name_eq mem mem' same
  · intro events names scope scope' definition mem definition' mem' _ _
    rw [Registry.events_of_mem_builtinWithEvents mem, Registry.events_of_mem_builtinWithEvents mem']

/-- Two scopes that share a name with different events: without the name a deny-list can be put as an allow-list, even
where nothing is left, and with it not; an allow-list cannot be put as a deny-list when it changes the events. -/
theorem resolve_expressible_sample :
    Registry.sample.Built ∧
    (∃ resolution, (ofDeny ["pods", "nodes", "jobs"]).resolve .sample = .ok resolution ∧
      ∃ entries, entries ≠ [] ∧ (ofAllow entries).Gives .sample resolution.pipelines) ∧
    (∃ resolution, (ofDeny ["nodes"]).resolve .sample = .ok resolution ∧
      ¬∃ entries, entries ≠ [] ∧ (ofAllow entries).Gives .sample resolution.pipelines) ∧
    ∃ resolution, (ofAllow [⟨"pods", ["ADDED"]⟩]).resolve .sample = .ok resolution ∧
      ¬∃ names, names ≠ [] ∧ (ofDeny names).Gives .sample resolution.pipelines := by
  obtain ⟨toAllow, toDeny, _⟩ := resolve_expressible.1 .sample Registry.built_sample
  refine ⟨Registry.built_sample, ?_, ?_, ?_⟩
  · obtain ⟨resolution, ok, expressed⟩ := toAllow ["pods", "nodes", "jobs"] (by simp)
    refine ⟨resolution, ok, expressed.2 ?_⟩
    have all : ∀ scope, ∀ definition ∈ Registry.sample.definitions scope,
        definition.name ∈ ["pods", "nodes", "jobs"] := by
      intro scope
      cases scope <;> decide
    intro scope _ definition mem _ _ _ left
    exact absurd (all scope definition mem) left
  · obtain ⟨resolution, ok, expressed⟩ := toAllow ["nodes"] (by simp)
    refine ⟨resolution, ok, fun h => ?_⟩
    have agree := expressed.1 h .cluster .namespaced ((Definition.new "pods").withEvents ["ADDED"]) (by decide)
      (.new "pods") (by decide) rfl (by decide)
    exact absurd agree (by decide)
  · obtain ⟨resolution, ok, expressed⟩ := toDeny [⟨"pods", ["ADDED"]⟩] (by simp)
    refine ⟨resolution, ok, fun h => ?_⟩
    have found : resolution.pipelinesOf .namespaced = [(Definition.new "pods").enable ["ADDED"]] := by
      cases ok
      rfl
    obtain ⟨definition, here, same⟩ := expressed.1 h .namespaced _ (found ▸ List.mem_singleton_self _)
    cases here
    exact absurd same (by decide)

end Selection

end PipelineSelection
