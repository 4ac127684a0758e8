import PipelineSelection.Proofs.Resolution.Effect
import PipelineSelection.Source

/-!
# What the log tells about a load

A load that fails leaves nothing in the log of resolving.  One that succeeds leaves the list in force, the entries
without effect, and how many pipelines there are.  Whether an entry has an effect is looked up in the registry before
anything is resolved; it has one exactly when a pipeline of its name is there in the end (`contains_eq_hasName`).  The
main result is `load_trace`.
-/

namespace PipelineSelection

/-! ### Log entries -/

/-- What a log keeps of an event. -/
structure LogEntry where
  origin : String
  level : Level
  message : String
  fields : List (String × FieldValue)
deriving DecidableEq

def Event.logged (event : Event) : LogEntry where
  origin := event.origin
  level := event.level
  message := event.message
  fields := event.fields

namespace LogEntry

/-- An entry that resolving makes. -/
def resolving (level : Level) (message : String) (fields : List (String × FieldValue)) : LogEntry where
  origin := "watch_core::config::resolver"
  level := level
  message := message
  fields := fields

/-- The list in force and its length. -/
def listInForce (message : String) (length : Nat) : LogEntry :=
  resolving .debug message [("entries", .count length)]

/-- An entry of an allow-list that nothing comes of. -/
def ignored (entry : AllowEntry) : LogEntry :=
  resolving .debug "Ignoring unknown allow-list entry" [("resource", .display entry.resource)]

/-- How many pipelines there are in each scope. -/
def summary (cluster namespaced : Nat) : LogEntry :=
  resolving .info "Resolved pipeline configuration" [("global", .count cluster), ("local", .count namespaced)]

end LogEntry

/-! ### Entries without effect -/

/-- Whether a pipeline of a name is enabled in any scope. -/
def Resolution.hasName (resolution : Resolution) (name : String) : Bool :=
  resolution.toList.any fun (_, pipeline) => pipeline.name == name

theorem Resolution.hasName_iff {resolution : Resolution} {name : String} :
    resolution.hasName name = true ↔ ∃ scope, name ∈ (resolution.pipelinesOf scope).map (·.name) := by
  simp [hasName, toList, pipelinesOf, List.any_eq_true, Prod.exists, ScopeMap.mem_flatten]

namespace Selection

variable {registry : Registry} {resolution : Resolution}

/-- The resource of an entry is defined exactly when a pipeline of that name comes out. -/
theorem contains_eq_hasName {entries : List AllowEntry}
    (enables : resolution.Enables registry (ofAllow entries).eventsAllowed) {entry : AllowEntry}
    (mem : entry ∈ entries) : registry.contains entry.resource = resolution.hasName entry.resource := by
  have listed : ((ofAllow entries).entryFor? entry.resource).isSome = true := by
    rw [entryFor?, List.find?_isSome]
    exact ⟨entry, mem, by simp⟩
  have inScope : ∀ scope, entry.resource ∈ (resolution.pipelinesOf scope).map (·.name) ↔
      ∃ definition ∈ registry.definitions scope, definition.name = entry.resource := by
    intro scope
    rw [enables.pipelinesOf_eq, names_enableWith (byName_eventsAllowed _), List.mem_filter, and_iff_left listed,
      List.mem_map]
  rw [Bool.eq_iff_iff, Registry.contains_iff, Resolution.hasName_iff]
  exact exists_congr fun scope => (inScope scope).symm

end Selection

namespace Source

open Selection

/-- The counts in the log are the lengths of the scopes, which make up the whole. -/
theorem lengths_add (resolution : Resolution) :
    (resolution.pipelinesOf .cluster).length + (resolution.pipelinesOf .namespaced).length = resolution.size :=
  (ScopeMap.size_eq_add _).symm

private theorem load_of_mode? {source : Source} {selection : Selection} {mode : Mode} {registry : Registry}
    {resolution : Resolution} (fetched : source.fetch = .ok selection) (inForce : selection.mode? = .ok mode)
    (ok : selection.resolve registry = .ok resolution) :
    (source.load registry).value = .ok resolution ∧
      (source.load registry).events.map Event.logged = (modeEvents registry mode).map Event.logged ++
        [.summary (resolution.pipelinesOf .cluster).length (resolution.pipelinesOf .namespaced).length] := by
  rw [load_of_fetch fetched, ok, resolveLogged_of_mode? inForce ok]
  exact ⟨rfl, List.map_append⟩

private theorem load_of_error {source : Source} {selection : Selection} {error : SelectionError}
    (fetched : source.fetch = .ok selection) (failed : selection.mode? = .error error) (registry : Registry) :
    source.load registry = { value := .error (.selection error), events := [] } := by
  rw [load_of_fetch fetched, ← resolveLogged_value, resolveLogged_of_error failed]
  rfl

/-- A failed load leaves no entry of resolving in the log.  A load that succeeds leaves exactly the list in force with
its length, for an allow-list the entries whose resource is the name of no pipeline, and the numbers of pipelines. -/
theorem load_trace (source : Source) (registry : Registry) :
    (∀ failure, source.fetch = .error failure →
      source.load registry = { value := .error failure, events := [] }) ∧
    ∀ selection, source.fetch = .ok selection →
      (selection.allow = [] → selection.deny = [] →
        source.load registry = { value := .error (.selection .missing), events := [] }) ∧
      (selection.allow ≠ [] → selection.deny ≠ [] →
        source.load registry = { value := .error (.selection .conflicting), events := [] }) ∧
      (selection.allow ≠ [] → selection.deny = [] → ∃ resolution cluster namespaced,
        (source.load registry).value = .ok resolution ∧
        (source.load registry).events.map Event.logged =
          .listInForce "Resolving allow-list" selection.allow.length ::
            (selection.allow.filter fun entry => !resolution.hasName entry.resource).map .ignored ++
              [.summary cluster namespaced] ∧
        cluster = (resolution.pipelinesOf .cluster).length ∧
        namespaced = (resolution.pipelinesOf .namespaced).length ∧ cluster + namespaced = resolution.size) ∧
      (selection.allow = [] → selection.deny ≠ [] → ∃ resolution cluster namespaced,
        (source.load registry).value = .ok resolution ∧
        (source.load registry).events.map Event.logged =
          [.listInForce "Resolving deny-list" selection.deny.length, .summary cluster namespaced] ∧
        cluster = (resolution.pipelinesOf .cluster).length ∧
        namespaced = (resolution.pipelinesOf .namespaced).length ∧ cluster + namespaced = resolution.size) := by
  refine ⟨fun failure failed => load_of_failure failed registry, fun selection fetched => ⟨?_, ?_, ?_, ?_⟩⟩
  · intro allow deny
    exact load_of_error fetched (mode?_of_empty allow deny) registry
  · intro allow deny
    exact load_of_error fetched (mode?_of_both allow deny) registry
  · intro allow deny
    obtain ⟨names, entries⟩ := selection
    cases deny
    obtain ⟨resolution, ok, enables⟩ := resolve_ofAllow registry allow
    obtain ⟨value, events⟩ := load_of_mode? fetched (mode?_of_allow allow rfl) ok
    refine ⟨resolution, _, _, value, ?_, rfl, rfl, lengths_add resolution⟩
    have unknown : (entries.filter fun entry => !registry.contains entry.resource) =
        entries.filter fun entry => !resolution.hasName entry.resource :=
      List.filter_congr fun entry mem => by rw [contains_eq_hasName enables mem]
    rw [events, modeEvents, List.map_cons, List.map_map, unknown]
    rfl
  · intro allow deny
    obtain ⟨names, entries⟩ := selection
    cases allow
    obtain ⟨resolution, ok, _⟩ := resolve_ofDeny registry deny
    obtain ⟨value, events⟩ := load_of_mode? fetched (mode?_of_deny deny rfl) ok
    exact ⟨resolution, _, _, value, events, rfl, rfl, lengths_add resolution⟩

/-- An entry of a known name between two of an unknown one, and a selection with both lists. -/
theorem load_trace_sample :
    let entries : List AllowEntry := [⟨"none", []⟩, ⟨"pods", []⟩, ⟨"none", ["ADDED"]⟩]
    (∃ resolution cluster namespaced,
      ((fixed (.ofAllow entries)).load .sample).value = .ok resolution ∧
      ((fixed (.ofAllow entries)).load .sample).events.map Event.logged =
        .listInForce "Resolving allow-list" 3 ::
          (entries.filter fun entry => !resolution.hasName entry.resource).map .ignored ++
            [.summary cluster namespaced] ∧
      cluster = (resolution.pipelinesOf .cluster).length ∧
      namespaced = (resolution.pipelinesOf .namespaced).length ∧ cluster + namespaced = resolution.size) ∧
    (fixed { deny := ["pods"], allow := entries }).load .sample =
      { value := .error (.selection .conflicting), events := [] } ∧
    (failing "no answer").load .sample = { value := .error (.external "no answer"), events := [] } := by
  intro entries
  refine ⟨?_, ?_, (load_trace (failing "no answer") .sample).1 _ rfl⟩
  · exact ((load_trace (fixed (.ofAllow entries)) .sample).2 _ rfl).2.2.1 (List.cons_ne_nil _ _) rfl
  · exact ((load_trace (fixed { deny := ["pods"], allow := entries }) .sample).2 _ rfl).2.1 (List.cons_ne_nil _ _)
      (List.cons_ne_nil _ _)

end Source

end PipelineSelection
