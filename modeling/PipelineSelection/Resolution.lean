import Std.Data.HashSet
import PipelineSelection.Registry
import PipelineSelection.Selection

/-!
# Resolutions

A selection against a registry gives the pipelines that are enabled, for every scope in the order of the registry.
An allow-list gives every pipeline the events of the first entry for it, a deny-list the events of its definition.
Names that the registry does not define enable nothing.
-/

namespace PipelineSelection

/-- A pipeline to run. -/
structure EnabledPipeline where
  name : String
  /-- The subject that changes are published on. -/
  subject : String
  events : List String
deriving DecidableEq

/-- The pipelines to run, and the selection that they come from. -/
structure Resolution where
  denyList : List String
  allowList : List AllowEntry
  /-- Resolving makes no key for a scope without pipelines. -/
  pipelines : ScopeMap (List EnabledPipeline)
deriving DecidableEq

/-- The pipeline of a definition, with these events. -/
def Definition.enable (definition : Definition) (events : List String) : EnabledPipeline where
  name := definition.name
  subject := definition.subject
  events := events

namespace Resolution

/-! ### Contents -/

/-- The pipelines of a scope, in the order of the registry. -/
def pipelinesOf (resolution : Resolution) (scope : Scope) : List EnabledPipeline :=
  resolution.pipelines.entries scope

/-- The first pipeline of a name in a scope. -/
def find? (resolution : Resolution) (scope : Scope) (name : String) : Option EnabledPipeline :=
  (resolution.pipelinesOf scope).find? (·.name == name)

/-- All pipelines with their scopes, scope by scope. -/
def toList (resolution : Resolution) : List (Scope × EnabledPipeline) :=
  resolution.pipelines.flatten

def size (resolution : Resolution) : Nat :=
  resolution.pipelines.size

/-- Whether no scope has a list of pipelines, not even an empty one. -/
def isEmpty (resolution : Resolution) : Bool :=
  resolution.pipelines.keys.isEmpty

/-- The selection that the pipelines come from. -/
def selection (resolution : Resolution) : Selection where
  deny := resolution.denyList
  allow := resolution.allowList

theorem pipelinesOf_of_collect {resolution : Resolution} {lists : Scope → List EnabledPipeline}
    (h : resolution.pipelines = .collect lists) (scope : Scope) : resolution.pipelinesOf scope = lists scope := by
  rw [pipelinesOf, h, ScopeMap.entries_collect]

theorem mem_keys_of_collect {resolution : Resolution} {lists : Scope → List EnabledPipeline}
    (h : resolution.pipelines = .collect lists) (scope : Scope) :
    scope ∈ resolution.pipelines.keys ↔ resolution.pipelinesOf scope ≠ [] := by
  rw [pipelinesOf_of_collect h, h, ScopeMap.mem_keys_collect]

end Resolution

/-! ### Resolving -/

namespace Selection

/-- The pipelines of some definitions that an allow-list enables. -/
def allowed (selection : Selection) (definitions : List Definition) : List EnabledPipeline :=
  definitions.filterMap fun definition =>
    (selection.entryFor? definition.name).map fun entry => definition.enable entry.events

/-- The pipelines of some definitions whose names are not in a set. -/
def undenied (denied : Std.HashSet String) (definitions : List Definition) : List EnabledPipeline :=
  (definitions.filter fun definition => !denied.contains definition.name).map fun definition =>
    definition.enable definition.events

/-- The pipelines of some definitions that the list in force enables. -/
def enabled (selection : Selection) : Mode → List Definition → List EnabledPipeline
  | .allow _ => selection.allowed
  | .deny names => undenied (Std.HashSet.ofList names)

/-- The pipelines of a registry that a selection enables. -/
def resolve (selection : Selection) (registry : Registry) : Except SelectionError Resolution := do
  let mode ← selection.mode?
  return {
    denyList := selection.deny
    allowList := selection.allow
    pipelines := .collect fun scope => selection.enabled mode (registry.definitions scope) }

theorem resolve_eq_of_mode? {selection : Selection} {mode : Mode} (h : selection.mode? = .ok mode)
    (registry : Registry) :
    selection.resolve registry = .ok {
      denyList := selection.deny
      allowList := selection.allow
      pipelines := .collect fun scope => selection.enabled mode (registry.definitions scope) } := by
  rw [resolve, h]
  rfl

/-- With a list in force resolving succeeds; the lists are kept as they are. -/
theorem resolve_of_mode? {selection : Selection} {mode : Mode} (h : selection.mode? = .ok mode)
    (registry : Registry) :
    ∃ resolution, selection.resolve registry = .ok resolution ∧ resolution.selection = selection ∧
      resolution.pipelines = .collect fun scope => selection.enabled mode (registry.definitions scope) :=
  ⟨_, resolve_eq_of_mode? h registry, rfl, rfl⟩

/-- Without a list in force nothing is resolved. -/
theorem exists_mode?_of_resolve {selection : Selection} {registry : Registry} {resolution : Resolution}
    (h : selection.resolve registry = .ok resolution) : ∃ mode, selection.mode? = .ok mode := by
  cases mode : selection.mode? with
  | error error =>
    rw [resolve, mode] at h
    cases h
  | ok mode' => exact ⟨mode', rfl⟩

/-- A resolution keeps the selection that it comes from. -/
theorem selection_of_resolve {selection : Selection} {registry : Registry} {resolution : Resolution}
    (h : selection.resolve registry = .ok resolution) : resolution.selection = selection := by
  obtain ⟨mode, inForce⟩ := exists_mode?_of_resolve h
  obtain ⟨other, ok, kept, _⟩ := resolve_of_mode? inForce registry
  rw [ok] at h
  cases h
  exact kept

/-- What is told about the list in force before its pipelines are looked up. -/
def modeEvents (registry : Registry) : Mode → List Event
  | .allow entries =>
    let unknown := entries.filter fun entry => !registry.contains entry.resource
    .resolvingAllow entries.length :: unknown.map (.unknownEntry ·.resource)
  | .deny names => [.resolvingDeny names.length]

/-- Resolving with a record of it; a selection without a list in force leaves none. -/
def resolveLogged (selection : Selection) (registry : Registry) : Logged (Except SelectionError Resolution) :=
  match selection.mode?, selection.resolve registry with
  | .ok mode, .ok resolution =>
    let done := Event.resolved (resolution.pipelinesOf .cluster).length (resolution.pipelinesOf .namespaced).length
    { value := .ok resolution, events := modeEvents registry mode ++ [done] }
  | _, outcome => { value := outcome, events := [] }

theorem resolveLogged_of_mode? {selection : Selection} {registry : Registry} {mode : Mode} {resolution : Resolution}
    (inForce : selection.mode? = .ok mode) (resolved : selection.resolve registry = .ok resolution) :
    selection.resolveLogged registry = {
      value := .ok resolution
      events := modeEvents registry mode ++
        [.resolved (resolution.pipelinesOf .cluster).length (resolution.pipelinesOf .namespaced).length] } := by
  rw [resolveLogged, inForce, resolved]

theorem resolveLogged_of_error {selection : Selection} {error : SelectionError}
    (h : selection.mode? = .error error) (registry : Registry) :
    selection.resolveLogged registry = { value := .error error, events := [] } := by
  rw [resolveLogged, resolve, h]
  rfl

/-- The record changes nothing about the outcome. -/
theorem resolveLogged_value (selection : Selection) (registry : Registry) :
    (selection.resolveLogged registry).value = selection.resolve registry := by
  cases h : selection.mode? with
  | error error =>
    rw [resolveLogged_of_error h, resolve, h]
    rfl
  | ok mode =>
    obtain ⟨resolution, ok, _⟩ := resolve_of_mode? h registry
    rw [resolveLogged_of_mode? h ok, ok]

end Selection

end PipelineSelection
