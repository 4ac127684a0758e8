import PipelineSelection.Json.Parser
import PipelineSelection.Wire.Reading

/-!
# Sources of selections

Where a selection comes from: it is fetched, and fetching may fail.  A configuration is loaded by fetching a
selection and resolving it; the failure of a source is passed on unchanged.
-/

namespace PipelineSelection

/-- A place that a selection is fetched from. -/
structure Source where
  fetch : Except Failure Selection

namespace Source

/-- The resources that are watched when nothing is configured. -/
def localDefaultNames : List String := [
  "namespaces.v1.",
  "nodes.v1.",
  "pods.v1.",
  "services.v1.",
  "configmaps.v1.",
  "deployments.v1.apps",
  "statefulsets.v1.apps",
  "daemonsets.v1.apps"]

/-- The selection in force when nothing is configured. -/
def localDefaultSelection : Selection :=
  .ofAllow (localDefaultNames.map fun name => { resource := name, events := defaultEvents })

def localDefault : Source := { fetch := .ok localDefaultSelection }

/-- A selection that is already there. -/
def fixed (selection : Selection) : Source := { fetch := .ok selection }

/-- The selection of a settings file. -/
def ofSettings (settings : Settings) : Source := fixed settings.selection

/-- A source that fails. -/
def failing (message : String) : Source := { fetch := .error (.external message) }

/-- A selection written in JSON. -/
def ofJson (text : String) : Source := { fetch := (Reader.selection.ofJsonStream text).mapError .json }

/-- Denies every built-in pipeline of the scope with the given name. -/
def denyingScope (given : String) : Source where
  fetch := do
    let scope ← (Scope.parse given).mapError .invalidScope
    return .ofDeny (Builtin.names scope)

/-- Fetches the selection and resolves it. -/
def load (source : Source) (registry : Registry) : Logged (Except Failure Resolution) :=
  match source.fetch with
  | .error failure => { value := .error failure, events := [] }
  | .ok selection =>
    let resolved := selection.resolveLogged registry
    { value := resolved.value.mapError .selection, events := resolved.events }

theorem load_of_fetch {source : Source} {selection : Selection} (h : source.fetch = .ok selection)
    (registry : Registry) :
    source.load registry = {
      value := (selection.resolve registry).mapError .selection
      events := (selection.resolveLogged registry).events } := by
  rw [load, h, ← Selection.resolveLogged_value]

theorem load_of_failure {source : Source} {failure : Failure} (h : source.fetch = .error failure)
    (registry : Registry) : source.load registry = { value := .error failure, events := [] } := by
  rw [load, h]

end Source

end PipelineSelection
