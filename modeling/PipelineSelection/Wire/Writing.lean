import PipelineSelection.Json.Value
import PipelineSelection.Resolution
import PipelineSelection.Settings

/-!
# Writing the wire formats

Every type as a JSON value, with the keys of a record in declared order.  The lists of a selection are left out
when they are empty, in a selection and in a resolution; everything else is always written.
-/

namespace PipelineSelection

namespace Json

/-- A list of texts. -/
def texts (values : List String) : Json := .array (values.map .string)

/-- A member of an object that is left out when its list is empty. -/
def memberUnlessEmpty {α : Type} (key : String) (toJson : α → Json) (values : List α) : List (String × Json) :=
  if values.isEmpty then [] else [(key, .array (values.map toJson))]

end Json

/-! ### Definitions, selections and resolutions -/

def Scope.toJson (scope : Scope) : Json := .string scope.name

def Definition.toJson (definition : Definition) : Json :=
  .object [("name", .string definition.name), ("publish_to", .string definition.subject),
    ("default_events", .texts definition.events)]

def AllowEntry.toJson (entry : AllowEntry) : Json :=
  .object [("resource", .string entry.resource), ("events", .texts entry.events)]

def Selection.toJson (selection : Selection) : Json :=
  .object (Json.memberUnlessEmpty "deny" .string selection.deny ++
    Json.memberUnlessEmpty "allow" AllowEntry.toJson selection.allow)

def EnabledPipeline.toJson (pipeline : EnabledPipeline) : Json :=
  .object [("name", .string pipeline.name), ("publish_to", .string pipeline.subject),
    ("events", .texts pipeline.events)]

/-- A map as an object whose keys are the names of its scopes, in order. -/
def ScopeMap.toJson {α : Type} (value : α → Json) (map : ScopeMap α) : Json :=
  .object (map.toList.map fun (scope, content) => (scope.name, value content))

def Resolution.toJson (resolution : Resolution) : Json :=
  .object (Json.memberUnlessEmpty "deny_list" .string resolution.denyList ++
    Json.memberUnlessEmpty "allow_list" AllowEntry.toJson resolution.allowList ++
    [("pipelines", resolution.pipelines.toJson fun pipelines => .array (pipelines.map EnabledPipeline.toJson))])

/-! ### Settings -/

def Target.toJson (target : Target) : Json :=
  .object [("namespace", .string target.home), ("name", .string target.name), ("group", .string target.group),
    ("version", .string target.version), ("resource", .string target.kind)]

def Agent.toJson (agent : Agent) : Json :=
  .object [("version", .string agent.version)]

def EventDefaults.toJson (defaults : EventDefaults) : Json :=
  .object [("default", .texts defaults.events)]

def Settings.toJson (settings : Settings) : Json :=
  .object [("agent", settings.agent.toJson), ("resource", settings.resource.toJson),
    ("events", settings.events.toJson), ("selection", settings.selection.toJson)]

end PipelineSelection
