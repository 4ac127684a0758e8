import PipelineSelection.Document.Record
import PipelineSelection.Failure

/-!
# Settings of an agent

The version that an agent announces, the resource that it announces it on, the events that its pipelines send by
default, and perhaps a selection.  Every section and every key has a default.
-/

namespace PipelineSelection

/-- The coordinates of a resource in a cluster. -/
structure Target where
  /-- The namespace that the resource lives in. -/
  home : String
  name : String
  group : String
  version : String
  /-- The plural name of the kind of resource. -/
  kind : String
deriving DecidableEq

namespace Target

/-- The resource that holds an agent's configuration. -/
def default : Target where
  home := "meshery"
  name := "meshery-meshsync"
  group := "meshery.io"
  version := "v1alpha1"
  kind := "meshsyncs"

/-- The group and version of the kind. -/
def apiVersion (target : Target) : String :=
  target.group ++ "/" ++ target.version

/-- The kind of the resource, then the resource. -/
def display (target : Target) : String :=
  target.kind ++ "." ++ target.apiVersion ++ " " ++ target.home ++ "/" ++ target.name

end Target

/-- What an agent says about itself. -/
structure Agent where
  version : String
deriving DecidableEq

def Agent.default : Agent := { version := "v0.1.0" }

/-- The events of pipelines that are not asked for others. -/
structure EventDefaults where
  events : List String
deriving DecidableEq

def EventDefaults.default : EventDefaults := { events := defaultEvents }

structure Settings where
  agent : Agent
  resource : Target
  events : EventDefaults
  selection : Selection
deriving DecidableEq

namespace Settings

def default : Settings where
  agent := .default
  resource := .default
  events := .default
  selection := .empty

/-- The built-in pipelines with the default events of the settings. -/
def registry (settings : Settings) : Registry :=
  .builtinWithEvents settings.events.events

end Settings

end PipelineSelection
