/-!
# Pipeline definitions

A pipeline forwards the changes of one kind of resource.  Its definition gives the kind, the subject that changes
are published on and the events that are sent unless a selection asks for others.
-/

namespace PipelineSelection

/-- A kind of resource that can be watched. -/
structure Definition where
  /-- The kind of resource, with its version and group, such as `deployments.v1.apps`. -/
  name : String
  /-- The subject that changes are published on. -/
  subject : String
  /-- The events that are sent unless a selection asks for others. -/
  events : List String
deriving DecidableEq

/-- The events that are sent when nothing else is asked for. -/
def defaultEvents : List String := ["ADDED", "MODIFIED", "DELETED"]

/-- The subject that changes are published on when nothing else is asked for. -/
def defaultSubject : String := "meshery.meshsync.core"

namespace Definition

/-- A definition with the default subject and events. -/
def new (name : String) : Definition where
  name := name
  subject := defaultSubject
  events := defaultEvents

def withEvents (definition : Definition) (events : List String) : Definition :=
  { definition with events }

def withSubject (definition : Definition) (subject : String) : Definition :=
  { definition with subject }

end Definition

end PipelineSelection
