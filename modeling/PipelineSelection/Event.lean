import PipelineSelection.Text.Quoted

/-!
# Log events

What happens while pipelines are selected, and the record of it.  An event has a level, the component that it comes
from, a message and named fields.  A computation that logs is its value together with its events in order.
-/

namespace PipelineSelection

/-- How much an event matters. -/
inductive Level where
  | error
  | warn
  | info
  | debug
  | trace
deriving DecidableEq

namespace Level

def name : Level → String
  | .error => "ERROR"
  | .warn => "WARN"
  | .info => "INFO"
  | .debug => "DEBUG"
  | .trace => "TRACE"

/-- Higher for levels that matter less. -/
def verbosity : Level → Nat
  | .error => 1
  | .warn => 2
  | .info => 3
  | .debug => 4
  | .trace => 5

end Level

/-- The value of a field of an event. -/
inductive FieldValue where
  | count (n : Nat)
  /-- A text that a log line shows in quotation marks. -/
  | text (value : String)
  /-- A text that a log line shows as it is. -/
  | display (value : String)
  /-- A path, which is shown in quotation marks everywhere. -/
  | path (value : String)
deriving DecidableEq

/-- Something that happened. -/
inductive Event where
  | registryBuilt (cluster namespaced : Nat)
  | resolvingAllow (entries : Nat)
  | resolvingDeny (entries : Nat)
  /-- An allow-list names a resource that no scope defines. -/
  | unknownEntry (resource : String)
  | resolved (cluster namespaced : Nat)
  | loadingSettings (path : String)
  | announcing (target version : String)
  /-- The command line has been read. -/
  | started
  | usingLocalDefault
deriving DecidableEq

namespace Event

def level : Event → Level
  | .resolved .. => .info
  | .announcing .. => .info
  | _ => .debug

/-- The component that an event comes from. -/
def origin : Event → String
  | .registryBuilt .. => "watch_registry::store"
  | .resolvingAllow .. => "watch_core::config::resolver"
  | .resolvingDeny .. => "watch_core::config::resolver"
  | .unknownEntry .. => "watch_core::config::resolver"
  | .resolved .. => "watch_core::config::resolver"
  | .loadingSettings .. => "watch_core::config::settings"
  | .announcing .. => "watch_core::announce"
  | .started => "watchlist"
  | .usingLocalDefault => "watchlist::commands::resolve"

def message : Event → String
  | .registryBuilt .. => "Built pipeline registry"
  | .resolvingAllow .. => "Resolving allow-list"
  | .resolvingDeny .. => "Resolving deny-list"
  | .unknownEntry .. => "Ignoring unknown allow-list entry"
  | .resolved .. => "Resolved pipeline configuration"
  | .loadingSettings .. => "Loading settings"
  | .announcing .. => "Announcing agent version"
  | .started => "Verbose mode enabled"
  | .usingLocalDefault => "No settings file given, using the local default selection"

def fields : Event → List (String × FieldValue)
  | .registryBuilt cluster namespaced => [("global", .count cluster), ("local", .count namespaced)]
  | .resolvingAllow entries => [("entries", .count entries)]
  | .resolvingDeny entries => [("entries", .count entries)]
  | .unknownEntry resource => [("resource", .display resource)]
  | .resolved cluster namespaced => [("global", .count cluster), ("local", .count namespaced)]
  | .loadingSettings path => [("path", .path path)]
  | .announcing target version => [("target_resource", .display target), ("version", .text version)]
  | .started => []
  | .usingLocalDefault => []

end Event

/-- A value together with the events on the way to it. -/
structure Logged (α : Type) where
  value : α
  events : List Event

namespace Logged

def andThen {α β : Type} (first : Logged α) (next : α → Logged β) : Logged β where
  value := (next first.value).value
  events := first.events ++ (next first.value).events

instance : Monad Logged where
  pure value := { value, events := [] }
  bind := andThen

/-- Records an event. -/
def log (event : Event) : Logged Unit where
  value := ()
  events := [event]

end Logged

end PipelineSelection
