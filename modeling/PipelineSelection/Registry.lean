import Std.Data.HashSet
import PipelineSelection.Builtin
import PipelineSelection.Event
import PipelineSelection.ScopeMap

/-!
# Registries of pipelines

The definitions that a selection is resolved against, for every scope in the order in which they were given.  Within
a scope a name is defined once; the same name may be defined in both scopes.
-/

namespace PipelineSelection

/-- Pipeline definitions by scope. -/
structure Registry where
  table : ScopeMap (List Definition)
deriving DecidableEq

/-- A name is defined a second time in its scope. -/
structure DuplicatePipeline where
  scope : Scope
  name : String
deriving DecidableEq

def DuplicatePipeline.message (error : DuplicatePipeline) : String :=
  "Duplicate pipeline '" ++ error.name ++ "' in " ++ error.scope.name ++ " scope"

namespace Registry

def empty : Registry := { table := .empty }

/-! ### Contents -/

/-- The definitions of a scope in order. -/
def definitions (registry : Registry) (scope : Scope) : List Definition :=
  registry.table.entries scope

/-- The definition of a name in a scope. -/
def find? (registry : Registry) (scope : Scope) (name : String) : Option Definition :=
  (registry.definitions scope).find? (·.name == name)

/-- All definitions with their scopes, scope by scope. -/
def toList (registry : Registry) : List (Scope × Definition) :=
  registry.table.flatten

/-- Whether a name is defined in any scope. -/
def contains (registry : Registry) (name : String) : Bool :=
  registry.toList.any fun (_, definition) => definition.name == name

/-- The scopes that have a definition, in order. -/
def scopes (registry : Registry) : List Scope :=
  (registry.table.toList.filter fun (_, definitions) => !definitions.isEmpty).map (·.1)

def size (registry : Registry) : Nat :=
  registry.table.size

def isEmpty (registry : Registry) : Bool :=
  registry.size == 0

/-! ### Construction -/

/-- Adds a definition after the others of its scope. -/
def push (registry : Registry) (entry : Scope × Definition) : Registry :=
  { table := registry.table.push entry.1 entry.2 }

/-- A registry that definitions are being added to, with the names seen so far in each scope. -/
structure Draft where
  seen : Std.HashSet (Scope × String)
  registry : Registry

/-- Adds a definition unless its name has been seen in its scope. -/
def Draft.add (draft : Draft) (entry : Scope × Definition) : Except DuplicatePipeline Draft :=
  let key := (entry.1, entry.2.name)
  if draft.seen.contains key then .error { scope := entry.1, name := entry.2.name }
  else .ok { seen := draft.seen.insert key, registry := draft.registry.push entry }

/-- The registry of a list of definitions; the first repetition of a name within a scope is the error. -/
def ofList (entries : List (Scope × Definition)) : Except DuplicatePipeline Registry := do
  let draft ← entries.foldlM Draft.add { seen := ∅, registry := empty }
  return draft.registry

/-- The registry of a list of definitions that is known to repeat no name within a scope. -/
def ofTrusted (entries : List (Scope × Definition)) : Registry :=
  entries.foldl push empty

/-- The registry of a list of definitions, with a record of its size. -/
def build (entries : List (Scope × Definition)) : Logged (Except DuplicatePipeline Registry) :=
  match ofList entries with
  | .ok registry =>
    let built := Event.registryBuilt (registry.definitions .cluster).length (registry.definitions .namespaced).length
    { value := .ok registry, events := [built] }
  | .error error => { value := .error error, events := [] }

/-- The registry of the built-in pipelines. -/
def builtin : Registry := ofTrusted Builtin.definitions

/-- The registry of the built-in pipelines, each with these events in place of its own. -/
def builtinWithEvents (events : List String) : Registry :=
  ofTrusted (Builtin.definitions.map fun (scope, definition) => (scope, definition.withEvents events))

end Registry

end PipelineSelection
