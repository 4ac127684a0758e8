import PipelineSelection.Document.Record
import PipelineSelection.Resolution
import PipelineSelection.Settings

/-!
# Reading the wire formats

The shape that each type has in a document: the fields of a record in declared order with their keys and defaults,
the names of scopes, and maps keyed by scopes.
-/

namespace PipelineSelection

namespace Reader

/-- A list of texts. -/
def texts : Reader (List String) := listOf text

/-! ### Scopes -/

/-- The scope with exactly this name. -/
def scopeName (name : String) : Except ReadError Scope :=
  match Scope.ofName? name with
  | some scope => .ok scope
  | none => .error (.unknownScope name)

/-- A scope by its name, alone or as the single key of a table that holds nothing for it. -/
def scope : Reader Scope := fun _ node =>
  match node with
  | .text name => scopeName name
  | .table ((some name, value) :: rest) => do
    let scope ← scopeName name
    match value, rest with
    | .null, [] => return scope
    | .null, _ => .error .malformed
    | other, _ => .error (other.mismatch .unit)
  | _ => .error .malformed

/-- The members of a table with a value for each scope, read on into a map; of repeated keys the last one counts. -/
def scopeMembers {α : Type} (value : Reader α) (dialect : Dialect) :
    ScopeMap α → List (Option String × Node) → Except ReadError (ScopeMap α)
  | map, [] => .ok map
  | _, (none, _) :: _ => .error .malformed
  | map, (some key, node) :: members => do
    let scope ← scopeName key
    let value' ← value dialect node
    scopeMembers value dialect (map.insert scope value') members

/-- A table whose keys are scopes. -/
def scopeMap {α : Type} (value : Reader α) : Reader (ScopeMap α) := fun dialect node =>
  match node with
  | .table members => scopeMembers value dialect .empty members
  | other => .error (other.mismatch .map)

/-! ### Definitions, selections and resolutions -/

def definition : Reader Definition :=
  record "PipelineDefinition"
    (.cons "name" text none <| .cons "publish_to" text none <| .cons "default_events" texts none .nil)
    fun (name, subject, events, _) => { name, subject, events }

def allowEntry : Reader AllowEntry :=
  record "AllowEntry" (.cons "resource" text none <| .cons "events" texts (some []) .nil)
    fun (resource, events, _) => { resource, events }

def selection : Reader Selection :=
  record "Selection" (.cons "deny" texts (some []) <| .cons "allow" (listOf allowEntry) (some []) .nil)
    fun (deny, allow, _) => { deny, allow }

def enabledPipeline : Reader EnabledPipeline :=
  record "ResolvedPipeline"
    (.cons "name" text none <| .cons "publish_to" text none <| .cons "events" texts none .nil)
    fun (name, subject, events, _) => { name, subject, events }

def resolution : Reader Resolution :=
  record "ResolvedConfig"
    (.cons "deny_list" texts (some []) <| .cons "allow_list" (listOf allowEntry) (some []) <|
      .cons "pipelines" (scopeMap (listOf enabledPipeline)) (some .empty) .nil)
    fun (denyList, allowList, pipelines, _) => { denyList, allowList, pipelines }

/-! ### Settings -/

def target : Reader Target :=
  record "ResourceRef"
    (.cons "namespace" text (some Target.default.home) <| .cons "name" text (some Target.default.name) <|
      .cons "group" text (some Target.default.group) <| .cons "version" text (some Target.default.version) <|
      .cons "resource" text (some Target.default.kind) .nil)
    fun (home, name, group, version, kind, _) => { home, name, group, version, kind }

def agent : Reader Agent :=
  record "AgentSection" (.cons "version" text (some Agent.default.version) .nil)
    fun (version, _) => { version }

def eventDefaults : Reader EventDefaults :=
  record "EventsSection" (.cons "default" texts (some EventDefaults.default.events) .nil)
    fun (events, _) => { events }

def settings : Reader Settings :=
  record "Settings"
    (.cons "agent" agent (some .default) <| .cons "resource" target (some .default) <|
      .cons "events" eventDefaults (some .default) <| .cons "selection" selection (some .empty) .nil)
    fun (agent, resource, events, selection, _) => { agent, resource, events, selection }

end Reader

/-! ### Settings files -/

namespace Settings

/-- Reads settings from the text of a settings file. -/
def parse (text : String) : Except Failure Settings :=
  (Reader.settings.ofToml text).mapError .toml

/-- The text at a path, or why there is none. -/
def readText (files : Files) (path : String) : Except FileProblem String := do
  let file ← files path
  match String.fromUTF8? file.bytes with
  | some text => return text
  | none => .error .notText

/-- Reads the settings file at a path. -/
def load (files : Files) (path : String) : Logged (Except Failure Settings) where
  value := do
    let text ← (readText files path).mapError (.settingsUnreadable path)
    parse text
  events := [.loadingSettings path]

end Settings

end PipelineSelection
