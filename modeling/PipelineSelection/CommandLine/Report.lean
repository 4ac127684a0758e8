import PipelineSelection.CommandLine.Execution
import PipelineSelection.CommandLine.Style
import PipelineSelection.Resolution

/-!
# Reports

What the commands print for people to read: an introduction, the built-in pipelines, and the pipelines that a
selection enables.
-/

namespace PipelineSelection.CommandLine

open Execution (ofLogged printLine printLines)

/-- Where the events of a pipeline stand in its line. -/
def nameWidth : Nat := 66

/-- The line of a pipeline, with its name and events. -/
def pipelineLine (colours : Bool) (name events : String) : String :=
  "  " ++ styled colours .green (filled nameWidth name) ++ " " ++ events

/-- Lines under a heading, and an empty line after them; nothing where there are no lines. -/
def underHeading (colours : Bool) (heading : String) (lines : List String) : List String :=
  if lines.isEmpty then [] else [styled colours .boldCyan heading ++ ":"] ++ lines ++ [""]

/-- What the program is. -/
def introduction (colours : Bool) : Execution Unit := do
  printLine (styled colours .boldGreen "watchlist" ++ " pipeline selection resolver")
  printLine ""
  printLine ("Run " ++ styled colours .cyan "watchlist --help" ++ " for available commands.")

/-! ### The built-in pipelines -/

def scopeHeading : Scope → String
  | .cluster => "Global (cluster-scoped)"
  | .namespaced => "Local (namespace-scoped)"

/-- The pipelines of a registry, of all scopes or of one. -/
def listing (colours : Bool) (registry : Registry) (only : Option Scope) : Execution Unit := do
  let scopes := Scope.all.filter fun scope => only.getD scope = scope
  let line (definition : Definition) :=
    pipelineLine colours definition.name (styled colours .dimmed (", ".intercalate definition.events))
  let shown := (scopes.flatMap registry.definitions).length
  printLine (styled colours .bold "Available Pipelines")
  printLine ""
  scopes.forM fun scope =>
    printLines (underHeading colours (scopeHeading scope) ((registry.definitions scope).map line))
  printLine (styled colours .dimmed "Total:" ++ " " ++ toString shown ++ " pipelines. Use " ++
    styled colours .cyan "watchlist resolve" ++ " to see what a selection enables.")

/-! ### The pipelines that a selection enables -/

/-- Which list is in force, and how long it is. -/
def summary : Mode → String
  | .allow entries => "allow-list, " ++ toString entries.length ++ " entries"
  | .deny names => "deny-list, " ++ toString names.length ++ " entries"

/-- The line of a pipeline that is enabled. -/
def enabledLine (colours : Bool) (pipeline : EnabledPipeline) : String :=
  pipelineLine colours pipeline.name (", ".intercalate pipeline.events)

/-- The pipelines of a resolution under the headings of their scopes. -/
def report (colours : Bool) (resolution : Resolution) : Execution Unit := do
  let mode ← ofLogged (pure (resolution.selection.mode?.mapError .selection))
  printLine (styled colours .bold "Resolved Pipelines" ++ " (" ++ styled colours .dimmed (summary mode) ++ ")")
  printLine ""
  if resolution.isEmpty then printLine (styled colours .yellow "No pipelines enabled.")
  else
    Scope.all.forM fun scope =>
      printLines (underHeading colours scope.name ((resolution.pipelinesOf scope).map (enabledLine colours)))
    printLine (styled colours .dimmed "Total:" ++ " " ++ toString resolution.size ++ " pipelines enabled.")

end PipelineSelection.CommandLine
