import PipelineSelection.Document.Reader
import PipelineSelection.FileTree
import PipelineSelection.Registry
import PipelineSelection.Selection
import PipelineSelection.Json.Parser
import PipelineSelection.Toml.Parser

/-!
# Failures

Everything that can go wrong between a request and its answer, with the message for each cause.
-/

namespace PipelineSelection

/-- Why there is no answer. -/
inductive Failure where
  | invalidScope (error : InvalidScope)
  | duplicatePipeline (error : DuplicatePipeline)
  | selection (error : SelectionError)
  /-- The settings at a path cannot be read. -/
  | settingsUnreadable (path : String) (problem : FileProblem)
  /-- A source or an announcer has failed for reasons of its own. -/
  | external (message : String)
  /-- A writer takes no more bytes. -/
  | writerFull
  | toml (error : ReadError)
  | json (error : ReadError)
deriving DecidableEq

/-- The explanation of a failure; another party's explanation is passed on unchanged. -/
def Failure.message : Failure → String
  | .invalidScope error => error.message
  | .duplicatePipeline error => error.message
  | .selection error => error.message
  | .settingsUnreadable path problem => "Failed to read settings at " ++ path ++ ": " ++ problem.reason
  | .external message => message
  | .writerFull => "failed to write whole buffer"
  | .toml error => error.message .toml
  | .json error => error.message .jsonText

end PipelineSelection
