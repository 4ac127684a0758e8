import PipelineSelection.CommandLine.Run

/-!
# The program

Gathers what the program needs to know of its surroundings, runs it and prints what it has to say.
-/

namespace PipelineSelection.CommandLine

/-- The variables that the program looks at. -/
def variableNames : List String :=
  ["CI", "CLICOLOR", "CLICOLOR_FORCE", "NO_COLOR", "RUST_LOG", "TERM", "WATCHLIST_CONFIG"]

def readVariables : IO (List (String × String)) := do
  let found ← variableNames.mapM fun name => do return (← IO.getEnv name).map (name, ·)
  return found.filterMap id

/-- Whether what may not be read is no directory: then there is nothing inside it to look for. -/
def isNoDirectory (path : String) : IO Bool := do
  try
    let _ ← IO.FS.readBinFile (path ++ "/.")
    return false
  catch
    | .inappropriateType .. => return true
    | _ => return false

/-- What reading a file gives; devices are taken for ordinary files. -/
def readFile (path : String) : IO (Except FileProblem File) := do
  try
    return .ok { bytes := ← IO.FS.readBinFile path, regular := true }
  catch
    | .permissionDenied .. =>
      if ← isNoDirectory path then return .error (.unreadable FileProblem.permissionDenied.reason)
      else return .error .permissionDenied
    | .inappropriateType .. => return .error .isADirectory
    | _ => return .error .notFound

/-- The settings file that the arguments name, if there is one, as the only file. -/
def readFiles (configVariable : Option String) (arguments : List String) : IO Files := do
  let config := match Arguments.parse configVariable arguments with
    | .ok { command := .resolve config _, .. } => config
    | .ok { command := .announce config, .. } => config
    | _ => none
  match config with
  | some path =>
    let content ← readFile path
    return fun _ => content
  | none => return fun _ => .error .notFound

end PipelineSelection.CommandLine

open PipelineSelection.CommandLine in
def main (arguments : List String) : IO UInt32 := do
  let environment ← readVariables
  let files ← readFiles (environment.lookup "WATCHLIST_CONFIG") arguments
  let terminal ← (← IO.getStdout).isTty
  let errorTerminal ← (← IO.getStderr).isTty
  let outcome := run { environment, terminal, errorTerminal, files } arguments
  (← IO.getStderr).putStr outcome.stderr
  (← IO.getStdout).putStr outcome.stdout
  return outcome.code.toUInt32
