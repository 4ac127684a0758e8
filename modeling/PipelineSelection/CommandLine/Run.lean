import PipelineSelection.Announcement
import PipelineSelection.CommandLine.Arguments
import PipelineSelection.CommandLine.ControlCodes
import PipelineSelection.CommandLine.Log
import PipelineSelection.CommandLine.Report
import PipelineSelection.Source
import PipelineSelection.Wire.Writing

/-!
# Running the program

From arguments, environment variables and files to what the program prints and the code that it ends with: 0 on
success, 1 when a command fails, 2 when the arguments make no sense.
-/

namespace PipelineSelection.CommandLine

open Execution (ofLogged)

/-- What the program finds around it. -/
structure Surroundings where
  environment : List (String × String)
  /-- Whether the output goes to a terminal. -/
  terminal : Bool
  /-- Whether errors go to a terminal. -/
  errorTerminal : Bool
  files : Files
  /-- What the log puts in front of its lines, which are numbered from 0: the time. -/
  stamp : Nat → String := fun _ => ""
  /-- How the reader of settings explains an error in the settings file, where it shows the place; unless more is known,
  just the title. -/
  explain : ReadError → String := fun _ => "TOML parse error"

/-- How a run ends. -/
structure Outcome where
  code : Nat
  stdout : String
  stderr : String

namespace Surroundings

/-- Colours are forced by one variable, else forbidden by another, else used on a terminal. -/
def colours (surroundings : Surroundings) : Bool :=
  match surroundings.environment.lookup "CLICOLOR_FORCE" with
  | some "0" => unforced
  | some _ => true
  | none => unforced
where
  /-- Whether there are colours when nothing forces them. -/
  unforced : Bool :=
    (surroundings.environment.lookup "NO_COLOR").isNone && surroundings.terminal &&
      surroundings.environment.lookup "CLICOLOR" != some "0"

/-- A variable that is set to anything but the empty text. -/
def filledIn (surroundings : Surroundings) (name : String) : Bool :=
  (surroundings.environment.lookup name).any (· ≠ "")

/-- Explanations of usage have colours unless one variable forbids them, where another one forces them, and else on a
terminal that can show them. -/
def usageColours (surroundings : Surroundings) : Bool :=
  if surroundings.filledIn "NO_COLOR" then false
  else if surroundings.filledIn "CLICOLOR_FORCE" then true
  else
    match surroundings.environment.lookup "CLICOLOR" with
    | some "0" => false
    | some _ => surroundings.errorTerminal
    | none => surroundings.errorTerminal && showsColours
where
  /-- Whether a terminal is of a kind that has colours, or stands for an automatic build. -/
  showsColours : Bool :=
    (surroundings.environment.lookup "TERM").any (· ≠ "dumb") || (surroundings.environment.lookup "CI").isSome

/-- The filter that a variable sets, else the default one; a variable that cannot be read is passed over. -/
def logFilter (surroundings : Surroundings) (verbose : Bool) : LogFilter :=
  ((surroundings.environment.lookup "RUST_LOG").bind LogFilter.read?).getD (.upTo (if verbose then .debug else .warn))

def configVariable (surroundings : Surroundings) : Option String :=
  surroundings.environment.lookup "WATCHLIST_CONFIG"

/-- The line that explains why a command has failed. -/
def errorLine (surroundings : Surroundings) (error : CommandError) : String :=
  styled surroundings.colours .boldRed "error" ++ ": " ++ error.message surroundings.explain ++ "\n"

end Surroundings

/-! ### Commands -/

/-- Whether there is an ordinary file at a path. -/
def isFile (files : Files) (path : String) : Bool :=
  match files path with
  | .ok file => file.regular
  | .error (.unreadable _) => true
  | .error _ => false

/-- The settings at a path, or the default ones where no path is given. -/
def settingsAt (files : Files) : Option String → Execution Settings
  | none => pure .default
  | some path => if isFile files path then ofLogged (Settings.load files path) else .fail (.noSettings path)

/-- The pipelines that the settings at a path select, or the local default selection where no path is given. -/
def resolution (files : Files) (config : Option String) : Execution Resolution := do
  let settings ← settingsAt files config
  if config.isSome then ofLogged ((Source.ofSettings settings).load settings.registry)
  else
    Execution.log .usingLocalDefault
    ofLogged (Source.localDefault.load settings.registry)

/-- Prints the version patch of the settings at a path. -/
def announcement (files : Files) (config : Option String) : Execution Unit := do
  let settings ← settingsAt files config
  let announced := announceVersion Announcer.printing settings (.new none)
  let (outcome, writer) := announced.value
  { result := outcome.mapError .failed
    events := announced.events
    printed := (String.fromUTF8? writer.written.toByteArray).getD "" }

/-- Prints a resolution, as a JSON text or as a report. -/
def showResolution (colours json : Bool) (resolution : Resolution) : Execution Unit :=
  if json then Execution.printLine resolution.toJson.toPrettyText else report colours resolution

def Command.run (colours : Bool) (files : Files) : Command → Execution Unit
  | .introduce => introduction colours
  | .listPipelines only => listing colours .builtin only
  | .resolve config json => do showResolution colours json (← resolution files config)
  | .announce config => announcement files config

/-! ### The program -/

def versionText : String := "watchlist 0.1.0\n"

def helpText : String := ofLines [
  "Usage: watchlist [OPTIONS] [COMMAND]",
  "",
  "Commands:",
  "  list-pipelines [-s <SCOPE>]            List the built-in pipelines",
  "  resolve        [-c <CONFIG>] [--json]  Resolve a selection into the pipelines to run",
  "  announce       [-c <CONFIG>]           Print the version patch",
  "  help                                   Print this message",
  "",
  "Options:",
  "  -v, --verbose  Enable verbose output",
  "  -h, --help     Print help",
  "  -V, --version  Print version"]

/-- The explanation of an error in the arguments, and where to find help. -/
def usageText (error : UsageError) : String := ofLines [
  Mark.opening.around "error:" ++ " " ++ error.message Mark.around,
  "",
  "For more information, try '" ++ Mark.right.around "--help" ++ "'."]

/-- How a run ends that runs no command.  Without colours the control codes are taken out of an explanation, also
those that arguments bring into it. -/
def Stop.outcome (colours : Bool) : Stop → Outcome
  | .help => { code := 0, stdout := helpText, stderr := "" }
  | .version => { code := 0, stdout := versionText, stderr := "" }
  | .usage error =>
    let text := usageText error
    { code := 2, stdout := "", stderr := if colours then text else withoutCodes text }

/-- Runs the program. -/
def run (surroundings : Surroundings) (arguments : List String) : Outcome :=
  match Arguments.parse surroundings.configVariable arguments with
  | .error stop => stop.outcome surroundings.usageColours
  | .ok { verbose, command } =>
    let execution := command.run surroundings.colours surroundings.files
    let log := logLines surroundings.stamp (surroundings.logFilter verbose) (.started :: execution.events)
    match execution.result with
    | .ok () => { code := 0, stdout := execution.printed, stderr := log }
    | .error error => { code := 1, stdout := execution.printed, stderr := log ++ surroundings.errorLine error }

end PipelineSelection.CommandLine
