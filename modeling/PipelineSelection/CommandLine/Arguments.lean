import PipelineSelection.CommandLine.Style
import PipelineSelection.Scope

/-!
# Command-line arguments

The arguments of the program are switches and at most one command, whose own switches follow it.  A switch is
written with two hyphens and its name or with one hyphen and its letter; letters may be run together.  A switch
that takes a value has it attached or as the next argument.  What is wrong with a value comes to light when the next
switch or the end is reached, so that an argument that does not exist at all is reported first.
-/

namespace PipelineSelection.CommandLine

/-! ### Switches and commands -/

/-- An argument that starts with a hyphen. -/
inductive Switch where
  | verbose
  | help
  | version
  | json
  | scope
  | config
deriving DecidableEq

namespace Switch

def name : Switch → String
  | .verbose => "verbose"
  | .help => "help"
  | .version => "version"
  | .json => "json"
  | .scope => "scope"
  | .config => "config"

def letter? : Switch → Option Char
  | .verbose => some 'v'
  | .help => some 'h'
  | .version => some 'V'
  | .json => none
  | .scope => some 's'
  | .config => some 'c'

def takesValue : Switch → Bool
  | .scope => true
  | .config => true
  | _ => false

/-- A switch as messages show it, with a name for its value. -/
def display : Switch → String
  | .scope => "--scope <SCOPE>"
  | .config => "--config <CONFIG>"
  | switch => "--" ++ switch.name

end Switch

/-- The name of a command. -/
inductive Verb where
  | listPipelines
  | resolve
  | announce
  | help
deriving DecidableEq

namespace Verb

def all : List Verb := [.listPipelines, .resolve, .announce, .help]

def name : Verb → String
  | .listPipelines => "list-pipelines"
  | .resolve => "resolve"
  | .announce => "announce"
  | .help => "help"

def ofName? (name : String) : Option Verb :=
  all.find? (·.name == name)

/-- The switches that may follow a command. -/
def switches : Verb → List Switch
  | .listPipelines => [.scope, .verbose, .help]
  | .resolve => [.config, .json, .verbose, .help]
  | .announce => [.config, .verbose, .help]
  | .help => []

end Verb

/-- Before the command, or after it. -/
inductive Place where
  | front
  | after (verb : Verb)
deriving DecidableEq

def Place.switches : Place → List Switch
  | .front => [.verbose, .help, .version]
  | .after verb => verb.switches

/-! ### What can be wrong -/

inductive UsageError where
  | unexpectedArgument (given : String)
  | unknownCommand (given : String)
  | missingValue (switch : Switch)
  | invalidScope (error : InvalidScope)
  | repeated (switch : Switch)
  /-- A value is attached to a switch that takes none. -/
  | unwantedValue (value : String) (switch : Switch)
deriving DecidableEq

/-- The explanation of an error, in which `mark` sets off what is wrong and what would be right. -/
def UsageError.message (mark : Mark → String → String) : UsageError → String
  | .unexpectedArgument given => "unexpected argument '" ++ mark .wrong given ++ "' found"
  | .unknownCommand given => "unrecognized subcommand '" ++ mark .wrong given ++ "'"
  | .missingValue switch => "a value is required for '" ++ mark .wrong switch.display ++ "' but none was supplied"
  | .invalidScope error =>
    "invalid value '" ++ mark .wrong error.given ++ "' for '" ++ mark .right Switch.scope.display ++ "': " ++
      error.message
  | .repeated switch => "the argument '" ++ mark .wrong switch.display ++ "' cannot be used multiple times"
  | .unwantedValue value switch =>
    "unexpected value '" ++ mark .wrong value ++ "' for '" ++ mark .right switch.display ++
      "' found; no more were expected"

/-- Why no command is run. -/
inductive Stop where
  | usage (error : UsageError)
  | help
  | version
deriving DecidableEq

/-! ### Settled switches -/

/-- The switches that have been accepted. -/
structure Options where
  verbose : Bool
  json : Bool
  scope : Option Scope
  config : Option String

namespace Options

def none : Options := { verbose := false, json := false, scope := .none, config := .none }

def has (options : Options) : Switch → Bool
  | .verbose => options.verbose
  | .json => options.json
  | .scope => options.scope.isSome
  | .config => options.config.isSome
  | .help => false
  | .version => false

/-- Accepts a switch without a value. -/
def accept (options : Options) (switch : Switch) : Except Stop Options :=
  if options.has switch then .error (.usage (.repeated switch))
  else
    match switch with
    | .help => .error .help
    | .version => .error .version
    | .json => .ok { options with json := true }
    | _ => .ok { options with verbose := true }

/-- Accepts the value of a switch; a configuration file needs a name. -/
def acceptValue (options : Options) (switch : Switch) (value : String) : Except Stop Options :=
  match switch with
  | .scope =>
    match Scope.parse value with
    | .ok scope => .ok { options with scope := some scope }
    | .error error => .error (.usage (.invalidScope error))
  | _ =>
    if value.isEmpty then .error (.usage (.missingValue switch)) else .ok { options with config := some value }

end Options

/-! ### Reading arguments -/

/-- The accepted switches and the last one that takes a value, with the value once it is there. -/
structure Reading where
  options : Options
  pending : Option (Switch × Option String)

namespace Reading

/-- Accepts the pending switch with its value. -/
def settle (reading : Reading) : Except Stop Options :=
  match reading.pending with
  | none => .ok reading.options
  | some (switch, none) => .error (.usage (.missingValue switch))
  | some (switch, some value) =>
    if reading.options.has switch then .error (.usage (.repeated switch))
    else reading.options.acceptValue switch value

/-- Meets a switch without an attached value. -/
def meet (reading : Reading) (switch : Switch) : Except Stop Reading := do
  let options ← reading.settle
  if switch.takesValue then return { options, pending := some (switch, none) }
  else return { options := ← options.accept switch, pending := none }

/-- Meets a switch with an attached value. -/
def meetWith (reading : Reading) (switch : Switch) (value : String) : Except Stop Reading := do
  if switch.takesValue then
    let options ← reading.settle
    return { options := ← { options, pending := some (switch, some value) : Reading }.settle, pending := none }
  else .error (.usage (.unwantedValue value switch))

/-- Meets a switch by its name, with what is attached to it after an equals sign. -/
def meetName (place : Place) (reading : Reading) (argument : List Char) : Except Stop Reading :=
  let name := String.ofList (argument.takeWhile (· != '='))
  match place.switches.find? (·.name == name), argument.dropWhile (· != '=') with
  | none, _ => .error (.usage (.unexpectedArgument ("--" ++ name)))
  | some switch, [] => reading.meet switch
  | some switch, _ :: value => reading.meetWith switch (String.ofList value)

/-- Meets switches by their letters; what follows the letter of a switch that takes a value is its value. -/
def meetLetters (place : Place) (reading : Reading) : List Char → Except Stop Reading
  | [] => .ok reading
  | letter :: rest =>
    match place.switches.find? (·.letter? == some letter) with
    | none => .error (.usage (.unexpectedArgument (String.ofList ['-', letter])))
    | some switch =>
      if switch.takesValue then
        match rest with
        | [] => reading.meet switch
        | '=' :: value => reading.meetWith switch (String.ofList value)
        | value => reading.meetWith switch (String.ofList value)
      else do meetLetters place (← reading.meet switch) rest

end Reading

/-- The error for an argument that is neither a switch nor a value. -/
def misplaced (place : Place) (trailing : Bool) (argument : String) : Stop :=
  match place with
  | .front =>
    if trailing && (Verb.ofName? argument).isSome then .usage (.unexpectedArgument argument)
    else .usage (.unknownCommand argument)
  | .after _ => .usage (.unexpectedArgument argument)

/-- Reads the switches of a place, up to a command if one may follow.  Two hyphens end the switches. -/
def readSwitches (place : Place) (reading : Reading) :
    List String → Except Stop (Options × Option (Verb × List String))
  | [] => do return (← reading.settle, none)
  | argument :: rest => do
    let verb := if place = .front then Verb.ofName? argument else none
    match verb, argument.toList with
    | some verb, _ => return (← reading.settle, some (verb, rest))
    | none, ['-', '-'] =>
      match rest with
      | [] => return (← reading.settle, none)
      | extra :: _ => .error (misplaced place true extra)
    | none, '-' :: '-' :: name => readSwitches place (← reading.meetName place name) rest
    | none, '-' :: letter :: letters => readSwitches place (← reading.meetLetters place (letter :: letters)) rest
    | none, _ =>
      match reading.pending with
      | some (switch, none) => readSwitches place { reading with pending := some (switch, some argument) } rest
      | _ => .error (misplaced place false argument)

/-! ### Commands -/

/-- What to run. -/
inductive Command where
  /-- Nothing but an introduction. -/
  | introduce
  | listPipelines (scope : Option Scope)
  | resolve (config : Option String) (json : Bool)
  | announce (config : Option String)
deriving DecidableEq

structure Arguments where
  verbose : Bool
  command : Command
deriving DecidableEq

namespace Arguments

/-- Looks up the commands that help is asked for; a command has no commands of its own. -/
def readTopics : List String → Stop
  | [] => .help
  | [topic] => if (Verb.ofName? topic).isSome then .help else .usage (.unknownCommand topic)
  | topic :: next :: _ =>
    if (Verb.ofName? topic).isSome then .usage (.unknownCommand next) else .usage (.unknownCommand topic)

/-- The configuration file: the one on the command line, or else the one that the environment names. -/
def configOf (options : Options) (configVariable : Option String) : Except Stop (Option String) :=
  match options.config, configVariable with
  | none, some value => do return (← options.acceptValue .config value).config
  | config, _ => .ok config

/-- Reads the arguments of the program; `configVariable` is the configuration file that the environment names. -/
def parse (configVariable : Option String) (arguments : List String) : Except Stop Arguments := do
  let start : Reading := { options := .none, pending := none }
  let (front, command) ← readSwitches .front start arguments
  match command with
  | none => return { verbose := front.verbose, command := .introduce }
  | some (.help, topics) => .error (readTopics topics)
  | some (verb, rest) =>
    let (options, _) ← readSwitches (.after verb) start rest
    let verbose := front.verbose || options.verbose
    match verb with
    | .listPipelines => return { verbose, command := .listPipelines options.scope }
    | .resolve => return { verbose, command := .resolve (← configOf options configVariable) options.json }
    | _ => return { verbose, command := .announce (← configOf options configVariable) }

end Arguments

end PipelineSelection.CommandLine
