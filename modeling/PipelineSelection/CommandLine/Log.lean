import PipelineSelection.CommandLine.Pattern
import PipelineSelection.Event
import PipelineSelection.Text.Characters
import PipelineSelection.Text.Quoted

/-!
# The log

Which events are shown, and how.  A filter is a list of directives, each of which sets how verbose the events of a
component may be.  Of the directives that concern an event the most specific one rules: the one with the longest
target, then one that asks for a field, then the one that was written last.
-/

namespace PipelineSelection.CommandLine

/-- Sets the verbosity of some events. -/
structure Directive where
  /-- The component that events come from, or the beginning of its name; all components if there is none. -/
  target : Option String
  /-- Whether only events in certain circumstances are meant, in which no event of this program occurs. -/
  conditional : Bool
  /-- The field that an event has to have, if any. -/
  field : Option String
  /-- The verbosity of the least important level that is shown. -/
  verbosity : Nat
deriving DecidableEq

namespace Directive

/-! ### Reading directives -/

/-- The verbosity of the most detailed level. -/
def everything : Nat := Level.trace.verbosity

def levelNames : List (String × Nat) :=
  [("off", 0), ("error", 1), ("warn", 2), ("info", 3), ("debug", 4), ("trace", 5)]

/-- A decimal number, perhaps with a plus sign. -/
def number? (cs : List Char) : Option Nat :=
  let digits := match cs with
    | '+' :: rest => rest
    | cs => cs
  if digits.isEmpty || !digits.all Char.isDigit then none
  else some (digits.foldl (fun n c => 10 * n + (c.toNat - '0'.toNat)) 0)

/-- The verbosity of a level given by its number or by its name in letters of either case. -/
def verbosity? (cs : List Char) : Option Nat :=
  match number? cs with
  | some n => if n ≤ everything then some n else none
  | none => levelNames.lookup (String.ofList cs).toLower

/-- Characters that a directive may start with, besides a bracket. -/
def isOpening (c : Char) : Bool :=
  isAlphanumeric c || "-:_".contains c

/-- A decimal number with a point, an exponent, both or neither, or the name of one. -/
def isNumeral (cs : List Char) : Bool :=
  let unsigned := match cs with
    | '+' :: rest => rest
    | '-' :: rest => rest
    | cs => cs
  let whole := unsigned.takeWhile Char.isDigit
  let (fraction, afterFraction) := match unsigned.drop whole.length with
    | '.' :: rest => (rest.takeWhile Char.isDigit, rest.dropWhile Char.isDigit)
    | rest => ([], rest)
  let exponent := match afterFraction with
    | [] => true
    | e :: '+' :: digits => e.toLower == 'e' && !digits.isEmpty && digits.all Char.isDigit
    | e :: '-' :: digits => e.toLower == 'e' && !digits.isEmpty && digits.all Char.isDigit
    | e :: digits => e.toLower == 'e' && !digits.isEmpty && digits.all Char.isDigit
  ["inf", "infinity", "nan"].contains (String.ofList unsigned).toLower ||
    (!(whole ++ fraction).isEmpty && exponent)

/-- The part of a text from one place up to another, counted in bytes; nothing if that would cut a character. -/
def cut? (given : String) (start stop : Nat) : Option String :=
  String.fromUTF8? (given.toUTF8.extract start stop)

/-- The number of bytes that characters take. -/
def width (cs : List Char) : Nat := (utf8Of cs).length

/-- The level after an equals sign, from its place to the end; nothing at all means every level. -/
def levelFrom? (given : String) (start : Nat) : Option Nat := do
  let level ← cut? given start given.utf8ByteSize
  if level.isEmpty then return everything else verbosity? level.toList

/-- What follows the brackets: nothing, or an equals sign and a level. -/
def afterBrackets? (given : String) (directive : Directive) (place : Nat) : List Char → Option Directive
  | [] => some directive
  | '=' :: _ => do return { directive with verbosity := ← levelFrom? given (place + 1) }
  | _ => none

/-- A condition in braces: the name of a field, perhaps with a value, which is a number or a pattern. -/
def readBraces? (given : String) (directive : Directive) (place : Nat) (cs : List Char) : Option Directive := do
  let inside := cs.takeWhile (· != '\x7d')
  let stop := place + width inside
  let condition ← cut? given place stop
  let parts := condition.splitOn "="
  if condition.isEmpty then none
  let directive := { directive with field := parts.head? }
  let directive ← match parts[1]? with
    | none => pure directive
    | some value =>
      if isNumeral value.toList || Pattern.isPattern value.toList then pure { directive with conditional := true }
      else none
  match cs.drop inside.length with
  | '\x7d' :: ']' :: rest => afterBrackets? given directive (stop + 2) rest
  | _ => none

/-- A condition in brackets: a circumstance, a field in braces or both. -/
def readBrackets? (given : String) (directive : Directive) (place : Nat) (cs : List Char) : Option Directive := do
  let inside := cs.takeWhile fun c => c != ']' && c != '\x7b'
  let stop := place + width inside
  let circumstance ← cut? given place stop
  match cs.drop inside.length with
  | ']' :: rest => afterBrackets? given { directive with conditional := true } (stop + 1) rest
  | '\x7b' :: rest => readBraces? given { directive with conditional := !circumstance.isEmpty } (stop + 1) rest
  | _ => none

/-- Reads a directive: a level, a target, or a target with conditions and a level.  Its parts are found in the text
without the whitespace around it, but they are cut out of the whole text, by the bytes that they are away from the
start: with whitespace around it, a level is no level but a target. -/
def read? (given : String) : Option Directive :=
  let all : Directive := { target := none, conditional := false, field := none, verbosity := everything }
  let trimmed := trimWhitespace given.toList
  let word := trimmed.takeWhile fun c => c != '=' && c != '['
  let place := width word
  match trimmed with
  | [] => none
  | '[' :: rest => readBrackets? given all 1 rest
  | c :: _ =>
    if !isOpening c then none
    else
      match trimmed.drop word.length with
      | '=' :: _ => do
        return { all with target := some (← cut? given 0 place), verbosity := ← levelFrom? given (place + 1) }
      | '[' :: rest => do readBrackets? given { all with target := some (← cut? given 0 place) } (place + 1) rest
      | _ =>
        match verbosity? given.toList with
        | some verbosity => some { all with verbosity }
        | none => some { all with target := some given }

/-! ### What a directive concerns -/

/-- Whether an event is one that the directive is about. -/
def concerns (directive : Directive) (event : Event) : Bool :=
  !directive.conditional &&
    (match directive.target with
      | none => true
      | some target => target.toList.isPrefixOf event.origin.toList) &&
    (match directive.field with
      | none => true
      | some field => field == "message" || event.fields.any fun (name, _) => name == field)

/-- Higher for a longer target; every target comes before none. -/
def reach (directive : Directive) : Nat :=
  match directive.target with
  | none => 0
  | some target => target.utf8ByteSize + 1

/-- Whether the first directive is at least as specific as the second. -/
def atLeastAsSpecific (a b : Directive) : Bool :=
  if a.reach ≠ b.reach then b.reach < a.reach
  else
    match a.field, b.field with
    | _, none => true
    | none, some _ => false
    | some x, some y => y < x || x == y

end Directive

/-- Directives in the order in which they were written. -/
structure LogFilter where
  directives : List Directive

namespace LogFilter

/-- Shows the events up to a level. -/
def upTo (level : Level) : LogFilter where
  directives := [{ target := none, conditional := false, field := none, verbosity := level.verbosity }]

/-- Reads directives between commas. -/
def read? (text : String) : Option LogFilter := do
  let parts := (text.splitOn ",").filter (!·.isEmpty)
  return { directives := ← parts.mapM Directive.read? }

/-- The directive that decides about an event. -/
def ruling? (filter : LogFilter) (event : Event) : Option Directive :=
  (filter.directives.filter (·.concerns event)).foldl
    (fun best directive =>
      match best with
      | none => some directive
      | some other => if directive.atLeastAsSpecific other then some directive else some other) none

/-- Whether an event is shown. -/
def shows (filter : LogFilter) (event : Event) : Bool :=
  match filter.ruling? event with
  | some directive => event.level.verbosity ≤ directive.verbosity
  | none => false

end LogFilter

/-! ### Log lines -/

/-- The value of a field in a log line. -/
def fieldText : FieldValue → String
  | .count n => toString n
  | .text value => quoted value
  | .display value => value
  | .path value => quoted value

/-- An event on a line: the time, its level, where it comes from, its message and its fields. -/
def logLine (stamp : String) (event : Event) : String :=
  let fields := event.fields.map fun (name, value) => " " ++ name ++ "=" ++ fieldText value
  stamp ++ event.level.name ++ " " ++ event.origin ++ ": " ++ event.message ++ String.join fields ++ "\n"

/-- The lines of the events that are shown, each with a time of its own. -/
def logLines (stamp : Nat → String) (filter : LogFilter) (events : List Event) : String :=
  String.join ((events.filter filter.shows).zipIdx.map fun (event, index) => logLine (stamp index) event)

end PipelineSelection.CommandLine
