import PipelineSelection.Event
import PipelineSelection.Failure

/-!
# What commands do

A command goes on step by step until a step fails.  On the way it prints and logs; what has been printed and logged
before a failure stays.  The computations that decide about pipelines log and may fail, and none of them prints.
-/

namespace PipelineSelection.CommandLine

/-- Why a command fails. -/
inductive CommandError where
  /-- There is no ordinary file at the path of the settings. -/
  | noSettings (path : String)
  | failed (failure : Failure)
deriving DecidableEq

/-- The explanation of an error; `explain` words what is wrong with the text of a settings file. -/
def CommandError.message (explain : ReadError → String) : CommandError → String
  | .noSettings path => "Settings file not found: " ++ path
  | .failed (.toml error) => explain error
  | .failed failure => failure.message

/-- What steps come to, with all that they have logged and printed by then. -/
structure Execution (α : Type) where
  result : Except CommandError α
  events : List Event
  printed : String

/-- Lines, each with a line break at its end. -/
def ofLines (lines : List String) : String :=
  String.join (lines.map (· ++ "\n"))

namespace Execution

variable {α β : Type}

/-- Goes on with the value of an execution that has succeeded. -/
def andThen (first : Execution α) (next : α → Execution β) : Execution β :=
  match first.result with
  | .ok value =>
    let rest := next value
    { result := rest.result, events := first.events ++ rest.events, printed := first.printed ++ rest.printed }
  | .error error => { result := .error error, events := first.events, printed := first.printed }

instance : Monad Execution where
  pure value := { result := .ok value, events := [], printed := "" }
  bind := andThen

def fail (error : CommandError) : Execution α := { result := .error error, events := [], printed := "" }

def log (event : Event) : Execution Unit := { result := .ok (), events := [event], printed := "" }

def print (text : String) : Execution Unit := { result := .ok (), events := [], printed := text }

/-- Prints a line, with a line break at its end. -/
def printLine (line : String) : Execution Unit := print (line ++ "\n")

/-- Prints one line after the other. -/
def printLines (lines : List String) : Execution Unit := lines.forM printLine

/-- A computation that logs and may fail. -/
def ofLogged (logged : Logged (Except Failure α)) : Execution α where
  result := logged.value.mapError .failed
  events := logged.events
  printed := ""

/-! ### One after another -/

section

variable {first : Execution α} {next : α → Execution β}

theorem bind_of_ok {value : α} (h : first.result = .ok value) : (first >>= next) = {
    result := (next value).result
    events := first.events ++ (next value).events
    printed := first.printed ++ (next value).printed } := by
  show andThen first next = _
  rw [andThen, h]

theorem bind_of_error {error : CommandError} (h : first.result = .error error) :
    (first >>= next) = { result := .error error, events := first.events, printed := first.printed } := by
  show andThen first next = _
  rw [andThen, h]

end

theorem pure_bind (value : α) (next : α → Execution β) : (pure value >>= next) = next value := by
  rw [bind_of_ok rfl]
  simp [pure]

/-- Texts that are printed one after the other are one text. -/
theorem print_bind_print (text rest : String) : (print text >>= fun _ => print rest) = print (text ++ rest) :=
  rfl

theorem printLines_eq (lines : List String) : printLines lines = print (ofLines lines) := by
  induction lines with
  | nil => rfl
  | cons line lines ih =>
    have more : printLines (line :: lines) = (printLine line >>= fun _ => printLines lines) := rfl
    rw [more, ih, printLine, print_bind_print, ofLines, ofLines, List.map_cons, String.join_cons]

theorem printLine_eq (line : String) : printLine line = printLines [line] := by
  simp [printLines_eq, ofLines, printLine]

theorem printLines_bind (lines rest : List String) :
    (printLines lines >>= fun _ => printLines rest) = printLines (lines ++ rest) := by
  rw [printLines_eq, printLines_eq, printLines_eq, print_bind_print, ofLines, ofLines, ofLines, List.map_append,
    String.join_append]

theorem forM_printLines (list : List α) (lines : α → List String) :
    (list.forM fun a => printLines (lines a)) = printLines (list.flatMap lines) := by
  induction list with
  | nil => rfl
  | cons a list ih =>
    have more : ((a :: list).forM fun a => printLines (lines a)) =
        (printLines (lines a) >>= fun _ => list.forM fun a => printLines (lines a)) := rfl
    rw [more, ih, printLines_bind, List.flatMap_cons]

/-! ### Executions that print nothing -/

/-- Nothing is printed, whatever the execution comes to. -/
def Silent (execution : Execution α) : Prop := execution.printed = ""

theorem silent_pure (value : α) : (pure value : Execution α).Silent := rfl

theorem silent_fail (error : CommandError) : (fail error : Execution α).Silent := rfl

theorem silent_log (event : Event) : (log event).Silent := rfl

theorem silent_ofLogged (logged : Logged (Except Failure α)) : (ofLogged logged).Silent := rfl

theorem Silent.bind {first : Execution α} {next : α → Execution β} (silent : first.Silent)
    (silent' : ∀ value, (next value).Silent) : (first >>= next).Silent := by
  cases h : first.result with
  | error error =>
    rw [bind_of_error h]
    exact silent
  | ok value =>
    rw [bind_of_ok h, Silent, silent, silent' value]
    rfl

end Execution

end PipelineSelection.CommandLine
