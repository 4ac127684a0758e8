import PipelineSelection.Text.Characters

/-!
# Control codes

A terminal takes control characters, and the sequences that the escape character opens, for orders and not for text.
What is left of a text without them is what it shows: its visible characters and its whitespace.  Whitespace is shown
inside a sequence too, and so is what follows it: the sequence waits and goes on after the next control character.
-/

namespace PipelineSelection.CommandLine

/-- Whitespace of ASCII. -/
def isBlank (c : Char) : Bool :=
  c.isWhitespace || c.toNat = 0x0C

/-- Characters that stand for themselves where no sequence is open. -/
def isText (c : Char) : Bool :=
  isBlank c || (0x20 ≤ c.toNat && c.toNat ≠ 0x7F)

/-- Where in a text a terminal is, between characters. -/
inductive TerminalState where
  | text
  /-- After the escape character. -/
  | escape
  /-- In an escape sequence that has more than one character. -/
  | escapeTail
  /-- In an order of the terminal, such as a change of colour. -/
  | control
  /-- In an order of the operating system, which ends with the bell. -/
  | system
  /-- At the beginning of an order of a device. -/
  | device
  /-- After numbers in an order of a device. -/
  | deviceNumbers
  /-- After other marks in an order of a device. -/
  | deviceMarks
  /-- In a text for a device, which ends with a string terminator. -/
  | string
deriving DecidableEq

namespace TerminalState

/-- The state after a character of ASCII that starts or goes on with an escape sequence. -/
def afterEscape (n : Nat) : TerminalState :=
  if 0x20 ≤ n ∧ n ≤ 0x2F then escapeTail
  else if n = '['.toNat then control
  else if n = ']'.toNat then system
  else if n = 'P'.toNat then device
  else if n = 'X'.toNat ∨ n = '^'.toNat ∨ n = '_'.toNat then string
  else text

/-- The state after a character of ASCII at the beginning of an order of a device. -/
def afterDevice (state : TerminalState) (n : Nat) : TerminalState :=
  if 0x40 ≤ n then string
  else if n ≤ 0x2F then deviceMarks
  else if state = deviceMarks ∨ (state = deviceNumbers ∧ 0x3C ≤ n) then string
  else deviceNumbers

/-- Takes a character in that no shown one comes before; says whether it is shown. -/
def step (state : TerminalState) (c : Char) : TerminalState × Bool :=
  let n := c.toNat
  if n = 0x1B then (escape, false)
  else if n = 0x18 ∨ n = 0x1A then (text, false)
  else if 0x80 ≤ n then
    match state with
    | text => (text, true)
    | string => (if (utf8Of [c]).contains 0x9C then text else string, false)
    | other => (other, false)
  else if n < 0x20 then
    match state with
    | text | escape | escapeTail | control => (state, isBlank c)
    | system => (if n = 0x07 then text else system, false)
    | other => (other, false)
  else if n = 0x7F then (state, false)
  else
    match state with
    | text => (text, true)
    | escape => (afterEscape n, false)
    | escapeTail => (if n ≤ 0x2F then escapeTail else text, false)
    | control => (if n ≤ 0x3F then control else text, false)
    | system => (system, false)
    | string => (string, false)
    | device | deviceNumbers | deviceMarks => (afterDevice state n, false)

end TerminalState

/-- A terminal between two characters of a text. -/
structure Terminal where
  state : TerminalState
  /-- Whether the last character was shown, so that a sequence that is not at its end waits. -/
  showing : Bool

namespace Terminal

/-- Takes a character in; says whether it is shown.  A character beyond ASCII ends the sequence that waits. -/
def step (terminal : Terminal) (c : Char) : Terminal × Bool :=
  if terminal.showing && isText c then
    ({ terminal with state := if 0x80 ≤ c.toNat then .text else terminal.state }, true)
  else
    let (state, showing) := terminal.state.step c
    ({ state, showing }, showing)

/-- The characters that are shown. -/
def shown (terminal : Terminal) : List Char → List Char
  | [] => []
  | c :: rest =>
    let (next, isShown) := terminal.step c
    if isShown then c :: next.shown rest else next.shown rest

end Terminal

/-- A text without control codes. -/
def withoutCodes (s : String) : String :=
  String.ofList (({ state := .text, showing := false } : Terminal).shown s.toList)

end PipelineSelection.CommandLine
