import PipelineSelection.Text.Characters
import PipelineSelection.Document.Node

/-!
# JSON texts

The part of JSON that the wire formats use, strings, arrays and objects, written in a layout.  There are two: one line
without blanks, and one element a line, indented by two blanks for each level.
-/

namespace PipelineSelection

/-- A JSON value of strings, arrays and objects; the members of an object keep their order. -/
inductive Json where
  | string (value : String)
  | array (items : List Json)
  | object (members : List (String × Json))

namespace Json

/-! ### Strings -/

/-- A hexadecimal digit in lower case. -/
def hexDigit (n : Nat) : Char := Nat.digitChar n

/-- One character as it stands inside a JSON string: only the quotation mark, the backslash and the control
characters below the blank are escaped. -/
def escaped (c : Char) : List Char :=
  if c = '\x22' then ['\\', '\x22']
  else if c = '\\' then ['\\', '\\']
  else if c = '\x08' then ['\\', 'b']
  else if c = '\t' then ['\\', 't']
  else if c = '\n' then ['\\', 'n']
  else if c = '\x0c' then ['\\', 'f']
  else if c = '\r' then ['\\', 'r']
  else if c.toNat < 0x20 then ['\\', 'u', '0', '0', hexDigit (c.toNat / 16), hexDigit (c.toNat % 16)]
  else [c]

/-- A text as a JSON string. -/
def quote (s : String) : List Char :=
  '\x22' :: (s.toList.flatMap escaped ++ ['\x22'])

/-! ### Layouts -/

/-- The blanks between the tokens of a value. -/
structure Layout where
  /-- The blanks before what stands at an indentation level: an element, or the bracket that closes its container. -/
  before : Nat → List Char
  /-- The blanks after a colon. -/
  colon : List Char

/-- One line without blanks. -/
def Layout.compact : Layout where
  before _ := []
  colon := []

/-- One element a line, indented by two blanks for each level. -/
def Layout.pretty : Layout where
  before level := '\n' :: List.replicate (2 * level) ' '
  colon := [' ']

mutual

/-- The value in a layout; `level` is the indentation of the line it starts on. -/
def write (layout : Layout) (level : Nat) : Json → List Char
  | .string value => quote value
  | .array [] => ['[', ']']
  | .array (item :: items) =>
    '[' :: (writeItems layout (level + 1) (item :: items) ++ layout.before level ++ [']'])
  | .object [] => ['{', '}']
  | .object (member :: members) =>
    '{' :: (writeMembers layout (level + 1) (member :: members) ++ layout.before level ++ ['}'])

/-- The elements of an array with commas between them. -/
def writeItems (layout : Layout) (level : Nat) : List Json → List Char
  | [] => []
  | [item] => layout.before level ++ item.write layout level
  | item :: next :: rest =>
    layout.before level ++ item.write layout level ++ ',' :: writeItems layout level (next :: rest)

/-- The members of an object with commas between them. -/
def writeMembers (layout : Layout) (level : Nat) : List (String × Json) → List Char
  | [] => []
  | [(key, value)] => layout.before level ++ quote key ++ ':' :: (layout.colon ++ value.write layout level)
  | (key, value) :: next :: rest =>
    layout.before level ++ quote key ++
      ':' :: (layout.colon ++ value.write layout level ++ ',' :: writeMembers layout level (next :: rest))

end

/-- The value on one line without blanks. -/
def compact (json : Json) : List Char := json.write .compact 0

/-- The value with one element a line. -/
def pretty (json : Json) : List Char := json.write .pretty 0

def toCompactText (json : Json) : String := String.ofList json.compact

def toPrettyText (json : Json) : String := String.ofList json.pretty

/-! ### As a document -/

mutual

/-- The tree of a document that holds just this value. -/
def toNode : Json → Node
  | .string value => .text value
  | .array items => .sequence (toNodes items)
  | .object members => .table (toMembers members)

def toNodes : List Json → List Node
  | [] => []
  | item :: rest => item.toNode :: toNodes rest

def toMembers : List (String × Json) → List (Option String × Node)
  | [] => []
  | (key, value) :: rest => (some key, value.toNode) :: toMembers rest

end

end Json

end PipelineSelection
