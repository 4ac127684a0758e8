import PipelineSelection.Document.Reader
import PipelineSelection.Json.Numeral
import PipelineSelection.Text.Characters

/-!
# Reading JSON

From a text to the tree of what it holds, following the grammar as far as the text does.  Every function takes the
characters that are left and returns those left after it, or none when the grammar was broken and reading stopped.
-/

namespace PipelineSelection.JsonParser

def isBlank (c : Char) : Bool :=
  c == ' ' || c == '\t' || c == '\n' || c == '\r'

def skipBlanks (cs : List Char) : List Char := cs.dropWhile isBlank

/-! ### Strings -/

/-- A part of a string: a character, or a UTF-16 code unit given by an escape. -/
inductive Piece where
  | char (c : Char)
  | unit (n : Nat)

/-- The code unit of four hexadecimal digits. -/
def codeUnit? (a b c d : Char) : Option Nat :=
  hexNumber? [a, b, c, d]

/-- The character of an escape of one letter. -/
def shortEscape : Char → Option Char
  | '\x22' => some '\x22'
  | '\\' => some '\\'
  | '/' => some '/'
  | 'b' => some '\x08'
  | 'f' => some '\x0c'
  | 'n' => some '\n'
  | 'r' => some '\r'
  | 't' => some '\t'
  | _ => none

/-- The parts of a string up to its closing quotation mark, and what follows it. -/
def pieces : List Char → Option (List Piece × List Char)
  | [] => none
  | '\x22' :: rest => some ([], rest)
  | '\\' :: 'u' :: a :: b :: c :: d :: rest => do
    let unit ← codeUnit? a b c d
    let (tail, rest) ← pieces rest
    return (.unit unit :: tail, rest)
  | '\\' :: e :: rest => do
    let c ← shortEscape e
    let (tail, rest) ← pieces rest
    return (.char c :: tail, rest)
  | c :: rest => do
    if c.toNat < 0x20 ∨ c = '\\' then none
    else
      let (tail, rest) ← pieces rest
      return (.char c :: tail, rest)

def isLead (n : Nat) : Bool := 0xD800 ≤ n && n ≤ 0xDBFF

def isTrail (n : Nat) : Bool := 0xDC00 ≤ n && n ≤ 0xDFFF

/-- The text of the parts of a string; surrogate code units have to come in pairs. -/
def join? : List Piece → Option (List Char)
  | [] => some []
  | .char c :: rest => do return c :: (← join? rest)
  | .unit lead :: .unit trail :: rest =>
    if isLead lead && isTrail trail then do
      return Char.ofNat (0x10000 + (lead - 0xD800) * 0x400 + (trail - 0xDC00)) :: (← join? rest)
    else if isLead lead || isTrail lead then none
    else do return Char.ofNat lead :: (← join? (.unit trail :: rest))
  | .unit n :: rest =>
    if isLead n || isTrail n then none else do return Char.ofNat n :: (← join? rest)

/-- The text of a string, after its opening quotation mark; it is absent when surrogates stand alone. -/
def string (cs : List Char) : Option (Option String × List Char) := do
  let (parts, rest) ← pieces cs
  return ((join? parts).map String.ofList, rest)

/-! ### Values -/

/-- What was read, and the characters left unless the grammar was broken. -/
abbrev Progress (α : Type) := α × Option (List Char)

mutual

/-- Reads one value.  `fuel` bounds the nested calls: a container and its first element take two for each
character. -/
def value : (fuel : Nat) → List Char → Progress Node
  | 0, _ => (.broken, none)
  | fuel + 1, cs =>
    match skipBlanks cs with
    | 'n' :: 'u' :: 'l' :: 'l' :: rest => (.null, some rest)
    | 't' :: 'r' :: 'u' :: 'e' :: rest => (.bool true, some rest)
    | 'f' :: 'a' :: 'l' :: 's' :: 'e' :: rest => (.bool false, some rest)
    | '\x22' :: rest =>
      match string rest with
      | some (some s, rest) => (.text s, some rest)
      | some (none, rest) => (.unreadable, some rest)
      | none => (.broken, none)
    | '[' :: rest =>
      match skipBlanks rest with
      | ']' :: rest => (.sequence [], some rest)
      | rest =>
        let (items, left) := items fuel rest
        (.sequence items, left)
    | '{' :: rest =>
      match skipBlanks rest with
      | '}' :: rest => (.table [], some rest)
      | rest =>
        let (members, left) := members fuel rest
        (.table members, left)
    | rest =>
      match Numeral.read? rest with
      | some (numeral, rest) => (numeral.toNode, some rest)
      | none => (.broken, none)

/-- Reads the elements of an array up to its closing bracket; there is at least one. -/
def items : (fuel : Nat) → List Char → Progress (List Node)
  | 0, _ => ([.broken], none)
  | fuel + 1, cs =>
    match value fuel cs with
    | (node, none) => ([node], none)
    | (node, some rest) =>
      match skipBlanks rest with
      | ']' :: rest => ([node], some rest)
      | ',' :: rest =>
        let (tail, left) := items fuel rest
        (node :: tail, left)
      | _ => ([node, .broken], none)

/-- Reads the members of an object up to its closing brace; there is at least one. -/
def members : (fuel : Nat) → List Char → Progress (List (Option String × Node))
  | 0, _ => ([(none, .broken)], none)
  | fuel + 1, cs =>
    match skipBlanks cs with
    | '\x22' :: rest =>
      match string rest with
      | none => ([(none, .broken)], none)
      | some (key, rest) =>
        match skipBlanks rest with
        | ':' :: rest =>
          match value fuel rest with
          | (node, none) => ([(key, node)], none)
          | (node, some rest) =>
            match skipBlanks rest with
            | '}' :: rest => ([(key, node)], some rest)
            | ',' :: rest =>
              let (tail, left) := members fuel rest
              ((key, node) :: tail, left)
            | _ => ([(key, node), (none, .broken)], none)
        | _ => ([(key, .broken)], none)
    | _ => ([(none, .broken)], none)

end

/-- Reads the value at the front of a text. -/
def document (text : String) : Progress Node :=
  let cs := text.toList
  value (2 * cs.length + 2) cs

/-- Whether nothing but blanks is left. -/
def atEnd (left : Option (List Char)) : Bool :=
  match left with
  | some rest => (skipBlanks rest).isEmpty
  | none => false

end JsonParser

/-! ### Whole texts -/

/-- Large and small numbers have an exponent in messages. -/
def JsonParser.numbers : NumberStyle where
  tie := .toEven
  layout := Decimal.bounded

/-- JSON text breaks off a record at the first element too many. -/
def Dialect.jsonText : Dialect where
  surplus := .malformed
  numbers := JsonParser.numbers

/-- A JSON value that is there as a whole has its elements counted. -/
def Dialect.jsonValue : Dialect where
  surplus := .counted
  numbers := JsonParser.numbers

/-- Reads a value from a JSON text as far as the value goes, then requires the end of the text. -/
def Reader.ofJsonStream {α : Type} (reader : Reader α) (text : String) : Except ReadError α := do
  let (node, left) := JsonParser.document text
  let value ← reader .jsonText node
  if JsonParser.atEnd left then return value else .error .malformed

/-- Reads a value from a text that has to be JSON as a whole before its shape is looked at. -/
def Reader.ofJsonText {α : Type} (reader : Reader α) (text : String) : Except ReadError α :=
  let (node, left) := JsonParser.document text
  if node.intact && JsonParser.atEnd left then reader .jsonText node else .error .malformed

end PipelineSelection
