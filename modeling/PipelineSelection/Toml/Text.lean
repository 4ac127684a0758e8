import PipelineSelection.Text.Characters

/-!
# TOML: blanks, strings and keys

The lexical parts of TOML 1.0.  Every function takes the characters that are left and returns what it read with
the characters left after it, or none where the grammar does not allow what stands there.
-/

namespace PipelineSelection.Toml

/-! ### Blanks and lines -/

def isBlank (c : Char) : Bool := c == ' ' || c == '\t'

def skipBlanks (cs : List Char) : List Char := cs.dropWhile isBlank

/-- A line break: a line feed, alone or after a carriage return. -/
def lineBreak? : List Char → Option (List Char)
  | '\n' :: rest => some rest
  | '\r' :: '\n' :: rest => some rest
  | _ => none

/-- Characters allowed in comments and literal strings: the tab and everything that is not a control character. -/
def isPlain (c : Char) : Bool :=
  c == '\t' || (0x20 ≤ c.toNat && c.toNat ≤ 0x7E) || 0x80 ≤ c.toNat

/-- Skips a comment, if there is one, up to the end of its line. -/
def skipComment : List Char → List Char
  | '#' :: rest => rest.dropWhile isPlain
  | cs => cs

/-- The end of a line after an expression: blanks, perhaps a comment, and a line break or the end of the text. -/
def lineEnd? (cs : List Char) : Option (List Char) :=
  match skipComment (skipBlanks cs) with
  | [] => some []
  | rest => lineBreak? rest

/-- Skips blanks, line breaks and comments between the elements of an array; a comment needs a line break. -/
def skipLines : (fuel : Nat) → List Char → Option (List Char)
  | 0, _ => none
  | fuel + 1, cs =>
    match skipBlanks cs with
    | '#' :: rest => do skipLines fuel (← lineBreak? (skipComment ('#' :: rest)))
    | '\n' :: rest => skipLines fuel rest
    | '\r' :: rest => do skipLines fuel (← lineBreak? ('\r' :: rest))
    | rest => some rest

/-! ### Strings -/

/-- The character of an escape, after the backslash. -/
def escape? : List Char → Option (Char × List Char)
  | 'b' :: rest => some ('\x08', rest)
  | 't' :: rest => some ('\t', rest)
  | 'n' :: rest => some ('\n', rest)
  | 'f' :: rest => some ('\x0c', rest)
  | 'r' :: rest => some ('\r', rest)
  | '\x22' :: rest => some ('\x22', rest)
  | '\\' :: rest => some ('\\', rest)
  | 'u' :: rest => escapedCode? 4 rest
  | 'U' :: rest => escapedCode? 8 rest
  | _ => none
where
  /-- A code point of exactly `digits` hexadecimal digits. -/
  escapedCode? (digits : Nat) (cs : List Char) : Option (Char × List Char) :=
    if cs.length < digits then none
    else do return (← charOf? (← hexNumber? (cs.take digits)), cs.drop digits)

/-- The rest of a basic string, after its opening quotation mark. -/
def basicString? : (fuel : Nat) → List Char → Option (List Char × List Char)
  | 0, _ => none
  | fuel + 1, cs =>
    match cs with
    | [] => none
    | '\x22' :: rest => some ([], rest)
    | '\\' :: rest => do
      let (c, rest) ← escape? rest
      let (tail, rest) ← basicString? fuel rest
      return (c :: tail, rest)
    | c :: rest => do
      if !isPlain c then none
      let (tail, rest) ← basicString? fuel rest
      return (c :: tail, rest)

/-- The rest of a literal string, after its opening apostrophe. -/
def literalString? (cs : List Char) : Option (List Char × List Char) :=
  let isInside (c : Char) := isPlain c && c != '\x27'
  match cs.dropWhile isInside with
  | '\x27' :: rest => some (cs.takeWhile isInside, rest)
  | _ => none

/-- The delimiter of a multi-line string: three quotation marks or three apostrophes. -/
inductive Mark where
  | quotation
  | apostrophe
deriving DecidableEq

def Mark.char : Mark → Char
  | .quotation => '\x22'
  | .apostrophe => '\x27'

/-- Skips the blanks, and all line breaks and blanks after the first line break, that a backslash at the end of a
line takes out of a multi-line string. -/
def continuation? (cs : List Char) : Option (List Char) :=
  match lineBreak? (skipBlanks cs) with
  | some rest => some (skipAll rest)
  | none => none
where
  /-- Skips blanks and line breaks. -/
  skipAll : List Char → List Char
    | '\n' :: rest => skipAll rest
    | '\r' :: '\n' :: rest => skipAll rest
    | ' ' :: rest => skipAll rest
    | '\t' :: rest => skipAll rest
    | cs => cs

/-- The rest of a multi-line string, after its opening delimiter.  Up to two marks may stand before the closing
delimiter.  Line breaks are line feeds in the result. -/
def multiLine? (mark : Mark) : (fuel : Nat) → List Char → Option (List Char × List Char)
  | 0, _ => none
  | fuel + 1, cs =>
    let run := (cs.takeWhile (· == mark.char)).length
    if 6 ≤ run then none
    else if 3 ≤ run then some (List.replicate (run - 3) mark.char, cs.drop run)
    else
      match cs with
      | [] => none
      | '\n' :: rest => keep '\n' rest fuel
      | '\r' :: '\n' :: rest => keep '\n' rest fuel
      | '\\' :: rest =>
        if mark = .quotation then
          match continuation? rest with
          | some rest => multiLine? mark fuel rest
          | none => do
            let (c, rest) ← escape? rest
            keep c rest fuel
        else keep '\\' rest fuel
      | c :: rest => if isPlain c then keep c rest fuel else none
where
  /-- One character, then the rest of the string. -/
  keep (c : Char) (rest : List Char) (fuel : Nat) : Option (List Char × List Char) := do
    let (tail, rest) ← multiLine? mark fuel rest
    return (c :: tail, rest)

/-- A line break right after the opening delimiter is no part of the string. -/
def multiLineBody? (mark : Mark) (cs : List Char) : Option (List Char × List Char) :=
  multiLine? mark (cs.length + 1) ((lineBreak? cs).getD cs)

/-- A string of any of the four kinds. -/
def string? : List Char → Option (String × List Char)
  | '\x22' :: '\x22' :: '\x22' :: rest => finish (multiLineBody? .quotation rest)
  | '\x22' :: rest => finish (basicString? (rest.length + 1) rest)
  | '\x27' :: '\x27' :: '\x27' :: rest => finish (multiLineBody? .apostrophe rest)
  | '\x27' :: rest => finish (literalString? rest)
  | _ => none
where
  finish (found : Option (List Char × List Char)) : Option (String × List Char) :=
    found.map fun (cs, rest) => (String.ofList cs, rest)

/-! ### Keys -/

def isBareKeyChar (c : Char) : Bool :=
  c.isAlphanum || c == '-' || c == '_'

/-- A key without dots: bare, or a string on one line. -/
def simpleKey? : List Char → Option (String × List Char)
  | '\x22' :: rest => (basicString? (rest.length + 1) rest).map fun (cs, rest) => (String.ofList cs, rest)
  | '\x27' :: rest => (literalString? rest).map fun (cs, rest) => (String.ofList cs, rest)
  | cs =>
    match cs.takeWhile isBareKeyChar with
    | [] => none
    | name => some (String.ofList name, cs.dropWhile isBareKeyChar)

/-- The most parts a dotted key may have, and the deepest that values may be nested. -/
def deepest : Nat := 79

/-- The parts of a dotted key, with the blanks around it and around its dots. -/
def keyParts? : (fuel : Nat) → List Char → Option (List String × List Char)
  | 0, _ => none
  | fuel + 1, cs => do
    let (name, rest) ← simpleKey? (skipBlanks cs)
    match skipBlanks rest with
    | '.' :: rest =>
      let (names, rest) ← keyParts? fuel rest
      return (name :: names, rest)
    | rest => return ([name], rest)

/-- A key, as the path to it and its last part. -/
def key? (cs : List Char) : Option ((List String × String) × List Char) := do
  let (names, rest) ← keyParts? (cs.length + 1) cs
  if deepest < names.length then none
  let last ← names.getLast?
  return ((names.dropLast, last), rest)

end PipelineSelection.Toml
