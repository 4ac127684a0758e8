import PipelineSelection.Document.Reader
import PipelineSelection.Toml.Scalar
import PipelineSelection.Toml.Table

/-!
# Reading TOML

From a text to the tree of what it holds, for TOML 1.0.  Keys stand in the tree in the order in which the document
defines them.
-/

namespace PipelineSelection.Toml

/-! ### Values -/

mutual

/-- Reads a value; `depth` is how many levels of arrays and inline tables it may still open. -/
def value? : (fuel depth : Nat) → List Char → Option (Node × List Char)
  | 0, _, _ => none
  | fuel + 1, depth, cs =>
    match cs with
    | '[' :: rest =>
      match depth with
      | 0 => none
      | depth + 1 => (elements? fuel depth rest).map fun (items, rest) => (.sequence items, rest)
    | '{' :: rest =>
      match depth with
      | 0 => none
      | depth + 1 =>
        match skipBlanks rest with
        | '}' :: rest => some (.table [], rest)
        | rest => (pairs? fuel depth (.opened []) rest).map fun (t, rest) => (t.toNode, rest)
    | '\x22' :: _ => (string? cs).map fun (s, rest) => (.text s, rest)
    | '\x27' :: _ => (string? cs).map fun (s, rest) => (.text s, rest)
    | _ => scalar? cs

/-- Reads the elements of an array up to its closing bracket, before which a comma may stand. -/
def elements? : (fuel depth : Nat) → List Char → Option (List Node × List Char)
  | 0, _, _ => none
  | fuel + 1, depth, cs => do
    match ← skipLines (cs.length + 1) cs with
    | ']' :: rest => return ([], rest)
    | cs =>
      let (node, rest) ← value? fuel depth cs
      match ← skipLines (rest.length + 1) rest with
      | ']' :: rest => return ([node], rest)
      | ',' :: rest =>
        let (items, rest) ← elements? fuel depth rest
        return (node :: items, rest)
      | _ => none

/-- Reads the pairs of an inline table up to its closing brace, on one line and without a comma at the end. -/
def pairs? : (fuel depth : Nat) → Table → List Char → Option (Table × List Char)
  | 0, _, _, _ => none
  | fuel + 1, depth, t, cs => do
    let ((path, key), rest) ← key? cs
    let (node, rest) ← value? fuel depth (skipBlanks (← skipChar? '=' rest))
    let t ← t.define path key node
    match skipBlanks rest with
    | '}' :: rest => return (t, rest)
    | ',' :: rest => pairs? fuel depth t rest
    | _ => none

end

/-! ### Documents -/

/-- The document read so far and the path of the table that keys are added to. -/
structure Draft where
  root : Table
  current : List String

/-- The key between the brackets of a header, and what follows the closing brackets. -/
def header? (brackets : Nat) (cs : List Char) : Option ((List String × String) × List Char) := do
  let (key, rest) ← key? cs
  if rest.take brackets = List.replicate brackets ']' then return (key, rest.drop brackets) else none

/-- Reads one expression, after the blanks before it, to the end of its line. -/
def expression? (draft : Draft) : List Char → Option (Draft × List Char)
  | '[' :: '[' :: rest => do
    let ((path, key), rest) ← header? 2 rest
    let root ← draft.root.openElement path key
    return ({ root := root, current := path ++ [key] }, ← lineEnd? rest)
  | '[' :: rest => do
    let ((path, key), rest) ← header? 1 rest
    let root ← draft.root.openTable path key
    return ({ root := root, current := path ++ [key] }, ← lineEnd? rest)
  | cs => do
    let ((path, key), rest) ← key? cs
    let rest := skipBlanks (← skipChar? '=' rest)
    let (node, rest) ← value? (2 * rest.length + 2) deepest rest
    let root ← draft.root.modifyAt false (·.define path key node) draft.current
    return ({ draft with root := root }, ← lineEnd? rest)

/-- Reads expressions, comments and empty lines to the end of the text. -/
def expressions? : (fuel : Nat) → Draft → List Char → Option Draft
  | 0, _, _ => none
  | fuel + 1, draft, cs =>
    match skipBlanks cs with
    | [] => some draft
    | '#' :: rest => do expressions? fuel draft (← lineEnd? ('#' :: rest))
    | '\n' :: rest => expressions? fuel draft rest
    | '\r' :: rest => do expressions? fuel draft (← lineBreak? ('\r' :: rest))
    | cs => do
      let (draft, rest) ← expression? draft cs
      expressions? fuel draft rest

/-- Reads a whole document; a byte order mark at its start is skipped. -/
def document? (text : String) : Option Node :=
  let cs := match text.toList with
    | '\uFEFF' :: rest => rest
    | cs => cs
  (expressions? (cs.length + 1) { root := .opened [], current := [] } cs).map (·.root.toNode)

end Toml

/-- Sections of settings take no notice of surplus elements; numbers in messages never have an
exponent, and of two decimals that are equally near they show the larger. -/
def Dialect.toml : Dialect where
  surplus := .ignored
  numbers := { tie := .outward, layout := Decimal.positional }

/-- Reads a value from a TOML document. -/
def Reader.ofToml {α : Type} (reader : Reader α) (text : String) : Except ReadError α :=
  match Toml.document? text with
  | some node => reader .toml node
  | none => .error .malformed

end PipelineSelection
