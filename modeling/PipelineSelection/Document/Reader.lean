import PipelineSelection.Document.Node
import PipelineSelection.Text.Quoted

/-!
# Reading values out of documents

A reader turns a node into a value of a type or says what is wrong with the first place that does not fit.  The
readers of texts and sequences are here, those of records in `PipelineSelection.Document.Record`.
-/

namespace PipelineSelection

/-! ### What can be wrong -/

/-- The kind of value that stands in a wrong place. -/
inductive Found where
  | null
  | bool (value : Bool)
  | integer (value : Int)
  | real (value : Binary64)
  | text (value : String)
  | sequence
  | map
deriving DecidableEq

/-- The kind of value that belongs in a place. -/
inductive Wanted where
  | string
  | sequence
  | map
  | unit
  | record (name : String)
deriving DecidableEq

/-- Why a document cannot be read as a value. -/
inductive ReadError where
  /-- The text does not follow its grammar, or a value that is needed denotes nothing. -/
  | malformed
  | wrongType (found : Found) (wanted : Wanted)
  | missingField (name : String)
  | duplicateField (name : String)
  | unknownScope (given : String)
  /-- A record written as a sequence ends before a required field. -/
  | tooShort (present : Nat) (record : String) (declared : Nat)
  /-- A record written as a sequence goes on after its last field. -/
  | tooLong (present : Nat)
deriving DecidableEq

/-- What becomes of the elements after the last field of a record written as a sequence. -/
inductive Surplus where
  | ignored
  | malformed
  | counted
deriving DecidableEq

/-- The points in which document formats differ once they are trees. -/
structure Dialect where
  surplus : Surplus
  /-- How a floating-point number is written in a message. -/
  numbers : NumberStyle

def Found.describe (dialect : Dialect) : Found → String
  | .null => "null"
  | .bool value => "boolean `" ++ (if value then "true" else "false") ++ "`"
  | .integer value => "integer `" ++ toString value ++ "`"
  | .real value => "floating point `" ++ value.render dialect.numbers ++ "`"
  | .text value => "string " ++ quoted value
  | .sequence => "sequence"
  | .map => "map"

def Wanted.describe : Wanted → String
  | .string => "a string"
  | .sequence => "a sequence"
  | .map => "a map"
  | .unit => "unit"
  | .record name => "struct " ++ name

/-- The explanation of an error; a text that breaks its grammar has none of its own. -/
def ReadError.message (dialect : Dialect) : ReadError → String
  | .malformed => "malformed document"
  | .wrongType found wanted => "invalid type: " ++ found.describe dialect ++ ", expected " ++ wanted.describe
  | .missingField name => "missing field `" ++ name ++ "`"
  | .duplicateField name => "duplicate field `" ++ name ++ "`"
  | .unknownScope given => "unknown variant `" ++ given ++ "`, expected `global` or `local`"
  | .tooShort present record declared =>
    "invalid length " ++ toString present ++ ", expected struct " ++ record ++ " with " ++ toString declared ++
      (if declared = 1 then " element" else " elements")
  | .tooLong present => "invalid length " ++ toString present ++ ", expected fewer elements in array"

/-- How a node looks to a reader that has no use for it. -/
def Node.found? : Node → Option Found
  | .null => some .null
  | .bool value => some (.bool value)
  | .integer value => some (.integer value)
  | .real value => some (.real value)
  | .text value => some (.text value)
  | .sequence _ => some .sequence
  | .table _ => some .map
  | .unreadable => none
  | .broken => none

/-- The error for a node of the wrong kind. -/
def Node.mismatch (node : Node) (wanted : Wanted) : ReadError :=
  match node.found? with
  | some found => .wrongType found wanted
  | none => .malformed

/-! ### Readers -/

/-- Reads a value of a type from a node. -/
abbrev Reader (α : Type) := Dialect → Node → Except ReadError α

namespace Reader

def text : Reader String := fun _ node =>
  match node with
  | .text value => .ok value
  | other => .error (other.mismatch .string)

/-- Reads every element of a sequence. -/
def listOf {α : Type} (item : Reader α) : Reader (List α) := fun dialect node =>
  match node with
  | .sequence items => items.mapM (item dialect)
  | other => .error (other.mismatch .sequence)

end Reader

end PipelineSelection
