import PipelineSelection.Decimal.Shortest

/-!
# Documents as trees

What is found in a structured text, in the order in which it stands there.  A tree may be incomplete: where the
text stops following its grammar there is a `broken` node and nothing after it, so that a reader that walks the
tree from the front meets the first problem of the text first, whichever kind it is.
-/

namespace PipelineSelection

/-- A value found in a document. -/
inductive Node where
  | null
  | bool (value : Bool)
  | integer (value : Int)
  | real (value : Binary64)
  | text (value : String)
  | sequence (items : List Node)
  /-- Repeated keys are kept.  A key is absent when it follows the grammar but its escapes denote no text. -/
  | table (members : List (Option String × Node))
  /-- A scalar that follows the grammar and denotes no value, such as a number beyond every range. -/
  | unreadable
  /-- The text stops following its grammar here. -/
  | broken

namespace Node

mutual

/-- Whether the text behind the node follows its grammar to the end. -/
def intact : Node → Bool
  | .sequence items => intactItems items
  | .table members => intactMembers members
  | .broken => false
  | _ => true

def intactItems : List Node → Bool
  | [] => true
  | node :: rest => node.intact && intactItems rest

def intactMembers : List (Option String × Node) → Bool
  | [] => true
  | (_, node) :: rest => node.intact && intactMembers rest

end

/-! ### Equality -/

mutual

/-- Compares two nodes, first by their kinds. -/
def decEq (a b : Node) : Decidable (a = b) :=
  if kind : a.ctorIdx = b.ctorIdx then
    match a, b, kind with
    | .null, .null, _ | .unreadable, .unreadable, _ | .broken, .broken, _ => isTrue rfl
    | .bool a, .bool b, _ => decidable_of_iff (a = b) (by simp)
    | .integer a, .integer b, _ => decidable_of_iff (a = b) (by simp)
    | .real a, .real b, _ => decidable_of_iff (a = b) (by simp)
    | .text a, .text b, _ => decidable_of_iff (a = b) (by simp)
    | .sequence items, .sequence others, _ =>
      have := decEqItems items others
      decidable_of_iff (items = others) (by simp)
    | .table members, .table others, _ =>
      have := decEqMembers members others
      decidable_of_iff (members = others) (by simp)
  else isFalse fun same => kind (congrArg Node.ctorIdx same)

def decEqItems : (items others : List Node) → Decidable (items = others)
  | [], [] => isTrue rfl
  | [], _ :: _ => isFalse nofun
  | _ :: _, [] => isFalse nofun
  | a :: items, b :: others =>
    have := decEq a b
    have := decEqItems items others
    decidable_of_iff (a = b ∧ items = others) (by simp)

def decEqMembers : (members others : List (Option String × Node)) → Decidable (members = others)
  | [], [] => isTrue rfl
  | [], _ :: _ => isFalse nofun
  | _ :: _, [] => isFalse nofun
  | (key, a) :: members, (key', b) :: others =>
    have := decEq a b
    have := decEqMembers members others
    decidable_of_iff ((key = key' ∧ a = b) ∧ members = others) (by simp)

end

instance : DecidableEq Node := decEq

end Node

end PipelineSelection
