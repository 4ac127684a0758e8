import PipelineSelection.Document.Reader

/-!
# Reading records

A record is described by its fields in declared order, each with a reader and perhaps a default.  It may be
written as a table, whose keys come in any order, at most once each, among keys that are passed over, or as a
sequence of the fields in declared order.  Fields that are not given take their defaults.
-/

namespace PipelineSelection

/-- The fields of a record in declared order, with the types of their values. -/
inductive Fields : List Type → Type 1 where
  | nil : Fields []
  | cons {α : Type} {types : List Type} (name : String) (reader : Reader α) (default : Option α)
      (rest : Fields types) : Fields (α :: types)

/-- The values given so far for the fields of a record. -/
abbrev Slots : List Type → Type
  | [] => Unit
  | α :: types => Option α × Slots types

/-- A value for every field of a record. -/
abbrev Values : List Type → Type
  | [] => Unit
  | α :: types => α × Values types

/-- No value given yet. -/
def Slots.empty : (types : List Type) → Slots types
  | [] => ()
  | _ :: types => (none, Slots.empty types)

namespace Fields

def count {types : List Type} : Fields types → Nat
  | .nil => 0
  | .cons _ _ _ rest => rest.count + 1

/-- Reads the value of one key into its slot.  A key of no field is passed over, however its value looks as long
as it follows the grammar. -/
def put (dialect : Dialect) (key : String) (node : Node) :
    {types : List Type} → Fields types → Slots types → Except ReadError (Slots types)
  | _, .nil, slots => if node.intact then .ok slots else .error .malformed
  | _, .cons name reader _ rest, (slot, slots) =>
    if key = name then
      if slot.isSome then .error (.duplicateField name)
      else do
        let value ← reader dialect node
        return (some value, slots)
    else do
      let slots ← rest.put dialect key node slots
      return (slot, slots)

/-- Reads the members of a table in the order in which they stand. -/
def putMembers (dialect : Dialect) {types : List Type} (fields : Fields types) :
    Slots types → List (Option String × Node) → Except ReadError (Slots types)
  | slots, [] => .ok slots
  | _, (none, _) :: _ => .error .malformed
  | slots, (some key, node) :: members => do
    let slots ← fields.put dialect key node slots
    putMembers dialect fields slots members

/-- Fills the slots left empty from the defaults; `missing` is the error for a field that has none. -/
def complete (missing : String → ReadError) :
    {types : List Type} → Fields types → Slots types → Except ReadError (Values types)
  | _, .nil, _ => .ok ()
  | _, .cons name _ default rest, (slot, slots) =>
    match slot.or default with
    | some value => do
      let values ← rest.complete missing slots
      return (value, values)
    | none => .error (missing name)

/-- Reads the elements of a sequence into the fields in declared order, and returns the elements left over. -/
def putItems (dialect : Dialect) (missing : String → ReadError) :
    {types : List Type} → Fields types → List Node → Except ReadError (Values types × List Node)
  | _, .nil, items => .ok ((), items)
  | _, .cons _ reader _ rest, node :: items => do
    let value ← reader dialect node
    let (values, surplus) ← rest.putItems dialect missing items
    return ((value, values), surplus)
  | _, .cons name reader default rest, [] => do
    let values ← (Fields.cons name reader default rest).complete missing (Slots.empty _)
    return (values, [])

end Fields

/-- The elements left over after the last field, as the format sees them. -/
def Surplus.check (policy : Surplus) (present : Nat) (surplus : List Node) : Except ReadError Unit :=
  match policy, surplus with
  | _, [] => .ok ()
  | .ignored, _ => .ok ()
  | .malformed, _ => .error .malformed
  | .counted, _ => .error (.tooLong present)

/-- The reader of the record called `name`, whose values `make` puts together. -/
def Reader.record {α : Type} {types : List Type} (name : String) (fields : Fields types) (make : Values types → α) :
    Reader α := fun dialect node =>
  match node with
  | .table members => do
    let slots ← fields.putMembers dialect (Slots.empty types) members
    let values ← fields.complete .missingField slots
    return make values
  | .sequence items => do
    let (values, surplus) ← fields.putItems dialect (fun _ => .tooShort items.length name fields.count) items
    dialect.surplus.check items.length surplus
    return make values
  | other => .error (other.mismatch (.record name))

end PipelineSelection
