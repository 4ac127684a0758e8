import PipelineSelection.Document.Node

/-!
# TOML: building tables

A document defines tables by headers, by dotted keys and in passing, on the way to another table.  What may be
added to a table later depends on how it came to be, so a table under construction remembers that.
-/

namespace PipelineSelection.Toml

/-- What a key of a table under construction holds. -/
inductive Item where
  /-- A value written after a key; nothing can be added to it. -/
  | closed (node : Node)
  /-- A table; `passing` if no header has opened it, `dotted` if a dotted key has made it. -/
  | table (passing dotted : Bool) (members : List (String × Item))
  /-- The tables made by headers in double brackets, of which the last can be added to. -/
  | tables (elements : List (List (String × Item)))

/-- A table under construction. -/
structure Table where
  passing : Bool
  dotted : Bool
  members : List (String × Item)

namespace Table

/-- A table that a header has opened, or the document itself. -/
def opened (members : List (String × Item)) : Table :=
  { passing := false, dotted := false, members := members }

def toItem (t : Table) : Item := .table t.passing t.dotted t.members

def find? (t : Table) (key : String) : Option Item :=
  (t.members.find? (·.1 == key)).map (·.2)

/-- Replaces what a key holds, in its place. -/
def replace (t : Table) (key : String) (item : Item) : Table :=
  { t with members := t.members.map fun member => if member.1 == key then (key, item) else member }

/-- Adds a key at the end. -/
def append (t : Table) (key : String) (item : Item) : Table :=
  { t with members := t.members ++ [(key, item)] }

def erase (t : Table) (key : String) : Table :=
  { t with members := t.members.filter (·.1 != key) }

/-- Changes the table at the end of a path.  Tables missing on the way are made in passing; a dotted path makes
dotted ones and cannot enter a table that a header has opened. -/
def modifyAt (dotted : Bool) (change : Table → Option Table) : List String → Table → Option Table
  | [], t => change t
  | key :: path, t =>
    match t.find? key with
    | none => do
      let child ← modifyAt dotted change path { passing := true, dotted := dotted, members := [] }
      return t.append key child.toItem
    | some (.closed _) => none
    | some (.tables elements) => do
      let last ← modifyAt dotted change path (opened (← elements.getLast?))
      return t.replace key (.tables (elements.dropLast ++ [last.members]))
    | some (.table passing isDotted members) =>
      if dotted && !passing then none
      else do
        let child ← modifyAt dotted change path { passing := passing, dotted := isDotted, members := members }
        return t.replace key child.toItem

/-- Defines a key by a value.  A dotted path has to end in a table that dotted keys have made. -/
def define (path : List String) (key : String) (node : Node) (t : Table) : Option Table :=
  t.modifyAt true (dottedInsert path.isEmpty) path
where
  dottedInsert (plain : Bool) (t : Table) : Option Table :=
    if t.dotted == plain || (t.find? key).isSome then none else some (t.append key (.closed node))

/-- Opens a table by a header.  Only a table made in passing, and not by a dotted key, can be opened later; it
moves behind the other keys. -/
def openTable (path : List String) (key : String) (t : Table) : Option Table :=
  t.modifyAt false openKey path
where
  openKey (t : Table) : Option Table :=
    match t.find? key with
    | none => some (t.append key (opened []).toItem)
    | some (.table true false members) => some ((t.erase key).append key (opened members).toItem)
    | some _ => none

/-- Adds a table to an array of tables by a header in double brackets. -/
def openElement (path : List String) (key : String) (t : Table) : Option Table :=
  t.modifyAt false openKey path
where
  openKey (t : Table) : Option Table :=
    match t.find? key with
    | none => some (t.append key (.tables [[]]))
    | some (.tables elements) => some (t.replace key (.tables (elements ++ [[]])))
    | some _ => none

end Table

/-! ### Finished tables -/

mutual

def Item.toNode : Item → Node
  | .closed node => node
  | .table _ _ members => .table (membersToNodes members)
  | .tables elements => .sequence (elementsToNodes elements)

def membersToNodes : List (String × Item) → List (Option String × Node)
  | [] => []
  | (key, item) :: rest => (some key, item.toNode) :: membersToNodes rest

def elementsToNodes : List (List (String × Item)) → List Node
  | [] => []
  | members :: rest => .table (membersToNodes members) :: elementsToNodes rest

end

def Table.toNode (t : Table) : Node := t.toItem.toNode

end PipelineSelection.Toml
