import PipelineSelection.Document.Reader

/-!
# Deleting keys

A deletion says for every place of a tree which keys are taken out of the table that stands there.  What is left of a
tree keeps the order of its keys (`Node.without`); elements of sequences are never taken out, but keys inside them may
be.

Whatever is deleted, the text behind the tree still follows its grammar (`Node.intact_without`), and what a table has
left for a key depends on the members of that key only (`Node.filter_membersWithout`).
-/

namespace PipelineSelection

/-- A step from a node to one below it. -/
inductive Step where
  | key (name : String)
  | item (index : Nat)
deriving DecidableEq

/-- Whether a key is deleted from the table at a place. -/
abbrev Deletion := (place : List Step) → (name : String) → Bool

namespace Deletion

/-- What is deleted below one step. -/
def under (gone : Deletion) (step : Step) : Deletion := fun place => gone (step :: place)

/-- Nothing is deleted. -/
def nothing : Deletion := fun _ _ => false

@[simp] theorem nothing_under (step : Step) : nothing.under step = nothing := rfl

/-- Whether a place is deleted, by its own key or by one on the way to it. -/
def covers (gone : Deletion) : List Step → Bool
  | [] => false
  | .key name :: place => gone [] name || (gone.under (.key name)).covers place
  | .item index :: place => (gone.under (.item index)).covers place

end Deletion

namespace Node

mutual

/-- What is left of a tree. -/
def without (gone : Deletion) : Node → Node
  | .sequence items => .sequence (itemsWithout gone 0 items)
  | .table members => .table (membersWithout gone members)
  | node => node

/-- What is left of the items of a sequence from an index on. -/
def itemsWithout (gone : Deletion) : (start : Nat) → List Node → List Node
  | _, [] => []
  | start, node :: rest => node.without (gone.under (.item start)) :: itemsWithout gone (start + 1) rest

/-- The members of the keys that are not deleted. -/
def membersWithout (gone : Deletion) : List (Option String × Node) → List (Option String × Node)
  | [] => []
  | (none, node) :: rest => (none, node) :: membersWithout gone rest
  | (some name, node) :: rest =>
    if gone [] name then membersWithout gone rest
    else (some name, node.without (gone.under (.key name))) :: membersWithout gone rest

end

variable {gone : Deletion} {members : List (Option String × Node)}

theorem itemsWithout_eq_mapIdx (gone : Deletion) (start : Nat) (items : List Node) : itemsWithout gone start items =
    items.mapIdx fun index node => node.without (gone.under (.item (start + index))) := by
  induction items generalizing start with
  | nil => rfl
  | cons node rest ih =>
    rw [itemsWithout, ih, List.mapIdx_cons]
    simp only [Nat.add_zero, Nat.add_assoc, Nat.add_comm 1]

/-- A key that is deleted has no member left, and any other one has those that it had. -/
theorem filter_membersWithout (gone : Deletion) (members : List (Option String × Node)) (name : String) :
    (membersWithout gone members).filter (·.1 == some name) = if gone [] name then [] else
      (members.filter (·.1 == some name)).map fun member => (some name, member.2.without (gone.under (.key name))) := by
  induction members with
  | nil => simp [membersWithout]
  | cons member members ih =>
    obtain ⟨_ | key, node⟩ := member
    · rw [membersWithout, List.filter_cons_of_neg (by simp), List.filter_cons_of_neg (by simp), ih]
    · by_cases own : key = name
      · subst own
        rw [membersWithout, List.filter_cons_of_pos (by simp)]
        by_cases deleted : gone [] key = true
        · rw [if_pos deleted, ih, if_pos deleted, if_pos deleted]
        · rw [if_neg deleted, List.filter_cons_of_pos (by simp), ih, if_neg deleted, if_neg deleted, List.map_cons]
      · rw [membersWithout, @List.filter_cons_of_neg _ _ (some key, node) members (by simp [own]), ← ih]
        by_cases deleted : gone [] key = true
        · rw [if_pos deleted]
        · rw [if_neg deleted, List.filter_cons_of_neg (by simp [own])]

mutual

theorem intact_without (gone : Deletion) : (node : Node) → node.intact = true → (node.without gone).intact = true
  | .null, _ | .bool _, _ | .integer _, _ | .real _, _ | .text _, _ | .unreadable, _ => rfl
  | .sequence items, h => intactItems_without gone 0 items h
  | .table members, h => intactMembers_without gone members h

private theorem intactItems_without (gone : Deletion) (start : Nat) : (items : List Node) →
    Node.intactItems items = true → Node.intactItems (itemsWithout gone start items) = true
  | [], _ => rfl
  | item :: items, h => by
    obtain ⟨one, rest⟩ := Bool.and_eq_true_iff.1 h
    exact Bool.and_eq_true_iff.2 ⟨intact_without _ item one, intactItems_without gone (start + 1) items rest⟩

private theorem intactMembers_without (gone : Deletion) : (members : List (Option String × Node)) →
    Node.intactMembers members = true → Node.intactMembers (membersWithout gone members) = true
  | [], _ => rfl
  | (none, node) :: members, h => by
    obtain ⟨one, rest⟩ := Bool.and_eq_true_iff.1 h
    exact Bool.and_eq_true_iff.2 ⟨one, intactMembers_without gone members rest⟩
  | (some name, node) :: members, h => by
    obtain ⟨one, rest⟩ := Bool.and_eq_true_iff.1 h
    have rest := intactMembers_without gone members rest
    rw [membersWithout]
    by_cases deleted : gone [] name = true
    · rwa [if_pos deleted]
    · rw [if_neg deleted]
      exact Bool.and_eq_true_iff.2 ⟨intact_without _ node one, rest⟩

end

/-- A member that is left has the key of a member that there was. -/
theorem exists_of_mem_membersWithout {key : Option String} {node : Node}
    (mem : (key, node) ∈ membersWithout gone members) :
    ∃ whole, (key, whole) ∈ members ∧ (whole.intact = true → node.intact = true) := by
  induction members with
  | nil => cases mem
  | cons member members ih =>
    have later : (key, node) ∈ membersWithout gone members →
        ∃ whole, (key, whole) ∈ member :: members ∧ (whole.intact = true → node.intact = true) := by
      intro mem
      obtain ⟨whole, mem, intact⟩ := ih mem
      exact ⟨whole, List.mem_cons_of_mem _ mem, intact⟩
    obtain ⟨_ | name, first⟩ := member
    · rcases List.mem_cons.1 mem with same | mem
      · cases same
        exact ⟨node, List.mem_cons_self .., id⟩
      · exact later mem
    · rw [membersWithout] at mem
      by_cases deleted : gone [] name = true
      · rw [if_pos deleted] at mem
        exact later mem
      · rw [if_neg deleted] at mem
        rcases List.mem_cons.1 mem with same | mem
        · cases same
          exact ⟨first, List.mem_cons_self .., intact_without _ first⟩
        · exact later mem

end Node

end PipelineSelection
