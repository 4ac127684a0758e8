import PipelineSelection.Text.LowerCase

/-!
# Scopes

The kinds of resources that an agent watches are of two scopes.  A scope has a name for configuration and output;
where a user gives it, its letters may be of either case.
-/

namespace PipelineSelection

/-- Where the resources of a kind live; scopes are ordered as they stand here. -/
inductive Scope where
  /-- In the cluster as a whole. -/
  | cluster
  /-- In a namespace of the cluster. -/
  | namespaced
deriving DecidableEq, Hashable, Ord

/-- A text was given for a scope and names none. -/
structure InvalidScope where
  given : String
deriving DecidableEq

def InvalidScope.message (error : InvalidScope) : String :=
  "Invalid scope: " ++ error.given ++ " (expected 'global' or 'local')"

namespace Scope

instance : LT Scope := ltOfOrd

instance (a b : Scope) : Decidable (a < b) := inferInstanceAs (Decidable (compare a b = .lt))

/-- All scopes, in the order in which they are resolved and reported. -/
def all : List Scope := [.cluster, .namespaced]

/-- The place of a scope among all scopes. -/
def position (scope : Scope) : Nat := all.idxOf scope

/-- The name of a scope in configuration and output. -/
def name : Scope → String
  | .cluster => "global"
  | .namespaced => "local"

/-- The scope with exactly this name. -/
def ofName? (name : String) : Option Scope :=
  all.find? (·.name == name)

/-- Reads the name of a scope in letters of either case; nothing around it is trimmed. -/
def parse (given : String) : Except InvalidScope Scope :=
  match ofName? (lowerCase given) with
  | some scope => .ok scope
  | none => .error { given }

theorem mem_all (scope : Scope) : scope ∈ all := by
  cases scope <;> simp [all]

/-- All scopes are listed in their order. -/
theorem all_increasing : all.Pairwise (· < ·) := by
  decide

theorem lt_iff_position_lt {scope other : Scope} : scope < other ↔ scope.position < other.position := by
  cases scope <;> cases other <;> decide

theorem lt_irrefl (scope : Scope) : ¬ scope < scope :=
  fun before => Nat.lt_irrefl _ (lt_iff_position_lt.1 before)

@[simp] theorem ofName?_name (scope : Scope) : ofName? scope.name = some scope := by
  cases scope <;> decide

theorem name_inj {scope other : Scope} (h : scope.name = other.name) : scope = other := by
  have same := congrArg ofName? h
  rw [ofName?_name, ofName?_name] at same
  exact Option.some.inj same

theorem ofName?_eq_some {name : String} {scope : Scope} : ofName? name = some scope ↔ name = scope.name := by
  constructor
  · intro h
    rw [ofName?] at h
    have same := List.find?_some h
    exact (beq_iff_eq.1 same).symm
  · rintro rfl
    exact ofName?_name scope

end Scope

end PipelineSelection
