/-!
# Selections

A user chooses pipelines by an allow-list, which enables the listed resources with the events given for each, or by
a deny-list, which enables every known resource but the listed ones.  A selection is taken as it comes; `mode?`
tells which of the two lists is in force.
-/

namespace PipelineSelection

/-- A resource to enable and the events to send for it. -/
structure AllowEntry where
  resource : String
  events : List String
deriving DecidableEq

/-- The lists that a user has given. -/
structure Selection where
  deny : List String
  allow : List AllowEntry
deriving DecidableEq

/-- The list in force. -/
inductive Mode where
  | allow (entries : List AllowEntry)
  | deny (names : List String)
deriving DecidableEq

/-- Why no list is in force. -/
inductive SelectionError where
  | missing
  | conflicting
deriving DecidableEq

def SelectionError.message : SelectionError → String
  | .missing => "Both allow-listed and deny-listed resources are missing"
  | .conflicting => "Supplying both allow-listed and deny-listed resources is not supported"

namespace Selection

/-- Nothing given. -/
def empty : Selection := { deny := [], allow := [] }

def ofAllow (entries : List AllowEntry) : Selection := { deny := [], allow := entries }

def ofDeny (names : List String) : Selection := { deny := names, allow := [] }

/-- The list in force, if exactly one of the lists holds something. -/
def mode? (selection : Selection) : Except SelectionError Mode :=
  match selection.allow, selection.deny with
  | [], [] => .error .missing
  | _ :: _, _ :: _ => .error .conflicting
  | entry :: entries, [] => .ok (.allow (entry :: entries))
  | [], name :: names => .ok (.deny (name :: names))

theorem mode?_of_allow {selection : Selection} (allow : selection.allow ≠ []) (deny : selection.deny = []) :
    selection.mode? = .ok (.allow selection.allow) := by
  unfold mode?
  cases h : selection.allow with
  | nil => exact absurd h allow
  | cons entry entries => simp [deny]

theorem mode?_of_deny {selection : Selection} (deny : selection.deny ≠ []) (allow : selection.allow = []) :
    selection.mode? = .ok (.deny selection.deny) := by
  unfold mode?
  cases h : selection.deny with
  | nil => exact absurd h deny
  | cons name names => simp [allow]

theorem mode?_of_empty {selection : Selection} (allow : selection.allow = []) (deny : selection.deny = []) :
    selection.mode? = .error .missing := by
  unfold mode?
  rw [allow, deny]

theorem mode?_of_both {selection : Selection} (allow : selection.allow ≠ []) (deny : selection.deny ≠ []) :
    selection.mode? = .error .conflicting := by
  unfold mode?
  cases h : selection.allow with
  | nil => exact absurd h allow
  | cons entry entries =>
    cases h' : selection.deny with
    | nil => exact absurd h' deny
    | cons name names => rfl

/-- The first entry of the allow-list for a resource. -/
def entryFor? (selection : Selection) (resource : String) : Option AllowEntry :=
  selection.allow.find? (·.resource == resource)

/-- Whether a resource is on the deny-list. -/
def denies (selection : Selection) (resource : String) : Bool :=
  selection.deny.any (· == resource)

theorem denies_iff {selection : Selection} {resource : String} :
    selection.denies resource = true ↔ resource ∈ selection.deny := by
  simp [denies]

end Selection

end PipelineSelection
