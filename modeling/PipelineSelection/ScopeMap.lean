import PipelineSelection.Scope

/-!
# Maps keyed by scopes

A map holds at most one value for every scope and lists its keys in the order of scopes.  A scope whose list is
empty and a scope that is no key look alike through `entries` and differ through `keys`.
-/

namespace PipelineSelection

/-- At most one value for every scope. -/
@[ext] structure ScopeMap (α : Type) where
  cluster : Option α
  namespaced : Option α
deriving DecidableEq

namespace ScopeMap

variable {α : Type}

def empty : ScopeMap α := { cluster := none, namespaced := none }

def get? (map : ScopeMap α) : Scope → Option α
  | .cluster => map.cluster
  | .namespaced => map.namespaced

/-- Gives a scope a value, in place of the one it may have. -/
def insert (map : ScopeMap α) (scope : Scope) (value : α) : ScopeMap α :=
  match scope with
  | .cluster => { map with cluster := some value }
  | .namespaced => { map with namespaced := some value }

/-- The scopes that have a value, with their values; the smaller scope comes first. -/
def toList (map : ScopeMap α) : List (Scope × α) :=
  (map.cluster.map (Scope.cluster, ·)).toList ++ (map.namespaced.map (Scope.namespaced, ·)).toList

/-- The scopes that have a value, in order. -/
def keys (map : ScopeMap α) : List Scope :=
  map.toList.map (·.1)

@[simp] theorem get?_empty (scope : Scope) : (empty : ScopeMap α).get? scope = none := by
  cases scope <;> rfl

@[simp] theorem get?_insert_self (map : ScopeMap α) (scope : Scope) (value : α) :
    (map.insert scope value).get? scope = some value := by
  cases scope <;> rfl

/-- The keys come in the order in which all scopes are listed. -/
theorem keys_eq_filter (map : ScopeMap α) : map.keys = Scope.all.filter fun scope => (map.get? scope).isSome := by
  obtain ⟨_ | _, _ | _⟩ := map <;> rfl

theorem keys_increasing (map : ScopeMap α) : map.keys.Pairwise (· < ·) := by
  rw [keys_eq_filter]
  exact Scope.all_increasing.sublist List.filter_sublist

theorem mem_keys {map : ScopeMap α} {scope : Scope} : scope ∈ map.keys ↔ map.get? scope ≠ none := by
  simp [keys_eq_filter, Scope.mem_all, Option.isSome_iff_ne_none]

theorem mem_toList {map : ScopeMap α} {scope : Scope} {value : α} :
    (scope, value) ∈ map.toList ↔ map.get? scope = some value := by
  cases scope <;> simp [toList, get?]

/-- Maps with the same value for every scope are the same. -/
theorem ext_get? {map other : ScopeMap α} (same : ∀ scope, map.get? scope = other.get? scope) : map = other :=
  ScopeMap.ext (same .cluster) (same .namespaced)

theorem get?_insert_of_ne (map : ScopeMap α) {scope other : Scope} (value : α) (h : other ≠ scope) :
    (map.insert scope value).get? other = map.get? other := by
  cases scope <;> cases other <;> simp_all [get?, insert]

/-! ### Maps to lists -/

/-- The list of a scope; empty when the scope has none. -/
def entries (map : ScopeMap (List α)) (scope : Scope) : List α :=
  (map.get? scope).getD []

/-- Adds an entry at the end of the list of a scope. -/
def push (map : ScopeMap (List α)) (scope : Scope) (entry : α) : ScopeMap (List α) :=
  map.insert scope (map.entries scope ++ [entry])

/-- Gives a scope a list unless the list is empty. -/
def insertNonEmpty (map : ScopeMap (List α)) (scope : Scope) (list : List α) : ScopeMap (List α) :=
  if list.isEmpty then map else map.insert scope list

/-- The map of the lists that are not empty. -/
def collect (lists : Scope → List α) : ScopeMap (List α) :=
  Scope.all.foldl (fun map scope => map.insertNonEmpty scope (lists scope)) .empty

/-- The entries of all scopes, scope by scope. -/
def flatten (map : ScopeMap (List α)) : List (Scope × α) :=
  map.toList.flatMap fun (scope, list) => list.map (scope, ·)

/-- The number of entries of all scopes. -/
def size (map : ScopeMap (List α)) : Nat :=
  map.toList.foldl (fun total (_, list) => total + list.length) 0

theorem entries_push_self (map : ScopeMap (List α)) (scope : Scope) (entry : α) :
    (map.push scope entry).entries scope = map.entries scope ++ [entry] := by
  simp [entries, push]

theorem entries_push_of_ne (map : ScopeMap (List α)) {scope other : Scope} (entry : α) (h : other ≠ scope) :
    (map.push scope entry).entries other = map.entries other := by
  simp [entries, push, get?_insert_of_ne map _ h]

theorem get?_collect (lists : Scope → List α) (scope : Scope) :
    (collect lists).get? scope = if (lists scope).isEmpty then none else some (lists scope) := by
  cases scope <;> simp only [collect, Scope.all, List.foldl, insertNonEmpty] <;> split <;> split <;>
    simp_all [get?, insert, empty]

@[simp] theorem entries_collect (lists : Scope → List α) (scope : Scope) :
    (collect lists).entries scope = lists scope := by
  rw [entries, get?_collect]
  split
  · rename_i h
    exact (List.isEmpty_iff.1 h).symm
  · rfl

/-- A scope is a key exactly when its list is not empty. -/
theorem mem_keys_collect {lists : Scope → List α} {scope : Scope} :
    scope ∈ (collect lists).keys ↔ lists scope ≠ [] := by
  rw [mem_keys, get?_collect]
  cases lists scope <;> simp

theorem collect_inj {lists others : Scope → List α} : collect lists = collect others ↔ lists = others := by
  constructor
  · intro h
    funext scope
    rw [← entries_collect lists, h, entries_collect]
  · intro h
    rw [h]

/-- A map without empty lists is made of its entries. -/
theorem eq_collect_entries {map : ScopeMap (List α)} (nonempty : ∀ scope, map.get? scope ≠ some []) :
    map = collect map.entries := by
  refine ext_get? fun scope => ?_
  rw [get?_collect, entries]
  cases h : map.get? scope with
  | none => rfl
  | some list =>
    cases list with
    | nil => exact absurd h (nonempty scope)
    | cons entry list => rfl

theorem get?_push_ne_nil {map : ScopeMap (List α)} (nonempty : ∀ scope, map.get? scope ≠ some []) (scope : Scope)
    (entry : α) : ∀ other, (map.push scope entry).get? other ≠ some [] := by
  intro other
  by_cases h : other = scope
  · subst h
    simp [push]
  · rw [push, get?_insert_of_ne _ _ h]
    exact nonempty other

theorem flatten_eq (map : ScopeMap (List α)) :
    map.flatten = Scope.all.flatMap fun scope => (map.entries scope).map (scope, ·) := by
  obtain ⟨_ | _, _ | _⟩ := map <;> simp [flatten, toList, Scope.all, entries, get?]

theorem mem_flatten {map : ScopeMap (List α)} {scope : Scope} {entry : α} :
    (scope, entry) ∈ map.flatten ↔ entry ∈ map.entries scope := by
  simp [flatten_eq, Scope.mem_all]

theorem size_eq_length_flatten (map : ScopeMap (List α)) : map.size = map.flatten.length := by
  obtain ⟨_ | _, _ | _⟩ := map <;> simp [size, flatten, toList]

theorem size_eq_add (map : ScopeMap (List α)) :
    map.size = (map.entries .cluster).length + (map.entries .namespaced).length := by
  rw [size_eq_length_flatten, flatten_eq]
  simp [Scope.all]

/-- Where two maps share out the entries of each scope of a third, they share out all of its entries. -/
theorem size_eq_size_add_size {β γ : Type} {map : ScopeMap (List α)} {first : ScopeMap (List β)}
    {second : ScopeMap (List γ)} (lengths : ∀ scope,
      (map.entries scope).length = (first.entries scope).length + (second.entries scope).length) :
    map.size = first.size + second.size := by
  have cluster := lengths .cluster
  have namespaced := lengths .namespaced
  rw [size_eq_add, size_eq_add, size_eq_add]
  omega

end ScopeMap

end PipelineSelection
