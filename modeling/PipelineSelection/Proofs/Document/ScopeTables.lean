import PipelineSelection.Proofs.Document.Tables
import PipelineSelection.Wire.Reading

/-!
# Tables keyed by scopes

When a table is read as a map, whatever its keys are: every key is the name of a scope and every value can be read, also
one that a later value of the same scope overrides; the last value of a scope counts (`Reader.scopeMap_iff`).  Where no
key is repeated, the last value is the only one (`Node.ProperMembers.rel_lastFor?_iff`).
-/

namespace PipelineSelection

open Node (ProperMembers)

variable {α : Type} {dialect : Dialect} {pairs : List (Option String × Node)}

theorem scopeName_ok_iff {name : String} {scope : Scope} :
    Reader.scopeName name = .ok scope ↔ name = scope.name := by
  rw [Reader.scopeName, ← Scope.ofName?_eq_some]
  cases Scope.ofName? name <;> simp

/-! ### Last values -/

/-- The value of the last pair of a key. -/
def lastFor? (pairs : List (Option String × Node)) (name : String) : Option Node :=
  (pairs.reverse.find? (·.1 == some name)).map Prod.snd

section

variable {name : String} {key : Option String} {node : Node}

/-- A value in front counts unless a later one overrides it. -/
theorem lastFor?_cons_self : lastFor? ((some name, node) :: pairs) name = (lastFor? pairs name).or (some node) := by
  rw [lastFor?, lastFor?, List.reverse_cons, List.find?_append]
  cases pairs.reverse.find? (·.1 == some name) <;> simp

theorem lastFor?_cons_of_ne (different : key ≠ some name) :
    lastFor? ((key, node) :: pairs) name = lastFor? pairs name := by
  simp [lastFor?, List.find?_append, different]

theorem lastFor?_eq_none_iff : lastFor? pairs name = none ↔ ∀ pair ∈ pairs, pair.1 ≠ some name := by
  simp [lastFor?]

end

/-! ### Tables of scopes -/

/-- Every key is the name of a scope and every value can be read. -/
def Readable (reader : Reader α) (dialect : Dialect) (pairs : List (Option String × Node)) : Prop :=
  ∀ pair ∈ pairs, (∃ scope : Scope, pair.1 = some scope.name) ∧ ∃ value, reader dialect pair.2 = .ok value

namespace Reader

variable {reader : Reader α}

/-- A reader gives this value for a node. -/
def Gives (reader : Reader α) (dialect : Dialect) (node : Node) (value : α) : Prop :=
  reader dialect node = .ok value

private theorem rel_or_iff {later : Option Node} {node : Node} {value : α} {slot : Option α}
    (read : reader.Gives dialect node value) :
    Option.Rel (reader.Gives dialect) (later.or (some node)) slot ↔
      ∃ given, Option.Rel (reader.Gives dialect) later given ∧ given.or (some value) = slot := by
  cases later with
  | none =>
    constructor
    · rintro (given | _)
      exact ⟨none, .none, congrArg some (Except.ok.inj (read.symm.trans given))⟩
    · rintro ⟨_, _ | _, rfl⟩
      exact .some read
  | some node' =>
    constructor
    · rintro (given | _)
      exact ⟨_, .some given, rfl⟩
    · rintro ⟨_, given | _, rfl⟩
      exact .some given

/-- A pair that is read into a map is overridden by the pairs behind it, just as the value that the map has is
overridden by all of them. -/
private theorem last_or_insert_iff {map : ScopeMap α} {first scope : Scope} {node : Node} {value : α} {slot : Option α}
    (read : reader.Gives dialect node value) :
    (∃ given, Option.Rel (reader.Gives dialect) (lastFor? pairs scope.name) given ∧
        given.or ((map.insert first value).get? scope) = slot) ↔
      ∃ given, Option.Rel (reader.Gives dialect) (lastFor? ((some first.name, node) :: pairs) scope.name) given ∧
        given.or (map.get? scope) = slot := by
  by_cases own : scope = first
  · subst own
    rw [ScopeMap.get?_insert_self, lastFor?_cons_self]
    simp only [rel_or_iff read]
    constructor
    · rintro ⟨given, later, rfl⟩
      exact ⟨_, ⟨given, later, rfl⟩, by cases given <;> rfl⟩
    · rintro ⟨_, ⟨given, later, rfl⟩, rfl⟩
      exact ⟨given, later, by cases given <;> rfl⟩
  · have different : some first.name ≠ some scope.name := fun same => own (Scope.name_inj (Option.some.inj same)).symm
    rw [ScopeMap.get?_insert_of_ne _ _ own, lastFor?_cons_of_ne different]

/-- Reading pairs on into a map replaces the value of a scope by the last one that they give for it. -/
private theorem scopeMembers_ok_iff {map result : ScopeMap α} :
    scopeMembers reader dialect map pairs = .ok result ↔ Readable reader dialect pairs ∧ ∀ scope : Scope,
      ∃ given, Option.Rel (reader.Gives dialect) (lastFor? pairs scope.name) given ∧
        given.or (map.get? scope) = result.get? scope := by
  induction pairs generalizing map with
  | nil =>
    constructor
    · intro same
      cases same
      exact ⟨by simp [Readable], fun scope => ⟨none, .none, rfl⟩⟩
    · rintro ⟨-, same⟩
      refine congrArg _ (ScopeMap.ext_get? fun scope => ?_)
      obtain ⟨_, _ | _, same⟩ := same scope
      exact same
  | cons pair pairs ih =>
    obtain ⟨_ | name, node⟩ := pair
    · rw [scopeMembers]
      simp [Readable]
    rw [scopeMembers, bind_ok_iff, Readable, List.forall_mem_cons, ← Readable]
    constructor
    · rintro ⟨first, known, rest⟩
      obtain ⟨value, read, rest⟩ := bind_ok_iff.1 rest
      cases scopeName_ok_iff.1 known
      obtain ⟨readable, last⟩ := ih.1 rest
      exact ⟨⟨⟨⟨first, rfl⟩, value, read⟩, readable⟩, fun scope => (last_or_insert_iff read).1 (last scope)⟩
    · rintro ⟨⟨⟨⟨first, key⟩, value, read⟩, readable⟩, last⟩
      cases key
      refine ⟨first, scopeName_ok_iff.2 rfl, bind_ok_iff.2 ⟨value, read, ih.2 ⟨readable, fun scope => ?_⟩⟩⟩
      exact (last_or_insert_iff read).2 (last scope)

/-- A table of scopes is read exactly when all of its pairs can be, and gives every scope its last value. -/
theorem scopeMap_iff {map : ScopeMap α} :
    scopeMap reader dialect (.table pairs) = .ok map ↔ Readable reader dialect pairs ∧ ∀ scope : Scope,
      Option.Rel (reader.Gives dialect) (lastFor? pairs scope.name) (map.get? scope) := by
  rw [scopeMap, scopeMembers_ok_iff]
  simp only [ScopeMap.get?_empty, Option.or_none, exists_eq_right]

/-- The keys of the map are the scopes that some pair has a value for. -/
theorem isSome_get?_of_scopeMap {map : ScopeMap α} (read : scopeMap reader dialect (.table pairs) = .ok map)
    (scope : Scope) : (map.get? scope).isSome = pairs.any (·.1 == some scope.name) := by
  have given := (scopeMap_iff.1 read).2 scope
  have absent : lastFor? pairs scope.name = none ↔ ∀ pair ∈ pairs, pair.1 ≠ some scope.name := lastFor?_eq_none_iff
  rw [Bool.eq_iff_iff, List.any_eq_true, ← not_iff_not]
  simp only [beq_iff_eq, not_exists, not_and, ← ne_eq, ← absent]
  generalize map.get? scope = slot at given ⊢
  generalize lastFor? pairs scope.name = last at given ⊢
  cases given <;> simp

section

variable {lists : Reader (List α)} {map : ScopeMap (List α)} {scope : Scope} {node : Node}

/-- The entries of a scope are read from its last value. -/
theorem entries_of_scopeMap (read : scopeMap lists dialect (.table pairs) = .ok map)
    (last : lastFor? pairs scope.name = some node) : lists dialect node = .ok (map.entries scope) := by
  have given := (scopeMap_iff.1 read).2 scope
  rw [last] at given
  rw [ScopeMap.entries]
  generalize map.get? scope = slot at given ⊢
  cases given with
  | some given => exact given

theorem entries_of_scopeMap_of_absent (read : scopeMap lists dialect (.table pairs) = .ok map)
    (absent : ∀ pair ∈ pairs, pair.1 ≠ some scope.name) : map.entries scope = [] := by
  have given := (scopeMap_iff.1 read).2 scope
  rw [lastFor?_eq_none_iff.2 absent] at given
  rw [ScopeMap.entries]
  generalize map.get? scope = slot at given ⊢
  cases given with
  | none => rfl

end

/-- Pairs that can all be read are read as a map. -/
theorem exists_scopeMap_iff :
    (∃ map, scopeMap reader dialect (.table pairs) = .ok map) ↔ Readable reader dialect pairs := by
  constructor
  · rintro ⟨map, read⟩
    exact (scopeMap_iff.1 read).1
  · intro readable
    have given : ∀ scope : Scope, ∃ slot, Option.Rel (reader.Gives dialect) (lastFor? pairs scope.name) slot := by
      intro scope
      cases last : lastFor? pairs scope.name with
      | none => exact ⟨none, .none⟩
      | some node =>
        obtain ⟨⟨_, _⟩, found, rfl⟩ := Option.map_eq_some_iff.1 last
        obtain ⟨-, value, read⟩ := readable _ (List.mem_reverse.1 (List.mem_of_find?_eq_some found))
        exact ⟨some value, .some read⟩
    obtain ⟨cluster, one⟩ := given .cluster
    obtain ⟨namespaced, other⟩ := given .namespaced
    refine ⟨⟨cluster, namespaced⟩, scopeMap_iff.2 ⟨readable, fun scope => ?_⟩⟩
    cases scope with
    | cluster => exact one
    | namespaced => exact other

end Reader

/-- Where no key is repeated, the last value of a key is what is given for it. -/
theorem Node.ProperMembers.rel_lastFor?_iff (h : ProperMembers pairs) {means : Node → α → Prop} {name : String}
    {slot : Option α} : Option.Rel means (lastFor? pairs name) slot ↔ Given means pairs name slot := by
  cases last : lastFor? pairs name with
  | none =>
    rw [given_of_absent (lastFor?_eq_none_iff.1 last)]
    cases slot <;> simp
  | some node =>
    obtain ⟨⟨key, _⟩, found, rfl⟩ := Option.map_eq_some_iff.1 last
    have own : key = some name := by simpa using List.find?_some found
    subst own
    rw [h.given_of_mem (List.mem_reverse.1 (List.mem_of_find?_eq_some found))]
    cases slot <;> simp

end PipelineSelection
