import Mathlib.Data.List.Forall2
import Mathlib.Data.List.Nodup
import PipelineSelection.Document.Record
import PipelineSelection.ScopeMap

/-!
# Shapes

The shape of a type says which trees stand for a value of it, and for which value, without saying how a tree is read:
a tree fits a shape (`Shape.Fits`), and a tree denotes a value (`Shape.Denotes`).  Shapes are texts, lists, tables
keyed by scopes, and records, whose fields have distinct names by construction.

A record may be given as a table or as a sequence of its fields in declared order.  Both are seen as the same thing, the
members that they give for the fields (`Node.membersFor?`), so everything about fields is said once.

A tree of a JSON value fits exactly if it denotes something (`Shape.fits_iff`).
-/

namespace PipelineSelection

variable {α : Type} {members others : List (Option String × Node)}

/-! ### Trees of JSON values -/

namespace Node

mutual

/-- Whether the tree is that of a JSON value that repeats no key: the text behind it follows its grammar to the end,
every key denotes a text and no table has two members of one key.  A scalar may denote no value, as a number beyond
every range does; it fits no shape, but may stand under a key that is passed over. -/
def proper : Node → Bool
  | .sequence items => properItems items
  | .table members => decide (members.map Prod.fst).Nodup && properMembers members
  | .broken => false
  | _ => true

def properItems : List Node → Bool
  | [] => true
  | node :: rest => node.proper && properItems rest

def properMembers : List (Option String × Node) → Bool
  | [] => true
  | (key, node) :: rest => key.isSome && node.proper && properMembers rest

end

/-- Members of a table that repeats no key. -/
structure ProperMembers (members : List (Option String × Node)) : Prop where
  distinct : (members.map Prod.fst).Nodup
  named : ∀ member ∈ members, ∃ name, member.1 = some name
  proper : ∀ member ∈ members, member.2.proper = true

theorem proper_sequence {items : List Node} :
    (Node.sequence items).proper = true ↔ ∀ item ∈ items, item.proper = true := by
  rw [proper]
  induction items with
  | nil => simp [properItems]
  | cons item items ih => simp [properItems, ih]

private theorem properMembers_iff : properMembers members = true ↔
    (∀ member ∈ members, ∃ name, member.1 = some name) ∧ ∀ member ∈ members, member.2.proper = true := by
  induction members with
  | nil => simp [properMembers]
  | cons member members ih =>
    obtain ⟨key, node⟩ := member
    simp only [properMembers, Bool.and_eq_true, ih, List.forall_mem_cons, Option.isSome_iff_exists]
    tauto

theorem proper_table : (Node.table members).proper = true ↔ ProperMembers members := by
  rw [proper, Bool.and_eq_true, decide_eq_true_iff, properMembers_iff]
  constructor
  · rintro ⟨distinct, named, proper⟩
    exact ⟨distinct, named, proper⟩
  · rintro ⟨distinct, named, proper⟩
    exact ⟨distinct, named, proper⟩

mutual

/-- The text behind the tree of a JSON value follows its grammar. -/
theorem intact_of_proper : (node : Node) → node.proper = true → node.intact = true
  | .null, _ | .bool _, _ | .integer _, _ | .real _, _ | .text _, _ | .unreadable, _ => rfl
  | .sequence items, h => intactItems_of_proper items h
  | .table members, h => intactMembers_of_proper members (Bool.and_eq_true_iff.1 h).2

private theorem intactItems_of_proper : (items : List Node) → Node.properItems items = true →
    Node.intactItems items = true
  | [], _ => rfl
  | item :: items, h => by
    obtain ⟨one, rest⟩ := Bool.and_eq_true_iff.1 h
    exact Bool.and_eq_true_iff.2 ⟨intact_of_proper item one, intactItems_of_proper items rest⟩

private theorem intactMembers_of_proper : (members : List (Option String × Node)) →
    Node.properMembers members = true → Node.intactMembers members = true
  | [], _ => rfl
  | (_, node) :: members, h => by
    obtain ⟨one, rest⟩ := Bool.and_eq_true_iff.1 h
    obtain ⟨-, one⟩ := Bool.and_eq_true_iff.1 one
    exact Bool.and_eq_true_iff.2 ⟨intact_of_proper node one, intactMembers_of_proper members rest⟩

end

namespace ProperMembers

theorem tail {member : Option String × Node} (h : ProperMembers (member :: members)) : ProperMembers members where
  distinct := (List.nodup_cons.1 h.distinct).2
  named := fun other mem => h.named other (List.mem_cons_of_mem _ mem)
  proper := fun other mem => h.proper other (List.mem_cons_of_mem _ mem)

theorem ne_of_mem_tail {key : Option String} {node : Node} (h : ProperMembers ((key, node) :: members)) :
    ∀ member ∈ members, member.1 ≠ key := by
  intro member mem same
  exact (List.nodup_cons.1 h.distinct).1 (List.mem_map.2 ⟨member, mem, same⟩)

/-- No key has two values. -/
theorem value_unique {key : Option String} {first second : Node} (h : ProperMembers members)
    (one : (key, first) ∈ members) (other : (key, second) ∈ members) : first = second :=
  congrArg Prod.snd (List.inj_on_of_nodup_map h.distinct one other rfl)

end ProperMembers

/-- The members that a tree gives for a record with these field names: those of a table, or the elements of a
sequence under the names in declared order.  A sequence may end early but has no more elements than the record has
fields. -/
def membersFor? (names : List String) : Node → Option (List (Option String × Node))
  | .table members => some members
  | .sequence items => if items.length ≤ names.length then some ((names.map some).zip items) else none
  | _ => none

end Node

open Node (ProperMembers)

private theorem map_fst_zip_sublist {β : Type} (keys : List α) (values : List β) :
    ((keys.zip values).map Prod.fst).Sublist keys := by
  induction keys generalizing values with
  | nil => simp
  | cons key keys ih =>
    cases values with
    | nil => simp
    | cons value values => exact (ih values).cons_cons key

/-- What a tree of a JSON value gives for a record repeats no key. -/
theorem Node.proper_membersFor? {names : List String} {node : Node} (proper : node.proper = true)
    (distinct : names.Nodup) (found : node.membersFor? names = some members) : ProperMembers members := by
  cases node with
  | table given =>
    cases found
    exact proper_table.1 proper
  | sequence items =>
    rw [membersFor?, Option.ite_none_right_eq_some] at found
    obtain ⟨-, found⟩ := found
    cases found
    refine ⟨(map_fst_zip_sublist _ _).nodup (distinct.map fun _ _ => Option.some.inj), ?_, ?_⟩
    · intro member mem
      obtain ⟨name, -, same⟩ := List.mem_map.1 (List.of_mem_zip mem).1
      exact ⟨name, same.symm⟩
    · exact fun member mem => proper_sequence.1 proper _ (List.of_mem_zip mem).2
  | _ => cases found

/-- What the members give for a key, when a value of a member is read as `means` says: the value of the member of that
key, or nothing when there is none. -/
def Given (means : Node → α → Prop) (members : List (Option String × Node)) (name : String) : Option α → Prop
  | some value => ∃ node, (some name, node) ∈ members ∧ means node value
  | none => ∀ node, (some name, node) ∉ members

theorem given_congr {means : Node → α → Prop} {name : String} {slot : Option α}
    (same : ∀ node, (some name, node) ∈ members ↔ (some name, node) ∈ others) :
    Given means members name slot ↔ Given means others name slot := by
  cases slot with
  | none => exact forall_congr' fun node => not_congr (same node)
  | some value => exact exists_congr fun node => and_congr_left' (same node)

/-- The only member of a key gives its value. -/
theorem given_of_unique {means : Node → α → Prop} {name : String} {node : Node} (mem : (some name, node) ∈ members)
    (unique : ∀ other, (some name, other) ∈ members → other = node) {slot : Option α} :
    Given means members name slot ↔ ∃ value, slot = some value ∧ means node value := by
  constructor
  · intro given
    cases slot with
    | none => exact absurd mem (given node)
    | some value =>
      obtain ⟨other, otherMem, means⟩ := given
      exact ⟨value, rfl, unique other otherMem ▸ means⟩
  · rintro ⟨value, rfl, means⟩
    exact ⟨node, mem, means⟩

theorem Node.ProperMembers.given_of_mem {means : Node → α → Prop} {name : String} {node : Node}
    (h : ProperMembers members) (mem : (some name, node) ∈ members) {slot : Option α} :
    Given means members name slot ↔ ∃ value, slot = some value ∧ means node value :=
  given_of_unique mem fun _ other => h.value_unique other mem

/-- Nothing is given for what is no key. -/
theorem given_of_absent {means : Node → α → Prop} {name : String} (absent : ∀ member ∈ members, member.1 ≠ some name)
    {slot : Option α} : Given means members name slot ↔ slot = none := by
  cases slot with
  | none => exact iff_of_true (fun node mem => absent _ mem rfl) rfl
  | some value =>
    refine iff_of_false ?_ (by simp)
    rintro ⟨node, mem, -⟩
    exact absent _ mem rfl

theorem given_cons_of_ne {means : Node → α → Prop} {key name : String} {node : Node} (other : key ≠ name)
    {slot : Option α} : Given means ((some key, node) :: members) name slot ↔ Given means members name slot :=
  given_congr fun node => by simp [Ne.symm other]

/-- Something is given for every key whose value means something. -/
private theorem exists_given {means : Node → α → Prop} {name : String}
    (meaningful : ∀ node, (some name, node) ∈ members → ∃ value, means node value) :
    ∃ slot, Given means members name slot := by
  by_cases h : ∃ node, (some name, node) ∈ members
  · obtain ⟨node, mem⟩ := h
    obtain ⟨value, means⟩ := meaningful node mem
    exact ⟨some value, node, mem, means⟩
  · exact ⟨none, fun node mem => h ⟨node, mem⟩⟩

/-! ### Shapes -/

mutual

/-- How values of a type are written. -/
inductive Shape : Type → Type 1 where
  | text : Shape String
  | list {α : Type} (item : Shape α) : Shape (List α)
  /-- A table whose keys are names of scopes. -/
  | byScope {α : Type} (content : Shape α) : Shape (ScopeMap α)
  /-- A record; `make` puts the values of its fields together. -/
  | record {α : Type} {names : List String} {types : List Type} (fields : FieldShapes names types)
      (make : Values types → α) : Shape α

/-- The fields of a record in declared order: their names, which differ, their shapes, and perhaps defaults. -/
inductive FieldShapes : List String → List Type → Type 1 where
  | nil : FieldShapes [] []
  | cons {α : Type} {names : List String} {types : List Type} (name : String) (fresh : name ∉ names)
      (shape : Shape α) (default : Option α) (rest : FieldShapes names types) :
      FieldShapes (name :: names) (α :: types)

end

/-- The names of the fields in declared order. -/
abbrev FieldShapes.names {names : List String} {types : List Type} (_ : FieldShapes names types) : List String := names

theorem FieldShapes.nodup : {names : List String} → {types : List Type} → FieldShapes names types → names.Nodup
  | _, _, .nil => List.nodup_nil
  | _, _, .cons _ fresh _ _ rest => List.nodup_cons.2 ⟨fresh, rest.nodup⟩

mutual

/-- Whether a tree is well-shaped. -/
def Shape.Fits : {α : Type} → Shape α → Node → Prop
  | _, .text, node => ∃ value, node = .text value
  | _, .list item, node => ∃ items, node = .sequence items ∧ ∀ element ∈ items, item.Fits element
  | _, .byScope content, node => ∃ members, node = .table members ∧
      ∀ member ∈ members, (∃ scope : Scope, member.1 = some scope.name) ∧ content.Fits member.2
  | _, .record fields _, node => ∃ members, node.membersFor? fields.names = some members ∧ fields.FitIn members

/-- Whether every field that is given is well-shaped and every field without a default is given. -/
def FieldShapes.FitIn : {names : List String} → {types : List Type} → FieldShapes names types →
    List (Option String × Node) → Prop
  | _, _, .nil, _ => True
  | _, _, .cons name _ shape default rest, members =>
    (∀ node, (some name, node) ∈ members → shape.Fits node) ∧
      (default = none → ∃ node, (some name, node) ∈ members) ∧ rest.FitIn members

end

mutual

/-- Whether a value is the one that a tree stands for. -/
def Shape.Denotes : {α : Type} → Shape α → Node → α → Prop
  | _, .text, node, value => node = .text value
  | _, .list item, node, values => ∃ items, node = .sequence items ∧ List.Forall₂ item.Denotes items values
  | _, .byScope content, node, map => ∃ members, node = .table members ∧
      (∀ member ∈ members, ∃ scope : Scope, member.1 = some scope.name) ∧
      ∀ scope : Scope, Given content.Denotes members scope.name (map.get? scope)
  | _, .record fields make, node, value => ∃ members values, node.membersFor? fields.names = some members ∧
      fields.Denote members values ∧ make values = value

/-- Whether every field has the value that is given for it, or its default when none is given. -/
def FieldShapes.Denote : {names : List String} → {types : List Type} → FieldShapes names types →
    List (Option String × Node) → Values types → Prop
  | _, _, .nil, _, _ => True
  | _, _, .cons name _ shape default rest, members, (value, values) =>
    (∃ given, Given shape.Denotes members name given ∧ given.or default = some value) ∧ rest.Denote members values

end


theorem Shape.denotes_record_table {names : List String} {types : List Type} {fields : FieldShapes names types}
    {make : Values types → α} {value : α} : (Shape.record fields make).Denotes (.table members) value ↔
      ∃ values, fields.Denote members values ∧ make values = value := by
  simp [Shape.Denotes, Node.membersFor?]

/-- What a record stands for depends on the members of its fields only, and not on their order. -/
theorem FieldShapes.denote_congr : {names : List String} → {types : List Type} → (fields : FieldShapes names types) →
    {values : Values types} →
    (∀ name ∈ names, ∀ node, (some name, node) ∈ members ↔ (some name, node) ∈ others) →
    (fields.Denote members values ↔ fields.Denote others values)
  | _, _, .nil, _, _ => Iff.rfl
  | _, _, .cons name _ _ _ rest, _, same =>
    and_congr (exists_congr fun _ => and_congr_left' (given_congr (same name (List.mem_cons_self ..))))
      (rest.denote_congr fun other mem => same other (List.mem_cons_of_mem _ mem))

theorem FieldShapes.denote_cons_of_notMem {names : List String} {types : List Type} (fields : FieldShapes names types)
    {values : Values types} {key : String} {node : Node} (unknown : key ∉ names) :
    fields.Denote ((some key, node) :: members) values ↔ fields.Denote members values := by
  refine fields.denote_congr fun name known other => ?_
  have different : name ≠ key := fun same => unknown (same ▸ known)
  simp [different]

/-! ### Fitting and denoting -/

private theorem forall₂_exists {β : Type} {r : α → β → Prop} {list : List α} :
    (∃ values, List.Forall₂ r list values) ↔ ∀ a ∈ list, ∃ b, r a b := by
  induction list with
  | nil => simp
  | cons a list ih =>
    rw [List.forall_mem_cons, ← ih]
    constructor
    · rintro ⟨_, _ | ⟨one, rest⟩⟩
      exact ⟨⟨_, one⟩, _, rest⟩
    · rintro ⟨⟨_, one⟩, _, rest⟩
      exact ⟨_, .cons one rest⟩

mutual

/-- A tree of a JSON value is well-shaped exactly when it stands for a value. -/
theorem Shape.fits_iff : {α : Type} → (shape : Shape α) → {node : Node} → node.proper = true →
    (shape.Fits node ↔ ∃ value, shape.Denotes node value)
  | _, .text, node, _ => by simp only [Shape.Fits, Shape.Denotes]
  | _, .list item, node, proper => by
    constructor
    · rintro ⟨items, rfl, fit⟩
      have each : ∀ element ∈ items, ∃ value, item.Denotes element value := fun element mem =>
        (item.fits_iff (Node.proper_sequence.1 proper element mem)).1 (fit element mem)
      obtain ⟨values, denote⟩ := forall₂_exists.2 each
      exact ⟨values, items, rfl, denote⟩
    · rintro ⟨values, items, rfl, denote⟩
      have each := forall₂_exists.1 ⟨values, denote⟩
      exact ⟨items, rfl, fun element mem =>
        (item.fits_iff (Node.proper_sequence.1 proper element mem)).2 (each element mem)⟩
  | _, .byScope content, node, proper => by
    constructor
    · rintro ⟨members, rfl, fit⟩
      have h := Node.proper_table.1 proper
      have given : ∀ scope : Scope, ∃ slot, Given content.Denotes members scope.name slot := fun scope =>
        exists_given fun node mem => (content.fits_iff (h.proper _ mem)).1 (fit _ mem).2
      obtain ⟨cluster, one⟩ := given .cluster
      obtain ⟨namespaced, other⟩ := given .namespaced
      refine ⟨⟨cluster, namespaced⟩, members, rfl, fun member mem => (fit member mem).1, fun scope => ?_⟩
      cases scope with
      | cluster => exact one
      | namespaced => exact other
    · rintro ⟨map, members, rfl, scopes, denote⟩
      have h := Node.proper_table.1 proper
      refine ⟨members, rfl, fun ⟨key, node⟩ mem => ⟨scopes _ mem, ?_⟩⟩
      obtain ⟨scope, rfl⟩ := scopes _ mem
      obtain ⟨value, -, denotes⟩ := (h.given_of_mem mem).1 (denote scope)
      exact (content.fits_iff (h.proper _ mem)).2 ⟨value, denotes⟩
  | _, .record fields make, node, proper => by
    constructor
    · rintro ⟨members, found, fit⟩
      have h := Node.proper_membersFor? proper fields.nodup found
      obtain ⟨values, denote⟩ := (fields.fitIn_iff h).1 fit
      exact ⟨make values, members, values, found, denote, rfl⟩
    · rintro ⟨_, members, values, found, denote, -⟩
      have h := Node.proper_membersFor? proper fields.nodup found
      exact ⟨members, found, (fields.fitIn_iff h).2 ⟨values, denote⟩⟩

theorem FieldShapes.fitIn_iff : {names : List String} → {types : List Type} → (fields : FieldShapes names types) →
    {members : List (Option String × Node)} → ProperMembers members →
    (fields.FitIn members ↔ ∃ values, fields.Denote members values)
  | _, _, .nil, members, _ => ⟨fun _ => ⟨(), trivial⟩, fun _ => trivial⟩
  | _, _, .cons name fresh shape default rest, members, h => by
    constructor
    · rintro ⟨fit, required, others⟩
      obtain ⟨slot, given⟩ : ∃ slot, Given shape.Denotes members name slot :=
        exists_given fun node mem => (shape.fits_iff (h.proper _ mem)).1 (fit node mem)
      obtain ⟨values, denote⟩ := (rest.fitIn_iff h).1 others
      have value : ∃ value, slot.or default = some value := by
        cases slot with
        | some value => exact ⟨value, rfl⟩
        | none =>
          cases default with
          | some value => exact ⟨value, rfl⟩
          | none =>
            obtain ⟨node, mem⟩ := required rfl
            exact absurd mem (given node)
      obtain ⟨value, complete⟩ := value
      exact ⟨(value, values), ⟨slot, given, complete⟩, denote⟩
    · rintro ⟨⟨value, values⟩, ⟨slot, given, complete⟩, denote⟩
      refine ⟨fun node mem => ?_, fun required => ?_, (rest.fitIn_iff h).2 ⟨values, denote⟩⟩
      · obtain ⟨value, -, denotes⟩ := (h.given_of_mem mem).1 given
        exact (shape.fits_iff (h.proper _ mem)).2 ⟨value, denotes⟩
      · subst required
        rw [Option.or_none] at complete
        subst complete
        obtain ⟨node, mem, -⟩ := given
        exact ⟨node, mem⟩

end

end PipelineSelection
