import Mathlib.Logic.Relation
import PipelineSelection.Proofs.Document.ShapeReading

/-!
# Respelling

The same value can be written in several ways.  Wherever a record stands, the keys of its table may come in another
order, keys of no field may be added, and a sequence of fields in declared order may be written as a table
(`Shape.Respells`); a change inside a field, an element or a scope is such a change of the whole.  One change keeps
what is denoted (`Shape.Respells.denotes_iff`), so any number of them, made and undone, keeps what is read
(`Shape.ReadBy.respelled`).
-/

namespace PipelineSelection

open Node (ProperMembers)

variable {α : Type} {names : List String} {types : List Type} {name : String} {first second : Node}
  {before after : List (Option String × Node)}

/-- A field of this name and shape is one of the fields. -/
inductive FieldShapes.Has {α : Type} (name : String) (shape : Shape α) : {names : List String} → {types : List Type} →
    FieldShapes names types → Prop where
  | head {names : List String} {types : List Type} {fresh : name ∉ names} {default : Option α}
      {rest : FieldShapes names types} : FieldShapes.Has name shape (.cons name fresh shape default rest)
  | tail {β : Type} {names : List String} {types : List Type} {other : String} {fresh : other ∉ names}
      {content : Shape β} {default : Option β} {rest : FieldShapes names types} :
      FieldShapes.Has name shape rest → FieldShapes.Has name shape (.cons other fresh content default rest)

/-- One change of the spelling at a place where a record stands. -/
inductive Shape.Respells : {α : Type} → Shape α → Node → Node → Prop where
  /-- The keys of a record come in another order. -/
  | permuted {α : Type} {names : List String} {types : List Type} {fields : FieldShapes names types}
      {make : Values types → α} {members others : List (Option String × Node)} : members.Perm others →
      Shape.Respells (.record fields make) (.table members) (.table others)
  /-- A key of no field is added, whatever its value. -/
  | unknown {α : Type} {names : List String} {types : List Type} {fields : FieldShapes names types}
      {make : Values types → α} {members : List (Option String × Node)} {key : String} {node : Node} : key ∉ names →
      Shape.Respells (.record fields make) (.table members) (.table ((some key, node) :: members))
  /-- Fields that were given in declared order are given by their names. -/
  | named {α : Type} {names : List String} {types : List Type} {fields : FieldShapes names types}
      {make : Values types → α} {items : List Node} : items.length ≤ names.length →
      Shape.Respells (.record fields make) (.sequence items) (.table ((names.map some).zip items))
  | inField {α β : Type} {names : List String} {types : List Type} {fields : FieldShapes names types}
      {make : Values types → α} {name : String} {shape : Shape β} {first second : Node}
      {before after : List (Option String × Node)} : fields.Has name shape → shape.Respells first second →
      Shape.Respells (.record fields make) (.table (before ++ (some name, first) :: after))
        (.table (before ++ (some name, second) :: after))
  | inItem {α : Type} {item : Shape α} {first second : Node} {before after : List Node} :
      item.Respells first second →
      Shape.Respells (.list item) (.sequence (before ++ first :: after)) (.sequence (before ++ second :: after))
  | inScope {α : Type} {content : Shape α} {key : Option String} {first second : Node}
      {before after : List (Option String × Node)} : content.Respells first second →
      Shape.Respells (.byScope content) (.table (before ++ (key, first) :: after))
        (.table (before ++ (key, second) :: after))

/-! ### A changed member -/

private theorem mem_changed {other : String} (different : other ≠ name) (node : Node) :
    (some other, node) ∈ before ++ (some name, first) :: after ↔
      (some other, node) ∈ before ++ (some name, second) :: after := by
  simp [different]

/-- Where a member changes to one that means the same, the same is given for its key. -/
private theorem given_changed {means : Node → α → Prop} (h : ProperMembers (before ++ (some name, first) :: after))
    (h' : ProperMembers (before ++ (some name, second) :: after))
    (same : ∀ value, means first value ↔ means second value) {slot : Option α} :
    Given means (before ++ (some name, first) :: after) name slot ↔
      Given means (before ++ (some name, second) :: after) name slot := by
  have mem : (some name, first) ∈ before ++ (some name, first) :: after := by simp
  have mem' : (some name, second) ∈ before ++ (some name, second) :: after := by simp
  rw [h.given_of_mem mem, h'.given_of_mem mem']
  exact exists_congr fun value => and_congr_right' (same value)

namespace FieldShapes.Has

variable {fields : FieldShapes names types} {shape : Shape α}

theorem mem_names (has : fields.Has name shape) : name ∈ names := by
  induction has with
  | head => exact List.mem_cons_self ..
  | tail _ ih => exact List.mem_cons_of_mem _ ih

theorem denote_iff (has : fields.Has name shape) (h : ProperMembers (before ++ (some name, first) :: after))
    (h' : ProperMembers (before ++ (some name, second) :: after))
    (same : ∀ value, shape.Denotes first value ↔ shape.Denotes second value) (values : Values types) :
    fields.Denote (before ++ (some name, first) :: after) values ↔
      fields.Denote (before ++ (some name, second) :: after) values := by
  induction has with
  | @head _ _ fresh _ rest =>
    refine and_congr (exists_congr fun slot => and_congr_left' (given_changed h h' same)) ?_
    exact rest.denote_congr fun other mem => mem_changed fun same => fresh (same ▸ mem)
  | @tail _ _ _ other fresh _ _ rest has ih =>
    refine and_congr (exists_congr fun slot => and_congr_left' (given_congr ?_)) (ih values.2)
    exact mem_changed fun same => fresh (same ▸ has.mem_names)

end FieldShapes.Has

private theorem Shape.denotes_table_congr {fields : FieldShapes names types} {make : Values types → α}
    {members others : List (Option String × Node)} {value : α}
    (same : ∀ values, fields.Denote members values ↔ fields.Denote others values) :
    (Shape.record fields make).Denotes (.table members) value ↔
      (Shape.record fields make).Denotes (.table others) value := by
  rw [Shape.denotes_record_table, Shape.denotes_record_table]
  exact exists_congr fun values => and_congr_left' (same values)

private theorem forall₂_changed {β : Type} {r : α → β → Prop} {first second : α} {before after : List α}
    (same : ∀ value, r first value ↔ r second value) {values : List β} :
    List.Forall₂ r (before ++ first :: after) values ↔ List.Forall₂ r (before ++ second :: after) values := by
  induction before generalizing values with
  | nil => cases values <;> simp [same]
  | cons item before ih => cases values <;> simp [ih]

/-! ### Changes -/

/-- One change of the spelling keeps the value. -/
theorem Shape.Respells.denotes_iff {shape : Shape α} (h : shape.Respells first second) (proper : first.proper = true)
    (proper' : second.proper = true) (value : α) : shape.Denotes first value ↔ shape.Denotes second value := by
  induction h with
  | @permuted _ _ _ fields make members others perm =>
    exact Shape.denotes_table_congr fun values => fields.denote_congr fun name _ node => perm.mem_iff
  | @unknown _ _ _ fields make members key node unknown =>
    exact Shape.denotes_table_congr fun values => (fields.denote_cons_of_notMem unknown).symm
  | @named _ _ _ fields make items short =>
    simp only [Shape.Denotes, Node.membersFor?, if_pos short]
  | @inField _ _ _ _ fields make name shape first second before after has _ ih =>
    have h := Node.proper_table.1 proper
    have h' := Node.proper_table.1 proper'
    have same := ih (h.proper (some name, first) (by simp)) (h'.proper (some name, second) (by simp))
    exact Shape.denotes_table_congr fun values => has.denote_iff h h' same values
  | @inItem _ item first second before after _ ih =>
    have same := ih (Node.proper_sequence.1 proper first (by simp)) (Node.proper_sequence.1 proper' second (by simp))
    simp only [Shape.Denotes, Node.sequence.injEq, exists_eq_left']
    exact forall₂_changed same
  | @inScope _ content key first second before after _ ih =>
    have h := Node.proper_table.1 proper
    have h' := Node.proper_table.1 proper'
    have same := ih (h.proper (key, first) (by simp)) (h'.proper (key, second) (by simp))
    obtain ⟨name, rfl⟩ : ∃ name, key = some name := h.named (key, first) (by simp)
    simp only [Shape.Denotes, Node.table.injEq, exists_eq_left', List.forall_mem_append, List.forall_mem_cons]
    refine and_congr_right fun _ => forall_congr' fun scope => ?_
    by_cases own : scope.name = name
    · subst own
      exact given_changed h h' same
    · exact given_congr (mem_changed own)

/-- Spellings of the same: trees of JSON values that changes lead to and from.  A change inside a field that is given
by its place is made after the fields have been named, which is then undone. -/
def Shape.Respelled (shape : Shape α) : Node → Node → Prop :=
  Relation.EqvGen fun first second => first.proper = true ∧ second.proper = true ∧ shape.Respells first second

/-- Changes of the spelling keep what is read, and whether anything is. -/
theorem Shape.ReadBy.respelled {shape : Shape α} {reader : Reader α} {dialect : Dialect}
    (read : shape.ReadBy dialect reader) (h : shape.Respelled first second) (value : α) :
    reader dialect first = .ok value ↔ reader dialect second = .ok value := by
  induction h with
  | rel first second step =>
    obtain ⟨proper, proper', step⟩ := step
    rw [read first proper, read second proper', step.denotes_iff proper proper']
  | refl => exact Iff.rfl
  | symm _ _ _ ih => exact ih.symm
  | trans _ _ _ _ _ ih ih' => exact ih.trans ih'

end PipelineSelection
