import Mathlib.Data.List.Forall2
import PipelineSelection.Proofs.Document.Deletion
import PipelineSelection.Proofs.Document.ShapeReading

/-!
# Deleted fields take their defaults

What a deletion leaves of a tree (`Shape.Remains`) is told field by field, so that the keys of a record may have come in
any order and keys of no field may have been added.  What it makes of a value (`Shape.Resets`) is told the same way: a
field whose key is deleted takes its default, and the other fields change inside.  A reader of a shape keeps the two
together (`Shape.Resettable`): what remains of a tree that is read as a value is read as what the value is reset to, and
is not read at all when a field without a default is deleted.

A field that is not given has its default already, so a deletion inside it must not change that default
(`Shape.Stable`): the defaults of a record and of its own fields have to agree.
-/

namespace PipelineSelection

variable {α β : Type} {types : List Type} {dialect : Dialect} {members others : List (Option String × Node)}

/-! ### What is left -/

mutual

/-- Whether a tree is what a deletion leaves of another one.  At a place where a record stands in a table, the keys may
come in another order among other keys of no field; where nothing is deleted, a record may also stand there as it
was. -/
def Shape.Remains : {α : Type} → Shape α → Deletion → Node → Node → Prop
  | _, .text, _, whole, left => left = whole
  | _, .list item, gone, whole, left => ∃ items others, whole = .sequence items ∧ left = .sequence others ∧
      ∀ index : Nat, Option.Rel (item.Remains (gone.under (.item index))) items[index]? others[index]?
  | _, .byScope _, gone, whole, left => gone = .nothing ∧ left = whole
  | _, .record fields _, gone, whole, left => (gone = .nothing ∧ left = whole) ∨ ∃ members others,
      whole = .table members ∧ left = .table others ∧
      (∀ member ∈ others, ∃ name, member.1 = some name ∧ (name ∈ fields.names ∨ member.2.intact = true)) ∧
      fields.Remain gone members others

/-- Whether every field has at most one member, which is deleted or has something left. -/
def FieldShapes.Remain : {names : List String} → {types : List Type} → FieldShapes names types → Deletion →
    List (Option String × Node) → List (Option String × Node) → Prop
  | _, _, .nil, _, _, _ => True
  | _, _, .cons name _ shape _ rest, gone, members, others =>
    (∃ whole left, GivenOnce Eq members name whole ∧ GivenOnce Eq others name left ∧
      if gone [] name then left = none else Option.Rel (shape.Remains (gone.under (.key name))) whole left) ∧
      rest.Remain gone members others

end

mutual

/-- Whether a value is what a deletion makes of another one. -/
def Shape.Resets : {α : Type} → Shape α → Deletion → α → α → Prop
  | _, .text, _, value, value' => value' = value
  | _, .list item, gone, values, values' =>
    ∀ index : Nat, Option.Rel (item.Resets (gone.under (.item index))) values[index]? values'[index]?
  | _, .byScope _, _, map, map' => map' = map
  | _, .record fields make, gone, value, value' => ∃ values values', make values = value ∧ make values' = value' ∧
      fields.Reset gone values values'

/-- Whether every field has its default, if its key is deleted, or else what the deletion makes of its value. -/
def FieldShapes.Reset : {names : List String} → {types : List Type} → FieldShapes names types → Deletion →
    Values types → Values types → Prop
  | _, _, .nil, _, _, _ => True
  | _, _, .cons name _ shape default rest, gone, (value, values), (value', values') =>
    (if gone [] name then default = some value' else shape.Resets (gone.under (.key name)) value value') ∧
      rest.Reset gone values values'

end

mutual

/-- Whether every record in a tree stands there as a table. -/
def Shape.InTables : {α : Type} → Shape α → Node → Prop
  | _, .text, _ => True
  | _, .list item, node => ∀ items, node = .sequence items → ∀ element ∈ items, item.InTables element
  | _, .byScope content, node => ∀ members, node = .table members → ∀ member ∈ members, content.InTables member.2
  | _, .record fields _, node => ∃ members, node = .table members ∧ fields.InTables members

def FieldShapes.InTables : {names : List String} → {types : List Type} → FieldShapes names types →
    List (Option String × Node) → Prop
  | _, _, .nil, _ => True
  | _, _, .cons name _ shape _ rest, members =>
    (∀ node, (some name, node) ∈ members → shape.InTables node) ∧ rest.InTables members

end

/-- No deletion changes the value. -/
def Shape.Stable (shape : Shape α) (value : α) : Prop :=
  ∀ gone value', shape.Resets gone value value' ↔ value' = value

/-- A reader that reads from what a deletion leaves of a tree what it makes of the value. -/
structure Shape.Resettable (dialect : Dialect) (shape : Shape α) (reader : Reader α) : Prop where
  reads : ∀ gone whole left, shape.Remains gone whole left → ∀ value, reader dialect whole = .ok value →
    ∀ value', reader dialect left = .ok value' ↔ shape.Resets gone value value'
  /-- Taking the keys out of the tables leaves what the deletion says. -/
  without : ∀ gone node value, reader dialect node = .ok value → shape.InTables node →
    shape.Remains gone node (node.without gone)
  unchanged : ∀ value value', shape.Resets .nothing value value' ↔ value' = value

/-- Fields whose readers keep deletions and whose defaults no deletion changes. -/
inductive FieldShapes.Resettable (dialect : Dialect) : {names : List String} → {types : List Type} →
    FieldShapes names types → Fields types → Prop where
  | nil : FieldShapes.Resettable dialect .nil .nil
  | cons {α : Type} {names : List String} {types : List Type} {name : String} {fresh : name ∉ names}
      {shape : Shape α} {default : Option α} {rest : FieldShapes names types} {reader : Reader α}
      {readers : Fields types} : shape.Resettable dialect reader → (∀ value ∈ default, shape.Stable value) →
      rest.Resettable dialect readers →
      FieldShapes.Resettable dialect (.cons name fresh shape default rest) (.cons name reader default readers)

/-! ### Single members -/

section

variable {means : Node → α → Prop} {name : String} {slot : Option α} {found : Option Node}

/-- What is given for a key is what its only member means. -/
theorem givenOnce_iff_of_eq (only : GivenOnce Eq members name found) :
    GivenOnce means members name slot ↔ Option.Rel means found slot := by
  cases found with
  | none =>
    have absent : members.filter (·.1 == some name) = [] := only
    cases slot with
    | none => exact iff_of_true absent .none
    | some value =>
      refine iff_of_false ?_ nofun
      rintro ⟨node, alone, -⟩
      rw [absent] at alone
      cases alone
  | some node =>
    obtain ⟨_, alone, rfl⟩ := only
    cases slot with
    | none =>
      refine iff_of_false (fun absent => ?_) nofun
      rw [GivenOnce, alone] at absent
      cases absent
    | some value =>
      rw [GivenOnce, alone, Option.rel_some_some]
      simp

/-- A key for which something is given has one member or none. -/
theorem GivenOnce.exists_eq (given : GivenOnce means members name slot) :
    ∃ found, GivenOnce Eq members name found ∧ Option.Rel means found slot := by
  cases slot with
  | none => exact ⟨none, given, .none⟩
  | some value =>
    obtain ⟨node, alone, means⟩ := given
    exact ⟨some node, ⟨node, alone, rfl⟩, .some means⟩

/-- Taking keys out of a table takes out the member of a key that is deleted, and keys out of that of any other one. -/
theorem givenOnce_membersWithout (gone : Deletion) (only : GivenOnce Eq members name found) :
    GivenOnce Eq (Node.membersWithout gone members) name
      (if gone [] name then none else found.map (·.without (gone.under (.key name)))) := by
  by_cases deleted : gone [] name = true
  · rw [if_pos deleted, GivenOnce, Node.filter_membersWithout, if_pos deleted]
  · rw [if_neg deleted]
    cases found with
    | none =>
      rw [Option.map_none, GivenOnce, Node.filter_membersWithout, if_neg deleted, List.map_eq_nil_iff]
      exact only
    | some node =>
      obtain ⟨_, alone, rfl⟩ := only
      rw [Option.map_some, GivenOnce, Node.filter_membersWithout, if_neg deleted, alone]
      exact ⟨_, rfl, rfl⟩

end

/-! ### Fields -/

/-- What is left for a key gives its field what the deletion makes of the value of the field. -/
theorem Shape.Resettable.slot_iff {shape : Shape α} {reader : Reader α} (h : shape.Resettable dialect reader)
    {default : Option α} (stable : ∀ value ∈ default, shape.Stable value) {gone : Deletion} {name : String}
    {whole left : Option Node}
    (kind : if gone [] name then left = none else Option.Rel (shape.Remains (gone.under (.key name))) whole left)
    {slot : Option α} {value : α} (given : Option.Rel (fun node value => reader dialect node = .ok value) whole slot)
    (complete : slot.or default = some value) (value' : α) :
    (∃ slot', Option.Rel (fun node value => reader dialect node = .ok value) left slot' ∧
        slot'.or default = some value') ↔
      if gone [] name then default = some value' else shape.Resets (gone.under (.key name)) value value' := by
  by_cases deleted : gone [] name = true
  · rw [if_pos deleted] at kind ⊢
    subst kind
    constructor
    · rintro ⟨_, _ | _, same⟩
      exact same
    · exact fun same => ⟨none, .none, same⟩
  · rw [if_neg deleted] at kind ⊢
    cases kind with
    | none =>
      -- the field is not given, neither before nor after
      cases given
      rw [stable value complete]
      constructor
      · rintro ⟨_, _ | _, same⟩
        exact Option.some.inj (same.symm.trans complete)
      · rintro rfl
        exact ⟨none, .none, complete⟩
    | @some one other kind =>
      cases given with
      | some read =>
        cases complete
        rw [← h.reads _ one other kind _ read]
        constructor
        · rintro ⟨_, left | _, same⟩
          cases same
          exact left
        · exact fun left => ⟨_, .some left, rfl⟩

namespace FieldShapes.Resettable

variable {names : List String} {fields : FieldShapes names types} {readers : Fields types} {gone : Deletion}

theorem names_eq (h : fields.Resettable dialect readers) : readers.names = names := by
  induction h with
  | nil => rfl
  | cons _ _ _ ih => exact congrArg _ ih

/-- What is left of the members gives every field what the deletion makes of its value. -/
theorem assigns_iff (h : fields.Resettable dialect readers) (left : fields.Remain gone members others)
    {values : Values types} (assigns : readers.Assigns dialect members values) (values' : Values types) :
    readers.Assigns dialect others values' ↔ fields.Reset gone values values' := by
  induction h with
  | nil => exact Iff.rfl
  | @cons _ _ _ name fresh shape default rest reader readers resettable stable _ ih =>
    obtain ⟨value, values⟩ := values
    obtain ⟨value', values'⟩ := values'
    obtain ⟨⟨whole, remaining, only, only', kind⟩, left⟩ := left
    obtain ⟨⟨slot, given, complete⟩, assigns⟩ := assigns
    rw [givenOnce_iff_of_eq only] at given
    rw [Fields.Assigns, FieldShapes.Reset, ih left assigns]
    refine and_congr_left' ?_
    simp only [givenOnce_iff_of_eq only']
    exact resettable.slot_iff stable kind given complete value'

/-- Taking keys out of a table that can be read leaves what the deletion says. -/
theorem remain_without (h : fields.Resettable dialect readers) {values : Values types}
    (assigns : readers.Assigns dialect members values) (tables : fields.InTables members) :
    fields.Remain gone members (Node.membersWithout gone members) := by
  induction h with
  | nil => trivial
  | @cons _ _ _ name fresh shape default rest reader readers resettable _ _ ih =>
    obtain ⟨value, values⟩ := values
    obtain ⟨⟨slot, given, -⟩, assigns⟩ := assigns
    obtain ⟨inside, tables⟩ := tables
    obtain ⟨found, only, read⟩ := given.exists_eq
    refine ⟨⟨found, _, only, givenOnce_membersWithout gone only, ?_⟩, ih assigns tables⟩
    by_cases deleted : gone [] name = true
    · rw [if_pos deleted, if_pos deleted]
    · rw [if_neg deleted, if_neg deleted]
      cases read with
      | none => exact .none
      | @some node _ read =>
        obtain ⟨node, alone, rfl⟩ := only
        have mem : (some name, node) ∈ members := by
          have first : (some name, node) ∈ members.filter (·.1 == some name) := alone ▸ List.mem_singleton_self _
          exact (List.mem_filter.1 first).1
        exact .some (resettable.without _ node _ read (inside node mem))

theorem unchanged (h : fields.Resettable dialect readers) (values values' : Values types) :
    fields.Reset .nothing values values' ↔ values' = values := by
  induction h with
  | nil => exact iff_of_true trivial rfl
  | @cons _ _ _ name fresh shape default rest reader readers resettable _ _ ih =>
    obtain ⟨value, values⟩ := values
    obtain ⟨value', values'⟩ := values'
    rw [FieldShapes.Reset, if_neg (by simp [Deletion.nothing]), Deletion.nothing_under, resettable.unchanged, ih,
      Prod.mk.injEq]

end FieldShapes.Resettable

/-! ### Shapes -/

private theorem forall₂_iff_rel {r : α → β → Prop} {first : List α} {second : List β} :
    List.Forall₂ r first second ↔ ∀ index : Nat, Option.Rel r first[index]? second[index]? := by
  induction first generalizing second with
  | nil =>
    cases second with
    | nil => simp
    | cons b second => exact iff_of_false nofun fun rel => nomatch rel 0
  | cons a first ih =>
    cases second with
    | nil => exact iff_of_false nofun fun rel => nomatch rel 0
    | cons b second =>
      rw [List.forall₂_cons, ih]
      constructor
      · rintro ⟨one, rest⟩ (_ | index)
        · exact .some one
        · exact rest index
      · intro rel
        exact ⟨Option.rel_some_some.1 (rel 0), fun index => rel (index + 1)⟩

/-- Two relations from one thing to two others make a relation between these. -/
private theorem rel_congr {r : α → β → Prop} {s : α → α → Prop} {t : β → β → Prop}
    (agree : ∀ a a' b, s a a' → r a b → ∀ b', r a' b' ↔ t b b') {a a' : Option α} {b : Option β}
    (left : Option.Rel s a a') (read : Option.Rel r a b) (b' : Option β) : Option.Rel r a' b' ↔ Option.Rel t b b' := by
  cases left with
  | none =>
    cases read
    cases b' <;> simp
  | some left =>
    cases read with
    | some read =>
      cases b' with
      | none => simp
      | some b' => rw [Option.rel_some_some, Option.rel_some_some, agree _ _ _ left read]

/-- Lists are equal when their elements are. -/
private theorem rel_iff_eq {r : Nat → α → α → Prop} {values values' : List α}
    (same : ∀ index value, values[index]? = some value → ∀ value', r index value value' ↔ value' = value) :
    (∀ index : Nat, Option.Rel (r index) values[index]? values'[index]?) ↔ values' = values := by
  constructor
  · intro rel
    refine List.ext_getElem? fun index => ?_
    have rel := rel index
    have same := same index
    generalize values[index]? = one at rel same ⊢
    generalize values'[index]? = other at rel ⊢
    cases rel with
    | none => rfl
    | some rel => exact congrArg _ ((same _ rfl _).1 rel)
  · rintro rfl index
    cases found : values'[index]? with
    | none => exact .none
    | some value => exact .some ((same index value found value).2 rfl)

namespace Shape

theorem stable_text (value : String) : Shape.text.Stable value := fun _ _ => Iff.rfl

/-- No deletion changes a list of values that none of them changes. -/
theorem stable_list {item : Shape α} {values : List α} (stable : ∀ value ∈ values, item.Stable value) :
    (Shape.list item).Stable values := by
  intro gone values'
  exact rel_iff_eq fun index value found => stable value (List.mem_of_getElem? found) _

namespace Resettable

variable {reader : Reader α}

theorem text : Shape.text.Resettable dialect Reader.text where
  reads := by
    rintro gone whole _ rfl value read value'
    rw [read, Except.ok.injEq]
    exact eq_comm
  without := by
    intro gone node value read _
    cases node with
    | text => rfl
    | _ => cases read
  unchanged _ _ := Iff.rfl

theorem list {item : Shape α} (h : item.Resettable dialect reader) :
    (Shape.list item).Resettable dialect (Reader.listOf reader) where
  reads := by
    rintro gone _ _ ⟨items, others, rfl, rfl, left⟩ values read values'
    rw [Reader.listOf, mapM_ok_iff, forall₂_iff_rel] at read
    rw [Reader.listOf, mapM_ok_iff, forall₂_iff_rel]
    refine forall_congr' fun index => rel_congr (fun one other value left read => ?_) (left index) (read index) _
    exact h.reads _ one other left value read
  without := by
    intro gone node values read tables
    cases node with
    | sequence items =>
      rw [Reader.listOf, mapM_ok_iff, forall₂_iff_rel] at read
      refine ⟨items, _, rfl, rfl, fun index => ?_⟩
      rw [Node.itemsWithout_eq_mapIdx, List.getElem?_mapIdx, Nat.zero_add]
      have read := read index
      generalize values[index]? = slot at read
      cases found : items[index]? with
      | none => exact .none
      | some item =>
        rw [found] at read
        cases read with
        | some read => exact .some (h.without _ item _ read (tables items rfl item (List.mem_of_getElem? found)))
    | _ => cases read
  unchanged _ _ := rel_iff_eq fun _ value _ => h.unchanged value

theorem record {names : List String} {fields : FieldShapes names types} {readers : Fields types}
    (h : fields.Resettable dialect readers) (title : String) {make : Values types → α}
    (bijective : Function.Bijective make) :
    (Shape.record fields make).Resettable dialect (Reader.record title readers make) := by
  have distinct : readers.names.Nodup := h.names_eq ▸ fields.nodup
  have unchanged : ∀ value value', (Shape.record fields make).Resets .nothing value value' ↔ value' = value := by
    intro value value'
    constructor
    · rintro ⟨values, values', rfl, rfl, reset⟩
      rw [(h.unchanged values values').1 reset]
    · rintro rfl
      obtain ⟨values, rfl⟩ := bijective.surjective value'
      exact ⟨values, values, rfl, rfl, (h.unchanged values values).2 rfl⟩
  refine { reads := ?_, without := ?_, unchanged }
  · rintro gone whole left (⟨rfl, rfl⟩ | ⟨members, others, rfl, rfl, admits, left⟩) value read value'
    · rw [unchanged, read, Except.ok.injEq]
      exact eq_comm
    · obtain ⟨-, values, assigns, rfl⟩ := (Reader.record_table_iff distinct).1 read
      rw [Reader.record_table_iff distinct]
      constructor
      · rintro ⟨-, values', assigns', rfl⟩
        exact ⟨values, values', rfl, rfl, (h.assigns_iff left assigns values').1 assigns'⟩
      · rintro ⟨before, values', same, rfl, reset⟩
        cases bijective.injective same
        refine ⟨?_, values', (h.assigns_iff left assigns values').2 reset, rfl⟩
        rw [Fields.Admits, h.names_eq]
        exact admits
  · rintro gone node value read ⟨members, rfl, tables⟩
    obtain ⟨admits, values, assigns, rfl⟩ := (Reader.record_table_iff distinct).1 read
    rw [Fields.Admits, h.names_eq] at admits
    refine .inr ⟨members, _, rfl, rfl, ?_, h.remain_without assigns tables⟩
    rintro ⟨key, node⟩ mem
    obtain ⟨whole, mem, intact⟩ := Node.exists_of_mem_membersWithout mem
    obtain ⟨name, same, kind⟩ := admits _ mem
    exact ⟨name, same, kind.imp_right intact⟩

end Resettable

end Shape

end PipelineSelection
