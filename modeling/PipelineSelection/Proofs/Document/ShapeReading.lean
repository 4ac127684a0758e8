import PipelineSelection.Proofs.Document.ScopeTables

/-!
# Shapes are read exactly

A reader put together as a shape says (`Shape.ReadBy`) succeeds with a value on a tree of a JSON value exactly when the
tree denotes the value, provided that the format does not overlook elements after the last field of a record.

How a table is read is known for any keys (`Reader.record_table_iff`, `Reader.scopeMap_iff`).  In a tree of a JSON value
no key is repeated, and what is given once, or last, is then simply what is given; so the inductions here are over the
fields of a record and the elements of a sequence only.
-/

namespace PipelineSelection

open Node (ProperMembers)

variable {α : Type} {types : List Type} {dialect : Dialect} {members : List (Option String × Node)}

/-! ### Elements -/

namespace Fields

variable {name : String} {reader : Reader α} {default : Option α} {rest : Fields types} {node : Node}
  {missing : String → ReadError}

/-- The first element is read into the first field. -/
theorem putItems_cons_iff {items surplus : List Node} {value : α} {values : Values types} :
    putItems dialect missing (.cons name reader default rest) (node :: items) = .ok ((value, values), surplus) ↔
      reader dialect node = .ok value ∧ rest.putItems dialect missing items = .ok (values, surplus) := by
  rw [putItems, bind_ok_iff]
  constructor
  · rintro ⟨_, read, others⟩
    obtain ⟨⟨_, _⟩, more, same⟩ := bind_ok_iff.1 others
    cases same
    exact ⟨read, more⟩
  · rintro ⟨read, others⟩
    exact ⟨value, read, bind_ok_iff.2 ⟨_, others, rfl⟩⟩

/-- Where the elements end, the fields that are left take their defaults. -/
theorem putItems_nil_iff {values : Values (α :: types)} :
    putItems dialect missing (.cons name reader default rest) [] = .ok (values, []) ↔
      complete missing (.cons name reader default rest) (Slots.empty (α :: types)) = .ok values := by
  rw [putItems, bind_ok_iff]
  constructor
  · rintro ⟨_, completes, same⟩
    cases same
    exact completes
  · intro completes
    exact ⟨values, completes, rfl⟩

end Fields

/-! ### Readers of shapes -/

/-- A reader that gives for the trees of JSON values just what they denote. -/
def Shape.ReadBy (dialect : Dialect) (shape : Shape α) (reader : Reader α) : Prop :=
  ∀ node, node.proper = true → ∀ value, reader dialect node = .ok value ↔ shape.Denotes node value

/-- Fields that are read under their names and with their defaults. -/
inductive FieldShapes.ReadBy (dialect : Dialect) : {names : List String} → {types : List Type} →
    FieldShapes names types → Fields types → Prop where
  | nil : FieldShapes.ReadBy dialect .nil .nil
  | cons {α : Type} {names : List String} {types : List Type} {name : String} {fresh : name ∉ names}
      {shape : Shape α} {default : Option α} {rest : FieldShapes names types} {reader : Reader α}
      {readers : Fields types} : shape.ReadBy dialect reader → rest.ReadBy dialect readers →
      FieldShapes.ReadBy dialect (.cons name fresh shape default rest) (.cons name reader default readers)

theorem Shape.ReadBy.given_iff {shape : Shape α} {reader : Reader α} (read : shape.ReadBy dialect reader)
    (h : ProperMembers members) {name : String} {slot : Option α} :
    Given (fun node value => reader dialect node = .ok value) members name slot ↔
      Given shape.Denotes members name slot := by
  cases slot with
  | none => exact Iff.rfl
  | some value => exact exists_congr fun node => and_congr_right fun mem => read node (h.proper _ mem) value

namespace FieldShapes.ReadBy

variable {names : List String} {fields : FieldShapes names types} {readers : Fields types}

theorem names_eq (h : fields.ReadBy dialect readers) : readers.names = names := by
  induction h with
  | nil => rfl
  | cons _ _ ih => exact congrArg _ ih

/-- Reading the members of a table gives the fields what they denote. -/
theorem assigns_iff (read : fields.ReadBy dialect readers) (h : ProperMembers members) (values : Values types) :
    readers.Assigns dialect members values ↔ fields.Denote members values := by
  induction read with
  | nil => exact Iff.rfl
  | cons read _ ih =>
    obtain ⟨value, values⟩ := values
    simp only [Fields.Assigns, FieldShapes.Denote, h.givenOnce_iff, read.given_iff h, ih]

theorem nodup_names (read : fields.ReadBy dialect readers) : readers.names.Nodup := by
  rw [read.names_eq]
  exact fields.nodup

/-- Fields of which none is given are complete with what they denote. -/
theorem complete_empty_iff (read : fields.ReadBy dialect readers) (missing : String → ReadError)
    (values : Values types) :
    readers.complete missing (Slots.empty types) = .ok values ↔ fields.Denote [] values := by
  have nothing : ProperMembers [] := ⟨List.nodup_nil, by simp, by simp⟩
  calc readers.complete missing (Slots.empty types) = .ok values
    _ ↔ ∃ slots, readers.putMembers dialect (Slots.empty types) [] = .ok slots ∧
        readers.complete missing slots = .ok values := by simp [Fields.putMembers]
    _ ↔ readers.Admits [] ∧ readers.Assigns dialect [] values := Fields.putMembers_complete_iff read.nodup_names
    _ ↔ readers.Assigns dialect [] values := and_iff_right (by simp [Fields.Admits])
    _ ↔ fields.Denote [] values := read.assigns_iff nothing values

/-- Reading the elements of a sequence to its end gives what the fields denote when each element stands under the name
of its field. -/
theorem items_iff (read : fields.ReadBy dialect readers) {items : List Node}
    (proper : ∀ item ∈ items, item.proper = true) (missing : String → ReadError) (values : Values types) :
    readers.putItems dialect missing items = .ok (values, []) ↔
      items.length ≤ names.length ∧ fields.Denote ((names.map some).zip items) values := by
  induction read generalizing items with
  | nil =>
    rw [Fields.putItems]
    cases items <;> simp [FieldShapes.Denote]
  | @cons _ names _ name fresh shape default rest reader readers read others ih =>
    obtain ⟨value, values⟩ := values
    cases items with
    | nil =>
      have whole : (FieldShapes.cons name fresh shape default rest).ReadBy dialect
        (.cons name reader default readers) := .cons read others
      rw [List.zip_nil_right, ← whole.complete_empty_iff missing, Fields.putItems_nil_iff]
      simp
    | cons item items =>
      have foreign : ∀ node, (some name, node) ∉ (names.map some).zip items := by
        intro node mem
        obtain ⟨other, known, key⟩ := List.mem_map.1 (List.of_mem_zip mem).1
        exact fresh (Option.some.inj key ▸ known)
      have given : (∃ slot, Given shape.Denotes ((some name, item) :: (names.map some).zip items) name slot ∧
          slot.or default = some value) ↔ shape.Denotes item value := by
        have unique : ∀ node, (some name, node) ∈ (some name, item) :: (names.map some).zip items → node = item := by
          simp [foreign]
        simp [given_of_unique (List.mem_cons_self ..) unique]
      obtain ⟨one, more⟩ := List.forall_mem_cons.1 proper
      rw [List.map_cons, List.zip_cons_cons, FieldShapes.Denote, given, rest.denote_cons_of_notMem fresh,
        Fields.putItems_cons_iff, read item one, ih more values, List.length_cons, List.length_cons,
        Nat.add_le_add_iff_right]
      exact and_left_comm

end FieldShapes.ReadBy

/-! ### Shapes -/

theorem mapM_ok_iff {ε β : Type} {f : α → Except ε β} {items : List α} {values : List β} :
    items.mapM f = .ok values ↔ List.Forall₂ (fun item value => f item = .ok value) items values := by
  induction items generalizing values with
  | nil => cases values <;> simp [pure, Except.pure]
  | cons item items ih =>
    rw [List.mapM_cons, bind_ok_iff]
    constructor
    · rintro ⟨value, one, others⟩
      obtain ⟨values, more, same⟩ := bind_ok_iff.1 others
      cases same
      exact .cons one (ih.1 more)
    · rintro (_ | ⟨one, more⟩)
      exact ⟨_, one, bind_ok_iff.2 ⟨_, ih.2 more, rfl⟩⟩

private theorem check_ok_iff {policy : Surplus} (strict : policy ≠ .ignored) {present : Nat} {surplus : List Node} :
    policy.check present surplus = .ok () ↔ surplus = [] := by
  cases surplus with
  | nil => simp [Surplus.check]
  | cons node surplus => cases policy <;> simp_all [Surplus.check]

namespace Shape.ReadBy

variable {reader : Reader α}

theorem text : Shape.text.ReadBy dialect Reader.text := by
  intro node _ value
  cases node <;> simp [Reader.text, Shape.Denotes]

theorem list {item : Shape α} (read : item.ReadBy dialect reader) :
    (Shape.list item).ReadBy dialect (Reader.listOf reader) := by
  intro node proper values
  cases node with
  | sequence items =>
    have each := Node.proper_sequence.1 proper
    simp only [Reader.listOf, mapM_ok_iff, Shape.Denotes, Node.sequence.injEq, exists_eq_left', List.forall₂_iff_zip]
    refine and_congr_right fun _ => forall_congr' fun element => forall_congr' fun value => ?_
    exact forall_congr' fun mem => read element (each element (List.of_mem_zip mem).1) value
  | _ => simp [Reader.listOf, Shape.Denotes]

theorem byScope {content : Shape α} (read : content.ReadBy dialect reader) :
    (Shape.byScope content).ReadBy dialect (Reader.scopeMap reader) := by
  intro node proper map
  cases node with
  | table members =>
    have h := Node.proper_table.1 proper
    simp only [Reader.scopeMap_iff, h.rel_lastFor?_iff, Shape.Denotes, Node.table.injEq, exists_eq_left']
    constructor
    · rintro ⟨readable, given⟩
      exact ⟨fun member mem => (readable member mem).1, fun scope => (read.given_iff h).1 (given scope)⟩
    · rintro ⟨scopes, given⟩
      refine ⟨?_, fun scope => (read.given_iff h).2 (given scope)⟩
      rintro ⟨key, node⟩ mem
      obtain ⟨scope, rfl⟩ := scopes _ mem
      obtain ⟨value, -, denotes⟩ := (h.given_of_mem mem).1 (given scope)
      exact ⟨⟨scope, rfl⟩, value, (read node (h.proper _ mem) value).2 denotes⟩
  | _ => simp [Reader.scopeMap, Shape.Denotes]

theorem record {names : List String} {fields : FieldShapes names types} {readers : Fields types}
    (read : fields.ReadBy dialect readers) (strict : dialect.surplus ≠ .ignored) (title : String)
    (make : Values types → α) : (Shape.record fields make).ReadBy dialect (Reader.record title readers make) := by
  intro node proper value
  cases node with
  | table members =>
    have h := Node.proper_table.1 proper
    have admits : readers.Admits members := by
      intro member mem
      obtain ⟨name, key⟩ := h.named member mem
      exact ⟨name, key, .inr (member.2.intact_of_proper (h.proper member mem))⟩
    rw [Reader.record_table_iff read.nodup_names, and_iff_right admits, Shape.denotes_record_table]
    simp only [read.assigns_iff h]
  | sequence items =>
    have denote := read.items_iff (Node.proper_sequence.1 proper) fun _ => .tooShort items.length title readers.count
    rw [Reader.record, bind_ok_iff, Shape.Denotes]
    constructor
    · rintro ⟨⟨values, surplus⟩, put, rest⟩
      obtain ⟨_, checked, same⟩ := bind_ok_iff.1 rest
      cases (check_ok_iff strict).1 checked
      obtain ⟨short, denotes⟩ := (denote values).1 put
      exact ⟨_, values, if_pos short, denotes, Except.ok.inj same⟩
    · rintro ⟨_, values, found, denotes, rfl⟩
      rw [Node.membersFor?, Option.ite_none_right_eq_some] at found
      obtain ⟨short, found⟩ := found
      cases found
      have put := (denote values).2 ⟨short, denotes⟩
      exact ⟨(values, []), put, bind_ok_iff.2 ⟨(), (check_ok_iff strict).2 rfl, rfl⟩⟩
  | _ => simp [Reader.record, Shape.Denotes, Node.membersFor?]

end Shape.ReadBy

end PipelineSelection
