import PipelineSelection.Json.Value
import PipelineSelection.Proofs.Document.Tables

/-!
# Records are read back

A table that gives the fields of a record in declared order, some of them left out because they have their default
(`Writes`), is read as the record (`Reader.record_of_writes`).  Readers that undo a way of writing values are said to
invert it (`Inverts`); lists and fields that are left out when their list is empty keep that property.
-/

namespace PipelineSelection

variable {α : Type} {types : List Type} {dialect : Dialect}

/-- A reader gives back every value from the tree of what is written for it. -/
def Inverts (reader : Reader α) (toJson : α → Json) : Prop :=
  ∀ dialect value, reader dialect (toJson value).toNode = .ok value

namespace Fields

/-- Members that give the values of fields in declared order; a field may be left out when its value is its
default. -/
inductive Writes (dialect : Dialect) :
    {types : List Type} → Fields types → Values types → List (Option String × Node) → Prop where
  | nil : Writes dialect .nil () []
  | given {α : Type} {types : List Type} {name : String} {reader : Reader α} {default : Option α}
      {rest : Fields types} {value : α} {values : Values types} {node : Node} {members : List (Option String × Node)} :
      reader dialect node = .ok value → Writes dialect rest values members →
        Writes dialect (.cons name reader default rest) (value, values) ((some name, node) :: members)
  | leftOut {α : Type} {types : List Type} {name : String} {reader : Reader α} {rest : Fields types}
      {value : α} {values : Values types} {members : List (Option String × Node)} :
      Writes dialect rest values members →
        Writes dialect (.cons name reader (some value) rest) (value, values) members

theorem Writes.key_mem {fields : Fields types} {values : Values types} {members : List (Option String × Node)}
    (h : Writes dialect fields values members) : ∀ member ∈ members, ∃ name ∈ fields.names, member.1 = some name := by
  induction h with
  | nil => simp
  | given _ _ ih =>
    intro member mem
    rcases List.mem_cons.1 mem with rfl | mem
    · exact ⟨_, List.mem_cons_self .., rfl⟩
    · obtain ⟨name, known, key⟩ := ih member mem
      exact ⟨name, List.mem_cons_of_mem _ known, key⟩
  | leftOut _ ih =>
    intro member mem
    obtain ⟨name, known, key⟩ := ih member mem
    exact ⟨name, List.mem_cons_of_mem _ known, key⟩

variable {fields : Fields types} {values : Values types} {members : List (Option String × Node)}

private theorem Writes.absent (h : Writes dialect fields values members) {name : String} (fresh : name ∉ fields.names) :
    members.filter (·.1 == some name) = [] := by
  rw [List.filter_eq_nil_iff]
  intro member mem own
  obtain ⟨other, known, key⟩ := h.key_mem member mem
  rw [key, beq_iff_eq, Option.some.injEq] at own
  exact fresh (own ▸ known)

/-- The members assign the values. -/
theorem Writes.assigns (h : Writes dialect fields values members) (distinct : fields.names.Nodup) :
    fields.Assigns dialect members values := by
  induction h with
  | nil => trivial
  | given read writes ih =>
    obtain ⟨fresh, distinct⟩ := List.nodup_cons.1 distinct
    refine ⟨⟨_, givenOnce_cons_self.2 ⟨writes.absent fresh, _, rfl, read⟩, rfl⟩, ?_⟩
    exact (assigns_cons_of_notMem fresh _).2 (ih distinct)
  | leftOut writes ih =>
    obtain ⟨fresh, distinct⟩ := List.nodup_cons.1 distinct
    -- no member has the key of the field, so its default is taken
    exact ⟨⟨none, writes.absent fresh, rfl⟩, ih distinct⟩

end Fields

open Fields in
/-- A table that writes the fields of a record is read as the record. -/
theorem Reader.record_of_writes {name : String} {fields : Fields types} {make : Values types → α}
    {values : Values types} {members : List (Option String × Node)} (h : Writes dialect fields values members)
    (distinct : fields.names.Nodup) : Reader.record name fields make dialect (.table members) = .ok (make values) := by
  refine (record_table_iff distinct).2 ⟨fun member mem => ?_, values, h.assigns distinct, rfl⟩
  obtain ⟨key, known, own⟩ := h.key_mem member mem
  exact ⟨key, own, .inl known⟩

/-! ### Lists -/

namespace Json

theorem toNodes_eq_map (items : List Json) : toNodes items = items.map toNode := by
  induction items with
  | nil => rfl
  | cons item items ih => rw [toNodes, ih, List.map_cons]

theorem toMembers_eq_map (members : List (String × Json)) :
    toMembers members = members.map fun (key, value) => (some key, value.toNode) := by
  induction members with
  | nil => rfl
  | cons member members ih => rw [toMembers, ih, List.map_cons]

theorem toMembers_append (first second : List (String × Json)) :
    toMembers (first ++ second) = toMembers first ++ toMembers second := by
  rw [toMembers_eq_map, List.map_append, ← toMembers_eq_map, ← toMembers_eq_map]

end Json

theorem inverts_text : Inverts Reader.text .string := fun _ _ => rfl

theorem Inverts.listOf {reader : Reader α} {toJson : α → Json} (h : Inverts reader toJson) :
    Inverts (Reader.listOf reader) fun values => .array (values.map toJson) := by
  intro dialect values
  rw [Json.toNode, Json.toNodes_eq_map, List.map_map]
  show (values.map _).mapM (reader dialect) = _
  induction values with
  | nil => rfl
  | cons value values ih =>
    rw [List.map_cons, List.mapM_cons, Function.comp_apply, h dialect value, ih]
    rfl

end PipelineSelection
