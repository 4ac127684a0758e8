import PipelineSelection.Proofs.Document.Shape

/-!
# Records written as tables

When a table is read as a record, whatever its keys are: every key denotes a text, no field is given twice, what is
given for a field can be read, and a field that is not given has a default (`Reader.record_table_iff`).  A field that
is given twice is an error even if both of its values could be read, and the error names the field
(`Fields.put_of_mem`).

The slots of a record are filled one field at a time: reading all members is reading those of the first field, and the
others into the remaining fields (`Fields.putMembers_ok_iff`).
-/

namespace PipelineSelection

open Node (ProperMembers)

variable {α : Type} {types : List Type} {dialect : Dialect} {members : List (Option String × Node)}

theorem bind_ok_iff {ε β : Type} {result : Except ε α} {next : α → Except ε β} {value : β} :
    (result >>= next) = .ok value ↔ ∃ between, result = .ok between ∧ next between = .ok value := by
  cases result <;> simp [bind, Except.bind]

/-! ### Keys that are given at most once -/

/-- What the members give for a key that none of them repeats: the value of the one member of that key, or nothing when
there is none. -/
def GivenOnce (means : Node → α → Prop) (members : List (Option String × Node)) (name : String) : Option α → Prop
  | some value => ∃ node, members.filter (·.1 == some name) = [(some name, node)] ∧ means node value
  | none => members.filter (·.1 == some name) = []

section

variable {means : Node → α → Prop} {name other : String} {node : Node} {slot : Option α}

/-- A member of the key in front is the only one. -/
theorem givenOnce_cons_self : GivenOnce means ((some name, node) :: members) name slot ↔
    members.filter (·.1 == some name) = [] ∧ ∃ value, slot = some value ∧ means node value := by
  cases slot with
  | none => simp [GivenOnce]
  | some value =>
    simp only [GivenOnce, List.filter_cons, beq_self_eq_true, if_true, List.cons.injEq, Prod.mk.injEq, true_and,
      Option.some.injEq, exists_eq_left']
    constructor
    · rintro ⟨_, ⟨rfl, alone⟩, means⟩
      exact ⟨alone, means⟩
    · rintro ⟨alone, means⟩
      exact ⟨node, ⟨rfl, alone⟩, means⟩

theorem givenOnce_cons_of_ne {key : Option String} (different : key ≠ some name) :
    GivenOnce means ((key, node) :: members) name slot ↔ GivenOnce means members name slot := by
  have skipped : ((key, node) :: members).filter (·.1 == some name) = members.filter (·.1 == some name) :=
    List.filter_cons_of_neg (by simp [different])
  cases slot <;> simp only [GivenOnce, skipped]

/-- Members of another key make no difference. -/
theorem givenOnce_filter_ne (different : other ≠ name) :
    GivenOnce means (members.filter (·.1 != some name)) other slot ↔ GivenOnce means members other slot := by
  have kept : (members.filter (·.1 != some name)).filter (·.1 == some other) = members.filter (·.1 == some other) := by
    rw [List.filter_filter]
    refine List.filter_congr fun member _ => ?_
    by_cases own : member.1 = some other
    · simp [own, different]
    · simp [own]
  cases slot <;> simp only [GivenOnce, kept]

/-- A member of a key that is given once gives its value. -/
theorem GivenOnce.of_mem (given : GivenOnce means members name slot) (mem : (some name, node) ∈ members) :
    ∃ value, slot = some value ∧ means node value := by
  have found : (some name, node) ∈ members.filter (·.1 == some name) := List.mem_filter.2 ⟨mem, by simp⟩
  cases slot with
  | none =>
    rw [given] at found
    cases found
  | some value =>
    obtain ⟨only, alone, means⟩ := given
    rw [alone, List.mem_singleton] at found
    cases found
    exact ⟨value, rfl, means⟩

/-- Where no key is repeated at all, what is given is given once. -/
theorem Node.ProperMembers.givenOnce_iff (h : ProperMembers members) :
    GivenOnce means members name slot ↔ Given means members name slot := by
  induction members with
  | nil => cases slot <;> simp [GivenOnce, Given]
  | cons member members ih =>
    obtain ⟨key, node⟩ := member
    by_cases own : key = some name
    · subst own
      have alone : members.filter (·.1 == some name) = [] := by
        rw [List.filter_eq_nil_iff]
        intro other mem
        simpa using h.ne_of_mem_tail other mem
      rw [givenOnce_cons_self, h.given_of_mem (List.mem_cons_self ..)]
      exact and_iff_right alone
    · obtain ⟨key, rfl⟩ : ∃ name, key = some name := h.named (key, node) (by simp)
      rw [givenOnce_cons_of_ne own, given_cons_of_ne fun same => own (congrArg some same)]
      exact ih h.tail

end

/-! ### Filling the slots -/

namespace Fields

/-- The keys of the fields in declared order. -/
def names {types : List Type} : Fields types → List String
  | .nil => []
  | .cons name _ _ rest => name :: rest.names

variable {name key : String} {reader : Reader α} {default : Option α} {rest : Fields types} {node : Node}
  {missing : String → ReadError}

private theorem putMembers_some (fields : Fields types) (slots : Slots types) (key : String) (node : Node)
    (members : List (Option String × Node)) :
    fields.putMembers dialect slots ((some key, node) :: members) =
      (fields.put dialect key node slots).bind fun slots => fields.putMembers dialect slots members := rfl

private theorem putMembers_none (fields : Fields types) (slots : Slots types) (node : Node)
    (members : List (Option String × Node)) :
    fields.putMembers dialect slots ((none, node) :: members) = .error .malformed := by
  rw [putMembers]

/-- A slot that is filled stays as it is, and no further member has its key. -/
private theorem putMembers_filled_iff {value : α} {slot : Option α} {slots slots' : Slots types} :
    putMembers dialect (.cons name reader default rest) (some value, slots) members = .ok (slot, slots') ↔
      members.filter (·.1 == some name) = [] ∧ slot = some value ∧
        putMembers dialect rest slots members = .ok slots' := by
  induction members generalizing slots with
  | nil => simp [putMembers, eq_comm]
  | cons member members ih =>
    obtain ⟨_ | key, node⟩ := member
    · rw [putMembers_none, putMembers_none]
      simp
    · rw [putMembers_some, putMembers_some]
      by_cases own : key = name
      · subst own
        rw [put, if_pos rfl]
        simp [Except.bind]
      · rw [put, if_neg own, List.filter_cons_of_neg (by simp [own])]
        cases rest.put dialect key node slots with
        | error error => simp [bind, Except.bind]
        | ok slots => exact ih

private theorem filter_ne_of_filter_eq_nil {key : Option String} (absent : members.filter (·.1 == key) = []) :
    members.filter (·.1 != key) = members := by
  rw [List.filter_eq_self]
  intro member mem
  simpa using List.filter_eq_nil_iff.1 absent member mem

/-- Reading members fills the slot of the first field with what they give for it once, and the other slots from the
members of other keys. -/
theorem putMembers_ok_iff {slot : Option α} {slots slots' : Slots types} :
    putMembers dialect (.cons name reader default rest) (none, slots) members = .ok (slot, slots') ↔
      GivenOnce (fun node value => reader dialect node = .ok value) members name slot ∧
        putMembers dialect rest slots (members.filter (·.1 != some name)) = .ok slots' := by
  induction members generalizing slots with
  | nil => cases slot <;> simp [putMembers, GivenOnce]
  | cons member members ih =>
    obtain ⟨_ | key, node⟩ := member
    · rw [putMembers_none, List.filter_cons_of_pos (by simp), putMembers_none]
      simp
    · by_cases own : key = name
      · subst own
        rw [putMembers_some, put, if_pos rfl, List.filter_cons_of_neg (by simp), givenOnce_cons_self]
        cases read : reader dialect node with
        | error error => simp [bind, Except.bind]
        | ok value =>
          show putMembers dialect (.cons key reader default rest) (some value, slots) members = _ ↔ _
          rw [putMembers_filled_iff]
          constructor
          · rintro ⟨alone, rfl, others⟩
            rw [← filter_ne_of_filter_eq_nil alone] at others
            exact ⟨⟨alone, value, rfl, rfl⟩, others⟩
          · rintro ⟨⟨alone, _, rfl, same⟩, others⟩
            cases same
            rw [filter_ne_of_filter_eq_nil alone] at others
            exact ⟨alone, rfl, others⟩
      · rw [putMembers_some, put, if_neg own, List.filter_cons_of_pos (by simp [own]), putMembers_some,
          givenOnce_cons_of_ne (by simp [own])]
        cases rest.put dialect key node slots with
        | error error => simp [bind, Except.bind]
        | ok slots => exact ih

/-- Without fields, members are only looked at. -/
private theorem putMembers_nil_iff :
    putMembers dialect .nil () members = .ok () ↔
      ∀ member ∈ members, (∃ name, member.1 = some name) ∧ member.2.intact = true := by
  induction members with
  | nil => simp [putMembers]
  | cons member members ih =>
    obtain ⟨_ | key, node⟩ := member
    · rw [putMembers_none]
      simp
    · rw [putMembers_some, put, List.forall_mem_cons]
      by_cases intact : node.intact = true
      · rw [if_pos intact, ← ih]
        simp [intact, Except.bind]
      · rw [if_neg intact]
        simp [intact, Except.bind]

/-- A field that is given is complete with its value, any other one with its default. -/
private theorem complete_cons_iff {slot : Option α} {slots : Slots types} {value : α} {values : Values types} :
    complete missing (.cons name reader default rest) (slot, slots) = .ok (value, values) ↔
      slot.or default = some value ∧ rest.complete missing slots = .ok values := by
  rw [complete]
  cases slot.or default with
  | none => simp
  | some given =>
    simp [bind_ok_iff, pure, Except.pure, and_comm]

/-- Whether every field has the value that the members give for it once, or its default when they give none. -/
def Assigns (dialect : Dialect) (members : List (Option String × Node)) :
    {types : List Type} → Fields types → Values types → Prop
  | _, .nil, _ => True
  | _, .cons name reader default rest, (value, values) =>
    (∃ slot, GivenOnce (fun node value => reader dialect node = .ok value) members name slot ∧
      slot.or default = some value) ∧ rest.Assigns dialect members values

/-- Members that can be passed over or belong to a field. -/
def Admits (fields : Fields types) (members : List (Option String × Node)) : Prop :=
  ∀ member ∈ members, ∃ name, member.1 = some name ∧ (name ∈ fields.names ∨ member.2.intact = true)

theorem assigns_filter_ne {fields : Fields types} (fresh : name ∉ fields.names) (values : Values types) :
    fields.Assigns dialect (members.filter (·.1 != some name)) values ↔ fields.Assigns dialect members values := by
  induction fields with
  | nil => exact Iff.rfl
  | cons other reader default rest ih =>
    rw [names, List.mem_cons, not_or] at fresh
    simp only [Assigns, givenOnce_filter_ne (Ne.symm fresh.1), ih fresh.2]

/-- A member of no field gives nothing to any. -/
theorem assigns_cons_of_notMem {fields : Fields types} (unknown : key ∉ fields.names) (values : Values types) :
    fields.Assigns dialect ((some key, node) :: members) values ↔ fields.Assigns dialect members values := by
  rw [← assigns_filter_ne unknown, List.filter_cons_of_neg (by simp), assigns_filter_ne unknown]

private theorem admits_filter_ne : rest.Admits (members.filter (·.1 != some name)) ↔
    (Fields.cons name reader default rest).Admits members := by
  constructor
  · intro admits member mem
    by_cases own : member.1 = some name
    · exact ⟨name, own, .inl (List.mem_cons_self ..)⟩
    · obtain ⟨other, key, kind⟩ := admits member (List.mem_filter.2 ⟨mem, by simp [own]⟩)
      exact ⟨other, key, kind.imp_left (List.mem_cons_of_mem _)⟩
  · intro admits member mem
    obtain ⟨mem, other⟩ := List.mem_filter.1 mem
    obtain ⟨found, key, kind⟩ := admits member mem
    refine ⟨found, key, kind.imp_left fun known => ?_⟩
    rcases List.mem_cons.1 known with rfl | known
    · simp [key] at other
    · exact known

/-- Reading the members of a table and filling in the defaults. -/
theorem putMembers_complete_iff {fields : Fields types} (distinct : fields.names.Nodup) {values : Values types} :
    (∃ slots, fields.putMembers dialect (Slots.empty types) members = .ok slots ∧
      fields.complete missing slots = .ok values) ↔
        fields.Admits members ∧ fields.Assigns dialect members values := by
  induction fields generalizing members with
  | nil =>
    have all : putMembers dialect .nil () members = .ok () ↔ Fields.nil.Admits members := by
      rw [putMembers_nil_iff]
      refine forall₂_congr fun member _ => ?_
      simp [names, exists_and_right]
    constructor
    · rintro ⟨⟨⟩, put, -⟩
      exact ⟨all.1 put, trivial⟩
    · rintro ⟨admits, -⟩
      exact ⟨(), all.2 admits, rfl⟩
  | cons name reader default rest ih =>
    obtain ⟨value, values⟩ := values
    obtain ⟨fresh, distinct⟩ := List.nodup_cons.1 distinct
    rw [← admits_filter_ne, Assigns, ← assigns_filter_ne fresh]
    constructor
    · rintro ⟨⟨slot, slots⟩, put, completes⟩
      obtain ⟨given, others⟩ := putMembers_ok_iff.1 put
      obtain ⟨complete, completes⟩ := complete_cons_iff.1 completes
      obtain ⟨admits, assigns⟩ := (ih distinct).1 ⟨slots, others, completes⟩
      exact ⟨admits, ⟨slot, given, complete⟩, assigns⟩
    · rintro ⟨admits, ⟨slot, given, complete⟩, assigns⟩
      obtain ⟨slots, others, completes⟩ := (ih distinct).2 ⟨admits, assigns⟩
      exact ⟨(slot, slots), putMembers_ok_iff.2 ⟨given, others⟩, complete_cons_iff.2 ⟨complete, completes⟩⟩

/-- A key whose field has been given is not put a second time. -/
theorem put_of_mem {fields : Fields types} (known : key ∈ fields.names) {slots : Slots types}
    (put : fields.putMembers dialect (Slots.empty types) members = .ok slots) (given : ∃ node, (some key, node) ∈ members)
    (node : Node) : fields.put dialect key node slots = .error (.duplicateField key) := by
  induction fields generalizing members with
  | nil => cases known
  | cons name reader default rest ih =>
    obtain ⟨slot, slots⟩ := slots
    obtain ⟨once, others⟩ := putMembers_ok_iff.1 put
    obtain ⟨first, mem⟩ := given
    by_cases own : key = name
    · subst own
      obtain ⟨value, rfl, -⟩ := once.of_mem mem
      rw [Fields.put, if_pos rfl]
      rfl
    · have known : key ∈ rest.names := (List.mem_cons.1 known).resolve_left own
      have kept : (some key, first) ∈ members.filter (·.1 != some name) := List.mem_filter.2 ⟨mem, by simp [own]⟩
      rw [Fields.put, if_neg own, ih known others ⟨first, kept⟩]
      rfl

theorem putMembers_append (fields : Fields types) (slots : Slots types) (front back : List (Option String × Node)) :
    fields.putMembers dialect slots (front ++ back) =
      (fields.putMembers dialect slots front).bind fun slots => fields.putMembers dialect slots back := by
  induction front generalizing slots with
  | nil => rfl
  | cons member front ih =>
    obtain ⟨_ | key, node⟩ := member
    · rw [List.cons_append, putMembers_none, putMembers_none]
      rfl
    · rw [List.cons_append, putMembers_some, putMembers_some]
      cases fields.put dialect key node slots with
      | error error => rfl
      | ok slots => exact ih slots

end Fields

namespace Reader

variable {fields : Fields types} {title : String} {make : Values types → α} {value : α}

private theorem record_table (title : String) (fields : Fields types) (make : Values types → α)
    (members : List (Option String × Node)) : Reader.record title fields make dialect (.table members) =
      (fields.putMembers dialect (Slots.empty types) members >>= fun slots =>
        fields.complete .missingField slots >>= fun values => .ok (make values)) := rfl

/-- A table is read as a record exactly when all of its members belong to a field or can be passed over, no field is
given twice, and every field has a value. -/
theorem record_table_iff (distinct : fields.names.Nodup) :
    Reader.record title fields make dialect (.table members) = .ok value ↔
      fields.Admits members ∧ ∃ values, fields.Assigns dialect members values ∧ make values = value := by
  rw [record_table, bind_ok_iff]
  constructor
  · rintro ⟨slots, put, rest⟩
    obtain ⟨values, completes, same⟩ := bind_ok_iff.1 rest
    obtain ⟨admits, assigns⟩ := (Fields.putMembers_complete_iff distinct).1 ⟨slots, put, completes⟩
    exact ⟨admits, values, assigns, Except.ok.inj same⟩
  · rintro ⟨admits, values, assigns, rfl⟩
    obtain ⟨slots, put, completes⟩ := (Fields.putMembers_complete_iff distinct).2 ⟨admits, assigns⟩
    exact ⟨slots, put, bind_ok_iff.2 ⟨values, completes, rfl⟩⟩

/-- After members that are read as a record, a second member for one of its fields is an error. -/
theorem record_table_of_repeated {front back : List (Option String × Node)} {name : String} {node : Node}
    (accepted : ∃ value, Reader.record title fields make dialect (.table front) = .ok value)
    (known : name ∈ fields.names) (given : ∃ node, (some name, node) ∈ front) :
    Reader.record title fields make dialect (.table (front ++ (some name, node) :: back)) =
      .error (.duplicateField name) := by
  obtain ⟨value, accepted⟩ := accepted
  rw [record_table, bind_ok_iff] at accepted
  obtain ⟨slots, put, -⟩ := accepted
  rw [record_table, Fields.putMembers_append, put]
  show (fields.putMembers dialect slots ((some name, node) :: back) >>= _) = _
  rw [Fields.putMembers_some, Fields.put_of_mem known put given]
  rfl

end Reader

end PipelineSelection
