import Mathlib.Data.List.Nodup
import Mathlib.Data.Prod.Basic
import PipelineSelection.Registry

/-!
# How registries come about

Every way of construction gives the registry of a list of definitions in which no scope has a name twice
(`Built.exists_entries`).  The check keeps a set of what it has seen beside the registry, and the two tell the same
(`Draft.Holds`): so it goes on to the end of the list or to the first repetition (`ofList_cases`), a list that passes
is put together like one that is trusted (`ofList_eq_ok_iff`), and the built-in names do not repeat.  Within a scope
of a registry names do not repeat (`Built.nodup_names`), and a definition is found under its name
(`Built.find?_eq_some_iff`).
-/

namespace PipelineSelection

/-- Where names do not repeat, exactly the one element of a name is found under it. -/
theorem find?_name_eq_some_iff {α : Type} {nameOf : α → String} {list : List α} (nodup : (list.map nameOf).Nodup)
    {name : String} {a : α} : list.find? (nameOf · == name) = some a ↔ a ∈ list ∧ nameOf a = name := by
  constructor
  · intro h
    exact ⟨List.mem_of_find?_eq_some h, by simpa using List.find?_some h⟩
  · rintro ⟨mem, rfl⟩
    cases found : list.find? (nameOf · == nameOf a) with
    | none => exact absurd (List.find?_eq_none.1 found a mem) (by simp)
    | some other =>
      have same : nameOf other = nameOf a := by simpa using List.find?_some found
      rw [List.inj_on_of_nodup_map nodup (List.mem_of_find?_eq_some found) mem same]

namespace Registry

/-- What must not repeat among the definitions of a registry. -/
def key (entry : Scope × Definition) : Scope × String := (entry.1, entry.2.name)

/-! ### Contents -/

theorem mem_toList {registry : Registry} {scope : Scope} {definition : Definition} :
    (scope, definition) ∈ registry.toList ↔ definition ∈ registry.definitions scope :=
  ScopeMap.mem_flatten

theorem contains_iff {registry : Registry} {name : String} :
    registry.contains name = true ↔ ∃ scope, ∃ definition ∈ registry.definitions scope, definition.name = name := by
  simp [contains, List.any_eq_true, Prod.exists, mem_toList]

theorem find?_eq_none_iff {registry : Registry} {scope : Scope} {name : String} :
    registry.find? scope name = none ↔ ∀ definition ∈ registry.definitions scope, definition.name ≠ name := by
  simp [find?]

private theorem definitions_push (registry : Registry) (entry : Scope × Definition) (scope : Scope) :
    (registry.push entry).definitions scope =
      registry.definitions scope ++ if entry.1 = scope then [entry.2] else [] := by
  unfold push definitions
  split
  · rename_i h
    subst h
    exact ScopeMap.entries_push_self ..
  · rename_i h
    rw [ScopeMap.entries_push_of_ne _ _ (Ne.symm h), List.append_nil]

private theorem definitions_foldl_push (entries : List (Scope × Definition)) (registry : Registry) (scope : Scope) :
    (entries.foldl push registry).definitions scope =
      registry.definitions scope ++ (entries.filter (·.1 = scope)).map (·.2) := by
  induction entries generalizing registry with
  | nil => simp
  | cons entry entries ih =>
    rw [List.foldl_cons, ih, definitions_push, List.append_assoc]
    by_cases h : entry.1 = scope <;> simp [h]

/-- The definitions of a scope are those given for it, in the order given. -/
theorem definitions_ofTrusted (entries : List (Scope × Definition)) (scope : Scope) :
    (ofTrusted entries).definitions scope = (entries.filter (·.1 = scope)).map (·.2) := by
  rw [ofTrusted, definitions_foldl_push]
  simp [definitions, empty, ScopeMap.entries]

private theorem foldl_push_ne_nil (entries : List (Scope × Definition)) {registry : Registry}
    (nonempty : ∀ scope, registry.table.get? scope ≠ some []) :
    ∀ scope, (entries.foldl push registry).table.get? scope ≠ some [] := by
  induction entries generalizing registry with
  | nil => exact nonempty
  | cons entry entries ih => exact ih (ScopeMap.get?_push_ne_nil nonempty entry.1 entry.2)

/-- The table is made of the definitions given for each scope; no scope has an empty list. -/
theorem ofTrusted_eq (entries : List (Scope × Definition)) :
    ofTrusted entries = { table := .collect fun scope => (entries.filter (·.1 = scope)).map (·.2) } := by
  have nonempty : ∀ scope, (ofTrusted entries).table.get? scope ≠ some [] :=
    foldl_push_ne_nil entries (by simp [empty])
  have definitions : (ofTrusted entries).table.entries = fun scope => (entries.filter (·.1 = scope)).map (·.2) :=
    funext (definitions_ofTrusted entries)
  rw [← definitions, ← ScopeMap.eq_collect_entries nonempty]

/-- Tagging puts back the scope that has been taken away. -/
theorem map_tag_filter (entries : List (Scope × Definition)) (scope : Scope) :
    ((entries.filter (·.1 = scope)).map (·.2)).map (scope, ·) = entries.filter (·.1 = scope) := by
  rw [List.map_map]
  have tagged : ∀ entry ∈ entries.filter (·.1 = scope), ((scope, ·) ∘ fun entry => entry.2) entry = id entry := by
    intro entry mem
    have here : entry.1 = scope := by simpa using (List.mem_filter.1 mem).2
    rw [← here]
    rfl
  rw [List.map_congr_left tagged, List.map_id]

/-- All definitions, each scope on its own in the order given. -/
theorem toList_ofTrusted (entries : List (Scope × Definition)) :
    (ofTrusted entries).toList = Scope.all.flatMap fun scope => entries.filter (·.1 = scope) := by
  rw [toList, ScopeMap.flatten_eq]
  congr 1
  funext scope
  show ((ofTrusted entries).definitions scope).map (scope, ·) = _
  rw [definitions_ofTrusted, map_tag_filter]

/-- Nothing is lost and nothing comes in. -/
theorem toList_ofTrusted_perm (entries : List (Scope × Definition)) : (ofTrusted entries).toList.Perm entries := by
  have rest : entries.filter (·.1 = .namespaced) = entries.filter fun entry => !decide (entry.1 = .cluster) := by
    refine List.filter_congr fun entry _ => ?_
    cases entry.1 <;> rfl
  rw [toList_ofTrusted]
  simp only [Scope.all, List.flatMap_cons, List.flatMap_nil, List.append_nil]
  rw [rest]
  exact List.filter_append_perm _ entries

theorem size_ofTrusted (entries : List (Scope × Definition)) : (ofTrusted entries).size = entries.length := by
  have all : (ofTrusted entries).size = (ofTrusted entries).toList.length := ScopeMap.size_eq_length_flatten _
  rw [all, (toList_ofTrusted_perm entries).length_eq]

/-! ### The check for repetitions -/

/-- The first entry, in the order given, whose scope and name are those of an earlier one. -/
def FirstRepetition (entries : List (Scope × Definition)) (entry : Scope × Definition) : Prop :=
  ∃ before after, entries = before ++ entry :: after ∧ (before.map key).Nodup ∧ key entry ∈ before.map key

theorem FirstRepetition.not_nodup {entries : List (Scope × Definition)} {entry : Scope × Definition}
    (first : FirstRepetition entries entry) : ¬(entries.map key).Nodup := by
  obtain ⟨before, after, rfl, _, repeated⟩ := first
  intro nodup
  rw [List.map_append, List.map_cons, List.nodup_append] at nodup
  exact nodup.2.2 _ repeated _ List.mem_cons_self rfl

/-- A draft to which these entries have been added, none of them a repetition. -/
structure Draft.Holds (draft : Draft) (entries : List (Scope × Definition)) : Prop where
  nodup : (entries.map key).Nodup
  mem_seen_iff : ∀ k, k ∈ draft.seen ↔ k ∈ entries.map key
  registry_eq : draft.registry = ofTrusted entries

private theorem Draft.holds_nil : Draft.Holds { seen := ∅, registry := empty } [] where
  nodup := List.nodup_nil
  mem_seen_iff k := by simp
  registry_eq := rfl

/-- One more entry is a repetition or comes after those that are there. -/
private theorem Draft.Holds.add {draft : Draft} {entries : List (Scope × Definition)} (holds : draft.Holds entries)
    (entry : Scope × Definition) :
    (key entry ∈ entries.map key ∧ draft.add entry = .error { scope := entry.1, name := entry.2.name }) ∨
      ∃ next, draft.add entry = .ok next ∧ next.Holds (entries ++ [entry]) := by
  by_cases seen : key entry ∈ draft.seen
  · exact .inl ⟨(holds.mem_seen_iff _).1 seen, if_pos seen⟩
  · have fresh : key entry ∉ entries.map key := fun mem => seen ((holds.mem_seen_iff _).2 mem)
    refine .inr ⟨_, if_neg seen, ?_, ?_, ?_⟩
    · rw [List.map_append, List.nodup_append]
      refine ⟨holds.nodup, List.nodup_singleton _, ?_⟩
      rintro k mem _ last rfl
      rw [List.map_singleton, List.mem_singleton] at last
      exact fresh (last ▸ mem)
    · intro k
      show k ∈ draft.seen.insert (key entry) ↔ _
      rw [Std.HashSet.mem_insert, holds.mem_seen_iff, List.map_append, List.mem_append, List.map_singleton,
        List.mem_singleton, beq_iff_eq, or_comm, eq_comm]
    · show draft.registry.push entry = _
      rw [holds.registry_eq, ofTrusted, ofTrusted, List.foldl_append]
      rfl

/-- Adding goes on to the end or to the first repetition. -/
private theorem Draft.Holds.foldlM {draft : Draft} {before : List (Scope × Definition)} (holds : draft.Holds before)
    (entries : List (Scope × Definition)) :
    (∃ final, entries.foldlM Draft.add draft = .ok final ∧ final.Holds (before ++ entries)) ∨
      ∃ entry, FirstRepetition (before ++ entries) entry ∧
        entries.foldlM Draft.add draft = .error { scope := entry.1, name := entry.2.name } := by
  induction entries generalizing draft before with
  | nil =>
    left
    rw [List.append_nil]
    exact ⟨draft, rfl, holds⟩
  | cons entry entries ih =>
    rw [List.foldlM_cons]
    rcases holds.add entry with ⟨repeated, failed⟩ | ⟨next, added, holds'⟩
    · right
      rw [failed]
      exact ⟨entry, ⟨before, entries, rfl, holds.nodup, repeated⟩, rfl⟩
    · rw [added, List.append_cons]
      exact ih holds'

/-- A list of definitions makes a registry, the same as without the check, or its first repetition is the error. -/
theorem ofList_cases (entries : List (Scope × Definition)) :
    ((entries.map key).Nodup ∧ ofList entries = .ok (ofTrusted entries)) ∨
      ∃ entry, FirstRepetition entries entry ∧
        ofList entries = .error { scope := entry.1, name := entry.2.name } := by
  rcases Draft.holds_nil.foldlM entries with ⟨final, added, holds⟩ | ⟨entry, first, failed⟩
  · left
    rw [List.nil_append] at holds
    refine ⟨holds.nodup, ?_⟩
    rw [ofList, added, ← holds.registry_eq]
    rfl
  · right
    rw [List.nil_append] at first
    refine ⟨entry, first, ?_⟩
    rw [ofList, failed]
    rfl

/-- A list of definitions makes a registry exactly when no scope has a name twice, and then the same registry as
without the check. -/
theorem ofList_eq_ok_iff {entries : List (Scope × Definition)} {registry : Registry} :
    ofList entries = .ok registry ↔ (entries.map key).Nodup ∧ ofTrusted entries = registry := by
  rcases ofList_cases entries with ⟨nodup, ok⟩ | ⟨entry, first, failed⟩
  · rw [ok, Except.ok.injEq]
    exact (and_iff_right nodup).symm
  · rw [failed]
    constructor
    · intro h
      cases h
    · rintro ⟨nodup, _⟩
      exact absurd nodup first.not_nodup

theorem definitions_of_ofList {entries : List (Scope × Definition)} {registry : Registry}
    (ok : ofList entries = .ok registry) (scope : Scope) :
    registry.definitions scope = (entries.filter (·.1 = scope)).map (·.2) := by
  obtain ⟨_, rfl⟩ := ofList_eq_ok_iff.1 ok
  exact definitions_ofTrusted entries scope

/-! ### The ways of construction -/

/-- A registry made in one of the ways that there are. -/
inductive Built : Registry → Prop where
  | empty : Built .empty
  | builtin : Built .builtin
  | builtinWithEvents (events : List String) : Built (.builtinWithEvents events)
  | ofList {entries : List (Scope × Definition)} {registry : Registry} :
    ofList entries = .ok registry → Built registry

theorem nodup_key_builtin : (Builtin.definitions.map key).Nodup := by
  have split : Builtin.definitions.map key = Builtin.clusterNames.map (.cluster, ·) ++
      Builtin.namespacedNames.map (.namespaced, ·) := by
    simp [Builtin.definitions, Scope.all, Builtin.names, key, Definition.new, Function.comp_def]
  have cluster : Builtin.clusterNames.Nodup := by decide +kernel
  have namespaced : Builtin.namespacedNames.Nodup := by decide +kernel
  rw [split, List.nodup_append]
  refine ⟨cluster.map (Prod.mk_right_injective _), namespaced.map (Prod.mk_right_injective _), ?_⟩
  simp

/-- Every registry is the registry of a list of definitions in which no scope has a name twice. -/
theorem Built.exists_entries {registry : Registry} (built : registry.Built) :
    ∃ entries, (entries.map key).Nodup ∧ ofTrusted entries = registry := by
  cases built with
  | empty => exact ⟨[], List.nodup_nil, rfl⟩
  | builtin => exact ⟨_, nodup_key_builtin, rfl⟩
  | builtinWithEvents events =>
    refine ⟨_, ?_, rfl⟩
    rw [List.map_map]
    exact nodup_key_builtin
  | ofList h => exact ⟨_, ofList_eq_ok_iff.1 h⟩

/-- Within a scope no name is defined twice. -/
theorem Built.nodup_names {registry : Registry} (built : registry.Built) (scope : Scope) :
    ((registry.definitions scope).map (·.name)).Nodup := by
  obtain ⟨entries, nodup, rfl⟩ := built.exists_entries
  rw [definitions_ofTrusted, List.map_map]
  have here : ((entries.filter (·.1 = scope)).map key).Nodup := nodup.sublist (List.filter_sublist.map key)
  have keys : (entries.filter (·.1 = scope)).map key =
      ((entries.filter (·.1 = scope)).map fun entry => entry.2.name).map (scope, ·) := by
    rw [List.map_map]
    refine List.map_congr_left fun entry mem => ?_
    have := (List.mem_filter.1 mem).2
    simp_all [key]
  rw [keys] at here
  exact here.of_map (scope, ·)

theorem Built.find?_eq_some_iff {registry : Registry} (built : registry.Built) {scope : Scope} {name : String}
    {definition : Definition} :
    registry.find? scope name = some definition ↔
      definition ∈ registry.definitions scope ∧ definition.name = name :=
  find?_name_eq_some_iff (built.nodup_names scope)

theorem events_of_mem_builtinWithEvents {events : List String} {scope : Scope} {definition : Definition}
    (mem : definition ∈ (builtinWithEvents events).definitions scope) : definition.events = events := by
  rw [builtinWithEvents, definitions_ofTrusted, List.mem_map] at mem
  obtain ⟨entry, here, rfl⟩ := mem
  obtain ⟨given, _⟩ := List.mem_filter.1 here
  obtain ⟨original, _, rfl⟩ := List.mem_map.1 given
  rfl

/-! ### A registry for examples -/

/-- Two scopes that share a name. -/
def sample : Registry := ofTrusted [
  (.namespaced, .new "pods"),
  (.cluster, .new "nodes"),
  (.cluster, (Definition.new "pods").withEvents ["ADDED"]),
  (.namespaced, .new "jobs")]

theorem built_sample : sample.Built :=
  .ofList (ofList_eq_ok_iff.2 ⟨by decide, rfl⟩)

end Registry

end PipelineSelection
