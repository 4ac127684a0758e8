import PipelineSelection.Proofs.Registry.Construction

/-!
# When two registries are the same

The definitions of a scope can be read off the list of all definitions (`definitions_eq_filter_toList`), and no way of
construction leaves a scope with an empty list behind, so a registry is made of the definitions of its scopes
(`Built.eq_collect`).  Hence a registry can be put together again from its own list, and nothing but its contents
tells it from another one.  The main result is `rebuild_and_ext`.
-/

namespace PipelineSelection.Registry

/-! ### Contents -/

theorem definitions_eq_filter_toList (registry : Registry) (scope : Scope) :
    registry.definitions scope = (registry.toList.filter (·.1 = scope)).map (·.2) := by
  rw [toList, ScopeMap.flatten_eq]
  cases scope <;> simp [Scope.all, List.filter_append, List.filter_map, Function.comp_def, definitions]

/-- A registry is made of the definitions of its scopes; no scope has an empty list. -/
theorem Built.eq_collect {registry : Registry} (built : registry.Built) :
    registry = { table := .collect registry.definitions } := by
  obtain ⟨entries, _, rfl⟩ := built.exists_entries
  rw [funext (definitions_ofTrusted entries), ← ofTrusted_eq]

theorem Built.eq_iff_definitions_eq {registry other : Registry} (built : registry.Built) (built' : other.Built) :
    registry = other ↔ ∀ scope, registry.definitions scope = other.definitions scope := by
  constructor
  · rintro rfl scope
    rfl
  · intro same
    rw [built.eq_collect, built'.eq_collect, funext same]

theorem Built.eq_iff_toList_eq {registry other : Registry} (built : registry.Built) (built' : other.Built) :
    registry = other ↔ registry.toList = other.toList := by
  refine ⟨congrArg toList, fun same => (built.eq_iff_definitions_eq built').2 fun scope => ?_⟩
  rw [definitions_eq_filter_toList, definitions_eq_filter_toList, same]

/-- Registries of two lists are the same when the lists have the same parts for every scope. -/
theorem eq_iff_filter_eq {entries others : List (Scope × Definition)} {registry other : Registry}
    (ok : ofList entries = .ok registry) (ok' : ofList others = .ok other) :
    registry = other ↔ ∀ scope, entries.filter (·.1 = scope) = others.filter (·.1 = scope) := by
  rw [(Built.ofList ok).eq_iff_definitions_eq (.ofList ok')]
  refine forall_congr' fun scope => ?_
  rw [definitions_of_ofList ok, definitions_of_ofList ok']
  constructor
  · intro same
    rw [← map_tag_filter entries, same, map_tag_filter]
  · intro same
    rw [same]

/-! ### Rebuilding -/

theorem ofTrusted_toList {registry : Registry} (built : registry.Built) : ofTrusted registry.toList = registry := by
  have definitions : (ofTrusted registry.toList).definitions = registry.definitions := by
    funext scope
    rw [definitions_ofTrusted, ← definitions_eq_filter_toList]
  rw [ofTrusted_eq, ← funext (definitions_ofTrusted registry.toList), definitions, ← built.eq_collect]

theorem ofList_toList {registry : Registry} (built : registry.Built) : ofList registry.toList = .ok registry := by
  obtain ⟨entries, nodup, made⟩ := built.exists_entries
  have perm : registry.toList.Perm entries := made ▸ toList_ofTrusted_perm entries
  exact ofList_eq_ok_iff.2 ⟨(perm.map key).nodup_iff.2 nodup, ofTrusted_toList built⟩

/-- What tells registries apart, and what gives them back. -/
structure RebuiltFromLists : Prop where
  /-- The list of a registry gives the registry back, with the check for repetitions and without. -/
  rebuild : ∀ registry : Registry, registry.Built →
    ofList registry.toList = .ok registry ∧ ofTrusted registry.toList = registry
  ofTrusted_eq : ∀ entries registry, ofList entries = .ok registry → ofTrusted entries = registry
  ofList_builtin : ofList Builtin.definitions = .ok .builtin
  ofList_builtinWithEvents : ∀ events,
    ofList (Builtin.definitions.map fun (scope, definition) => (scope, definition.withEvents events)) =
      .ok (.builtinWithEvents events)
  eq_iff : ∀ registry other : Registry, registry.Built → other.Built →
    (registry = other ↔ ∀ scope, registry.definitions scope = other.definitions scope) ∧
    (registry = other ↔ registry.toList = other.toList)
  /-- Of a list that makes a registry, only the order within the scopes matters. -/
  eq_iff_filter_eq : ∀ entries others registry other, ofList entries = .ok registry → ofList others = .ok other →
    (registry = other ↔ ∀ scope, entries.filter (·.1 = scope) = others.filter (·.1 = scope))

/-- A registry is the one that its own list makes, with the check for repetitions or without, and two registries are
the same when they have the same definitions in the same order for every scope. -/
theorem rebuild_and_ext : RebuiltFromLists where
  rebuild _ built := ⟨ofList_toList built, ofTrusted_toList built⟩
  ofTrusted_eq _ _ ok := (ofList_eq_ok_iff.1 ok).2
  ofList_builtin := ofList_eq_ok_iff.2 ⟨nodup_key_builtin, rfl⟩
  ofList_builtinWithEvents events := by
    refine ofList_eq_ok_iff.2 ⟨?_, rfl⟩
    rw [List.map_map]
    exact nodup_key_builtin
  eq_iff _ _ built built' := ⟨built.eq_iff_definitions_eq built', built.eq_iff_toList_eq built'⟩
  eq_iff_filter_eq _ _ _ _ := eq_iff_filter_eq

/-- Mixing the scopes gives the same registry, and turning the order of a scope around gives another one. -/
theorem rebuild_and_ext_sample :
    let mixed : List (Scope × Definition) := [(.cluster, .new "nodes"), (.namespaced, .new "pods"),
      (.namespaced, .new "jobs"), (.cluster, (Definition.new "pods").withEvents ["ADDED"])]
    sample.Built ∧ ofList sample.toList = .ok sample ∧ ofList mixed = .ok sample ∧
      ∃ turned, ofList mixed.reverse = .ok turned ∧ sample ≠ turned := by
  intro mixed
  have made := rebuild_and_ext.eq_iff_filter_eq
  obtain ⟨again, _⟩ := rebuild_and_ext.rebuild sample built_sample
  have ok : ofList mixed = .ok (ofTrusted mixed) := ofList_eq_ok_iff.2 ⟨by decide, rfl⟩
  have ok' : ofList mixed.reverse = .ok (ofTrusted mixed.reverse) := ofList_eq_ok_iff.2 ⟨by decide, rfl⟩
  have same : sample = ofTrusted mixed :=
    (made sample.toList mixed _ _ again ok).2 (by intro scope; cases scope <;> decide)
  refine ⟨built_sample, again, same ▸ ok, _, ok', fun h => ?_⟩
  exact absurd ((made sample.toList mixed.reverse _ _ again ok').1 h .cluster) (by decide)

end PipelineSelection.Registry
