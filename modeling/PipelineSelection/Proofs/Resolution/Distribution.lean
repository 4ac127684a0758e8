import PipelineSelection.Proofs.Resolution.Effect

/-!
# Resolving against definitions in parts

A selection looks at one definition at a time and keeps their order, so what it enables of two lists of definitions
together is what it enables of the first and then of the second (`enabled_append`).  A registry holds for each scope
what has been given for that scope, so the pipelines of a scope come from the definitions of that scope alone, and
how the scopes are mixed in the list does not matter.  The main result is `resolve_distributes`.
-/

namespace PipelineSelection

namespace Registry

/-! ### Registries of parts of a list -/

/-- The parts of a list that makes a registry make registries, too, which hold the definitions in parts. -/
theorem exists_of_ofList_append {front back : List (Scope × Definition)} {registry : Registry}
    (ok : ofList (front ++ back) = .ok registry) :
    ∃ first second, ofList front = .ok first ∧ ofList back = .ok second ∧
      ∀ scope, registry.definitions scope = first.definitions scope ++ second.definitions scope := by
  obtain ⟨nodup, rfl⟩ := ofList_eq_ok_iff.1 ok
  rw [List.map_append, List.nodup_append] at nodup
  obtain ⟨front_nodup, back_nodup, _⟩ := nodup
  refine ⟨ofTrusted front, ofTrusted back, ofList_eq_ok_iff.2 ⟨front_nodup, rfl⟩,
    ofList_eq_ok_iff.2 ⟨back_nodup, rfl⟩, fun scope => ?_⟩
  rw [definitions_ofTrusted, definitions_ofTrusted, definitions_ofTrusted, List.filter_append, List.map_append]

/-- Lists with the same definitions in the same order for every scope make the same registry. -/
theorem ofList_eq_of_filter_eq {entries others : List (Scope × Definition)} {registry : Registry}
    (same : ∀ scope, entries.filter (·.1 = scope) = others.filter (·.1 = scope))
    (ok : ofList entries = .ok registry) : ofList others = .ok registry := by
  obtain ⟨nodup, rfl⟩ := ofList_eq_ok_iff.1 ok
  have made : ofTrusted others = ofTrusted entries := by
    simp only [ofTrusted_eq, same]
  -- nothing is lost on the way into a registry, so the lists are permutations of each other
  have perm : others.Perm entries := (toList_ofTrusted_perm others).symm.trans (made ▸ toList_ofTrusted_perm entries)
  exact ofList_eq_ok_iff.2 ⟨(perm.map key).nodup_iff.2 nodup, made⟩

end Registry

/-! ### Pipelines of parts -/

/-- The pipelines of a resolution are those of two others, in each scope one after the other. -/
structure Resolution.Joins (whole first second : Resolution) : Prop where
  pipelinesOf_eq : ∀ scope, whole.pipelinesOf scope = first.pipelinesOf scope ++ second.pipelinesOf scope
  size_eq : whole.size = first.size + second.size
  key_iff : ∀ scope, scope ∈ whole.pipelines.keys ↔ scope ∈ first.pipelines.keys ∨ scope ∈ second.pipelines.keys

namespace Selection

theorem enabled_append (selection : Selection) (mode : Mode) (front back : List Definition) :
    selection.enabled mode (front ++ back) = selection.enabled mode front ++ selection.enabled mode back := by
  cases mode with
  | allow entries => exact List.filterMap_append ..
  | deny names => simp only [enabled, undenied, List.filter_append, List.map_append]

private theorem joins_of_collect {whole first second : Resolution} {lists fronts backs : Scope → List EnabledPipeline}
    (pipelines : whole.pipelines = .collect lists) (pipelines₁ : first.pipelines = .collect fronts)
    (pipelines₂ : second.pipelines = .collect backs) (append : ∀ scope, lists scope = fronts scope ++ backs scope) :
    whole.Joins first second := by
  have pipelinesOf_eq : ∀ scope, whole.pipelinesOf scope = first.pipelinesOf scope ++ second.pipelinesOf scope := by
    intro scope
    rw [Resolution.pipelinesOf_of_collect pipelines, Resolution.pipelinesOf_of_collect pipelines₁,
      Resolution.pipelinesOf_of_collect pipelines₂, append]
  refine ⟨pipelinesOf_eq, ?_, fun scope => ?_⟩
  · refine ScopeMap.size_eq_size_add_size fun scope => ?_
    rw [← List.length_append]
    exact congrArg List.length (pipelinesOf_eq scope)
  · rw [Resolution.mem_keys_of_collect pipelines, Resolution.mem_keys_of_collect pipelines₁,
      Resolution.mem_keys_of_collect pipelines₂, pipelinesOf_eq, ne_eq, List.append_eq_nil_iff, not_and_or]

/-- A selection is resolved definition by definition, in each scope on its own. -/
structure ResolvesInParts : Prop where
  /-- The parts of a list make registries too, and a resolution joins those of the parts. -/
  append : ∀ (front back : List (Scope × Definition)) (registry : Registry),
    Registry.ofList (front ++ back) = .ok registry →
    ∃ first second, Registry.ofList front = .ok first ∧ Registry.ofList back = .ok second ∧
      ∀ selection : Selection, selection.Valid → ∃ whole left right, selection.resolve registry = .ok whole ∧
        selection.resolve first = .ok left ∧ selection.resolve second = .ok right ∧ whole.Joins left right
  /-- The definitions of a scope decide about its pipelines, whatever the other scope has. -/
  scope_eq : ∀ (entries others : List (Scope × Definition)) (registry other : Registry),
    Registry.ofList entries = .ok registry → Registry.ofList others = .ok other →
    ∀ scope, entries.filter (·.1 = scope) = others.filter (·.1 = scope) →
      ∀ selection : Selection, selection.Valid → ∃ resolution resolution',
        selection.resolve registry = .ok resolution ∧ selection.resolve other = .ok resolution' ∧
        resolution.pipelinesOf scope = resolution'.pipelinesOf scope ∧
        (scope ∈ resolution.pipelines.keys ↔ scope ∈ resolution'.pipelines.keys)
  /-- The order of the list matters within the scopes only. -/
  reordered : ∀ (entries others : List (Scope × Definition)) (registry : Registry),
    (∀ scope, entries.filter (·.1 = scope) = others.filter (·.1 = scope)) →
    Registry.ofList entries = .ok registry → ∃ other, Registry.ofList others = .ok other ∧
      ∀ selection : Selection, selection.resolve other = selection.resolve registry

/-- Resolving against two lists of definitions together gives, scope by scope, what it gives for the first and then
what it gives for the second.  So the definitions of a scope alone decide about its pipelines, and the order of the
list matters within the scopes only. -/
theorem resolve_distributes : ResolvesInParts where
  append := by
    intro front back registry ok
    obtain ⟨first, second, ok₁, ok₂, definitions⟩ := Registry.exists_of_ofList_append ok
    refine ⟨first, second, ok₁, ok₂, fun selection valid => ?_⟩
    obtain ⟨mode, inForce⟩ := valid_iff.1 valid
    obtain ⟨whole, resolved, _, pipelines⟩ := resolve_of_mode? inForce registry
    obtain ⟨left, resolved₁, _, pipelines₁⟩ := resolve_of_mode? inForce first
    obtain ⟨right, resolved₂, _, pipelines₂⟩ := resolve_of_mode? inForce second
    refine ⟨whole, left, right, resolved, resolved₁, resolved₂, joins_of_collect pipelines pipelines₁ pipelines₂ ?_⟩
    intro scope
    rw [definitions, enabled_append]
  scope_eq := by
    intro entries others registry other ok ok' scope same selection valid
    obtain ⟨mode, inForce⟩ := valid_iff.1 valid
    obtain ⟨resolution, resolved, _, pipelines⟩ := resolve_of_mode? inForce registry
    obtain ⟨resolution', resolved', _, pipelines'⟩ := resolve_of_mode? inForce other
    have here : resolution.pipelinesOf scope = resolution'.pipelinesOf scope := by
      rw [Resolution.pipelinesOf_of_collect pipelines, Resolution.pipelinesOf_of_collect pipelines',
        Registry.definitions_of_ofList ok, Registry.definitions_of_ofList ok', same]
    refine ⟨resolution, resolution', resolved, resolved', here, ?_⟩
    rw [Resolution.mem_keys_of_collect pipelines, Resolution.mem_keys_of_collect pipelines', here]
  reordered := by
    intro entries others registry same ok
    exact ⟨registry, Registry.ofList_eq_of_filter_eq same ok, fun _ => rfl⟩

/-- A name of both scopes in two lists, one of which has all of a scope; and the two lists mixed. -/
theorem resolve_distributes_sample :
    let front : List (Scope × Definition) := [(.cluster, .new "nodes"), (.namespaced, .new "pods")]
    let back : List (Scope × Definition) := [(.cluster, .new "pods"), (.cluster, .new "jobs")]
    let mixed : List (Scope × Definition) :=
      [(.cluster, .new "nodes"), (.cluster, .new "pods"), (.cluster, .new "jobs"), (.namespaced, .new "pods")]
    ∃ registry first second, Registry.ofList (front ++ back) = .ok registry ∧ Registry.ofList front = .ok first ∧
      Registry.ofList back = .ok second ∧
      (∃ whole left right, (ofDeny ["nodes"]).resolve registry = .ok whole ∧
        (ofDeny ["nodes"]).resolve first = .ok left ∧ (ofDeny ["nodes"]).resolve second = .ok right ∧
        whole.Joins left right) ∧
      (∃ resolution resolution', (ofDeny ["nodes"]).resolve registry = .ok resolution ∧
        (ofDeny ["nodes"]).resolve first = .ok resolution' ∧
        resolution.pipelinesOf .namespaced = resolution'.pipelinesOf .namespaced) ∧
      ∃ other, Registry.ofList mixed = .ok other ∧
        (ofDeny ["nodes"]).resolve other = (ofDeny ["nodes"]).resolve registry := by
  intro front back mixed
  have ok : Registry.ofList (front ++ back) = .ok (Registry.ofTrusted (front ++ back)) :=
    Registry.ofList_eq_ok_iff.2 ⟨by decide, rfl⟩
  have valid : (ofDeny ["nodes"]).Valid := by simp [Valid, ofDeny]
  have same_scopes : ∀ scope, (front ++ back).filter (·.1 = scope) = mixed.filter (·.1 = scope) := by
    intro scope
    cases scope <;> decide
  obtain ⟨first, second, ok₁, ok₂, joins⟩ := resolve_distributes.append front back _ ok
  obtain ⟨resolution, resolution', resolved, resolved', here, _⟩ :=
    resolve_distributes.scope_eq (front ++ back) front _ first ok ok₁ .namespaced (by decide) (ofDeny ["nodes"]) valid
  obtain ⟨other, ok', same⟩ := resolve_distributes.reordered (front ++ back) mixed _ same_scopes ok
  exact ⟨_, first, second, ok, ok₁, ok₂, joins _ valid, ⟨resolution, resolution', resolved, resolved', here⟩, other,
    ok', same _⟩

end Selection

end PipelineSelection
