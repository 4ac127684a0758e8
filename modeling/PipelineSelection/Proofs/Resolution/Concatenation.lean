import PipelineSelection.Proofs.Resolution.Effect

/-!
# One list after another

Denying the names of two lists leaves what both of them leave, and so the order of the lists does not matter.
Allowing by two lists, one after the other, enables what either of them enables, and where both do, the first one
decides about the events.  On the level of verdicts a second deny-list takes some away (`eventsLeft_append`), and a
second allow-list fills in those that are missing (`eventsAllowed_append`).  The main result is `resolve_append`.
-/

namespace PipelineSelection

/-! ### Pipelines of verdicts that are changed -/

section

variable {verdict verdict' : Definition → Option (List String)} {named : String → Bool}

/-- Without the verdicts on some names, the pipelines of these names are missing, and nothing else changes. -/
theorem enableWith_unless (verdict : Definition → Option (List String)) (named : String → Bool)
    (definitions : List Definition) :
    enableWith (fun definition => if named definition.name then none else verdict definition) definitions =
      (enableWith verdict definitions).filter fun pipeline => !named pipeline.name := by
  unfold enableWith
  rw [List.filter_filterMap]
  refine List.filterMap_congr fun definition _ => ?_
  cases left : named definition.name <;> cases given : verdict definition <;>
    simp [left, given, Definition.enable, Option.filter]

/-- With more verdicts there are more pipelines, and those that are there stay as they are. -/
theorem enableWith_sublist (more : ∀ definition events, verdict definition = some events →
    verdict' definition = some events) (definitions : List Definition) :
    (enableWith verdict definitions).Sublist (enableWith verdict' definitions) := by
  induction definitions with
  | nil => exact List.Sublist.refl _
  | cons definition definitions ih =>
    unfold enableWith at ih ⊢
    cases h : verdict definition with
    | none =>
      rw [List.filterMap_cons_none (by rw [h, Option.map_none])]
      exact ih.trans (List.Sublist.filterMap _ (List.sublist_cons_self definition definitions))
    | some events =>
      rw [List.filterMap_cons_some (by rw [h, Option.map_some]),
        List.filterMap_cons_some (by rw [more definition events h, Option.map_some])]
      exact ih.cons_cons _

/-- The first pipeline of a name is that of the first definition of the name. -/
theorem find?_enableWith (byName : ByName verdict named) (definitions : List Definition) (name : String) :
    (enableWith verdict definitions).find? (·.name == name) =
      (definitions.find? (·.name == name)).bind fun definition => (verdict definition).map definition.enable := by
  induction definitions with
  | nil => rfl
  | cons definition definitions ih =>
    unfold enableWith at ih ⊢
    by_cases same : definition.name = name
    · rw [List.find?_cons_of_pos (by simpa using same), Option.bind_some]
      cases h : verdict definition with
      | some events =>
        rw [List.filterMap_cons_some (by rw [h, Option.map_some])]
        exact List.find?_cons_of_pos (by simpa [Definition.enable] using same)
      | none =>
        -- no definition of that name is enabled, so none of those that follow is
        have left : named name = false := by rw [← same, ← byName, h, Option.isSome_none]
        rw [List.filterMap_cons_none (by rw [h, Option.map_none]), ih, Option.map_none, Option.bind_eq_none_iff]
        intro other found
        have same' : other.name = name := by simpa using List.find?_some found
        have none : (verdict other).isSome = false := by rw [byName, same', left]
        rw [Option.isSome_eq_false_iff, Option.isNone_iff_eq_none] at none
        rw [none, Option.map_none]
    · rw [List.find?_cons_of_neg (by simpa using same), ← ih]
      cases h : verdict definition with
      | none => rw [List.filterMap_cons_none (by rw [h, Option.map_none])]
      | some events =>
        rw [List.filterMap_cons_some (by rw [h, Option.map_some])]
        exact List.find?_cons_of_neg (by simpa [Definition.enable] using same)

end

/-! ### Resolutions that are composed -/

/-- In a scope a deny-list has left what two deny-lists leave in common. -/
structure Resolution.Meets (both first second : Resolution) (names others : List String) (scope : Scope) : Prop where
  /-- The pipelines that one list leaves, unchanged and in order, without those that the other one names. -/
  pipelinesOf_eq : both.pipelinesOf scope = (first.pipelinesOf scope).filter (·.name ∉ others)
  pipelinesOf_eq' : both.pipelinesOf scope = (second.pipelinesOf scope).filter (·.name ∉ names)
  mem_iff : ∀ pipeline, pipeline ∈ both.pipelinesOf scope ↔
    pipeline ∈ first.pipelinesOf scope ∧ pipeline ∈ second.pipelinesOf scope
  key_iff : scope ∈ both.pipelines.keys ↔ (first.pipelinesOf scope).filter (·.name ∉ others) ≠ []

/-- In a scope an allow-list has enabled what one or the other of two allow-lists enables. -/
structure Resolution.Unites (both first second : Resolution) (registry : Registry) (scope : Scope) : Prop where
  /-- The first list decides about the names that it has. -/
  find?_eq : ∀ name, both.find? scope name = (first.find? scope name).or (second.find? scope name)
  /-- What the first list enables is there, unchanged and in order. -/
  sublist : (first.pipelinesOf scope).Sublist (both.pipelinesOf scope)
  names_eq : (both.pipelinesOf scope).map (·.name) = ((registry.definitions scope).map (·.name)).filter fun name =>
    name ∈ (first.pipelinesOf scope).map (·.name) ∨ name ∈ (second.pipelinesOf scope).map (·.name)
  key_iff : scope ∈ both.pipelines.keys ↔ both.pipelinesOf scope ≠ []

namespace Selection

/-! ### Deny-lists -/

/-- A second list takes away the verdicts on the names that it has. -/
theorem eventsLeft_append (names others : List String) (definition : Definition) :
    (ofDeny (names ++ others)).eventsLeft definition =
      if definition.name ∈ others then none else (ofDeny names).eventsLeft definition := by
  unfold eventsLeft
  rw [denies_ofDeny, denies_ofDeny]
  by_cases first : definition.name ∈ names <;> by_cases second : definition.name ∈ others <;> simp [first, second]

theorem mem_enableWith_eventsLeft {names : List String} {definitions : List Definition} {pipeline : EnabledPipeline} :
    pipeline ∈ enableWith (ofDeny names).eventsLeft definitions ↔
      (∃ definition ∈ definitions, definition.enable definition.events = pipeline) ∧ pipeline.name ∉ names := by
  rw [mem_enableWith]
  constructor
  · rintro ⟨definition, mem, events, left, rfl⟩
    rw [eventsLeft, denies_ofDeny] at left
    split at left
    · cases left
    · rename_i kept
      cases left
      exact ⟨⟨definition, mem, rfl⟩, by simpa [Definition.enable] using kept⟩
  · rintro ⟨⟨definition, mem, rfl⟩, kept⟩
    have kept' : definition.name ∉ names := kept
    refine ⟨definition, mem, definition.events, ?_, rfl⟩
    rw [eventsLeft, denies_ofDeny, decide_eq_false kept', if_neg (by decide)]

private theorem pipelinesOf_append {registry : Registry} {both first : Resolution} {names others : List String}
    (enables : both.Enables registry (ofDeny (names ++ others)).eventsLeft)
    (enables' : first.Enables registry (ofDeny names).eventsLeft) (scope : Scope) :
    both.pipelinesOf scope = (first.pipelinesOf scope).filter (·.name ∉ others) := by
  have verdicts : (ofDeny (names ++ others)).eventsLeft = fun definition =>
      if decide (definition.name ∈ others) then none else (ofDeny names).eventsLeft definition := by
    funext definition
    simp only [eventsLeft_append, decide_eq_true_eq]
  rw [enables.pipelinesOf_eq, enables'.pipelinesOf_eq, verdicts, enableWith_unless _ fun name => name ∈ others]
  simp only [decide_not]

/-- Only the names on a list matter. -/
theorem eventsLeft_congr {names others : List String} (same : ∀ name, name ∈ names ↔ name ∈ others) :
    (ofDeny names).eventsLeft = (ofDeny others).eventsLeft :=
  funext fun definition => eventsLeft_eq_iff.2 (same definition.name)

private theorem deny_append (registry : Registry) {names others : List String} (nonempty : names ≠ [])
    (nonempty' : others ≠ []) :
    ∃ first second both swapped, (ofDeny names).resolve registry = .ok first ∧
      (ofDeny others).resolve registry = .ok second ∧ (ofDeny (names ++ others)).resolve registry = .ok both ∧
      (ofDeny (others ++ names)).resolve registry = .ok swapped ∧ swapped.pipelines = both.pipelines ∧
      ∀ scope, both.Meets first second names others scope := by
  obtain ⟨first, ok₁, enables₁⟩ := resolve_ofDeny registry nonempty
  obtain ⟨second, ok₂, enables₂⟩ := resolve_ofDeny registry nonempty'
  obtain ⟨both, ok, enables⟩ := resolve_ofDeny registry (List.append_ne_nil_of_left_ne_nil nonempty others)
  obtain ⟨swapped, ok', enables'⟩ := resolve_ofDeny registry (List.append_ne_nil_of_left_ne_nil nonempty' names)
  have turn : (ofDeny (names ++ others)).eventsLeft = (ofDeny (others ++ names)).eventsLeft :=
    eventsLeft_congr fun name => by rw [List.mem_append, List.mem_append, or_comm]
  have forth := pipelinesOf_append enables enables₁
  have back := pipelinesOf_append (turn ▸ enables) enables₂
  refine ⟨first, second, both, swapped, ok₁, ok₂, ok, ok', (turn ▸ enables').trans enables.symm, fun scope => ?_⟩
  refine ⟨forth scope, back scope, fun pipeline => ?_, ?_⟩
  · rw [enables.pipelinesOf_eq, enables₁.pipelinesOf_eq, enables₂.pipelinesOf_eq, mem_enableWith_eventsLeft,
      mem_enableWith_eventsLeft, mem_enableWith_eventsLeft, List.mem_append, not_or]
    tauto
  · rw [Resolution.mem_keys_of_collect enables, forth]

/-! ### Allow-lists -/

/-- A second list has a verdict where the first one has none. -/
theorem eventsAllowed_append (entries others : List AllowEntry) (definition : Definition) :
    (ofAllow (entries ++ others)).eventsAllowed definition =
      ((ofAllow entries).eventsAllowed definition).or ((ofAllow others).eventsAllowed definition) := by
  unfold eventsAllowed entryFor?
  rw [← Option.map_or, ← List.find?_append]
  rfl

private theorem unites_of_enables {registry : Registry} {both first second : Resolution}
    {entries others : List AllowEntry} (enables : both.Enables registry (ofAllow (entries ++ others)).eventsAllowed)
    (enables₁ : first.Enables registry (ofAllow entries).eventsAllowed)
    (enables₂ : second.Enables registry (ofAllow others).eventsAllowed) (scope : Scope) :
    both.Unites first second registry scope := by
  have found : ∀ {resolution : Resolution} {list : List AllowEntry},
      resolution.Enables registry (ofAllow list).eventsAllowed → ∀ name, resolution.find? scope name =
        (registry.find? scope name).bind fun definition =>
          ((ofAllow list).eventsAllowed definition).map definition.enable := by
    intro resolution list enables name
    rw [Resolution.find?, enables.pipelinesOf_eq, find?_enableWith (byName_eventsAllowed _)]
    rfl
  refine ⟨fun name => ?_, ?_, ?_, Resolution.mem_keys_of_collect enables scope⟩
  · rw [found enables, found enables₁, found enables₂]
    cases registry.find? scope name with
    | none => rfl
    | some definition => simp only [Option.bind_some, eventsAllowed_append, Option.map_or]
  · rw [enables.pipelinesOf_eq, enables₁.pipelinesOf_eq]
    refine enableWith_sublist (fun definition events given => ?_) _
    rw [eventsAllowed_append, given, Option.some_or]
  · rw [enables.names_eq (byName_eventsAllowed _), enables₁.names_eq (byName_eventsAllowed _),
      enables₂.names_eq (byName_eventsAllowed _)]
    refine List.filter_congr fun name known => ?_
    have either : ((ofAllow (entries ++ others)).entryFor? name).isSome =
        (((ofAllow entries).entryFor? name).isSome || ((ofAllow others).entryFor? name).isSome) := by
      rw [← Option.isSome_or]
      exact congrArg Option.isSome List.find?_append
    rw [either, Bool.eq_iff_iff]
    simp [List.mem_filter, known]

/-- Two deny-lists together leave what both of them leave.  Two allow-lists together enable what one of them enables,
with the events of the first list that has the name. -/
theorem resolve_append (registry : Registry) :
    (∀ names others : List String, names ≠ [] → others ≠ [] →
      ∃ first second both swapped, (ofDeny names).resolve registry = .ok first ∧
        (ofDeny others).resolve registry = .ok second ∧ (ofDeny (names ++ others)).resolve registry = .ok both ∧
        (ofDeny (others ++ names)).resolve registry = .ok swapped ∧ swapped.pipelines = both.pipelines ∧
        ∀ scope, both.Meets first second names others scope) ∧
    ∀ entries others : List AllowEntry, entries ≠ [] → others ≠ [] →
      ∃ first second both, (ofAllow entries).resolve registry = .ok first ∧
        (ofAllow others).resolve registry = .ok second ∧ (ofAllow (entries ++ others)).resolve registry = .ok both ∧
        ∀ scope, both.Unites first second registry scope := by
  refine ⟨fun _ _ => deny_append registry, fun entries others nonempty nonempty' => ?_⟩
  obtain ⟨first, ok₁, enables₁⟩ := resolve_ofAllow registry nonempty
  obtain ⟨second, ok₂, enables₂⟩ := resolve_ofAllow registry nonempty'
  obtain ⟨both, ok, enables⟩ := resolve_ofAllow registry (List.append_ne_nil_of_left_ne_nil nonempty others)
  exact ⟨first, second, both, ok₁, ok₂, ok, unites_of_enables enables enables₁ enables₂⟩

/-- Lists that share a name of both scopes; after both deny-lists the scope of the cluster is empty. -/
theorem resolve_append_sample :
    (∃ first second both swapped, (ofDeny ["pods", "none"]).resolve .sample = .ok first ∧
      (ofDeny ["nodes", "pods"]).resolve .sample = .ok second ∧
      (ofDeny ["pods", "none", "nodes", "pods"]).resolve .sample = .ok both ∧
      (ofDeny ["nodes", "pods", "pods", "none"]).resolve .sample = .ok swapped ∧
      swapped.pipelines = both.pipelines ∧
      (∀ scope, both.Meets first second ["pods", "none"] ["nodes", "pods"] scope) ∧
      Scope.cluster ∈ first.pipelines.keys ∧ Scope.cluster ∉ both.pipelines.keys) ∧
    ∃ first second both, (ofAllow [⟨"pods", ["DELETED"]⟩]).resolve .sample = .ok first ∧
      (ofAllow [⟨"jobs", []⟩, ⟨"pods", []⟩]).resolve .sample = .ok second ∧
      (ofAllow [⟨"pods", ["DELETED"]⟩, ⟨"jobs", []⟩, ⟨"pods", []⟩]).resolve .sample = .ok both ∧
      ∀ scope, both.Unites first second .sample scope := by
  obtain ⟨denied, allowed⟩ := resolve_append .sample
  obtain ⟨first, second, both, swapped, ok₁, ok₂, ok, ok', turn, meets⟩ :=
    denied ["pods", "none"] ["nodes", "pods"] (by simp) (by simp)
  obtain ⟨resolution, resolved, enables⟩ := resolve_ofDeny .sample (List.cons_ne_nil "pods" ["none"])
  cases ok₁.symm.trans resolved
  have nodes : first.pipelinesOf .cluster = [(Definition.new "nodes").enable defaultEvents] :=
    enables.pipelinesOf_eq .cluster
  refine ⟨⟨first, second, both, swapped, ok₁, ok₂, ok, ok', turn, meets, ?_, ?_⟩,
    allowed [⟨"pods", ["DELETED"]⟩] [⟨"jobs", []⟩, ⟨"pods", []⟩] (by simp) (by simp)⟩
  · rw [Resolution.mem_keys_of_collect enables, nodes]
    decide
  · rw [(meets .cluster).key_iff, nodes]
    decide

end Selection

end PipelineSelection
