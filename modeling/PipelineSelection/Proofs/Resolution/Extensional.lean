import Mathlib.Data.List.Induction
import Mathlib.Logic.Relation
import PipelineSelection.Proofs.Resolution.Effect

/-!
# When two selections mean the same

What a list does to the pipelines is what it does to the names of the registry: a deny-list is the set of known
names on it, an allow-list gives every known name the events of the first entry for it.  The changes that keep this
are listed (`DenyEdit`, `AllowEdit`), and any two lists with the same effect are made from each other by such
changes (`byEdits_of_mem_iff`, `byEdits_of_entryFor?_eq`): the second list is put to the first element by element,
and then the first is taken away.  The main result is `resolve_extensional`.
-/

namespace PipelineSelection

/-! ### Changes without effect -/

/-- The harmless changes of a deny-list. -/
inductive DenyEdit (registry : Registry) : List String → List String → Prop where
  | reorder {names others : List String} : names.Perm others → DenyEdit registry names others
  | repeated {before after : List String} {name : String} : name ∈ before ++ after →
    DenyEdit registry (before ++ after) (before ++ name :: after)
  | unknown {before after : List String} {name : String} : registry.contains name = false →
    DenyEdit registry (before ++ after) (before ++ name :: after)

/-- The harmless changes of an allow-list.  Entries for different resources may be exchanged, and an entry counts for
nothing when an earlier one is for the same resource. -/
inductive AllowEdit (registry : Registry) : List AllowEntry → List AllowEntry → Prop where
  | reorder {entries others : List AllowEntry} : entries.Perm others →
    (∀ resource, entries.filter (·.resource == resource) = others.filter (·.resource == resource)) →
    AllowEdit registry entries others
  | shadowed {before after : List AllowEntry} {entry : AllowEntry} :
    (∃ first ∈ before, first.resource = entry.resource) →
    AllowEdit registry (before ++ after) (before ++ entry :: after)
  | unknown {before after : List AllowEntry} {entry : AllowEntry} : registry.contains entry.resource = false →
    AllowEdit registry (before ++ after) (before ++ entry :: after)

/-- Made from each other by changes and their inverses, through lists that hold something. -/
def ByEdits {α : Type} (edit : List α → List α → Prop) : List α → List α → Prop :=
  Relation.EqvGen fun list other => list ≠ [] ∧ other ≠ [] ∧ edit list other

namespace ByEdits

variable {α : Type} {edit : List α → List α → Prop}

theorem single {list other : List α} (h : edit list other) (nonempty : list ≠ []) (nonempty' : other ≠ []) :
    ByEdits edit list other :=
  .rel _ _ ⟨nonempty, nonempty', h⟩

theorem symm {list other : List α} (h : ByEdits edit list other) : ByEdits edit other list :=
  Relation.EqvGen.symm _ _ h

theorem trans {list middle other : List α} (h : ByEdits edit list middle) (h' : ByEdits edit middle other) :
    ByEdits edit list other :=
  Relation.EqvGen.trans _ _ _ h h'

/-- What every change keeps is kept. -/
theorem preserves {β : Type} (effect : List α → β) (kept : ∀ list other, edit list other → effect list = effect other)
    {list other : List α} (h : ByEdits edit list other) : effect list = effect other :=
  (eq_equivalence.comap effect).eqvGen_iff.1 (h.mono fun _ _ step => kept _ _ step.2.2)

/-- Elements that may each stand after a list may all be put there. -/
theorem append {list : List α} (nonempty : list ≠ []) (extra : List α)
    (insert : ∀ a ∈ extra, ∀ after, edit (list ++ after) (list ++ a :: after)) :
    ByEdits edit list (list ++ extra) := by
  induction extra with
  | nil =>
    rw [List.append_nil]
    exact .refl _
  | cons a extra ih =>
    have rest : ByEdits edit list (list ++ extra) := ih fun b mem => insert b (List.mem_cons_of_mem a mem)
    have last : edit (list ++ extra) (list ++ a :: extra) := insert a List.mem_cons_self extra
    exact rest.trans (single last (by simp [nonempty]) (by simp))

end ByEdits

/-! ### Deny-lists -/

theorem DenyEdit.mem_iff {registry : Registry} {names others : List String} (edit : DenyEdit registry names others)
    {name : String} (known : registry.contains name = true) : name ∈ names ↔ name ∈ others := by
  cases edit with
  | reorder perm => exact perm.mem_iff
  | @repeated before after other mem =>
    rw [List.mem_append] at mem
    rw [List.mem_append, List.mem_append, List.mem_cons]
    constructor
    · tauto
    · rintro (h | rfl | h)
      · exact .inl h
      · exact mem
      · exact .inr h
  | @unknown before after other unknown =>
    have ne : name ≠ other := by
      rintro rfl
      rw [known] at unknown
      cases unknown
    simp [ne]

/-- The elements of a second list are put after a first that has the known ones of them. -/
private theorem byEdits_append_names {registry : Registry} {names : List String} (nonempty : names ≠ [])
    {extra : List String} (covered : ∀ name, registry.contains name = true → name ∈ extra → name ∈ names) :
    ByEdits (DenyEdit registry) names (names ++ extra) := by
  refine .append nonempty extra fun name mem after => ?_
  cases known : registry.contains name with
  | true => exact .repeated (List.mem_append_left _ (covered name known mem))
  | false => exact .unknown known

theorem byEdits_of_mem_iff {registry : Registry} {names others : List String} (nonempty : names ≠ [])
    (nonempty' : others ≠ [])
    (same : ∀ name, registry.contains name = true → (name ∈ names ↔ name ∈ others)) :
    ByEdits (DenyEdit registry) names others := by
  have forth : ByEdits (DenyEdit registry) names (names ++ others) :=
    byEdits_append_names nonempty fun name known => (same name known).2
  have turn : ByEdits (DenyEdit registry) (names ++ others) (others ++ names) :=
    .single (.reorder List.perm_append_comm) (by simp [nonempty]) (by simp [nonempty'])
  have back : ByEdits (DenyEdit registry) others (others ++ names) :=
    byEdits_append_names nonempty' fun name known => (same name known).1
  exact (forth.trans turn).trans back.symm

/-! ### Allow-lists -/

section

variable {before after : List AllowEntry} {entry : AllowEntry} {name : String}

private theorem entryFor?_ofAllow (entries : List AllowEntry) (name : String) :
    (Selection.ofAllow entries).entryFor? name = entries.find? (·.resource == name) :=
  rfl

private theorem find?_insert_of_ne (h : entry.resource ≠ name) :
    (before ++ entry :: after).find? (·.resource == name) = (before ++ after).find? (·.resource == name) := by
  rw [List.find?_append, List.find?_append, List.find?_cons_of_neg (by simpa using h)]

private theorem find?_insert_of_shadowed (h : ∃ first ∈ before, first.resource = entry.resource) :
    (before ++ entry :: after).find? (·.resource == name) = (before ++ after).find? (·.resource == name) := by
  by_cases ne : entry.resource = name
  · obtain ⟨first, mem, same⟩ := h
    have hit : (before.find? (·.resource == name)).isSome = true := by
      rw [List.find?_isSome]
      exact ⟨first, mem, by simp [same, ne]⟩
    obtain ⟨found, h⟩ := Option.isSome_iff_exists.1 hit
    rw [List.find?_append, List.find?_append, h, Option.some_or, Option.some_or]
  · exact find?_insert_of_ne ne

end

theorem AllowEdit.entryFor?_eq {registry : Registry} {entries others : List AllowEntry}
    (edit : AllowEdit registry entries others) {name : String} (known : registry.contains name = true) :
    (Selection.ofAllow entries).entryFor? name = (Selection.ofAllow others).entryFor? name := by
  rw [entryFor?_ofAllow, entryFor?_ofAllow]
  cases edit with
  | reorder perm same => rw [← List.head?_filter, ← List.head?_filter, same]
  | shadowed first => exact (find?_insert_of_shadowed first).symm
  | unknown unknown =>
    refine (find?_insert_of_ne ?_).symm
    rintro rfl
    rw [known] at unknown
    cases unknown

/-- The entries of a second list are put after a first that has entries for the known resources of them. -/
private theorem byEdits_append_entries {registry : Registry} {entries : List AllowEntry} (nonempty : entries ≠ [])
    {extra : List AllowEntry} (covered : ∀ entry ∈ extra, registry.contains entry.resource = true →
      ∃ first ∈ entries, first.resource = entry.resource) :
    ByEdits (AllowEdit registry) entries (entries ++ extra) := by
  refine .append nonempty extra fun entry mem after => ?_
  cases known : registry.contains entry.resource with
  | true => exact .shadowed (covered entry mem known)
  | false => exact .unknown known

/-- An entry that is the first for its resource may be doubled ahead of those for other resources. -/
private theorem byEdits_double {registry : Registry} {before entries : List AllowEntry} {entry : AllowEntry}
    (first : entries.find? (·.resource == entry.resource) = some entry) :
    ByEdits (AllowEdit registry) (before ++ entries) (before ++ entry :: entries) := by
  obtain ⟨_, left, right, rfl, skipped⟩ := List.find?_eq_some_iff_append.1 first
  -- the entry moves ahead of those that are for other resources
  have turn : AllowEdit registry (before ++ (left ++ entry :: right)) (before ++ entry :: (left ++ right)) := by
    refine .reorder (List.perm_middle.append_left before) fun resource => ?_
    by_cases h : entry.resource = resource
    · subst h
      have none : left.filter (·.resource == entry.resource) = [] := by
        rw [List.filter_eq_nil_iff]
        intro other mem
        simpa using skipped other mem
      simp [none]
    · simp [h]
  -- its old place is shadowed now
  have double : AllowEdit registry (before ++ entry :: (left ++ right))
      (before ++ entry :: (left ++ entry :: right)) := by
    have after : AllowEdit registry ((before ++ entry :: left) ++ right)
        ((before ++ entry :: left) ++ entry :: right) := .shadowed ⟨entry, by simp, rfl⟩
    simpa using after
  exact (ByEdits.single turn (by simp) (by simp)).trans (.single double (by simp) (by simp))

/-- The entries of a second list are put before a first that has, for every known resource, the same first entry. -/
private theorem byEdits_prepend_entries {registry : Registry} {entries : List AllowEntry} (nonempty : entries ≠ [])
    (extra : List AllowEntry)
    (firsts : ∀ entry, registry.contains entry.resource = true →
      extra.find? (·.resource == entry.resource) = some entry →
      entries.find? (·.resource == entry.resource) = some entry) :
    ByEdits (AllowEdit registry) entries (extra ++ entries) := by
  -- from the first entry to the last: each comes in right before `entries`
  induction extra using List.reverseRecOn with
  | nil => exact .refl _
  | append_singleton extra entry ih =>
    have front : ByEdits (AllowEdit registry) entries (extra ++ entries) :=
      ih fun other known found => firsts other known (by rw [List.find?_append, found, Option.some_or])
    rw [List.append_assoc, List.singleton_append]
    refine front.trans ?_
    by_cases shadowed : ∃ first ∈ extra, first.resource = entry.resource
    · exact .single (.shadowed shadowed) (by simp [nonempty]) (by simp)
    · cases known : registry.contains entry.resource with
      | false => exact .single (.unknown known) (by simp [nonempty]) (by simp)
      | true =>
        have miss : extra.find? (·.resource == entry.resource) = none := by
          simpa using shadowed
        have first : (extra ++ [entry]).find? (·.resource == entry.resource) = some entry := by
          rw [List.find?_append, miss]
          simp
        exact byEdits_double (firsts entry known first)

theorem byEdits_of_entryFor?_eq {registry : Registry} {entries others : List AllowEntry} (nonempty : entries ≠ [])
    (nonempty' : others ≠ [])
    (same : ∀ name, registry.contains name = true →
      ((Selection.ofAllow entries).entryFor? name).map (·.events) =
        ((Selection.ofAllow others).entryFor? name).map (·.events)) :
    ByEdits (AllowEdit registry) entries others := by
  simp only [entryFor?_ofAllow] at same
  have forth : ByEdits (AllowEdit registry) entries (others ++ entries) := by
    refine byEdits_prepend_entries nonempty others fun entry known found => ?_
    have events := same entry.resource known
    rw [found, Option.map_some, Option.map_eq_some_iff] at events
    obtain ⟨other, found', events⟩ := events
    have resource : other.resource = entry.resource := by simpa using List.find?_some found'
    rw [found']
    cases other
    cases entry
    simp_all
  have back : ByEdits (AllowEdit registry) others (others ++ entries) := by
    refine byEdits_append_entries nonempty' fun entry mem known => ?_
    have hit : (entries.find? (·.resource == entry.resource)).isSome = true := by
      rw [List.find?_isSome]
      exact ⟨entry, mem, by simp⟩
    rw [← Option.isSome_map (f := (·.events)), same entry.resource known, Option.isSome_map, List.find?_isSome] at hit
    simpa using hit
  exact forth.trans back.symm

/-! ### The pipelines of two selections -/

private theorem forall_definitions_iff {registry : Registry} {p : String → Prop} :
    (∀ scope, ∀ definition ∈ registry.definitions scope, p definition.name) ↔
      ∀ name, registry.contains name = true → p name := by
  constructor
  · intro h name known
    obtain ⟨scope, definition, mem, rfl⟩ := Registry.contains_iff.1 known
    exact h scope definition mem
  · intro h scope definition mem
    exact h definition.name (Registry.contains_iff.2 ⟨scope, definition, mem, rfl⟩)

namespace Selection

private theorem deny_extensional (registry : Registry) {names others : List String} (nonempty : names ≠ [])
    (nonempty' : others ≠ []) :
    ∃ resolution resolution', (ofDeny names).resolve registry = .ok resolution ∧
      (ofDeny others).resolve registry = .ok resolution' ∧
      (resolution.pipelines = resolution'.pipelines ↔
        ∀ name, registry.contains name = true → (name ∈ names ↔ name ∈ others)) ∧
      (resolution.pipelines = resolution'.pipelines ↔ ByEdits (DenyEdit registry) names others) := by
  obtain ⟨resolution, ok, enables⟩ := resolve_ofDeny registry nonempty
  obtain ⟨resolution', ok', enables'⟩ := resolve_ofDeny registry nonempty'
  have effect : resolution.pipelines = resolution'.pipelines ↔
      ∀ name, registry.contains name = true → (name ∈ names ↔ name ∈ others) := by
    rw [enables.pipelines_eq_iff enables' (byName_eventsLeft _) (byName_eventsLeft _), ← forall_definitions_iff]
    exact forall_congr' fun scope => forall₂_congr fun definition _ => eventsLeft_eq_iff
  refine ⟨resolution, resolution', ok, ok', effect, effect.trans ⟨byEdits_of_mem_iff nonempty nonempty', ?_⟩⟩
  intro edits name known
  exact (edits.preserves (name ∈ ·) fun _ _ edit => propext (edit.mem_iff known)).to_iff

private theorem allow_extensional (registry : Registry) {entries others : List AllowEntry} (nonempty : entries ≠ [])
    (nonempty' : others ≠ []) :
    ∃ resolution resolution', (ofAllow entries).resolve registry = .ok resolution ∧
      (ofAllow others).resolve registry = .ok resolution' ∧
      (resolution.pipelines = resolution'.pipelines ↔ ∀ name, registry.contains name = true →
        ((ofAllow entries).entryFor? name).map (·.events) = ((ofAllow others).entryFor? name).map (·.events)) ∧
      (resolution.pipelines = resolution'.pipelines ↔ ByEdits (AllowEdit registry) entries others) := by
  obtain ⟨resolution, ok, enables⟩ := resolve_ofAllow registry nonempty
  obtain ⟨resolution', ok', enables'⟩ := resolve_ofAllow registry nonempty'
  have effect : resolution.pipelines = resolution'.pipelines ↔ ∀ name, registry.contains name = true →
      ((ofAllow entries).entryFor? name).map (·.events) = ((ofAllow others).entryFor? name).map (·.events) := by
    rw [enables.pipelines_eq_iff enables' (byName_eventsAllowed _) (byName_eventsAllowed _), ← forall_definitions_iff]
    rfl
  refine ⟨resolution, resolution', ok, ok', effect, effect.trans ⟨byEdits_of_entryFor?_eq nonempty nonempty', ?_⟩⟩
  intro edits name known
  exact congrArg (Option.map _)
    (edits.preserves (fun list => (ofAllow list).entryFor? name) fun _ _ edit => edit.entryFor?_eq known)

/-- Two lists give the same pipelines exactly when they do the same to the names of the registry, and exactly when
they are made from each other by the harmless changes. -/
theorem resolve_extensional (registry : Registry) :
    (∀ names others : List String, names ≠ [] → others ≠ [] →
      ∃ resolution resolution', (ofDeny names).resolve registry = .ok resolution ∧
        (ofDeny others).resolve registry = .ok resolution' ∧
        (resolution.pipelines = resolution'.pipelines ↔
          ∀ name, registry.contains name = true → (name ∈ names ↔ name ∈ others)) ∧
        (resolution.pipelines = resolution'.pipelines ↔ ByEdits (DenyEdit registry) names others)) ∧
    (∀ entries others : List AllowEntry, entries ≠ [] → others ≠ [] →
      ∃ resolution resolution', (ofAllow entries).resolve registry = .ok resolution ∧
        (ofAllow others).resolve registry = .ok resolution' ∧
        (resolution.pipelines = resolution'.pipelines ↔ ∀ name, registry.contains name = true →
          ((ofAllow entries).entryFor? name).map (·.events) = ((ofAllow others).entryFor? name).map (·.events)) ∧
        (resolution.pipelines = resolution'.pipelines ↔ ByEdits (AllowEdit registry) entries others)) :=
  ⟨fun _ _ => deny_extensional registry, fun _ _ => allow_extensional registry⟩

/-- Unknown and repeated names do not matter, but the order of two entries for one name does. -/
theorem resolve_extensional_sample :
    let first : AllowEntry := ⟨"pods", ["ADDED"]⟩
    let second : AllowEntry := ⟨"pods", []⟩
    (∃ resolution resolution', (ofDeny ["pods", "none"]).resolve .sample = .ok resolution ∧
      (ofDeny ["pods", "pods"]).resolve .sample = .ok resolution' ∧
      resolution.pipelines = resolution'.pipelines) ∧
    (∃ resolution resolution', (ofAllow [first, second]).resolve .sample = .ok resolution ∧
      (ofAllow [second, first]).resolve .sample = .ok resolution' ∧
      resolution.pipelines ≠ resolution'.pipelines) := by
  intro first second
  constructor
  · obtain ⟨resolution, resolution', ok, ok', same, _⟩ :=
      (resolve_extensional .sample).1 ["pods", "none"] ["pods", "pods"] (by simp) (by simp)
    refine ⟨resolution, resolution', ok, ok', same.2 fun name known => ?_⟩
    have ne : name ≠ "none" := by
      rintro rfl
      exact absurd known (by decide)
    simp [ne]
  · obtain ⟨resolution, resolution', ok, ok', same, _⟩ :=
      (resolve_extensional .sample).2 [first, second] [second, first] (by simp) (by simp)
    refine ⟨resolution, resolution', ok, ok', fun h => ?_⟩
    exact absurd (same.1 h "pods" (by decide)) (by decide)

end Selection

end PipelineSelection
