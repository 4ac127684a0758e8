import PipelineSelection.Proofs.Resolution.Effect
import PipelineSelection.Proofs.Wire.RoundTrip

/-!
# When a resolution is empty

How many pipelines there are, which ones, and the list of each scope all look at the pipelines; whether a resolution is
empty looks at the keys.  They agree as long as no key has an empty list (`isEmpty_iff`), and resolving never makes such
a key (`get?_ne_nil_of_resolve`).  A document may have one, and then the resolution that is read from it has no pipeline
and is not empty.  The main result is `isEmpty_exact`.
-/

namespace PipelineSelection

/-! ### Maps without entries -/

namespace ScopeMap

variable {α : Type} {map : ScopeMap (List α)}

theorem keys_eq_nil_iff : map.keys = [] ↔ ∀ scope, map.get? scope = none := by
  rw [List.eq_nil_iff_forall_not_mem]
  simp only [mem_keys, ne_eq, not_not]

theorem flatten_eq_nil_iff : map.flatten = [] ↔ ∀ scope, map.entries scope = [] := by
  rw [flatten_eq, List.flatMap_eq_nil_iff]
  simp only [Scope.mem_all, List.map_eq_nil_iff, forall_const]

theorem size_eq_zero_iff : map.size = 0 ↔ map.flatten = [] := by
  rw [size_eq_length_flatten, List.length_eq_zero_iff]

theorem get?_collect_ne_nil (lists : Scope → List α) (scope : Scope) : (collect lists).get? scope ≠ some [] := by
  rw [get?_collect]
  cases lists scope <;> simp

/-- A scope that is no key has no entries, and neither has one whose list is empty. -/
theorem entries_eq_nil_iff {scope : Scope} :
    map.entries scope = [] ↔ map.get? scope = none ∨ map.get? scope = some [] := by
  rw [entries]
  cases map.get? scope <;> simp

end ScopeMap

namespace Resolution

/-! ### Two ways of being empty -/

theorem size_eq_zero_iff {resolution : Resolution} :
    resolution.size = 0 ↔ ∀ scope, resolution.pipelinesOf scope = [] :=
  ScopeMap.size_eq_zero_iff.trans ScopeMap.flatten_eq_nil_iff

/-- A resolution is empty when it has no pipelines and no key for an empty list of them. -/
theorem isEmpty_iff {resolution : Resolution} :
    resolution.isEmpty = true ↔ resolution.size = 0 ∧ ∀ scope, resolution.pipelines.get? scope ≠ some [] := by
  rw [isEmpty, List.isEmpty_iff, ScopeMap.keys_eq_nil_iff, size_eq_zero_iff, ← forall_and]
  refine forall_congr' fun scope => ?_
  rw [pipelinesOf, ScopeMap.entries_eq_nil_iff]
  cases resolution.pipelines.get? scope <;> simp

theorem get?_ne_nil_of_resolve {selection : Selection} {registry : Registry} {resolution : Resolution}
    (resolved : selection.resolve registry = .ok resolution) (scope : Scope) :
    resolution.pipelines.get? scope ≠ some [] := by
  obtain ⟨mode, inForce⟩ := Selection.exists_mode?_of_resolve resolved
  rw [Selection.resolve_eq_of_mode? inForce] at resolved
  cases resolved
  exact ScopeMap.get?_collect_ne_nil _ scope

theorem isEmpty_iff_of_resolve {selection : Selection} {registry : Registry} {resolution : Resolution}
    (resolved : selection.resolve registry = .ok resolution) : resolution.isEmpty = true ↔ resolution.size = 0 := by
  rw [isEmpty_iff]
  exact and_iff_left (get?_ne_nil_of_resolve resolved)

/-- No pipelines, none in the list of all and none in any scope come to the same.  Being empty comes to the same
exactly when there are pipelines or no key has an empty list, so for every resolution that comes from resolving. -/
theorem isEmpty_exact (resolution : Resolution) :
    (resolution.size = 0 ↔ resolution.toList = []) ∧
      (resolution.size = 0 ↔ ∀ scope, resolution.pipelinesOf scope = []) ∧
      (resolution.isEmpty = true → resolution.size = 0) ∧
      ((resolution.isEmpty = true ↔ resolution.size = 0) ↔
        resolution.size ≠ 0 ∨ ∀ scope, resolution.pipelines.get? scope ≠ some []) ∧
      ∀ (selection : Selection) (registry : Registry), selection.resolve registry = .ok resolution →
        (resolution.isEmpty = true ↔ resolution.size = 0) := by
  refine ⟨ScopeMap.size_eq_zero_iff, size_eq_zero_iff, fun empty => (isEmpty_iff.1 empty).1, ?_,
    fun selection registry => isEmpty_iff_of_resolve⟩
  rw [isEmpty_iff]
  tauto

/-- A deny-list that leaves nothing. -/
theorem isEmpty_exact_sample : ∃ resolution,
    (Selection.ofDeny ["pods", "nodes", "jobs"]).resolve .sample = .ok resolution ∧ resolution.size = 0 ∧
      resolution.isEmpty = true := by
  obtain ⟨resolution, resolved, enables⟩ := Selection.resolve_ofDeny .sample (List.cons_ne_nil "pods" ["nodes", "jobs"])
  have none : resolution.size = 0 := size_eq_zero_iff.2 fun scope => by
    rw [enables.pipelinesOf_eq]
    cases scope <;> rfl
  obtain ⟨_, _, _, _, agree⟩ := isEmpty_exact resolution
  exact ⟨resolution, resolved, none, (agree _ _ resolved).2 none⟩

/-- A resolution read from a document with a key for an empty list has no pipelines and is not empty. -/
theorem isEmpty_false_of_empty_list : ∃ resolution,
    Reader.resolution.ofJsonText "\x7b\"pipelines\":\x7b\"global\":[]\x7d\x7d" = .ok resolution ∧
      resolution.size = 0 ∧ resolution.toList = [] ∧ (∀ scope, resolution.pipelinesOf scope = []) ∧
      resolution.isEmpty = false := by
  let resolution : Resolution := { denyList := [], allowList := [], pipelines := ScopeMap.empty.insert .cluster [] }
  have written : "\x7b\"pipelines\":\x7b\"global\":[]\x7d\x7d" ∈ resolution.toJson.writings :=
    List.mem_cons.2 (.inl (by decide))
  exact ⟨resolution, (inverts_resolution.lossless.reads resolution _ written).2, by decide, by decide,
    fun scope => by cases scope <;> rfl, by decide⟩

end Resolution

end PipelineSelection
