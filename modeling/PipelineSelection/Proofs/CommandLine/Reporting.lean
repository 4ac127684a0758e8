import Mathlib.Data.List.Basic
import PipelineSelection.CommandLine.Report

/-!
# What a report tells

The lines of a report without colours, told by the resolution that it is about (`Reports`): which list is in force and
how long it is, and then that there are no pipelines, or the pipelines of each scope that has any and their number.
A report is printed line by line whenever a list is in force (`report_eq`), and it keeps to these lines when keys and
pipelines agree about emptiness (`reports_reportLines`).  That there are no pipelines is said exactly when there are
none (`Reports.nothing_iff`).
-/

namespace PipelineSelection.CommandLine

open Execution

/-! ### Lines -/

/-- What a report says about the list that has something on it. -/
inductive Summarizes (resolution : Resolution) : String → Prop where
  | allow : resolution.allowList ≠ [] → resolution.denyList = [] →
    Summarizes resolution ("allow-list, " ++ toString resolution.allowList.length ++ " entries")
  | deny : resolution.denyList ≠ [] → resolution.allowList = [] →
    Summarizes resolution ("deny-list, " ++ toString resolution.denyList.length ++ " entries")

/-- Some scopes with pipelines are all the pipelines of a resolution. -/
structure Divides (resolution : Resolution) (parts : List (Scope × List EnabledPipeline)) : Prop where
  /-- Every pipeline is there once, with its scope, in the order of all pipelines. -/
  toList_eq : (parts.flatMap fun (scope, pipelines) => pipelines.map (scope, ·)) = resolution.toList
  scopes_nodup : (parts.map (·.1)).Nodup
  nonempty : ∀ part ∈ parts, part.2 ≠ []

/-- A scope and its pipelines, one a line. -/
def partLines (part : Scope × List EnabledPipeline) : List String :=
  [part.1.name ++ ":"] ++
    part.2.map (fun pipeline => "  " ++ filled 66 pipeline.name ++ " " ++ ", ".intercalate pipeline.events) ++ [""]

/-- The lines of a report about a resolution. -/
inductive Reports (resolution : Resolution) : List String → Prop where
  | nothing {summary : String} : Summarizes resolution summary → resolution.size = 0 →
    Reports resolution ["Resolved Pipelines (" ++ summary ++ ")", "", "No pipelines enabled."]
  | listing {summary : String} {parts : List (Scope × List EnabledPipeline)} : Summarizes resolution summary →
    resolution.size ≠ 0 → Divides resolution parts →
    Reports resolution (["Resolved Pipelines (" ++ summary ++ ")", ""] ++ parts.flatMap partLines ++
      ["Total: " ++ toString (parts.flatMap (·.2)).length ++ " pipelines enabled."])

/-- That there are no pipelines is said when there are none, and nothing else in a report looks like that. -/
theorem Reports.nothing_iff {resolution : Resolution} {lines : List String} (reports : Reports resolution lines) :
    "No pipelines enabled." ∈ lines ↔ resolution.size = 0 := by
  cases reports with
  | nothing _ none => simp [none]
  | @listing summary parts _ some _ =>
    refine iff_of_false ?_ some
    have title : "No pipelines enabled." ≠ "Resolved Pipelines (" ++ summary ++ ")" := by simp [String.ext_iff]
    have heading : ∀ scope : Scope, "No pipelines enabled." ≠ scope.name ++ ":" := by
      intro scope
      cases scope <;> decide
    have pipeline : ∀ rest : String, "No pipelines enabled." ≠ "  " ++ rest := by simp [String.ext_iff]
    have total : ∀ rest : String, "No pipelines enabled." ≠ "Total: " ++ rest := by simp [String.ext_iff]
    simp only [partLines, List.mem_append, List.mem_cons, List.mem_flatMap, List.mem_map, List.not_mem_nil, or_false,
      String.append_assoc]
    rintro (((h | h) | ⟨part, _, (h | ⟨entry, _, h⟩) | h⟩) | h)
    · exact title (by rw [h, String.append_assoc])
    · exact absurd h (by decide)
    · exact heading _ h
    · exact pipeline _ h.symm
    · exact absurd h (by decide)
    · exact total _ h

/-! ### The report of a resolution -/

theorem summarizes_summary {resolution : Resolution} {mode : Mode} (inForce : resolution.selection.mode? = .ok mode) :
    Summarizes resolution (summary mode) := by
  obtain ⟨denyList, allowList, pipelines⟩ := resolution
  unfold Selection.mode? Resolution.selection at inForce
  cases allowList with
  | nil =>
    cases denyList with
    | nil => cases inForce
    | cons name names =>
      cases inForce
      exact .deny (List.cons_ne_nil _ _) rfl
  | cons entry entries =>
    cases denyList with
    | nil =>
      cases inForce
      exact .allow (List.cons_ne_nil _ _) rfl
    | cons name names => cases inForce

/-- The scopes that have pipelines, each with all of them. -/
def parts (resolution : Resolution) : List (Scope × List EnabledPipeline) :=
  (Scope.all.map fun scope => (scope, resolution.pipelinesOf scope)).filter fun part => !part.2.isEmpty

private theorem flatMap_filter_of_nil {α β : Type} {p : α → Bool} {f : α → List β}
    (nil : ∀ a, p a = false → f a = []) (list : List α) : (list.filter p).flatMap f = list.flatMap f := by
  induction list with
  | nil => rfl
  | cons a list ih =>
    cases h : p a with
    | true => rw [List.filter_cons_of_pos h, List.flatMap_cons, List.flatMap_cons, ih]
    | false => rw [List.filter_cons_of_neg (by simp [h]), List.flatMap_cons, nil a h, List.nil_append, ih]

/-- Scopes without pipelines add nothing. -/
private theorem flatMap_parts {α : Type} (resolution : Resolution) {f : Scope × List EnabledPipeline → List α}
    (nil : ∀ scope, f (scope, []) = []) :
    (parts resolution).flatMap f = Scope.all.flatMap fun scope => f (scope, resolution.pipelinesOf scope) := by
  rw [parts, flatMap_filter_of_nil, List.flatMap_map]
  rintro ⟨scope, pipelines⟩ empty
  have none : pipelines = [] := by simpa using empty
  rw [none, nil]

theorem divides_parts (resolution : Resolution) : Divides resolution (parts resolution) where
  toList_eq := by
    rw [flatMap_parts resolution (by simp), Resolution.toList, ScopeMap.flatten_eq]
    rfl
  scopes_nodup := by
    have all : (Scope.all.map fun scope => (scope, resolution.pipelinesOf scope)).map (·.1) = Scope.all := rfl
    have nodup : Scope.all.Nodup := by decide
    exact (all ▸ nodup).sublist (List.filter_sublist.map _)
  nonempty part mem := by simpa using (List.mem_filter.1 mem).2

private theorem length_parts (resolution : Resolution) :
    ((parts resolution).flatMap (·.2)).length = resolution.size := by
  rw [flatMap_parts resolution (fun _ => rfl), Resolution.size, ScopeMap.size_eq_add]
  simp [Scope.all, Resolution.pipelinesOf]

private theorem sections_eq (resolution : Resolution) :
    (Scope.all.flatMap fun scope =>
        underHeading false scope.name ((resolution.pipelinesOf scope).map (enabledLine false))) =
      (parts resolution).flatMap partLines := by
  have written := flatMap_parts resolution
    (f := fun part => underHeading false part.1.name (part.2.map (enabledLine false))) fun _ => rfl
  rw [← written]
  refine List.flatMap_congr fun part mem => ?_
  have lines : (part.2.map (enabledLine false)).isEmpty = false := by
    simpa using (divides_parts resolution).nonempty part mem
  rw [underHeading, lines, if_neg (by decide)]
  rfl

/-- The lines of a report with a list in force. -/
def reportLines (colours : Bool) (resolution : Resolution) (mode : Mode) : List String :=
  [styled colours .bold "Resolved Pipelines" ++ " (" ++ styled colours .dimmed (summary mode) ++ ")", ""] ++
    if resolution.isEmpty then [styled colours .yellow "No pipelines enabled."]
    else
      (Scope.all.flatMap fun scope =>
        underHeading colours scope.name ((resolution.pipelinesOf scope).map (enabledLine colours))) ++
      [styled colours .dimmed "Total:" ++ " " ++ toString resolution.size ++ " pipelines enabled."]

/-- With a list in force nothing can go wrong any more: a report is printed line by line, and nothing else happens. -/
theorem report_eq (colours : Bool) {resolution : Resolution} {mode : Mode}
    (inForce : resolution.selection.mode? = .ok mode) :
    report colours resolution = printLines (reportLines colours resolution mode) := by
  have looked : ofLogged (pure (resolution.selection.mode?.mapError Failure.selection)) = pure mode := by
    rw [inForce]
    rfl
  rw [report, looked, pure_bind, reportLines]
  by_cases empty : resolution.isEmpty = true
  · simp only [if_pos empty, printLine_eq, printLines_bind]
    rfl
  · simp only [if_neg empty, printLine_eq, forM_printLines, printLines_bind]
    rfl

/-- The lines of a report tell of the resolution. -/
theorem reports_reportLines {resolution : Resolution} {mode : Mode}
    (inForce : resolution.selection.mode? = .ok mode) (agree : resolution.isEmpty = true ↔ resolution.size = 0) :
    Reports resolution (reportLines false resolution mode) := by
  have summarizes := summarizes_summary inForce
  rw [reportLines]
  by_cases empty : resolution.isEmpty = true
  · rw [if_pos empty]
    exact .nothing summarizes (agree.1 empty)
  · have listing := Reports.listing summarizes (fun none => empty (agree.2 none)) (divides_parts resolution)
    rw [length_parts, ← sections_eq] at listing
    rw [if_neg empty]
    exact listing

end PipelineSelection.CommandLine
