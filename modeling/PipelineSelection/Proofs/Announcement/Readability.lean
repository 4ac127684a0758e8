import Mathlib.Data.List.Forall2
import PipelineSelection.Proofs.Announcement.Transcript
import PipelineSelection.Proofs.Json.Reading

/-!
# Transcripts are read in one way only

A transcript gives back the announcements that it consists of.  The target of an announcement ends with its line and is
cut at the first of each separator (`Target.display_inj`); the patch below it is a written value, which ends where it
ends whatever follows it (`Json.write_append_inj`).  So the front of a transcript is one announcement
(`Announcer.text_append_inj`), and by induction the whole is one list of them.  The main result is
`Announcer.run_printing_readable`.
-/

namespace PipelineSelection

/-! ### Separators -/

/-- Texts that are equal are cut alike at a separator that neither of their fronts has. -/
private theorem append_cons_inj {α : Type} {separator : α} {front front' back back' : List α}
    (fresh : separator ∉ front) (fresh' : separator ∉ front')
    (same : front ++ separator :: back = front' ++ separator :: back') : front = front' ∧ back = back' := by
  induction front generalizing front' with
  | nil =>
    cases front' with
    | nil => exact ⟨rfl, (List.cons.inj same).2⟩
    | cons a front' => exact absurd (List.cons.inj same).1 (List.ne_of_not_mem_cons fresh')
  | cons a front ih =>
    cases front' with
    | nil => exact absurd (List.cons.inj same).1.symm (List.ne_of_not_mem_cons fresh)
    | cons b front' =>
      obtain ⟨rfl, rest⟩ := List.cons.inj same
      obtain ⟨rfl, rfl⟩ := ih (List.not_mem_of_not_mem_cons fresh) (List.not_mem_of_not_mem_cons fresh') rest
      exact ⟨rfl, rfl⟩

/-! ### Targets -/

/-- A target that can be shown on a line: no field breaks the line or has the separator that it ends at. -/
structure Target.Separable (target : Target) : Prop where
  kind : '.' ∉ target.kind.toList
  group : '/' ∉ target.group.toList
  version : ' ' ∉ target.version.toList
  home : '/' ∉ target.home.toList
  oneLine : ∀ field ∈ [target.kind, target.group, target.version, target.home, target.name], '\n' ∉ field.toList

namespace Target

theorem toList_display (target : Target) : target.display.toList =
    target.kind.toList ++ '.' :: (target.group.toList ++ '/' :: (target.version.toList ++
      ' ' :: (target.home.toList ++ '/' :: target.name.toList))) := by
  have dot : ".".toList = ['.'] := rfl
  have slash : "/".toList = ['/'] := rfl
  have blank : " ".toList = [' '] := rfl
  simp only [display, apiVersion, String.toList_append, dot, slash, blank, List.append_assoc, List.cons_append,
    List.nil_append]

theorem Separable.newline_notMem {target : Target} (separable : target.Separable) :
    '\n' ∉ target.display.toList := by
  have oneLine := separable.oneLine
  simp only [List.forall_mem_cons, List.not_mem_nil, IsEmpty.forall_iff, implies_true, and_true] at oneLine
  rw [toList_display]
  simp [oneLine]

/-- The display of a target tells it from every other one. -/
theorem display_inj {target other : Target} (separable : target.Separable) (separable' : other.Separable)
    (same : target.display = other.display) : target = other := by
  have chars := congrArg String.toList same
  rw [toList_display, toList_display] at chars
  obtain ⟨kind, chars⟩ := append_cons_inj separable.kind separable'.kind chars
  obtain ⟨group, chars⟩ := append_cons_inj separable.group separable'.group chars
  obtain ⟨version, chars⟩ := append_cons_inj separable.version separable'.version chars
  obtain ⟨home, name⟩ := append_cons_inj separable.home separable'.home chars
  obtain ⟨_, _, _, _, _⟩ := target
  obtain ⟨_, _, _, _, _⟩ := other
  simp only [String.toList_inj] at kind group version home name
  subst kind group version home name
  rfl

end Target

/-! ### Announcements -/

/-- A written value ends in one place only, whatever follows it. -/
theorem Json.write_append_inj {layout : Layout} (blank : JsonParser.BlankLayout layout) {json other : Json}
    {rest rest' : List Char} (same : json.write layout 0 ++ rest = other.write layout 0 ++ rest') :
    json.toNode = other.toNode ∧ rest = rest' := by
  have read := JsonParser.document_write_append blank json rest
  rw [same, JsonParser.document_write_append blank other rest'] at read
  obtain ⟨tree, left⟩ := Prod.mk.inj read
  exact ⟨tree.symm, (Option.some.inj left).symm⟩

namespace Announcer

/-- Texts that start with an announcement start with the same one when they are equal. -/
theorem text_append_inj {target other : Target} (separable : target.Separable) (separable' : other.Separable)
    {patch patch' : VersionPatch} {rest rest' : List Char}
    (same : text target patch ++ rest = text other patch' ++ rest') :
    target = other ∧ patch.version = patch'.version ∧ rest = rest' := by
  have front : '\n' ∉ "PATCH ".toList := by decide
  have line : '\n' ∉ ("PATCH " ++ target.display).toList := by
    rw [String.toList_append, List.mem_append, not_or]
    exact ⟨front, separable.newline_notMem⟩
  have line' : '\n' ∉ ("PATCH " ++ other.display).toList := by
    rw [String.toList_append, List.mem_append, not_or]
    exact ⟨front, separable'.newline_notMem⟩
  simp only [text, List.append_assoc, List.cons_append] at same
  obtain ⟨display, below⟩ := append_cons_inj line line' same
  rw [String.toList_append, String.toList_append, List.append_cancel_left_eq, String.toList_inj] at display
  obtain ⟨tree, below⟩ := Json.write_append_inj JsonParser.blankLayout_pretty below
  refine ⟨Target.display_inj separable separable' display, ?_, (List.cons.inj below).2⟩
  simpa [VersionPatch.toJson, Json.toNode, Json.toMembers] using tree

theorem text_ne_nil (target : Target) (patch : VersionPatch) : text target patch ≠ [] := by
  simp [text]

end Announcer

/-! ### Transcripts -/

/-- Settings that announce the same version on the same resource. -/
structure Settings.AnnounceAlike (settings other : Settings) : Prop where
  resource : settings.resource = other.resource
  version : settings.agent.version = other.agent.version

/-- The characters of a transcript. -/
private def transcriptText (list : List Settings) : List Char :=
  list.flatMap fun settings => Announcer.text settings.resource { version := settings.agent.version }

private theorem transcript_eq_utf8Of (list : List Settings) : transcript list = utf8Of (transcriptText list) := by
  induction list with
  | nil => rfl
  | cons settings list ih =>
    rw [transcriptText, List.flatMap_cons, utf8Of_append, ← transcriptText, ← ih]
    rfl

private theorem transcriptText_inj {list other : List Settings}
    (separable : ∀ settings ∈ list, settings.resource.Separable)
    (separable' : ∀ settings ∈ other, settings.resource.Separable) (same : transcriptText list = transcriptText other) :
    List.Forall₂ Settings.AnnounceAlike list other := by
  -- an announcement is never empty, so neither list ends before the other
  induction list generalizing other with
  | nil =>
    cases other with
    | nil => exact .nil
    | cons settings other =>
      rw [transcriptText, transcriptText, List.flatMap_cons, List.flatMap_nil] at same
      exact absurd (List.append_eq_nil_iff.1 same.symm).1 (Announcer.text_ne_nil _ _)
  | cons settings list ih =>
    cases other with
    | nil =>
      rw [transcriptText, transcriptText, List.flatMap_cons, List.flatMap_nil] at same
      exact absurd (List.append_eq_nil_iff.1 same).1 (Announcer.text_ne_nil _ _)
    | cons settings' other =>
      obtain ⟨one, separable⟩ := List.forall_mem_cons.1 separable
      obtain ⟨one', separable'⟩ := List.forall_mem_cons.1 separable'
      rw [transcriptText, transcriptText, List.flatMap_cons, List.flatMap_cons] at same
      obtain ⟨resource, version, rest⟩ := Announcer.text_append_inj one one' same
      exact .cons ⟨resource, version⟩ (ih separable separable' rest)

/-- Settings whose announcements leave the same transcript in a writer without limit are equally many and announce,
one after the other, the same versions on the same resources.  So the display of a resource tells which one it is. -/
theorem Announcer.run_printing_readable :
    (∀ list other : List Settings, (∀ settings ∈ list, settings.resource.Separable) →
      (∀ settings ∈ other, settings.resource.Separable) →
      (printing.run list (.new none)).2.written = (printing.run other (.new none)).2.written →
      list.length = other.length ∧ List.Forall₂ Settings.AnnounceAlike list other) ∧
    ∀ target other : Target, target.Separable → other.Separable → target.display = other.display → target = other := by
  refine ⟨?_, fun target other => Target.display_inj⟩
  intro list other separable separable' same
  rw [written_run_new, written_run_new] at same
  have bytes : transcript list = transcript other := same
  rw [transcript_eq_utf8Of, transcript_eq_utf8Of] at bytes
  have alike := transcriptText_inj separable separable' (utf8Of_inj bytes)
  exact ⟨alike.length_eq, alike⟩

private theorem separable_default : Settings.default.resource.Separable where
  kind := by decide
  group := by decide
  version := by decide
  home := by decide
  oneLine := by decide

/-- Settings that differ in what is not announced, a version that looks like the rest of a transcript, and a name that
has a separator. -/
theorem Announcer.run_printing_readable_sample :
    let quiet : Settings := { Settings.default with events := { events := [] } }
    let forged : Settings := { Settings.default with agent := {
      version := "v0.1.0\"\n  \x7d\n\x7d\nPATCH meshsyncs.meshery.io/v1alpha1 meshery/meshery-meshsync\n" } }
    (printing.run [Settings.default] (.new none)).2.written = (printing.run [quiet] (.new none)).2.written ∧
      List.Forall₂ Settings.AnnounceAlike [Settings.default] [quiet] ∧
      (printing.run [forged] (.new none)).2.written ≠
        (printing.run [Settings.default, Settings.default] (.new none)).2.written ∧
      { Target.default with name := "other/name" }.display ≠ Target.default.display := by
  intro quiet forged
  have sameTarget : ∀ settings ∈ [Settings.default, quiet, forged], settings.resource.Separable := by
    simp [quiet, forged, separable_default]
  have same : (printing.run [Settings.default] (.new none)).2.written =
      (printing.run [quiet] (.new none)).2.written := by
    rw [written_run_new, written_run_new]
    rfl
  obtain ⟨-, alike⟩ := run_printing_readable.1 [Settings.default] [quiet] (by simp [sameTarget])
    (by simp [sameTarget]) same
  refine ⟨same, alike, fun same => ?_, fun shown => ?_⟩
  · obtain ⟨lengths, -⟩ := run_printing_readable.1 [forged] [Settings.default, Settings.default]
      (by simp [sameTarget]) (by simp [sameTarget]) same
    cases lengths
  · have separable : Target.Separable { Target.default with name := "other/name" } := {
      separable_default with oneLine := by decide }
    have same := run_printing_readable.2 _ _ separable separable_default shown
    exact absurd (congrArg Target.name same) (by decide)

end PipelineSelection
