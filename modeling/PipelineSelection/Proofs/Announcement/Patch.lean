import PipelineSelection.Proofs.Announcement.Transcript
import PipelineSelection.Proofs.Json.Printable
import PipelineSelection.Proofs.Json.Reading
import PipelineSelection.Proofs.Wire.RoundTrip

/-!
# What a version patch carries

Whatever the version, a patch is read as an object with the one member `spec`, an object with the one member
`version`, in both layouts: a version cannot close its string early.  No control character stands on the one line, and
none but four line feeds in the body that is shown, so the body has five lines (`splitOn_pretty`).  The main result is
`carries_only_version`.
-/

namespace PipelineSelection.VersionPatch

/-- The lines of the body that shows a patch. -/
def bodyLines (patch : VersionPatch) : List (List Char) :=
  ["\x7b".toList, "  \"spec\": \x7b".toList, "    \"version\": ".toList ++ Json.quote patch.version, "  \x7d".toList,
    "\x7d".toList]

theorem pretty_eq (patch : VersionPatch) : patch.toJson.pretty = ['\n'].intercalate patch.bodyLines := by
  have spec : Json.quote "spec" = "\"spec\"".toList := by decide
  have version : Json.quote "version" = "\"version\"".toList := by decide
  simp [toJson, Json.pretty, Json.write, Json.writeMembers, Json.Layout.pretty, spec, version, bodyLines,
    List.intercalate, List.replicate]

theorem printable_bodyLines (patch : VersionPatch) : ∀ line ∈ patch.bodyLines, ∀ c ∈ line, Json.Printable c := by
  have front : ∀ c ∈ "    \"version\": ".toList, Json.Printable c := Json.printable_of_all (by decide)
  intro line mem
  simp only [bodyLines, List.mem_cons, List.not_mem_nil, or_false] at mem
  rcases mem with rfl | rfl | rfl | rfl | rfl
  · exact Json.printable_of_all (by decide)
  · exact Json.printable_of_all (by decide)
  · intro c inLine
    rcases List.mem_append.1 inLine with inLine | inLine
    · exact front c inLine
    · exact Json.printable_quote patch.version c inLine
  · exact Json.printable_of_all (by decide)
  · exact Json.printable_of_all (by decide)

/-- Cutting the body at its line feeds gives the lines. -/
theorem splitOn_pretty (patch : VersionPatch) : patch.toJson.pretty.splitOn '\n' = patch.bodyLines := by
  have whole : ∀ line ∈ patch.bodyLines, '\n' ∉ line := by
    intro line mem feed
    exact absurd (printable_bodyLines patch line mem '\n' feed) (by decide)
  rw [pretty_eq]
  exact List.splitOn_intercalate '\n' whole (List.cons_ne_nil _ _)

/-- With room for everything the target is followed by the body of the patch. -/
theorem printing_new (target : Target) (patch : VersionPatch) :
    Announcer.printing target patch (.new none) = (.ok (), {
      written := utf8Of (("PATCH " ++ target.display).toList ++ '\n' :: (patch.toJson.pretty ++ ['\n']))
      room := none }) := by
  rw [Announcer.printing_eq_write, Writer.write_eq]
  rfl

/-- All that a reader of a patch, or of an announcement, can take from it is the version. -/
structure CarriesOnlyVersion (patch : VersionPatch) : Prop where
  toNode_eq : patch.toJson.toNode = .table [(some "spec", .table [(some "version", .text patch.version)])]
  /-- Both texts are read as the patch, and nothing is left of them. -/
  document_eq : ∀ text ∈ patch.toJson.writings, JsonParser.document text = (patch.toJson.toNode, some [])
  /-- No control character stands on the one line. -/
  compact_printable : ∀ c ∈ patch.toJson.compact, 0x20 ≤ c.toNat
  /-- An announcement shows the target and then the body of the patch. -/
  printing_eq : ∀ target, Announcer.printing target patch (.new none) = (.ok (), {
    written := utf8Of (("PATCH " ++ target.display).toList ++ '\n' :: (patch.toJson.pretty ++ ['\n']))
    room := none })
  length_lines : (patch.toJson.pretty.splitOn '\n').length = 5
  lines_printable : ∀ line ∈ patch.toJson.pretty.splitOn '\n', ∀ c ∈ line, 0x20 ≤ c.toNat

/-- Both texts of a patch are read as the version under `version` under `spec` and nothing else; the one has no control
character, and the other, which is what an announcement shows, has five lines without any. -/
theorem carries_only_version (patch : VersionPatch) : patch.CarriesOnlyVersion where
  toNode_eq := rfl
  document_eq := by
    have read : ∀ {layout : Json.Layout}, JsonParser.BlankLayout layout →
        JsonParser.document (String.ofList (patch.toJson.write layout 0)) = (patch.toJson.toNode, some []) := by
      intro layout blank
      have := JsonParser.document_write_append blank patch.toJson []
      rwa [List.append_nil] at this
    intro text written
    simp only [Json.writings, List.mem_cons, List.not_mem_nil, or_false] at written
    rcases written with rfl | rfl
    · exact read JsonParser.blankLayout_compact
    · exact read JsonParser.blankLayout_pretty
  compact_printable := Json.printable_compact _
  printing_eq target := printing_new target patch
  length_lines := by
    rw [splitOn_pretty]
    rfl
  lines_printable := by
    rw [splitOn_pretty]
    exact printable_bodyLines patch

/-- A version that tries to close its string and to open a line of its own. -/
theorem carries_only_version_forged :
    let patch : VersionPatch := { version := "v1\",\n\"name\":\"x" }
    patch.toJson.toCompactText ∈ patch.toJson.writings ∧
      JsonParser.document patch.toJson.toCompactText =
        (.table [(some "spec", .table [(some "version", .text "v1\",\n\"name\":\"x")])], some []) ∧
      'v' ∈ patch.toJson.compact ∧ 0x20 ≤ 'v'.toNat ∧ (patch.toJson.pretty.splitOn '\n').length = 5 := by
  intro patch
  have carries := carries_only_version patch
  have written : patch.toJson.toCompactText ∈ patch.toJson.writings := List.mem_cons_self ..
  have shown : 'v' ∈ patch.toJson.compact := by decide
  exact ⟨written, (carries.document_eq _ written).trans (by rw [carries.toNode_eq]), shown,
    carries.compact_printable _ shown, carries.length_lines⟩

end PipelineSelection.VersionPatch
