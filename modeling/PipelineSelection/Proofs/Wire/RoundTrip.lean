import PipelineSelection.Proofs.Json.Reading
import PipelineSelection.Proofs.Registry.Construction
import PipelineSelection.Proofs.Wire.Records
import PipelineSelection.Wire.Reading
import PipelineSelection.Wire.Writing

/-!
# Wire formats are read back

What is written for a selection or a resolution is read as the same value, in both layouts and by both ways of
reading a text (`Lossless`): a list that is left out comes back as the empty one, and a scope whose list is empty stays
different from a scope that is no key.  So a resolution that has been stored as text still resolves to itself
(`wire_lossless`).
-/

namespace PipelineSelection

variable {α : Type}

/-! ### Types -/

theorem inverts_texts : Inverts Reader.texts .texts :=
  inverts_text.listOf

private theorem writes_unlessEmpty {types : List Type} {dialect : Dialect} {reader : Reader α} {toJson : α → Json}
    (h : Inverts reader toJson) (name : String) (list : List α) {rest : Fields types} {values : Values types}
    {members : List (Option String × Node)} (writes : rest.Writes dialect values members) :
    Fields.Writes dialect (.cons name (Reader.listOf reader) (some []) rest) (list, values)
      (Json.toMembers (Json.memberUnlessEmpty name toJson list) ++ members) := by
  unfold Json.memberUnlessEmpty
  cases list with
  | nil => exact .leftOut writes
  | cons value list => exact .given (h.listOf dialect (value :: list)) writes

theorem inverts_allowEntry : Inverts Reader.allowEntry AllowEntry.toJson := fun dialect entry =>
  Reader.record_of_writes (.given rfl <| .given (inverts_texts dialect entry.events) .nil) (by decide)

theorem inverts_enabledPipeline : Inverts Reader.enabledPipeline EnabledPipeline.toJson := fun dialect pipeline =>
  Reader.record_of_writes
    (.given rfl <| .given rfl <| .given (inverts_texts dialect pipeline.events) .nil) (by decide)

theorem inverts_selection : Inverts Reader.selection Selection.toJson := by
  intro dialect selection
  rw [Selection.toJson, Json.toNode, Json.toMembers_append,
    ← List.append_nil (Json.toMembers (Json.memberUnlessEmpty "allow" AllowEntry.toJson selection.allow))]
  exact Reader.record_of_writes (writes_unlessEmpty inverts_text "deny" selection.deny <|
    writes_unlessEmpty inverts_allowEntry "allow" selection.allow .nil) (by decide)

/-- Every key is written once, so reading the keys in order gives every scope its own list. -/
theorem Inverts.scopeMap {reader : Reader α} {toJson : α → Json} (h : Inverts reader toJson) :
    Inverts (Reader.scopeMap reader) (ScopeMap.toJson toJson) := by
  have name : ∀ scope : Scope, Reader.scopeName scope.name = .ok scope := by
    intro scope
    rw [Reader.scopeName, Scope.ofName?_name]
  intro dialect map
  have table : (map.toJson toJson).toNode =
      .table (map.toList.map fun entry => (some entry.1.name, (toJson entry.2).toNode)) := by
    rw [ScopeMap.toJson, Json.toNode, Json.toMembers_eq_map, List.map_map]
    rfl
  rw [table]
  show Reader.scopeMembers reader dialect .empty _ = _
  -- one case for each set of keys
  obtain ⟨_ | cluster, _ | namespaced⟩ := map
  all_goals
    simp [ScopeMap.toList, Reader.scopeMembers, name, h dialect, ScopeMap.insert, ScopeMap.empty, bind, Except.bind]

theorem inverts_resolution : Inverts Reader.resolution Resolution.toJson := by
  intro dialect resolution
  rw [Resolution.toJson, Json.toNode, Json.toMembers_append, Json.toMembers_append, List.append_assoc]
  exact Reader.record_of_writes (writes_unlessEmpty inverts_text "deny_list" resolution.denyList <|
    writes_unlessEmpty inverts_allowEntry "allow_list" resolution.allowList <|
    .given (inverts_enabledPipeline.listOf.scopeMap dialect resolution.pipelines) .nil) (by decide)

/-! ### Texts -/

/-- The texts written for a value: on one line, and with one element a line. -/
def Json.writings (json : Json) : List String := [json.toCompactText, json.toPrettyText]

/-- A value is read to the end of its text, whatever blanks follow. -/
private theorem document_writings {json : Json} {text blanks : String} (written : text ∈ json.writings) :
    JsonParser.document (text ++ blanks) = (json.toNode, some blanks.toList) := by
  have followed : ∀ {layout : Json.Layout}, JsonParser.BlankLayout layout →
      JsonParser.document (String.ofList (json.write layout 0) ++ blanks) = (json.toNode, some blanks.toList) := by
    intro layout blank
    rw [← JsonParser.document_write_append blank json, String.ofList_append, String.ofList_toList]
  simp only [Json.writings, List.mem_cons, List.not_mem_nil, or_false] at written
  rcases written with rfl | rfl
  · exact followed JsonParser.blankLayout_compact
  · exact followed JsonParser.blankLayout_pretty

mutual

private theorem intact_toNode : ∀ json : Json, json.toNode.intact = true
  | .string _ => rfl
  | .array items => intact_toNodes items
  | .object members => intact_toMembers members

private theorem intact_toNodes : ∀ items : List Json, Node.intactItems (Json.toNodes items) = true
  | [] => rfl
  | item :: items => Bool.and_eq_true_iff.2 ⟨intact_toNode item, intact_toNodes items⟩

private theorem intact_toMembers : ∀ members : List (String × Json),
    Node.intactMembers (Json.toMembers members) = true
  | [] => rfl
  | (_, value) :: members => Bool.and_eq_true_iff.2 ⟨intact_toNode value, intact_toMembers members⟩

end

/-- A wire format that loses nothing. -/
structure Lossless (reader : Reader α) (toJson : α → Json) : Prop where
  /-- Every text written for a value is read as that value, also when it has to be JSON as a whole first. -/
  reads : ∀ value, ∀ text ∈ (toJson value).writings,
    reader.ofJsonStream text = .ok value ∧ reader.ofJsonText text = .ok value
  /-- Values that share a text in any layout are the same. -/
  unambiguous : ∀ first second, ∀ text ∈ (toJson first).writings, text ∈ (toJson second).writings → first = second
  /-- Whatever text a value has been read from, its own texts are read as it again. -/
  stable : ∀ text value, reader.ofJsonStream text = .ok value ∨ reader.ofJsonText text = .ok value →
    ∀ again ∈ (toJson value).writings,
      reader.ofJsonStream again = .ok value ∧ reader.ofJsonText again = .ok value

/-- What is written is read, also with blanks after it. -/
theorem Inverts.reads_append {reader : Reader α} {toJson : α → Json} (h : Inverts reader toJson) {value : α}
    {text blanks : String} (written : text ∈ (toJson value).writings) (blank : JsonParser.AllBlank blanks.toList) :
    reader.ofJsonStream (text ++ blanks) = .ok value ∧ reader.ofJsonText (text ++ blanks) = .ok value := by
  have read : JsonParser.document (text ++ blanks) = ((toJson value).toNode, some blanks.toList) :=
    document_writings written
  have ended : JsonParser.atEnd (some blanks.toList) = true := by
    rw [JsonParser.atEnd, ← List.append_nil blanks.toList, JsonParser.skipBlanks_append blank]
    rfl
  rw [Reader.ofJsonStream_ok_iff, Reader.ofJsonText_ok_iff, read]
  exact ⟨⟨ended, h .jsonText value⟩, intact_toNode _, ended, h .jsonText value⟩

theorem Inverts.lossless {reader : Reader α} {toJson : α → Json} (h : Inverts reader toJson) :
    Lossless reader toJson := by
  have reads : ∀ value, ∀ text ∈ (toJson value).writings,
      reader.ofJsonStream text = .ok value ∧ reader.ofJsonText text = .ok value := by
    intro value text written
    have nothing : JsonParser.AllBlank "".toList := by simp [JsonParser.AllBlank]
    simpa using h.reads_append written nothing
  refine ⟨reads, fun first second text one other => ?_, fun _ value _ => reads value⟩
  have same := (reads first text one).1.symm.trans (reads second text other).1
  exact Except.ok.inj same

/-- Selections and resolutions lose nothing on the wire, and a resolution that has been read from its text resolves
to itself again. -/
theorem wire_lossless :
    Lossless Reader.selection Selection.toJson ∧ Lossless Reader.resolution Resolution.toJson ∧
      ∀ (registry : Registry) (selection : Selection) (resolution : Resolution),
        selection.resolve registry = .ok resolution → ∀ text ∈ resolution.toJson.writings,
          ∃ stored, Reader.resolution.ofJsonStream text = .ok stored ∧
            Reader.resolution.ofJsonText text = .ok stored ∧ stored.selection.resolve registry = .ok resolution := by
  refine ⟨inverts_selection.lossless, inverts_resolution.lossless, ?_⟩
  intro registry selection resolution resolved text written
  obtain ⟨stream, whole⟩ := inverts_resolution.lossless.reads resolution text written
  refine ⟨resolution, stream, whole, ?_⟩
  rw [Selection.selection_of_resolve resolved, resolved]

/-- A deny-list whose name has to be escaped. -/
theorem wire_lossless_escapes : ∃ resolution,
    (Selection.ofDeny ["\"\\\n"]).resolve .sample = .ok resolution ∧ ∀ text ∈ resolution.toJson.writings,
      ∃ stored, Reader.resolution.ofJsonStream text = .ok stored ∧
        Reader.resolution.ofJsonText text = .ok stored ∧ stored.selection.resolve .sample = .ok resolution := by
  have mode : (Selection.ofDeny ["\"\\\n"]).mode? = .ok (.deny ["\"\\\n"]) := rfl
  obtain ⟨resolution, resolved, _⟩ := Selection.resolve_of_mode? mode .sample
  exact ⟨resolution, resolved, wire_lossless.2.2 _ _ _ resolved⟩

end PipelineSelection
