import PipelineSelection.Proofs.Document.Tables
import PipelineSelection.Proofs.Wire.Exactness
import PipelineSelection.Proofs.Wire.RoundTrip

/-!
# Repeated keys

Two rules for repeated keys meet in the document of a resolution.  In the table of its pipelines the last value of a
scope counts, but every value has to be well-shaped, those that are overridden too (`Reader.scopeMap_iff`).  Among the
fields of the resolution itself a key that is repeated is an error (`Reader.record_table_of_repeated`).  What has been
read does not show the order of the keys any more (`Resolution.KeepsLast`).  The main result is
`Resolution.repeated_keys`.
-/

namespace PipelineSelection

variable {dialect : Dialect} {pairs : List (Option String × Node)}

namespace Resolution

/-- The names of the fields of a resolution in a document. -/
def fieldNames : List String := ["deny_list", "allow_list", "pipelines"]

/-- The reader of one list of pipelines. -/
abbrev pipelineList : Reader (List EnabledPipeline) := Reader.listOf Reader.enabledPipeline

/-- A resolution that holds for every scope the last list that some pairs give for it. -/
structure KeepsLast (pairs : List (Option String × Node)) (resolution : Resolution) : Prop where
  /-- Every value is a list of pipelines, also one that is overridden. -/
  readable : Readable pipelineList .jsonText pairs
  wellShaped : ∀ pair ∈ pairs, pair.2.proper = true → (Shape.list .enabledPipeline).Fits pair.2
  last : ∀ (scope : Scope) node, lastFor? pairs scope.name = some node →
    pipelineList .jsonText node = .ok (resolution.pipelinesOf scope)
  absent : ∀ scope : Scope, (∀ pair ∈ pairs, pair.1 ≠ some scope.name) → resolution.pipelinesOf scope = []
  /-- The pipelines of the one scope come before those of the other. -/
  toList_eq : resolution.toList = (resolution.pipelinesOf .cluster).map (.cluster, ·) ++
    (resolution.pipelinesOf .namespaced).map (.namespaced, ·)
  find?_iff : ∀ scope name pipeline, resolution.find? scope name = some pipeline ↔ pipeline.name = name ∧
    ∃ front back, resolution.pipelinesOf scope = front ++ pipeline :: back ∧ ∀ other ∈ front, other.name ≠ name
  /-- Every scope that is a key is written once, in the order of scopes. -/
  written : resolution.toJson = .object (Json.memberUnlessEmpty "deny_list" .string resolution.denyList ++
    Json.memberUnlessEmpty "allow_list" AllowEntry.toJson resolution.allowList ++
    [("pipelines", .object ((Scope.all.filter fun scope => pairs.any (·.1 == some scope.name)).map fun scope =>
      (scope.name, .array ((resolution.pipelinesOf scope).map EnabledPipeline.toJson))))])

variable {node : Node} {members : List (Option String × Node)} {resolution : Resolution}

/-- What a document has for the pipelines is read as the map of the resolution. -/
private theorem scopeMap_of_table
    (read : Reader.resolution dialect (.table members) = .ok resolution) (mem : (some "pipelines", node) ∈ members) :
    Reader.scopeMap pipelineList dialect node = .ok resolution.pipelines := by
  obtain ⟨-, ⟨_, _, _, _⟩, assigns, rfl⟩ := (Reader.record_table_iff (by decide)).1 read
  obtain ⟨-, -, ⟨slot, given, complete⟩, -⟩ := assigns
  obtain ⟨value, rfl, read⟩ := given.of_mem mem
  cases complete
  exact read

private theorem scopeMap_of_sequence {deny allow : Node}
    (read : Reader.resolution dialect (.sequence [deny, allow, node]) = .ok resolution) :
    Reader.scopeMap pipelineList dialect node = .ok resolution.pipelines := by
  obtain ⟨⟨⟨_, _, pipelines, _⟩, surplus⟩, put, rest⟩ := bind_ok_iff.1 read
  obtain ⟨_, -, same⟩ := bind_ok_iff.1 rest
  cases same
  obtain ⟨-, put⟩ := Fields.putItems_cons_iff.1 put
  obtain ⟨-, put⟩ := Fields.putItems_cons_iff.1 put
  exact (Fields.putItems_cons_iff.1 put).1

/-- The pipelines may be given by their name or by their place. -/
theorem scopeMap_of_membersFor? (found : node.membersFor? fieldNames = some members)
    (read : Reader.resolution dialect node = .ok resolution) (mem : (some "pipelines", .table pairs) ∈ members) :
    Reader.scopeMap pipelineList dialect (.table pairs) = .ok resolution.pipelines := by
  cases node with
  | table given =>
    cases found
    exact scopeMap_of_table read mem
  | sequence items =>
    rw [Node.membersFor?, Option.ite_none_right_eq_some] at found
    obtain ⟨short, found⟩ := found
    cases found
    rcases items with _ | ⟨deny, _ | ⟨allow, _ | ⟨pipelines, _ | ⟨surplus, items⟩⟩⟩⟩
    · simp [fieldNames] at mem
    · simp [fieldNames] at mem
    · simp [fieldNames] at mem
    · have third : pipelines = .table pairs := by simpa [fieldNames, eq_comm] using mem
      subst third
      exact scopeMap_of_sequence read
    · simp only [fieldNames, List.length_cons, List.length_nil] at short
      omega
  | _ => cases found

private theorem pipelines_toJson (resolution : Resolution) :
    (resolution.pipelines.toJson fun pipelines => .array (pipelines.map EnabledPipeline.toJson)) =
      .object (resolution.pipelines.keys.map fun scope =>
        (scope.name, .array ((resolution.pipelinesOf scope).map EnabledPipeline.toJson))) := by
  -- one case for each set of keys
  obtain ⟨_, _, _ | cluster, _ | namespaced⟩ := resolution <;> rfl

private theorem keepsLast_of_scopeMap
    (read : Reader.scopeMap pipelineList .jsonText (.table pairs) = .ok resolution.pipelines) :
    resolution.KeepsLast pairs := by
  obtain ⟨readable, -⟩ := Reader.scopeMap_iff.1 read
  have strict : Dialect.jsonText.surplus ≠ .ignored := by decide
  refine {
    readable
    wellShaped := ?_
    last := fun _ _ => Reader.entries_of_scopeMap read
    absent := fun _ => Reader.entries_of_scopeMap_of_absent read
    toList_eq := ?_
    find?_iff := ?_
    written := ?_ }
  · intro pair mem proper
    obtain ⟨-, list, read⟩ := readable pair mem
    have denotes := ((Shape.ReadBy.enabledPipeline strict).list pair.2 proper list).1 read
    exact ((Shape.list .enabledPipeline).fits_iff proper).2 ⟨list, denotes⟩
  · rw [toList, ScopeMap.flatten_eq]
    simp [Scope.all, pipelinesOf]
  · intro scope name pipeline
    rw [find?, List.find?_eq_some_iff_append, beq_iff_eq]
    simp
  · rw [toJson, pipelines_toJson, ScopeMap.keys_eq_filter]
    simp only [Reader.isSome_get?_of_scopeMap read]

/-- A document with nothing but pipelines is accepted when all pairs can be read. -/
private theorem exists_resolution_iff :
    (∃ resolution, Reader.resolution dialect (.table [(some "pipelines", .table pairs)]) = .ok resolution) ↔
      Readable pipelineList dialect pairs := by
  rw [← Reader.exists_scopeMap_iff]
  constructor
  · rintro ⟨resolution, read⟩
    exact ⟨_, scopeMap_of_table read (List.mem_cons_self ..)⟩
  · rintro ⟨map, read⟩
    refine ⟨_, (Reader.record_table_iff (by decide)).2 ⟨?_, ([], [], map, ()), ?_, rfl⟩⟩
    · intro member mem
      rw [List.mem_singleton] at mem
      subst mem
      exact ⟨"pipelines", rfl, .inl (by decide)⟩
    · exact ⟨⟨none, rfl, rfl⟩, ⟨none, rfl, rfl⟩, ⟨some map, ⟨_, rfl, read⟩, rfl⟩, trivial⟩

/-- What is decoded from a text has been read from its tree. -/
private theorem read_of_decoded {text : String} {left : Option (List Char)}
    (parsed : JsonParser.document text = (node, left))
    (decoded : Reader.resolution.ofJsonStream text = .ok resolution ∨
      Reader.resolution.ofJsonText text = .ok resolution) : Reader.resolution .jsonText node = .ok resolution := by
  rw [Reader.ofJsonStream_ok_iff, Reader.ofJsonText_ok_iff, parsed] at decoded
  rcases decoded with ⟨-, read⟩ | ⟨-, -, read⟩
  · exact read
  · exact read

private theorem ofJsonStream_of_error {text : String} {left : Option (List Char)} {error : ReadError}
    (parsed : JsonParser.document text = (node, left)) (read : Reader.resolution .jsonText node = .error error) :
    Reader.resolution.ofJsonStream text = .error error := by
  rw [Reader.ofJsonStream, parsed]
  simp only [read]
  rfl

/-- No field is given a second time in a document that is read. -/
private theorem not_read_of_repeated {name : String} {first second : Node}
    {front middle back : List (Option String × Node)} (known : name ∈ fieldNames) :
    Reader.resolution dialect (.table (front ++ (some name, first) :: (middle ++ (some name, second) :: back))) ≠
      .ok resolution := by
  have two : 1 < ((front ++ (some name, first) :: (middle ++ (some name, second) :: back)).filter
      (·.1 == some name)).length := by
    simp only [List.filter_append, List.filter_cons, beq_self_eq_true, if_true, List.length_append, List.length_cons]
    omega
  have once : ∀ {β : Type} {means : Node → β → Prop} {slot : Option β},
      ¬ GivenOnce means (front ++ (some name, first) :: (middle ++ (some name, second) :: back)) name slot := by
    intro β means slot given
    cases slot with
    | none =>
      rw [given] at two
      cases two
    | some value =>
      obtain ⟨_, alone, -⟩ := given
      rw [alone] at two
      exact Nat.lt_irrefl 1 two
  intro read
  obtain ⟨-, ⟨_, _, _, _⟩, ⟨⟨_, deny, -⟩, ⟨_, allow, -⟩, ⟨_, pipelines, -⟩, -⟩, -⟩ :=
    (Reader.record_table_iff (by decide)).1 read
  simp only [fieldNames, List.mem_cons, List.not_mem_nil, or_false] at known
  rcases known with rfl | rfl | rfl
  · exact once deny
  · exact once allow
  · exact once pipelines

/-- In the table of pipelines the last value of a scope counts, and only if every value of the table is well-shaped;
what is read does not depend on the order of the keys and is written with each of them once.  A field of the resolution
that is repeated is an error, which names the field when nothing before it is wrong. -/
theorem repeated_keys :
    (∀ text node left members pairs resolution, JsonParser.document text = (node, left) →
      node.membersFor? fieldNames = some members → (some "pipelines", .table pairs) ∈ members →
      (Reader.resolution.ofJsonStream text = .ok resolution ∨ Reader.resolution.ofJsonText text = .ok resolution) →
      resolution.KeepsLast pairs) ∧
    (∀ pairs, (∃ resolution, Reader.resolution .jsonText (.table [(some "pipelines", .table pairs)]) = .ok resolution) ↔
      Readable pipelineList .jsonText pairs) ∧
    ∀ text name first second front middle back left, name ∈ fieldNames →
      JsonParser.document text =
        (.table (front ++ (some name, first) :: (middle ++ (some name, second) :: back)), left) →
      (∀ resolution, Reader.resolution.ofJsonStream text ≠ .ok resolution ∧
        Reader.resolution.ofJsonText text ≠ .ok resolution) ∧
      ((∃ resolution, Reader.resolution .jsonText (.table (front ++ (some name, first) :: middle)) = .ok resolution) →
        Reader.resolution.ofJsonStream text = .error (.duplicateField name)) := by
  refine ⟨?_, fun pairs => exists_resolution_iff, ?_⟩
  · intro text node left members pairs resolution parsed found mem decoded
    exact keepsLast_of_scopeMap (scopeMap_of_membersFor? found (read_of_decoded parsed decoded) mem)
  · intro text name first second front middle back left known parsed
    refine ⟨fun resolution => ⟨fun decoded => ?_, fun decoded => ?_⟩, fun accepted => ?_⟩
    · exact not_read_of_repeated known (read_of_decoded parsed (.inl decoded))
    · exact not_read_of_repeated known (read_of_decoded parsed (.inr decoded))
    · have split : front ++ (some name, first) :: (middle ++ (some name, second) :: back) =
          (front ++ (some name, first) :: middle) ++ (some name, second) :: back := by simp
      rw [split] at parsed
      have given : ∃ node, (some name, node) ∈ front ++ (some name, first) :: middle := ⟨first, by simp⟩
      exact ofJsonStream_of_error parsed (Reader.record_table_of_repeated accepted known given)

/-- A scope that is given twice, and a deny-list that is given twice. -/
theorem repeated_keys_sample :
    let pods : EnabledPipeline := { name := "pods", subject := "meshery", events := [] }
    let nodes : EnabledPipeline := { name := "nodes", subject := "meshery", events := ["ADDED"] }
    let scopes : Json := .object [("pipelines", .object [("local", .array [pods.toJson]),
      ("global", .array [pods.toJson]), ("global", .array [nodes.toJson])])]
    let fields : Json := .object [("deny_list", .texts ["pods"]), ("deny_list", .texts ["nodes"])]
    (∃ resolution, Reader.resolution.ofJsonText scopes.toCompactText = .ok resolution ∧
      resolution.toList = [(.cluster, nodes), (.namespaced, pods)]) ∧
      Reader.resolution.ofJsonStream fields.toCompactText = .error (.duplicateField "deny_list") := by
  intro pods nodes scopes fields
  have parsed : ∀ json : Json, JsonParser.document json.toCompactText = (json.toNode, some []) := by
    intro json
    have := JsonParser.document_write_append JsonParser.blankLayout_compact json []
    rwa [List.append_nil] at this
  obtain ⟨decodes, -, rejects⟩ := repeated_keys
  constructor
  · let resolution : Resolution := {
      denyList := [], allowList := [], pipelines := { cluster := some [nodes], namespaced := some [pods] } }
    have decoded : Reader.resolution.ofJsonText scopes.toCompactText = .ok resolution := by
      rw [Reader.ofJsonText, parsed]
      rfl
    have keeps := decodes _ _ _ _ _ resolution (parsed scopes) rfl (List.mem_cons_self ..) (.inr decoded)
    have cluster : [nodes] = resolution.pipelinesOf .cluster := Except.ok.inj (keeps.last .cluster _ rfl)
    have namespaced : [pods] = resolution.pipelinesOf .namespaced := Except.ok.inj (keeps.last .namespaced _ rfl)
    refine ⟨resolution, decoded, ?_⟩
    rw [keeps.toList_eq, ← cluster, ← namespaced]
    rfl
  · obtain ⟨-, error⟩ := rejects fields.toCompactText "deny_list" _ _ [] [] [] _ (by decide) (parsed fields)
    exact error ⟨_, rfl⟩

end Resolution

end PipelineSelection
