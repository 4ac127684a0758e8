import PipelineSelection.Json.Parser
import PipelineSelection.Proofs.Document.Respelling
import PipelineSelection.Proofs.Json.Reading

/-!
# Wire formats accept exactly their shapes

The shape of every type that has a wire format, with the names and defaults that are documented for its fields, and
the proof that its reader is exact (`ReadsExactly`): from JSON it accepts the trees that fit the shape and no others,
gives the value that the tree denotes, and does not depend on the spelling.
-/

namespace PipelineSelection

variable {α : Type}

/-! ### Shapes of the types -/

namespace Shape

/-- A list of texts. -/
def texts : Shape (List String) := .list .text

def allowEntry : Shape AllowEntry :=
  .record (.cons "resource" (by decide) .text none <| .cons "events" (by decide) texts (some []) .nil)
    fun (resource, events, _) => { resource, events }

def selection : Shape Selection :=
  .record (.cons "deny" (by decide) texts (some []) <| .cons "allow" (by decide) (.list allowEntry) (some []) .nil)
    fun (deny, allow, _) => { deny, allow }

def definition : Shape Definition :=
  .record (.cons "name" (by decide) .text none <| .cons "publish_to" (by decide) .text none <|
      .cons "default_events" (by decide) texts none .nil)
    fun (name, subject, events, _) => { name, subject, events }

def enabledPipeline : Shape EnabledPipeline :=
  .record (.cons "name" (by decide) .text none <| .cons "publish_to" (by decide) .text none <|
      .cons "events" (by decide) texts none .nil)
    fun (name, subject, events, _) => { name, subject, events }

def resolution : Shape Resolution :=
  .record (.cons "deny_list" (by decide) texts (some []) <|
      .cons "allow_list" (by decide) (.list allowEntry) (some []) <|
      .cons "pipelines" (by decide) (.byScope (.list enabledPipeline)) (some { cluster := none, namespaced := none })
        .nil)
    fun (denyList, allowList, pipelines, _) => { denyList, allowList, pipelines }

def target : Shape Target :=
  .record (.cons "namespace" (by decide) .text (some "meshery") <|
      .cons "name" (by decide) .text (some "meshery-meshsync") <|
      .cons "group" (by decide) .text (some "meshery.io") <| .cons "version" (by decide) .text (some "v1alpha1") <|
      .cons "resource" (by decide) .text (some "meshsyncs") .nil)
    fun (home, name, group, version, kind, _) => { home, name, group, version, kind }

def agent : Shape Agent :=
  .record (.cons "version" (by decide) .text (some "v0.1.0") .nil) fun (version, _) => { version }

def eventDefaults : Shape EventDefaults :=
  .record (.cons "default" (by decide) texts (some ["ADDED", "MODIFIED", "DELETED"]) .nil)
    fun (events, _) => { events }

def settings : Shape Settings :=
  .record (.cons "agent" (by decide) agent (some { version := "v0.1.0" }) <|
      .cons "resource" (by decide) target (some {
        home := "meshery", name := "meshery-meshsync", group := "meshery.io", version := "v1alpha1",
        kind := "meshsyncs" }) <|
      .cons "events" (by decide) eventDefaults (some { events := ["ADDED", "MODIFIED", "DELETED"] }) <|
      .cons "selection" (by decide) selection (some { deny := [], allow := [] }) .nil)
    fun (agent, resource, events, selection, _) => { agent, resource, events, selection }

end Shape

/-! ### Their readers -/

/-- The ways in which JSON is read. -/
def jsonDialects : List Dialect := [.jsonText, .jsonValue]

/-- A reader that accepts from JSON what fits a shape, and nothing else. -/
structure ReadsExactly (reader : Reader α) (shape : Shape α) : Prop where
  /-- Reading succeeds exactly for well-shaped trees. -/
  accepts : ∀ dialect ∈ jsonDialects, ∀ node, node.proper = true →
    ((∃ value, reader dialect node = .ok value) ↔ shape.Fits node)
  /-- The value that is read is made of the values and defaults of the fields. -/
  gives : ∀ dialect ∈ jsonDialects, ∀ node, node.proper = true → ∀ value,
    reader dialect node = .ok value ↔ shape.Denotes node value
  /-- A text is read as its tree is, if nothing but blanks follows the value. -/
  text : ∀ text node left, JsonParser.document text = (node, left) → node.proper = true → ∀ value,
    (reader.ofJsonStream text = .ok value ↔ JsonParser.atEnd left = true ∧ shape.Denotes node value) ∧
      (reader.ofJsonText text = .ok value ↔ JsonParser.atEnd left = true ∧ shape.Denotes node value)
  null : ¬ shape.Fits .null
  /-- The spelling makes no difference. -/
  respelled : ∀ dialect ∈ jsonDialects, ∀ first second, shape.Respelled first second → ∀ value,
    reader dialect first = .ok value ↔ reader dialect second = .ok value

theorem Shape.not_fits_null : {α : Type} → (shape : Shape α) → ¬ shape.Fits .null
  | _, .text => by simp [Shape.Fits]
  | _, .list _ => by simp [Shape.Fits]
  | _, .byScope _ => by simp [Shape.Fits]
  | _, .record _ _ => by simp [Shape.Fits, Node.membersFor?]

/-- A reader that reads a shape in both ways of reading JSON is exact. -/
theorem ReadsExactly.of_readBy {reader : Reader α} {shape : Shape α}
    (read : ∀ dialect ∈ jsonDialects, shape.ReadBy dialect reader) : ReadsExactly reader shape where
  accepts dialect json node proper := by
    rw [shape.fits_iff proper]
    exact exists_congr (read dialect json node proper)
  gives dialect json node proper := read dialect json node proper
  text := by
    intro text node left parsed proper value
    rw [← read .jsonText (by simp [jsonDialects]) node proper value, Reader.ofJsonStream_ok_iff,
      Reader.ofJsonText_ok_iff, parsed]
    exact ⟨Iff.rfl, and_iff_right (node.intact_of_proper proper)⟩
  null := shape.not_fits_null
  respelled dialect json _ _ same value := (read dialect json).respelled same value

private theorem surplus_ne_ignored {dialect : Dialect} (json : dialect ∈ jsonDialects) :
    dialect.surplus ≠ .ignored := by
  simp only [jsonDialects, List.mem_cons, List.not_mem_nil, or_false] at json
  rcases json with rfl | rfl <;> decide

namespace Shape.ReadBy

variable {dialect : Dialect}

theorem texts : Shape.texts.ReadBy dialect Reader.texts := text.list

variable (strict : dialect.surplus ≠ .ignored)

include strict

theorem allowEntry : Shape.allowEntry.ReadBy dialect Reader.allowEntry :=
  record (.cons text <| .cons texts .nil) strict _ _

theorem selection : Shape.selection.ReadBy dialect Reader.selection :=
  record (.cons texts <| .cons (allowEntry strict).list .nil) strict _ _

theorem definition : Shape.definition.ReadBy dialect Reader.definition :=
  record (.cons text <| .cons text <| .cons texts .nil) strict _ _

theorem enabledPipeline : Shape.enabledPipeline.ReadBy dialect Reader.enabledPipeline :=
  record (.cons text <| .cons text <| .cons texts .nil) strict _ _

theorem resolution : Shape.resolution.ReadBy dialect Reader.resolution :=
  record (.cons texts <| .cons (allowEntry strict).list <| .cons (enabledPipeline strict).list.byScope .nil) strict _ _

theorem target : Shape.target.ReadBy dialect Reader.target :=
  record (.cons text <| .cons text <| .cons text <| .cons text <| .cons text .nil) strict _ _

theorem agent : Shape.agent.ReadBy dialect Reader.agent :=
  record (.cons text .nil) strict _ _

theorem eventDefaults : Shape.eventDefaults.ReadBy dialect Reader.eventDefaults :=
  record (.cons texts .nil) strict _ _

theorem settings : Shape.settings.ReadBy dialect Reader.settings :=
  record (.cons (agent strict) <| .cons (target strict) <| .cons (eventDefaults strict) <|
    .cons (selection strict) .nil) strict _ _

end Shape.ReadBy

open Shape.ReadBy in
/-- Every type with a wire format is read from exactly the trees of its shape. -/
theorem wire_exact :
    ReadsExactly Reader.allowEntry .allowEntry ∧ ReadsExactly Reader.selection .selection ∧
      ReadsExactly Reader.definition .definition ∧ ReadsExactly Reader.enabledPipeline .enabledPipeline ∧
      ReadsExactly Reader.resolution .resolution ∧ ReadsExactly Reader.target .target ∧
      ReadsExactly Reader.agent .agent ∧ ReadsExactly Reader.eventDefaults .eventDefaults ∧
      ReadsExactly Reader.settings .settings := by
  have exact : ∀ {α : Type} {shape : Shape α} {reader : Reader α},
      (∀ {dialect : Dialect}, dialect.surplus ≠ .ignored → shape.ReadBy dialect reader) → ReadsExactly reader shape :=
    fun read => .of_readBy fun _ json => read (surplus_ne_ignored json)
  exact ⟨exact allowEntry, exact selection, exact definition, exact enabledPipeline, exact resolution, exact target,
    exact agent, exact eventDefaults, exact settings⟩

/-- Settings with an unknown key and with a section in declared order, of which only the first field is given; a
section that is null is not left out. -/
theorem wire_exact_sections :
    Shape.settings.Denotes (.table [(some "extra", .null), (some "resource", .sequence [.text "prod"])])
        { Settings.default with resource := { Target.default with home := "prod" } } ∧
      ¬ Shape.settings.Fits (.table [(some "resource", .null)]) := by
  obtain ⟨-, -, -, -, -, -, -, -, settings⟩ := wire_exact
  have json : Dialect.jsonText ∈ jsonDialects := by simp [jsonDialects]
  constructor
  · exact (settings.gives .jsonText json _ (by decide) _).1 rfl
  · rw [← settings.accepts .jsonText json _ (by decide)]
    rintro ⟨value, read⟩
    cases read

end PipelineSelection
