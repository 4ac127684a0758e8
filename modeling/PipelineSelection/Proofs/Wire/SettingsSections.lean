import PipelineSelection.Proofs.Document.Resetting
import PipelineSelection.Proofs.Wire.Exactness
import PipelineSelection.Proofs.Wire.RoundTrip

/-!
# Sections of settings default independently

Deleting keys from a settings file resets the fields at and under the deleted places and nothing else
(`Settings.reset`).  It makes no difference by which way a field comes to be missing: the default of a section is the
section of defaults.
-/

namespace PipelineSelection

variable {α : Type} {dialect : Dialect} {gone : Deletion}

/-! ### Resetting values -/

/-- A value at a place, or its default if the place is deleted. -/
def Deletion.valueAt (gone : Deletion) (place : List Step) (default value : α) : α :=
  if gone.covers place then default else value

/-- What an agent at a place says about itself, with deleted fields reset. -/
def Agent.reset (gone : Deletion) (place : List Step) (agent : Agent) : Agent where
  version := gone.valueAt (place ++ [.key "version"]) Agent.default.version agent.version

/-- The coordinates at a place, with deleted fields reset. -/
def Target.reset (gone : Deletion) (place : List Step) (target : Target) : Target where
  home := gone.valueAt (place ++ [.key "namespace"]) Target.default.home target.home
  name := gone.valueAt (place ++ [.key "name"]) Target.default.name target.name
  group := gone.valueAt (place ++ [.key "group"]) Target.default.group target.group
  version := gone.valueAt (place ++ [.key "version"]) Target.default.version target.version
  kind := gone.valueAt (place ++ [.key "resource"]) Target.default.kind target.kind

def EventDefaults.reset (gone : Deletion) (place : List Step) (defaults : EventDefaults) : EventDefaults where
  events := gone.valueAt (place ++ [.key "default"]) EventDefaults.default.events defaults.events

/-- An entry at a place, without events if they are deleted.  A resource has no default. -/
def AllowEntry.reset (gone : Deletion) (place : List Step) (entry : AllowEntry) : AllowEntry where
  resource := entry.resource
  events := gone.valueAt (place ++ [.key "events"]) [] entry.events

/-- The lists at a place, with deleted lists and the events of entries reset. -/
def Selection.reset (gone : Deletion) (place : List Step) (selection : Selection) : Selection where
  deny := gone.valueAt (place ++ [.key "deny"]) [] selection.deny
  allow := gone.valueAt (place ++ [.key "allow"]) [] <|
    selection.allow.mapIdx fun index entry => entry.reset gone (place ++ [.key "allow", .item index])

/-- Settings whose fields at and under deleted places are reset to their defaults. -/
def Settings.reset (gone : Deletion) (settings : Settings) : Settings where
  agent := settings.agent.reset gone [.key "agent"]
  resource := settings.resource.reset gone [.key "resource"]
  events := settings.events.reset gone [.key "events"]
  selection := settings.selection.reset gone [.key "selection"]

/-- Whether no entry of the allow-list loses its resource, unless it is deleted with the whole list. -/
def Settings.KeepsResources (gone : Deletion) (settings : Settings) : Prop :=
  gone.covers [.key "selection", .key "allow"] = false → ∀ index < settings.selection.allow.length,
    gone [.key "selection", .key "allow", .item index] "resource" = false

instance (gone : Deletion) (settings : Settings) : Decidable (settings.KeepsResources gone) :=
  inferInstanceAs (Decidable (_ → ∀ index < _, _))

namespace Deletion

variable {place : List Step} {name : String} {default value value' : α}

@[simp] theorem valueAt_nil : gone.valueAt [] default value = value := rfl

@[simp] theorem valueAt_key : gone.valueAt (.key name :: place) default value =
    if gone [] name then default else (gone.under (.key name)).valueAt place default value := by
  rw [valueAt, covers]
  cases gone [] name <;> rfl

@[simp] theorem valueAt_item {index : Nat} : gone.valueAt (.item index :: place) default value =
    (gone.under (.item index)).valueAt place default value := rfl

@[simp] theorem valueAt_self : gone.valueAt place value value = value := ite_self value

/-- A field that is deleted has its default, and any other one has what is left of it, if that is anything. -/
theorem default_or_iff {inside kept : Prop} (left : gone [] name = false → (inside ↔ kept ∧ value' = value)) :
    (if gone [] name then some default = some value' else inside) ↔
      (gone [] name = false → kept) ∧ value' = if gone [] name then default else value := by
  cases deleted : gone [] name with
  | false => simpa using left deleted
  | true =>
    simp only [if_true, Option.some.injEq, Bool.true_eq_false, false_implies, true_and]
    exact eq_comm

/-- A field that has no fields inside. -/
theorem field_iff : (if gone [] name then some default = some value' else value' = value) ↔
    value' = gone.valueAt [.key name] default value := by
  rw [valueAt_key, default_or_iff fun _ => (iff_of_eq (true_and _)).symm]
  simp

end Deletion

/-! Deleting the key of a section is deleting all of its fields. -/

section

variable {name : String}

theorem Agent.reset_key (agent : Agent) : agent.reset gone [.key name] =
    if gone [] name then .default else agent.reset (gone.under (.key name)) [] := by
  simp only [Agent.reset, List.cons_append, List.nil_append, Deletion.valueAt_key]
  cases gone [] name <;> rfl

theorem Target.reset_key (target : Target) : target.reset gone [.key name] =
    if gone [] name then .default else target.reset (gone.under (.key name)) [] := by
  simp only [Target.reset, List.cons_append, List.nil_append, Deletion.valueAt_key]
  cases gone [] name <;> rfl

theorem EventDefaults.reset_key (defaults : EventDefaults) : defaults.reset gone [.key name] =
    if gone [] name then .default else defaults.reset (gone.under (.key name)) [] := by
  simp only [EventDefaults.reset, List.cons_append, List.nil_append, Deletion.valueAt_key]
  cases gone [] name <;> rfl

theorem Selection.reset_key (selection : Selection) : selection.reset gone [.key name] =
    if gone [] name then .empty else selection.reset (gone.under (.key name)) [] := by
  simp only [Selection.reset, AllowEntry.reset, List.cons_append, List.nil_append, Deletion.valueAt_key,
    Deletion.valueAt_item]
  cases gone [] name <;> rfl

end

/-! ### Sections -/

namespace Shape

theorem resets_texts {values values' : List String} : Shape.texts.Resets gone values values' ↔ values' = values :=
  stable_list (fun value _ => stable_text value) _ _

theorem resets_agent {agent agent' : Agent} : Shape.agent.Resets gone agent agent' ↔ agent' = agent.reset gone [] := by
  constructor
  · rintro ⟨⟨_, _⟩, ⟨_, _⟩, rfl, rfl, version, -⟩
    exact congrArg _ (Deletion.field_iff.1 version)
  · rintro rfl
    exact ⟨(_, ()), (_, ()), rfl, rfl, Deletion.field_iff.2 rfl, trivial⟩

theorem resets_target {target target' : Target} :
    Shape.target.Resets gone target target' ↔ target' = target.reset gone [] := by
  constructor
  · rintro ⟨⟨_, _, _, _, _, _⟩, ⟨_, _, _, _, _, _⟩, rfl, rfl, home, name, group, version, kind, -⟩
    rw [Target.reset, Target.mk.injEq]
    exact ⟨Deletion.field_iff.1 home, Deletion.field_iff.1 name, Deletion.field_iff.1 group,
      Deletion.field_iff.1 version, Deletion.field_iff.1 kind⟩
  · rintro rfl
    exact ⟨(_, _, _, _, _, ()), (_, _, _, _, _, ()), rfl, rfl, Deletion.field_iff.2 rfl, Deletion.field_iff.2 rfl,
      Deletion.field_iff.2 rfl, Deletion.field_iff.2 rfl, Deletion.field_iff.2 rfl, trivial⟩

/-- A list of texts is a field that has no fields inside. -/
private theorem texts_iff {name : String} {default values values' : List String} :
    (if gone [] name then some default = some values' else
      Shape.texts.Resets (gone.under (.key name)) values values') ↔
        values' = gone.valueAt [.key name] default values := by
  rw [resets_texts, Deletion.field_iff]

theorem resets_eventDefaults {defaults defaults' : EventDefaults} :
    Shape.eventDefaults.Resets gone defaults defaults' ↔ defaults' = defaults.reset gone [] := by
  constructor
  · rintro ⟨⟨_, _⟩, ⟨_, _⟩, rfl, rfl, events, -⟩
    exact congrArg _ (texts_iff.1 events)
  · rintro rfl
    exact ⟨(_, ()), (_, ()), rfl, rfl, texts_iff.2 rfl, trivial⟩

/-- An entry whose resource is deleted is nothing. -/
theorem resets_allowEntry {entry entry' : AllowEntry} :
    Shape.allowEntry.Resets gone entry entry' ↔ gone [] "resource" = false ∧ entry' = entry.reset gone [] := by
  constructor
  · rintro ⟨⟨resource, _, _⟩, ⟨resource', _, _⟩, rfl, rfl, kept, events, -⟩
    have kept : gone [] "resource" = false ∧ resource' = resource := by
      cases deleted : gone [] "resource" with
      | false =>
        rw [deleted] at kept
        exact ⟨rfl, kept⟩
      | true =>
        rw [deleted] at kept
        cases kept
    rw [AllowEntry.reset, AllowEntry.mk.injEq]
    exact ⟨kept.1, kept.2, texts_iff.1 events⟩
  · rintro ⟨kept, rfl⟩
    have same : if gone [] "resource" = true then none = some entry.resource else entry.resource = entry.resource := by
      rw [if_neg (by simp [kept])]
    exact ⟨(_, _, ()), (_, _, ()), rfl, rfl, same, texts_iff.2 rfl, trivial⟩

private theorem resets_entries {entries entries' : List AllowEntry} :
    (Shape.list .allowEntry).Resets gone entries entries' ↔
      (∀ index < entries.length, gone [.item index] "resource" = false) ∧
        entries' = entries.mapIdx fun index entry => entry.reset gone [.item index] := by
  have each : ∀ index : Nat, Option.Rel (Shape.allowEntry.Resets (gone.under (.item index))) entries[index]?
      entries'[index]? ↔ (index < entries.length → gone [.item index] "resource" = false) ∧
        entries'[index]? = (entries.mapIdx fun index entry => entry.reset gone [.item index])[index]? := by
    intro index
    rw [List.getElem?_mapIdx]
    generalize entries'[index]? = slot
    cases found : entries[index]? with
    | none =>
      have short : ¬ index < entries.length := Nat.not_lt.2 (List.getElem?_eq_none_iff.1 found)
      cases slot <;> simp [short]
    | some entry =>
      obtain ⟨less, -⟩ := List.getElem?_eq_some_iff.1 found
      cases slot with
      | none => simp
      | some entry' =>
        rw [Option.rel_some_some, resets_allowEntry, Option.map_some, Option.some.injEq, imp_iff_right less]
        rfl
  rw [List.ext_getElem?_iff, ← forall_and]
  exact forall_congr' each

/-- The resources of the entries have to be kept unless the entries are deleted as a whole. -/
theorem resets_selection {selection selection' : Selection} :
    Shape.selection.Resets gone selection selection' ↔
      (gone [] "allow" = false → ∀ index < selection.allow.length,
        gone [.key "allow", .item index] "resource" = false) ∧ selection' = selection.reset gone [] := by
  have allow : ∀ allow allow', (if gone [] "allow" then some [] = some allow' else
      (Shape.list .allowEntry).Resets (gone.under (.key "allow")) allow allow') ↔
        (gone [] "allow" = false → ∀ index < allow.length, gone [.key "allow", .item index] "resource" = false) ∧
          allow' = gone.valueAt [.key "allow"] [] (allow.mapIdx fun index entry =>
            entry.reset gone [.key "allow", .item index]) := by
    intro allow allow'
    rw [Deletion.valueAt_key]
    refine Deletion.default_or_iff fun deleted => ?_
    have inside : ∀ index (entry : AllowEntry), entry.reset gone [.key "allow", .item index] =
        entry.reset (gone.under (.key "allow")) [.item index] := by simp [AllowEntry.reset, deleted]
    simp only [inside]
    exact resets_entries
  constructor
  · rintro ⟨⟨_, _, _⟩, ⟨_, _, _⟩, rfl, rfl, deny, entries, -⟩
    obtain ⟨kept, entries⟩ := (allow _ _).1 entries
    rw [Selection.reset, Selection.mk.injEq]
    exact ⟨kept, texts_iff.1 deny, entries⟩
  · rintro ⟨kept, rfl⟩
    exact ⟨(_, _, ()), (_, _, ()), rfl, rfl, texts_iff.2 rfl, (allow _ _).2 ⟨kept, rfl⟩, trivial⟩

/-- A section that is deleted as a whole has the defaults of its fields. -/
private theorem section_iff {shape : Shape α} {reset : Deletion → List Step → α → α} {default value value' : α}
    {name : String} (inside : ∀ gone value', shape.Resets gone value value' ↔ value' = reset gone [] value)
    (whole : reset gone [.key name] value =
      if gone [] name then default else reset (gone.under (.key name)) [] value) :
    (if gone [] name then some default = some value' else shape.Resets (gone.under (.key name)) value value') ↔
      value' = reset gone [.key name] value := by
  rw [whole, Deletion.default_or_iff fun _ => (inside _ value').trans (iff_of_eq (true_and _)).symm]
  simp

/-- The resources of the entries have to be kept unless the section is deleted as a whole. -/
private theorem selection_iff {selection selection' : Selection} :
    (if gone [] "selection" then some Selection.empty = some selection' else
      Shape.selection.Resets (gone.under (.key "selection")) selection selection') ↔
        (gone.covers [.key "selection", .key "allow"] = false → ∀ index < selection.allow.length,
          gone [.key "selection", .key "allow", .item index] "resource" = false) ∧
        selection' = selection.reset gone [.key "selection"] := by
  have covered : gone.covers [.key "selection", .key "allow"] = false ↔
      gone [] "selection" = false ∧ gone [.key "selection"] "allow" = false := by
    simp [Deletion.covers, Deletion.under]
  rw [Selection.reset_key, Deletion.default_or_iff fun _ => resets_selection, covered, and_imp]
  rfl

theorem resets_settings {settings settings' : Settings} :
    Shape.settings.Resets gone settings settings' ↔
      settings.KeepsResources gone ∧ settings' = settings.reset gone := by
  have agent : ∀ agent agent', _ ↔ agent' = Agent.reset gone [.key "agent"] agent := fun agent agent' =>
    section_iff (fun _ _ => resets_agent) agent.reset_key
  have resource : ∀ target target', _ ↔ target' = Target.reset gone [.key "resource"] target := fun target target' =>
    section_iff (fun _ _ => resets_target) target.reset_key
  have events : ∀ defaults defaults', _ ↔ defaults' = EventDefaults.reset gone [.key "events"] defaults :=
    fun defaults defaults' => section_iff (fun _ _ => resets_eventDefaults) defaults.reset_key
  constructor
  · rintro ⟨⟨_, _, _, _, _⟩, ⟨_, _, _, _, _⟩, rfl, rfl, one, two, three, four, -⟩
    obtain ⟨kept, four⟩ := selection_iff.1 four
    rw [Settings.reset, Settings.mk.injEq]
    exact ⟨kept, (agent _ _).1 one, (resource _ _).1 two, (events _ _).1 three, four⟩
  · rintro ⟨kept, rfl⟩
    exact ⟨(_, _, _, _, ()), (_, _, _, _, ()), rfl, rfl, (agent _ _).2 rfl, (resource _ _).2 rfl, (events _ _).2 rfl,
      selection_iff.2 ⟨kept, rfl⟩, trivial⟩

/-! The defaults of the sections are made of the defaults of their fields, so no deletion changes them. -/

theorem stable_agent : Shape.agent.Stable Agent.default := by
  intro gone agent
  rw [resets_agent]
  simp [Agent.reset]

theorem stable_target : Shape.target.Stable Target.default := by
  intro gone target
  rw [resets_target]
  simp [Target.reset]

theorem stable_eventDefaults : Shape.eventDefaults.Stable EventDefaults.default := by
  intro gone defaults
  rw [resets_eventDefaults]
  simp [EventDefaults.reset]

theorem stable_selection : Shape.selection.Stable Selection.empty := by
  intro gone selection
  rw [resets_selection]
  simp [Selection.reset, Selection.empty]

/-! ### Readers -/

namespace Resettable

theorem texts : Shape.texts.Resettable dialect Reader.texts := text.list

/-- Texts have no fields, so a default that is a list of them has none either. -/
private theorem stable_texts (values : List String) : Shape.texts.Stable values := fun _ _ => resets_texts

theorem allowEntry : Shape.allowEntry.Resettable dialect Reader.allowEntry :=
  record (.cons text (by simp) <| .cons texts (by simp [stable_texts]) .nil) _
    ⟨by rintro ⟨_, _, ⟨⟩⟩ ⟨_, _, ⟨⟩⟩ ⟨⟩; rfl, fun entry => ⟨(entry.resource, entry.events, ()), rfl⟩⟩

theorem selection : Shape.selection.Resettable dialect Reader.selection := by
  have stable : (Shape.list Shape.allowEntry).Stable [] := stable_list (by simp)
  exact record (.cons texts (by simp [stable_texts]) <| .cons allowEntry.list (by simp [stable]) .nil) _
    ⟨by rintro ⟨_, _, ⟨⟩⟩ ⟨_, _, ⟨⟩⟩ ⟨⟩; rfl, fun selection => ⟨(selection.deny, selection.allow, ()), rfl⟩⟩

theorem target : Shape.target.Resettable dialect Reader.target :=
  record (.cons text (by simp [stable_text]) <| .cons text (by simp [stable_text]) <|
      .cons text (by simp [stable_text]) <| .cons text (by simp [stable_text]) <|
      .cons text (by simp [stable_text]) .nil) _
    ⟨by rintro ⟨_, _, _, _, _, ⟨⟩⟩ ⟨_, _, _, _, _, ⟨⟩⟩ ⟨⟩; rfl,
      fun target => ⟨(target.home, target.name, target.group, target.version, target.kind, ()), rfl⟩⟩

theorem agent : Shape.agent.Resettable dialect Reader.agent :=
  record (.cons text (by simp [stable_text]) .nil) _
    ⟨by rintro ⟨_, ⟨⟩⟩ ⟨_, ⟨⟩⟩ ⟨⟩; rfl, fun agent => ⟨(agent.version, ()), rfl⟩⟩

theorem eventDefaults : Shape.eventDefaults.Resettable dialect Reader.eventDefaults :=
  record (.cons texts (by simp [stable_texts]) .nil) _
    ⟨by rintro ⟨_, ⟨⟩⟩ ⟨_, ⟨⟩⟩ ⟨⟩; rfl, fun defaults => ⟨(defaults.events, ()), rfl⟩⟩

theorem settings : Shape.settings.Resettable dialect Reader.settings :=
  record (.cons agent (by rintro _ ⟨⟩; exact stable_agent) <| .cons target (by rintro _ ⟨⟩; exact stable_target) <|
      .cons eventDefaults (by rintro _ ⟨⟩; exact stable_eventDefaults) <|
      .cons selection (by rintro _ ⟨⟩; exact stable_selection) .nil) _
    ⟨by rintro ⟨_, _, _, _, ⟨⟩⟩ ⟨_, _, _, _, ⟨⟩⟩ ⟨⟩; rfl,
      fun settings => ⟨(settings.agent, settings.resource, settings.events, settings.selection, ()), rfl⟩⟩

end Resettable

end Shape

/-! ### Settings -/

theorem inverts_agent : Inverts Reader.agent Agent.toJson := fun _ _ =>
  Reader.record_of_writes (.given rfl .nil) (by decide)

theorem inverts_target : Inverts Reader.target Target.toJson := fun _ _ =>
  Reader.record_of_writes (.given rfl <| .given rfl <| .given rfl <| .given rfl <| .given rfl .nil) (by decide)

theorem inverts_eventDefaults : Inverts Reader.eventDefaults EventDefaults.toJson := fun dialect defaults =>
  Reader.record_of_writes (.given (inverts_texts dialect defaults.events) .nil) (by decide)

theorem inverts_settings : Inverts Reader.settings Settings.toJson := fun dialect settings =>
  Reader.record_of_writes (.given (inverts_agent dialect settings.agent) <|
    .given (inverts_target dialect settings.resource) <| .given (inverts_eventDefaults dialect settings.events) <|
    .given (inverts_selection dialect settings.selection) .nil) (by decide)

namespace Settings

theorem parse_ok_iff {text : String} {settings : Settings} : parse text = .ok settings ↔
    ∃ document, Toml.document? text = some document ∧ Reader.settings .toml document = .ok settings := by
  rw [parse, Reader.ofToml]
  cases Toml.document? text with
  | none => simp [Except.mapError]
  | some document =>
    simp only [Option.some.injEq, exists_eq_left']
    cases Reader.settings .toml document <;> simp [Except.mapError]

/-- A tree that is read as settings after a deletion, or not at all if an entry has lost its resource. -/
structure ResetIn (gone : Deletion) (settings : Settings) (left : Node) : Prop where
  read_iff : ∀ settings', Reader.settings .toml left = .ok settings' ↔
    settings.KeepsResources gone ∧ settings' = settings.reset gone
  parse_iff : ∀ text, Toml.document? text = some left → ∀ settings', parse text = .ok settings' ↔
    settings.KeepsResources gone ∧ settings' = settings.reset gone

theorem resetIn_of_remains {settings : Settings} {document left : Node}
    (read : Reader.settings .toml document = .ok settings) (remains : Shape.settings.Remains gone document left) :
    settings.ResetIn gone left := by
  have resets : ∀ settings', Reader.settings .toml left = .ok settings' ↔
      settings.KeepsResources gone ∧ settings' = settings.reset gone := by
    intro settings'
    rw [Shape.Resettable.settings.reads gone document left remains settings read, Shape.resets_settings]
  refine ⟨resets, fun text found settings' => ?_⟩
  rw [parse_ok_iff, found, ← resets]
  simp

/-- What deletions leave of a settings file is still read, unless the resource of an entry has been deleted, and all
that changes is that the deleted fields take their defaults; it does not matter whether sections or their keys have been
deleted, in which order the keys come and which keys of no field stand among them.  What is written for settings is
read as the same settings. -/
theorem sections_independent :
    (∀ text settings, parse text = .ok settings → ∃ document, Toml.document? text = some document ∧
      (Shape.settings.InTables document → ∀ gone, settings.ResetIn gone (document.without gone)) ∧
      ∀ gone left, Shape.settings.Remains gone document left → settings.ResetIn gone left) ∧
    Inverts Reader.settings toJson ∧ Lossless Reader.settings toJson := by
  refine ⟨?_, inverts_settings, inverts_settings.lossless⟩
  intro text settings parsed
  obtain ⟨document, found, read⟩ := parse_ok_iff.1 parsed
  refine ⟨document, found, fun tables gone => ?_, fun gone left remains => resetIn_of_remains read remains⟩
  exact resetIn_of_remains read (Shape.Resettable.settings.without gone document settings read tables)

/-- The version and the events of the entry are deleted, and what is left comes in another order with an unknown key;
without its resource the entry cannot be read. -/
theorem sections_independent_sample :
    let text := "[agent]\nversion=\"v2\"\n[[selection.allow]]\nresource=\"pods\"\nevents=[\"ADDED\"]"
    let left := "[[selection.allow]]\nnote=[]\nresource=\"pods\"\n[agent]"
    let entry : List Step := [.key "selection", .key "allow", .item 0]
    (∃ settings, parse text = .ok settings ∧ settings.agent.version = "v2" ∧
      parse left = .ok { Settings.default with selection := .ofAllow [{ resource := "pods", events := [] }] }) ∧
      ∃ document, Toml.document? text = some document ∧ ∀ settings,
        Reader.settings .toml (document.without fun place name => place == entry && name == "resource") ≠ .ok settings := by
  intro text left entry
  have whole : Toml.document? text = some (.table [(some "agent", .table [(some "version", .text "v2")]),
      (some "selection", .table [(some "allow", .sequence [
        .table [(some "resource", .text "pods"), (some "events", .sequence [.text "ADDED"])]])])]) := by decide +kernel
  have remaining : Toml.document? left = some (.table [(some "selection", .table [(some "allow", .sequence [
      .table [(some "note", .sequence []), (some "resource", .text "pods")]])]), (some "agent", .table [])]) := by decide +kernel
  let settings : Settings := { Settings.default with
    agent := { version := "v2" }, selection := .ofAllow [{ resource := "pods", events := ["ADDED"] }] }
  have parsed : parse text = .ok settings := parse_ok_iff.2 ⟨_, whole, rfl⟩
  obtain ⟨document, found, deleted, reordered⟩ := sections_independent.1 text settings parsed
  cases whole.symm.trans found
  constructor
  · let gone : Deletion := fun place name =>
      place == [.key "agent"] && name == "version" || place == entry && name == "events"
    refine ⟨settings, parsed, rfl, ((reordered gone _ ?_).parse_iff left remaining _).2 ⟨by decide, by decide⟩⟩
    refine .inr ⟨_, _, rfl, rfl, by simp, ⟨some _, some _, ⟨_, rfl, rfl⟩, ⟨_, rfl, rfl⟩, .some ?_⟩,
      ⟨none, none, rfl, rfl, .none⟩, ⟨none, none, rfl, rfl, .none⟩,
      ⟨some _, some _, ⟨_, rfl, rfl⟩, ⟨_, rfl, rfl⟩, .some ?_⟩, trivial⟩
    · exact .inr ⟨_, _, rfl, rfl, by simp, ⟨some _, none, ⟨_, rfl, rfl⟩, rfl, rfl⟩, trivial⟩
    · refine .inr ⟨_, _, rfl, rfl, by simp, ⟨none, none, rfl, rfl, .none⟩,
        ⟨some _, some _, ⟨_, rfl, rfl⟩, ⟨_, rfl, rfl⟩, .some ⟨_, _, rfl, rfl, ?_⟩⟩, trivial⟩
      rintro (_ | index)
      · exact .some <| .inr ⟨_, _, rfl, rfl, by simp [Node.intact, Node.intactItems],
          ⟨some _, some _, ⟨_, rfl, rfl⟩, ⟨_, rfl, rfl⟩, .some rfl⟩, ⟨some _, none, ⟨_, rfl, rfl⟩, rfl, rfl⟩, trivial⟩
      · exact .none
  · have deleted := deleted (by
      simp [Shape.settings, Shape.agent, Shape.selection, Shape.allowEntry, Shape.texts, Shape.InTables,
        FieldShapes.InTables])
    refine ⟨_, whole, fun settings' read => ?_⟩
    obtain ⟨kept, -⟩ := ((deleted _).read_iff settings').1 read
    exact absurd (kept rfl 0 (by decide)) (by decide)

end Settings

end PipelineSelection
