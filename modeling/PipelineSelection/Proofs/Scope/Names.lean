import PipelineSelection.Proofs.Text.LowerCase
import PipelineSelection.Proofs.Wire.Exactness

/-!
# Names of scopes

A user may write the name of a scope in letters of either case, a document has to hold it as it is.  The letters of the
names are plain, so a text that is a name in lower case is the name up to the case of its letters, and nothing else
becomes a name (`Scope.parse_eq_ok_iff`).  What a document holds for a scope is the name alone, or as the only key of a
table with nothing for it (`Reader.scope_ok_iff`).  The main result is `Scope.names_exact`.
-/

namespace PipelineSelection

namespace Scope

/-! ### Names given by a user -/

variable {given lowered : String} {scope : Scope}

theorem plainLetter_of_mem_name (scope : Scope) : ∀ d ∈ scope.name.toList, PlainLetter d := by
  cases scope <;> simp [name, PlainLetter]

/-- Every lower-case form of a text tells whether the text is a name. -/
theorem ofName?_eq_some_iff_of_lowerForm (form : LowerForm given.toList lowered.toList) :
    ofName? lowered = some scope ↔ SameButCase given scope.name := by
  rw [ofName?_eq_some, sameButCase_iff, ← form.eq_iff scope.plainLetter_of_mem_name, String.toList_inj]

theorem ofName?_eq_of_lowerForm (form : LowerForm given.toList lowered.toList) :
    ofName? lowered = ofName? (lowerCase given) := by
  refine Option.ext fun scope => ?_
  rw [ofName?_eq_some_iff_of_lowerForm form, ofName?_eq_some_iff_of_lowerForm (lowerForm_lowerCase given)]

theorem parse_eq_ok_iff : parse given = .ok scope ↔ SameButCase given scope.name := by
  rw [← ofName?_eq_some_iff_of_lowerForm (lowerForm_lowerCase given), parse]
  cases ofName? (lowerCase given) <;> simp

theorem parse_eq_error_iff {error : InvalidScope} :
    parse given = .error error ↔ (∀ scope : Scope, ¬ SameButCase given scope.name) ∧ error = { given } := by
  simp only [← parse_eq_ok_iff]
  rw [parse]
  cases ofName? (lowerCase given) <;> simp [eq_comm]

/-- A text with anything but letters of ASCII is no name: no blank is overlooked, and no other letter is accepted. -/
theorem parse_of_not_isAlpha (foreign : ∃ c ∈ given.toList, c.isAlpha = false) : parse given = .error { given } := by
  obtain ⟨c, mem, foreign⟩ := foreign
  refine parse_eq_error_iff.2 ⟨fun scope same => ?_, rfl⟩
  have letter := same.isAlpha scope.plainLetter_of_mem_name c mem
  rw [foreign] at letter
  cases letter

theorem parse_name (scope : Scope) : parse scope.name = .ok scope :=
  parse_eq_ok_iff.2 (SameButCase.refl _)

end Scope

/-! ### Names in documents -/

/-- A scope in a document is its exact name, alone or as the only key of a table with nothing for it. -/
theorem Reader.scope_ok_iff {dialect : Dialect} {node : Node} {scope : Scope} :
    Reader.scope dialect node = .ok scope ↔ node = .text scope.name ∨ node = .table [(some scope.name, .null)] := by
  cases node with
  | text given =>
    rw [Reader.scope, scopeName_ok_iff]
    simp
  | table members =>
    rcases members with _ | ⟨⟨_ | given, value⟩, rest⟩
    · simp [Reader.scope]
    · simp [Reader.scope]
    · rw [Reader.scope, bind_ok_iff]
      simp only [scopeName_ok_iff]
      cases value <;> cases rest <;> simp [pure, Except.pure, eq_comm]
  | _ => simp [Reader.scope]

/-- The nodes that are read as a scope have no part that could break the grammar. -/
private theorem intact_of_scope_ok {dialect : Dialect} {node : Node} {scope : Scope}
    (read : Reader.scope dialect node = .ok scope) : node.intact = true := by
  rcases Reader.scope_ok_iff.1 read with rfl | rfl <;> rfl

/-- The two ways of reading a text accept the same texts as scopes. -/
theorem Reader.scope_ofJsonText_ok_iff {text : String} {scope : Scope} :
    Reader.scope.ofJsonText text = .ok scope ↔ Reader.scope.ofJsonStream text = .ok scope := by
  rw [ofJsonText_ok_iff, ofJsonStream_ok_iff]
  exact and_iff_right_of_imp fun ⟨_, read⟩ => intact_of_scope_ok read

/-- The names of scopes are told from all other texts. -/
structure Scope.NamesExact : Prop where
  /-- A user gives the name in letters of either case. -/
  parse_ok_iff : ∀ given scope, parse given = .ok scope ↔ SameButCase given scope.name
  /-- Of every other text the error has all characters. -/
  parse_error_iff : ∀ given error, parse given = .error error ↔
    (∀ scope : Scope, ¬ SameButCase given scope.name) ∧ error = { given }
  parse_foreign : ∀ given : String, (∃ c ∈ given.toList, c.isAlpha = false) → parse given = .error { given }
  /-- It makes no difference which form a sigma takes at the end of a word. -/
  ofName?_lowered : ∀ given lowered : String, LowerForm given.toList lowered.toList →
    ofName? lowered = ofName? (lowerCase given)
  parse_name : ∀ scope, parse scope.name = .ok scope
  /-- In a document only the name itself stands for the scope, alone or as the only key of a table. -/
  read_iff : ∀ dialect node scope, Reader.scope dialect node = .ok scope ↔
    node = .text scope.name ∨ node = .table [(some scope.name, .null)]
  /-- A text that is read as a scope is parsed as the same scope. -/
  parse_of_read : ∀ dialect given scope, Reader.scope dialect (.text given) = .ok scope →
    given = scope.name ∧ parse given = .ok scope
  decode_iff : ∀ text given left scope, JsonParser.document text = (.text given, left) →
    (Reader.scope.ofJsonStream text = .ok scope ↔ JsonParser.atEnd left = true ∧ given = scope.name) ∧
    (Reader.scope.ofJsonText text = .ok scope ↔ JsonParser.atEnd left = true ∧ given = scope.name)

private theorem Reader.scope_text_ok_iff {dialect : Dialect} {given : String} {scope : Scope} :
    Reader.scope dialect (.text given) = .ok scope ↔ given = scope.name := by
  rw [Reader.scope_ok_iff]
  simp

/-- The names of scopes are told from all other texts.  A user gives the name in letters of either case, and of every
other text the error has all characters; in a document only the name itself stands for the scope. -/
theorem Scope.names_exact : NamesExact where
  parse_ok_iff _ _ := parse_eq_ok_iff
  parse_error_iff _ _ := parse_eq_error_iff
  parse_foreign _ := parse_of_not_isAlpha
  ofName?_lowered _ _ := ofName?_eq_of_lowerForm
  parse_name := parse_name
  read_iff _ _ _ := Reader.scope_ok_iff
  parse_of_read dialect given scope read := by
    have name := Reader.scope_text_ok_iff.1 read
    exact ⟨name, name ▸ parse_name scope⟩
  decode_iff text given left scope parsed := by
    rw [Reader.scope_ofJsonText_ok_iff, Reader.ofJsonStream_ok_iff, parsed, Reader.scope_text_ok_iff]
    exact ⟨Iff.rfl, Iff.rfl⟩

/-- Mixed case, a blank in front, a capital that is an `i` with a dot in lower case, and a sigma at the end of a word;
in documents, one letter is an escape. -/
theorem Scope.names_exact_sample :
    parse "gLoBaL" = .ok .cluster ∧ parse " local" = .error { given := " local" } ∧
      parse "\u0130local" = .error { given := "\u0130local" } ∧
      ofName? "\u03c2" = ofName? (lowerCase "\u03a3") ∧
      Reader.scope.ofJsonText "\"\\u006cocal\" " = .ok .namespaced ∧
      ∀ scope, Reader.scope.ofJsonText "\"Local\"" ≠ .ok scope := by
  have escaped : JsonParser.document "\"\\u006cocal\" " = (.text "local", some [' ']) := by rfl
  have capital : JsonParser.document "\"Local\"" = (.text "Local", some []) := by rfl
  refine ⟨(names_exact.parse_ok_iff _ _).2 (by decide), names_exact.parse_foreign _ ⟨' ', by decide, by decide⟩,
    names_exact.parse_foreign _ ⟨'\u0130', by decide, by decide⟩, names_exact.ofName?_lowered _ _ (.finalSigma .nil),
    ?_, fun scope read => ?_⟩
  · exact (names_exact.decode_iff _ _ _ _ escaped).2.2 ⟨rfl, rfl⟩
  · have name := ((names_exact.decode_iff _ _ _ _ capital).2.1 read).2
    cases scope <;> exact absurd name (by decide)

end PipelineSelection
