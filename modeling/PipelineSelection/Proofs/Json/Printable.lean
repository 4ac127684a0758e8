import PipelineSelection.Proofs.Json.Strings

/-!
# Written values are printable

Inside a string every control character is written by an escape of printable characters (`printable_escaped`), and
the tokens around it are printable too.  So a control character of a written value comes from the blanks of its
layout (`mem_write`): on one line there is none, and with one element a line there are only line feeds.
-/

namespace PipelineSelection.Json

/-- A character that is no control character below the blank. -/
def Printable (c : Char) : Prop := 0x20 ≤ c.toNat

instance (c : Char) : Decidable (Printable c) := inferInstanceAs (Decidable (0x20 ≤ c.toNat))

/-- For a fixed text, looking at every character decides it. -/
theorem printable_of_all {cs : List Char} (all : cs.all (fun c => decide (Printable c)) = true) :
    ∀ c ∈ cs, Printable c := by
  simpa using all

/-! ### Strings -/

private theorem printable_hexDigit : ∀ n < 16, Printable (hexDigit n) := by
  decide

/-- The letter of an escape is printable. -/
private theorem printable_of_shortEscape {e c : Char} (h : JsonParser.shortEscape e = some c) : Printable e := by
  unfold JsonParser.shortEscape at h
  split at h
  case h_9 => cases h
  all_goals decide

/-- A character is written by printable ones, whatever it is itself. -/
theorem printable_escaped (c : Char) : ∀ d ∈ escaped c, Printable d := by
  have way := JsonParser.escapes_escaped c
  generalize escaped c = written at way ⊢
  intro d mem
  cases way with
  | short e _ denotes =>
    simp only [List.mem_cons, List.not_mem_nil, or_false] at mem
    rcases mem with rfl | rfl
    · decide
    · exact printable_of_shortEscape denotes
  | control control =>
    have high := printable_hexDigit (c.toNat / 16) (by omega)
    have low := printable_hexDigit (c.toNat % 16) (by omega)
    simp only [List.mem_cons, List.not_mem_nil, or_false] at mem
    rcases mem with rfl | rfl | rfl | rfl | rfl | rfl
    any_goals decide
    · exact high
    · exact low
  | plain _ _ visible =>
    rw [List.mem_singleton] at mem
    subst mem
    exact Nat.le_of_not_lt visible

theorem printable_quote (s : String) : ∀ c ∈ quote s, Printable c := by
  intro c mem
  simp only [quote, List.mem_cons, List.mem_append, List.mem_flatMap, List.not_mem_nil, or_false] at mem
  rcases mem with rfl | ⟨d, -, mem⟩ | rfl
  · decide
  · exact printable_escaped d c mem
  · decide

/-! ### Values -/

/-- A blank of a layout. -/
def Layout.Blank (layout : Layout) (c : Char) : Prop :=
  (∃ level, c ∈ layout.before level) ∨ c ∈ layout.colon

mutual

/-- The characters of a written value are printable, apart from the blanks of the layout. -/
theorem mem_write {layout : Layout} {c : Char} : ∀ (json : Json) (level : Nat), c ∈ json.write layout level →
    Printable c ∨ layout.Blank c
  | .string value, _, mem => by
    rw [write] at mem
    exact .inl (printable_quote value c mem)
  | .array [], _, mem | .object [], _, mem => by
    simp only [write, List.mem_cons, List.not_mem_nil, or_false] at mem
    rcases mem with rfl | rfl <;> exact .inl (by decide)
  | .array (item :: items), level, mem => by
    simp only [write, List.mem_cons, List.mem_append, List.not_mem_nil, or_false] at mem
    rcases mem with rfl | (mem | mem) | rfl
    · exact .inl (by decide)
    · exact mem_writeItems (item :: items) (level + 1) mem
    · exact .inr (.inl ⟨level, mem⟩)
    · exact .inl (by decide)
  | .object (member :: members), level, mem => by
    simp only [write, List.mem_cons, List.mem_append, List.not_mem_nil, or_false] at mem
    rcases mem with rfl | (mem | mem) | rfl
    · exact .inl (by decide)
    · exact mem_writeMembers (member :: members) (level + 1) mem
    · exact .inr (.inl ⟨level, mem⟩)
    · exact .inl (by decide)

private theorem mem_writeItems {layout : Layout} {c : Char} : ∀ (items : List Json) (level : Nat),
    c ∈ writeItems layout level items → Printable c ∨ layout.Blank c
  | [], _, mem => by
    rw [writeItems] at mem
    cases mem
  | [item], level, mem => by
    rw [writeItems, List.mem_append] at mem
    rcases mem with mem | mem
    · exact .inr (.inl ⟨level, mem⟩)
    · exact mem_write item level mem
  | item :: next :: rest, level, mem => by
    simp only [writeItems, List.mem_cons, List.mem_append] at mem
    rcases mem with (mem | mem) | rfl | mem
    · exact .inr (.inl ⟨level, mem⟩)
    · exact mem_write item level mem
    · exact .inl (by decide)
    · exact mem_writeItems (next :: rest) level mem

private theorem mem_writeMembers {layout : Layout} {c : Char} : ∀ (members : List (String × Json)) (level : Nat),
    c ∈ writeMembers layout level members → Printable c ∨ layout.Blank c
  | [], _, mem => by
    rw [writeMembers] at mem
    cases mem
  | [(key, value)], level, mem => by
    simp only [writeMembers, List.mem_cons, List.mem_append] at mem
    rcases mem with (mem | mem) | rfl | mem | mem
    · exact .inr (.inl ⟨level, mem⟩)
    · exact .inl (printable_quote key c mem)
    · exact .inl (by decide)
    · exact .inr (.inr mem)
    · exact mem_write value level mem
  | (key, value) :: next :: rest, level, mem => by
    simp only [writeMembers, List.mem_cons, List.mem_append] at mem
    rcases mem with (mem | mem) | rfl | (mem | mem) | rfl | mem
    · exact .inr (.inl ⟨level, mem⟩)
    · exact .inl (printable_quote key c mem)
    · exact .inl (by decide)
    · exact .inr (.inr mem)
    · exact mem_write value level mem
    · exact .inl (by decide)
    · exact mem_writeMembers (next :: rest) level mem

end

/-- On one line there is no control character. -/
theorem printable_compact (json : Json) : ∀ c ∈ json.compact, Printable c := by
  intro c mem
  rcases mem_write json 0 mem with printable | ⟨_, blank⟩ | blank
  · exact printable
  · cases blank
  · cases blank

end PipelineSelection.Json
