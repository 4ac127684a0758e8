import Mathlib.Data.List.DropRight
import PipelineSelection.Proofs.Json.Strings

/-!
# Written values are read back

Reading a value that was written in any layout of blanks gives the tree of the value and stops right behind it
(`value_write`).  What one call of the reader does is said once for each shape of a value; the induction over the
value then only counts characters: a text is at least half as long as the calls that it takes are deep.
-/

namespace PipelineSelection.JsonParser

open Json (quote Layout writeItems writeMembers toNodes toMembers)

/-! ### Blanks -/

/-- Nothing but blanks. -/
def AllBlank (cs : List Char) : Prop := ∀ c ∈ cs, isBlank c = true

/-- A layout that puts nothing but blanks between the tokens. -/
structure BlankLayout (layout : Layout) : Prop where
  before : ∀ level, AllBlank (layout.before level)
  colon : AllBlank layout.colon

theorem blankLayout_compact : BlankLayout .compact where
  before _ := by simp [AllBlank, Layout.compact]
  colon := by simp [AllBlank, Layout.compact]

theorem blankLayout_pretty : BlankLayout .pretty where
  before level := by
    intro c h
    simp only [Layout.pretty, List.mem_cons, List.mem_replicate] at h
    rcases h with rfl | ⟨-, rfl⟩ <;> rfl
  colon := by simp [AllBlank, Layout.pretty, isBlank]

theorem skipBlanks_append {blanks : List Char} (h : AllBlank blanks) (cs : List Char) :
    skipBlanks (blanks ++ cs) = skipBlanks cs := by
  induction blanks with
  | nil => rfl
  | cons c blanks ih =>
    rw [List.cons_append, skipBlanks, List.dropWhile_cons_of_pos (h c (by simp))]
    exact ih fun d mem => h d (by simp [mem])

theorem skipBlanks_cons {c : Char} (h : isBlank c = false) (cs : List Char) : skipBlanks (c :: cs) = c :: cs :=
  List.dropWhile_cons_of_neg (by simp [h])

/-- A token after blanks. -/
theorem skipBlanks_token {blanks : List Char} (h : AllBlank blanks) {c : Char} (token : isBlank c = false)
    (cs : List Char) : skipBlanks (blanks ++ c :: cs) = c :: cs := by
  rw [skipBlanks_append h, skipBlanks_cons token]

/-! ### One call of the reader -/

section

variable {fuel : Nat} {cs inner rest after more : List Char} {node : Node} {nodes : List Node} {s key : String}
  {tail : List (Option String × Node)} {left : Option (List Char)}

theorem value_string (start : skipBlanks cs = '\x22' :: inner) (read : string inner = some (some s, rest)) :
    value (fuel + 1) cs = (.text s, some rest) := by
  rw [value, start]
  simp only [read]

theorem value_emptyArray (start : skipBlanks cs = '[' :: inner) (stop : skipBlanks inner = ']' :: rest) :
    value (fuel + 1) cs = (.sequence [], some rest) := by
  rw [value, start]
  simp only [stop]

theorem value_emptyObject (start : skipBlanks cs = '{' :: inner) (stop : skipBlanks inner = '}' :: rest) :
    value (fuel + 1) cs = (.table [], some rest) := by
  rw [value, start]
  simp only [stop]

private theorem skipBlanks_skipBlanks (cs : List Char) : skipBlanks (skipBlanks cs) = skipBlanks cs :=
  List.dropWhile_idempotent ..

private theorem value_skipBlanks (fuel : Nat) (cs : List Char) : value fuel (skipBlanks cs) = value fuel cs := by
  cases fuel with
  | zero => rw [value, value]
  | succ fuel => rw [value, value, skipBlanks_skipBlanks]

private theorem items_skipBlanks (fuel : Nat) (cs : List Char) : items fuel (skipBlanks cs) = items fuel cs := by
  cases fuel with
  | zero => rw [items, items]
  | succ fuel => rw [items, items, value_skipBlanks]

private theorem members_skipBlanks (fuel : Nat) (cs : List Char) :
    members fuel (skipBlanks cs) = members fuel cs := by
  cases fuel with
  | zero => rw [members, members]
  | succ fuel => rw [members, members, skipBlanks_skipBlanks]

theorem value_array (start : skipBlanks cs = '[' :: inner) (more : ∀ rest, skipBlanks inner ≠ ']' :: rest)
    (read : items fuel inner = (nodes, left)) : value (fuel + 1) cs = (.sequence nodes, left) := by
  rw [← items_skipBlanks] at read
  rw [value, start]
  simp only [read]

theorem value_object (start : skipBlanks cs = '{' :: inner) (more : ∀ rest, skipBlanks inner ≠ '}' :: rest)
    (read : members fuel inner = (tail, left)) : value (fuel + 1) cs = (.table tail, left) := by
  rw [← members_skipBlanks] at read
  rw [value, start]
  simp only [read]

theorem items_last (read : value fuel cs = (node, some after)) (stop : skipBlanks after = ']' :: rest) :
    items (fuel + 1) cs = ([node], some rest) := by
  rw [items, read]
  simp only [stop]

theorem items_more (read : value fuel cs = (node, some after)) (comma : skipBlanks after = ',' :: more)
    (others : items fuel more = (nodes, left)) : items (fuel + 1) cs = (node :: nodes, left) := by
  rw [items, read]
  simp only [comma, others]

theorem members_last (start : skipBlanks cs = '\x22' :: inner) (name : string inner = some (some key, rest))
    (colon : skipBlanks rest = ':' :: more) (read : value fuel more = (node, some after))
    {behind : List Char} (stop : skipBlanks after = '}' :: behind) :
    members (fuel + 1) cs = ([(some key, node)], some behind) := by
  rw [members, start]
  simp only [name, colon, read, stop]

theorem members_more (start : skipBlanks cs = '\x22' :: inner) (name : string inner = some (some key, rest))
    (colon : skipBlanks rest = ':' :: more) (read : value fuel more = (node, some after))
    {behind : List Char} (comma : skipBlanks after = ',' :: behind) (others : members fuel behind = (tail, left)) :
    members (fuel + 1) cs = ((some key, node) :: tail, left) := by
  rw [members, start]
  simp only [name, colon, read, comma, others]

end

/-! ### All calls -/

/-- What a written value starts with: neither a blank nor a bracket that closes something. -/
private theorem head_write (layout : Layout) (level : Nat) (json : Json) : ∃ c cs,
    json.write layout level = c :: cs ∧ isBlank c = false ∧ c ≠ ']' := by
  cases json with
  | string s => exact ⟨'\x22', _, by rw [Json.write, quote], rfl, by decide⟩
  | array items => cases items <;> exact ⟨'[', _, by rw [Json.write], rfl, by decide⟩
  | object members => cases members <;> exact ⟨'{', _, by rw [Json.write], rfl, by decide⟩

private theorem writeItems_ne_close {layout : Layout} (blank : BlankLayout layout) (level : Nat) (item : Json)
    (items : List Json) (cs rest : List Char) :
    skipBlanks (writeItems layout level (item :: items) ++ cs) ≠ ']' :: rest := by
  obtain ⟨c, tail, written, notBlank, notClose⟩ := head_write layout level item
  cases items <;> rw [writeItems, written] <;>
    simp only [List.append_assoc, List.cons_append, skipBlanks_token (blank.before level) notBlank] <;>
    exact fun h => notClose (List.cons.inj h).1

private theorem writeMembers_ne_close {layout : Layout} (blank : BlankLayout layout) (level : Nat)
    (member : String × Json) (members : List (String × Json)) (cs rest : List Char) :
    skipBlanks (writeMembers layout level (member :: members) ++ cs) ≠ '}' :: rest := by
  have notBlank : isBlank '\x22' = false := rfl
  cases members <;> rw [writeMembers, quote] <;>
    simp only [List.append_assoc, List.cons_append, skipBlanks_token (blank.before level) notBlank] <;>
    exact fun h => absurd (List.cons.inj h).1 (by decide)

mutual

/-- A written value is read back, whatever blanks stand before it and whatever follows it. -/
theorem value_write {layout : Layout} (blank : BlankLayout layout) : ∀ (json : Json) (level fuel : Nat)
    (blanks rest : List Char), AllBlank blanks → 2 * (json.write layout level).length ≤ fuel →
      value fuel (blanks ++ (json.write layout level ++ rest)) = (json.toNode, some rest)
  | .string s, level, fuel + 1, blanks, rest, before, _ => by
    obtain ⟨inner, start, read⟩ := string_quote s rest
    rw [Json.write, start, Json.toNode]
    exact value_string (skipBlanks_token before (by decide) inner) read
  | .array [], level, fuel + 1, blanks, rest, before, _ => by
    rw [Json.write, Json.toNode, toNodes]
    exact value_emptyArray (skipBlanks_token before (by decide) _) (skipBlanks_cons (by decide) rest)
  | .object [], level, fuel + 1, blanks, rest, before, _ => by
    rw [Json.write, Json.toNode, toMembers]
    exact value_emptyObject (skipBlanks_token before (by decide) _) (skipBlanks_cons (by decide) rest)
  | .array (item :: items), level, fuel + 1, blanks, rest, before, enough => by
    rw [Json.write] at enough ⊢
    simp only [List.length_cons, List.length_append, List.length_nil] at enough
    simp only [List.cons_append, List.append_assoc, List.nil_append]
    rw [Json.toNode]
    have read := items_write blank (item :: items) (level + 1) fuel (layout.before level) rest (by simp)
      (blank.before level) (by omega)
    have start := skipBlanks_token before (c := '[') (by decide)
    exact value_array (start _) (writeItems_ne_close blank _ item items _) read
  | .object (member :: members), level, fuel + 1, blanks, rest, before, enough => by
    rw [Json.write] at enough ⊢
    simp only [List.length_cons, List.length_append, List.length_nil] at enough
    simp only [List.cons_append, List.append_assoc, List.nil_append]
    rw [Json.toNode]
    have read := members_write blank (member :: members) (level + 1) fuel (layout.before level) rest (by simp)
      (blank.before level) (by omega)
    have start := skipBlanks_token before (c := '{') (by decide)
    exact value_object (start _) (writeMembers_ne_close blank _ member members _) read
  | json, level, 0, blanks, rest, before, enough => by
    -- no value is written as nothing, so a call is left for it
    obtain ⟨c, cs, written, _⟩ := head_write layout level json
    rw [written, List.length_cons] at enough
    omega

/-- Written elements are read back up to the bracket that closes their array. -/
private theorem items_write {layout : Layout} (blank : BlankLayout layout) : ∀ (list : List Json) (level fuel : Nat)
    (blanks rest : List Char), list ≠ [] → AllBlank blanks → 2 * (writeItems layout level list).length + 1 ≤ fuel →
      items fuel (writeItems layout level list ++ (blanks ++ ']' :: rest)) = (toNodes list, some rest)
  | [item], level, fuel + 1, blanks, rest, _, after, enough => by
    rw [writeItems] at enough ⊢
    simp only [List.length_append] at enough
    simp only [List.append_assoc]
    have read := value_write blank item level fuel _ (blanks ++ ']' :: rest) (blank.before level) (by omega)
    exact items_last read (skipBlanks_token after (by decide) rest)
  | item :: next :: others, level, fuel + 1, blanks, rest, _, after, enough => by
    rw [writeItems] at enough ⊢
    simp only [List.length_append, List.length_cons] at enough
    simp only [List.append_assoc, List.cons_append]
    have read := value_write blank item level fuel _
      (',' :: (writeItems layout level (next :: others) ++ (blanks ++ ']' :: rest))) (blank.before level) (by omega)
    have tail := items_write blank (next :: others) level fuel blanks rest (by simp) after (by omega)
    exact items_more read (skipBlanks_cons (by decide) _) tail

/-- Written members are read back up to the brace that closes their object. -/
private theorem members_write {layout : Layout} (blank : BlankLayout layout) :
    ∀ (list : List (String × Json)) (level fuel : Nat) (blanks rest : List Char), list ≠ [] → AllBlank blanks →
      2 * (writeMembers layout level list).length + 1 ≤ fuel →
      members fuel (writeMembers layout level list ++ (blanks ++ '}' :: rest)) = (toMembers list, some rest)
  | [(key, json)], level, fuel + 1, blanks, rest, _, after, enough => by
    rw [writeMembers] at enough ⊢
    simp only [List.length_append, List.length_cons] at enough
    simp only [List.append_assoc, List.cons_append]
    obtain ⟨inner, start, name⟩ := string_quote key
      (':' :: (layout.colon ++ (json.write layout level ++ (blanks ++ '}' :: rest))))
    have read := value_write blank json level fuel _ (blanks ++ '}' :: rest) blank.colon (by omega)
    rw [start]
    exact members_last (skipBlanks_token (blank.before level) (by decide) inner) name
      (skipBlanks_cons (by decide) _) read (skipBlanks_token after (by decide) rest)
  | (key, json) :: next :: others, level, fuel + 1, blanks, rest, _, after, enough => by
    rw [writeMembers] at enough ⊢
    simp only [List.length_append, List.length_cons] at enough
    simp only [List.append_assoc, List.cons_append]
    obtain ⟨inner, start, name⟩ := string_quote key
      (':' :: (layout.colon ++ (json.write layout level ++
        ',' :: (writeMembers layout level (next :: others) ++ (blanks ++ '}' :: rest)))))
    have read := value_write blank json level fuel _
      (',' :: (writeMembers layout level (next :: others) ++ (blanks ++ '}' :: rest))) blank.colon (by omega)
    have tail := members_write blank (next :: others) level fuel blanks rest (by simp) after (by omega)
    rw [start]
    exact members_more (skipBlanks_token (blank.before level) (by decide) inner) name
      (skipBlanks_cons (by decide) _) read (skipBlanks_cons (by decide) _) tail

end

/-- The text of a value is read up to whatever follows it and gives the tree of the value. -/
theorem document_write_append {layout : Layout} (blank : BlankLayout layout) (json : Json) (rest : List Char) :
    document (String.ofList (json.write layout 0 ++ rest)) = (json.toNode, some rest) := by
  have enough : 2 * (json.write layout 0).length ≤ 2 * (json.write layout 0 ++ rest).length + 2 := by
    rw [List.length_append]
    omega
  have read := value_write blank json 0 _ [] rest (by simp [AllBlank]) enough
  rw [List.nil_append] at read
  rw [document, String.toList_ofList]
  exact read

end PipelineSelection.JsonParser

/-! ### Whole texts -/

namespace PipelineSelection.Reader

variable {α : Type} {reader : Reader α} {text : String} {value : α}

/-- A stream gives a value when its tree does and nothing but blanks is left. -/
theorem ofJsonStream_ok_iff : reader.ofJsonStream text = .ok value ↔
    JsonParser.atEnd (JsonParser.document text).2 = true ∧ reader .jsonText (JsonParser.document text).1 = .ok value := by
  show (reader .jsonText (JsonParser.document text).1).bind (fun value =>
    if JsonParser.atEnd (JsonParser.document text).2 then .ok value else .error .malformed) = _ ↔ _
  cases JsonParser.atEnd (JsonParser.document text).2 <;> cases reader .jsonText (JsonParser.document text).1 <;>
    simp [Except.bind]

/-- A whole text gives a value when its tree does, which has to be intact, and nothing but blanks is left. -/
theorem ofJsonText_ok_iff : reader.ofJsonText text = .ok value ↔
    (JsonParser.document text).1.intact = true ∧ JsonParser.atEnd (JsonParser.document text).2 = true ∧
      reader .jsonText (JsonParser.document text).1 = .ok value := by
  show (if (JsonParser.document text).1.intact && JsonParser.atEnd (JsonParser.document text).2 then
    reader .jsonText (JsonParser.document text).1 else .error .malformed) = _ ↔ _
  cases (JsonParser.document text).1.intact <;> cases JsonParser.atEnd (JsonParser.document text).2 <;> simp

end PipelineSelection.Reader
