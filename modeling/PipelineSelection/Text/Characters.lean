/-!
# Characters

What characters are taken for: sets of them as the Unicode character database lists them, whitespace as one of these
sets, the digits of hexadecimal numbers and the characters that such numbers stand for, and the bytes of their UTF-8
encoding.
-/

namespace PipelineSelection

/-! ### Sets of code points -/

/-- Ranges of code points, both ends included, in increasing order and apart from each other. -/
abbrev CodePoints := List (Nat × Nat)

/-- Whether a character lies in one of the ranges. -/
def CodePoints.has (ranges : CodePoints) (c : Char) : Bool :=
  ranges.any fun (first, last) => first ≤ c.toNat && c.toNat ≤ last

/-- The code points of the whitespace characters: spaces, tabs and line breaks. -/
def whitespaceRanges : CodePoints :=
  [(0x9, 0xD), (0x20, 0x20), (0x85, 0x85), (0xA0, 0xA0), (0x1680, 0x1680), (0x2000, 0x200A), (0x2028, 0x2029),
   (0x202F, 0x202F), (0x205F, 0x205F), (0x3000, 0x3000)]

def isWhitespace (c : Char) : Bool := whitespaceRanges.has c

/-- The characters without the whitespace at both ends. -/
def trimWhitespace (cs : List Char) : List Char :=
  ((cs.dropWhile isWhitespace).reverse.dropWhile isWhitespace).reverse

/-! ### Hexadecimal digits -/

def hexDigit? (c : Char) : Option Nat :=
  if '0' ≤ c ∧ c ≤ '9' then some (c.toNat - '0'.toNat)
  else if 'a' ≤ c ∧ c ≤ 'f' then some (c.toNat - 'a'.toNat + 10)
  else if 'A' ≤ c ∧ c ≤ 'F' then some (c.toNat - 'A'.toNat + 10)
  else none

/-- The number that digits spell; no digits spell zero. -/
def hexNumber? (cs : List Char) : Option Nat :=
  cs.foldlM (fun n c => do return 16 * n + (← hexDigit? c)) 0

/-- The character with a code point, which surrogates and numbers beyond the last code point have not. -/
def charOf? (n : Nat) : Option Char :=
  if n.isValidChar then some (Char.ofNat n) else none

/-! ### Bytes -/

/-- The UTF-8 encoding of characters, one after the other. -/
def utf8Of (cs : List Char) : List UInt8 :=
  cs.flatMap String.utf8EncodeChar

@[simp] theorem utf8Of_nil : utf8Of [] = [] := rfl

@[simp] theorem utf8Of_append (cs ds : List Char) : utf8Of (cs ++ ds) = utf8Of cs ++ utf8Of ds :=
  List.flatMap_append

/-- No two texts are encoded alike. -/
theorem utf8Of_inj {cs ds : List Char} (h : utf8Of cs = utf8Of ds) : cs = ds := by
  have encoded : cs.utf8Encode = ds.utf8Encode := congrArg List.toByteArray h
  rw [← String.toByteArray_ofList, ← String.toByteArray_ofList] at encoded
  exact String.ofList_injective (String.toByteArray_inj.1 encoded)

/-- What is read from the encoding of a text is the text. -/
theorem fromUTF8?_toUTF8 (s : String) : String.fromUTF8? s.toUTF8 = some s := by
  rw [String.fromUTF8?, String.toUTF8_eq_toByteArray, dif_pos s.isValidUTF8]
  rfl

end PipelineSelection
