import PipelineSelection.Document.Node

/-!
# JSON numbers

A numeral as it is written and the number it denotes.  Integers of 64 bits, signed or unsigned, are exact.  Every
other numeral denotes a floating-point number: as many leading digits as an unsigned 64-bit integer holds, scaled
by a power of ten in at most a few rounded steps.  A numeral whose number is too large for the format denotes none.
-/

namespace PipelineSelection

/-- A JSON numeral; fraction and exponent are empty when they are not written. -/
structure Numeral where
  negative : Bool
  whole : List Char
  fraction : List Char
  exponent : Option (Bool × List Char)

namespace Numeral

/-- The digits at the front and what follows them. -/
def spanDigits (cs : List Char) : List Char × List Char :=
  (cs.takeWhile Char.isDigit, cs.dropWhile Char.isDigit)

/-- The digits after a point, of which there must be one. -/
def fractionPart : List Char → Option (List Char × List Char)
  | '.' :: cs =>
    match spanDigits cs with
    | ([], _) => none
    | (digits, rest) => some (digits, rest)
  | cs => some ([], cs)

/-- The sign and the digits of an exponent; whether it is negative comes first. -/
def exponentDigits (negative : Bool) (cs : List Char) : Option (Option (Bool × List Char) × List Char) :=
  match spanDigits cs with
  | ([], _) => none
  | (digits, rest) => some (some (negative, digits), rest)

def exponentPart : List Char → Option (Option (Bool × List Char) × List Char)
  | c :: cs =>
    if c = 'e' ∨ c = 'E' then
      match cs with
      | '+' :: cs => exponentDigits false cs
      | '-' :: cs => exponentDigits true cs
      | cs => exponentDigits false cs
    else some (none, c :: cs)
  | [] => some (none, [])

/-- The digits before the point: one zero, or digits that do not start with a zero. -/
def wholePart (cs : List Char) : Option (List Char × List Char) :=
  match spanDigits cs with
  | ([], _) => none
  | ('0' :: _ :: _, _) => none
  | (digits, rest) => some (digits, rest)

def unsigned (negative : Bool) (cs : List Char) : Option (Numeral × List Char) := do
  let (whole, cs) ← wholePart cs
  let (fraction, cs) ← fractionPart cs
  let (exponent, cs) ← exponentPart cs
  return ({ negative, whole, fraction, exponent }, cs)

/-- Reads a numeral from the front of a text. -/
def read? : List Char → Option (Numeral × List Char)
  | '-' :: cs => unsigned true cs
  | cs => unsigned false cs

/-! ### Its number -/

def digitValue (c : Char) : Nat := c.toNat - '0'.toNat

def valueOf (digits : List Char) : Nat :=
  digits.foldl (fun n c => 10 * n + digitValue c) 0

/-- Appends digits to a number as long as it stays below `2 ^ 64`; the rest is returned. -/
def appendDigits : Nat → List Char → Nat × List Char
  | n, [] => (n, [])
  | n, c :: cs => if 10 * n + digitValue c < twoTo 64 then appendDigits (10 * n + digitValue c) cs else (n, c :: cs)

/-- `10 ^ k` as a floating-point number. -/
def powerOfTen? (k : Nat) : Option Binary64.Magnitude :=
  Binary64.Magnitude.nearest? (tenTo k) 1

/-- Divides by `10 ^ e`, by at most `10 ^ 308` at a time and no further than to zero. -/
def scaledDown (x : Binary64.Magnitude) (e : Nat) : Option Binary64.Magnitude :=
  if e ≤ 308 then do x.div? (← powerOfTen? e)
  else if x.mantissa = 0 then some x
  else do scaledDown (← x.div? (← powerOfTen? 308)) (e - 308)
termination_by e

/-- The significant digits times a power of ten, or nothing when the result is too large. -/
def scaled? (significand : Nat) (scale : Int) : Option Binary64.Magnitude := do
  let x ← Binary64.Magnitude.nearest? significand 1
  if scale < 0 then scaledDown x scale.natAbs
  else if scale ≤ 308 then x.mul? (← powerOfTen? scale.toNat)
  else if x.mantissa = 0 then some x
  else none

/-- The floating-point number of a numeral. -/
def real? (n : Numeral) : Option Binary64.Magnitude :=
  let (significand, beyond) := appendDigits 0 n.whole
  let (significand, unused) := appendDigits significand n.fraction
  let places : Int := beyond.length - (n.fraction.length - unused.length : Nat)
  let exponent : Int :=
    match n.exponent with
    | none => 0
    | some (true, digits) => -(valueOf digits : Int)
    | some (false, digits) => valueOf digits
  scaled? significand (places + exponent)

/-- The node of a numeral: an integer that fits into 64 bits, signed or unsigned, a floating-point number, or
unreadable when it is too large.  A negative zero is a floating-point number. -/
def toNode (n : Numeral) : Node :=
  let real : Node :=
    match n.real? with
    | some x => .real (.finite n.negative x.mantissa x.exponent)
    | none => .unreadable
  let value := valueOf n.whole
  if n.fraction.isEmpty && n.exponent.isNone then
    if n.negative then
      if 0 < value ∧ value ≤ twoTo 63 then .integer (-value) else real
    else if value < twoTo 64 then .integer value
    else real
  else real

end Numeral

end PipelineSelection
