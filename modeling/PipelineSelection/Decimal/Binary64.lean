/-!
# Binary floating point

The numbers of the 64-bit binary format, kept as an integer mantissa and a power of two so that every operation
is exact integer arithmetic followed by one rounding to the nearest number, a tie going to the even mantissa.
-/

namespace PipelineSelection

/-- The power `2 ^ k`. -/
def twoTo (k : Nat) : Nat := Nat.pow 2 k

/-- The power `10 ^ k`. -/
def tenTo (k : Nat) : Nat := Nat.pow 10 k

/-- A 64-bit binary number.  A finite one is `mantissa * 2 ^ exponent`, with a mantissa below `2 ^ 53` that is at
least `2 ^ 52` unless the exponent is the least one. -/
inductive Binary64 where
  | notANumber
  | infinity (negative : Bool)
  | finite (negative : Bool) (mantissa : Nat) (exponent : Int)
deriving DecidableEq

namespace Binary64

/-- The size of a finite number: a mantissa and an exponent. -/
structure Magnitude where
  mantissa : Nat
  exponent : Int
deriving DecidableEq

def leastExponent : Int := -1074

def greatestExponent : Int := 971

/-- The quotient rounded to the nearest integer, a tie to the even one. -/
def roundedQuotient (num den : Nat) : Nat :=
  let q := num / den
  let r := num % den
  if 2 * r > den ∨ (2 * r = den ∧ q % 2 = 1) then q + 1 else q

/-- The number of bits of a positive integer. -/
private def bitCount (n : Nat) : Nat := n.log2 + 1

/-- `num / den` in units of `2 ^ e`, as a fraction again. -/
def inUnits (num den : Nat) (e : Int) : Nat × Nat :=
  (num * twoTo (-e).toNat, den * twoTo e.toNat)

namespace Magnitude

def zero : Magnitude := ⟨0, leastExponent⟩

/-- The number nearest to `num / den`, or nothing when it would be beyond the greatest one. -/
def nearest? (num den : Nat) : Option Magnitude :=
  if num = 0 then some zero
  else
    let guess : Int := (bitCount num : Int) - bitCount den - 52
    let (a, b) := inUnits num den guess
    let e := max leastExponent (if a / b < twoTo 52 then guess - 1 else guess)
    let (a, b) := inUnits num den e
    let m := roundedQuotient a b
    let found : Magnitude := if m = twoTo 53 then ⟨twoTo 52, e + 1⟩ else ⟨m, e⟩
    if found.exponent > greatestExponent then none else some found

/-- The exact value as a fraction. -/
def toFraction (x : Magnitude) : Nat × Nat :=
  (x.mantissa * twoTo x.exponent.toNat, twoTo (-x.exponent).toNat)

def mul? (x y : Magnitude) : Option Magnitude :=
  nearest? (x.toFraction.1 * y.toFraction.1) (x.toFraction.2 * y.toFraction.2)

def div? (x y : Magnitude) : Option Magnitude :=
  nearest? (x.toFraction.1 * y.toFraction.2) (x.toFraction.2 * y.toFraction.1)

end Magnitude

/-- The number nearest to a decimal `digits * 10 ^ scale`, infinite when it is beyond the greatest one. -/
def ofDecimal (negative : Bool) (digits : Nat) (scale : Int) : Binary64 :=
  let found :=
    if digits = 0 then some Magnitude.zero
    else if scale > 400 then none
    else if scale < -400 - (bitCount digits : Int) then some Magnitude.zero
    else Magnitude.nearest? (digits * tenTo scale.toNat) (tenTo (-scale).toNat)
  match found with
  | some x => .finite negative x.mantissa x.exponent
  | none => .infinity negative

end Binary64

end PipelineSelection
