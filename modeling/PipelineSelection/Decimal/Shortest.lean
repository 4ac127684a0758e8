import PipelineSelection.Decimal.Binary64

/-!
# Shortest decimals

The shortest decimal that reads back as a given binary number, and of the shortest ones the nearest; which of two
that are equally near is a matter of style.  The numbers that round to `m * 2 ^ q` form an interval around it; for
each count of digits only the two multiples of the power of ten next to the number can lie in it, so the first count
with a hit is the least one.
-/

namespace PipelineSelection

/-- A decimal `digits * 10 ^ scale`. -/
structure Decimal where
  digits : Nat
  scale : Int
deriving DecidableEq

/-- The decimal digits of a number, most significant first. -/
def digitsOf (n : Nat) : List Char := Nat.toDigits 10 n

/-- Where a number goes that lies halfway between two decimals. -/
inductive Tie where
  | toEven
  /-- To the one further from zero. -/
  | outward
deriving DecidableEq

/-! ### Rounding intervals -/

/-- The numbers that round to one binary number, as multiples of a common unit: the lower end, the number itself
and the upper end over one denominator. -/
structure RoundingInterval where
  lower : Nat
  centre : Nat
  upper : Nat
  denominator : Nat
  /-- Whether the two ends round to the number too. -/
  closed : Bool

namespace RoundingInterval

/-- Half the gap to either neighbour; the gap below is half as wide at a power of two. -/
def around (mantissa : Nat) (exponent : Int) : RoundingInterval :=
  let unit := twoTo (exponent - 2).toNat
  let below := if mantissa = twoTo 52 ∧ exponent > Binary64.leastExponent then 1 else 2
  { lower := (4 * mantissa - below) * unit
    centre := 4 * mantissa * unit
    upper := (4 * mantissa + 2) * unit
    denominator := twoTo (2 - exponent).toNat
    closed := mantissa % 2 = 0 }

def contains (i : RoundingInterval) (d : Decimal) : Bool :=
  let n := d.digits * tenTo d.scale.toNat * i.denominator
  let scaled (k : Nat) := k * tenTo (-d.scale).toNat
  if i.closed then scaled i.lower ≤ n && n ≤ scaled i.upper
  else scaled i.lower < n && n < scaled i.upper

/-- The multiple of `10 ^ scale` in the interval that is nearest to its centre. -/
def onGrid? (tie : Tie) (i : RoundingInterval) (scale : Int) : Option Decimal :=
  let num := i.centre * tenTo (-scale).toNat
  let den := i.denominator * tenTo scale.toNat
  let low : Decimal := ⟨num / den, scale⟩
  let high : Decimal := ⟨num / den + 1, scale⟩
  match i.contains low, i.contains high with
  | true, true =>
    let r := 2 * (num % den)
    if r < den ∨ (r = den ∧ tie = .toEven ∧ low.digits % 2 = 0) then some low else some high
  | true, false => some low
  | false, true => some high
  | false, false => none

/-- The place of the first digit of the centre: the greatest `e` with `10 ^ e` not above it. -/
def leadingPlace (i : RoundingInterval) : Int :=
  ((digitsOf (i.centre * tenTo 400 / i.denominator)).length : Int) - 1 - 400

end RoundingInterval

namespace Decimal

/-- Drops the zeros at the end of the digits, of which there are at most `places`. -/
def trimmed : (places : Nat) → Decimal → Decimal
  | 0, d => d
  | places + 1, d =>
    if d.digits % 10 = 0 ∧ d.digits ≠ 0 then trimmed places ⟨d.digits / 10, d.scale + 1⟩ else d

/-- The shortest decimal for `mantissa * 2 ^ exponent`, without zeros at its end. -/
def shortest (tie : Tie) (mantissa : Nat) (exponent : Int) : Decimal :=
  let i := RoundingInterval.around mantissa exponent
  let place := i.leadingPlace
  match (List.range 17).findSome? fun extra : Nat => i.onGrid? tie (place - extra) with
  | some d => d.trimmed 17
  | none => ⟨mantissa, exponent⟩

/-! ### Layouts -/

/-- Digits with a point and without an exponent; a whole number ends in `.0`. -/
def positional (d : Decimal) : List Char :=
  let ds := digitsOf d.digits
  if 0 ≤ d.scale then ds ++ List.replicate d.scale.toNat '0' ++ ['.', '0']
  else
    let places := (-d.scale).toNat
    if places < ds.length then ds.take (ds.length - places) ++ ['.'] ++ ds.drop (ds.length - places)
    else ['0', '.'] ++ List.replicate (places - ds.length) '0' ++ ds

/-- One digit before the point and a signed exponent. -/
def scientific (d : Decimal) : List Char :=
  let ds := digitsOf d.digits
  let e : Int := d.scale + ds.length - 1
  let fraction := if ds.length = 1 then [] else '.' :: ds.drop 1
  ds.take 1 ++ fraction ++ ['e', if e < 0 then '-' else '+'] ++ digitsOf e.natAbs

/-- Positional as long as the first digit stands between the fifth place after the point and the sixteenth
before it, scientific beyond. -/
def bounded (d : Decimal) : List Char :=
  let e : Int := d.scale + (digitsOf d.digits).length - 1
  if -5 ≤ e ∧ e ≤ 15 then positional d else scientific d

end Decimal

/-- How numbers are written. -/
structure NumberStyle where
  tie : Tie
  /-- Where the point and an exponent go. -/
  layout : Decimal → List Char

/-- The text of a binary number. -/
def Binary64.render (style : NumberStyle) : Binary64 → String
  | .notANumber => "NaN"
  | .infinity negative => if negative then "-inf" else "inf"
  | .finite negative mantissa exponent =>
    let sign := if negative then ['-'] else []
    let d := if mantissa = 0 then ⟨0, 0⟩ else Decimal.shortest style.tie mantissa exponent
    String.ofList (sign ++ style.layout d)

end PipelineSelection
