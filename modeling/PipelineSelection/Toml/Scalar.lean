import PipelineSelection.Document.Node
import PipelineSelection.Toml.Text

/-!
# TOML: numbers, dates and times

The scalars of TOML 1.0 that are not strings.  Integers have 64 bits and floating-point numbers must not pass the
greatest one.  A date or time is checked and then seen as a table with one key that no record has.
-/

namespace PipelineSelection.Toml

/-! ### Numbers -/

/-- The sign at the front of a number; whether it is a minus. -/
def sign : List Char → Bool × List Char
  | '+' :: rest => (false, rest)
  | '-' :: rest => (true, rest)
  | cs => (false, cs)

/-- Digits of a kind, with single underscores between them; at least one.  The underscores are dropped. -/
def digitGroup? (isDigit : Char → Bool) : List Char → Option (List Char × List Char)
  | c :: rest => if isDigit c then more [c] rest else none
  | [] => none
where
  /-- The digits after the first ones, which are given last to first. -/
  more (seen : List Char) : List Char → Option (List Char × List Char)
    | '_' :: c :: rest => if isDigit c then more (c :: seen) rest else none
    | '_' :: [] => none
    | c :: rest => if isDigit c then more (c :: seen) rest else some (seen.reverse, c :: rest)
    | [] => some (seen.reverse, [])

/-- The digits of a decimal integer: one zero, or digits that do not start with a zero. -/
def decimalDigits? : List Char → Option (List Char × List Char)
  | '0' :: rest => some (['0'], rest)
  | cs => digitGroup? Char.isDigit cs

def decimalNumber (digits : List Char) : Nat :=
  digits.foldl (fun n c => 10 * n + (c.toNat - '0'.toNat)) 0

/-- The number of a list of digits in a base. -/
def numberInBase (base : Nat) (digits : List Char) : Nat :=
  digits.foldl (fun n c => base * n + (hexDigit? c).getD 0) 0

/-- An integer that fits into 64 bits with a sign. -/
def boundedInteger? (n : Int) : Option Int :=
  if -(twoTo 63 : Int) ≤ n ∧ n < twoTo 63 then some n else none

/-- An integer in a base other than ten, after the two characters that announce it. -/
def integerInBase? (base : Nat) (cs : List Char) : Option (Int × List Char) := do
  let isDigit (c : Char) := match hexDigit? c with
    | some d => decide (d < base)
    | none => false
  let (digits, rest) ← digitGroup? isDigit cs
  return (← boundedInteger? (numberInBase base digits), rest)

def integer? : List Char → Option (Int × List Char)
  | '0' :: 'x' :: rest => integerInBase? 16 rest
  | '0' :: 'o' :: rest => integerInBase? 8 rest
  | '0' :: 'b' :: rest => integerInBase? 2 rest
  | cs => do
    let (negative, cs) := sign cs
    let (digits, rest) ← decimalDigits? cs
    let n : Int := decimalNumber digits
    return (← boundedInteger? (if negative then -n else n), rest)

/-- An exponent, which may start with zeros. -/
def exponent? : List Char → Option (Int × List Char)
  | c :: rest =>
    if c = 'e' ∨ c = 'E' then do
      let (negative, rest) := sign rest
      let (digits, rest) ← digitGroup? Char.isDigit rest
      let n : Int := decimalNumber digits
      return (if negative then -n else n, rest)
    else none
  | [] => none

/-- A number with a fraction, an exponent or both. -/
def finiteReal? (cs : List Char) : Option (Binary64 × List Char) := do
  let (negative, cs) := sign cs
  let (whole, cs) ← decimalDigits? cs
  match cs with
  | '.' :: cs =>
    let (fraction, rest) ← digitGroup? Char.isDigit cs
    let digits := decimalNumber (whole ++ fraction)
    match exponent? rest with
    | some (e, rest) => inRange (Binary64.ofDecimal negative digits (e - fraction.length)) rest
    | none => inRange (Binary64.ofDecimal negative digits (-fraction.length)) rest
  | cs =>
    let (e, rest) ← exponent? cs
    inRange (Binary64.ofDecimal negative (decimalNumber whole) e) rest
where
  /-- A number beyond the greatest one is no number. -/
  inRange (x : Binary64) (rest : List Char) : Option (Binary64 × List Char) :=
    if x = .infinity false then none else some (x, rest)

/-- Infinity and the number that is none, with a sign or without. -/
def specialReal? (cs : List Char) : Option (Binary64 × List Char) :=
  let (negative, cs) := sign cs
  match cs with
  | 'i' :: 'n' :: 'f' :: rest => some (.infinity negative, rest)
  | 'n' :: 'a' :: 'n' :: rest => some (.notANumber, rest)
  | _ => none

/-! ### Dates and times -/

/-- A number of exactly `count` digits that lies between `least` and `greatest`. -/
def fixedNumber? (count least greatest : Nat) (cs : List Char) : Option (Nat × List Char) :=
  let digits := cs.take count
  let n := decimalNumber digits
  if digits.length = count ∧ digits.all Char.isDigit ∧ least ≤ n ∧ n ≤ greatest then some (n, cs.drop count)
  else none

def skipChar? (c : Char) : List Char → Option (List Char)
  | d :: rest => if d = c then some rest else none
  | [] => none

def daysInMonth (year month : Nat) : Nat :=
  if month = 2 then if year % 4 = 0 ∧ (year % 100 ≠ 0 ∨ year % 400 = 0) then 29 else 28
  else if month = 4 ∨ month = 6 ∨ month = 9 ∨ month = 11 then 30
  else 31

/-- Skips a date of the calendar. -/
def date? (cs : List Char) : Option (List Char) := do
  let (year, cs) ← fixedNumber? 4 0 9999 cs
  let (month, cs) ← fixedNumber? 2 1 12 (← skipChar? '-' cs)
  let (_, cs) ← fixedNumber? 2 1 (daysInMonth year month) (← skipChar? '-' cs)
  return cs

/-- Skips a fraction of a second, if there is one. -/
def secondFraction (cs : List Char) : List Char :=
  match cs with
  | '.' :: rest => if (rest.takeWhile Char.isDigit).isEmpty then cs else rest.dropWhile Char.isDigit
  | _ => cs

/-- Skips a time of day; there may be a leap second. -/
def time? (cs : List Char) : Option (List Char) := do
  let (_, cs) ← fixedNumber? 2 0 23 cs
  let (_, cs) ← fixedNumber? 2 0 59 (← skipChar? ':' cs)
  let (_, cs) ← fixedNumber? 2 0 60 (← skipChar? ':' cs)
  return secondFraction cs

/-- Skips the offset of a time of day from universal time, if there is one. -/
def offset? : List Char → Option (List Char)
  | 'Z' :: rest => some rest
  | 'z' :: rest => some rest
  | c :: rest =>
    if c = '+' ∨ c = '-' then do
      let (_, rest) ← fixedNumber? 2 0 23 rest
      let (_, rest) ← fixedNumber? 2 0 59 (← skipChar? ':' rest)
      return rest
    else some (c :: rest)
  | [] => some []

/-- Skips the time of day that may follow a date after a letter or a blank. -/
def timeOfDate? (cs : List Char) : Option (List Char) :=
  match cs with
  | c :: rest =>
    if c = 'T' ∨ c = 't' ∨ c = ' ' then
      match time? rest with
      | some rest => offset? rest
      | none => some cs
    else some cs
  | [] => some []

/-- Skips a date, a time or both. -/
def moment? (cs : List Char) : Option (List Char) :=
  match date? cs with
  | some rest => timeOfDate? rest
  | none => time? cs

/-- A date or time as it is written, as a table with a single key. -/
def momentNode (written : List Char) : Node :=
  .table [(some "date-time", .text (String.ofList written))]

/-! ### Scalars -/

/-- A number, a date or a time; a text that starts like a date is never a number. -/
def number? (cs : List Char) : Option (Node × List Char) :=
  match moment? cs with
  | some rest => some (momentNode (cs.take (cs.length - rest.length)), rest)
  | none =>
    match finiteReal? cs with
    | some (x, rest) => some (.real x, rest)
    | none =>
      match specialReal? cs with
      | some (x, rest) => some (.real x, rest)
      | none => (integer? cs).map fun (n, rest) => (.integer n, rest)

/-- A scalar that is not a string. -/
def scalar? : List Char → Option (Node × List Char)
  | 't' :: 'r' :: 'u' :: 'e' :: rest => some (.bool true, rest)
  | 'f' :: 'a' :: 'l' :: 's' :: 'e' :: rest => some (.bool false, rest)
  | cs => number? cs

end PipelineSelection.Toml
