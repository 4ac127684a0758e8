import PipelineSelection.Text.Alphanumeric
import PipelineSelection.Text.Characters

/-!
# Patterns

Which texts are regular expressions.  Characters beyond ASCII may stand for themselves, but nothing is known about
them: by name there are only classes of ASCII characters, and letter case can be ignored, and words and their edges
be told, only where a pattern switches Unicode off.  There in turn nothing may match half a character.  A count in
braces is refused, as a condition in braces has no room for its closing brace.  Parts must not be nested too deeply.
-/

namespace PipelineSelection.CommandLine.Pattern

/-! ### Modes -/

/-- What a pattern can switch on and off on its way. -/
structure Modes where
  /-- Whether letter case is ignored. -/
  caseless : Bool
  /-- Whether a pattern matches characters and not bytes. -/
  unicode : Bool
  /-- Whether whitespace and comments stand between the parts. -/
  spaced : Bool

namespace Modes

def initial : Modes := { caseless := false, unicode := true, spaced := false }

/-- Drops whitespace and comments, which go from a number sign to the end of the line. -/
def dropSpace (inComment : Bool) : List Char → List Char
  | [] => []
  | c :: rest =>
    if inComment then dropSpace (c != '\n') rest
    else if isWhitespace c then dropSpace false rest
    else if c = '#' then dropSpace true rest
    else c :: rest

/-- Goes on to the next part. -/
def skip (modes : Modes) (cs : List Char) : List Char :=
  if modes.spaced then dropSpace false cs else cs

/-- The first character that is neither whitespace nor the first number sign. -/
def peekPast? (inComment : Bool) : List Char → Option Char
  | [] => none
  | c :: rest =>
    if isWhitespace c then peekPast? inComment rest
    else if c = '#' ∧ !inComment then peekPast? true rest
    else some c

/-- The character that a hyphen in a class is followed by. -/
def peek? (modes : Modes) (cs : List Char) : Option Char :=
  if modes.spaced then (peekPast? false cs).or cs.head? else cs.head?

/-- Switches modes by their letters, after a hyphen off. -/
def switch (modes : Modes) (flags : List Char) : Modes :=
  (flags.foldl (fun (modes, on) flag =>
    match flag with
    | '-' => (modes, false)
    | 'i' => ({ modes with caseless := on }, on)
    | 'u' => ({ modes with unicode := on }, on)
    | 'x' => ({ modes with spaced := on }, on)
    | _ => (modes, on)) (modes, true)).1

end Modes

/-! ### Atoms -/

/-- A part of a pattern that has no parts itself. -/
inductive Atom where
  /-- A character, perhaps given as a byte by two hexadecimal digits. -/
  | character (c : Char) (asByte : Bool)
  | anyCharacter
  /-- Digits, words or whitespace. -/
  | shorthand (negated : Bool)
  /-- The beginning or the end of a line or of everything. -/
  | edge
  | wordEdge

/-- Whether an atom may stand on its own. -/
def Atom.isAllowed (modes : Modes) : Atom → Bool
  | .character c asByte => if modes.unicode then !modes.caseless else !asByte || c.toNat < 0x80
  | .anyCharacter => modes.unicode
  | .shorthand negated => !modes.unicode && !negated
  | .edge => true
  | .wordEdge => !modes.unicode

/-- Whether an atom may be in a class. -/
def Atom.isAllowedInClass (modes : Modes) : Atom → Bool
  | .character c _ => if modes.unicode then !modes.caseless else c.toNat < 0x80
  | .shorthand negated => !modes.unicode && !negated
  | _ => false

/-- A number of so many hexadecimal digits, and what follows them. -/
def readCode? (modes : Modes) : (digits value : Nat) → List Char → Option (Char × List Char)
  | 0, value, cs => do return (← charOf? value, cs)
  | digits + 1, value, cs =>
    match cs with
    | [] => none
    | d :: rest => do readCode? modes digits (16 * value + (← hexDigit? d)) (modes.skip rest)

/-- The atom of an escape, after the backslash, and what follows it. -/
def readEscape? (modes : Modes) : List Char → Option (Atom × List Char)
  | [] => none
  | c :: rest =>
    let code (digits : Nat) : Option (Atom × List Char) := do
      let (c, rest) ← readCode? modes digits 0 (modes.skip rest)
      return (.character c (digits == 2), rest)
    if c = 'x' then code 2
    else if c = 'u' then code 4
    else if c = 'U' then code 8
    else if "dsw".contains c then some (.shorthand false, rest)
    else if "DSW".contains c then some (.shorthand true, rest)
    else if "Az".contains c then some (.edge, rest)
    else if "bB<>".contains c then some (.wordEdge, rest)
    else
      match [('a', '\x07'), ('f', '\x0c'), ('n', '\n'), ('r', '\r'), ('t', '\t'), ('v', '\x0b')].lookup c with
      | some meant => some (.character meant false, rest)
      | none => if c.toNat < 0x80 ∧ !c.isAlphanum then some (.character c false, rest) else none

/-! ### Nesting -/

/-- How deep a pattern may be nested. -/
def deepest : Nat := 250

/-- The depth of parts side by side, which are one level below what they make up. -/
def sideBySide : List Nat → Nat
  | [] => 0
  | [depth] => depth
  | depths => 1 + depths.foldl max 0

/-! ### Classes -/

/-- What has been read of a class: the depths of the members in a row, and the depth of what stands before the last
operator. -/
structure Members where
  row : List Nat
  before : Option Nat

namespace Members

def depth (members : Members) : Nat :=
  match members.before with
  | none => sideBySide members.row
  | some before => 1 + max before (sideBySide members.row)

def add (members : Members) (depth : Nat) : Members :=
  { members with row := depth :: members.row }

end Members

def classNames : List String :=
  ["alnum", "alpha", "ascii", "blank", "cntrl", "digit", "graph", "lower", "print", "punct", "space", "upper", "word",
   "xdigit"]

/-- A class by its name between colons, after the opening bracket; says whether it is negated. -/
def readNamed? : List Char → Option (Bool × List Char)
  | ':' :: rest =>
    let negated := rest.head? == some '^'
    let rest := if negated then rest.drop 1 else rest
    let name := rest.takeWhile (· != ':')
    match rest.drop name.length with
    | ':' :: ']' :: rest => if classNames.contains (String.ofList name) then some (negated, rest) else none
    | _ => none
  | _ => none

/-- Hyphens at the beginning of a class, and what follows them. -/
def dropHyphens (modes : Modes) : (fuel : Nat) → List Char → Nat × List Char
  | fuel + 1, '-' :: rest =>
    let (count, rest) := dropHyphens modes fuel (modes.skip rest)
    (count + 1, rest)
  | _, cs => (0, cs)

/-- The beginning of a class, after its bracket: a sign of negation, and hyphens or a bracket that stand for
themselves. -/
def openClass? (modes : Modes) (cs : List Char) : Option (Members × List Char) := do
  let cs := modes.skip cs
  let negated := cs.head? == some '^'
  if negated ∧ !modes.unicode then none
  let cs := if negated then modes.skip (cs.drop 1) else cs
  let (hyphens, cs) := dropHyphens modes cs.length cs
  let bracket := hyphens = 0 ∧ cs.head? = some ']'
  let cs := if bracket then modes.skip (cs.drop 1) else cs
  let row := List.replicate (if bracket then 1 else hyphens) 0
  if !row.isEmpty ∧ !(Atom.character '-' false).isAllowedInClass modes then none
  return ({ row, before := none }, cs)

/-- A character or an escape in a class. -/
def readMember? (modes : Modes) : List Char → Option (Atom × List Char)
  | [] => none
  | '\\' :: rest => readEscape? modes rest
  | c :: rest => some (.character c false, rest)

/-- A member of a class or a range of characters, and what follows. -/
def readRange? (modes : Modes) (cs : List Char) : Option (List Char) := do
  let (first, rest) ← readMember? modes cs
  if !first.isAllowedInClass modes then none
  match modes.skip rest with
  | '-' :: rest =>
    if modes.peek? rest = some ']' ∨ modes.peek? rest = some '-' then return '-' :: rest
    let (last, rest) ← readMember? modes (modes.skip rest)
    if !last.isAllowedInClass modes then none
    match first, last with
    | .character first _, .character last _ => if first ≤ last then return rest else none
    | _, _ => none
  | rest => return rest

/-- Reads a class up to its closing bracket, with the classes around it; returns its depth. -/
def readClass? (modes : Modes) :
    (fuel : Nat) → (inner : Members) → (outer : List Members) → List Char → Option (Nat × List Char)
  | 0, _, _, _ => none
  | fuel + 1, inner, outer, cs =>
    match modes.skip cs with
    | [] => none
    | '[' :: rest =>
      match readNamed? rest with
      | some (negated, rest) =>
        if if modes.unicode then modes.caseless else negated then none
        else readClass? modes fuel (inner.add 0) outer rest
      | none => do
        let (members, rest) ← openClass? modes rest
        readClass? modes fuel members (inner :: outer) rest
    | ']' :: rest =>
      let depth := 1 + inner.depth
      match outer with
      | [] => some (depth, rest)
      | around :: outer => readClass? modes fuel (around.add depth) outer rest
    | '&' :: '&' :: rest => readClass? modes fuel { row := [], before := some inner.depth } outer rest
    | '-' :: '-' :: rest => readClass? modes fuel { row := [], before := some inner.depth } outer rest
    | '~' :: '~' :: rest => readClass? modes fuel { row := [], before := some inner.depth } outer rest
    | cs => do readClass? modes fuel (inner.add 0) outer (← readRange? modes cs)

/-! ### Groups -/

/-- What has been read between the brackets of a group: the depths of its earlier alternatives, and of the parts of
the last one, the last part first.  A switch of modes is a part without depth. -/
structure Group where
  modes : Modes
  alternatives : List Nat
  parts : List (Option Nat)

namespace Group

def start (modes : Modes) : Group := { modes, alternatives := [], parts := [] }

/-- The depth of the last alternative. -/
def lastDepth (group : Group) : Nat := sideBySide (group.parts.map (·.getD 0))

def depth (group : Group) : Nat := sideBySide (group.lastDepth :: group.alternatives)

def add (group : Group) (part : Option Nat) : Group :=
  { group with parts := part :: group.parts }

end Group

/-- How far a pattern has been read: the innermost group, those around it and the names of groups. -/
structure Progress where
  inner : Group
  outer : List Group
  names : List String

/-- The letters that switch modes, and what follows them: a colon and the rest of a group, or the end of the
brackets. -/
def readFlags? (seen : List Char) : List Char → Option (List Char × List Char)
  | [] => none
  | c :: rest =>
    if c = ':' ∨ c = ')' then
      if seen.head? = some '-' then none else some (seen.reverse, c :: rest)
    else if seen.contains c ∨ !"-imsUuRx".contains c then none
    else readFlags? (c :: seen) rest

/-- The name of a group, up to an angle bracket. -/
def readName? (cs : List Char) : Option (String × List Char) :=
  let name := cs.takeWhile (· != '>')
  let isFirst (c : Char) := c == '_' || isAlphabetic c
  let isLater (c : Char) := "_.[]".contains c || isAlphanumeric c
  match name, cs.drop name.length with
  | first :: later, '>' :: rest =>
    if isFirst first && later.all isLater then some (String.ofList name, rest) else none
  | _, _ => none

namespace Progress

/-- Goes into a group. -/
def enter (progress : Progress) (modes : Modes) : Progress :=
  { progress with inner := .start modes, outer := progress.inner :: progress.outer }

/-- Opens a group with a name. -/
def enterNamed? (progress : Progress) (cs : List Char) : Option (Progress × List Char) := do
  let (name, rest) ← readName? cs
  if progress.names.contains name then none
  return ({ progress.enter progress.inner.modes with names := name :: progress.names }, rest)

/-- What follows an opening bracket: a group, or a switch of modes for the rest of the group it stands in. -/
def open? (progress : Progress) (cs : List Char) : Option (Progress × List Char) :=
  let modes := progress.inner.modes
  match modes.skip cs with
  | '?' :: 'P' :: '<' :: rest => progress.enterNamed? rest
  | '?' :: '<' :: rest => progress.enterNamed? rest
  | '?' :: rest => do
    let (flags, rest) ← readFlags? [] rest
    let switched := modes.switch flags
    match rest with
    | ':' :: rest => return (progress.enter switched, rest)
    | _ =>
      if flags.isEmpty then none
      return ({ progress with inner := { progress.inner.add none with modes := switched } }, rest.drop 1)
  | rest => some (progress.enter modes, rest)

/-- Leaves a group. -/
def close? (progress : Progress) : Option Progress :=
  match progress.outer with
  | [] => none
  | around :: outer =>
    some { progress with inner := around.add (some (1 + progress.inner.depth)), outer }

/-- Begins another alternative. -/
def alternate (progress : Progress) : Progress :=
  let group := progress.inner
  { progress with inner := { group with alternatives := group.lastDepth :: group.alternatives, parts := [] } }

/-- Repeats the last part. -/
def repeat? (progress : Progress) : Option Progress :=
  match progress.inner.parts with
  | some depth :: parts => some { progress with inner := { progress.inner with parts := some (1 + depth) :: parts } }
  | _ => none

def addAtom? (progress : Progress) (atom : Atom) : Option Progress :=
  if atom.isAllowed progress.inner.modes then some { progress with inner := progress.inner.add (some 0) } else none

/-- Reads one part, or what joins parts. -/
def step? (progress : Progress) (c : Char) (rest : List Char) : Option (Progress × List Char) :=
  let modes := progress.inner.modes
  if c = '(' then progress.open? rest
  else if c = ')' then do return (← progress.close?, rest)
  else if c = '|' then some (progress.alternate, rest)
  else if c = '[' then do
    let (members, rest) ← openClass? modes rest
    let (depth, rest) ← readClass? modes (rest.length + 1) members [] rest
    return ({ progress with inner := progress.inner.add (some depth) }, rest)
  else if "*+?".contains c then do
    return (← progress.repeat?, if rest.head? = some '?' then rest.drop 1 else rest)
  else if c = '\x7b' then none
  else if c = '\\' then do
    let (atom, rest) ← readEscape? modes rest
    return (← progress.addAtom? atom, rest)
  else if c = '.' then do return (← progress.addAtom? .anyCharacter, rest)
  else if "^$".contains c then do return (← progress.addAtom? .edge, rest)
  else do return (← progress.addAtom? (.character c false), rest)

/-- Reads to the end and returns the depth of the whole. -/
def finish? : (fuel : Nat) → Progress → List Char → Option Nat
  | 0, _, _ => none
  | fuel + 1, progress, cs =>
    match progress.inner.modes.skip cs with
    | [] => if progress.outer.isEmpty then some progress.inner.depth else none
    | c :: rest => do
      let (progress, rest) ← progress.step? c rest
      finish? fuel progress rest

end Progress

/-- Whether a text is a pattern. -/
def isPattern (cs : List Char) : Bool :=
  let start : Progress := { inner := .start .initial, outer := [], names := [] }
  match start.finish? (cs.length + 1) cs with
  | some depth => depth ≤ deepest
  | none => false

end PipelineSelection.CommandLine.Pattern
