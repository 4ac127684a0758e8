/-!
# Colours on a terminal

Texts are set off by escape codes before and after them.  Where a text is filled up to a width, the blanks are set
off with it.
-/

namespace PipelineSelection.CommandLine

/-- How a text is set off. -/
inductive Style where
  | bold
  | dimmed
  | green
  | yellow
  | cyan
  | boldRed
  | boldGreen
  | boldCyan
deriving DecidableEq

/-- The codes of a style: first the weight, then the colour. -/
def Style.codes : Style → String
  | .bold => "1"
  | .dimmed => "2"
  | .green => "32"
  | .yellow => "33"
  | .cyan => "36"
  | .boldRed => "1;31"
  | .boldGreen => "1;32"
  | .boldCyan => "1;36"

/-- A text in a style, or as it is where colours are off. -/
def styled (colours : Bool) (style : Style) (text : String) : String :=
  if colours then "\x1b[" ++ style.codes ++ "m" ++ text ++ "\x1b[0m" else text

/-- How an explanation sets off what it speaks of. -/
inductive Mark where
  /-- The word that opens it. -/
  | opening
  /-- What is wrong. -/
  | wrong
  /-- What would be right. -/
  | right
deriving DecidableEq

def Mark.codes : Mark → String
  | .opening => "\x1b[1m\x1b[31m"
  | .wrong => "\x1b[33m"
  | .right => "\x1b[1m"

/-- A text that is set off. -/
def Mark.around (mark : Mark) (text : String) : String :=
  mark.codes ++ text ++ "\x1b[0m"

/-- A text filled up with blanks to a width. -/
def filled (width : Nat) (text : String) : String :=
  text ++ String.ofList (List.replicate (width - text.length) ' ')

end PipelineSelection.CommandLine
