/-!
# Files and directories

A tree of named files and directories, and what is found in it along a path.  A path is walked part by part from
the root or from the current directory; empty parts and single dots stay where they are, two dots go back up.
-/

namespace PipelineSelection

/-- A file, which can be read. -/
structure File where
  bytes : ByteArray
  /-- Whether it is an ordinary file and not a device. -/
  regular : Bool

/-- A file, or a directory with what it holds under which names. -/
inductive FileTree where
  | file (file : File)
  | directory (entries : List (String × FileTree))

/-- Why nothing can be read at a path. -/
inductive FileProblem where
  | notFound
  | notADirectory
  | isADirectory
  | nameTooLong
  | nullInName
  /-- A directory on the way may not be searched, or something may not be read that is no ordinary file. -/
  | permissionDenied
  /-- There is an ordinary file, and it cannot be read; the reason is worded by the operating system. -/
  | unreadable (reason : String)
  | notText
deriving DecidableEq

/-- The reason as the operating system words it. -/
def FileProblem.reason : FileProblem → String
  | .notFound => "No such file or directory (os error 2)"
  | .notADirectory => "Not a directory (os error 20)"
  | .isADirectory => "Is a directory (os error 21)"
  | .nameTooLong => "File name too long (os error 36)"
  | .nullInName => "file name contained an unexpected NUL byte"
  | .permissionDenied => "Permission denied (os error 13)"
  | .unreadable reason => reason
  | .notText => "stream did not contain valid UTF-8"

/-- What reading each path gives. -/
abbrev Files := String → Except FileProblem File

namespace FileTree

/-- The most bytes a name may have. -/
def longestName : Nat := 255

/-- The most bytes a whole path may have. -/
def longestPath : Nat := 4095

/-- Walks the parts of a path from a directory; `above` are the directories that it lies in, innermost first. -/
def walk (above : List FileTree) (here : FileTree) : List String → Except FileProblem FileTree
  | [] => .ok here
  | part :: parts =>
    match here with
    | .file _ => .error .notADirectory
    | .directory entries =>
      if part = "" ∨ part = "." then walk above here parts
      else if part = ".." then
        match above with
        | [] => walk [] here parts
        | parent :: rest => walk rest parent parts
      else if longestName < part.utf8ByteSize then .error .nameTooLong
      else
        match entries.lookup part with
        | some child => walk (here :: above) child parts
        | none => .error .notFound

/-- An item in place of what may be there; a new directory leaves an old one as it is. -/
def placedOn : FileTree → FileTree → FileTree
  | .directory [], .directory entries => .directory entries
  | item, _ => item

/-- Puts a file or a new directory at the end of a path of names, with the directories on the way. -/
def place (item : FileTree) : List String → FileTree → FileTree
  | [], tree => item.placedOn tree
  | part :: parts, tree =>
    let entries := match tree with
      | .directory entries => entries
      | .file _ => []
    let child := (entries.lookup part).getD (.directory [])
    .directory ((part, place item parts child) :: entries.filter (·.1 != part))

end FileTree

/-- The names that the parts of a path come down to, from the root. -/
def settled (parts : List String) : List String :=
  (parts.foldl
    (fun above part =>
      if part = "" ∨ part = "." then above
      else if part = ".." then above.tail
      else part :: above)
    []).reverse

/-- A tree in which paths can be walked. -/
structure FileSystem where
  root : FileTree
  /-- The names that lead to the directory in which paths start that do not start at the root. -/
  current : List String

namespace FileSystem

/-- The parts of a path, from the root. -/
def parts (system : FileSystem) (path : String) : List String :=
  if path.startsWith "/" then path.splitOn "/" else system.current ++ path.splitOn "/"

/-- Puts a file or a new directory at the end of a path. -/
def place (system : FileSystem) (item : FileTree) (path : String) : FileSystem :=
  { system with root := .place item (settled (system.parts path)) system.root }

/-- Reads the file at the end of a path. -/
def read (system : FileSystem) : Files := fun path =>
  if path.contains '\x00' then .error .nullInName
  else if path.isEmpty then .error .notFound
  else if FileTree.longestPath < path.utf8ByteSize then .error .nameTooLong
  else do
    match ← FileTree.walk [] system.root (system.parts path) with
    | .file file => return file
    | .directory _ => .error .isADirectory

end FileSystem

end PipelineSelection
