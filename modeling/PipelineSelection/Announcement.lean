import PipelineSelection.Json.Value
import PipelineSelection.Settings

/-!
# Announcing the version of an agent

An agent records its version on a resource by a merge patch with that one member.  How the patch is sent is up to
an announcer, a step of a machine whose state is what has been sent so far.  One announcer writes target and patch
to a writer that may run full, another keeps them.
-/

namespace PipelineSelection

/-- The merge patch that records a version. -/
structure VersionPatch where
  version : String
deriving DecidableEq

/-- The members to merge into the resource. -/
def VersionPatch.toJson (patch : VersionPatch) : Json :=
  .object [("spec", .object [("version", .string patch.version)])]

/-! ### Writers -/

/-- What has been written, and how many more bytes fit; without a room there is no limit. -/
structure Writer where
  written : List UInt8
  room : Option Nat

namespace Writer

/-- Nothing written yet. -/
def new (room : Option Nat) : Writer := { written := [], room }

/-- The bytes that still fit. -/
def accepted (writer : Writer) (bytes : List UInt8) : List UInt8 :=
  match writer.room with
  | some room => bytes.take room
  | none => bytes

/-- Writes a text.  A writer takes the bytes that fit and then is full. -/
def write (writer : Writer) (text : List Char) : Except Failure Unit × Writer :=
  let bytes := utf8Of text
  let taken := writer.accepted bytes
  let writer := { written := writer.written ++ taken, room := writer.room.map (· - taken.length) }
  (if taken.length = bytes.length then .ok () else .error .writerFull, writer)

/-- Goes on writing unless that has failed already. -/
def andThen (done : Except Failure Unit × Writer) (next : Writer → Except Failure Unit × Writer) :
    Except Failure Unit × Writer :=
  match done with
  | (.ok (), writer) => next writer
  | (.error failure, writer) => (.error failure, writer)

/-- Writes the pieces of a formatted text one after the other, as long as they fit. -/
def writeAll (writer : Writer) : List (List Char) → Except Failure Unit × Writer
  | [] => (.ok (), writer)
  | piece :: pieces => andThen (writer.write piece) fun writer => writer.writeAll pieces

end Writer

/-! ### Announcers -/

/-- Sends a patch to a target; `σ` is what has been sent so far. -/
abbrev Announcer (σ : Type) := Target → VersionPatch → σ → Except Failure Unit × σ

namespace Announcer

/-- The pieces of the line that shows a target: what stands in the line, and the fields put in between. -/
def targetLine (target : Target) : List (List Char) :=
  ["PATCH ", target.kind, ".", target.group, "/", target.version, " ", target.home, "/", target.name, "\n"].map
    String.toList

/-- The pieces of the lines that show a patch, with one member a line. -/
def patchLines (patch : VersionPatch) : List (List Char) :=
  [patch.toJson.pretty, ['\n']]

/-- Writes target and patch instead of sending them; without room for the line of the target the patch is left out. -/
def printing : Announcer Writer := fun target patch writer =>
  Writer.andThen (writer.writeAll (targetLine target)) fun writer => writer.writeAll (patchLines patch)

/-- Keeps target and patch; fails with the given message, if there is one. -/
def recording (failure : Option String) : Announcer (List (Target × VersionPatch)) := fun target patch seen =>
  let outcome := match failure with
    | some message => .error (.external message)
    | none => .ok ()
  (outcome, seen ++ [(target, patch)])

end Announcer

/-- Announces the version of the settings on their resource. -/
def announceVersion {σ : Type} (announcer : Announcer σ) (settings : Settings) (sent : σ) :
    Logged (Except Failure Unit × σ) where
  value := announcer settings.resource { version := settings.agent.version } sent
  events := [.announcing settings.resource.display settings.agent.version]

end PipelineSelection
