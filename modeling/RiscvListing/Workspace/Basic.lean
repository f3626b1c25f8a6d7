import RiscvListing.Image.Bytes
import RiscvListing.Workspace.Path

/-!
# Workspaces

The files and directories around a run, as far as the run can see them.

## Main definitions

* `Workspace` — files with their content, and directories.
* `Workspace.locate` — follows a path part by part.
* `Workspace.status` — what is found at a path.
* `Workspace.obstacle?` — why a file cannot be written at a path.
* `Workspace.makeable`, `Workspace.make` — a file made together with the directories on the way.
-/

namespace RiscvListing

/-- The files and directories around a run. -/
structure Workspace where
  /-- The directory that relative paths start from. -/
  here : Place
  /-- The files with their content. -/
  files : List (Place × Bytes) := []
  /-- Directories. Those on the way to a file need not be listed. -/
  directories : List Place := []

namespace Workspace

/-- Why a path cannot be followed or opened. -/
inductive Obstacle where
  | missing
  | notDirectory
  | directory
  | longName
  deriving Repr, DecidableEq

/-- The number of an obstacle. -/
def Obstacle.number : Obstacle → Nat
  | missing => 2
  | notDirectory => 20
  | directory => 21
  | longName => 36

/-- The text of an obstacle. -/
def Obstacle.reason : Obstacle → String
  | missing => "No such file or directory"
  | notDirectory => "Not a directory"
  | directory => "Is a directory"
  | longName => "File name too long"

/-- What is found at a path. -/
inductive Status where
  | absent
  | longName
  | directory
  | file (content : Bytes)
  deriving Repr, DecidableEq

/-- The content of the file at a place. -/
def content? (w : Workspace) (place : Place) : Option Bytes :=
  (w.files.find? (·.1 = place)).map Prod.snd

/-- Whether a directory is at a place. -/
def isDirectory (w : Workspace) (place : Place) : Bool :=
  place.isPrefixOf w.here ∨ w.directories.any (place.isPrefixOf ·) ∨
    w.files.any fun file => place ≠ file.1 ∧ place.isPrefixOf file.1

/-- Follows the parts of a path from a place on. Every part but the last must lead to a
directory. -/
def follow (w : Workspace) : Place → List String → Except Obstacle Place
  | place, [] => .ok place
  | place, part :: rest =>
    if w.isDirectory place then
      if Path.nameLimit < part.utf8ByteSize then .error .longName
      else follow w (if Path.isIdle part then place else Path.step place part) rest
    else if (w.content? place).isSome then .error .notDirectory
    else .error .missing

/-- The place that a path leads to. -/
def locate (w : Workspace) (path : String) : Except Obstacle Place :=
  if path = "" then .error .missing
  else w.follow (if Path.isAbsolute path then [] else w.here) (Path.parts path)

/-- What is found at a path. -/
def status (w : Workspace) (path : String) : Status :=
  match w.locate path with
  | .error .longName => .longName
  | .error _ => .absent
  | .ok place =>
    if w.isDirectory place then .directory
    else match w.content? place with
      | some content => .file content
      | none => .absent

/-- Why a file cannot be written at a path, if it cannot. -/
def obstacle? (w : Workspace) (path : String) : Option Obstacle :=
  match w.locate path with
  | .error obstacle => some obstacle
  | .ok place => if w.isDirectory place then some .directory else none

/-- The places that a path leads through, the last one left out. -/
def ways (w : Workspace) (path : String) : List Place :=
  let names := Path.names path
  (List.range names.length).map fun count =>
    (names.take count).foldl Path.step (if Path.isAbsolute path then [] else w.here)

/-- The most bytes of a path. -/
def pathLimit : Nat := 4095

/-- The most directories that are made one after the other. -/
def makingLimit : Nat := 980

/-- Why a file cannot be made at a path together with the directories on the way. -/
inductive Unmakeable where
  /-- A directory is there already. -/
  | directory
  /-- A file is on the way. -/
  | fileOnTheWay
  /-- A name or the path is too long. -/
  | longName
  /-- There are too many directories to make. -/
  | tooDeep
  deriving Repr, DecidableEq

/-- The place of a file that can be made at a path together with the directories on the way. -/
def makeable (w : Workspace) (path : String) : Except Unmakeable Place :=
  let place := Path.absolute w.here path
  let names := Path.names path
  let ways := w.ways path
  if names.any (Path.nameLimit < ·.utf8ByteSize) ∨ pathLimit < (Path.shown path).utf8ByteSize ∨
      pathLimit < place.text.utf8ByteSize then .error .longName
  else if (ways ++ (List.range place.length).map place.take).any fun p =>
      (w.content? p).isSome then .error .fileOnTheWay
  else if makingLimit < (ways.filter fun p => ¬ w.isDirectory p).length then .error .tooDeep
  else if w.isDirectory place then .error .directory
  else .ok place

/-- A workspace in which a file has been made at a path, unless it was there, with the directories
on the way. -/
def make (w : Workspace) (path : String) : Workspace :=
  let place := Path.absolute w.here path
  { w with
    directories := w.ways path ++ w.directories
    files := if (w.content? place).isSome then w.files else (place, #[]) :: w.files }

end Workspace

end RiscvListing
