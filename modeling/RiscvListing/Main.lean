import RiscvListing.Command.Run
import Std.Time

/-!
# The command

Looks at the files a command line names, runs the command on them, writes what it leaves and prints
what it says.

## Main definitions

* `Surroundings.look` — adds what lies on the way of a path to a workspace.
* `Surroundings.clock` — the present time.
* `main` — the command.
-/

namespace RiscvListing.Surroundings

/-- Whether a directory is at a path. -/
def isDirectory (path : String) : IO Bool := do
  try
    (← IO.FS.realPath path).isDir
  catch _ => return false

/-- The content of the file at a path. -/
def content? (path : String) : IO (Option Bytes) := do
  try
    return some (← IO.FS.readBinFile path).data
  catch _ => return none

/-- Adds what is found at a place. -/
def lookAt (w : Workspace) (place : Place) : IO Workspace := do
  if ← isDirectory place.text then return { w with directories := place :: w.directories }
  match ← content? place.text with
  | some content => return { w with files := (place, content) :: w.files }
  | none => return w

/-- Adds what is found at a place and behind each of some names. -/
def follow (w : Workspace) (place : Place) : List String → IO Workspace
  | [] => lookAt w place
  | name :: rest => do follow (← lookAt w place) (Path.step place name) rest

/-- Adds what lies on the way of a path. -/
def look (w : Workspace) (path : String) : IO Workspace :=
  follow w (if Path.isAbsolute path then [] else w.here) (Path.names path)

/-- The files that a command line names. -/
def workspace (arguments : List String) : IO Workspace := do
  let mut w : Workspace := { here := Path.names (toString (← IO.currentDir)) }
  match Command.Arguments.parse arguments with
  | .error _ => return w
  | .ok options =>
    for path in options.paths ++ options.config.toList do
      w ← look w path
    match Configuration.load w options.config with
    | .error _ => return w
    | .ok configuration =>
      match configuration.logTarget with
      | .file path => look w path
      | _ => return w

/-- The width of the terminal. -/
def width : IO Nat := do
  return ((← IO.getEnv "COLUMNS").bind String.toNat?).getD 80

/-- The number of characters that there is room for in memory. -/
def room : Nat := 0x1000000000

/-- The present time, and the seconds that have passed since `start`, which is in milliseconds. -/
def clock (start : Nat) : IO Clock := do
  let now ← Std.Time.DateTime.now
  let universal := Std.Time.DateTime.ofTimestamp now.toTimestamp .UTC
  let elapsed := (← IO.monoMsNow) - start
  return {
    stamp := now.format "uuuu-MM-dd'T'HH:mm:ssxx"
    instant := universal.format "uuuu-MM-dd'T'HH:mm:ss.SSSSSSxxx"
    elapsed := s!"{Numeral.decimal (elapsed / 1000)}.{Numeral.padded 10 3 (elapsed % 1000)}" }

/-- Writes a file, making the directories on the way to it. -/
def save (place : Place) (content : Bytes) : IO Unit := do
  IO.FS.createDirAll (Place.text place.dropLast)
  IO.FS.writeBinFile place.text ⟨content⟩

/-- Does the work of a command line. -/
def perform (w : Workspace) (arguments : List String) : IO Command.Outcome := do
  let start ← IO.monoMsNow
  let width ← width
  match Command.start w width room arguments with
  | .error outcome => return outcome
  | .ok work => return work.outcome w width (← clock start)

end RiscvListing.Surroundings

open RiscvListing in
/-- The command. -/
def main (arguments : List String) : IO UInt32 := do
  let w ← Surroundings.workspace arguments
  let outcome ← Surroundings.perform w arguments
  for (place, content) in outcome.written do
    if w.content? place ≠ some content then Surroundings.save place content
  (← IO.getStderr).putStr outcome.errors
  (← IO.getStdout).putStr outcome.output
  return outcome.code.toUInt32
