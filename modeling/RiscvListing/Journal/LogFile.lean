import RiscvListing.Image.Bytes
import RiscvListing.Journal.Basic
import RiscvListing.Text.Align
import RiscvListing.Workspace.Path

/-!
# Log files

Records as lines of text, plain or as JSON values, and the file they are added to. A file that
would grow too large is set aside: its older copies move on by one, and those beyond the number to
keep are dropped.

## Main definitions

* `Clock` — the times that go into a line.
* `Record.line` — the line of a record.
* `LogFile`, `LogFile.add`, `LogFile.files` — a file with its older copies.
-/

namespace RiscvListing

/-- The times that go into a line. -/
structure Clock where
  /-- The local date and time with the offset from universal time. -/
  stamp : String
  /-- The universal date and time with microseconds. -/
  instant : String
  /-- The seconds that a timed stretch of work took. -/
  elapsed : String

/-- The name under which a tool logs. -/
def loggerName (tool : String) : String := "rvdisasm." ++ tool

namespace Record

/-- A text with another on a new line behind it. -/
def below (line text : String) : String :=
  if line.toList.getLast? = some '\n' then line ++ text else line ++ "\n" ++ text

/-- A record as plain text. The text of an error stands on a line of its own. -/
def plainLine (clock : Clock) (tool : String) (r : Record) : String :=
  let line := s!"{clock.stamp} | {Text.alignLeft 8 r.level.name} | {loggerName tool} | " ++
    r.message.render clock.elapsed
  match r.mishap with
  | .none => line
  | .unknown => below line "NoneType: None"
  | .known error => below line error

/-- A record as a JSON value. What is absent is left out. -/
def json (clock : Clock) (tool : String) (r : Record) : Json :=
  let operation := r.operation.toList.map fun name => ("operation", Json.text name)
  let extra := match r.extra with
    | .null => []
    | value => [("extra", value)]
  let error := match r.mishap with
    | .known text => [("exc_info", Json.text text)]
    | _ => []
  .object <|
    [("timestamp", .text clock.instant), ("level", .text r.level.name),
     ("logger", .text (loggerName tool)), ("message", .text (r.message.render clock.elapsed)),
     ("tool_name", .text tool)] ++ operation ++ extra ++ error

/-- The line of a record. -/
def line (json : Bool) (clock : Clock) (tool : String) (r : Record) : String :=
  if json then (r.json clock tool).compact else r.plainLine clock tool

end Record

/-- When a file is set aside, and how many older copies are kept. -/
structure Rotation where
  /-- The size a file stays below; nothing is set aside unless it is positive. -/
  maxBytes : Int := 10485760
  /-- The number of copies; nothing is set aside unless it is positive. -/
  copies : Int := 5
  /-- The most digits that the number of a copy can have. -/
  digits : Nat := 255
  deriving Repr, DecidableEq

/-- The most digits that the number of a copy can have, which stands behind the name of the file and
a point. -/
def Rotation.digitsFor (name : String) : Nat := Path.nameLimit - name.utf8ByteSize - 1

/-- A file with its older copies. -/
structure LogFile where
  /-- What the file holds. -/
  current : Bytes := #[]
  /-- The older copies, the latest first. -/
  older : List Bytes := []
  deriving Repr, DecidableEq

namespace LogFile

/-- Whether the file has to be set aside before a text is added. The size is in bytes, the text is
counted in characters. -/
def isDue (rotation : Rotation) (f : LogFile) (text : String) : Bool :=
  0 < rotation.maxBytes ∧ 0 < rotation.copies ∧
    rotation.maxBytes ≤ f.current.size + text.length

/-- The greatest number that a copy gets when the file is set aside. -/
def lastCopy (rotation : Rotation) (f : LogFile) : Nat :=
  min rotation.copies.toNat (f.older.length + 1)

/-- Sets the file aside, unless there is no room for the number of a copy in its name. -/
def rotate? (rotation : Rotation) (f : LogFile) : Option LogFile :=
  if rotation.digits < (Numeral.decimal (f.lastCopy rotation)).length then none
  else some { current := #[], older := (f.current :: f.older).take rotation.copies.toNat }

/-- Adds a line, if a file can hold it. A line for which the file cannot be set aside is lost. -/
def add (rotation : Rotation) (f : LogFile) (line : String) (isWritable : Bool) : LogFile :=
  let text := line ++ "\n"
  match if f.isDue rotation text then f.rotate? rotation else some f with
  | some f => if isWritable then { f with current := f.current ++ text.toUTF8.data } else f
  | none => f

/-- The older copies of the file at `path` with their paths, numbered from `number` on. -/
def olderFiles (path : String) (number : Nat) : List Bytes → List (String × Bytes)
  | [] => []
  | content :: rest =>
    (s!"{path}.{Numeral.decimal number}", content) :: olderFiles path (number + 1) rest

/-- The file at `path` and its older copies, with their paths. -/
def files (path : String) (f : LogFile) : List (String × Bytes) :=
  (path, f.current) :: olderFiles path 1 f.older

/-- Adds the lines of records. -/
def addRecords (rotation : Rotation) (json : Bool) (clock : Clock) (tool : String)
    (records : List Record) (f : LogFile) : LogFile :=
  records.foldl (fun f record => f.add rotation (record.line json clock tool) record.isWritable) f

end LogFile

end RiscvListing
