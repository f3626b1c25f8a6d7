import RiscvListing.Journal.Level
import RiscvListing.Settings
import RiscvListing.Text.Display
import RiscvListing.Toml.Document
import RiscvListing.Workspace.Basic

/-!
# Configurations

A configuration is read from two tables of a TOML file, one about logging and one about
disassembling. Keys that are not known are ignored, keys that are not given have defaults, and the
values are kept as they are, whatever their type.

## Main definitions

* `Configuration` — the values of all keys.
* `Configuration.ofTable`, `Configuration.parse`, `Configuration.load` — a configuration from a
  table, from the text of a file and from a file.
* `Configuration.settings` — the settings of a run.
* `Configuration.sizeFault?`, `Configuration.encodingFault?`, `Configuration.countsRows` — what
  values of another type than expected stand in the way of.
* `Configuration.threshold?`, `Configuration.logTarget` — the least level and the log file.
-/

namespace RiscvListing

/-- The values of all keys. -/
structure Configuration where
  /-- The name of the least level that is logged. -/
  logLevel : Json := .text "WARNING"
  /-- The path of the log file. -/
  logFile : Json := .null
  /-- Whether the log file holds JSON. -/
  logJson : Json := .bool false
  /-- The version of the configuration. -/
  version : Json := .text "1.0.0"
  /-- What synthetic labels start with. -/
  labelStem : Json := .text "LOC_"
  /-- The number of digits of a synthetic label. -/
  labelDigits : Json := .number 5
  /-- The largest size of an image. -/
  sizeLimit : Json := .number 52428800
  /-- The number of lines of code shown in the terminal. -/
  shownRows : Json := .number 200
  /-- The name of the encoding of a listing. -/
  encoding : Json := .text "utf-8"
  deriving Repr

namespace Configuration

/-- Why there is no configuration. -/
inductive Problem where
  /-- There is no file at the path. -/
  | missing (path : String)
  /-- What is at the path cannot be opened as a file. -/
  | unopened (obstacle : Workspace.Obstacle) (path : String)
  /-- The file cannot be read as text, or is no TOML. -/
  | malformed
  /-- Keys in the file are in each other's way. -/
  | conflict (cause : Toml.Conflict) (place : String)
  /-- A number in the file has too many digits. -/
  | tooManyDigits (count : Nat)
  /-- A value in the file is nested too deep. -/
  | tooDeep
  /-- What should be a table is something else. -/
  | notTable (value : Json)
  deriving Repr

/-- The text of a problem. -/
def Problem.message : Problem → String
  | missing path => s!"Configuration file not found: {path}"
  | unopened obstacle path =>
    s!"[Errno {Numeral.decimal obstacle.number}] {obstacle.reason}: {Text.quoted path}"
  | malformed => "Invalid configuration"
  | conflict cause place => s!"{cause.message} (at {place})"
  | tooManyDigits count =>
    s!"Exceeds the limit ({Numeral.decimal Toml.digitLimit} digits) for integer string " ++
      s!"conversion: value has {Numeral.decimal count} digits; " ++
      "use sys.set_int_max_str_digits() to increase the limit"
  | tooDeep => "maximum recursion depth exceeded"
  | notTable value => s!"'{value.kind}' object has no attribute 'items'"

/-- The table of a key, empty if there is none. -/
def tableOf (key : String) (table : Toml.Table) : Except Problem Toml.Table :=
  match Toml.find? key table with
  | none => .ok []
  | some (.object members) => .ok members
  | some value => .error (.notTable value)

/-- The configuration in a table. -/
def ofTable (table : Toml.Table) : Except Problem Configuration := do
  let logging ← tableOf "global" table
  let code ← tableOf "rvdisasm" table
  let default : Configuration := {}
  let get (key : String) (table : Toml.Table) (value : Json) : Json :=
    (Toml.find? key table).getD value
  return {
    logLevel := get "log_level" logging default.logLevel
    logFile := get "log_file" logging default.logFile
    logJson := get "log_json" logging default.logJson
    version := get "version" logging default.version
    labelStem := get "label_prefix" code default.labelStem
    labelDigits := get "label_digits" code default.labelDigits
    sizeLimit := get "max_file_size" code default.sizeLimit
    shownRows := get "show_max_rows" code default.shownRows
    encoding := get "output_encoding" code default.encoding }

/-- The configuration in the text of a file. -/
def parse (text : String) : Except Problem Configuration :=
  match Toml.parse text with
  | .ok table => ofTable table
  | .error .malformed => .error .malformed
  | .error (.conflict cause left) => .error (.conflict cause (Toml.placeText text left))
  | .error (.tooManyDigits count) => .error (.tooManyDigits count)
  | .error .tooDeep => .error .tooDeep

/-- The configuration in a file, or the default one where no path is given. -/
def load (w : Workspace) : (path : Option String) → Except Problem Configuration
  | none => .ok {}
  | some path =>
    let path := Path.shown path
    match w.status path with
    | .absent => .error (.missing path)
    | .longName => .error (.unopened .longName path)
    | .directory => .error (.unopened .directory path)
    | .file content =>
      match String.fromUTF8? ⟨content⟩ with
      | some text => parse text
      | none => .error .malformed

/-! ### Values with a type -/

/-- A number with which others are compared, or the kind of a value that is none. Truth values count
as one and zero, and what counts as false as zero. -/
def limit : Json → Except String Int
  | .number n => .ok n
  | .bool b => .ok (if b then 1 else 0)
  | value => if value.isTrue then .error value.kind else .ok 0

/-- How the numbers of synthetic labels are written. -/
def numbering (c : Configuration) : Numbering :=
  match c.labelDigits with
  | .number n => .ofInt n
  | value => .ofText value.display

/-- The settings of a run. -/
def settings (c : Configuration) : Settings where
  labels := { stem := c.labelStem.display, numbering := c.numbering }
  sizeLimit := (limit c.sizeLimit).toOption.getD 0
  shownRows := (limit c.shownRows).toOption.getD 0
  encoding :=
    match c.encoding with
    | .text name => name
    | _ => "utf-8"

/-- Why an image cannot be judged by its size, if it cannot. -/
def sizeFault? (c : Configuration) : Option Fault :=
  match limit c.sizeLimit with
  | .ok _ => none
  | .error kind => some (.incomparable kind)

/-- Why the encoding of a listing cannot be looked up, if it cannot. -/
def encodingFault? (c : Configuration) : Option Fault :=
  match c.encoding with
  | .null => none
  | .text name => if name.toList.contains '\x00' then some .encodingName else none
  | value => some (.encodingKind value.kind)

/-- Whether the lines of code that are shown can be counted. -/
def countsRows (c : Configuration) : Bool := (limit c.shownRows).isOk

/-- The least level that is logged, unless it is given by something else than the name of one. -/
def threshold? (c : Configuration) (verbose : Bool) : Option Level :=
  if verbose then some .debug
  else
    match c.logLevel with
    | .text name => if Level.isTaken name then none else some (Level.threshold name)
    | _ => none

/-- What is known about the log file. -/
inductive LogTarget where
  /-- There is no log file. -/
  | none
  /-- The log file is at a path. -/
  | file (path : String)
  /-- What is given is no text. -/
  | invalid
  /-- What is given has a character in it that no path can have. -/
  | malformed
  deriving Repr, DecidableEq

/-- The log file. -/
def logTarget (c : Configuration) : LogTarget :=
  match c.logFile with
  | .null => .none
  | .text path => if path.toList.contains '\x00' then .malformed else .file path
  | _ => .invalid

/-- Whether the log file holds JSON. -/
def logsJson (c : Configuration) : Bool := c.logJson.isTrue

end Configuration

end RiscvListing
