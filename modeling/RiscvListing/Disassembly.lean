import RiscvListing.Image.Container
import RiscvListing.Journal.Run
import RiscvListing.Listing
import RiscvListing.Settings

/-!
# Disassembly

From the bytes of an image to its listing: the container is read, the labels of the code are found,
every word is decoded, and only then the listing is written.

## Main definitions

* `Disassembly` — what becomes of an image.
* `Disassembly.load`, `Disassembly.resolve`, `Disassembly.decode` — the steps.
* `Disassembly.disassemble` — all steps but the writing.
* `Disassembly.run` — all steps, with what is left in the file of the listing.
* `Disassembly.Files`, `Disassembly.Job` — the files around runs, and an image with the path of its
  listing.
* `Disassembly.runEach` — jobs one after the other, with one journal and the same files.
-/

namespace RiscvListing

/-- What becomes of an image. -/
structure Disassembly where
  /-- The absolute path of the image. -/
  path : String
  /-- The file header. -/
  header : Header
  /-- The section with the code. -/
  code : SectionHeader
  /-- The symbols. -/
  symbols : List Symbol
  /-- The labels. -/
  resolution : Resolution
  /-- The decoded words. -/
  lines : List CodeLine
  deriving Repr, DecidableEq

namespace Disassembly

/-- An image to disassemble. -/
structure Source where
  /-- The path as it is shown. -/
  shown : String
  /-- The last part of the path. -/
  name : String
  /-- The absolute path. -/
  path : String
  /-- The image. -/
  content : Bytes
  /-- Why the image cannot be judged, if it cannot. -/
  refusal : Option Fault := none

/-- The file a listing is written to. -/
structure Destination where
  /-- The absolute path. -/
  path : String
  /-- Why the file cannot be opened, if it cannot. -/
  refusal : Option Fault := none
  /-- What the file holds, if there is one. -/
  content : Option Bytes := none

/-- What a run leaves behind. -/
structure Report where
  /-- The disassembly, or the fault that ended the run. -/
  result : Except Fault Disassembly
  /-- What the file of the listing holds, if there is one. -/
  output : Option Bytes
  /-- The journal. -/
  journal : Journal
  /-- The number of records made before the file of the listing was opened, if it was. -/
  opened : Option Nat := none

/-- The container of an image that is not too large. -/
def load (settings : Settings) (content : Bytes) : Run Container := do
  if settings.sizeLimit ≠ 0 ∧ settings.sizeLimit < content.size then
    Run.log .error <|
      s!"File too large: {Numeral.grouped content.size} bytes " ++
        s!"(max: {Numeral.grouped settings.sizeLimit} bytes)"
    Run.lift (.error (.illegalFile .size))
  Run.within "parse" (Run.follow (Container.read content))

/-- The labels of the code. -/
def resolve (settings : Settings) (content : Bytes) (container : Container) : Run Resolution :=
  Run.within "labels" do
    let words ← Run.lift (container.codeWords content)
    let resolution ← Run.lift (Resolution.resolve settings.labels words container.symbols)
    let functions := (Resolution.ofFunctions container.symbols).size
    Run.log .debug <|
      s!"Resolved {Numeral.decimal resolution.jumps.size} jump(s); " ++
        s!"{Numeral.decimal functions} function label(s), " ++
        s!"{Numeral.decimal (resolution.labels.size - functions)} synthetic label(s)"
    return resolution

/-- The lines of the code up to the first word that is no instruction, and the fault of that one. -/
def decode (content : Bytes) (container : Container) (resolution : Resolution) :
    Except Fault (List CodeLine × Option Fault) := do
  return CodeLine.decodeAll resolution.jumps resolution.labels (← container.codeWords content)

/-- The lines of the code, all of them or a fault. -/
def decodeAll (content : Bytes) (container : Container) (resolution : Resolution) :
    Except Fault (List CodeLine) := do
  match ← decode content container resolution with
  | (lines, none) => return lines
  | (_, some fault) => .error fault

/-- The disassembly of an image. -/
def disassemble (settings : Settings) (source : Source) : Run Disassembly := do
  Run.log .info s!"Disassembling {source.shown}"
  let (container, resolution, lines) ← Run.timed s!"disassembly of {source.name}" do
    Run.lift (source.refusal.elim (.ok ()) .error)
    let container ← load settings source.content
    let resolution ← resolve settings source.content container
    let lines ← Run.within "decode" (Run.lift (decodeAll source.content container resolution))
    return (container, resolution, lines)
  Run.log .debug <|
    s!"{Numeral.decimal lines.length} instruction(s), " ++
      s!"{Numeral.decimal container.symbols.length} symbol(s), " ++
      s!"label counter {Numeral.decimal resolution.counter}"
  return {
    path := source.path
    header := container.header
    code := container.code
    symbols := container.symbols
    resolution, lines }

/-- The listing of a disassembly as one text. -/
def render (d : Disassembly) : String := Listing.render d.lines d.symbols

/-- Writes the listing of a disassembly: the fault that stopped the writing, and what the file holds
afterwards. -/
def write (settings : Settings) (destination : Destination) (d : Disassembly) :
    Except Fault Unit × Option Bytes :=
  match destination.refusal with
  | some fault => (.error fault, destination.content)
  | none =>
    match Listing.file settings.encoding d.lines d.symbols with
    | (content, some fault) => (.error fault, some content)
    | (content, none) => (.ok (), some content)

/-- Disassembles an image and writes its listing. -/
def run (settings : Settings) (source : Source) (destination : Destination) (journal : Journal) :
    Report :=
  match (disassemble settings source).outcome journal with
  | (.error fault, journal) => { result := .error fault, output := destination.content, journal }
  | (.ok d, journal) =>
    let (written, output) := write settings destination d
    let finish : Run Disassembly := Run.within "write" do
      Run.lift written
      Run.log .info s!"Listing written to {destination.path}"
      return d
    let (result, after) := finish.outcome journal
    let opened := if destination.refusal.isSome then none else some journal.records.size
    { result, output, journal := after, opened }

/-! ### Runs one after the other -/

/-- What each file holds, if there is one, by its absolute path. -/
abbrev Files := String → Option Bytes

/-- The files with another content at a path. -/
def Files.put (files : Files) (path : String) (content : Option Bytes) : Files :=
  fun other => if other = path then content else files other

/-- An image to disassemble and where its listing is written to. -/
structure Job where
  /-- The image, as it is when its turn comes. -/
  source : Source
  /-- The absolute path of the listing. -/
  target : String
  /-- Why the file of the listing cannot be opened when its turn comes, if it cannot. -/
  refusal : Option Fault := none

namespace Job

/-- The files when the turn of a job has come: its image is at its path. -/
def place (job : Job) (files : Files) : Files := files.put job.source.path (some job.source.content)

/-- The file of the listing, as the job finds it. -/
def destination (job : Job) (files : Files) : Destination where
  path := job.target
  refusal := job.refusal
  content := job.place files job.target

/-- Does a job. -/
def run (settings : Settings) (job : Job) (files : Files) (journal : Journal) : Report :=
  Disassembly.run settings job.source (job.destination files) journal

/-- The files after a job. -/
def filesAfter (job : Job) (files : Files) (report : Report) : Files :=
  (job.place files).put job.target report.output

end Job

/-- Does jobs one after the other. Each of them goes on with the journal and with the files that the
one before leaves. -/
def runEach (settings : Settings) : List Job → Files → Journal → List Report
  | [], _, _ => []
  | job :: rest, files, journal =>
    let report := job.run settings files journal
    report :: runEach settings rest (job.filesAfter files report) report.journal

end Disassembly

end RiscvListing
