import RiscvListing.Command.Arguments
import RiscvListing.Configuration
import RiscvListing.Export
import RiscvListing.Journal.LogFile
import RiscvListing.View

/-!
# Runs of the command

From a command line and the files around it to what is printed, what is written and how the command
exits. The times in the log are not known before the work is done, so that a run has two parts: the
work, and its outcome at given times.

## Main definitions

* `Command.Outcome` — what a run leaves.
* `Command.Work`, `Command.start` — the work.
* `Command.Work.outcome` — the outcome of the work.
* `Command.run` — both.
-/

namespace RiscvListing.Command

/-- What a run leaves. -/
structure Outcome where
  /-- The exit code. -/
  code : Nat
  /-- The text on the standard output. -/
  output : String := ""
  /-- The text on the standard error output. -/
  errors : String := ""
  /-- The files that were written, with what they hold. -/
  written : List (Place × Bytes) := []

/-- The work of a run. -/
structure Work where
  /-- What was to be done. -/
  invocation : Invocation
  /-- How it was to be done. -/
  configuration : Configuration
  /-- The place of the log file, if there is one. -/
  log : Option Place
  /-- What became of it. -/
  report : Disassembly.Report

/-! ### Work -/

/-- The image of an invocation. -/
def Invocation.source (w : Workspace) (c : Configuration) (i : Invocation) :
    Disassembly.Source where
  shown := Path.shown i.input
  name := Path.name i.input
  path := Place.text (Path.absolute w.here i.input)
  content := i.image
  refusal := c.sizeFault?

/-- The listing's file of an invocation. -/
def Invocation.destination (w : Workspace) (c : Configuration) (i : Invocation) :
    Disassembly.Destination where
  path := Place.text (Path.absolute w.here i.output)
  refusal := c.encodingFault?.or <| (w.obstacle? (Path.shown i.output)).map fun obstacle =>
    .unopened obstacle.number obstacle.reason (Text.quoted (Path.shown i.output))
  content := w.content? (Path.absolute w.here i.output)

/-- The text on the standard error output that ends a run which was cut off. -/
def cutOffText : String := "Traceback"

/-- A run that was cut off. -/
def cutOff : Outcome where
  code := 1
  errors := cutOffText

/-- A configuration that cannot be loaded. The text of the problem is printed as markup, and a flaw
in it ends the run. -/
def misconfigured (width : Nat) (problem : Configuration.Problem) : Outcome :=
  let message := s!"Could not load configuration: {problem.message}"
  match (Terminal.Block.notice .error message).render width with
  | .ok errors => { code := 1, errors }
  | .error _ => cutOff

/-- The place of the log file, and the workspace in which it has been made. -/
def openLog (w : Workspace) (c : Configuration) : Except Outcome (Option Place × Workspace) :=
  match c.logTarget with
  | .none => .ok (none, w)
  | .invalid | .malformed => .error cutOff
  | .file path =>
    match w.makeable path with
    | .ok place => .ok (some place, w.make path)
    | .error _ => .error cutOff

/-- Does the work, unless the command line, the configuration or the log stands in the way. There is
room in memory for labels whose numerals have `room` characters. -/
def start (w : Workspace) (width room : Nat) (arguments : List String) : Except Outcome Work := do
  let options ← (Arguments.parse arguments).mapError fun usage =>
    { code := 2, errors := usage.report }
  if options.help then .error { code := 0, output := help }
  let invocation ← (options.check w).mapError fun usage => { code := 2, errors := usage.report }
  let configuration ← (Configuration.load w options.config).mapError (misconfigured width)
  match configuration.threshold? options.verbose with
  | none => .error cutOff
  | some threshold =>
    let (log, w) ← openLog w configuration
    let report := Disassembly.run (configuration.settings.within room)
      (invocation.source w configuration) (invocation.destination w configuration) { threshold }
    return { invocation, configuration, log, report }

/-! ### Outcomes -/

/-- The title over a failure. -/
def title : Fault.Kind → String
  | .container => "ELF file exception occurred:"
  | .code => "Disassembler exception occurred:"
  | .surroundings => "Something went wrong:"

/-- What is printed about a failure. -/
def failure (width : Nat) (verbose : Bool) (fault : Fault) : String :=
  Terminal.Block.plainMessage width (title fault.kind) ++
    Terminal.Block.plainMessage width fault.message ++ (if verbose then cutOffText else "")

/-- What is printed about a success, and whether that is all there is to print. -/
def success (width : Nat) (c : Configuration) (i : Invocation) (d : Disassembly) : String × Bool :=
  if i.options.json then (d.json.indented ++ "\n", true)
  else if ¬ i.options.view then ("", true)
  else if c.countsRows then
    let saved := Terminal.Block.notice .success s!"Listing saved: {Markup.escape i.output}"
    (View.render width c.settings.shownRows d ++ (saved.render width).toOption.getD "", true)
  else (View.renderStart width d, false)

/-- Records as lines on the standard error output, without tabs and without blanks at their end. -/
def logged (elapsed : String) (records : List Record) : String :=
  String.join (records.map fun r =>
    let text : Terminal.Styled := { chars := Terminal.printed (r.message.render elapsed).toList }
    s!"{r.level.name} {String.ofList (Text.trimEnd text.expandTabs.chars)}\n")

namespace Work

/-- A log file with records added to it, at its place. -/
def logFile (clock : Clock) (work : Work) (place : Place) (before : Bytes) (records : List Record) :
    List (Place × Bytes) :=
  let file : LogFile := { current := before }
  let name := place.getLast?.getD ""
  let after := file.addRecords { digits := Rotation.digitsFor name }
    work.configuration.logsJson clock "cli" records
  (after.files name).map fun (name, content) =>
    (place.dropLast ++ [name], content)

/-- The files after the work. Where the log file is the file of the listing too, the listing takes
the place of the records made before it was written. -/
def files (w : Workspace) (clock : Clock) (work : Work) : List (Place × Bytes) :=
  let records := work.report.journal.records.toList
  let target := Path.absolute w.here work.invocation.output
  let listing := work.report.opened.map fun count => (count, work.report.output.getD #[])
  match work.log, listing with
  | none, none => []
  | none, some (_, content) => [(target, content)]
  | some place, none => work.logFile clock place ((w.content? place).getD #[]) records
  | some place, some (count, content) =>
    if place = target then work.logFile clock place content (records.drop count)
    else work.logFile clock place ((w.content? place).getD #[]) records ++ [(target, content)]

/-- The outcome of the work on a terminal of a given width. -/
def outcome (w : Workspace) (width : Nat) (clock : Clock) (work : Work) : Outcome :=
  let records := logged clock.elapsed work.report.journal.records.toList
  let written := work.files w clock
  match work.report.result with
  | .ok d =>
    let (output, complete) := success width work.configuration work.invocation d
    if complete then { code := 0, output, errors := records, written }
    else { code := 1, output, errors := records ++ cutOffText, written }
  | .error fault =>
    { code := 1
      errors := records ++ failure width work.invocation.options.verbose fault
      written }

end Work

/-- Runs the command. -/
def run (w : Workspace) (width room : Nat) (clock : Clock) (arguments : List String) : Outcome :=
  match start w width room arguments with
  | .error outcome => outcome
  | .ok work => work.outcome w width clock

end RiscvListing.Command
