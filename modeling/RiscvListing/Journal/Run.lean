import RiscvListing.Journal.Basic
import RiscvListing.Journal.Trace

/-!
# Recorded computations

A computation that may fail and that keeps a journal, failed or not. An operation or a timed stretch
of work ends with the computation inside it, whatever its outcome.

## Main definitions

* `Run` — a computation that keeps a journal.
* `Run.log`, `Run.follow` — record a message, record the notes of a traced computation.
* `Run.within`, `Run.timed` — a computation inside a scope.
-/

namespace RiscvListing

/-- A computation that may fail and keeps a journal. -/
abbrev Run := ExceptT Fault (StateM Journal)

namespace Run

variable {α : Type}

/-- The outcome of a computation and the journal after it. -/
def outcome (act : Run α) (j : Journal) : Except Fault α × Journal := act.run.run j

/-- Records a text. -/
def log (level : Level) (text : String) : Run Unit :=
  fun j => (.ok (), j.log level (.text text))

/-- A computation that records nothing. -/
def lift (outcome : Except Fault α) : Run α := fun j => (outcome, j)

/-- Records the notes of a traced computation. -/
def follow (traced : Traced α) : Run α := fun j =>
  (traced.outcome, traced.notes.foldl (fun j note => j.log note.level (.text note.text)) j)

/-- A computation during an operation. -/
def within (operation : String) (act : Run α) : Run α := fun j =>
  let (result, after) := act { j with operation := some operation }
  (result, { after with operation := j.operation })

/-- A computation whose start and end are recorded. -/
def timed (label : String) (act : Run α) : Run α := fun j =>
  let (result, after) := act (j.log .debug (.text s!"Started: {label}"))
  (result, after.log .info (.completed label))

end Run

end RiscvListing
