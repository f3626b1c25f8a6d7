import RiscvListing.Journal.Level
import RiscvListing.Text.Json

/-!
# Journals

A journal keeps the records of a run that are grave enough, in order. Each record carries the
operation that was under way. Operations and timed stretches of work are scopes that nest: an
operation that ends gives way to the one around it, and a timed stretch is announced at both ends.

How long a timed stretch took is not part of a record; it is filled in when a record is written.

## Main definitions

* `Message`, `Mishap`, `Record` — what is recorded.
* `Journal` and `Journal.log` — the records kept.
* `Scope`, `Session` — a journal with open scopes.
* `Session.enter`, `Session.time`, `Session.leave` — a scope starts, the innermost scope ends.
-/

namespace RiscvListing

/-- What a record says. -/
inductive Message where
  /-- A text. -/
  | text (content : String)
  /-- The end of a timed stretch of work. -/
  | completed (label : String)
  deriving Repr, DecidableEq

/-- The text of a message, given the seconds that a timed stretch took. -/
def Message.render (elapsed : String) : Message → String
  | text content => content
  | completed label => s!"Completed: {label} ({elapsed} sec)"

/-- What is known about an error that goes with a record. -/
inductive Mishap where
  /-- There is no error. -/
  | none
  /-- An error is announced, and there is none. -/
  | unknown
  /-- There is an error with a text. -/
  | known (text : String)
  deriving Repr, DecidableEq

/-- An entry of a journal. -/
structure Record where
  /-- How grave it is. -/
  level : Level
  /-- The operation under way. -/
  operation : Option String
  /-- What it says. -/
  message : Message
  /-- Further values, null if there are none. -/
  extra : Json := .null
  /-- The error that goes with it. -/
  mishap : Mishap := .none
  /-- Whether a file can hold what it says. -/
  isWritable : Bool := true
  deriving Repr

/-- The records of a run. -/
structure Journal where
  /-- The least level that is kept. -/
  threshold : Level
  /-- The operation under way. -/
  operation : Option String := none
  /-- The records kept, the oldest first. -/
  records : Array Record := #[]
  deriving Repr

namespace Journal

/-- Adds a record if it is grave enough. -/
def add (j : Journal) (record : Record) : Journal :=
  if record.level.meets j.threshold then { j with records := j.records.push record } else j

/-- Records a message under the present operation. -/
def log (j : Journal) (level : Level) (message : Message) : Journal :=
  j.add { level, operation := j.operation, message }

@[simp] theorem operation_add (j : Journal) (record : Record) :
    (j.add record).operation = j.operation := by
  unfold add
  split <;> rfl

@[simp] theorem operation_log (j : Journal) (level : Level) (message : Message) :
    (j.log level message).operation = j.operation :=
  operation_add j _

end Journal

/-! ### Scopes -/

/-- An open scope. -/
inductive Scope where
  /-- An operation, with the one that was under way before it. -/
  | operation (previous : Option String)
  /-- A timed stretch of work. -/
  | timed (label : String)
  deriving Repr, DecidableEq

/-- A journal with its open scopes, the innermost first. -/
structure Session where
  /-- The journal. -/
  journal : Journal
  /-- The open scopes. -/
  scopes : List Scope := []
  deriving Repr

namespace Session

/-- Starts an operation. -/
def enter (s : Session) (operation : String) : Session where
  journal := { s.journal with operation := some operation }
  scopes := .operation s.journal.operation :: s.scopes

/-- Starts a timed stretch of work. -/
def time (s : Session) (label : String) : Session where
  journal := s.journal.log .debug (.text s!"Started: {label}")
  scopes := .timed label :: s.scopes

/-- Ends the innermost scope. Without an open scope it does nothing. -/
def leave (s : Session) : Session :=
  match s.scopes with
  | [] => s
  | .operation previous :: rest =>
    { journal := { s.journal with operation := previous }, scopes := rest }
  | .timed label :: rest =>
    { journal := s.journal.log .info (.completed label), scopes := rest }

end Session

end RiscvListing
