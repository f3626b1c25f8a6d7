import RiscvListing.Journal.Basic
import RiscvListing.Text.Template

/-!
# Reports

A message is reported by a template, the values for its places, and named values that go with it.
Some names have a meaning of their own: one is for the error under way, one for a table with values
for the record itself, and two are about the place in the program, which is not recorded. One of
these two has to be a number all the same.

## Main definitions

* `Attachment`, `Attachment.ofMembers` — what goes with a message, from named values.
* `Attachment.record?` — the record of a message.
* `Session.report` — a message given by a template.
* `Step`, `Session.step` — what can happen to a session.
-/

namespace RiscvListing

/-- What goes with a message. -/
structure Attachment where
  /-- Further values, null if there are none. -/
  extra : Json := .null
  /-- The error that goes with it. -/
  mishap : Mishap := .none
  /-- Values for the record itself. -/
  attributes : List (String × Json) := []
  /-- How far from the report the place in the program is. -/
  distance : Json := .number 1
  deriving Repr

namespace Attachment

/-- Why named values cannot go with a message. -/
inductive Problem where
  /-- A value is not of the kind that its name asks for, or its name is that of the message. -/
  | kind
  /-- A value for the record itself has a name that the record uses already. -/
  | taken
  deriving Repr, DecidableEq

/-- The names that have a meaning of their own. -/
def ownNames : List String := ["extra", "exc_info", "stack_info", "stacklevel"]

/-- The names that a record uses already. -/
def takenNames : List String :=
  ["message", "asctime", "name", "msg", "args", "levelname", "levelno", "pathname", "filename",
   "module", "exc_info", "exc_text", "stack_info", "lineno", "funcName", "created", "msecs",
   "relativeCreated", "thread", "threadName", "processName", "process"]

/-- The values for the record itself. What counts as false stands for none. -/
def attributesOf : Option Json → Except Problem (List (String × Json))
  | none => .ok []
  | some (.object members) => .ok members
  | some value => if value.isTrue then .error .kind else .ok []

/-- What goes with a message, from named values and the text of an error. -/
def ofMembers (members : List (String × Json)) (error : Option String) :
    Except Problem Attachment := do
  if members.any fun member => member.1 = "msg" ∨ member.1 = "self" then throw .kind
  let attributes ← attributesOf (members.lookup "extra")
  let others := members.filter fun member => ¬ ownNames.contains member.1
  return {
    extra :=
      if others.isEmpty then (attributes.lookup "rv_extra").getD .null else .object others
    mishap :=
      match error with
      | some text => .known text
      | none => if (members.lookup "exc_info").any Json.isTrue then .unknown else .none
    attributes
    distance := (members.lookup "stacklevel").getD (.number 1) }

/-- Whether a value for the record itself has a name that the record uses already. -/
def isTaken (a : Attachment) : Bool :=
  a.attributes.any fun member => takenNames.contains member.1

/-- Whether the distance to the place in the program is a number, or a truth value in place of
one. -/
def hasPlace (a : Attachment) : Bool :=
  match a.distance with
  | .number _ | .bool _ => true
  | _ => false

/-- The record of a template with its values, if the values fit. -/
def record? (a : Attachment) (level : Level) (operation : Option String) (template : String)
    (values : List Json) : Except Problem (Option Record) :=
  if ¬ a.hasPlace then .error .kind
  else if a.isTaken then .error .taken
  else
    .ok <| (Template.fill? template values).map fun message =>
      { level, operation, message := .text message.text, extra := a.extra, mishap := a.mishap,
        isWritable := message.isWritable }

end Attachment

/-! ### Steps -/

/-- What can happen to a session. -/
inductive Step where
  /-- A message is reported by a template with its values, with named values and the text of an
  error. -/
  | report (level : Level) (template : String) (values : List Json)
      (members : List (String × Json)) (error : Option String)
  /-- An operation starts. -/
  | enter (operation : String)
  /-- A timed stretch of work starts. -/
  | time (label : String)
  /-- The innermost scope ends, of itself or by an error with a text. -/
  | leave (error : Option String)
  deriving Repr

namespace Session

/-- Records a template with its values, if it is grave enough. One that the values do not fit is not
recorded. -/
def report (s : Session) (level : Level) (template : String) (values : List Json)
    (attachment : Attachment) : Except Attachment.Problem Session := do
  if ¬ level.meets s.journal.threshold then return s
  match ← attachment.record? level s.journal.operation template values with
  | some record => return { s with journal := s.journal.add record }
  | none => return s

/-- The session after a step, unless it is a message that is refused. A scope ends in the same way
whether or not an error ends it. -/
def step (s : Session) : Step → Except Attachment.Problem Session
  | .report level template values members error => do
    s.report level template values (← Attachment.ofMembers members error)
  | .enter operation => .ok (s.enter operation)
  | .time label => .ok (s.time label)
  | .leave _ => .ok s.leave

end Session

end RiscvListing
