import RiscvListing.Command.Usage
import RiscvListing.Workspace.Basic

/-!
# Command-line arguments

Options stand anywhere in front of a double hyphen. Those of one letter can be joined, and the value
of one of them can follow it directly; the value of a long one can follow an equals sign.

## Main definitions

* `Command.Arguments`, `Command.Arguments.parse` — the options and paths of a command line.
* `Command.Invocation`, `Command.Arguments.check` — what is to be done, once the paths have been
  looked at.
-/

namespace RiscvListing.Command

/-- The options and paths of a command line. -/
structure Arguments where
  /-- The path of the configuration. -/
  config : Option String := none
  /-- Whether the disassembly is shown on the terminal. -/
  view : Bool := false
  /-- Whether the disassembly is printed as JSON. -/
  json : Bool := false
  /-- Whether everything is logged. -/
  verbose : Bool := false
  /-- Whether the help text is asked for. -/
  help : Bool := false
  /-- The paths, in order. -/
  paths : List String := []
  deriving Repr, DecidableEq

namespace Arguments

/-- What an option leaves: the arguments so far, and its name if its value is still to come. -/
abbrev Step := Except Usage (Arguments × Option String)

/-- The options of one letter in a cluster. -/
def short (a : Arguments) : List Char → Step
  | [] => .ok (a, none)
  | 's' :: rest => short { a with view := true } rest
  | 'v' :: rest => short { a with verbose := true } rest
  | ['c'] => .ok (a, some "-c")
  | 'c' :: value => .ok ({ a with config := some (String.ofList value) }, none)
  | letter :: _ => .error (.noSuchOption (String.ofList ['-', letter]))

/-- A long option that takes no value. -/
def flag (name : String) (value : Option String) (a : Arguments) : Step :=
  if value.isSome then .error (.unwantedValue name) else .ok (a, none)

/-- A long option with the value behind its equals sign. -/
def long (a : Arguments) (name : String) (value : Option String) : Step :=
  match name with
  | "--config" =>
    match value with
    | some value => .ok ({ a with config := some value }, none)
    | none => .ok (a, some name)
  | "--show" => flag name value { a with view := true }
  | "--json" => flag name value { a with json := true }
  | "--verbose" => flag name value { a with verbose := true }
  | "--help" => flag name value { a with help := true }
  | name => .error (.noSuchOption name)

/-- An argument in front of the double hyphen. A hyphen alone is a path. -/
def step (a : Arguments) (argument : String) : Step :=
  match argument.toList with
  | '-' :: '-' :: rest =>
    let name := '-' :: '-' :: rest.takeWhile (· ≠ '=')
    let value := match rest.dropWhile (· ≠ '=') with
      | [] => none
      | _ :: value => some (String.ofList value)
    a.long (String.ofList name) value
  | '-' :: letter :: rest => a.short (letter :: rest)
  | _ => .ok ({ a with paths := a.paths ++ [argument] }, none)

/-- Reads further arguments. -/
def readAll (a : Arguments) : List String → Except Usage Arguments
  | [] => .ok a
  | argument :: rest =>
    if argument = "--" then .ok { a with paths := a.paths ++ rest }
    else match a.step argument with
      | .error usage => .error usage
      | .ok (a, none) => readAll a rest
      | .ok (a, some option) =>
        match rest with
        | [] => .error (.missingValue option)
        | value :: rest => readAll { a with config := some value } rest

/-- Reads a command line. -/
def parse (arguments : List String) : Except Usage Arguments := readAll {} arguments

end Arguments

/-- What is to be done. -/
structure Invocation where
  /-- The path of the image. -/
  input : String
  /-- The content of the image. -/
  image : Bytes
  /-- The path of the listing. -/
  output : String
  /-- The options. -/
  options : Arguments

/-- The content of a file that has to be there. -/
def requireFile (w : Workspace) (parameter : Parameter) (path : String) : Except Usage Bytes :=
  match w.status path with
  | .absent | .longName => .error (.absent parameter path)
  | .directory => .error (.directory parameter path)
  | .file content => .ok content

/-- Looks at the paths of a command line, the configuration first. -/
def Arguments.check (w : Workspace) (a : Arguments) : Except Usage Invocation := do
  match a.config with
  | some path => discard (requireFile w .config path)
  | none => pure ()
  match a.paths with
  | [] => .error (.missingArgument .input)
  | input :: rest =>
    let image ← requireFile w .input input
    match rest with
    | [] => .error (.missingArgument .output)
    | output :: extra =>
      if w.status output = .directory then .error (.directory .output output)
      if ¬ extra.isEmpty then .error (.extra extra)
      return { input, image, output, options := a }

end RiscvListing.Command
