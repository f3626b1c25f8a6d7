import RiscvListing.Text.Display

/-!
# Usage of the command

The help text, and what is said about a command line that cannot be understood.

## Main definitions

* `Command.help` — the help text.
* `Command.Usage`, `Command.Usage.message`, `Command.Usage.report` — mistakes and their wording.
-/

namespace RiscvListing.Command

/-- How the command is called. -/
def synopsis : String := "Usage: rvdisasm [OPTIONS] INPUT_PATH OUTPUT_PATH\n"

/-- The help text. -/
def help : String :=
  synopsis ++
  "\n" ++
  "  Disassemble a 32-bit little-endian RISC-V ELF executable.\n" ++
  "\n" ++
  "  INPUT_PATH is the ELF file to read; OUTPUT_PATH receives the ``.text``\n" ++
  "  listing followed by the ``.symtab`` dump.\n" ++
  "\n" ++
  "  Examples:\n" ++
  "\n" ++
  "      rvdisasm a.out listing.txt\n" ++
  "      rvdisasm a.out listing.txt --show --verbose\n" ++
  "\n" ++
  "Options:\n" ++
  "  -c, --config FILE  TOML configuration file.  Default: rvdisasm.toml if\n" ++
  "                     present.\n" ++
  "  -s, --show         Render the listing and symbol table in the terminal.\n" ++
  "  --json             Print the decoded result as JSON to stdout.\n" ++
  "  -v, --verbose      Enable verbose/debug output.\n" ++
  "  --help             Show this message and exit.\n"

/-- What takes the path of a file. -/
inductive Parameter where
  | config
  | input
  | output
  deriving Repr, DecidableEq

/-- A parameter as it is named in a message. -/
def Parameter.name : Parameter → String
  | config => "'--config' / '-c'"
  | input => "'INPUT_PATH'"
  | output => "'OUTPUT_PATH'"

/-- A mistake in a command line. -/
inductive Usage where
  /-- No option has the name. -/
  | noSuchOption (name : String)
  /-- Nothing follows an option that needs a value. -/
  | missingValue (option : String)
  /-- An option without a value was given one. -/
  | unwantedValue (option : String)
  /-- An argument is not given. -/
  | missingArgument (parameter : Parameter)
  /-- There is no file at the path. -/
  | absent (parameter : Parameter) (path : String)
  /-- A directory is at the path. -/
  | directory (parameter : Parameter) (path : String)
  /-- There are more arguments than two. -/
  | extra (arguments : List String)
  deriving Repr, DecidableEq

namespace Usage

/-- The text of a mistake. -/
def message : Usage → String
  | noSuchOption name => s!"No such option: {name}"
  | missingValue option => s!"Option {Text.quoted option} requires an argument."
  | unwantedValue option => s!"Option {Text.quoted option} does not take a value."
  | missingArgument parameter => s!"Missing argument {parameter.name}."
  | absent parameter path =>
    s!"Invalid value for {parameter.name}: File {Text.quoted path} does not exist."
  | directory parameter path =>
    s!"Invalid value for {parameter.name}: File {Text.quoted path} is a directory."
  | extra [argument] => s!"Got unexpected extra argument ({argument})"
  | extra arguments =>
    "Got unexpected extra arguments (" ++ " ".intercalate arguments ++ ")"

/-- Whether the usage of the command is shown with a mistake. It is not where an option and its
value do not fit. -/
def showsSynopsis : Usage → Bool
  | missingValue _ | unwantedValue _ => false
  | _ => true

/-- What is printed about a mistake. -/
def report (u : Usage) : String :=
  let line := s!"Error: {u.message}\n"
  if u.showsSynopsis then synopsis ++ "Try 'rvdisasm --help' for help.\n\n" ++ line else line

end Usage

end RiscvListing.Command
