/-!
# Levels

How grave a record is, and the least grave level a journal keeps.

## Main definitions

* `Level`, `Level.rank`, `Level.name` — the levels, their order and their names.
* `Level.threshold` — the least level kept, from the name in the settings.
* `Level.isTaken` — whether a name cannot be that of a level.
-/

namespace RiscvListing

/-- How grave a record is. -/
inductive Level where
  | debug
  | info
  | warning
  | error
  | critical
  deriving Repr, DecidableEq

namespace Level

/-- The order of the levels. -/
def rank : Level → Nat
  | debug => 10
  | info => 20
  | warning => 30
  | error => 40
  | critical => 50

/-- The name of a level. -/
def name : Level → String
  | debug => "DEBUG"
  | info => "INFO"
  | warning => "WARNING"
  | error => "ERROR"
  | critical => "CRITICAL"

/-- The capitals of a letter, as far as they are ASCII. Some letters that are not ASCII have such
capitals, and a ligature has several. -/
def capital (c : Char) : List Char :=
  match c with
  | 'ı' => ['I']
  | 'ſ' => ['S']
  | 'ß' => ['S', 'S']
  | 'ﬀ' => ['F', 'F']
  | 'ﬁ' => ['F', 'I']
  | 'ﬂ' => ['F', 'L']
  | 'ﬃ' => ['F', 'F', 'I']
  | 'ﬄ' => ['F', 'F', 'L']
  | 'ﬅ' | 'ﬆ' => ['S', 'T']
  | c => [c.toUpper]

/-- A name in capitals. -/
def capitals (name : String) : String := String.ofList (name.toList.flatMap capital)

/-- Whether a name in any case stands for something other than a level. -/
def isTaken (name : String) : Bool := capitals name = "BASIC_FORMAT" ∨ capitals name = "_STYLES"

/-- The least level kept under a name in any case. An unset level keeps warnings, and a name that
is not known keeps information. -/
def threshold (name : String) : Level :=
  match capitals name with
  | "DEBUG" => debug
  | "WARNING" | "WARN" | "NOTSET" => warning
  | "ERROR" => error
  | "CRITICAL" | "FATAL" => critical
  | _ => info

/-- Whether a level is kept under a threshold. -/
def meets (level threshold : Level) : Bool := threshold.rank ≤ level.rank

end Level

end RiscvListing
