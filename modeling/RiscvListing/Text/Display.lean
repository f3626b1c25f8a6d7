import RiscvListing.Text.Escape
import RiscvListing.Text.Json
import RiscvListing.Text.Printable

/-!
# Plain text of values

How values are shown to people: a text stands for itself, and only inside a list or a table of
values it is set in quotation marks.

## Main definitions

* `Text.quoted` — a text in quotation marks, with escapes for what cannot be printed.
* `Json.display`, `Json.kind` — a value as text, and the name of its kind.
-/

namespace RiscvListing

namespace Text

/-- A character between quotation marks `mark`. -/
def quotedCharacter (mark c : Char) : List Char :=
  if c = mark ∨ c = '\\' then ['\\', c]
  else if c = '\n' then ['\\', 'n']
  else if c = '\r' then ['\\', 'r']
  else if c = '\t' then ['\\', 't']
  else if isPrintable c then [c]
  else (escape c).toList

/-- A text in single quotation marks, or in double ones if it has single ones and no double ones. -/
def quoted (s : String) : String :=
  let mark := if s.toList.contains '\'' ∧ ¬ s.toList.contains '"' then '"' else '\''
  String.ofList (mark :: s.toList.flatMap (quotedCharacter mark) ++ [mark])

end Text

namespace Json

mutual

/-- A value inside another one. -/
def inner : Json → String
  | null => "None"
  | bool value => if value then "True" else "False"
  | number value => Numeral.decimal value
  | text value => Text.quoted value
  | array items => "[" ++ innerItems items ++ "]"
  | object members => "\x7b" ++ innerMembers members ++ "\x7d"

/-- The items of an array, with commas between them. -/
def innerItems : List Json → String
  | [] => ""
  | [item] => item.inner
  | item :: rest => item.inner ++ ", " ++ innerItems rest

/-- The members of an object, with commas between them. -/
def innerMembers : List (String × Json) → String
  | [] => ""
  | [(key, value)] => Text.quoted key ++ ": " ++ value.inner
  | (key, value) :: rest => Text.quoted key ++ ": " ++ value.inner ++ ", " ++ innerMembers rest

end

/-- The name of the kind of a value. -/
def kind : Json → String
  | null => "NoneType"
  | bool _ => "bool"
  | number _ => "int"
  | text _ => "str"
  | array _ => "list"
  | object _ => "dict"

/-- A value as text. -/
def display : Json → String
  | text value => value
  | value => value.inner

end Json

end RiscvListing
