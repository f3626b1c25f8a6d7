import RiscvListing.Number.Numeral

/-!
# JSON values

Values with numbers restricted to integers and members of an object in a fixed order, and two ways
of writing them: on one line with every character as it is, and indented with ASCII characters only.

## Main definitions

* `Json` — values.
* `Json.quote`, `Json.quoteAscii` — texts between quotation marks.
* `Json.compact` — a value on one line.
* `Json.indented` — a value with two blanks of indentation for each level.
-/

namespace RiscvListing

/-- A JSON value. -/
inductive Json where
  | null
  | bool (value : Bool)
  | number (value : Int)
  | text (value : String)
  | array (items : List Json)
  | object (members : List (String × Json))
  deriving Repr, Inhabited

namespace Json

/-- Whether a value counts as true: it is neither false nor zero nor empty. -/
def isTrue : Json → Bool
  | null => false
  | bool b => b
  | number n => n ≠ 0
  | text s => s ≠ ""
  | array items => ¬ items.isEmpty
  | object members => ¬ members.isEmpty

/-- An escape of four hexadecimal digits. -/
def unicodeEscape (n : Nat) : List Char := '\\' :: 'u' :: (Numeral.hex 4 n).toList

/-- The escape of a character that is never written as it is. -/
def escape? (c : Char) : Option (List Char) :=
  match c with
  | '"' => some ['\\', '"']
  | '\\' => some ['\\', '\\']
  | '\n' => some ['\\', 'n']
  | '\r' => some ['\\', 'r']
  | '\t' => some ['\\', 't']
  | '\x08' => some ['\\', 'b']
  | '\x0c' => some ['\\', 'f']
  | c => if c.toNat < 0x20 then some (unicodeEscape c.toNat) else none

/-- A character with an escape in its place where it needs one. -/
def character (c : Char) : List Char := (escape? c).getD [c]

/-- A character in ASCII: beyond the printable ones, an escape for each unit of its UTF-16 form. -/
def asciiCharacter (c : Char) : List Char :=
  match escape? c with
  | some escaped => escaped
  | none =>
    if c.toNat < 0x7f then [c]
    else if c.toNat < 0x10000 then unicodeEscape c.toNat
    else
      let rest := c.toNat - 0x10000
      unicodeEscape (0xd800 + rest / 0x400) ++ unicodeEscape (0xdc00 + rest % 0x400)

/-- A text between quotation marks. -/
def quote (s : String) : String := String.ofList ('"' :: s.toList.flatMap character ++ ['"'])

/-- A text between quotation marks, in ASCII. -/
def quoteAscii (s : String) : String :=
  String.ofList ('"' :: s.toList.flatMap asciiCharacter ++ ['"'])

/-- The word for a truth value. -/
def boolText (b : Bool) : String := if b then "true" else "false"

/-! ### On one line -/

mutual

/-- A value on one line, a blank after each comma and colon. -/
def compact : Json → String
  | null => "null"
  | bool value => boolText value
  | number value => Numeral.decimal value
  | text value => quote value
  | array items => "[" ++ compactItems items ++ "]"
  | object members => "\x7b" ++ compactMembers members ++ "\x7d"

/-- The items of an array on one line. -/
def compactItems : List Json → String
  | [] => ""
  | [item] => item.compact
  | item :: rest => item.compact ++ ", " ++ compactItems rest

/-- The members of an object on one line. -/
def compactMembers : List (String × Json) → String
  | [] => ""
  | [(key, value)] => quote key ++ ": " ++ value.compact
  | (key, value) :: rest => quote key ++ ": " ++ value.compact ++ ", " ++ compactMembers rest

end

/-! ### Indented -/

/-- A new line at a level of indentation. -/
def newline (level : Nat) : String := String.ofList ('\n' :: List.replicate (2 * level) ' ')

mutual

/-- A value whose parts stand on lines of their own, indented by their level. -/
def indentedAt (level : Nat) : Json → String
  | null => "null"
  | bool value => boolText value
  | number value => Numeral.decimal value
  | text value => quoteAscii value
  | array [] => "[]"
  | array items => "[" ++ indentedItems (level + 1) items ++ newline level ++ "]"
  | object [] => "\x7b\x7d"
  | object members => "\x7b" ++ indentedMembers (level + 1) members ++ newline level ++ "\x7d"

/-- The items of an array, each on a line of its own. -/
def indentedItems (level : Nat) : List Json → String
  | [] => ""
  | [item] => newline level ++ item.indentedAt level
  | item :: rest => newline level ++ item.indentedAt level ++ "," ++ indentedItems level rest

/-- The members of an object, each on a line of its own. -/
def indentedMembers (level : Nat) : List (String × Json) → String
  | [] => ""
  | [(key, value)] => newline level ++ quoteAscii key ++ ": " ++ value.indentedAt level
  | (key, value) :: rest =>
    newline level ++ quoteAscii key ++ ": " ++ value.indentedAt level ++ "," ++
      indentedMembers level rest

end

/-- A value with two blanks of indentation for each level. -/
def indented (value : Json) : String := value.indentedAt 0

end Json

end RiscvListing
