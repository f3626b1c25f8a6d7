import RiscvListing.Text.Display

/-!
# TOML scalars

Texts, numbers and truth values at the start of a character list, each read together with the
characters that are left. Numbers with a fraction or an exponent are kept as the text that was
written.

## Main definitions

* `Toml.Conflict` — how keys can be in each other's way.
* `Toml.Flaw` — what can be wrong with a document.
* `Toml.Reader` — what reads a value from the start of a character list.
* `Toml.basicText`, `Toml.literalText` — texts in double and in single quotation marks, on one line.
* `Toml.longBasicText`, `Toml.longLiteralText` — the same over several lines.
* `Toml.number` — numbers.
-/

namespace RiscvListing.Toml

/-- How a key is in the way of another. -/
inductive Conflict where
  /-- A table is opened that is there already. -/
  | declaredTwice (path : List String)
  /-- A table is changed that was written on one line. -/
  | immutable (path : List String)
  /-- A key leads through a table that has been opened. -/
  | redefined (path : List String)
  /-- A key of a table on one line is given twice. -/
  | repeated (key : String)
  deriving Repr, DecidableEq

/-- A path in messages: its keys in parentheses. Behind a single one there is a comma. -/
def shownPath : (path : List String) → String
  | [key] => s!"({Text.quoted key},)"
  | path => "(" ++ ", ".intercalate (path.map Text.quoted) ++ ")"

/-- The text of a conflict. -/
def Conflict.message : Conflict → String
  | declaredTwice path => s!"Cannot declare {shownPath path} twice"
  | immutable path => s!"Cannot mutate immutable namespace {shownPath path}"
  | redefined path => s!"Cannot redefine namespace {shownPath path}"
  | repeated key => s!"Duplicate inline table key {Text.quoted key}"

/-- What is wrong with a document. -/
inductive Flaw where
  /-- It is not written as a document has to be. -/
  | malformed
  /-- Keys are in each other's way where `left` characters are left to read. -/
  | conflict (cause : Conflict) (left : Nat)
  /-- A decimal number has more digits than can be read. -/
  | tooManyDigits (count : Nat)
  /-- A value is nested deeper than can be read. -/
  | tooDeep
  deriving Repr, DecidableEq

/-- Reads a value from the start of a list of characters and gives the characters that are left. -/
abbrev Reader (α : Type) := List Char → Except Flaw (α × List Char)

/-- Nothing can be read. -/
def malformed {α : Type} : Except Flaw α := .error .malformed

/-- Keys are in each other's way in front of some characters. -/
def refuse {α : Type} (cause : Conflict) (rest : List Char) : Except Flaw α :=
  .error (.conflict cause rest.length)

/-- A value that has to be there. -/
def expect {α : Type} : Option α → Except Flaw α
  | some a => .ok a
  | none => malformed

/-- Whether a character may not stand in a text or a comment. -/
def isControl (c : Char) : Bool := (c.toNat < 0x20 ∧ c ≠ '\t') ∨ c.toNat = 0x7f

/-- A blank inside a line. -/
def isBlank (c : Char) : Bool := c = ' ' ∨ c = '\t'

/-- A blank or the end of a line. -/
def isSpace (c : Char) : Bool := isBlank c ∨ c = '\n'

/-- Skips blanks inside a line. -/
def skipBlanks (chars : List Char) : List Char := chars.dropWhile isBlank

/-- The number of a hexadecimal digit. -/
def hexDigit? (c : Char) : Option Nat :=
  if c.isDigit then some (c.toNat - '0'.toNat)
  else if 'a' ≤ c ∧ c ≤ 'f' then some (c.toNat - 'a'.toNat + 10)
  else if 'A' ≤ c ∧ c ≤ 'F' then some (c.toNat - 'A'.toNat + 10)
  else none

/-- The character whose number is written with `count` hexadecimal digits. -/
def hexCharacter (count : Nat) : Reader Char := fun chars => do
  let digits := chars.take count
  if digits.length ≠ count then malformed
  let n ← expect (digits.foldlM (fun n c => (hexDigit? c).map (16 * n + ·)) 0)
  if n.isValidChar then return (Char.ofNat n, chars.drop count) else malformed

/-- The character of an escape, read behind its backslash. -/
def escapedCharacter : Reader Char
  | 'b' :: rest => .ok ('\x08', rest)
  | 't' :: rest => .ok ('\t', rest)
  | 'n' :: rest => .ok ('\n', rest)
  | 'f' :: rest => .ok ('\x0c', rest)
  | 'r' :: rest => .ok ('\r', rest)
  | '"' :: rest => .ok ('"', rest)
  | '\\' :: rest => .ok ('\\', rest)
  | 'u' :: rest => hexCharacter 4 rest
  | 'U' :: rest => hexCharacter 8 rest
  | _ => malformed

/-! ### Texts -/

/-- The rest of a text in double quotation marks, up to `fuel` characters of it. -/
def basicBody : (fuel : Nat) → Reader (List Char)
  | 0, _ => malformed
  | _ + 1, [] => malformed
  | _ + 1, '"' :: rest => .ok ([], rest)
  | fuel + 1, '\\' :: rest => do
    let (c, rest) ← escapedCharacter rest
    let (text, rest) ← basicBody fuel rest
    return (c :: text, rest)
  | fuel + 1, c :: rest =>
    if isControl c then malformed else do
      let (text, rest) ← basicBody fuel rest
      return (c :: text, rest)

/-- A text in double quotation marks, read behind the first of them. -/
def basicText : Reader String := fun chars => do
  let (text, rest) ← basicBody (chars.length + 1) chars
  return (String.ofList text, rest)

/-- A text in single quotation marks, read behind the first of them. -/
def literalText : Reader String := fun chars =>
  let text := chars.takeWhile fun c => c ≠ '\'' ∧ ¬ isControl c
  match chars.drop text.length with
  | '\'' :: rest => .ok (String.ofList text, rest)
  | _ => malformed

/-- Up to two quotation marks in front of the three that end a text belong to it. -/
def closingMarks (mark : Char) (text : List Char) : List Char → String × List Char
  | a :: b :: rest =>
    if a = mark then
      if b = mark then (String.ofList (text ++ [mark, mark]), rest)
      else (String.ofList (text ++ [mark]), b :: rest)
    else (String.ofList text, a :: b :: rest)
  | [a] => if a = mark then (String.ofList (text ++ [mark]), []) else (String.ofList text, [a])
  | [] => (String.ofList text, [])

/-- What follows a backslash at the end of a line: blanks and line ends are skipped. -/
def lineContinuation? (chars : List Char) : Option (List Char) :=
  match skipBlanks chars with
  | [] => some []
  | '\n' :: rest => some (rest.dropWhile isSpace)
  | _ => none

/-- The rest of a text in triple double quotation marks, up to `fuel` characters of it. -/
def longBasicBody : (fuel : Nat) → Reader (List Char)
  | 0, _ => malformed
  | _ + 1, [] => malformed
  | _ + 1, '"' :: '"' :: '"' :: rest => .ok ([], rest)
  | fuel + 1, '\\' :: c :: rest =>
    if isSpace c then do
      longBasicBody fuel (← expect (lineContinuation? (c :: rest)))
    else do
      let (escaped, rest) ← escapedCharacter (c :: rest)
      let (text, rest) ← longBasicBody fuel rest
      return (escaped :: text, rest)
  | fuel + 1, c :: rest =>
    if isControl c ∧ c ≠ '\n' then malformed else do
      let (text, rest) ← longBasicBody fuel rest
      return (c :: text, rest)

/-- The rest of a text in triple single quotation marks. -/
def longLiteralBody : Reader (List Char)
  | [] => malformed
  | '\'' :: '\'' :: '\'' :: rest => .ok ([], rest)
  | c :: rest =>
    if isControl c ∧ c ≠ '\n' then malformed else do
      let (text, rest) ← longLiteralBody rest
      return (c :: text, rest)

/-- Skips a line end at the start of a text over several lines. -/
def skipFirstNewline : List Char → List Char
  | '\n' :: rest => rest
  | chars => chars

/-- A text in triple double quotation marks, read behind the first three of them. -/
def longBasicText : Reader String := fun chars => do
  let (text, rest) ← longBasicBody (chars.length + 1) (skipFirstNewline chars)
  return closingMarks '"' text rest

/-- A text in triple single quotation marks, read behind the first three of them. -/
def longLiteralText : Reader String := fun chars => do
  let (text, rest) ← longLiteralBody (skipFirstNewline chars)
  return closingMarks '\'' text rest

/-! ### Numbers -/

/-- Digits with single underscores between them. -/
def digitRun (isDigit : Char → Bool) : List Char → List Char × List Char
  | '_' :: c :: rest =>
    if isDigit c then
      let (digits, rest) := digitRun isDigit rest
      (c :: digits, rest)
    else ([], '_' :: c :: rest)
  | c :: rest =>
    if isDigit c then
      let (digits, rest) := digitRun isDigit rest
      (c :: digits, rest)
    else ([], c :: rest)
  | [] => ([], [])

/-- Digits with single underscores between them, at least one and the first one a digit. -/
def digits? (isDigit : Char → Bool) (chars : List Char) : Option (List Char × List Char) :=
  if chars.head?.any isDigit then some (digitRun isDigit chars) else none

/-- The number with the given digits in a base. -/
def valueOf (base : Nat) (digits : List Char) : Int :=
  digits.foldl (fun n c => base * n + (hexDigit? c).getD 0) 0

/-- The digits of a decimal number, which starts with a zero only if it is zero. -/
def decimalDigits : Reader (List Char)
  | '0' :: rest => .ok (['0'], rest)
  | chars => expect (digits? Char.isDigit chars)

/-- The most digits that a decimal number can have. -/
def digitLimit : Nat := 4300

/-- A fraction and an exponent as they are written, either of them possibly empty. -/
def fraction (chars : List Char) : List Char × List Char :=
  let (point, rest) := match chars with
    | '.' :: rest => match digits? Char.isDigit rest with
      | some (ds, rest) => ('.' :: ds, rest)
      | none => ([], chars)
    | _ => ([], chars)
  let (mark, behind) := match rest with
    | 'e' :: '-' :: behind => (['e', '-'], behind)
    | 'e' :: '+' :: behind => (['e', '+'], behind)
    | 'e' :: behind => (['e'], behind)
    | 'E' :: '-' :: behind => (['e', '-'], behind)
    | 'E' :: '+' :: behind => (['e', '+'], behind)
    | 'E' :: behind => (['e'], behind)
    | _ => ([], [])
  match digits? Char.isDigit behind with
  | some (ds, rest) => (point ++ mark ++ ds, rest)
  | none => (point, rest)

/-- A sign and the characters behind it. -/
def sign : List Char → Option Char × List Char
  | '-' :: rest => (some '-', rest)
  | '+' :: rest => (some '+', rest)
  | chars => (none, chars)

/-- A decimal number behind its sign. -/
def decimal (mark : Option Char) : Reader Json := fun chars => do
  let (whole, rest) ← decimalDigits chars
  match fraction rest with
  | ([], rest) =>
    if digitLimit < whole.length then throw (.tooManyDigits whole.length)
    let n := valueOf 10 whole
    return (.number (if mark = some '-' then -n else n), rest)
  | (part, rest) => return (.text (String.ofList (mark.toList ++ whole ++ part)), rest)

/-- A number in a base other than ten, or else a decimal one. -/
def number : Reader Json := fun chars =>
  let based (base : Nat) (isDigit : Char → Bool) (rest : List Char) :
      Except Flaw (Json × List Char) :=
    match digits? isDigit rest with
    | some (ds, rest) => .ok (.number (valueOf base ds), rest)
    | none => decimal none chars
  match chars with
  | '0' :: 'x' :: rest => based 16 (fun c => (hexDigit? c).isSome) rest
  | '0' :: 'o' :: rest => based 8 (fun c => '0' ≤ c ∧ c ≤ '7') rest
  | '0' :: 'b' :: rest => based 2 (fun c => c = '0' ∨ c = '1') rest
  | _ =>
    let (mark, rest) := sign chars
    match rest with
    | 'i' :: 'n' :: 'f' :: rest =>
      .ok (.text (String.ofList (mark.toList ++ ['i', 'n', 'f'])), rest)
    | 'n' :: 'a' :: 'n' :: rest => .ok (.text "nan", rest)
    | _ => decimal mark rest

end RiscvListing.Toml
