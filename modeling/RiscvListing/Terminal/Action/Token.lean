import RiscvListing.Text.CharacterName

/-!
# Tokens of values

The text of a value is made of numbers, quoted texts, a few words, dots, signs and brackets. Blanks
and comments stand between them. Inside of brackets a value may go on over several lines; outside of
them only blank lines and comments may stand above and below it, unless a line ends in a backslash.

## Main definitions

* `Action.Number` — the kinds of numbers.
* `Action.Token`, `Action.tokens?` — the tokens of a text.
-/

namespace RiscvListing.Action

/-- A number without a sign. -/
inductive Number where
  /-- A whole number. -/
  | whole (n : Nat)
  /-- A number with a fraction or a power of ten. -/
  | real
  /-- A number that stands for an imaginary part. -/
  | imaginary
  deriving Repr, DecidableEq

/-- A part of the text of a value. -/
inductive Token where
  /-- A number. -/
  | number (n : Number)
  /-- A quoted text, of bytes or of characters. -/
  | quoted (ofBytes : Bool)
  /-- A word or dots that stand for a value. -/
  | constant
  /-- The word that makes a set. -/
  | maker
  /-- A plus or a minus. -/
  | sign
  /-- A bracket, a comma or a colon. -/
  | mark (c : Char)
  deriving Repr, DecidableEq

/-- Whether a character goes on a number or a word. -/
def goesOn (c : Char) : Bool := c.isAlphanum ∨ c = '_' ∨ 0x80 ≤ c.toNat

/-! ### Numbers -/

/-- The most decimal digits of a whole number. -/
def digitLimit : Nat := 4300

/-- Digits with single underscores between them, and what follows them. -/
def digitRun (isDigit : Char → Bool) : List Char → Option (List Char × List Char)
  | c :: '_' :: rest => do
    if ¬ isDigit c then none
    let (digits, rest) ← digitRun isDigit rest
    return (c :: digits, rest)
  | c :: d :: rest =>
    if ¬ isDigit c then none
    else if isDigit d then
      (digitRun isDigit (d :: rest)).map fun (digits, rest) => (c :: digits, rest)
    else some ([c], d :: rest)
  | [c] => if isDigit c then some ([c], []) else none
  | [] => none

/-- Whether a character is a digit in a base up to sixteen. -/
def isDigitIn (base : Nat) (c : Char) : Bool :=
  (c.isDigit ∧ c.toNat - '0'.toNat < base) ∨
    (base = 16 ∧ (('a' ≤ c ∧ c ≤ 'f') ∨ ('A' ≤ c ∧ c ≤ 'F')))

/-- The value of a digit. -/
def digitValue (c : Char) : Nat :=
  if c.isDigit then c.toNat - '0'.toNat else c.toLower.toNat - 'a'.toNat + 10

/-- The number that digits in a base stand for. -/
def valueIn (base : Nat) (digits : List Char) : Nat :=
  digits.foldl (fun n c => base * n + digitValue c) 0

/-- A whole number in a base, behind the letters that name the base. -/
def based (base : Nat) (chars : List Char) : Option (Number × List Char) := do
  let chars := if chars.head? = some '_' then chars.tail else chars
  let (digits, rest) ← digitRun (isDigitIn base) chars
  return (.whole (valueIn base digits), rest)

/-- What follows a fraction, which may be there, and whether there is a point. -/
def fraction (chars : List Char) : Option (Bool × List Char) :=
  match chars with
  | '.' :: d :: rest =>
    if d.isDigit then (digitRun Char.isDigit (d :: rest)).map fun (_, rest) => (true, rest)
    else some (true, d :: rest)
  | ['.'] => some (true, [])
  | rest => some (false, rest)

/-- What follows a power of ten, which may be there, and whether it is. -/
def power (chars : List Char) : Option (Bool × List Char) :=
  match chars with
  | e :: rest =>
    if e = 'e' ∨ e = 'E' then
      match rest with
      | '+' :: rest | '-' :: rest | rest =>
        (digitRun Char.isDigit rest).map fun (_, rest) => (true, rest)
    else some (false, e :: rest)
  | [] => some (false, [])

/-- A number in the decimal system. A whole number other than zero does not start with a zero, and
has not too many digits. -/
def decimal (chars : List Char) : Option (Number × List Char) := do
  let (whole, rest) ←
    if chars.head? = some '.' then some ([], chars) else digitRun Char.isDigit chars
  let (hasPoint, rest) ← fraction rest
  let (hasPower, rest) ← power rest
  match rest with
  | 'j' :: rest | 'J' :: rest => return (.imaginary, rest)
  | rest =>
    if hasPoint ∨ hasPower then return (.real, rest)
    if whole.head? = some '0' ∧ whole.any (· ≠ '0') then none
    if digitLimit < whole.length then none
    return (.whole (valueIn 10 whole), rest)

/-- A number, and what follows it. -/
def number (chars : List Char) : Option (Number × List Char) := do
  let (n, rest) ← match chars with
    | '0' :: x :: rest =>
      if x = 'x' ∨ x = 'X' then based 16 rest
      else if x = 'o' ∨ x = 'O' then based 8 rest
      else if x = 'b' ∨ x = 'B' then based 2 rest
      else decimal chars
    | _ => decimal chars
  if rest.head?.any goesOn then none else return (n, rest)

/-! ### Quoted texts -/

/-- How a quoted text is written. -/
structure Quotation where
  /-- Whether it stands for bytes, which are ASCII. -/
  ofBytes : Bool := false
  /-- Whether backslashes stand for themselves. -/
  isRaw : Bool := false
  deriving Repr, DecidableEq

/-- The way of writing that letters in front of a quote name. -/
def quotation? (letters : List Char) : Option Quotation :=
  match String.ofList (letters.map Char.toLower) with
  | "" | "u" => some {}
  | "r" => some { isRaw := true }
  | "b" => some { ofBytes := true }
  | "br" | "rb" => some { ofBytes := true, isRaw := true }
  | _ => none

/-- What follows a number of hexadecimal digits that stand for at most `limit`. -/
def code (count limit : Nat) (chars : List Char) : Option (List Char) :=
  let digits := chars.take count
  if digits.length = count ∧ digits.all (isDigitIn 16) ∧ valueIn 16 digits ≤ limit then
    some (chars.drop count)
  else none

/-- What follows the name of a character in braces. -/
def named : List Char → Option (List Char)
  | '\x7b' :: rest =>
    let name := rest.takeWhile (· ≠ '\x7d')
    if Text.isCharacterName name then some (rest.drop (name.length + 1)) else none
  | _ => none

/-- What follows a backslash and the character behind it. -/
def escaped (q : Quotation) (c : Char) (rest : List Char) : Option (List Char) :=
  if q.isRaw then some rest
  else
    match c, q.ofBytes with
    | 'x', _ => code 2 0xff rest
    | 'u', false => code 4 0xffff rest
    | 'U', false => code 8 0x10ffff rest
    | 'N', false => named rest
    | _, _ => some rest

/-- What follows a quoted text, from behind its opening quotes on, at most `fuel` characters of it.
A text in single quotes ends on its line. -/
def bodyUpTo (q : Quotation) (quotes : List Char) : (fuel : Nat) → List Char → Option (List Char)
  | 0, _ => none
  | _ + 1, [] => none
  | fuel + 1, c :: rest =>
    if quotes.isPrefixOf (c :: rest) then some ((c :: rest).drop quotes.length)
    else if q.ofBytes ∧ 0x80 ≤ c.toNat then none
    else if c = '\\' then
      match rest with
      | [] => none
      | d :: rest =>
        if q.ofBytes ∧ 0x80 ≤ d.toNat then none
        else (escaped q d rest).bind (bodyUpTo q quotes fuel)
    else if c = '\n' ∧ quotes.length = 1 then none
    else bodyUpTo q quotes fuel rest

/-- What follows a quoted text. -/
def quoted (q : Quotation) (chars : List Char) : Option (List Char) :=
  let body (quotes : List Char) : Option (List Char) :=
    bodyUpTo q quotes (chars.length + 1) (chars.drop quotes.length)
  match chars with
  | c :: d :: e :: _ => if c = d ∧ d = e then body [c, c, c] else body [c]
  | c :: _ => body [c]
  | [] => none

/-! ### Words -/

/-- The letters that count as a letter of the word that makes a set, in other forms. -/
def formsOf : Char → List Nat
  | 's' => [0x17f, 0x2e2, 0x209b, 0xff53, 0x1d4c8]
  | 'e' => [0x1d49, 0x2091, 0x212f, 0x2147, 0xff45]
  | 't' => [0x1d57, 0x209c, 0xff54, 0x1d4c9]
  | _ => []

/-- The numbers of the mathematical forms of the letter `a`, but for the script form. -/
def mathematicalForms : List Nat :=
  [0x1d41a, 0x1d44e, 0x1d482, 0x1d4ea, 0x1d51e, 0x1d552, 0x1d586, 0x1d5ba, 0x1d5ee, 0x1d622,
   0x1d656, 0x1d68a]

/-- Whether a character is a letter of the word that makes a set, in any form. -/
def isFormOf (letter c : Char) : Bool :=
  c = letter ∨ (formsOf letter).contains c.toNat ∨
    mathematicalForms.any fun a => c.toNat = a + (letter.toNat - 'a'.toNat)

/-- The token of a word. -/
def word (name : List Char) : Option Token :=
  if String.ofList name ∈ ["True", "False", "None"] then some .constant
  else
    match name with
    | [s, e, t] =>
      if isFormOf 's' s ∧ isFormOf 'e' e ∧ isFormOf 't' t then some .maker else none
    | _ => none

/-! ### Lines -/

/-- A text in which every line ends in one and the same way. -/
def unified : List Char → List Char
  | '\r' :: '\n' :: rest => '\n' :: unified rest
  | '\r' :: rest => '\n' :: unified rest
  | c :: rest => c :: unified rest
  | [] => []

/-- What follows the blanks at the start of a line, and by how much they move it to the right. A
backslash at the end of a line joins the next one to it; `joined` is the place of the first one, if
it is not at the start. -/
def indentation : (column joined : Nat) → List Char → Option (Nat × List Char)
  | column, joined, ' ' :: rest => indentation (column + 1) joined rest
  | column, joined, '\t' :: rest => indentation ((column / 8 + 1) * 8) joined rest
  | _, joined, '\x0c' :: rest => indentation 0 joined rest
  | column, joined, '\\' :: '\n' :: c :: rest =>
    indentation column (if joined = 0 then column else joined) (c :: rest)
  | _, _, '\\' :: _ => none
  | column, joined, rest => some (if joined = 0 then column else joined, rest)

/-- What follows the blank lines and comments at the start of a text, at most `fuel` of them. A line
with something else must not be moved to the right. -/
def firstLineUpTo : (fuel : Nat) → List Char → Option (List Char)
  | 0, _ => none
  | fuel + 1, chars => do
    match ← indentation 0 0 chars with
    | (_, '\n' :: rest) => firstLineUpTo fuel rest
    | (_, '#' :: rest) =>
      match rest.dropWhile (· ≠ '\n') with
      | '\n' :: rest => firstLineUpTo fuel rest
      | _ => return []
    | (_, []) => return []
    | (column, rest) => if column = 0 then return rest else none

/-- What follows the blank lines and comments at the start of a text. -/
def firstLine (chars : List Char) : Option (List Char) := firstLineUpTo (chars.length + 1) chars

/-! ### Tokens -/

/-- The most brackets inside of each other. -/
def depthLimit : Nat := 200

/-- The tokens of a text inside of `depth` brackets, at most `fuel` of them with what is between
them. -/
def tokensUpTo : (fuel depth : Nat) → List Char → Option (List Token)
  | 0, _, _ => none
  | _ + 1, depth, [] => if depth = 0 then some [] else none
  | fuel + 1, depth, c :: rest =>
    match c with
    | ' ' | '\t' | '\x0c' => tokensUpTo fuel depth rest
    | '#' => tokensUpTo fuel depth (rest.dropWhile (· ≠ '\n'))
    | '\n' =>
      if 0 < depth then tokensUpTo fuel depth rest
      else if firstLine rest = some [] then some [] else none
    | '\\' =>
      match rest with
      | '\n' :: d :: rest => tokensUpTo fuel depth (d :: rest)
      | _ => none
    | '(' | '\x7b' =>
      if depth = depthLimit then none
      else (tokensUpTo fuel (depth + 1) rest).map (.mark c :: ·)
    | ')' | '\x7d' =>
      if depth = 0 then none else (tokensUpTo fuel (depth - 1) rest).map (.mark c :: ·)
    | ',' | ':' => (tokensUpTo fuel depth rest).map (.mark c :: ·)
    | '+' | '-' => (tokensUpTo fuel depth rest).map (.sign :: ·)
    | '\'' | '"' => do
      let rest ← quoted {} (c :: rest)
      return .quoted false :: (← tokensUpTo fuel depth rest)
    | _ =>
      if c.isDigit ∨ (c = '.' ∧ rest.head?.any Char.isDigit) then do
        let (n, rest) ← number (c :: rest)
        return .number n :: (← tokensUpTo fuel depth rest)
      else if c = '.' then
        match rest with
        | '.' :: '.' :: rest => (tokensUpTo fuel depth rest).map (.constant :: ·)
        | _ => none
      else if goesOn c then do
        let name := (c :: rest).takeWhile goesOn
        let behind := (c :: rest).drop name.length
        if behind.head? = some '\'' ∨ behind.head? = some '"' then
          let q ← quotation? name
          let rest ← quoted q behind
          return .quoted q.ofBytes :: (← tokensUpTo fuel depth rest)
        else return (← word name) :: (← tokensUpTo fuel depth behind)
      else none

/-- The tokens of a text. -/
def tokens? (text : List Char) : Option (List Token) := do
  if text.contains '\x00' then none
  let chars ← firstLine (unified text)
  tokensUpTo (chars.length + 1) 0 chars

end RiscvListing.Action
