import RiscvListing.Number.Numeral
import RiscvListing.Text.Digit

/-!
# Patterns of numerals

A pattern tells how a hexadecimal numeral is filled up with zeros: where its digits stand among
them, what stands in front of a number that is not negative, whether the base is written, how wide
the numeral is and whether the digits are set in groups of four.

The text of a pattern is a sign for the place of the digits and signs for what goes with it, or
neither, then the width and an underscore for groups. Without a sign the zeros stand in front of the
digits.

## Main definitions

* `Pattern`, `Pattern.Flaw` — patterns, and what can be wrong with the text of one.
* `Pattern.parse` — the pattern of a text.
* `Pattern.write` — the numeral of a number.
-/

namespace RiscvListing

/-- How a hexadecimal numeral is filled up with zeros. -/
structure Pattern where
  /-- Where the digits stand: at the left, at the right, in the middle, or at the right with the
  sign in front of the zeros. -/
  place : Char := '='
  /-- What stands in front of a number that is not negative. -/
  sign : List Char := []
  /-- Whether the base is written. -/
  base : Bool := false
  /-- The least number of characters. -/
  width : Nat := 0
  /-- Whether the digits are set in groups of four. -/
  grouped : Bool := false
  deriving Repr, DecidableEq

namespace Pattern

/-- What is wrong with the text of a pattern. -/
inductive Flaw where
  /-- The text is no pattern. -/
  | malformed (text : String)
  /-- The width or the number of places is too large. -/
  | tooManyDigits
  /-- Groups are asked for in two ways. -/
  | twoGroupings
  /-- Groups of three are asked for. -/
  | commas
  /-- A number of places is announced and left out. -/
  | missingPrecision
  /-- A number of places is given. -/
  | precision
  /-- A sign of zero is asked for. -/
  | zeroSign
  /-- There is no room for a numeral of the width. -/
  | outOfMemory
  deriving Repr, DecidableEq

/-- The text of a flaw. -/
def Flaw.message : Flaw → String
  | malformed text => s!"Invalid format specifier '0{text}x' for object of type 'int'"
  | tooManyDigits => "Too many decimal digits in format string"
  | twoGroupings => "Cannot specify both ',' and '_'."
  | commas => "Cannot specify ',' with 'x'."
  | missingPrecision => "Format specifier missing precision"
  | precision => "Precision not allowed in integer format specifier"
  | zeroSign => "Negative zero coercion (z) not allowed in integer format specifier"
  | outOfMemory => ""

/-! ### Reading -/

/-- The largest width. -/
def widthLimit : Nat := 0x7FFFFFFFFFFFFFFF

/-- A width, unless it is too large. -/
def checked (width : Nat) : Except Flaw Nat :=
  if widthLimit < width then .error .tooManyDigits else .ok width

/-- Digits and the number they stand for, zero where there are none. -/
def number (chars : List Char) : Except Flaw (Nat × List Char) := do
  let n := (Text.numeral? (chars.takeWhile Text.isDigit)).getD 0
  return (← checked n, chars.dropWhile Text.isDigit)

/-- Whether a sign was there, and what follows it. -/
def sign? (wanted : Char) (chars : List Char) : Bool × List Char :=
  if chars.head? = some wanted then (true, chars.tail) else (false, chars)

/-- What stands in front of a number that is not negative, and what follows. -/
def signOf : List Char → List Char × List Char
  | '+' :: rest => (['+'], rest)
  | ' ' :: rest => ([' '], rest)
  | '-' :: rest => ([], rest)
  | rest => ([], rest)

/-- Whether a character tells the place of the digits. -/
def isPlace (c : Char) : Bool := c = '<' ∨ c = '>' ∨ c = '^' ∨ c = '='

/-- Reads the width and what follows it. -/
def finish (text : String) (zeroSign : Bool) (pattern : Pattern) (chars : List Char) :
    Except Flaw Pattern := do
  let (width, rest) ← number chars
  let (commas, rest) := sign? ',' rest
  let (grouped, rest) := sign? '_' rest
  if commas ∧ grouped then throw .twoGroupings
  if grouped ∧ rest.head? = some ',' then throw .twoGroupings
  let (point, rest) := sign? '.' rest
  if point ∧ ¬ rest.head?.any Text.isDigit then throw .missingPrecision
  let (_, rest) ← if point then number rest else pure (0, rest)
  if rest ≠ [] then throw (.malformed text)
  if commas then throw .commas
  if point then throw .precision
  if zeroSign then throw .zeroSign
  return { pattern with width, grouped }

/-- The pattern of a text. -/
def parse (text : String) : Except Flaw Pattern :=
  match text.toList with
  | c :: rest =>
    if isPlace c then
      let (sign, rest) := signOf rest
      let (zeroSign, rest) := sign? 'z' rest
      let (base, rest) := sign? '#' rest
      finish text zeroSign { place := c, sign, base } rest
    else finish text false {} (c :: rest)
  | [] => finish text false {} []

/-! ### Writing -/

/-- Digits, the last of them first, in groups of four with underscores between them and with zeros
behind them, so that there are at least `least` characters. At most `fuel` groups are made. -/
def groups : (fuel : Nat) → (least : Int) → List Char → List Char
  | 0, _, digits => digits
  | fuel + 1, least, digits =>
    let count := (min 4 (max (max (digits.length : Int) least) 1)).toNat
    let group := (digits.take count).rightpad count '0'
    let rest := digits.drop count
    let least := least - count
    if rest.isEmpty ∧ least ≤ 0 then group else group ++ '_' :: groups fuel (least - 1) rest

/-- The numeral of a number. -/
def write (p : Pattern) (n : Int) : String :=
  let front := (if n < 0 then ['-'] else p.sign) ++ (if p.base then ['0', 'x'] else [])
  let digits := Nat.toDigits 16 n.natAbs
  let least : Int := if p.place = '=' then p.width - front.length else 0
  let digits :=
    if p.grouped then (groups (digits.length + p.width + 1) least digits.reverse).reverse
    else digits
  let excess := p.width - (front.length + digits.length)
  let zeros (count : Nat) : List Char := List.replicate count '0'
  String.ofList <|
    match p.place with
    | '<' => front ++ digits ++ zeros excess
    | '>' => zeros excess ++ front ++ digits
    | '^' => zeros (excess / 2) ++ front ++ digits ++ zeros (excess - excess / 2)
    | _ => front ++ zeros excess ++ digits

end Pattern

end RiscvListing
