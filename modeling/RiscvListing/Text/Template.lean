import RiscvListing.Number.Rounding
import RiscvListing.Text.Align
import RiscvListing.Text.Display

/-!
# Templates

A template is a text with places for values. A place is a percent sign, possibly a key in
parentheses, flags, a width, a precision and a letter: `s` for the text of a value, `r` and `a` for
its quoted text, `c` for a character, `d` for a decimal, `x` and `X` for hexadecimal and `o` for
octal numbers, `f` for a number with decimal places, `e` for one with a power of ten and `g` for one
with a number of digits. Two percent signs stand for one. The values have to fit the places one by
one; places with a key take their values from a table. A star stands for a width or a precision that
is a value itself.

## Main definitions

* `Template.Place` — how a value is written.
* `Template.Filled` — a text made from a template.
* `Template.fill?` — a template with its values filled in.
-/

namespace RiscvListing.Template

/-- How a value is written. -/
structure Place where
  /-- Fill behind the value rather than in front of it. -/
  left : Bool := false
  /-- Fill a number with zeros. -/
  zeros : Bool := false
  /-- Write a sign in front of every number. -/
  sign : Bool := false
  /-- Leave a blank where a number has no sign. -/
  blank : Bool := false
  /-- Write the base in front of a number, and the point of one that has no decimal places. -/
  base : Bool := false
  /-- The least number of characters. -/
  width : Nat := 0
  /-- The most characters of a text, or the least digits of a number. -/
  precision : Option Nat := none

/-- The number that a value stands for. -/
def number? : Json → Option Int
  | .number n => some n
  | .bool b => some (if b then 1 else 0)
  | _ => none

/-! ### Places -/

namespace Place

/-- Reads flags. -/
def flags (place : Place) : List Char → Place × List Char
  | '-' :: rest => flags { place with left := true } rest
  | '0' :: rest => flags { place with zeros := true } rest
  | '+' :: rest => flags { place with sign := true } rest
  | ' ' :: rest => flags { place with blank := true } rest
  | '#' :: rest => flags { place with base := true } rest
  | rest => (place, rest)

/-- Reads a decimal number, zero where there is none. -/
def digits (chars : List Char) : Nat × List Char :=
  (Nat.ofDigitChars 10 (chars.takeWhile Char.isDigit) 0, chars.dropWhile Char.isDigit)

/-- The largest width and precision. -/
def sizeLimit : Nat := 0x7FFFFFFF

/-- Reads a width or a precision, which may be the next value. -/
def size? (chars : List Char) (values : List Json) : Option (Int × List Char × List Json) := do
  let (size, rest, values) ← match chars, values with
    | '*' :: rest, value :: values => (number? value).map (·, rest, values)
    | '*' :: _, [] => none
    | _, _ =>
      let (n, rest) := digits chars
      some (n, rest, values)
  if size.natAbs ≤ sizeLimit then some (size, rest, values) else none

/-- The characters behind a letter that tells the size of a number, if there is one. -/
def skipLength : List Char → List Char
  | 'h' :: rest | 'l' :: rest | 'L' :: rest => rest
  | rest => rest

/-- Reads flags, width and precision. A negative width fills behind the value, and a negative
precision is none. -/
def read? (chars : List Char) (values : List Json) :
    Option (Place × List Char × List Json) := do
  let (place, rest) := flags {} chars
  let (width, rest, values) ← size? rest values
  let place := { place with width := width.natAbs, left := place.left || width < 0 }
  match rest with
  | '.' :: rest =>
    let (precision, rest, values) ← size? rest values
    return ({ place with precision := some precision.toNat }, skipLength rest, values)
  | rest => return (place, skipLength rest, values)

/-- Puts a text in its place. -/
def text (place : Place) (s : String) : String :=
  let s := match place.precision with
    | some most => String.ofList (s.toList.take most)
    | none => s
  if place.left then Text.alignLeft place.width s else Text.alignRight place.width s

/-- Puts a number in a base, written with `lead` in front where the base is asked for, in its
place. -/
def number (place : Place) (base : Nat) (lead : String) (upper : Bool) (n : Int) : String :=
  let digits := (Nat.toDigits base n.natAbs).leftpad (place.precision.getD 0) '0'
  let digits := if upper then digits.map Char.toUpper else digits
  let sign := if n < 0 then "-" else if place.sign then "+" else if place.blank then " " else ""
  let front := if place.base then sign ++ lead else sign
  let padding := if place.zeros ∧ ¬ place.left then place.width - front.length else 0
  let whole := front ++ String.ofList (digits.leftpad padding '0')
  if place.left then Text.alignLeft place.width whole else Text.alignRight place.width whole

/-- Puts a character in its place. -/
def character (place : Place) (c : Char) : String :=
  { place with precision := none }.text (String.singleton c)

/-- Puts a number in its place whose digits, with all that belongs to them, are given. -/
def signed (place : Place) (negative : Bool) (digits : List Char) : String :=
  let sign := if negative then "-" else if place.sign then "+" else if place.blank then " " else ""
  let padding := if place.zeros ∧ ¬ place.left then place.width - sign.length else 0
  let whole := sign ++ String.ofList (digits.leftpad padding '0')
  if place.left then Text.alignLeft place.width whole else Text.alignRight place.width whole

/-- Digits with a point between the whole and the fraction, which a fraction without digits has only
if it is asked for. -/
def pointed (place : Place) (whole fraction : List Char) : List Char :=
  whole ++ (if fraction.isEmpty ∧ ¬ place.base then [] else ['.']) ++ fraction

/-- Puts a number with decimal places, six if nothing is said, in its place. -/
def fixed (place : Place) (n : Int) : String :=
  place.signed (n < 0)
    (place.pointed (Nat.toDigits 10 n.natAbs) (List.replicate (place.precision.getD 6) '0'))

/-- Digits with a power of ten behind them, of two digits at least, after a mark. -/
def powered (place : Place) (mark : Char) (digits fraction : List Char) (power : Nat) : List Char :=
  place.pointed digits fraction ++ [mark, '+'] ++ (Nat.toDigits 10 power).leftpad 2 '0'

/-- Puts a number with one digit in front of the point and a power of ten in its place. There are
six decimal places if nothing is said. -/
def scientific (place : Place) (mark : Char) (n : Int) : String :=
  let (digits, power) := Number.leading (place.precision.getD 6 + 1) n.natAbs
  place.signed (n < 0) (place.powered mark (digits.take 1) (digits.drop 1) power)

/-- Puts a number with a given number of digits, six if nothing is said, in its place. It has a
power of ten if it has more digits than that, and zeros at the end of the fraction are left out
unless the point is asked for. -/
def general (place : Place) (mark : Char) (n : Int) : String :=
  let count := max 1 (place.precision.getD 6)
  let (digits, power) := Number.leading count n.natAbs
  let kept (fraction : List Char) : List Char :=
    if place.base then fraction else (fraction.reverse.dropWhile (· = '0')).reverse
  place.signed (n < 0) <|
    if power < count then
      place.pointed (digits.take (power + 1)) (kept (digits.drop (power + 1)))
    else place.powered mark (digits.take 1) (kept (digits.drop 1)) power

end Place

/-- A text made from a template. -/
structure Filled where
  /-- The characters, with a stand-in for each that no file can hold. -/
  chars : List Char := []
  /-- Whether a file can hold all characters. -/
  isWritable : Bool := true
  deriving Repr, DecidableEq

namespace Filled

/-- A text that a file can hold. -/
def ofString (s : String) : Filled := { chars := s.toList }

/-- Two texts, one behind the other. -/
def append (a b : Filled) : Filled where
  chars := a.chars ++ b.chars
  isWritable := a.isWritable && b.isWritable

/-- The text as a string. -/
def text (f : Filled) : String := String.ofList f.chars

end Filled

/-- A character in its place: a text of one character, or the number of one. The numbers that only
stand in pairs for a character are taken, but no file can hold them. -/
def character? (place : Place) : Json → Option Filled
  | .text s =>
    match s.toList with
    | [c] => some (.ofString (place.character c))
    | _ => none
  | value => do
    let n ← number? value
    if n < 0 ∨ 0x110000 ≤ n then none
    else if n.toNat.isValidChar then return .ofString (place.character (Char.ofNat n.toNat))
    else return { chars := (place.character '\uFFFD').toList, isWritable := false }

/-- A value as a number with decimal places, which has a limit. -/
def measured? (value : Json) : Option Int := (number? value).bind Number.double?

/-- A text with escapes for all characters that are not ASCII. -/
def asciiOnly (s : String) : String :=
  String.ofList <| s.toList.flatMap fun c => if c.toNat < 0x80 then [c] else (Text.escape c).toList

/-- A value in a place whose letter is `letter`. -/
def write? (place : Place) (letter : Char) (value : Json) : Option String :=
  match letter with
  | 's' => some (place.text value.display)
  | 'r' => some (place.text value.inner)
  | 'a' => some (place.text (asciiOnly value.inner))
  | 'd' | 'i' | 'u' => (number? value).map (place.number 10 "" false)
  | 'x' => (number? value).map (place.number 16 "0x" false)
  | 'X' => (number? value).map (place.number 16 "0X" true)
  | 'o' => (number? value).map (place.number 8 "0o" false)
  | 'f' | 'F' => (measured? value).map place.fixed
  | 'e' | 'E' => (measured? value).map (place.scientific letter)
  | 'g' => (measured? value).map (place.general 'e')
  | 'G' => (measured? value).map (place.general 'E')
  | _ => none

/-- A value in a place whose letter is `letter`, which may be a character. -/
def put? (place : Place) (letter : Char) (value : Json) : Option Filled :=
  if letter = 'c' then character? place value
  else (write? place letter value).map Filled.ofString

/-- What is in parentheses that have been opened, and what follows them. There may be parentheses in
them, `depth` of which are open. -/
def enclosed? : (depth : Nat) → List Char → Option (List Char × List Char)
  | _, [] => none
  | 0, ')' :: rest => some ([], rest)
  | depth + 1, ')' :: rest => (enclosed? depth rest).map fun (key, rest) => (')' :: key, rest)
  | depth, '(' :: rest => (enclosed? (depth + 1) rest).map fun (key, rest) => ('(' :: key, rest)
  | depth, c :: rest => (enclosed? depth rest).map fun (key, rest) => (c :: key, rest)

/-- The characters of a place behind its key, and the values for it: those at hand, or the one that
the table has for the key. -/
def select? (table : Option (List (String × Json))) (chars : List Char) (values : List Json) :
    Option (List Char × List Json) :=
  match chars with
  | '(' :: rest => do
    let (key, rest) ← enclosed? 0 rest
    let value ← (← table).lookup (String.ofList key)
    return (rest, [value])
  | _ => some (chars, values)

/-- Fills values into at most `fuel` places and stretches of text. Values may be left over where
there is a table. -/
def fillUpTo (table : Option (List (String × Json))) :
    (fuel : Nat) → List Char → List Json → Option Filled
  | 0, _, _ => none
  | _ + 1, [], values => if values.isEmpty ∨ table.isSome then some {} else none
  | fuel + 1, '%' :: '%' :: rest, values => do
    let filled ← fillUpTo table fuel rest values
    return { filled with chars := '%' :: filled.chars }
  | fuel + 1, '%' :: rest, values => do
    let (rest, values) ← select? table rest values
    match ← Place.read? rest values with
    | (place, letter :: rest, value :: values) =>
      return (← put? place letter value).append (← fillUpTo table fuel rest values)
    | _ => none
  | fuel + 1, c :: rest, values => do
    let filled ← fillUpTo table fuel rest values
    return { filled with chars := c :: filled.chars }

/-- The table among values: a single one with something in it. -/
def table? : List Json → Option (List (String × Json))
  | [.object (member :: members)] => some (member :: members)
  | _ => none

/-- A template with its values filled in. Without values a template stands for itself; otherwise
there has to be a place for each value and a value for each place. -/
def fill? (template : String) (values : List Json) : Option Filled :=
  if values.isEmpty then some (.ofString template)
  else fillUpTo (table? values) (template.length + 1) template.toList values

end RiscvListing.Template
