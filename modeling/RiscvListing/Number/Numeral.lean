/-!
# Numerals

The text of an integer in a base. A sign stands in front of the zeros that fill the numeral up to
its width and counts towards that width.

## Main definitions

* `Numeral.padded` — digits in a base, filled with zeros.
* `Numeral.decimal`, `Numeral.hex`, `Numeral.upperHex`, `Numeral.binary` — the bases in use.
* `Numeral.grouped` — decimal with the thousands set apart.
-/

namespace RiscvListing.Numeral

/-- The digits of `n` in base `base`, with a sign where `n` is negative and zeros after the sign
where the numeral is shorter than `width`. -/
def padded (base width : Nat) (n : Int) : String :=
  let digits := Nat.toDigits base n.natAbs
  if n < 0 then String.ofList ('-' :: digits.leftpad (width - 1) '0')
  else String.ofList (digits.leftpad width '0')

/-- Decimal digits. -/
def decimal (n : Int) : String := padded 10 0 n

/-- Lower-case hexadecimal digits, at least `width` characters. -/
def hex (width : Nat) (n : Int) : String := padded 16 width n

/-- Upper-case hexadecimal digits. -/
def upperHex (n : Int) : String := String.ofList ((padded 16 0 n).toList.map Char.toUpper)

/-- Binary digits. -/
def binary (n : Int) : String := padded 2 0 n

/-- Sets a comma after every third digit, the least significant digit first. -/
def commas : List Char → List Char
  | a :: b :: c :: d :: rest => a :: b :: c :: ',' :: commas (d :: rest)
  | digits => digits

/-- Decimal digits with a comma between thousands. -/
def grouped (n : Int) : String :=
  let digits := (commas (Nat.toDigits 10 n.natAbs).reverse).reverse
  String.ofList (if n < 0 then '-' :: digits else digits)

end RiscvListing.Numeral
