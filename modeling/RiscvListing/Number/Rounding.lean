/-!
# Rounding

Numbers brought to a unit, to a number of decimal digits, or to double precision. Of two equally
near results it is always the even one.

## Main definitions

* `Number.nearest` — how many times a unit goes into a number.
* `Number.leading` — the first decimal digits of a number.
* `Number.double?` — the nearest number of double precision.
-/

namespace RiscvListing.Number

/-- How many times a unit, to the nearest, goes into a number. Of two equally near counts it is the
even one. -/
def nearest (unit n : Nat) : Nat :=
  let up := unit < 2 * (n % unit) ∨ (unit = 2 * (n % unit) ∧ n / unit % 2 = 1)
  n / unit + (if up then 1 else 0)

/-- The first `count` decimal digits of a number, rounded, and the power of ten of the first of
them. -/
def leading (count n : Nat) : List Char × Nat :=
  let size := (Nat.toDigits 10 n).length
  if size ≤ count then (Nat.toDigits 10 n ++ List.replicate (count - size) '0', size - 1)
  else
    let digits := Nat.toDigits 10 (nearest (Nat.pow 10 (size - count)) n)
    (digits.take count, size - 1 + (digits.length - count))

/-- The nearest number to a given one that has 53 binary digits, but for zeros at its end. -/
def rounded (n : Nat) : Nat :=
  if n < Nat.pow 2 53 then n
  else
    let unit := Nat.pow 2 (n.log2 - 52)
    nearest unit n * unit

/-- The nearest number of double precision, unless it is out of range. -/
def double? (n : Int) : Option Int :=
  let size := rounded n.natAbs
  if size < Nat.pow 2 1024 then some (if n < 0 then -size else size) else none

end RiscvListing.Number
