/-!
# Bit fields of integers

Integers are read in two's complement, with as many sign bits as a field asks for. A field is a
natural number; a signed field is the representative of its residue class nearest to zero.

## Main definitions

* `Number.bits?` — the field of an integer between two bit positions.
* `Number.signed?` — the low bits of an integer as a signed number.

## Main results

* `Number.bits?_eq_none_iff`, `Number.signed?_eq_none_iff` — where the fields are undefined.
-/

namespace RiscvListing.Number

/-- The bits `hi` down to `lo` of `n`. There is no such field below bit zero, and none when `hi`
lies more than one place below `lo`. -/
def bits? (n hi lo : Int) : Option Int :=
  if lo < 0 ∨ hi - lo + 1 < 0 then none
  else some ((n >>> lo.toNat) % Int.pow 2 (hi - lo + 1).toNat)

/-- The low `width` bits of `n` as a signed number. A signed number has at least its sign bit. -/
def signed? (n width : Int) : Option Int :=
  if width ≤ 0 then none else some (n.bmod (Nat.pow 2 width.toNat))

theorem bits?_eq_none_iff (n hi lo : Int) : bits? n hi lo = none ↔ lo < 0 ∨ hi - lo + 1 < 0 := by
  unfold bits?
  split <;> simp_all

theorem signed?_eq_none_iff (n width : Int) : signed? n width = none ↔ width ≤ 0 := by
  simp [signed?]

end RiscvListing.Number
