/-!
# Ranges of characters

A set of characters given by the ranges of their numbers.

## Main definitions

* `Text.isWithin` — whether a number lies in one of some ranges.
-/

namespace RiscvListing.Text

/-- Whether a number lies in one of some ranges, each given by its first and last number. The ranges
are in ascending order, so that the search ends at the first range beyond the number. -/
def isWithin : List (Nat × Nat) → Nat → Bool
  | [], _ => false
  | (first, last) :: rest, n => decide (first ≤ n) && (decide (n ≤ last) || isWithin rest n)

end RiscvListing.Text
