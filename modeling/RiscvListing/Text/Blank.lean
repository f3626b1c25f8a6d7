import RiscvListing.Text.Range

/-!
# Blanks and ends of lines

The characters that separate words, and those of them that also end a line.

## Main definitions

* `Text.isBlank` — whether a character separates words.
* `Text.isLineEnd` — whether a character ends a line.
* `Text.trimEnd`, `Text.trim` — a text without the blanks at its end, or at both ends.
* `Text.words` — the parts of a text between blanks.
-/

namespace RiscvListing.Text

/-- The characters that separate words. -/
def blankRanges : List (Nat × Nat) :=
  [(0x09, 0x0d), (0x1c, 0x20), (0x85, 0x85), (0xa0, 0xa0), (0x1680, 0x1680), (0x2000, 0x200a),
   (0x2028, 0x2029), (0x202f, 0x202f), (0x205f, 0x205f), (0x3000, 0x3000)]

/-- The characters that end a line. -/
def lineEndRanges : List (Nat × Nat) :=
  [(0x0a, 0x0d), (0x1c, 0x1e), (0x85, 0x85), (0x2028, 0x2029)]

/-- Whether a character separates words. -/
def isBlank (c : Char) : Bool := isWithin blankRanges c.toNat

/-- Whether a character ends a line. -/
def isLineEnd (c : Char) : Bool := isWithin lineEndRanges c.toNat

/-- A text without the blanks at its end. -/
def trimEnd (chars : List Char) : List Char := (chars.reverse.dropWhile isBlank).reverse

/-- A text without the blanks at both ends. -/
def trim (chars : List Char) : List Char := trimEnd (chars.dropWhile isBlank)

/-- The parts of a text between blanks. -/
def words (chars : List Char) : List (List Char) :=
  (chars.splitOnP isBlank).filter fun word => ¬ word.isEmpty

end RiscvListing.Text
