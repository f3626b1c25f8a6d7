import RiscvListing.Number.Numeral

/-!
# Escapes

A character that cannot be shown is written by its number.

## Main definitions

* `Text.escape` — the number of a character behind a backslash.
-/

namespace RiscvListing.Text

/-- A character as a backslash, a letter and two, four or eight hexadecimal digits. -/
def escape (c : Char) : String :=
  if c.toNat < 0x100 then "\\x" ++ Numeral.hex 2 c.toNat
  else if c.toNat < 0x10000 then "\\u" ++ Numeral.hex 4 c.toNat
  else "\\U" ++ Numeral.hex 8 c.toNat

end RiscvListing.Text
