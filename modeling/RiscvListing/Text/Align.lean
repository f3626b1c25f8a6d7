/-!
# Alignment of text

A column of text is as wide as its characters are many. Text wider than its column stays whole.

## Main definitions

* `Text.alignLeft`, `Text.alignRight` — fill with spaces behind or in front.
-/

namespace RiscvListing.Text

/-- Puts `s` at the left of a column of `width` characters. -/
def alignLeft (width : Nat) (s : String) : String :=
  String.ofList (s.toList.rightpad width ' ')

/-- Puts `s` at the right of a column of `width` characters. -/
def alignRight (width : Nat) (s : String) : String :=
  String.ofList (s.toList.leftpad width ' ')

/-- The text made of `count` copies of `c`. -/
def times (count : Nat) (c : Char) : String :=
  String.ofList (List.replicate count c)

end RiscvListing.Text
