import RiscvListing.Terminal.Width
import RiscvListing.Text.Blank

/-!
# Text on a terminal

A text is printed without the controls that would move the cursor. A line that is too long is cut
short; a character of two columns that would be cut in half gives way to a blank.

## Main definitions

* `Terminal.printed` — what is printed of a text.
* `Terminal.extent` — the columns of the longest line of a text.
* `Terminal.cut`, `Terminal.shorten` — a line cut short.
* `Terminal.fitLeft` — a line filled up to a width.
-/

namespace RiscvListing.Terminal

/-- Whether a character would move the cursor or sound the bell, and is not printed. -/
def isControl (c : Char) : Bool :=
  c.toNat = 7 ∨ c.toNat = 8 ∨ c.toNat = 11 ∨ c.toNat = 12 ∨ c.toNat = 13

/-- What is printed of a text. -/
def printed (text : List Char) : List Char := text.filter fun c => ¬ isControl c

/-- The columns of the longest line of a text, where a tab counts as nothing. -/
def extent (chars : List Char) : Nat :=
  (chars.splitOnP Text.isLineEnd).foldl (fun n line => max n (columns line)) 0

/-- Lines as one text, each with its end. -/
def joinLines (lines : List (List Char)) : String :=
  String.ofList (lines.flatMap fun line => line ++ ['\n'])

/-- Blanks. -/
def blanks (count : Nat) : List Char := List.replicate count ' '

/-! ### Cutting -/

/-- The start of a line that takes `room` columns. It is searched for between two lengths by
halving, so that of several starts of that many columns, which differ by characters without a
column, the first one met is taken. At most `fuel` halvings are made. -/
def cutBetween (room : Nat) (line : List Char) : (fuel first last : Nat) → List Char
  | 0, first, _ => line.take first
  | fuel + 1, first, last =>
    let middle := (first + last) / 2
    let start := line.take (middle + 1)
    if columns start = room + 1 ∧ start.getLast?.map width = some 2 then start.dropLast ++ [' ']
    else if columns start = room then start
    else if room < columns start then cutBetween room line fuel first middle
    else cutBetween room line fuel middle last

/-- The start of a line, which takes more than `room` columns, that takes `room` columns. -/
def cut (room : Nat) (line : List Char) : List Char :=
  if room = 0 then [] else cutBetween room line (line.length + 1) 0 line.length

/-- How a line that is too long is cut short. -/
inductive Overflow where
  /-- It is cut off. -/
  | fold
  /-- It ends in dots. -/
  | dots
  deriving Repr, DecidableEq

/-- A line that takes at most `room` columns. -/
def shorten (overflow : Overflow) (room : Nat) (line : List Char) : List Char :=
  if columns line ≤ room then line
  else
    match overflow with
    | .fold => cut room line
    | .dots => cut (room - 1) line ++ ['…']

/-! ### Filling up -/

/-- A line at the left of a width. -/
def fitLeft (width : Nat) (line : List Char) : List Char :=
  line ++ blanks (width - columns line)

end RiscvListing.Terminal
