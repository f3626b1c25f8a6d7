import RiscvListing.Terminal.Measure
import RiscvListing.Terminal.Style

/-!
# Styled text

A text with stretches that have a style. Styles are not seen in the output, but they are looked up
when a text is printed, and a colour of which an amount is left out is a flaw. A stretch that was
cut off with its text is not looked up.

## Main definitions

* `Terminal.Span`, `Terminal.Styled` — stretches, and texts with them.
* `Terminal.Styled.divide`, `Terminal.Styled.lines` — the parts of a text.
* `Terminal.Styled.expandTabs` — a text without tabs.
* `Terminal.Styled.isFlawed` — whether a style cannot be looked up.

## Main results

* `Terminal.Styled.chars_join_partsOf` — dividing loses no character.
-/

namespace RiscvListing.Terminal

/-- A stretch of a text that has a style. -/
structure Span where
  /-- The position of its first character. -/
  start : Nat
  /-- The position behind its last character. -/
  stop : Nat
  /-- The words that give the style. -/
  style : List Char
  deriving Repr, DecidableEq

namespace Span

/-- What is left of a stretch between two positions, counted from the first of them, unless it is
nothing. -/
def within? (first last : Nat) (s : Span) : Option Span :=
  let start := s.start - first
  let stop := min s.stop last - first
  if start < stop then some { s with start, stop } else none

/-- A stretch moved to the right. -/
def shift (count : Nat) (s : Span) : Span :=
  { s with start := s.start + count, stop := s.stop + count }

end Span

/-- A text with stretches that have a style. -/
structure Styled where
  /-- The characters. -/
  chars : List Char := []
  /-- The stretches. -/
  spans : List Span := []
  deriving Repr, DecidableEq

namespace Styled

/-- Whether a style cannot be looked up, because an amount is left out of a colour. -/
def isFlawed (t : Styled) : Bool :=
  t.spans.any fun span => Style.ofWords {} (Text.words span.style) = .incomplete

/-! ### Parts -/

/-- The characters between two positions. -/
def slice (t : Styled) (first last : Nat) : Styled where
  chars := (t.chars.drop first).take (last - first)
  spans := t.spans.filterMap (Span.within? first last)

/-- The parts of given sizes from a position on. -/
def partsOf (t : Styled) : (first : Nat) → List Nat → List Styled
  | _, [] => []
  | first, size :: sizes => t.slice first (first + size) :: t.partsOf (first + size) sizes

/-- The parts of given sizes. A text that is not divided keeps stretches without characters. -/
def divide (t : Styled) (sizes : List Nat) : List Styled :=
  if sizes.length ≤ 1 then [t] else t.partsOf 0 sizes

/-- The lines of a text. -/
def lines (t : Styled) : List Styled :=
  if ¬ t.chars.contains '\n' then [t]
  else go 0 (t.chars.splitOn '\n')
where
  /-- The given lines, the first of which starts at a position. -/
  go : Nat → List (List Char) → List Styled
    | _, [] => []
    | first, line :: rest =>
      t.slice first (first + line.length) :: go (first + line.length + 1) rest

/-- Two texts, one behind the other. -/
def append (a b : Styled) : Styled where
  chars := a.chars ++ b.chars
  spans := a.spans ++ b.spans.map (Span.shift a.chars.length)

/-- Texts one behind the other. -/
def join (parts : List Styled) : Styled := parts.foldl append {}

/-! ### Changes -/

/-- The first characters of a text. -/
def crop (t : Styled) (count : Nat) : Styled :=
  if t.chars.length ≤ count then t
  else
    { chars := t.chars.take count
      spans := (t.spans.filter (·.start < count)).map fun span =>
        { span with stop := min span.stop count } }

/-- A text with other characters, which keeps its stretches as far as there is text for them. -/
def withChars (t : Styled) (chars : List Char) : Styled :=
  { t.crop chars.length with chars }

/-- A text with blanks in front of it. -/
def indent (t : Styled) (count : Nat) : Styled where
  chars := blanks count ++ t.chars
  spans := t.spans.map (Span.shift count)

/-- A text with blanks behind it, over which go the stretches that reach its end. -/
def extend (t : Styled) (count : Nat) : Styled where
  chars := t.chars ++ blanks count
  spans := t.spans.map fun span =>
    if t.chars.length ≤ span.stop then { span with stop := span.stop + count } else span

/-! ### Tabs -/

/-- The sizes of the parts that end in a tab, and of what follows the last of them, if it is not
empty. -/
def tabSizes (chars : List Char) : List Nat :=
  match (chars.splitOn '\t').reverse with
  | [] => []
  | last :: parts =>
    (parts.reverse.map fun part => part.length + 1) ++
      (if last.isEmpty then [] else [last.length])

/-- A part from a column on, with blanks in place of the tab at its end. -/
def expandPart (column : Nat) (part : Styled) : Styled :=
  if part.chars.getLast? = some '\t' then
    let text := part.chars.dropLast ++ [' ']
    let excess := (column + columns text) % 8
    { part with chars := text }.extend (if excess = 0 then 0 else 8 - excess)
  else part

/-- Blanks in place of tabs, up to the next multiple of eight columns. -/
def expandTabs (t : Styled) : Styled :=
  if ¬ t.chars.contains '\t' then t
  else
    (t.partsOf 0 (tabSizes t.chars)).foldl
      (fun text part => text.append (expandPart (columns text.chars) part)) {}

/-! ### Laws -/

theorem chars_foldl_append (parts : List Styled) (t : Styled) :
    (parts.foldl append t).chars = t.chars ++ parts.flatMap Styled.chars := by
  induction parts generalizing t with
  | nil => simp
  | cons part rest ih => rw [List.foldl_cons, ih]; simp [append]

theorem flatMap_chars_partsOf (t : Styled) (first : Nat) (sizes : List Nat) :
    (t.partsOf first sizes).flatMap Styled.chars =
      (t.chars.drop first).take (sizes.foldr (· + ·) 0) := by
  induction sizes generalizing first with
  | nil => simp [partsOf]
  | cons size sizes ih =>
    rw [partsOf, List.flatMap_cons, ih, List.foldr_cons, List.take_add, List.drop_drop]
    simp [slice]

theorem chars_join_partsOf (t : Styled) (sizes : List Nat)
    (h : sizes.foldr (· + ·) 0 = t.chars.length) :
    (join (t.partsOf 0 sizes)).chars = t.chars := by
  rw [join, chars_foldl_append, flatMap_chars_partsOf, h]
  simp

end Styled

end RiscvListing.Terminal
