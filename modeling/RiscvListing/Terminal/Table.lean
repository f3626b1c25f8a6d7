import RiscvListing.Number.Rounding
import RiscvListing.Terminal.Theme
import RiscvListing.Terminal.Wrap

/-!
# Tables

A table has a heading for each column, rows of cells and possibly a title and a caption, all of them
markup. Every column is as wide as its widest line, with a blank at both sides. If there is no room
for that, the widest columns are made narrower. Cells for which there is no room at all are not
looked at. A cell that is lower than its row stands at the top, a heading at the bottom.

## Main definitions

* `Terminal.Table` — tables.
* `Terminal.Table.narrowed` — widths that fit into a given room.
* `Terminal.Table.lines` — the lines of a table.
-/

namespace RiscvListing.Terminal

/-- A table. -/
structure Table where
  /-- What stands above the table, unless it is empty. -/
  title : String := ""
  /-- The headings of the columns. -/
  columns : List String
  /-- The rows. -/
  rows : List (List String)
  /-- What stands below the table, unless it is empty. -/
  caption : String := ""
  /-- Where the columns that have a heading stand; at the left if there are more columns. -/
  justify : List Justify := []
  /-- The styles of the columns that have a heading. -/
  styles : List String := []
  deriving Repr, DecidableEq

namespace Table

/-! ### Columns -/

/-- The number of columns. -/
def count (t : Table) : Nat := t.rows.foldl (fun n row => max n row.length) t.columns.length

/-- Where a column stands. -/
def placeOf (t : Table) (index : Nat) : Justify :=
  ((t.justify.take t.columns.length)[index]?).getD .left

/-- The cells of a column, its heading first, unless there is a flaw in its style or in a cell. The
cells of a table with room for nothing but the blanks at both sides of a column are empty. -/
def cellsOf (t : Table) (room : Nat) (index : Nat) : Except Markup.Flaw (List Styled) := do
  lookUp (((t.styles.take t.columns.length)[index]?).getD "")
  (t.columns :: t.rows).mapM fun row =>
    if room ≤ 2 then pure {} else Markup.read ((row[index]?).getD "")

/-- The first rows of columns. -/
def rowsOf : (count : Nat) → (columns : List (List Styled)) → List (List Styled)
  | 0, _ => []
  | count + 1, columns =>
    columns.map (fun column => column.head?.getD {}) :: rowsOf count (columns.map List.tail)

/-- The width of a column in a room, with a blank at both sides. -/
def widthOf (room : Nat) (cells : List Styled) : Nat :=
  max 1 (min room (cells.foldl (fun n cell => max n (extent cell.chars)) 0 + 2))

/-- Takes an excess from the widths that are equal to `widest`, of which there are `count`, in equal
parts and no more than `most` from each. -/
def reduce (widest most : Nat) : (excess count : Nat) → List Nat → List Nat
  | _, _, [] => []
  | excess, count, width :: rest =>
    if width = widest ∧ 0 < count then
      let part := min most (Number.nearest count excess)
      (width - part) :: reduce widest most (excess - part) (count - 1) rest
    else width :: reduce widest most excess count rest

/-- Widths that fit into a room, by at most `fuel` reductions of the widest columns to the width of
the next widest. -/
def narrowedUpTo (room : Nat) : (fuel : Nat) → List Nat → List Nat
  | 0, widths => widths
  | fuel + 1, widths =>
    let excess := widths.foldr (· + ·) 0 - room
    let widest := widths.foldl max 0
    let next := (widths.filter (· ≠ widest)).foldl max 0
    if excess = 0 ∨ widest = 0 then widths
    else
      let most := min excess (widest - next)
      narrowedUpTo room fuel (reduce widest most excess (widths.count widest) widths)

/-- Widths that fit into a room. -/
def narrowed (room : Nat) (widths : List Nat) : List Nat :=
  narrowedUpTo room (widths.foldr (· + ·) 0) widths

/-! ### Rows -/

/-- The lines of a cell in a column of a width, which has a blank at both sides. -/
def cellLines (place : Justify) (width : Nat) (cell : Styled) :
    Except Markup.Flaw (List (List Char)) :=
  Markup.printed (flow .dots (some place) (width - 2) cell)

/-- The number of lines of a row. -/
def height (row : List (List (List Char))) : Nat :=
  row.foldl (fun n cell => max n cell.length) 1

/-- A line between two rows: what stands at its left end, between columns and at its right end, and
what it is drawn with. -/
def ruled (left line between right : Char) (widths : List Nat) : List Char :=
  left :: List.intercalate [between] (widths.map fun n => List.replicate n line) ++ [right]

/-- Where the lines of a cell that is lower than its row stand. -/
inductive Level where
  | top
  | bottom
  deriving Repr, DecidableEq

/-- The line of a cell at an index in a row of a height, if there is one. -/
def Level.line? (level : Level) (height index : Nat) (cell : List (List Char)) :
    Option (List Char) :=
  match level with
  | top => cell[index]?
  | bottom => if height ≤ index + cell.length then cell[index + cell.length - height]? else none

/-- A line of a cell with a blank at both sides. -/
def padded (width : Nat) (line : Option (List Char)) : List Char :=
  match line with
  | some line => ' ' :: fitLeft (width - 2) line ++ [' ']
  | none => blanks width

/-- The lines of a row, with bars at both ends and between columns. -/
def rowLines (bar : Char) (level : Level) (columns : List (Justify × Nat)) (row : List Styled) :
    Except Markup.Flaw (List (List Char)) := do
  let cells ← (columns.zip row).mapM fun ((place, width), cell) => cellLines place width cell
  let height := height cells
  return (List.range height).map fun index =>
    let texts := List.zipWith
      (fun (_, width) cell => padded width (level.line? height index cell)) columns cells
    bar :: List.intercalate [bar] texts ++ [bar]

/-- The lines of a title or a caption over the width of a table. -/
def inscription (total : Nat) (text : String) : Except Markup.Flaw (List (List Char)) := do
  if text = "" then return []
  Markup.printed (flow .fold (some .centre) total (← Markup.read text))

/-- The lines of a table on a terminal of a width, unless there is a flaw in it. A table without
columns is an empty line. Where there is no room for columns, the title is looked at first. -/
def lines (width : Nat) (t : Table) : Except Markup.Flaw (List (List Char)) := do
  let n := t.count
  if n = 0 then return [[]]
  let room := width - (n + 1)
  if room = 0 then let _ ← inscription (n + 1) t.title
  let cells ← (List.range n).mapM (t.cellsOf room)
  let widths := narrowed room (cells.map (widthOf room))
  let columns := ((List.range n).map t.placeOf).zip widths
  let total := widths.foldr (· + ·) 0 + n + 1
  let title ← inscription total t.title
  let heading ← (rowsOf 1 cells).mapM (rowLines '┃' .bottom columns)
  let rows ← (rowsOf t.rows.length (cells.map List.tail)).mapM (rowLines '│' .top columns)
  let caption ← inscription total t.caption
  return (title ++ [ruled '┏' '━' '┳' '┓' widths] ++ heading.flatten ++
    [ruled '┡' '━' '╇' '┩' widths] ++ rows.flatten ++
    [ruled '└' '─' '┴' '┘' widths] ++ caption).map (shorten .fold width)

end Table

end RiscvListing.Terminal
