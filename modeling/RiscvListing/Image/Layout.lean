import RiscvListing.Image.Bytes

/-!
# Record layouts

A record is a row of unsigned numbers of one, two or four bytes without gaps. Its layout is written
as a less-than sign, for the byte order, and a letter for each cell, with a count in front of a
letter that repeats.

## Main definitions

* `Cell`, `Layout` — the width of a number and the widths of a row of numbers.
* `Bytes.unpack`, `Layout.pack` — the numbers of a record and the bytes of the numbers.
* `Format`, `Format.parse?`, `Bytes.unpackAs` — a layout as it is written, from its text, and the
  numbers of a record of that layout.

## Main results

* `Layout.size_append`, `Layout.valuesAt_append` — two layouts in a row read two records in a row.
* `Format.size_layout` — a layout and its cells one by one have the same size.
-/

namespace RiscvListing

/-- A number of one, two or four bytes. -/
inductive Cell where
  | byte
  | half
  | word
  deriving Repr, DecidableEq

/-- The number of bytes of a cell. -/
def Cell.size : Cell → Nat
  | byte => 1
  | half => 2
  | word => 4

/-- The cell that a letter stands for. -/
def Cell.ofLetter? : Char → Option Cell
  | 'B' => some byte
  | 'H' => some half
  | 'I' => some word
  | _ => none

/-- The cells of a record in order. -/
abbrev Layout := List Cell

namespace Layout

/-- The number of bytes of a record. -/
def size : Layout → Nat
  | [] => 0
  | cell :: rest => cell.size + size rest

/-- The numbers of a record that starts at position `start`. -/
def valuesAt (d : Bytes) : (start : Nat) → Layout → List Nat
  | _, [] => []
  | start, cell :: rest => d.numberAt start cell.size :: valuesAt d (start + cell.size) rest

/-- The bytes of the numbers of a record. -/
def pack : Layout → List Nat → List UInt8
  | cell :: layout, n :: numbers => LittleEndian.bytes cell.size n ++ pack layout numbers
  | _, _ => []

theorem size_append (first second : Layout) :
    size (first ++ second) = first.size + second.size := by
  induction first with
  | nil => simp [size]
  | cons cell rest ih => simp [size, ih, Nat.add_assoc]

theorem size_replicate (count : Nat) (cell : Cell) :
    size (List.replicate count cell) = count * cell.size := by
  induction count with
  | zero => simp [size]
  | succ count ih => rw [List.replicate_succ, size, ih, Nat.succ_mul, Nat.add_comm]

theorem valuesAt_append (d : Bytes) (start : Nat) (first second : Layout) :
    valuesAt d start (first ++ second) =
      valuesAt d start first ++ valuesAt d (start + first.size) second := by
  induction first generalizing start with
  | nil => simp [valuesAt, size]
  | cons cell rest ih => simp [valuesAt, ih, size, Nat.add_assoc]

end Layout

/-- The numbers of the record at `offset`. -/
def Bytes.unpack (d : Bytes) (layout : Layout) (offset : Int) : Except Fault (List Nat) := do
  d.require offset layout.size
  return layout.valuesAt d offset.toNat

/-! ### Layouts as they are written -/

/-- Cells, each with the number of times it is repeated. -/
abbrev Format := List (Nat × Cell)

namespace Format

/-- The number of bytes of a record. -/
def size : Format → Nat
  | [] => 0
  | (count, cell) :: rest => count * cell.size + size rest

/-- The cells one by one. -/
def layout (format : Format) : Layout :=
  format.flatMap fun (count, cell) => List.replicate count cell

/-- The cells written by letters, `count` being the number read before the first letter. -/
def ofLetters? (count : Option Nat) : List Char → Option Format
  | [] => if count.isNone then some [] else none
  | c :: rest =>
    if c.isDigit then ofLetters? (some (10 * count.getD 0 + (c.toNat - '0'.toNat))) rest
    else do
      let cell ← Cell.ofLetter? c
      return (count.getD 1, cell) :: (← ofLetters? none rest)

/-- The cells with a text. -/
def parse? (text : String) : Option Format :=
  match text.toList with
  | '<' :: letters => ofLetters? none letters
  | _ => none

theorem size_layout (format : Format) : format.layout.size = format.size := by
  induction format with
  | nil => rfl
  | cons row rest ih =>
    have h : layout (row :: rest) = List.replicate row.1 row.2 ++ layout rest := by simp [layout]
    rw [h, Layout.size_append, ih, Layout.size_replicate, size]

end Format

/-- The numbers of the record at `offset`, which must not be too large. -/
def Bytes.unpackAs (d : Bytes) (format : Format) (offset : Int) : Except Fault (List Nat) := do
  d.requireRecord offset format.size
  return format.layout.valuesAt d offset.toNat

end RiscvListing
