import RiscvListing.Image.Layout

/-!
# Section headers

A section header is a record of ten numbers of four bytes. It remembers where it was read.

## Main definitions

* `SectionHeader` — a record and its offset.
* `SectionHeader.read` — the record at an offset.
* `SectionHeader.toBytes` — the bytes of a record.
-/

namespace RiscvListing

/-- A section header. -/
structure SectionHeader where
  /-- Where the record was read. -/
  offset : Int := 0
  /-- Where the section's name begins among the section names. -/
  nameOffset : Int := 0
  /-- The kind of section. -/
  type : Int := 0
  /-- Flags. -/
  flags : Int := 0
  /-- The address of the section in memory. -/
  address : Int := 0
  /-- The offset of the section in the file. -/
  dataOffset : Int := 0
  /-- The size of the section. -/
  size : Int := 0
  /-- The number of a section that goes with it. -/
  link : Int := 0
  /-- Further information. -/
  info : Int := 0
  /-- The alignment of the section. -/
  alignment : Int := 0
  /-- The size of the section's records. -/
  entrySize : Int := 0
  deriving Repr, DecidableEq

namespace SectionHeader

/-- The type of a symbol table. -/
def symbolTableType : Int := 2

/-- The cells of a record. -/
def layout : Layout := List.replicate 10 .word

/-- The distance between two records. -/
def stride : Nat := 40

/-- The record with the given numbers. -/
def ofNumbers (offset : Int) (numbers : List Nat) : SectionHeader where
  offset := offset
  nameOffset := numbers.getD 0 0
  type := numbers.getD 1 0
  flags := numbers.getD 2 0
  address := numbers.getD 3 0
  dataOffset := numbers.getD 4 0
  size := numbers.getD 5 0
  link := numbers.getD 6 0
  info := numbers.getD 7 0
  alignment := numbers.getD 8 0
  entrySize := numbers.getD 9 0

/-- The numbers of a record in the order of its layout. -/
def numbers (s : SectionHeader) : List Nat :=
  [s.nameOffset, s.type, s.flags, s.address, s.dataOffset, s.size, s.link, s.info, s.alignment,
   s.entrySize].map Int.toNat

/-- The bytes of a record. -/
def toBytes (s : SectionHeader) : List UInt8 := layout.pack s.numbers

/-- The record at `offset`. -/
def read (d : Bytes) (offset : Int) : Except Fault SectionHeader := do
  return ofNumbers offset (← d.unpack layout offset)

end SectionHeader

end RiscvListing
