import RiscvListing.Image.Layout

/-!
# The file header

The first 52 bytes of an image: 16 bytes that identify the format and 13 numbers. A header is
checked in a fixed order, so that the first criterion that fails is the one reported.

## Main definitions

* `Header.checkIdentification` — the checks on the identifying bytes.
* `Header` and `Header.check` — a header and all checks on it.
* `Header.read` — the header of a file.
* `Header.toBytes` — the bytes of a header.
-/

namespace RiscvListing

/-- The header of an image. -/
structure Header where
  /-- The bytes that identify the format. -/
  ident : Bytes
  /-- The kind of object file. -/
  type : Int := 0
  /-- The processor. -/
  machine : Int := 0
  /-- The version of the format. -/
  version : Int := 0
  /-- The address where a program starts. -/
  entry : Int := 0
  /-- The offset of the program headers. -/
  programOffset : Int := 0
  /-- The offset of the section headers. -/
  sectionOffset : Int := 0
  /-- Flags of the processor. -/
  flags : Int := 0
  /-- The size of this header. -/
  headerSize : Int := 0
  /-- The size of a program header. -/
  programEntrySize : Int := 0
  /-- The number of program headers. -/
  programCount : Int := 0
  /-- The size of a section header. -/
  sectionEntrySize : Int := 0
  /-- The number of section headers. -/
  sectionCount : Int := 0
  /-- The number of the section that holds the section names. -/
  nameSection : Int := 0
  deriving Repr, DecidableEq

namespace Header

/-- The bytes every image starts with. -/
def magic : Bytes := #[0x7f, 0x45, 0x4c, 0x46]

/-- The number of identifying bytes. -/
def identSize : Nat := 16

/-- The number of the processor. -/
def riscv : Int := 0xF3

/-- The cells of a header after the identifying bytes. -/
def layout : Layout :=
  [.half, .half, .word, .word, .word, .word, .word, .half, .half, .half, .half, .half, .half]

/-- Checks the identifying bytes: magic, then width, then byte order. -/
def checkIdentification (ident : Bytes) : Except Fault Unit :=
  if ident.extract 0 4 ≠ magic then .error (.illegalFile .elf)
  else if ident[4]? ≠ some 1 then .error (.illegalFile .class32)
  else if ident[5]? ≠ some 1 then .error (.illegalFile .littleEndian)
  else .ok ()

/-- Checks the identifying bytes and then the processor. -/
def check (h : Header) : Except Fault Unit := do
  checkIdentification h.ident
  if h.machine ≠ riscv then .error (.illegalFile .riscv) else .ok ()

/-- The byte of the identification that gives the width. -/
def classByte (h : Header) : Nat := (h.ident[4]?.getD 0).toNat

/-- The byte of the identification that gives the byte order. -/
def dataByte (h : Header) : Nat := (h.ident[5]?.getD 0).toNat

/-- The header with the identifying bytes and numbers of a record. -/
def ofNumbers (ident : Bytes) (numbers : List Nat) : Header where
  ident := ident
  type := numbers.getD 0 0
  machine := numbers.getD 1 0
  version := numbers.getD 2 0
  entry := numbers.getD 3 0
  programOffset := numbers.getD 4 0
  sectionOffset := numbers.getD 5 0
  flags := numbers.getD 6 0
  headerSize := numbers.getD 7 0
  programEntrySize := numbers.getD 8 0
  programCount := numbers.getD 9 0
  sectionEntrySize := numbers.getD 10 0
  sectionCount := numbers.getD 11 0
  nameSection := numbers.getD 12 0

/-- The numbers of a header in the order of its layout. -/
def numbers (h : Header) : List Nat :=
  [h.type, h.machine, h.version, h.entry, h.programOffset, h.sectionOffset, h.flags, h.headerSize,
   h.programEntrySize, h.programCount, h.sectionEntrySize, h.sectionCount, h.nameSection].map
    Int.toNat

/-- The bytes of a header. -/
def toBytes (h : Header) : List UInt8 := h.ident.toList ++ layout.pack h.numbers

/-- The header of a file. The magic is checked on the bytes that exist, so that a short file of
another format is not called truncated. -/
def read (d : Bytes) : Except Fault Header := do
  if d.extract 0 4 ≠ magic then .error (.illegalFile .elf)
  let ident ← d.slice 0 identSize
  checkIdentification ident
  let header := ofNumbers ident (← d.unpack layout identSize)
  header.check
  return header

end Header

end RiscvListing
