import RiscvListing.Image.Header
import RiscvListing.Image.SectionHeader
import RiscvListing.Image.Symbol
import RiscvListing.Instruction.Word

/-!
# Drafts of images

An image put together from words of code and symbols: the file header, the code, the symbols, their
names, the names of the sections, each at a multiple of four bytes, and the section headers at the
end.

## Main definitions

* `DraftSymbol`, `Draft` — what an image is made of.
* `Draft.toBytes` — the image.
-/

namespace RiscvListing

/-- A symbol to put into an image. -/
structure DraftSymbol where
  /-- The name. -/
  name : String
  /-- The address or value. -/
  value : BitVec 32 := 0
  /-- The size of what is named. -/
  size : BitVec 32 := 0
  /-- The type. -/
  type : BitVec 4 := 0
  /-- The binding. -/
  bind : BitVec 4 := 0
  /-- Visibility, packed. -/
  other : BitVec 8 := 0
  /-- The number of the section it belongs to. -/
  sectionIndex : BitVec 16 := 1
  deriving Repr, DecidableEq

/-- What an image is made of. -/
structure Draft where
  /-- The words of code. -/
  words : List Word
  /-- The address of the first word. -/
  base : BitVec 32
  /-- Bytes behind the last word. -/
  tail : List UInt8 := []
  /-- The symbols behind the empty one. -/
  symbols : List DraftSymbol := []
  /-- Whether the file header gives the number of section headers. -/
  counted : Bool := true
  deriving Repr, DecidableEq

/-- A text as bytes that end in a zero. Every character has to have a number below 256. -/
def terminated (s : String) : List UInt8 := s.toList.map (fun c => UInt8.ofNat c.toNat) ++ [0]

/-- The next multiple of four. -/
def alignUp (n : Nat) : Nat := (n + 3) / 4 * 4

/-- Bytes filled with zeros up to a multiple of four. -/
def aligned (bytes : List UInt8) : List UInt8 :=
  bytes ++ List.replicate (alignUp bytes.length - bytes.length) 0

/-- The record of a symbol whose name begins at `nameOffset`. -/
def DraftSymbol.record (nameOffset : Nat) (s : DraftSymbol) : List UInt8 :=
  Symbol.layout.pack [nameOffset, s.value.toNat, s.size.toNat, (s.bind ++ s.type).toNat,
    s.other.toNat, s.sectionIndex.toNat]

namespace Draft

/-- The code. -/
def code (d : Draft) : List UInt8 :=
  d.words.flatMap (fun word => LittleEndian.bytes 4 word.toNat) ++ d.tail

/-- The names of the symbols, the empty one first. -/
def symbolNames (d : Draft) : List UInt8 := 0 :: d.symbols.flatMap fun s => terminated s.name

/-- The records of symbols, the name of the first of them beginning at `nameOffset`. -/
def records (nameOffset : Nat) : List DraftSymbol → List UInt8
  | [] => []
  | s :: rest => s.record nameOffset ++ records (nameOffset + s.name.length + 1) rest

/-- The symbols, the empty one first. -/
def symbolTable (d : Draft) : List UInt8 :=
  Symbol.layout.pack [0, 0, 0, 0, 0, 0] ++ records 1 d.symbols

/-- The names of the sections. -/
def sectionNames : List UInt8 :=
  0 :: (terminated ".text" ++ terminated ".symtab" ++ terminated ".strtab" ++
    terminated ".shstrtab")

/-- The size of the file header. -/
def headerSize : Nat := 52

/-- The offset of the code. -/
def codeOffset : Nat := headerSize

/-- The offset of the symbols. -/
def symbolOffset (d : Draft) : Nat := codeOffset + (aligned d.code).length

/-- The offset of the names of the symbols. -/
def nameOffset (d : Draft) : Nat := d.symbolOffset + (aligned d.symbolTable).length

/-- The offset of the names of the sections. -/
def sectionNameOffset (d : Draft) : Nat := d.nameOffset + (aligned d.symbolNames).length

/-- The offset of the section headers. -/
def sectionOffset (d : Draft) : Nat := d.sectionNameOffset + (aligned sectionNames).length

/-- The section headers, an empty one first. -/
def sections (d : Draft) : List SectionHeader :=
  [{},
   { nameOffset := 1, type := 1, flags := 6, address := d.base.toNat, dataOffset := codeOffset,
     size := d.code.length, alignment := 4 },
   { nameOffset := 7, type := SectionHeader.symbolTableType, dataOffset := d.symbolOffset,
     size := d.symbolTable.length, alignment := 4, entrySize := Symbol.stride },
   { nameOffset := 15, type := 3, dataOffset := d.nameOffset, size := d.symbolNames.length,
     alignment := 4 },
   { nameOffset := 23, type := 3, dataOffset := d.sectionNameOffset,
     size := sectionNames.length, alignment := 4 }]

/-- The file header. -/
def header (d : Draft) : Header where
  ident := Header.magic ++ #[1, 1, 1] ++ Array.replicate 9 0
  type := 2
  machine := Header.riscv
  version := 1
  entry := d.base.toNat
  sectionOffset := d.sectionOffset
  headerSize := headerSize
  sectionEntrySize := SectionHeader.stride
  sectionCount := if d.counted then d.sections.length else 0
  nameSection := 4

/-- The image. -/
def toBytes (d : Draft) : Bytes :=
  (d.header.toBytes ++ aligned d.code ++ aligned d.symbolTable ++ aligned d.symbolNames ++
    aligned sectionNames ++ d.sections.flatMap SectionHeader.toBytes).toArray

end Draft

end RiscvListing
