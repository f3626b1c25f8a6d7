import RiscvListing.Image.Header
import RiscvListing.Image.SectionHeader
import RiscvListing.Image.Symbol
import RiscvListing.Journal.Trace

/-!
# The container

What a listing needs from an image: its header, the sections with code, names and symbols, and the
symbols. The code and the symbol names are found by their section names, the symbols by the type of
their section. A section name is looked up among the section names from the start; the section is
the first one that refers to the place where it was found.

## Main definitions

* `Container.sectionRecord` — where a name stands among the section names.
* `Container.findSection` — the first section header that satisfies a condition.
* `Container` and `Container.read` — what is read from an image.
* `Container.codeWords` — the words of code with their addresses.
-/

namespace RiscvListing

/-- What is read from an image. -/
structure Container where
  /-- The file header. -/
  header : Header
  /-- The section with the section names. -/
  names : SectionHeader
  /-- The section with the code. -/
  code : SectionHeader
  /-- The section with the symbol names. -/
  symbolNames : SectionHeader
  /-- The section with the symbols. -/
  symbolSection : SectionHeader
  /-- The symbols. -/
  table : SymbolTable
  deriving Repr, DecidableEq

namespace Container

/-- The name of the section with the code. -/
def codeName : String := ".text"

/-- The name of the section with the symbol names. -/
def symbolNamesName : String := ".strtab"

/-- The name of the section with the symbols. -/
def symbolsName : String := ".symtab"

/-- The number of bytes of a word of code. -/
def wordSize : Nat := 4

/-- Where `name` stands in the table of section names. -/
def sectionRecord (d : Bytes) (names : SectionHeader) (name : String) : Except Fault Int := do
  let start : StringCursor := { table := names.dataOffset, size := some names.size }
  match ← start.findAfter d name with
  | some behind => return behind.offset - (name.length + 1)
  | none => .error (.missingSection name)

/-- The number of section headers: the one the file header gives, or, where it gives none, as many
as fit in the file. -/
def sectionCount (d : Bytes) (header : Header) : Nat :=
  if header.sectionCount ≠ 0 then header.sectionCount.toNat
  else ((d.size - header.sectionOffset) / SectionHeader.stride).toNat

/-- Looks among the next `count` section headers, the first of them with number `index` and at
`offset`, for one that satisfies `condition`. -/
def scanSections (d : Bytes) (condition : SectionHeader → Bool) :
    (count index : Nat) → (offset : Int) → Except Fault (Option (Nat × SectionHeader))
  | 0, _, _ => .ok none
  | count + 1, index, offset => do
    let found ← SectionHeader.read d offset
    if condition found then return some (index, found)
    else scanSections d condition count (index + 1) (offset + SectionHeader.stride)

/-- The first section header that satisfies `condition`, with its number; `name` is what the
section is called where there is none. -/
def findSection (d : Bytes) (header : Header) (condition : SectionHeader → Bool) (name : String) :
    Except Fault (Nat × SectionHeader) := do
  match ← scanSections d condition (sectionCount d header) 0 header.sectionOffset with
  | some found => return found
  | none => .error (.missingSection name)

/-- The first section header that satisfies `condition`, with a note on where it is. -/
def locate (d : Bytes) (header : Header) (condition : SectionHeader → Bool) (name : String) :
    Traced SectionHeader := do
  let (index, found) ← Traced.lift (findSection d header condition name)
  Traced.note .debug <|
    s!"{name}: header #{Numeral.decimal index} offset=0x{Numeral.hex 0 found.dataOffset} " ++
      s!"size=0x{Numeral.hex 0 found.size} addr=0x{Numeral.hex 8 found.address}"
  return found

/-- The section with a name. -/
def locateNamed (d : Bytes) (header : Header) (names : SectionHeader) (name : String) :
    Traced SectionHeader := do
  let record ← Traced.lift (sectionRecord d names name)
  locate d header (·.nameOffset = record) name

/-- The symbols of a section. -/
def readSymbols (d : Bytes) (symbols symbolNames : SectionHeader) : Except Fault SymbolTable :=
  if symbols.entrySize = 0 then .error (.malformedSection symbolsName "entry size is zero")
  else
    SymbolTable.read d (symbols.size / symbols.entrySize) symbols.dataOffset symbolNames.dataOffset

/-- The container of an image. -/
def read (d : Bytes) : Traced Container := do
  let header ← Traced.lift (Header.read d)
  Traced.note .debug <|
    s!"ELF header valid: entry=0x{Numeral.hex 8 header.entry} " ++
      s!"shoff=0x{Numeral.hex 0 header.sectionOffset} " ++
      s!"shnum={Numeral.decimal header.sectionCount} " ++
      s!"shstrndx={Numeral.decimal header.nameSection}"
  let names ← Traced.lift <| SectionHeader.read d <|
    header.sectionOffset + header.sectionEntrySize * header.nameSection
  let code ← locateNamed d header names codeName
  let symbolNames ← locateNamed d header names symbolNamesName
  let symbolSection ← locate d header (·.type = SectionHeader.symbolTableType) symbolsName
  let table ← Traced.lift (readSymbols d symbolSection symbolNames)
  Traced.note .debug s!"{symbolsName}: {Numeral.decimal table.count} entries"
  let rest := code.size % wordSize
  if rest ≠ 0 then
    Traced.note .warning <|
      s!"{codeName} size {Numeral.decimal code.size} is not a multiple of " ++
        s!"{Numeral.decimal wordSize}; ignoring {Numeral.decimal rest} trailing byte(s)"
  return { header, names, code, symbolNames, symbolSection, table }

/-- The symbols of a container. -/
def symbols (c : Container) : List Symbol := c.table.entries

/-- Words with their addresses, four bytes apart modulo the size of the address space. -/
def addressed (address : Int) : List Nat → List (Int × Int)
  | [] => []
  | word :: rest => (address, (word : Int)) :: addressed ((address + wordSize) % 0x100000000) rest

/-- The words of code with their addresses. Bytes behind the last whole word are left out. -/
def codeWords (d : Bytes) (c : Container) : Except Fault (List (Int × Int)) := do
  return addressed c.code.address (← d.words c.code.dataOffset (c.code.size / wordSize))

end Container

end RiscvListing
