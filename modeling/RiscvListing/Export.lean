import RiscvListing.Disassembly

/-!
# Disassemblies as JSON

A disassembly as a JSON value, with the names that the fields of an ELF file have in its
specification.

## Main definitions

* `Disassembly.json` — the value of a disassembly.
-/

namespace RiscvListing

/-- The fields of a file header. -/
def Header.json (h : Header) : Json :=
  .object [
    ("e_ident", .array (h.ident.toList.map fun byte => .number byte.toNat)),
    ("e_type", .number h.type),
    ("e_machine", .number h.machine),
    ("e_version", .number h.version),
    ("e_entry", .number h.entry),
    ("e_phoff", .number h.programOffset),
    ("e_shoff", .number h.sectionOffset),
    ("e_flags", .number h.flags),
    ("e_ehsize", .number h.headerSize),
    ("e_phentsize", .number h.programEntrySize),
    ("e_phnum", .number h.programCount),
    ("e_shentsize", .number h.sectionEntrySize),
    ("e_shnum", .number h.sectionCount),
    ("e_shstrndx", .number h.nameSection)]

/-- The fields of a section header, with the offset it was read at. -/
def SectionHeader.json (s : SectionHeader) : Json :=
  .object [
    ("offset", .number s.offset),
    ("sh_name", .number s.nameOffset),
    ("sh_type", .number s.type),
    ("sh_flags", .number s.flags),
    ("sh_addr", .number s.address),
    ("sh_offset", .number s.dataOffset),
    ("sh_size", .number s.size),
    ("sh_link", .number s.link),
    ("sh_info", .number s.info),
    ("sh_addralign", .number s.alignment),
    ("sh_entsize", .number s.entrySize)]

/-- The fields of a symbol, with its name. -/
def Symbol.json (s : Symbol) : Json :=
  .object [
    ("st_name", .number s.nameOffset),
    ("st_value", .number s.value),
    ("st_size", .number s.size),
    ("st_info", .number s.info),
    ("st_other", .number s.other),
    ("st_shndx", .number s.sectionIndex),
    ("name", .text s.name)]

/-- Texts by address, the address in decimal. -/
def AddressMap.json (m : AddressMap String) : Json :=
  .object (m.entries.map fun (address, text) => (Numeral.decimal address, .text text))

/-- The labels of a disassembly. -/
def Resolution.json (r : Resolution) : Json :=
  .object [
    ("labels", r.labels.json),
    ("jumps", r.jumps.json),
    ("counter", .number r.counter)]

/-- A decoded word. -/
def CodeLine.json (l : CodeLine) : Json :=
  .object [
    ("address", .number l.address),
    ("word", .number l.word),
    ("mnemonic", .text l.mnemonic),
    ("operands", .text l.operands),
    ("label", .text l.label)]

/-- A whole disassembly. -/
def Disassembly.json (d : Disassembly) : Json :=
  .object [
    ("path", .text d.path),
    ("header", d.header.json),
    ("text_section", d.code.json),
    ("symbols", .array (d.symbols.map Symbol.json)),
    ("resolution", d.resolution.json),
    ("instructions", .array (d.lines.map CodeLine.json))]

end RiscvListing
