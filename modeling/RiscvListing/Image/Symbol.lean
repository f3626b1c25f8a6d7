import RiscvListing.Image.Layout
import RiscvListing.Image.StringTable

/-!
# Symbols

The records of a symbol table, each with its name from a string table. Records lie 16 bytes apart.

## Main definitions

* `Symbol`, `Symbol.type`, `Symbol.bind`, `Symbol.visibility`, `Symbol.isFunction` — a record and
  the parts of its packed fields.
* `Symbol.read` — the record at an offset.
* `SymbolTable`, `SymbolTable.read`, `SymbolTable.get?` — the records of a table and their numbers.
-/

namespace RiscvListing

/-- A record of a symbol table and its name. -/
structure Symbol where
  /-- Where the name begins in the string table. -/
  nameOffset : Int := 0
  /-- The address or value. -/
  value : Int := 0
  /-- The size of what is named. -/
  size : Int := 0
  /-- Type and binding, packed. -/
  info : Int := 0
  /-- Visibility, packed. -/
  other : Int := 0
  /-- The number of the section it belongs to. -/
  sectionIndex : Int := 0
  /-- The name. -/
  name : String := ""
  deriving Repr, DecidableEq

namespace Symbol

/-- The type of a function. -/
def functionType : Int := 2

/-- The low four bits of the packed type and binding. -/
def type (s : Symbol) : Int := s.info % 16

/-- The packed type and binding above its low four bits. -/
def bind (s : Symbol) : Int := s.info / 16

/-- The low two bits of the packed visibility. -/
def visibility (s : Symbol) : Int := s.other % 4

/-- Whether a symbol names a function. -/
def isFunction (s : Symbol) : Bool := s.type = functionType

/-- The cells of a record: name, value, size, info, other, section. -/
def layout : Layout := [.word, .word, .word, .byte, .byte, .half]

/-- The distance between two records. -/
def stride : Nat := 16

/-- The symbol with the numbers of a record and a name. -/
def ofNumbers (numbers : List Nat) (name : String) : Symbol where
  nameOffset := numbers.getD 0 0
  value := numbers.getD 1 0
  size := numbers.getD 2 0
  info := numbers.getD 3 0
  other := numbers.getD 4 0
  sectionIndex := numbers.getD 5 0
  name := name

/-- The record at `offset`, its name taken from the string table at `strings`. -/
def read (d : Bytes) (offset strings : Int) : Except Fault Symbol := do
  let numbers ← d.unpack layout offset
  let name ← (StringCursor.read d { table := strings + numbers.getD 0 0 }).1
  return ofNumbers numbers name

end Symbol

/-- The records of a symbol table. -/
structure SymbolTable where
  /-- The number of records asked for; a negative number asks for none. -/
  count : Int
  /-- The records in order. -/
  entries : List Symbol
  deriving Repr, DecidableEq

namespace SymbolTable

/-- The `count` records from `offset` on. -/
def readEntries (d : Bytes) (strings : Int) : (count : Nat) → (offset : Int) →
    Except Fault (List Symbol)
  | 0, _ => .ok []
  | count + 1, offset => do
    let symbol ← Symbol.read d offset strings
    return symbol :: (← readEntries d strings count (offset + Symbol.stride))

/-- The table of `count` records at `offset`, names taken from the string table at `strings`. -/
def read (d : Bytes) (count offset strings : Int) : Except Fault SymbolTable := do
  return { count, entries := ← readEntries d strings count.toNat offset }

/-- The record with a number; negative numbers count from the end. -/
def get? (t : SymbolTable) (index : Int) : Option Symbol :=
  let index := if index < 0 then index + t.entries.length else index
  if index < 0 then none else t.entries[index.toNat]?

end SymbolTable

end RiscvListing
