import RiscvListing.CodeLine
import RiscvListing.Image.Symbol
import RiscvListing.Text.Align
import RiscvListing.Text.Charset

/-!
# Listings

A listing shows the code line by line and then the symbols row by row. It is written line by line,
so that a line that the chosen encoding cannot express leaves the lines before it in the file.

## Main definitions

* `Listing.typeName`, `Listing.bindName`, `Listing.visibilityName`, `Listing.sectionName` — the
  names of numbers in a symbol.
* `Listing.codeRow`, `Listing.symbolRow` — a line of code and a symbol.
* `Listing.render` — a whole listing as one text.
* `Listing.pieces` — a whole listing as the lines that are written.
* `Listing.file` — what a file holds after a listing was written to it.
-/

namespace RiscvListing.Listing

/-! ### Names of numbers -/

/-- The name of a number in a table, or the number itself. -/
def nameIn (table : List (Int × String)) (n : Int) : String :=
  match table.find? (·.1 = n) with
  | some (_, name) => name
  | none => Numeral.decimal n

/-- The name of a symbol's type. -/
def typeName : Int → String :=
  nameIn [(0, "NOTYPE"), (1, "OBJECT"), (2, "FUNC"), (3, "SECTION"), (4, "FILE"), (13, "LOPROC"),
    (15, "HIPROC")]

/-- The name of a symbol's binding. -/
def bindName : Int → String :=
  nameIn [(0, "LOCAL"), (1, "GLOBAL"), (2, "WEAK"), (13, "LOPROC"), (15, "HIPROC")]

/-- The name of a symbol's visibility. -/
def visibilityName : Int → String :=
  nameIn [(0, "DEFAULT"), (1, "INTERNAL"), (2, "HIDDEN"), (3, "PROTECTED"), (4, "EXPORTED"),
    (5, "SINGLETON"), (6, "ELIMINATE")]

/-- The name of a section number. -/
def sectionName : Int → String :=
  nameIn [(0, "UNDEF"), (0xFF00, "LORESERVE"), (0xFF1F, "HIPROC"), (0xFFF1, "ABS"),
    (0xFFF2, "COMMON"), (0xFFFF, "HIRESERVE")]

/-! ### Rows -/

/-- A line of code: address, label and instruction. -/
def codeRow (address : Int) (label text : String) : String :=
  s!"{Numeral.hex 8 address} {Text.alignRight 10 label} {text}"

/-- The line of a decoded word. -/
def lineOf (line : CodeLine) : String := codeRow line.address line.label line.text

/-- The headings of the columns of symbols. -/
def symbolHeading : String :=
  "Symbol " ++ Text.alignLeft 15 "Value" ++ " " ++ Text.alignRight 7 "Size" ++ " " ++
    Text.alignLeft 8 "Type" ++ " " ++ Text.alignLeft 8 "Bind" ++ " " ++ Text.alignLeft 8 "Vis" ++
    " " ++ Text.alignRight 6 "Index" ++ " Name"

/-- A symbol with its number. -/
def symbolRow (index : Int) (symbol : Symbol) : String :=
  "[" ++ Text.alignRight 4 (Numeral.decimal index) ++ "] 0x" ++
    Text.alignLeft 15 (Numeral.upperHex symbol.value) ++ " " ++
    Text.alignRight 5 (Numeral.decimal symbol.size) ++ " " ++
    Text.alignLeft 8 (typeName symbol.type) ++ " " ++
    Text.alignLeft 8 (bindName symbol.bind) ++ " " ++
    Text.alignLeft 8 (visibilityName symbol.visibility) ++ " " ++
    Text.alignRight 6 (sectionName symbol.sectionIndex) ++ " " ++ symbol.name

/-- The rows of symbols numbered from `index` on. -/
def symbolRows (index : Nat) : List Symbol → List String
  | [] => []
  | symbol :: rest => symbolRow index symbol :: symbolRows (index + 1) rest

/-! ### Whole listings -/

/-- Lines, each with its end. -/
def block (lines : List String) : String := String.join (lines.map (· ++ "\n"))

/-- The lines of code with their ends. -/
def codeBlock (lines : List CodeLine) : String := block (lines.map lineOf)

/-- The heading and the rows of symbols with their ends. -/
def symbolBlock (symbols : List Symbol) : String := block (symbolHeading :: symbolRows 0 symbols)

/-- A whole listing. -/
def render (lines : List CodeLine) (symbols : List Symbol) : String :=
  ".text\n" ++ codeBlock lines ++ "\n" ++ ".symtab\n" ++ symbolBlock symbols

/-- A whole listing as the lines that are written one after the other. -/
def pieces (lines : List CodeLine) (symbols : List Symbol) : List String :=
  ".text\n" :: lines.map (fun line => lineOf line ++ "\n") ++
    "\n" :: ".symtab\n" :: (symbolHeading :: symbolRows 0 symbols).map (· ++ "\n")

/-- What a file holds after a listing was written to it, and the fault that stopped the writing.
The file is there, and empty, even if nothing is known about its encoding. -/
def file (encoding : String) (lines : List CodeLine) (symbols : List Symbol) :
    Bytes × Option Fault :=
  match Charset.ofName? encoding with
  | none => (#[], some (.unknownEncoding encoding))
  | some charset => charset.encode (pieces lines symbols)

end RiscvListing.Listing
