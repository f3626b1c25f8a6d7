import RiscvListing.Disassembly
import RiscvListing.Terminal.Block

/-!
# Terminal view

A disassembly shown on a terminal: what is known about the image, the code and the symbols.

## Main definitions

* `View.shownLines` — the lines of code that are shown.
* `View.blocks` — the view.
* `View.render` — the view as text.
-/

namespace RiscvListing.View

open Terminal (Block Justify)

/-- What is known about an image. -/
def facts (d : Disassembly) : String :=
  "\n".intercalate [
    s!"[bold]File:[/bold]          {Markup.escape d.path}",
    s!"[bold]Entry Point:[/bold]   0x{Numeral.hex 8 d.header.entry}",
    s!"[bold].text:[/bold]         0x{Numeral.hex 8 d.code.address} " ++
      s!"({Numeral.grouped d.code.size} bytes, {Numeral.grouped d.lines.length} instructions)",
    s!"[bold]Symbols:[/bold]       {Numeral.grouped d.symbols.length}",
    s!"[bold]Labels:[/bold]        {Numeral.grouped d.resolution.labels.size}",
    s!"[bold]Jumps:[/bold]         {Numeral.grouped d.resolution.jumps.size}"]

/-- The lines that are shown: at most `limit`, all of them if it is zero, and all but the last ones
if it is negative. -/
def shownLines {α : Type} (limit : Int) (lines : List α) : List α :=
  if limit = 0 ∨ lines.length ≤ limit then lines
  else if 0 < limit then lines.take limit.toNat
  else lines.take (lines.length - limit.natAbs)

/-- The row of a line of code. -/
def codeRow (line : CodeLine) : List String :=
  [Numeral.hex 8 line.address, Numeral.hex 8 line.word, Markup.escape line.label, line.mnemonic,
    Markup.escape line.operands]

/-- What stands over the code. -/
def codeHeading : Block := .heading ".text"

/-- The code. -/
def code (limit : Int) (lines : List CodeLine) : List Block :=
  let shown := shownLines limit lines
  let cutNote :=
    if shown.length < lines.length then
      [Block.notice .info <|
        s!"Showing {Numeral.grouped shown.length} of {Numeral.grouped lines.length} instructions."]
    else []
  [codeHeading,
   .table {
    columns := ["Address", "Word", "Label", "Mnemonic", "Operands"]
    rows := shown.map codeRow
    justify := [.left, .left, .right] }] ++ cutNote ++ [.blank 1]

/-- The row of a symbol. -/
def symbolRow (index : Nat) (symbol : Symbol) : List String :=
  [Numeral.decimal index, "0x" ++ Numeral.upperHex symbol.value, Numeral.decimal symbol.size,
    Listing.typeName symbol.type, Listing.bindName symbol.bind,
    Listing.visibilityName symbol.visibility, Listing.sectionName symbol.sectionIndex,
    Markup.escape symbol.name]

/-- The symbols. -/
def symbols (entries : List Symbol) : List Block :=
  [.heading ".symtab",
   .table {
    columns := ["#", "Value", "Size", "Type", "Bind", "Vis", "Index", "Name"]
    rows := entries.zipIdx.map fun (symbol, index) => symbolRow index symbol
    justify := [.right, .left, .right, .left, .left, .left, .right] },
   .blank 1]

/-- What stands in front of the code. -/
def introduction (d : Disassembly) : List Block :=
  [.heading "rvdisasm -- RISC-V ELF32 Disassembler",
   .panel "[bold bright_cyan]Binary Information[/bold bright_cyan]" (facts d),
   .blank 1]

/-- The view of a disassembly. -/
def blocks (limit : Int) (d : Disassembly) : List Block :=
  introduction d ++ code limit d.lines ++ symbols d.symbols ++ [.divider]

/-- Blocks as text. -/
def renderAll (width : Nat) (blocks : List Block) : String :=
  String.join (blocks.map fun block => (block.render width).toOption.getD "")

/-- The view of a disassembly as text. -/
def render (width : Nat) (limit : Int) (d : Disassembly) : String :=
  renderAll width (blocks limit d)

/-- What can be shown of a disassembly where it is not known how many lines of code are shown. -/
def renderStart (width : Nat) (d : Disassembly) : String :=
  renderAll width (introduction d ++ [codeHeading])

end RiscvListing.View
