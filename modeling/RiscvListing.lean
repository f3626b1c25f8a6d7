import RiscvListing.AddressMap
import RiscvListing.CodeLine
import RiscvListing.Command.Arguments
import RiscvListing.Command.Run
import RiscvListing.Command.Usage
import RiscvListing.Configuration
import RiscvListing.Disassembly
import RiscvListing.Export
import RiscvListing.Fault
import RiscvListing.Image.Bytes
import RiscvListing.Image.Container
import RiscvListing.Image.Draft
import RiscvListing.Image.Header
import RiscvListing.Image.Layout
import RiscvListing.Image.SectionHeader
import RiscvListing.Image.StringTable
import RiscvListing.Image.Symbol
import RiscvListing.Instruction.Assembly
import RiscvListing.Instruction.Basic
import RiscvListing.Instruction.Decode
import RiscvListing.Instruction.Encode
import RiscvListing.Instruction.Register
import RiscvListing.Instruction.Word
import RiscvListing.Journal.Basic
import RiscvListing.Journal.Level
import RiscvListing.Journal.LogFile
import RiscvListing.Journal.Report
import RiscvListing.Journal.Run
import RiscvListing.Journal.Trace
import RiscvListing.Label
import RiscvListing.Listing
import RiscvListing.Main
import RiscvListing.Number.Bits
import RiscvListing.Number.Numeral
import RiscvListing.Number.Pattern
import RiscvListing.Number.Rounding
import RiscvListing.Proofs.AddressMap
import RiscvListing.Proofs.CodeLine
import RiscvListing.Proofs.CodeLine.Dependence
import RiscvListing.Proofs.Disassembly.Extension
import RiscvListing.Proofs.Disassembly.Failure
import RiscvListing.Proofs.Disassembly.Isolation
import RiscvListing.Proofs.Disassembly.LinearSweep
import RiscvListing.Proofs.Disassembly.Lossless
import RiscvListing.Proofs.Disassembly.Output
import RiscvListing.Proofs.Disassembly.Passes
import RiscvListing.Proofs.Disassembly.Result
import RiscvListing.Proofs.Image.Container
import RiscvListing.Proofs.Image.Draft
import RiscvListing.Proofs.Image.Extension
import RiscvListing.Proofs.Image.Failure
import RiscvListing.Proofs.Image.Header
import RiscvListing.Proofs.Image.Placement
import RiscvListing.Proofs.Image.RecordFormat
import RiscvListing.Proofs.Image.SectionName
import RiscvListing.Proofs.Image.SectionScan
import RiscvListing.Proofs.Image.SectionSearch
import RiscvListing.Proofs.Image.StringPartition
import RiscvListing.Proofs.Image.StringTable
import RiscvListing.Proofs.Image.SymbolTable
import RiscvListing.Proofs.Instruction.Acceptance
import RiscvListing.Proofs.Instruction.BitTable
import RiscvListing.Proofs.Instruction.Codec
import RiscvListing.Proofs.Instruction.Format
import RiscvListing.Proofs.Instruction.Reading
import RiscvListing.Proofs.Instruction.Table
import RiscvListing.Proofs.Journal.Nesting
import RiscvListing.Proofs.Journal.Run
import RiscvListing.Proofs.Label
import RiscvListing.Proofs.Label.Declaration
import RiscvListing.Proofs.Label.Distinct
import RiscvListing.Proofs.Label.Relocation
import RiscvListing.Proofs.Listing
import RiscvListing.Proofs.Listing.SymbolRow
import RiscvListing.Proofs.Listing.WrittenFile
import RiscvListing.Proofs.Number.Numeral
import RiscvListing.Proofs.Text.Charset
import RiscvListing.Settings
import RiscvListing.Terminal.Action
import RiscvListing.Terminal.Action.Token
import RiscvListing.Terminal.Block
import RiscvListing.Terminal.Colour
import RiscvListing.Terminal.Emoji
import RiscvListing.Terminal.Emoji.Name
import RiscvListing.Terminal.Markup
import RiscvListing.Terminal.Measure
import RiscvListing.Terminal.Style
import RiscvListing.Terminal.Styled
import RiscvListing.Terminal.Table
import RiscvListing.Terminal.Theme
import RiscvListing.Terminal.Width
import RiscvListing.Terminal.Wrap
import RiscvListing.Text.Align
import RiscvListing.Text.Blank
import RiscvListing.Text.Case
import RiscvListing.Text.Cased
import RiscvListing.Text.CharacterName
import RiscvListing.Text.Charset
import RiscvListing.Text.Digit
import RiscvListing.Text.Display
import RiscvListing.Text.Escape
import RiscvListing.Text.Json
import RiscvListing.Text.Printable
import RiscvListing.Text.Range
import RiscvListing.Text.Template
import RiscvListing.Text.WordCharacter
import RiscvListing.Toml.Document
import RiscvListing.Toml.Scalar
import RiscvListing.Toml.Value
import RiscvListing.View
import RiscvListing.Workspace.Basic
import RiscvListing.Workspace.Path
