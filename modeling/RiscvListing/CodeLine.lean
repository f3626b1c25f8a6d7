import RiscvListing.AddressMap
import RiscvListing.Instruction.Assembly
import RiscvListing.Instruction.Decode

/-!
# Lines of code

A decoded word together with its address, the text of its instruction and the label of its address.
The labels come from two maps: one names addresses, the other names the target of each jump.

## Main definitions

* `CodeLine` and `CodeLine.text` — a decoded word and its text.
* `CodeLine.decode` — the line of a word at an address.
* `CodeLine.decodeAll` — the lines of the words up to the first one that is no instruction.

## Main results

* `CodeLine.decode_eq_error_iff` — decoding fails exactly on the words that are no instructions.
-/

namespace RiscvListing

/-- A decoded word. -/
structure CodeLine where
  /-- The address of the word. -/
  address : Int
  /-- The word itself. -/
  word : Int
  /-- The name of the operation. -/
  mnemonic : String
  /-- The operands, empty where there are none. -/
  operands : String := ""
  /-- The label of the address, empty where there is none. -/
  label : String := ""
  deriving Repr, DecidableEq

namespace CodeLine

/-- The mnemonic and, where there are any, the operands. -/
def text (line : CodeLine) : String :=
  if line.operands = "" then line.mnemonic else s!"{line.mnemonic} {line.operands}"

/-- The label that an instruction at `address` jumps to: the one known for the address, or else the
target address itself. -/
def targetLabel (jumps : AddressMap String) (address : Int) (instruction : Instruction) : String :=
  match jumps.get? address with
  | some label => label
  | none => s!"0x{Numeral.hex 8 (jumpTarget address (instruction.jumpOffset?.getD 0))}"

/-- The line of `word` at `address`. -/
def decode (jumps labels : AddressMap String) (address word : Int) : Except Fault CodeLine :=
  match Instruction.decode? (Word.ofInt word) with
  | none => .error (.unexpectedInstruction word (some address))
  | some instruction => .ok {
      address, word
      mnemonic := instruction.mnemonic
      operands := instruction.operands (targetLabel jumps address instruction)
      label := (labels.get? address).getD "" }

/-- The lines of the words before the first that is no instruction, and the fault of that one. -/
def decodeAll (jumps labels : AddressMap String) :
    List (Int × Int) → List CodeLine × Option Fault
  | [] => ([], none)
  | (address, word) :: rest =>
    match decode jumps labels address word with
    | .error fault => ([], some fault)
    | .ok line =>
      let (lines, fault) := decodeAll jumps labels rest
      (line :: lines, fault)

theorem decode_eq_error_iff (jumps labels : AddressMap String) (address word : Int)
    (fault : Fault) :
    decode jumps labels address word = .error fault ↔
      Instruction.decode? (Word.ofInt word) = none ∧
        fault = .unexpectedInstruction word (some address) := by
  unfold decode
  cases Instruction.decode? (Word.ofInt word) with
  | none => simp [eq_comm]
  | some instruction => simp

end CodeLine

end RiscvListing
