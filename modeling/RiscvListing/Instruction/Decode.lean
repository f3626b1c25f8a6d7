import RiscvListing.Instruction.Basic
import RiscvListing.Instruction.Word

/-!
# Decoding

The instruction that a word of code stands for. The opcode selects a format, the remaining codes
an operation of that format, and the other fields are its operands. A register jump is recognised
by its opcode alone; an environment call needs both of its register fields to be zero.

## Main definitions

* `Instruction.decode?` — the instruction of a word.
-/

namespace RiscvListing.Instruction

/-- The instruction of a word whose opcode is that of environment calls and control registers. -/
def decodeSystem? (w : Word) : Option Instruction :=
  if w.funct3 = 0 then
    if w.rd = 0 ∧ w.rs1 = 0 then (EnvironmentOp.ofFunct12? w.funct12).map environment else none
  else
    match CsrOp.ofFunct3? w.funct3 with
    | some op => some (csr op w.rd w.funct12 w.rs1)
    | none => (CsrOp.ofImmediateFunct3? w.funct3).map fun op => csrImmediate op w.rd w.funct12 w.rs1

/-- The instruction of a word whose opcode is that of arithmetic with a constant. -/
def decodeImmediate? (w : Word) : Option Instruction :=
  match ImmediateOp.ofFunct3? w.funct3 with
  | some op => some (immediate op w.rd w.rs1 w.immI)
  | none => (ShiftOp.ofCodes? (w.funct3, w.funct7)).map fun op => shift op w.rd w.rs1 w.rs2

/-- The instruction that a word stands for, if it is a supported one. -/
def decode? (w : Word) : Option Instruction :=
  if w.opcode = Opcode.lui then some (upper .lui w.rd w.immU)
  else if w.opcode = Opcode.auipc then some (upper .auipc w.rd w.immU)
  else if w.opcode = Opcode.jal then some (jal w.rd w.immJ)
  else if w.opcode = Opcode.jalr then some (jalr w.rd w.rs1 w.immI)
  else if w.opcode = Opcode.branch then
    (BranchOp.ofFunct3? w.funct3).map fun op => branch op w.rs1 w.rs2 w.immB
  else if w.opcode = Opcode.load then
    (LoadOp.ofFunct3? w.funct3).map fun op => load op w.rd w.rs1 w.immI
  else if w.opcode = Opcode.store then
    (StoreOp.ofFunct3? w.funct3).map fun op => store op w.rs2 w.rs1 w.immS
  else if w.opcode = Opcode.immediate then decodeImmediate? w
  else if w.opcode = Opcode.register then
    (RegisterOp.ofCodes? (w.funct3, w.funct7)).map fun op => register op w.rd w.rs1 w.rs2
  else if w.opcode = Opcode.system then decodeSystem? w
  else none

end RiscvListing.Instruction
