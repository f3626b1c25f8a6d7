import RiscvListing.Instruction.Basic
import RiscvListing.Instruction.Word

/-!
# Encoding

The word of code that stands for an instruction: its fields joined in the order of its format,
the most significant first.

## Main definitions

* `Word.formatR`, `Word.formatI`, `Word.formatS`, `Word.formatB`, `Word.formatU`, `Word.formatJ` —
  the six formats.
* `Instruction.encode` — the word of an instruction.
-/

namespace RiscvListing

namespace Word

/-- Two codes, two source registers and a destination. -/
def formatR (funct7 : BitVec 7) (rs2 rs1 : Register) (funct3 : BitVec 3) (rd : Register)
    (opcode : BitVec 7) : Word :=
  funct7 ++ rs2 ++ rs1 ++ funct3 ++ rd ++ opcode

/-- An immediate, a source register, a code and a destination. -/
def formatI (imm : BitVec 12) (rs1 : Register) (funct3 : BitVec 3) (rd : Register)
    (opcode : BitVec 7) : Word :=
  imm ++ rs1 ++ funct3 ++ rd ++ opcode

/-- An immediate in two parts around two source registers and a code. -/
def formatS (imm : BitVec 12) (rs2 rs1 : Register) (funct3 : BitVec 3) (opcode : BitVec 7) : Word :=
  imm.extractLsb' 5 7 ++ rs2 ++ rs1 ++ funct3 ++ imm.extractLsb' 0 5 ++ opcode

/-- A distance in four parts around two source registers and a code. -/
def formatB (distance : BitVec 12) (rs2 rs1 : Register) (funct3 : BitVec 3) (opcode : BitVec 7) :
    Word :=
  distance.extractLsb' 11 1 ++ distance.extractLsb' 4 6 ++ rs2 ++ rs1 ++ funct3 ++
    distance.extractLsb' 0 4 ++ distance.extractLsb' 10 1 ++ opcode

/-- An upper immediate and a destination. -/
def formatU (imm : BitVec 20) (rd : Register) (opcode : BitVec 7) : Word :=
  imm ++ rd ++ opcode

/-- A distance in four parts and a destination. -/
def formatJ (distance : BitVec 20) (rd : Register) (opcode : BitVec 7) : Word :=
  distance.extractLsb' 19 1 ++ distance.extractLsb' 0 10 ++ distance.extractLsb' 10 1 ++
    distance.extractLsb' 11 8 ++ rd ++ opcode

end Word

namespace UpperOp

/-- The opcode of an operation. -/
def opcode : UpperOp → BitVec 7
  | lui => Opcode.lui
  | auipc => Opcode.auipc

end UpperOp

namespace Instruction

/-- The word that stands for an instruction. -/
def encode : Instruction → Word
  | upper op rd imm => .formatU imm rd op.opcode
  | jal rd distance => .formatJ distance rd Opcode.jal
  | jalr rd rs1 imm => .formatI imm rs1 0 rd Opcode.jalr
  | branch op rs1 rs2 distance => .formatB distance rs2 rs1 op.funct3 Opcode.branch
  | load op rd rs1 imm => .formatI imm rs1 op.funct3 rd Opcode.load
  | store op rs2 rs1 imm => .formatS imm rs2 rs1 op.funct3 Opcode.store
  | immediate op rd rs1 imm => .formatI imm rs1 op.funct3 rd Opcode.immediate
  | shift op rd rs1 amount => .formatR op.codes.2 amount rs1 op.codes.1 rd Opcode.immediate
  | register op rd rs1 rs2 => .formatR op.codes.2 rs2 rs1 op.codes.1 rd Opcode.register
  | environment op => .formatI op.funct12 0 0 0 Opcode.system
  | csr op rd number rs1 => .formatI number rs1 op.funct3 rd Opcode.system
  | csrImmediate op rd number value => .formatI number value op.immediateFunct3 rd Opcode.system

end Instruction

end RiscvListing
