import RiscvListing.Instruction.Register

/-!
# Instructions

The supported instructions as data: an operation and its operands. Operands are bit fields of the
width the encoding gives them, so every value of the type is an instruction.

## Main definitions

* `UpperOp`, `BranchOp`, `LoadOp`, `StoreOp`, `ImmediateOp`, `ShiftOp`, `RegisterOp`,
  `EnvironmentOp`, `CsrOp` — operations by format, each with its code and its name.
* `Instruction` — an operation with its operands.
* `Instruction.mnemonic` — the name of its operation.
* `Instruction.jumpOffset?` — how far it jumps.
-/

namespace RiscvListing

/-- Operations on the upper 20 bits of a register. -/
inductive UpperOp where
  | lui | auipc
  deriving Repr, DecidableEq

/-- Conditional branches. -/
inductive BranchOp where
  | beq | bne | blt | bge | bltu | bgeu
  deriving Repr, DecidableEq

/-- Loads. -/
inductive LoadOp where
  | lb | lh | lw | lbu | lhu
  deriving Repr, DecidableEq

/-- Stores. -/
inductive StoreOp where
  | sb | sh | sw
  deriving Repr, DecidableEq

/-- Arithmetic with a signed immediate. -/
inductive ImmediateOp where
  | addi | slti | sltiu | xori | ori | andi
  deriving Repr, DecidableEq

/-- Shifts by a constant. -/
inductive ShiftOp where
  | slli | srli | srai
  deriving Repr, DecidableEq

/-- Arithmetic on two registers. -/
inductive RegisterOp where
  | add | sub | mul | sll | mulh | slt | mulhsu | sltu | mulhu
  | xor | div | srl | sra | divu | or | rem | and | remu
  deriving Repr, DecidableEq

/-- Calls to the environment. -/
inductive EnvironmentOp where
  | ecall | ebreak
  deriving Repr, DecidableEq

/-- Accesses to a control register: exchange, set bits, clear bits. -/
inductive CsrOp where
  | exchange | set | clear
  deriving Repr, DecidableEq

/-! ### Codes and names of the operations -/

namespace UpperOp

/-- Every operation. -/
def all : List UpperOp := [lui, auipc]

/-- The name of an operation. -/
def name : UpperOp → String
  | lui => "lui"
  | auipc => "auipc"

end UpperOp

namespace BranchOp

/-- Every operation. -/
def all : List BranchOp := [beq, bne, blt, bge, bltu, bgeu]

/-- The name of an operation. -/
def name : BranchOp → String
  | beq => "beq"
  | bne => "bne"
  | blt => "blt"
  | bge => "bge"
  | bltu => "bltu"
  | bgeu => "bgeu"

/-- The code of an operation. -/
def funct3 : BranchOp → BitVec 3
  | beq => 0b000#3
  | bne => 0b001#3
  | blt => 0b100#3
  | bge => 0b101#3
  | bltu => 0b110#3
  | bgeu => 0b111#3

/-- The operation with a code. -/
def ofFunct3? (code : BitVec 3) : Option BranchOp := all.find? (·.funct3 = code)

end BranchOp

namespace LoadOp

/-- Every operation. -/
def all : List LoadOp := [lb, lh, lw, lbu, lhu]

/-- The name of an operation. -/
def name : LoadOp → String
  | lb => "lb"
  | lh => "lh"
  | lw => "lw"
  | lbu => "lbu"
  | lhu => "lhu"

/-- The code of an operation. -/
def funct3 : LoadOp → BitVec 3
  | lb => 0b000#3
  | lh => 0b001#3
  | lw => 0b010#3
  | lbu => 0b100#3
  | lhu => 0b101#3

/-- The operation with a code. -/
def ofFunct3? (code : BitVec 3) : Option LoadOp := all.find? (·.funct3 = code)

end LoadOp

namespace StoreOp

/-- Every operation. -/
def all : List StoreOp := [sb, sh, sw]

/-- The name of an operation. -/
def name : StoreOp → String
  | sb => "sb"
  | sh => "sh"
  | sw => "sw"

/-- The code of an operation. -/
def funct3 : StoreOp → BitVec 3
  | sb => 0b000#3
  | sh => 0b001#3
  | sw => 0b010#3

/-- The operation with a code. -/
def ofFunct3? (code : BitVec 3) : Option StoreOp := all.find? (·.funct3 = code)

end StoreOp

namespace ImmediateOp

/-- Every operation. -/
def all : List ImmediateOp := [addi, slti, sltiu, xori, ori, andi]

/-- The name of an operation. -/
def name : ImmediateOp → String
  | addi => "addi"
  | slti => "slti"
  | sltiu => "sltiu"
  | xori => "xori"
  | ori => "ori"
  | andi => "andi"

/-- The code of an operation. -/
def funct3 : ImmediateOp → BitVec 3
  | addi => 0b000#3
  | slti => 0b010#3
  | sltiu => 0b011#3
  | xori => 0b100#3
  | ori => 0b110#3
  | andi => 0b111#3

/-- The operation with a code. -/
def ofFunct3? (code : BitVec 3) : Option ImmediateOp := all.find? (·.funct3 = code)

end ImmediateOp

namespace ShiftOp

/-- Every operation. -/
def all : List ShiftOp := [slli, srli, srai]

/-- The name of an operation. -/
def name : ShiftOp → String
  | slli => "slli"
  | srli => "srli"
  | srai => "srai"

/-- The two codes of an operation. -/
def codes : ShiftOp → BitVec 3 × BitVec 7
  | slli => (0b001#3, 0b0000000#7)
  | srli => (0b101#3, 0b0000000#7)
  | srai => (0b101#3, 0b0100000#7)

/-- The operation with a pair of codes. -/
def ofCodes? (codes : BitVec 3 × BitVec 7) : Option ShiftOp := all.find? (·.codes = codes)

end ShiftOp

namespace RegisterOp

/-- Every operation. -/
def all : List RegisterOp :=
  [add, sub, mul, sll, mulh, slt, mulhsu, sltu, mulhu,
   xor, div, srl, sra, divu, or, rem, and, remu]

/-- The name of an operation. -/
def name : RegisterOp → String
  | add => "add"
  | sub => "sub"
  | mul => "mul"
  | sll => "sll"
  | mulh => "mulh"
  | slt => "slt"
  | mulhsu => "mulhsu"
  | sltu => "sltu"
  | mulhu => "mulhu"
  | xor => "xor"
  | div => "div"
  | srl => "srl"
  | sra => "sra"
  | divu => "divu"
  | or => "or"
  | rem => "rem"
  | and => "and"
  | remu => "remu"

/-- The two codes of an operation. -/
def codes : RegisterOp → BitVec 3 × BitVec 7
  | add => (0b000#3, 0b0000000#7)
  | sub => (0b000#3, 0b0100000#7)
  | mul => (0b000#3, 0b0000001#7)
  | sll => (0b001#3, 0b0000000#7)
  | mulh => (0b001#3, 0b0000001#7)
  | slt => (0b010#3, 0b0000000#7)
  | mulhsu => (0b010#3, 0b0000001#7)
  | sltu => (0b011#3, 0b0000000#7)
  | mulhu => (0b011#3, 0b0000001#7)
  | xor => (0b100#3, 0b0000000#7)
  | div => (0b100#3, 0b0000001#7)
  | srl => (0b101#3, 0b0000000#7)
  | sra => (0b101#3, 0b0100000#7)
  | divu => (0b101#3, 0b0000001#7)
  | or => (0b110#3, 0b0000000#7)
  | rem => (0b110#3, 0b0000001#7)
  | and => (0b111#3, 0b0000000#7)
  | remu => (0b111#3, 0b0000001#7)

/-- The operation with a pair of codes. -/
def ofCodes? (codes : BitVec 3 × BitVec 7) : Option RegisterOp := all.find? (·.codes = codes)

end RegisterOp

namespace EnvironmentOp

/-- Every operation. -/
def all : List EnvironmentOp := [ecall, ebreak]

/-- The name of an operation. -/
def name : EnvironmentOp → String
  | ecall => "ecall"
  | ebreak => "ebreak"

/-- The code of an operation. -/
def funct12 : EnvironmentOp → BitVec 12
  | ecall => 0#12
  | ebreak => 1#12

/-- The operation with a code. -/
def ofFunct12? (code : BitVec 12) : Option EnvironmentOp := all.find? (·.funct12 = code)

end EnvironmentOp

namespace CsrOp

/-- Every operation. -/
def all : List CsrOp := [exchange, set, clear]

/-- The name of an operation whose operand is a register. -/
def name : CsrOp → String
  | exchange => "csrrw"
  | set => "csrrs"
  | clear => "csrrc"

/-- The name of an operation whose operand is a constant. -/
def immediateName (op : CsrOp) : String := op.name ++ "i"

/-- The code of an operation whose operand is a register. -/
def funct3 : CsrOp → BitVec 3
  | exchange => 0b001#3
  | set => 0b010#3
  | clear => 0b011#3

/-- The code of an operation whose operand is a constant. -/
def immediateFunct3 : CsrOp → BitVec 3
  | exchange => 0b101#3
  | set => 0b110#3
  | clear => 0b111#3

/-- The operation on a register with a code. -/
def ofFunct3? (code : BitVec 3) : Option CsrOp := all.find? (·.funct3 = code)

/-- The operation on a constant with a code. -/
def ofImmediateFunct3? (code : BitVec 3) : Option CsrOp := all.find? (·.immediateFunct3 = code)

end CsrOp

/-! ### Instructions -/

/-- An instruction: an operation with its operands. The distance of a jump or branch is in units
of two bytes. -/
inductive Instruction where
  | upper (op : UpperOp) (rd : Register) (imm : BitVec 20)
  | jal (rd : Register) (distance : BitVec 20)
  | jalr (rd rs1 : Register) (imm : BitVec 12)
  | branch (op : BranchOp) (rs1 rs2 : Register) (distance : BitVec 12)
  | load (op : LoadOp) (rd rs1 : Register) (imm : BitVec 12)
  | store (op : StoreOp) (rs2 rs1 : Register) (imm : BitVec 12)
  | immediate (op : ImmediateOp) (rd rs1 : Register) (imm : BitVec 12)
  | shift (op : ShiftOp) (rd rs1 : Register) (amount : BitVec 5)
  | register (op : RegisterOp) (rd rs1 rs2 : Register)
  | environment (op : EnvironmentOp)
  | csr (op : CsrOp) (rd : Register) (number : BitVec 12) (rs1 : Register)
  | csrImmediate (op : CsrOp) (rd : Register) (number : BitVec 12) (value : BitVec 5)
  deriving Repr, DecidableEq

namespace Instruction

/-- The name of an instruction's operation. -/
def mnemonic : Instruction → String
  | upper op .. => op.name
  | jal .. => "jal"
  | jalr .. => "jalr"
  | branch op .. => op.name
  | load op .. => op.name
  | store op .. => op.name
  | immediate op .. => op.name
  | shift op .. => op.name
  | register op .. => op.name
  | environment op => op.name
  | csr op .. => op.name
  | csrImmediate op .. => op.immediateName

/-- The distance in bytes from a jump or branch to its target. -/
def jumpOffset? : Instruction → Option Int
  | jal _ distance => some (2 * distance.toInt)
  | branch _ _ _ distance => some (2 * distance.toInt)
  | _ => none

end Instruction

end RiscvListing
