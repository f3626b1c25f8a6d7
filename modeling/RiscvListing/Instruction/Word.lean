/-!
# Instruction words

A word of code has 32 bits. Its fields are slices of those bits, and an immediate is one slice or
several slices joined. Branches and jumps hold their distance in units of two bytes, so a distance
in bytes is twice the signed value of the field.

## Main definitions

* `Word` and `Word.ofInt` — 32 bits, and the low 32 bits of an integer.
* `Word.opcode`, `Word.rd`, `Word.funct3`, `Word.rs1`, `Word.rs2`, `Word.funct7`, `Word.funct12` —
  the fixed fields.
* `Word.immI`, `Word.immS`, `Word.immB`, `Word.immU`, `Word.immJ` — the immediates by format.
* `Word.jumpOffset?` — the distance of a jump or branch in bytes.
-/

namespace RiscvListing

/-- A word of code. -/
abbrev Word := BitVec 32

namespace Opcode

/-- Load upper immediate. -/
def lui : BitVec 7 := 0b0110111#7
/-- Add upper immediate to the program counter. -/
def auipc : BitVec 7 := 0b0010111#7
/-- Jump and link. -/
def jal : BitVec 7 := 0b1101111#7
/-- Jump and link to a register. -/
def jalr : BitVec 7 := 0b1100111#7
/-- Conditional branches. -/
def branch : BitVec 7 := 0b1100011#7
/-- Loads. -/
def load : BitVec 7 := 0b0000011#7
/-- Stores. -/
def store : BitVec 7 := 0b0100011#7
/-- Arithmetic with an immediate. -/
def immediate : BitVec 7 := 0b0010011#7
/-- Arithmetic on registers. -/
def register : BitVec 7 := 0b0110011#7
/-- Environment calls and control registers. -/
def system : BitVec 7 := 0b1110011#7

end Opcode

namespace Word

/-- The low 32 bits of an integer. -/
def ofInt (n : Int) : Word := BitVec.ofInt 32 n

/-! ### Fixed fields -/

/-- Bits 6 to 0, the instruction format. -/
def opcode (w : Word) : BitVec 7 := w.extractLsb' 0 7
/-- Bits 11 to 7, the destination register. -/
def rd (w : Word) : BitVec 5 := w.extractLsb' 7 5
/-- Bits 14 to 12. -/
def funct3 (w : Word) : BitVec 3 := w.extractLsb' 12 3
/-- Bits 19 to 15, the first source register. -/
def rs1 (w : Word) : BitVec 5 := w.extractLsb' 15 5
/-- Bits 24 to 20, the second source register or a shift amount. -/
def rs2 (w : Word) : BitVec 5 := w.extractLsb' 20 5
/-- Bits 31 to 25. -/
def funct7 (w : Word) : BitVec 7 := w.extractLsb' 25 7
/-- Bits 31 to 20, a control register or the kind of environment call. -/
def funct12 (w : Word) : BitVec 12 := w.extractLsb' 20 12

/-! ### Immediates -/

/-- The immediate of loads, of register jumps and of arithmetic with an immediate. -/
def immI (w : Word) : BitVec 12 := w.extractLsb' 20 12
/-- The immediate of stores, split around the source registers. -/
def immS (w : Word) : BitVec 12 := w.extractLsb' 25 7 ++ w.extractLsb' 7 5
/-- The distance of a branch in units of two bytes. -/
def immB (w : Word) : BitVec 12 :=
  w.extractLsb' 31 1 ++ w.extractLsb' 7 1 ++ w.extractLsb' 25 6 ++ w.extractLsb' 8 4
/-- The upper immediate, not shifted into place. -/
def immU (w : Word) : BitVec 20 := w.extractLsb' 12 20
/-- The distance of a jump in units of two bytes. -/
def immJ (w : Word) : BitVec 20 :=
  w.extractLsb' 31 1 ++ w.extractLsb' 12 8 ++ w.extractLsb' 20 1 ++ w.extractLsb' 21 10

/-- The distance of a branch in bytes. -/
def branchOffset (w : Word) : Int := 2 * w.immB.toInt
/-- The distance of a jump in bytes. -/
def jalOffset (w : Word) : Int := 2 * w.immJ.toInt

/-- The distance in bytes from a jump or branch to its target; other words have none. -/
def jumpOffset? (w : Word) : Option Int :=
  if w.opcode = Opcode.jal then some w.jalOffset
  else if w.opcode = Opcode.branch then some w.branchOffset
  else none

/-- Whether a word has the format of a jump or of a branch, supported or not. -/
def isJump (w : Word) : Bool := w.jumpOffset?.isSome

theorem isJump_iff (w : Word) :
    w.isJump = true ↔ w.opcode = Opcode.jal ∨ w.opcode = Opcode.branch := by
  unfold isJump jumpOffset?
  split
  · simp_all
  · split <;> simp_all

end Word

/-- The address that lies `offset` bytes from `address`, modulo the size of the address space. -/
def jumpTarget (address offset : Int) : Int := (address + offset) % 0x100000000

end RiscvListing
