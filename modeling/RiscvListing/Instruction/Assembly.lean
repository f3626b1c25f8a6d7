import RiscvListing.Instruction.Basic

/-!
# Assembly text

Operands as text, and instructions from their text. Registers go by name and immediates are signed
decimals; a distance stands in units of two bytes and is followed by the label of the target, which
carries no further information and is skipped on reading.

## Main definitions

* `Instruction.operands` — the operands of an instruction as text.
* `Instruction.ofText?` — the instruction with a mnemonic and an operand text.
-/

namespace RiscvListing

/-- The operands of an instruction. `target` is the label that a jump or branch leads to. -/
def Instruction.operands (target : String) : Instruction → String
  | upper _ rd imm => s!"{rd.name}, {Numeral.decimal imm.toNat}"
  | jal rd distance => s!"{rd.name}, {Numeral.decimal distance.toInt}, {target}"
  | jalr rd rs1 imm => s!"{rd.name}, {rs1.name}, {Numeral.decimal imm.toInt}"
  | branch _ rs1 rs2 distance =>
    s!"{rs1.name}, {rs2.name}, {Numeral.decimal distance.toInt}, {target}"
  | load _ rd rs1 imm => s!"{rd.name}, {Numeral.decimal imm.toInt}({rs1.name})"
  | store _ rs2 rs1 imm => s!"{rs2.name}, {Numeral.decimal imm.toInt}({rs1.name})"
  | immediate _ rd rs1 imm => s!"{rd.name}, {rs1.name}, {Numeral.decimal imm.toInt}"
  | shift _ rd rs1 amount => s!"{rd.name}, {rs1.name}, {Numeral.decimal amount.toNat}"
  | register _ rd rs1 rs2 => s!"{rd.name}, {rs1.name}, {rs2.name}"
  | environment _ => ""
  | csr _ rd number rs1 => s!"{rd.name}, {Numeral.decimal number.toNat}, {rs1.name}"
  | csrImmediate _ rd number value =>
    s!"{rd.name}, {Numeral.decimal number.toNat}, {Numeral.decimal value.toNat}"

/-! ### Reading -/

namespace Assembly

/-- Splits a text at its first comma, which a blank follows. -/
def splitComma? : List Char → Option (List Char × List Char)
  | [] => none
  | ',' :: ' ' :: rest => some ([], rest)
  | c :: rest => (splitComma? rest).map fun (part, rest) => (c :: part, rest)

/-- Splits a text in `count` parts at its first commas. The last part keeps any further commas. -/
def parts? : Nat → List Char → Option (List (List Char))
  | 0, _ => none
  | 1, text => some [text]
  | count + 2, text => do
    let (part, rest) ← splitComma? text
    return part :: (← parts? (count + 1) rest)

/-- The register named by a text. -/
def register? (text : List Char) : Option Register := Register.ofName? (String.ofList text)

/-- The number written in decimal. -/
def natural? (text : List Char) : Option Nat :=
  if text ≠ [] ∧ text.all Char.isDigit then some (Nat.ofDigitChars 10 text 0) else none

/-- The number written in decimal, with a sign if it is negative. -/
def integer? : List Char → Option Int
  | '-' :: text => (natural? text).map fun n => -(n : Int)
  | text => (natural? text).map Int.ofNat

/-- The field of `width` bits whose unsigned value is written. -/
def unsigned? (width : Nat) (text : List Char) : Option (BitVec width) := do
  let n ← natural? text
  if (BitVec.ofNat width n).toNat = n then some (BitVec.ofNat width n) else none

/-- The field of `width` bits whose signed value is written. -/
def signed? (width : Nat) (text : List Char) : Option (BitVec width) := do
  let n ← integer? text
  if (BitVec.ofInt width n).toInt = n then some (BitVec.ofInt width n) else none

/-- A signed constant followed by a register in parentheses. -/
def place? (text : List Char) : Option (BitVec 12 × Register) := do
  match text.span (· ≠ '(') with
  | (imm, '(' :: register) =>
    if register.getLast? = some ')' then
      return (← signed? 12 imm, ← register? register.dropLast)
    else none
  | _ => none

/-- Two registers and whatever reads the third operand. -/
def twoRegisters? {α : Type} (third : List Char → Option α) (text : List Char) :
    Option (Register × Register × α) := do
  match ← parts? 3 text with
  | [first, second, last] => return (← register? first, ← register? second, ← third last)
  | _ => none

/-- A register and whatever reads the second operand. -/
def oneRegister? {α : Type} (second : List Char → Option α) (text : List Char) :
    Option (Register × α) := do
  match ← parts? 2 text with
  | [first, last] => return (← register? first, ← second last)
  | _ => none

/-- A constant and whatever reads the operand after it. -/
def constantThen? {α : Type} (second : List Char → Option α) (text : List Char) :
    Option (BitVec 12 × α) := do
  match ← parts? 2 text with
  | [first, last] => return (← unsigned? 12 first, ← second last)
  | _ => none

/-- A distance, skipping the label after it. -/
def distance? (width : Nat) (text : List Char) : Option (BitVec width) := do
  match ← parts? 2 text with
  | [distance, _] => signed? width distance
  | _ => none

end Assembly

namespace Instruction

open Assembly

/-- The instruction with a mnemonic and an operand text. -/
def ofText? (mnemonic operands : String) : Option Instruction :=
  let text := operands.toList
  if mnemonic = "jal" then (oneRegister? (distance? 20) text).map fun (rd, d) => jal rd d
  else if mnemonic = "jalr" then
    (twoRegisters? (signed? 12) text).map fun (rd, rs1, imm) => jalr rd rs1 imm
  else if let some op := UpperOp.all.find? (·.name = mnemonic) then
    (oneRegister? (unsigned? 20) text).map fun (rd, imm) => upper op rd imm
  else if let some op := BranchOp.all.find? (·.name = mnemonic) then
    (twoRegisters? (distance? 12) text).map fun (rs1, rs2, d) => branch op rs1 rs2 d
  else if let some op := LoadOp.all.find? (·.name = mnemonic) then
    (oneRegister? place? text).map fun (rd, imm, rs1) => load op rd rs1 imm
  else if let some op := StoreOp.all.find? (·.name = mnemonic) then
    (oneRegister? place? text).map fun (rs2, imm, rs1) => store op rs2 rs1 imm
  else if let some op := ImmediateOp.all.find? (·.name = mnemonic) then
    (twoRegisters? (signed? 12) text).map fun (rd, rs1, imm) => immediate op rd rs1 imm
  else if let some op := ShiftOp.all.find? (·.name = mnemonic) then
    (twoRegisters? (unsigned? 5) text).map fun (rd, rs1, amount) => shift op rd rs1 amount
  else if let some op := RegisterOp.all.find? (·.name = mnemonic) then
    (twoRegisters? register? text).map fun (rd, rs1, rs2) => register op rd rs1 rs2
  else if let some op := EnvironmentOp.all.find? (·.name = mnemonic) then
    if text = [] then some (environment op) else none
  else if let some op := CsrOp.all.find? (·.name = mnemonic) then
    (oneRegister? (constantThen? register?) text).map fun (rd, number, rs1) => csr op rd number rs1
  else if let some op := CsrOp.all.find? (·.immediateName = mnemonic) then
    (oneRegister? (constantThen? (unsigned? 5)) text).map fun (rd, number, value) =>
      csrImmediate op rd number value
  else none

end Instruction

end RiscvListing
