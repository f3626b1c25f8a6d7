import Mathlib.Data.List.TakeDrop
import RiscvListing.Instruction.Assembly
import RiscvListing.Proofs.Number.Numeral

/-!
# Reading assembly text

The operand text of an instruction is read back as the instruction. Operands are set apart by a
comma and a blank, and neither the name of a register nor a numeral has a comma in it, so the text
falls apart at its commas; the label behind a distance is the last part and may be any text.

## Main results

* `Assembly.splitComma?_append` — a text falls apart at its first comma.
* `Assembly.unsigned?_decimal`, `Assembly.signed?_decimal` — a field is read from its numeral.
* `Instruction.ofText?_operands` — an instruction is read from its mnemonic and operands.
-/

namespace RiscvListing

/-- The name of a register consists of letters and digits. -/
theorem Register.not_mem_name {c : Char} (h : c.isAlphanum = false) (r : Register) :
    c ∉ r.name.toList := by
  have hname : ∀ r : Register, r.name.toList.all Char.isAlphanum = true := by decide
  intro hmem
  rw [List.all_eq_true.mp (hname r) c hmem] at h
  cases h

namespace Assembly

/-! ### Parts of a text -/

theorem splitComma?_append {part : List Char} (hpart : ',' ∉ part) (rest : List Char) :
    splitComma? (part ++ ',' :: ' ' :: rest) = some (part, rest) := by
  induction part with
  | nil => rfl
  | cons c part ih =>
    have hc : c ≠ ',' := fun h => hpart (by simp [h])
    have hrest : ',' ∉ part := fun h => hpart (List.mem_cons_of_mem _ h)
    rw [List.cons_append, splitComma?.eq_3 _ _ (fun _ h _ => hc h), ih hrest]
    rfl

theorem parts?_append {part : List Char} (hpart : ',' ∉ part) (count : Nat) (rest : List Char) :
    parts? (count + 2) (part ++ ',' :: ' ' :: rest) =
      (parts? (count + 1) rest).map (part :: ·) := by
  rw [parts?, splitComma?_append hpart]
  simp only [Option.bind_eq_bind, Option.bind_some]
  cases parts? (count + 1) rest <;> rfl

/-! ### Numerals -/

theorem natural?_toDigits (n : Nat) : natural? (Nat.toDigits 10 n) = some n := by
  have hall : (Nat.toDigits 10 n).all Char.isDigit = true :=
    List.all_eq_true.mpr fun c hc => Nat.isDigit_of_mem_toDigits (by decide) (by decide) hc
  rw [natural?, if_pos ⟨Nat.toDigits_ne_nil, hall⟩, Nat.ofDigitChars_ten_toDigits]

theorem integer?_decimal (n : Int) : integer? (Numeral.decimal n).toList = some n := by
  by_cases hn : n < 0
  · have habs : -(n.natAbs : Int) = n := by omega
    rw [Numeral.toList_decimal_of_neg hn, integer?, natural?_toDigits]
    exact congrArg some habs
  · obtain ⟨k, rfl⟩ := Int.eq_ofNat_of_zero_le (Int.not_lt.mp hn)
    rw [Numeral.toList_decimal_natCast]
    -- The first digit is no sign.
    have hsign : ∀ text, Nat.toDigits 10 k ≠ '-' :: text := by
      intro text h
      have hmem : '-' ∈ Nat.toDigits 10 k := by simp [h]
      exact absurd (Nat.isDigit_of_mem_toDigits (by decide) (by decide) hmem) (by decide)
    rw [integer?.eq_2 _ hsign, natural?_toDigits]
    rfl

theorem unsigned?_decimal {width : Nat} (x : BitVec width) :
    unsigned? width (Numeral.decimal x.toNat).toList = some x := by
  rw [unsigned?, Numeral.toList_decimal_natCast, natural?_toDigits]
  simp

theorem signed?_decimal {width : Nat} (x : BitVec width) :
    signed? width (Numeral.decimal x.toInt).toList = some x := by
  rw [signed?, integer?_decimal]
  simp

theorem comma_not_mem_decimal (n : Int) : ',' ∉ (Numeral.decimal n).toList :=
  Numeral.not_mem_decimal (by decide) (by decide) n

/-! ### Registers -/

theorem register?_name (r : Register) : register? r.name.toList = some r := by
  rw [register?, String.ofList_toList, Register.ofName?_name]

theorem comma_not_mem_name (r : Register) : ',' ∉ r.name.toList := r.not_mem_name (by decide)

/-! ### Operands -/

section Operands

variable {α : Type} (r s : Register) (rest : List Char)

theorem oneRegister?_append (second : List Char → Option α) :
    oneRegister? second (r.name.toList ++ ',' :: ' ' :: rest) =
      (second rest).map fun value => (r, value) := by
  rw [oneRegister?, parts?_append (comma_not_mem_name r)]
  simp only [parts?, Option.map_some, Option.bind_eq_bind, Option.bind_some, register?_name]
  cases second rest <;> rfl

theorem twoRegisters?_append (third : List Char → Option α) :
    twoRegisters? third (r.name.toList ++ ',' :: ' ' :: (s.name.toList ++ ',' :: ' ' :: rest)) =
      (third rest).map fun value => (r, s, value) := by
  rw [twoRegisters?, parts?_append (comma_not_mem_name r), parts?_append (comma_not_mem_name s)]
  simp only [parts?, Option.map_some, Option.bind_eq_bind, Option.bind_some, register?_name]
  cases third rest <;> rfl

theorem constantThen?_append (second : List Char → Option α) (number : BitVec 12) :
    constantThen? second ((Numeral.decimal number.toNat).toList ++ ',' :: ' ' :: rest) =
      (second rest).map fun value => (number, value) := by
  rw [constantThen?, parts?_append (comma_not_mem_decimal _)]
  simp only [parts?, Option.map_some, Option.bind_eq_bind, Option.bind_some, unsigned?_decimal]
  cases second rest <;> rfl

theorem distance?_append {width : Nat} (distance : BitVec width) :
    distance? width ((Numeral.decimal distance.toInt).toList ++ ',' :: ' ' :: rest) =
      some distance := by
  rw [distance?, parts?_append (comma_not_mem_decimal _)]
  simp only [parts?, Option.map_some, Option.bind_eq_bind, Option.bind_some, signed?_decimal]

theorem place?_append (imm : BitVec 12) :
    place? ((Numeral.decimal imm.toInt).toList ++ '(' :: (r.name.toList ++ [')'])) =
      some (imm, r) := by
  -- No character of the numeral is a parenthesis, so the numeral ends at the first one.
  have hopen : ∀ c ∈ (Numeral.decimal imm.toInt).toList, (decide (c ≠ '(')) = true := by
    intro c hc
    exact decide_eq_true fun h => Numeral.not_mem_decimal (by decide) (by decide) _ (h ▸ hc)
  rw [place?, List.span_eq_takeWhile_dropWhile, List.takeWhile_append_of_pos hopen,
    List.dropWhile_append_of_pos hopen]
  simp [signed?_decimal, register?_name]

end Operands

end Assembly

/-! ### Instructions by mnemonic

No two operations have the same name, so a mnemonic selects the way its operands are read. -/

namespace Instruction

open Assembly

section Mnemonic

variable (text : String)

theorem ofText?_upper (op : UpperOp) :
    ofText? op.name text =
      (oneRegister? (unsigned? 20) text.toList).map fun (rd, imm) => upper op rd imm := by
  cases op <;> rfl

theorem ofText?_branch (op : BranchOp) :
    ofText? op.name text =
      (twoRegisters? (distance? 12) text.toList).map fun (rs1, rs2, d) => branch op rs1 rs2 d := by
  cases op <;> rfl

theorem ofText?_load (op : LoadOp) :
    ofText? op.name text =
      (oneRegister? place? text.toList).map fun (rd, imm, rs1) => load op rd rs1 imm := by
  cases op <;> rfl

theorem ofText?_store (op : StoreOp) :
    ofText? op.name text =
      (oneRegister? place? text.toList).map fun (rs2, imm, rs1) => store op rs2 rs1 imm := by
  cases op <;> rfl

theorem ofText?_immediate (op : ImmediateOp) :
    ofText? op.name text =
      (twoRegisters? (signed? 12) text.toList).map fun (rd, rs1, imm) =>
        immediate op rd rs1 imm := by
  cases op <;> rfl

theorem ofText?_shift (op : ShiftOp) :
    ofText? op.name text =
      (twoRegisters? (unsigned? 5) text.toList).map fun (rd, rs1, amount) =>
        shift op rd rs1 amount := by
  cases op <;> rfl

theorem ofText?_register (op : RegisterOp) :
    ofText? op.name text =
      (twoRegisters? register? text.toList).map fun (rd, rs1, rs2) => register op rd rs1 rs2 := by
  cases op <;> rfl

theorem ofText?_csr (op : CsrOp) :
    ofText? op.name text =
      (oneRegister? (constantThen? register?) text.toList).map fun (rd, number, rs1) =>
        csr op rd number rs1 := by
  cases op <;> rfl

theorem ofText?_csrImmediate (op : CsrOp) :
    ofText? op.immediateName text =
      (oneRegister? (constantThen? (unsigned? 5)) text.toList).map fun (rd, number, value) =>
        csrImmediate op rd number value := by
  cases op <;> rfl

end Mnemonic

/-! ### Instructions from their operands -/

/-- An instruction is read from its mnemonic and its operands, whatever the label is. -/
theorem ofText?_operands (i : Instruction) (target : String) :
    ofText? i.mnemonic (i.operands target) = some i := by
  cases i with
  | upper op rd imm =>
    rw [mnemonic, ofText?_upper]
    simp [operands, toString, oneRegister?_append, unsigned?_decimal]
  | jal rd distance =>
    rw [mnemonic, ofText?, if_pos rfl]
    simp [operands, toString, oneRegister?_append, distance?_append]
  | jalr rd rs1 imm =>
    rw [mnemonic, ofText?, if_neg (by decide), if_pos rfl]
    simp [operands, toString, twoRegisters?_append, signed?_decimal]
  | branch op rs1 rs2 distance =>
    rw [mnemonic, ofText?_branch]
    simp [operands, toString, twoRegisters?_append, distance?_append]
  | load op rd rs1 imm =>
    rw [mnemonic, ofText?_load]
    simp [operands, toString, oneRegister?_append, place?_append]
  | store op rs2 rs1 imm =>
    rw [mnemonic, ofText?_store]
    simp [operands, toString, oneRegister?_append, place?_append]
  | immediate op rd rs1 imm =>
    rw [mnemonic, ofText?_immediate]
    simp [operands, toString, twoRegisters?_append, signed?_decimal]
  | shift op rd rs1 amount =>
    rw [mnemonic, ofText?_shift]
    simp [operands, toString, twoRegisters?_append, unsigned?_decimal]
  | register op rd rs1 rs2 =>
    rw [mnemonic, ofText?_register]
    simp [operands, toString, twoRegisters?_append, register?_name]
  | environment op => cases op <;> rfl
  | csr op rd number rs1 =>
    rw [mnemonic, ofText?_csr]
    simp [operands, toString, oneRegister?_append, constantThen?_append, register?_name]
  | csrImmediate op rd number value =>
    rw [mnemonic, ofText?_csrImmediate]
    simp [operands, toString, oneRegister?_append, constantThen?_append, unsigned?_decimal]

end Instruction

end RiscvListing
