import Mathlib.Data.BitVec
import RiscvListing.Instruction.Encode

/-!
# Formats and their fields

A format joins the fields of a word, and every field is a slice of the word, so the two undo each
other: the fields of a joined word are the ones it was joined from, and a word is the join of its
own fields.

The six slots of a register operation divide a word for every format. What differs is which part of
the immediate stands in which slot, so each format is first written as a row of those slots, and
its fields are then read off the row.

## Main results

* `Word.formatI_fields`, `Word.formatS_fields`, `Word.formatB_fields`, `Word.formatU_fields`,
  `Word.formatJ_fields` — the fields of a word in a format, after the six fields of a row of slots.
* `Word.formatR_of_fields`, `Word.formatI_of_fields`, `Word.formatS_of_fields`,
  `Word.formatB_of_fields`, `Word.formatU_of_fields`, `Word.formatJ_of_fields` — a word is put
  together from its fields.
-/

namespace RiscvListing.Word

section Slots

variable (code7 opcode : BitVec 7) (code3 : BitVec 3) (rs2 rs1 rd : Register)

/-! ### Slots -/

@[simp] theorem opcode_formatR : (formatR code7 rs2 rs1 code3 rd opcode).opcode = opcode := by
  unfold formatR Word.opcode
  grind

@[simp] theorem rd_formatR : (formatR code7 rs2 rs1 code3 rd opcode).rd = rd := by
  unfold formatR Word.rd
  grind

@[simp] theorem funct3_formatR : (formatR code7 rs2 rs1 code3 rd opcode).funct3 = code3 := by
  unfold formatR Word.funct3
  grind

@[simp] theorem rs1_formatR : (formatR code7 rs2 rs1 code3 rd opcode).rs1 = rs1 := by
  unfold formatR Word.rs1
  grind

@[simp] theorem rs2_formatR : (formatR code7 rs2 rs1 code3 rd opcode).rs2 = rs2 := by
  unfold formatR Word.rs2
  grind

@[simp] theorem funct7_formatR : (formatR code7 rs2 rs1 code3 rd opcode).funct7 = code7 := by
  unfold formatR Word.funct7
  grind

/-- A word is the row of its slots. -/
theorem formatR_of_fields (w : Word) :
    formatR w.funct7 w.rs2 w.rs1 w.funct3 w.rd w.opcode = w := by
  unfold formatR Word.funct7 Word.rs2 Word.rs1 Word.funct3 Word.rd Word.opcode
  -- Neighbouring slices of a word are joined until one slice is left.
  iterate 5 rw [BitVec.extractLsb'_append_extractLsb'_eq_extractLsb' (by decide)]
  exact BitVec.extractLsb'_eq_self

/-! ### Immediates in terms of slots -/

theorem immI_eq (w : Word) : w.immI = w.funct7 ++ w.rs2 := by
  unfold immI Word.funct7 Word.rs2
  grind

theorem immS_eq (w : Word) : w.immS = w.funct7 ++ w.rd := rfl

theorem immB_eq (w : Word) :
    w.immB = w.funct7.extractLsb' 6 1 ++ w.rd.extractLsb' 0 1 ++ w.funct7.extractLsb' 0 6 ++
      w.rd.extractLsb' 1 4 := by
  unfold immB Word.funct7 Word.rd
  grind

theorem immU_eq (w : Word) : w.immU = w.funct7 ++ w.rs2 ++ w.rs1 ++ w.funct3 := by
  unfold immU Word.funct7 Word.rs2 Word.rs1 Word.funct3
  grind

theorem immJ_eq (w : Word) :
    w.immJ = w.funct7.extractLsb' 6 1 ++ (w.rs1 ++ w.funct3) ++ w.rs2.extractLsb' 0 1 ++
      (w.funct7.extractLsb' 0 6 ++ w.rs2.extractLsb' 1 4) := by
  unfold immJ Word.funct7 Word.rs2 Word.rs1 Word.funct3
  grind

/-! ### Formats in terms of slots -/

theorem formatI_eq_formatR (imm : BitVec 12) :
    formatI imm rs1 code3 rd opcode =
      formatR (imm.extractLsb' 5 7) (imm.extractLsb' 0 5) rs1 code3 rd opcode := by
  unfold formatI formatR
  rw [BitVec.extractLsb'_append_extractLsb'_eq_extractLsb' (by decide)]
  simp

theorem formatS_eq_formatR (imm : BitVec 12) :
    formatS imm rs2 rs1 code3 opcode =
      formatR (imm.extractLsb' 5 7) rs2 rs1 code3 (imm.extractLsb' 0 5) opcode := rfl

theorem formatB_eq_formatR (distance : BitVec 12) :
    formatB distance rs2 rs1 code3 opcode =
      formatR (distance.extractLsb' 11 1 ++ distance.extractLsb' 4 6) rs2 rs1 code3
        (distance.extractLsb' 0 4 ++ distance.extractLsb' 10 1) opcode := by
  unfold formatB formatR
  grind

theorem formatU_eq_formatR (imm : BitVec 20) :
    formatU imm rd opcode =
      formatR (imm.extractLsb' 13 7) (imm.extractLsb' 8 5) (imm.extractLsb' 3 5)
        (imm.extractLsb' 0 3) rd opcode := by
  unfold formatU formatR
  grind

theorem formatJ_eq_formatR (distance : BitVec 20) :
    formatJ distance rd opcode =
      formatR (distance.extractLsb' 19 1 ++ distance.extractLsb' 4 6)
        (distance.extractLsb' 0 4 ++ distance.extractLsb' 10 1) (distance.extractLsb' 14 5)
        (distance.extractLsb' 11 3) rd opcode := by
  unfold formatJ formatR
  grind

/-! ### Fields of the formats -/

@[simp] theorem formatI_fields (imm : BitVec 12) :
    (formatI imm rs1 code3 rd opcode).opcode = opcode ∧
      (formatI imm rs1 code3 rd opcode).rd = rd ∧
      (formatI imm rs1 code3 rd opcode).funct3 = code3 ∧
      (formatI imm rs1 code3 rd opcode).rs1 = rs1 ∧
      (formatI imm rs1 code3 rd opcode).immI = imm := by
  rw [formatI_eq_formatR, immI_eq]
  simp only [opcode_formatR, rd_formatR, funct3_formatR, rs1_formatR, rs2_formatR, funct7_formatR,
    true_and]
  grind

theorem funct12_formatI (imm : BitVec 12) :
    (formatI imm rs1 code3 rd opcode).funct12 = imm :=
  (formatI_fields opcode code3 rs1 rd imm).2.2.2.2

@[simp] theorem formatS_fields (imm : BitVec 12) :
    (formatS imm rs2 rs1 code3 opcode).opcode = opcode ∧
      (formatS imm rs2 rs1 code3 opcode).funct3 = code3 ∧
      (formatS imm rs2 rs1 code3 opcode).rs1 = rs1 ∧
      (formatS imm rs2 rs1 code3 opcode).rs2 = rs2 ∧
      (formatS imm rs2 rs1 code3 opcode).immS = imm := by
  rw [formatS_eq_formatR, immS_eq]
  simp only [opcode_formatR, rd_formatR, funct3_formatR, rs1_formatR, rs2_formatR, funct7_formatR,
    true_and]
  grind

@[simp] theorem formatB_fields (distance : BitVec 12) :
    (formatB distance rs2 rs1 code3 opcode).opcode = opcode ∧
      (formatB distance rs2 rs1 code3 opcode).funct3 = code3 ∧
      (formatB distance rs2 rs1 code3 opcode).rs1 = rs1 ∧
      (formatB distance rs2 rs1 code3 opcode).rs2 = rs2 ∧
      (formatB distance rs2 rs1 code3 opcode).immB = distance := by
  rw [formatB_eq_formatR, immB_eq]
  simp only [opcode_formatR, rd_formatR, funct3_formatR, rs1_formatR, rs2_formatR, funct7_formatR,
    true_and]
  grind

@[simp] theorem formatU_fields (imm : BitVec 20) :
    (formatU imm rd opcode).opcode = opcode ∧ (formatU imm rd opcode).rd = rd ∧
      (formatU imm rd opcode).immU = imm := by
  rw [formatU_eq_formatR, immU_eq]
  simp only [opcode_formatR, rd_formatR, funct3_formatR, rs1_formatR, rs2_formatR, funct7_formatR,
    true_and]
  grind

@[simp] theorem formatJ_fields (distance : BitVec 20) :
    (formatJ distance rd opcode).opcode = opcode ∧ (formatJ distance rd opcode).rd = rd ∧
      (formatJ distance rd opcode).immJ = distance := by
  rw [formatJ_eq_formatR, immJ_eq]
  simp only [opcode_formatR, rd_formatR, funct3_formatR, rs1_formatR, rs2_formatR, funct7_formatR,
    true_and]
  grind

end Slots

/-! ### Words from their fields

Each part of an immediate is the part of the slot it was taken from. -/

variable (w : Word)

theorem formatI_of_fields : formatI w.immI w.rs1 w.funct3 w.rd w.opcode = w := by
  have high : w.immI.extractLsb' 5 7 = w.funct7 := by rw [immI_eq]; grind
  have low : w.immI.extractLsb' 0 5 = w.rs2 := by rw [immI_eq]; grind
  rw [formatI_eq_formatR, high, low, formatR_of_fields]

theorem formatS_of_fields : formatS w.immS w.rs2 w.rs1 w.funct3 w.opcode = w := by
  have high : w.immS.extractLsb' 5 7 = w.funct7 := by rw [immS_eq]; grind
  have low : w.immS.extractLsb' 0 5 = w.rd := by rw [immS_eq]; grind
  rw [formatS_eq_formatR, high, low, formatR_of_fields]

theorem formatB_of_fields : formatB w.immB w.rs2 w.rs1 w.funct3 w.opcode = w := by
  have bit11 : w.immB.extractLsb' 11 1 = w.funct7.extractLsb' 6 1 := by rw [immB_eq]; grind
  have bits4 : w.immB.extractLsb' 4 6 = w.funct7.extractLsb' 0 6 := by rw [immB_eq]; grind
  have bits0 : w.immB.extractLsb' 0 4 = w.rd.extractLsb' 1 4 := by rw [immB_eq]; grind
  have bit10 : w.immB.extractLsb' 10 1 = w.rd.extractLsb' 0 1 := by rw [immB_eq]; grind
  rw [formatB_eq_formatR, bit11, bits4, bits0, bit10, BitVec.extractLsb'_append_extractLsb',
    BitVec.extractLsb'_append_extractLsb', formatR_of_fields]

theorem formatU_of_fields : formatU w.immU w.rd w.opcode = w := by
  have bits13 : w.immU.extractLsb' 13 7 = w.funct7 := by rw [immU_eq]; grind
  have bits8 : w.immU.extractLsb' 8 5 = w.rs2 := by rw [immU_eq]; grind
  have bits3 : w.immU.extractLsb' 3 5 = w.rs1 := by rw [immU_eq]; grind
  have bits0 : w.immU.extractLsb' 0 3 = w.funct3 := by rw [immU_eq]; grind
  rw [formatU_eq_formatR, bits13, bits8, bits3, bits0, formatR_of_fields]

theorem formatJ_of_fields : formatJ w.immJ w.rd w.opcode = w := by
  have bit19 : w.immJ.extractLsb' 19 1 = w.funct7.extractLsb' 6 1 := by rw [immJ_eq]; grind
  have bits4 : w.immJ.extractLsb' 4 6 = w.funct7.extractLsb' 0 6 := by rw [immJ_eq]; grind
  have bits0 : w.immJ.extractLsb' 0 4 = w.rs2.extractLsb' 1 4 := by rw [immJ_eq]; grind
  have bit10 : w.immJ.extractLsb' 10 1 = w.rs2.extractLsb' 0 1 := by rw [immJ_eq]; grind
  have bits14 : w.immJ.extractLsb' 14 5 = w.rs1 := by rw [immJ_eq]; grind
  have bits11 : w.immJ.extractLsb' 11 3 = w.funct3 := by rw [immJ_eq]; grind
  rw [formatJ_eq_formatR, bit19, bits4, bits0, bit10, bits14, bits11,
    BitVec.extractLsb'_append_extractLsb', BitVec.extractLsb'_append_extractLsb',
    formatR_of_fields]

end RiscvListing.Word
