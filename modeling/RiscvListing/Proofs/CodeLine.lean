import RiscvListing.CodeLine
import RiscvListing.Proofs.Instruction.Codec
import RiscvListing.Proofs.Instruction.Reading

/-!
# Lines of code and the words they show

A line of code shows the instruction of its word, so the word can be assembled from the text of the
line again, and the line of an assembled instruction shows that instruction.

## Main definitions

* `CodeLine.ofInstruction` — the line that shows an instruction.
* `Instruction.assemble?` — the word with a mnemonic and an operand text.

## Main results

* `CodeLine.decode_eq_ok_iff` — the lines of words that are instructions.
* `CodeLine.decodeAll_eq_none_iff` — when all words of a run of code have lines.
* `CodeLine.assemble?_text_and_decode_encode` — decoding and assembling undo each other.
-/

namespace RiscvListing

/-! ### Words and distances -/

theorem Word.ofInt_toNat (w : Word) : Word.ofInt w.toNat = w := by
  rw [Word.ofInt, BitVec.ofInt_natCast, BitVec.ofNat_toNat, BitVec.setWidth_eq]

/-- An encoded jump or branch leads as far as its instruction says. -/
theorem Instruction.jumpOffset?_encode (i : Instruction) :
    i.encode.jumpOffset? = i.jumpOffset? := by
  cases i with
  | upper op rd imm => cases op <;> simp [encode, Word.jumpOffset?, jumpOffset?, UpperOp.opcode,
      Opcode.lui, Opcode.auipc, Opcode.jal, Opcode.branch]
  | jal rd distance => simp [encode, Word.jumpOffset?, jumpOffset?, Word.jalOffset]
  | branch op rs1 rs2 distance =>
    simp [encode, Word.jumpOffset?, jumpOffset?, Word.branchOffset, Opcode.jal, Opcode.branch]
  | _ => simp [encode, Word.jumpOffset?, jumpOffset?, Opcode.jal, Opcode.jalr, Opcode.branch,
      Opcode.load, Opcode.store, Opcode.immediate, Opcode.register, Opcode.system]

theorem Word.jumpOffset?_canonical (w : Word) : w.canonical.jumpOffset? = w.jumpOffset? := by
  by_cases h : w.opcode = Opcode.jalr
  · -- A register jump leads to no fixed place, whatever its code is.
    have hcanonical : w.canonical.opcode = Opcode.jalr := by rw [opcode_canonical, h]
    have hjal : Opcode.jalr ≠ Opcode.jal := by decide
    have hbranch : Opcode.jalr ≠ Opcode.branch := by decide
    rw [jumpOffset?, hcanonical, if_neg hjal, if_neg hbranch, jumpOffset?, h, if_neg hjal,
      if_neg hbranch]
  · rw [canonical_of_ne h]

/-- A word leads as far as its instruction says. -/
theorem Instruction.jumpOffset?_of_decode? {w : Word} {i : Instruction} (h : decode? w = some i) :
    w.jumpOffset? = i.jumpOffset? := by
  rw [← w.jumpOffset?_canonical, ← decode?_eq_some_iff.mp h, jumpOffset?_encode]

/-- The operands of a jump or branch end in the label of the target. -/
theorem Instruction.operands_eq_append {i : Instruction} {offset : Int}
    (h : i.jumpOffset? = some offset) :
    ∃ front, ∀ target, i.operands target = front ++ ", " ++ target := by
  cases i with
  | jal rd distance => exact ⟨_, fun target => rfl⟩
  | branch op rs1 rs2 distance => exact ⟨_, fun target => rfl⟩
  | _ => cases h

namespace CodeLine

/-- The line that shows `instruction` for `word` at `address`. -/
def ofInstruction (jumps labels : AddressMap String) (address word : Int)
    (instruction : Instruction) : CodeLine where
  address := address
  word := word
  mnemonic := instruction.mnemonic
  operands := instruction.operands (targetLabel jumps address instruction)
  label := (labels.get? address).getD ""

theorem decode_eq_ok_iff {jumps labels : AddressMap String} {address word : Int}
    {line : CodeLine} :
    decode jumps labels address word = .ok line ↔
      ∃ i, Instruction.decode? (Word.ofInt word) = some i ∧
        line = ofInstruction jumps labels address word i := by
  unfold decode
  cases Instruction.decode? (Word.ofInt word) with
  | none => simp
  | some i => simp [ofInstruction, eq_comm]

/-- The address and the word that a line shows. -/
def item (line : CodeLine) : Int × Int := (line.address, line.word)

theorem item_of_decode {jumps labels : AddressMap String} {address word : Int} {line : CodeLine}
    (h : decode jumps labels address word = .ok line) : line.item = (address, word) := by
  obtain ⟨i, -, rfl⟩ := decode_eq_ok_iff.mp h
  rfl

/-- All words are decoded exactly if each line is the line of its word. -/
theorem decodeAll_eq_none_iff {jumps labels : AddressMap String} {items : List (Int × Int)}
    {lines : List CodeLine} :
    decodeAll jumps labels items = (lines, none) ↔
      lines.map item = items ∧
        ∀ line ∈ lines, decode jumps labels line.address line.word = .ok line := by
  induction items generalizing lines with
  | nil =>
    rw [decodeAll, List.map_eq_nil_iff]
    constructor
    · intro h
      cases h
      exact ⟨rfl, by simp⟩
    · rintro ⟨rfl, -⟩
      rfl
  | cons place rest ih =>
    rw [decodeAll]
    cases hplace : decode jumps labels place.1 place.2 with
    | error fault =>
      -- Decoding stops here, and the first of `lines` would have to be the line of this word.
      constructor
      · intro h
        cases h
      · rintro ⟨hitems, hlines⟩
        obtain ⟨line, tail, rfl, hline, -⟩ := List.map_eq_cons_iff.mp hitems
        have hdecode := hlines line List.mem_cons_self
        rw [← hline] at hplace
        rw [item, hdecode] at hplace
        cases hplace
    | ok line =>
      have hitem : line.item = place := item_of_decode hplace
      constructor
      · intro h
        obtain ⟨rfl, hfault⟩ := Prod.mk.inj h
        obtain ⟨htail, hdecoded⟩ := ih.mp (Prod.ext rfl hfault)
        refine ⟨by rw [List.map_cons, hitem, htail], ?_⟩
        rintro other (_ | ⟨_, hother⟩)
        · rw [← hplace, ← hitem]
          rfl
        · exact hdecoded other hother
      · rintro ⟨hitems, hlines⟩
        obtain ⟨other, tail, rfl, hother, htail⟩ := List.map_eq_cons_iff.mp hitems
        have hsame := hlines other List.mem_cons_self
        rw [← hother] at hplace
        rw [item, hsame] at hplace
        cases hplace
        rw [ih.mpr ⟨htail, fun line hline => hlines line (List.mem_cons_of_mem _ hline)⟩]

end CodeLine

/-! ### Assembling -/

/-- The word that is written as a mnemonic and an operand text. -/
def Instruction.assemble? (mnemonic operands : String) : Option Word :=
  (ofText? mnemonic operands).map encode

theorem Instruction.assemble?_operands (i : Instruction) (target : String) :
    assemble? i.mnemonic (i.operands target) = some i.encode := by
  rw [assemble?, ofText?_operands, Option.map_some]

/-- Assembling the text of a line gives the word of the line, but for bits that carry no meaning. -/
theorem CodeLine.assemble?_of_decode {jumps labels : AddressMap String} {address word : Int}
    {line : CodeLine} (h : decode jumps labels address word = .ok line) :
    Instruction.assemble? line.mnemonic line.operands = some (Word.ofInt word).canonical := by
  obtain ⟨i, hi, rfl⟩ := decode_eq_ok_iff.mp h
  rw [← Instruction.decode?_eq_some_iff.mp hi]
  exact Instruction.assemble?_operands i _

/-- Decoding and assembling undo each other. The text of the line of a word is assembled to the
word, whatever the maps of labels hold; three bits of a register jump are the only ones that a
line does not show. The word of an instruction is decoded to a line that shows the instruction, and
leads as far as the distance in the line says. -/
theorem CodeLine.assemble?_text_and_decode_encode :
    (∀ (jumps labels : AddressMap String) (address : Int) (w : Word) (line : CodeLine),
      (w.opcode = Opcode.jalr → w.funct3 = 0) →
        decode jumps labels address w.toNat = .ok line →
          Instruction.assemble? line.mnemonic line.operands = some w) ∧
    (∀ (jumps labels : AddressMap String) (address : Int) (i : Instruction),
      decode jumps labels address i.encode.toNat =
          .ok (ofInstruction jumps labels address i.encode.toNat i) ∧
        i.encode.jumpOffset? = i.jumpOffset?) := by
  constructor
  · intro jumps labels address w line hcode hline
    rw [assemble?_of_decode hline, Word.ofInt_toNat, (Word.canonical_eq_self_iff w).mpr hcode]
  · intro jumps labels address i
    refine ⟨decode_eq_ok_iff.mpr ⟨i, ?_, rfl⟩, i.jumpOffset?_encode⟩
    rw [Word.ofInt_toNat, Instruction.decode?_encode]

/-- The label of the target may hold commas and parentheses. -/
theorem CodeLine.assemble?_text_odd_label :
    decode ⟨[(4, "a, (b)")]⟩ .empty 4 (0x00208463#32 : Word).toNat =
        .ok { address := 4, word := 0x00208463, mnemonic := "beq",
              operands := "ra, sp, 4, a, (b)" } ∧
      Instruction.assemble? "beq" "ra, sp, 4, a, (b)" = some 0x00208463#32 :=
  ⟨rfl, assemble?_text_and_decode_encode.1 ⟨[(4, "a, (b)")]⟩ .empty 4 0x00208463#32
    { address := 4, word := 0x00208463, mnemonic := "beq", operands := "ra, sp, 4, a, (b)" }
    (by decide) rfl⟩

end RiscvListing
