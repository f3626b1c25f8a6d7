import RiscvListing.Proofs.CodeLine

/-!
# The words that are accepted

The supported instructions are listed by their fixed fields: an opcode and, where it does not
decide alone, codes and registers that have to have given values. A word is the encoding of a
supported instruction exactly when it has the fixed fields of one that is listed. Decoding accepts
these words and, beyond them, the register jumps whose code is reserved.

## Main definitions

* `Form` and `Form.Matches` — the fixed fields of an instruction.
* `Instruction.documented` — the supported instructions by name and fixed fields.
* `Word.IsReservedJump` — a register jump with a reserved code.

## Main results

* `Instruction.exists_encode_iff` — the words that are encodings.
* `CodeLine.exists_form_of_decode` — the names that words are shown with.
* `CodeLine.decode_accepts_iff` — the words that are accepted.
-/

namespace RiscvListing

/-! ### Fixed fields -/

/-- A name and the fields that the encodings of the instructions with this name share. -/
structure Form where
  /-- The name. -/
  name : String
  /-- The opcode. -/
  opcode : BitVec 7
  /-- The first code, where it is fixed. -/
  funct3 : Option (BitVec 3) := none
  /-- The second code, where it is fixed. -/
  funct7 : Option (BitVec 7) := none
  /-- The kind of environment call, with both registers zero. -/
  call : Option (BitVec 12) := none
  deriving Repr, DecidableEq

/-- A word has the fixed fields of a form. -/
structure Form.Matches (form : Form) (w : Word) : Prop where
  opcode_eq : w.opcode = form.opcode
  funct3_eq : ∀ code ∈ form.funct3, w.funct3 = code
  funct7_eq : ∀ code ∈ form.funct7, w.funct7 = code
  call_eq : ∀ code ∈ form.call, w.funct12 = code ∧ w.rs1 = 0 ∧ w.rd = 0

/-- Forms with one opcode that differ in their first code. -/
def Form.byFunct3 (opcode : BitVec 7) (rows : List (String × BitVec 3)) : List Form :=
  rows.map fun (name, code) => { name, opcode, funct3 := some code }

/-- Forms with one opcode that differ in their two codes. -/
def Form.byCodes (opcode : BitVec 7) (rows : List (String × BitVec 3 × BitVec 7)) : List Form :=
  rows.map fun (name, code, second) =>
    { name, opcode, funct3 := some code, funct7 := some second }

namespace Instruction

/-- The supported instructions. -/
def documented : List Form :=
  [{ name := "lui", opcode := 0b0110111#7 }, { name := "auipc", opcode := 0b0010111#7 },
   { name := "jal", opcode := 0b1101111#7 }] ++
  Form.byFunct3 0b1100111#7 [("jalr", 0b000#3)] ++
  Form.byFunct3 0b1100011#7
    [("beq", 0b000#3), ("bne", 0b001#3), ("blt", 0b100#3), ("bge", 0b101#3), ("bltu", 0b110#3),
     ("bgeu", 0b111#3)] ++
  Form.byFunct3 0b0000011#7
    [("lb", 0b000#3), ("lh", 0b001#3), ("lw", 0b010#3), ("lbu", 0b100#3), ("lhu", 0b101#3)] ++
  Form.byFunct3 0b0100011#7 [("sb", 0b000#3), ("sh", 0b001#3), ("sw", 0b010#3)] ++
  Form.byFunct3 0b0010011#7
    [("addi", 0b000#3), ("slti", 0b010#3), ("sltiu", 0b011#3), ("xori", 0b100#3),
     ("ori", 0b110#3), ("andi", 0b111#3)] ++
  Form.byCodes 0b0010011#7
    [("slli", 0b001#3, 0b0000000#7), ("srli", 0b101#3, 0b0000000#7),
     ("srai", 0b101#3, 0b0100000#7)] ++
  Form.byCodes 0b0110011#7
    [("add", 0b000#3, 0b0000000#7), ("sub", 0b000#3, 0b0100000#7), ("mul", 0b000#3, 0b0000001#7),
     ("sll", 0b001#3, 0b0000000#7), ("mulh", 0b001#3, 0b0000001#7), ("slt", 0b010#3, 0b0000000#7),
     ("mulhsu", 0b010#3, 0b0000001#7), ("sltu", 0b011#3, 0b0000000#7),
     ("mulhu", 0b011#3, 0b0000001#7), ("xor", 0b100#3, 0b0000000#7), ("div", 0b100#3, 0b0000001#7),
     ("srl", 0b101#3, 0b0000000#7), ("sra", 0b101#3, 0b0100000#7), ("divu", 0b101#3, 0b0000001#7),
     ("or", 0b110#3, 0b0000000#7), ("rem", 0b110#3, 0b0000001#7), ("and", 0b111#3, 0b0000000#7),
     ("remu", 0b111#3, 0b0000001#7)] ++
  [{ name := "ecall", opcode := 0b1110011#7, funct3 := some 0b000#3, call := some 0#12 },
   { name := "ebreak", opcode := 0b1110011#7, funct3 := some 0b000#3, call := some 1#12 }] ++
  Form.byFunct3 0b1110011#7
    [("csrrw", 0b001#3), ("csrrs", 0b010#3), ("csrrc", 0b011#3), ("csrrwi", 0b101#3),
     ("csrrsi", 0b110#3), ("csrrci", 0b111#3)]

/-- The form of an instruction. -/
def form : Instruction → Form
  | upper op .. => { name := op.name, opcode := op.opcode }
  | jal .. => { name := "jal", opcode := Opcode.jal }
  | jalr .. => { name := "jalr", opcode := Opcode.jalr, funct3 := some 0 }
  | branch op .. => { name := op.name, opcode := Opcode.branch, funct3 := some op.funct3 }
  | load op .. => { name := op.name, opcode := Opcode.load, funct3 := some op.funct3 }
  | store op .. => { name := op.name, opcode := Opcode.store, funct3 := some op.funct3 }
  | immediate op .. => { name := op.name, opcode := Opcode.immediate, funct3 := some op.funct3 }
  | shift op .. => {
      name := op.name, opcode := Opcode.immediate
      funct3 := some op.codes.1, funct7 := some op.codes.2 }
  | register op .. => {
      name := op.name, opcode := Opcode.register
      funct3 := some op.codes.1, funct7 := some op.codes.2 }
  | environment op => {
      name := op.name, opcode := Opcode.system, funct3 := some 0, call := some op.funct12 }
  | csr op .. => { name := op.name, opcode := Opcode.system, funct3 := some op.funct3 }
  | csrImmediate op .. => {
      name := op.immediateName, opcode := Opcode.system, funct3 := some op.immediateFunct3 }

@[simp] theorem name_form (i : Instruction) : i.form.name = i.mnemonic := by
  cases i <;> rfl

/-- An instruction of each form. -/
def representatives : List Instruction :=
  UpperOp.all.map (upper · 0 0) ++ [jal 0 0, jalr 0 0 0] ++ BranchOp.all.map (branch · 0 0 0) ++
    LoadOp.all.map (load · 0 0 0) ++ StoreOp.all.map (store · 0 0 0) ++
    ImmediateOp.all.map (immediate · 0 0 0) ++ ShiftOp.all.map (shift · 0 0 0) ++
    RegisterOp.all.map (register · 0 0 0) ++ EnvironmentOp.all.map environment ++
    CsrOp.all.map (csr · 0 0 0) ++ CsrOp.all.map (csrImmediate · 0 0 0)

theorem documented_eq_map : documented = representatives.map form := by decide +kernel

theorem form_mem_documented (i : Instruction) : i.form ∈ documented := by
  cases i with
  | jal => simp only [form]; decide
  | jalr => simp only [form]; decide
  | _ op => cases op <;> (simp only [form]; decide)

/-- The encoding of an instruction has the fixed fields of its form. -/
theorem form_matches_encode (i : Instruction) : i.form.Matches i.encode := by
  cases i <;> constructor <;> simp [form, encode, Word.funct12_formatI]

/-- A word with the fixed fields of an instruction is an encoding with the same form: its other
fields are the operands. -/
theorem exists_encode_of_matches {w : Word} (i : Instruction) (h : i.form.Matches w) :
    ∃ j : Instruction, j.form = i.form ∧ j.encode = w := by
  cases i with
  | upper op =>
    have hop : w.opcode = op.opcode := h.opcode_eq
    exact ⟨upper op w.rd w.immU, rfl, by rw [encode, ← hop, Word.formatU_of_fields]⟩
  | jal =>
    have hop : w.opcode = Opcode.jal := h.opcode_eq
    exact ⟨jal w.rd w.immJ, rfl, by rw [encode, ← hop, Word.formatJ_of_fields]⟩
  | jalr =>
    have hop : w.opcode = Opcode.jalr := h.opcode_eq
    have hcode : w.funct3 = 0 := h.funct3_eq _ rfl
    exact ⟨jalr w.rd w.rs1 w.immI, rfl, by rw [encode, ← hop, ← hcode, Word.formatI_of_fields]⟩
  | branch op =>
    have hop : w.opcode = Opcode.branch := h.opcode_eq
    have hcode : w.funct3 = op.funct3 := h.funct3_eq _ rfl
    exact ⟨branch op w.rs1 w.rs2 w.immB, rfl,
      by rw [encode, ← hop, ← hcode, Word.formatB_of_fields]⟩
  | load op =>
    have hop : w.opcode = Opcode.load := h.opcode_eq
    have hcode : w.funct3 = op.funct3 := h.funct3_eq _ rfl
    exact ⟨load op w.rd w.rs1 w.immI, rfl,
      by rw [encode, ← hop, ← hcode, Word.formatI_of_fields]⟩
  | store op =>
    have hop : w.opcode = Opcode.store := h.opcode_eq
    have hcode : w.funct3 = op.funct3 := h.funct3_eq _ rfl
    exact ⟨store op w.rs2 w.rs1 w.immS, rfl,
      by rw [encode, ← hop, ← hcode, Word.formatS_of_fields]⟩
  | immediate op =>
    have hop : w.opcode = Opcode.immediate := h.opcode_eq
    have hcode : w.funct3 = op.funct3 := h.funct3_eq _ rfl
    exact ⟨immediate op w.rd w.rs1 w.immI, rfl,
      by rw [encode, ← hop, ← hcode, Word.formatI_of_fields]⟩
  | shift op =>
    have hop : w.opcode = Opcode.immediate := h.opcode_eq
    have hcode : w.funct3 = op.codes.1 := h.funct3_eq _ rfl
    have hsecond : w.funct7 = op.codes.2 := h.funct7_eq _ rfl
    exact ⟨shift op w.rd w.rs1 w.rs2, rfl,
      by rw [encode, ← hop, ← hcode, ← hsecond, Word.formatR_of_fields]⟩
  | register op =>
    have hop : w.opcode = Opcode.register := h.opcode_eq
    have hcode : w.funct3 = op.codes.1 := h.funct3_eq _ rfl
    have hsecond : w.funct7 = op.codes.2 := h.funct7_eq _ rfl
    exact ⟨register op w.rd w.rs1 w.rs2, rfl,
      by rw [encode, ← hop, ← hcode, ← hsecond, Word.formatR_of_fields]⟩
  | environment op =>
    -- There are no operands: the fixed fields are the whole word.
    have hop : w.opcode = Opcode.system := h.opcode_eq
    have hcode : w.funct3 = 0 := h.funct3_eq _ rfl
    obtain ⟨hcall, hrs1, hrd⟩ : w.immI = op.funct12 ∧ w.rs1 = 0 ∧ w.rd = 0 := h.call_eq _ rfl
    have hword := Word.formatI_of_fields w
    rw [hop, hcode, hcall, hrs1, hrd] at hword
    exact ⟨environment op, rfl, hword⟩
  | csr op =>
    have hop : w.opcode = Opcode.system := h.opcode_eq
    have hcode : w.funct3 = op.funct3 := h.funct3_eq _ rfl
    exact ⟨csr op w.rd w.immI w.rs1, rfl,
      by rw [encode, ← hop, ← hcode, Word.formatI_of_fields]⟩
  | csrImmediate op =>
    have hop : w.opcode = Opcode.system := h.opcode_eq
    have hcode : w.funct3 = op.immediateFunct3 := h.funct3_eq _ rfl
    exact ⟨csrImmediate op w.rd w.immI w.rs1, rfl,
      by rw [encode, ← hop, ← hcode, Word.formatI_of_fields]⟩

/-- The words that are encodings of a supported instruction with a given name. -/
theorem exists_encode_iff {w : Word} {name : String} :
    (∃ i : Instruction, i.mnemonic = name ∧ i.encode = w) ↔
      ∃ form ∈ documented, form.name = name ∧ form.Matches w := by
  constructor
  · rintro ⟨i, rfl, rfl⟩
    exact ⟨i.form, i.form_mem_documented, i.name_form, i.form_matches_encode⟩
  · rintro ⟨form, hmem, rfl, hmatches⟩
    rw [documented_eq_map] at hmem
    obtain ⟨i, -, rfl⟩ := List.mem_map.mp hmem
    obtain ⟨j, hform, hj⟩ := i.exists_encode_of_matches hmatches
    exact ⟨j, by rw [← j.name_form, hform], hj⟩

end Instruction

/-! ### Accepted words -/

/-- A register jump whose code is not the one of the encoding. -/
def Word.IsReservedJump (w : Word) : Prop := w.opcode = Opcode.jalr ∧ w.funct3 ≠ 0

/-- No supported instruction is encoded as a reserved register jump. -/
theorem Instruction.encode_ne_of_isReservedJump {w : Word} (h : w.IsReservedJump)
    (i : Instruction) : i.encode ≠ w := by
  intro hi
  have hcanonical : w.canonical = w := by
    rw [← hi]
    exact (encode_eq_canonical i.decode?_encode).symm
  exact h.2 ((Word.canonical_eq_self_iff w).mp hcanonical h.1)

/-- The instruction that a word stands for is encoded as this word, unless the word is a reserved
register jump. -/
theorem Instruction.encode_eq_or_of_decode? {w : Word} {i : Instruction} (h : decode? w = some i) :
    i.encode = w ∨ w.IsReservedJump := by
  rw [decode?_eq_some_iff] at h
  by_cases hword : w.opcode = Opcode.jalr → w.funct3 = 0
  · exact .inl (h.trans ((Word.canonical_eq_self_iff w).mpr hword))
  · exact .inr (Classical.not_imp.mp hword)

/-- A word stands for an instruction if it is an encoding or a reserved register jump. -/
theorem Instruction.exists_decode?_iff {w : Word} :
    (∃ i, decode? w = some i) ↔ (∃ i : Instruction, i.encode = w) ∨ w.IsReservedJump := by
  constructor
  · rintro ⟨i, hi⟩
    exact (encode_eq_or_of_decode? hi).imp_left fun hencode => ⟨i, hencode⟩
  · rintro (⟨i, rfl⟩ | ⟨hop, -⟩)
    · exact ⟨i, i.decode?_encode⟩
    · exact ⟨_, decode?_of_jalr hop⟩

/-- The name that a word is shown with is that of a listed instruction whose fixed fields it has,
unless the word is a reserved register jump. -/
theorem CodeLine.exists_form_of_decode {jumps labels : AddressMap String} {address : Int} {w : Word}
    {line : CodeLine} (h : decode jumps labels address w.toNat = .ok line) :
    w.IsReservedJump ∨
      ∃ form ∈ Instruction.documented, form.name = line.mnemonic ∧ form.Matches w := by
  obtain ⟨i, hi, rfl⟩ := decode_eq_ok_iff.mp h
  rw [Word.ofInt_toNat] at hi
  rcases Instruction.encode_eq_or_of_decode? hi with hencode | hreserved
  · exact .inr (Instruction.exists_encode_iff.mp ⟨i, rfl, hencode⟩)
  · exact .inl hreserved

/-- A word is accepted exactly if it is the encoding of an instruction or a reserved register jump,
which is no encoding; the encodings are the words with the fixed fields of a listed instruction.
Every other word is refused as an unexpected instruction, with its address. The encodings of the
instructions with a name have the fixed fields that are listed for this name, and an encoding is
shown with the name that its fixed fields are listed for. -/
theorem CodeLine.decode_accepts_iff (jumps labels : AddressMap String) (address : Int) (w : Word) :
    ((∃ line, decode jumps labels address w.toNat = .ok line) ↔
      (∃ i : Instruction, i.encode = w) ∨ w.IsReservedJump) ∧
    ¬((∃ i : Instruction, i.encode = w) ∧ w.IsReservedJump) ∧
    ((∃ i : Instruction, i.encode = w) ↔ ∃ form ∈ Instruction.documented, form.Matches w) ∧
    ((¬∃ line, decode jumps labels address w.toNat = .ok line) →
      decode jumps labels address w.toNat =
        .error (.unexpectedInstruction w.toNat (some address))) ∧
    (∀ name, (∃ i : Instruction, i.mnemonic = name ∧ i.encode = w) ↔
      ∃ form ∈ Instruction.documented, form.name = name ∧ form.Matches w) ∧
    ∀ line, decode jumps labels address w.toNat = .ok line →
      w.IsReservedJump ∨
        ∃ form ∈ Instruction.documented, form.name = line.mnemonic ∧ form.Matches w := by
  refine ⟨?_, ?_, ?_, ?_, fun name => Instruction.exists_encode_iff,
    fun line => exists_form_of_decode⟩
  · rw [← Instruction.exists_decode?_iff]
    simp only [decode_eq_ok_iff, Word.ofInt_toNat]
    constructor
    · rintro ⟨line, i, hi, -⟩
      exact ⟨i, hi⟩
    · rintro ⟨i, hi⟩
      exact ⟨_, i, hi, rfl⟩
  · rintro ⟨⟨i, hi⟩, hreserved⟩
    exact Instruction.encode_ne_of_isReservedJump hreserved i hi
  · constructor
    · rintro ⟨i, hi⟩
      obtain ⟨form, hmem, -, hmatches⟩ := Instruction.exists_encode_iff.mp ⟨i, rfl, hi⟩
      exact ⟨form, hmem, hmatches⟩
    · rintro ⟨form, hmem, hmatches⟩
      obtain ⟨i, -, hi⟩ := Instruction.exists_encode_iff.mpr ⟨form, hmem, rfl, hmatches⟩
      exact ⟨i, hi⟩
  · intro hrefused
    cases hdecode : decode jumps labels address w.toNat with
    | ok line => exact absurd ⟨line, hdecode⟩ hrefused
    | error fault => rw [((decode_eq_error_iff _ _ _ _ _).mp hdecode).2]

/-- A register jump with the reserved code 1 is accepted, and is shown like the one with code 0. -/
theorem CodeLine.decode_accepts_reserved_jump :
    decode .empty .empty 0x10000 (0x1067#32 : Word).toNat =
        .ok { address := 0x10000, word := 0x1067, mnemonic := "jalr",
              operands := "zero, zero, 0" } ∧
      ∀ i : Instruction, i.encode ≠ 0x1067#32 :=
  ⟨rfl, fun i => i.encode_ne_of_isReservedJump ⟨rfl, by decide⟩⟩

end RiscvListing
