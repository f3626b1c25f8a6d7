import RiscvListing.Instruction.Decode
import RiscvListing.Proofs.Instruction.Format
import RiscvListing.Proofs.Instruction.Table

/-!
# Encoding and decoding

Decoding undoes encoding, and encoding undoes decoding but for one thing: a register jump is
recognised by its opcode alone, so three of its bits are lost. A word is canonical when those bits
are zero or it is no register jump, and a word stands for an instruction exactly when its canonical
form is the encoding of that instruction.

## Main definitions

* `Word.canonical` — a word without the bits that decoding does not look at.

## Main results

* `Instruction.decode?_encode` — an encoded instruction is decoded to itself.
* `Instruction.decode?_eq_some_iff` — the words that stand for an instruction.
* `Word.canonical_eq_self_iff` — the words that are canonical.
* `Word.eq_or_of_canonical_eq` — two words with the same canonical form differ at most in three bits
  of two register jumps.
-/

namespace RiscvListing

/-! ### Decoding by opcode -/

namespace Instruction

section Opcode

variable {w : Word}

theorem decode?_of_upper (op : UpperOp) (h : w.opcode = op.opcode) :
    decode? w = some (upper op w.rd w.immU) := by
  cases op <;> (rw [decode?, h]; rfl)

theorem decode?_of_jal (h : w.opcode = Opcode.jal) : decode? w = some (jal w.rd w.immJ) := by
  rw [decode?, h]; rfl

theorem decode?_of_jalr (h : w.opcode = Opcode.jalr) :
    decode? w = some (jalr w.rd w.rs1 w.immI) := by
  rw [decode?, h]; rfl

theorem decode?_of_branch (h : w.opcode = Opcode.branch) :
    decode? w = (BranchOp.ofFunct3? w.funct3).map fun op => branch op w.rs1 w.rs2 w.immB := by
  rw [decode?, h]; rfl

theorem decode?_of_load (h : w.opcode = Opcode.load) :
    decode? w = (LoadOp.ofFunct3? w.funct3).map fun op => load op w.rd w.rs1 w.immI := by
  rw [decode?, h]; rfl

theorem decode?_of_store (h : w.opcode = Opcode.store) :
    decode? w = (StoreOp.ofFunct3? w.funct3).map fun op => store op w.rs2 w.rs1 w.immS := by
  rw [decode?, h]; rfl

theorem decode?_of_immediate (h : w.opcode = Opcode.immediate) :
    decode? w = decodeImmediate? w := by
  rw [decode?, h]; rfl

theorem decode?_of_register (h : w.opcode = Opcode.register) :
    decode? w = (RegisterOp.ofCodes? (w.funct3, w.funct7)).map fun op =>
      register op w.rd w.rs1 w.rs2 := by
  rw [decode?, h]; rfl

theorem decode?_of_system (h : w.opcode = Opcode.system) : decode? w = decodeSystem? w := by
  rw [decode?, h]; rfl

end Opcode

/-! ### Decoding after encoding -/

theorem decode?_encode (i : Instruction) : decode? i.encode = some i := by
  cases i with
  | upper op rd imm =>
    rw [decode?_of_upper op (by simp [encode])]
    simp [encode]
  | jal rd distance =>
    rw [decode?_of_jal (by simp [encode])]
    simp [encode]
  | jalr rd rs1 imm =>
    rw [decode?_of_jalr (by simp [encode])]
    simp [encode]
  | branch op rs1 rs2 distance =>
    rw [decode?_of_branch (by simp [encode])]
    simp [encode, BranchOp.ofFunct3?_eq_some_iff]
  | load op rd rs1 imm =>
    rw [decode?_of_load (by simp [encode])]
    simp [encode, LoadOp.ofFunct3?_eq_some_iff]
  | store op rs2 rs1 imm =>
    rw [decode?_of_store (by simp [encode])]
    simp [encode, StoreOp.ofFunct3?_eq_some_iff]
  | immediate op rd rs1 imm =>
    have hop : ImmediateOp.ofFunct3? op.funct3 = some op :=
      ImmediateOp.ofFunct3?_eq_some_iff.mpr rfl
    rw [decode?_of_immediate (by simp [encode])]
    simp [encode, decodeImmediate?, hop]
  | shift op rd rs1 amount =>
    -- No operation with a signed immediate has the code of a shift.
    have hnone : ImmediateOp.ofFunct3? op.codes.1 = none := by cases op <;> rfl
    rw [decode?_of_immediate (by simp [encode])]
    simp [encode, decodeImmediate?, hnone, ShiftOp.ofCodes?_eq_some_iff]
  | register op rd rs1 rs2 =>
    rw [decode?_of_register (by simp [encode])]
    simp [encode, RegisterOp.ofCodes?_eq_some_iff]
  | environment op =>
    rw [decode?_of_system (by simp [encode])]
    simp [encode, decodeSystem?, Word.funct12_formatI, EnvironmentOp.ofFunct12?_eq_some_iff]
  | csr op rd number rs1 =>
    have hop : CsrOp.ofFunct3? op.funct3 = some op := CsrOp.ofFunct3?_eq_some_iff.mpr rfl
    have hne : op.funct3 ≠ 0#3 := by cases op <;> decide
    rw [decode?_of_system (by simp [encode])]
    simp [encode, decodeSystem?, Word.funct12_formatI, hop, hne]
  | csrImmediate op rd number value =>
    -- No operation on registers has the code of an operation with an immediate.
    have hnone : CsrOp.ofFunct3? op.immediateFunct3 = none := by cases op <;> rfl
    have hne : op.immediateFunct3 ≠ 0#3 := by cases op <;> decide
    rw [decode?_of_system (by simp [encode])]
    simp [encode, decodeSystem?, Word.funct12_formatI, hnone, hne,
      CsrOp.ofImmediateFunct3?_eq_some_iff]

end Instruction

/-! ### Canonical words -/

namespace Word

/-- A word without the three bits of a register jump that carry no meaning. -/
def canonical (w : Word) : Word :=
  if w.opcode = Opcode.jalr then formatI w.immI w.rs1 0 w.rd Opcode.jalr else w

theorem canonical_of_jalr {w : Word} (h : w.opcode = Opcode.jalr) :
    w.canonical = formatI w.immI w.rs1 0 w.rd Opcode.jalr := if_pos h

theorem canonical_of_ne {w : Word} (h : w.opcode ≠ Opcode.jalr) : w.canonical = w := if_neg h

@[simp] theorem opcode_canonical (w : Word) : w.canonical.opcode = w.opcode := by
  by_cases h : w.opcode = Opcode.jalr
  · simp [canonical_of_jalr h, h]
  · rw [canonical_of_ne h]

/-- A word is canonical unless it is a register jump with a code. -/
theorem canonical_eq_self_iff (w : Word) :
    w.canonical = w ↔ (w.opcode = Opcode.jalr → w.funct3 = 0) := by
  constructor
  · intro h hop
    rw [← h, canonical_of_jalr hop]
    simp
  · intro h
    by_cases hop : w.opcode = Opcode.jalr
    · rw [canonical_of_jalr hop, ← h hop, ← hop, formatI_of_fields]
    · exact canonical_of_ne hop

theorem getLsbD_eq_of_slice {v w : Word} {start count k : Nat}
    (h : v.extractLsb' start count = w.extractLsb' start count) (hge : start ≤ k)
    (hlt : k < start + count) : v.getLsbD k = w.getLsbD k := by
  have hbit := congrArg (BitVec.getLsbD · (k - start)) h
  simp only [BitVec.getLsbD_extractLsb', Nat.add_sub_of_le hge] at hbit
  have hin : k - start < count := by omega
  simpa only [hin, decide_true, Bool.true_and] using hbit

/-- Words with the same canonical form differ at most in bits 14 to 12 of two register jumps. -/
theorem eq_or_of_canonical_eq {v w : Word} (h : v.canonical = w.canonical) :
    v = w ∨ (v.opcode = Opcode.jalr ∧ w.opcode = Opcode.jalr ∧
      ∀ k, k < 12 ∨ 14 < k → v.getLsbD k = w.getLsbD k) := by
  have hopcode : v.opcode = w.opcode := by rw [← opcode_canonical, h, opcode_canonical]
  by_cases hv : v.opcode = Opcode.jalr
  · have hw : w.opcode = Opcode.jalr := hopcode ▸ hv
    rw [canonical_of_jalr hv, canonical_of_jalr hw] at h
    have himm := congrArg immI h
    have hrs1 := congrArg rs1 h
    have hrd := congrArg rd h
    simp only [formatI_fields] at himm hrs1 hrd
    refine .inr ⟨hv, hw, fun k hk => ?_⟩
    -- Every bit but the three lies in a slot that the canonical form keeps.
    have hslots : k < 0 + 7 ∨ 7 ≤ k ∧ k < 7 + 5 ∨ 15 ≤ k ∧ k < 15 + 5 ∨ 20 ≤ k ∧ k < 20 + 12 ∨
        32 ≤ k := by omega
    obtain hlt | ⟨hge, hlt⟩ | ⟨hge, hlt⟩ | ⟨hge, hlt⟩ | hge := hslots
    · exact getLsbD_eq_of_slice hopcode (Nat.zero_le k) hlt
    · exact getLsbD_eq_of_slice hrd hge hlt
    · exact getLsbD_eq_of_slice hrs1 hge hlt
    · exact getLsbD_eq_of_slice himm hge hlt
    · rw [BitVec.getLsbD_of_ge v k hge, BitVec.getLsbD_of_ge w k hge]
  · rw [canonical_of_ne hv, canonical_of_ne (hopcode ▸ hv)] at h
    exact .inl h

end Word

namespace Instruction

/-- Decoding does not look at the bits that a canonical word lacks. -/
theorem decode?_canonical (w : Word) : decode? w.canonical = decode? w := by
  by_cases h : w.opcode = Opcode.jalr
  · rw [decode?_of_jalr h, decode?_of_jalr ((Word.opcode_canonical w).trans h)]
    simp [Word.canonical_of_jalr h]
  · rw [Word.canonical_of_ne h]

theorem encode_of_decodeSystem? {w : Word} {i : Instruction} (hop : w.opcode = Opcode.system)
    (h : decodeSystem? w = some i) : i.encode = w := by
  have hword := Word.formatI_of_fields w
  unfold decodeSystem? at h
  split at h
  · rename_i hcode
    split at h
    · rename_i hregs
      obtain ⟨op, hfind, rfl⟩ := Option.map_eq_some_iff.mp h
      have hfunct := EnvironmentOp.ofFunct12?_eq_some_iff.mp hfind
      rw [hcode, hregs.1, hregs.2, hop] at hword
      rw [encode, hfunct]
      exact hword
    · cases h
  · split at h
    · rename_i op hfind
      obtain rfl := Option.some_inj.mp h
      rw [encode, CsrOp.ofFunct3?_eq_some_iff.mp hfind, ← hop]
      exact hword
    · obtain ⟨op, hfind, rfl⟩ := Option.map_eq_some_iff.mp h
      rw [encode, CsrOp.ofImmediateFunct3?_eq_some_iff.mp hfind, ← hop]
      exact hword

theorem encode_of_decodeImmediate? {w : Word} {i : Instruction}
    (hop : w.opcode = Opcode.immediate) (h : decodeImmediate? w = some i) : i.encode = w := by
  unfold decodeImmediate? at h
  split at h
  · rename_i op hfind
    obtain rfl := Option.some_inj.mp h
    rw [encode, ImmediateOp.ofFunct3?_eq_some_iff.mp hfind, ← hop, Word.formatI_of_fields]
  · obtain ⟨op, hfind, rfl⟩ := Option.map_eq_some_iff.mp h
    rw [encode, ShiftOp.ofCodes?_eq_some_iff.mp hfind, ← hop, Word.formatR_of_fields]

theorem encode_eq_canonical {w : Word} {i : Instruction} (h : decode? w = some i) :
    i.encode = w.canonical := by
  by_cases hjalr : w.opcode = Opcode.jalr
  · rw [decode?_of_jalr hjalr] at h
    obtain rfl := Option.some_inj.mp h
    rw [encode, Word.canonical_of_jalr hjalr]
  -- Every other word is canonical, and is the join of its own fields.
  rw [Word.canonical_of_ne hjalr]
  by_cases hlui : w.opcode = Opcode.lui
  · rw [decode?_of_upper .lui hlui] at h
    obtain rfl := Option.some_inj.mp h
    rw [encode, UpperOp.opcode, ← hlui, Word.formatU_of_fields]
  by_cases hauipc : w.opcode = Opcode.auipc
  · rw [decode?_of_upper .auipc hauipc] at h
    obtain rfl := Option.some_inj.mp h
    rw [encode, UpperOp.opcode, ← hauipc, Word.formatU_of_fields]
  by_cases hjal : w.opcode = Opcode.jal
  · rw [decode?_of_jal hjal] at h
    obtain rfl := Option.some_inj.mp h
    rw [encode, ← hjal, Word.formatJ_of_fields]
  by_cases hbranch : w.opcode = Opcode.branch
  · rw [decode?_of_branch hbranch] at h
    obtain ⟨op, hfind, rfl⟩ := Option.map_eq_some_iff.mp h
    rw [encode, BranchOp.ofFunct3?_eq_some_iff.mp hfind, ← hbranch, Word.formatB_of_fields]
  by_cases hload : w.opcode = Opcode.load
  · rw [decode?_of_load hload] at h
    obtain ⟨op, hfind, rfl⟩ := Option.map_eq_some_iff.mp h
    rw [encode, LoadOp.ofFunct3?_eq_some_iff.mp hfind, ← hload, Word.formatI_of_fields]
  by_cases hstore : w.opcode = Opcode.store
  · rw [decode?_of_store hstore] at h
    obtain ⟨op, hfind, rfl⟩ := Option.map_eq_some_iff.mp h
    rw [encode, StoreOp.ofFunct3?_eq_some_iff.mp hfind, ← hstore, Word.formatS_of_fields]
  by_cases himm : w.opcode = Opcode.immediate
  · rw [decode?_of_immediate himm] at h
    exact encode_of_decodeImmediate? himm h
  by_cases hreg : w.opcode = Opcode.register
  · rw [decode?_of_register hreg] at h
    obtain ⟨op, hfind, rfl⟩ := Option.map_eq_some_iff.mp h
    rw [encode, RegisterOp.ofCodes?_eq_some_iff.mp hfind, ← hreg, Word.formatR_of_fields]
  by_cases hsys : w.opcode = Opcode.system
  · rw [decode?_of_system hsys] at h
    exact encode_of_decodeSystem? hsys h
  rw [decode?, if_neg hlui, if_neg hauipc, if_neg hjal, if_neg hjalr, if_neg hbranch, if_neg hload,
    if_neg hstore, if_neg himm, if_neg hreg, if_neg hsys] at h
  cases h

/-- A word stands for an instruction exactly when its canonical form is the instruction's word. -/
theorem decode?_eq_some_iff {w : Word} {i : Instruction} :
    decode? w = some i ↔ i.encode = w.canonical := by
  constructor
  · exact encode_eq_canonical
  · intro h
    rw [← decode?_canonical, ← h, decode?_encode]

end Instruction

end RiscvListing
