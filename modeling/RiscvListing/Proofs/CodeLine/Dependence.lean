import RiscvListing.Number.Bits
import RiscvListing.Proofs.CodeLine
import RiscvListing.Proofs.Number.Numeral

/-!
# What a line of code depends on

A word may be given as any integer, and only its low 32 bits count. All fields of the word lie among
them, and a field for a register has five bits, so that it always names one. The maps of labels have
no say in which words are accepted. They fill in the label of the line and, for a jump, what stands
behind its last comma; where nothing is noted for the address of the jump, that is the address it
leads to.

## Main definitions

* `Number.gather?` — fields of an integer as one number.
* `Word.IsReadFrom` — the fields of a word are read from an integer.
* `CodeLine.targetText` — what a line shows for the target of a jump.

## Main results

* `Word.ofInt_eq_ofInt_iff` — the integers that give the same word.
* `Word.bits?_eq`, `Word.ofIndex_bits?` — fields of an integer are fields of its word, and name
  registers.
* `Word.isReadFrom_ofInt` — all fields and immediates of the word of an integer.
* `Instruction.operands_eq_of_jumpOffset?_eq_none` — only jumps show a target.
* `CodeLine.decode_depends_on_low_bits` — two lines of one word with different maps.
-/

namespace RiscvListing

/-! ### Signed numbers and joined fields -/

namespace Number

/-- Fields of an integer, given by their last and first places, as one number, each of them moved up
to a place of its own. -/
def gather? (n : Int) : List (Int × Int × Nat) → Option Int
  | [] => some 0
  | (hi, lo, place) :: rest => do
    let field ← bits? n hi lo
    let others ← gather? n rest
    return field * 2 ^ place + others

theorem signed?_toNat {width : Nat} (hwidth : 0 < width) (x : BitVec width) :
    signed? x.toNat width = some x.toInt := by
  rw [signed?, if_neg (by omega), Int.toNat_natCast, BitVec.toInt_eq_toNat_bmod]
  rfl

/-- Twice a signed number has one bit more. -/
theorem signed?_two_mul_toNat {width : Nat} (hwidth : 0 < width) (x : BitVec width) :
    signed? (2 * x.toNat) (width + 1) = some (2 * x.toInt) := by
  -- A zero bit behind the field doubles it, with its sign and without.
  have hnat : (x ++ 0#1).toNat = 2 * x.toNat := by
    simp [BitVec.toNat_append, Nat.shiftLeft_eq, Nat.mul_comm]
  have hint : (x ++ 0#1).toInt = 2 * x.toInt := by
    simp [BitVec.toInt_append, Int.mul_comm, hwidth.ne']
  have hsigned := signed?_toNat (Nat.succ_pos width) (x ++ 0#1)
  rw [hnat, hint] at hsigned
  exact hsigned

theorem toNat_append {m n : Nat} (x : BitVec m) (y : BitVec n) :
    ((x ++ y).toNat : Int) = x.toNat * 2 ^ n + y.toNat := by
  rw [BitVec.toNat_append, ← Nat.shiftLeft_add_eq_or_of_lt y.isLt, Nat.shiftLeft_eq]
  push_cast
  rfl

end Number

/-! ### Words of integers -/

namespace Word

theorem toNat_ofInt (n : Int) : ((ofInt n).toNat : Int) = n % 2 ^ 32 := by
  rw [ofInt, BitVec.toNat_ofInt]
  omega

/-- Integers give the same word exactly if they agree in their low 32 bits. -/
theorem ofInt_eq_ofInt_iff {n n' : Int} : ofInt n = ofInt n' ↔ n % 2 ^ 32 = n' % 2 ^ 32 := by
  rw [← toNat_ofInt, ← toNat_ofInt, Int.natCast_inj]
  exact ⟨congrArg BitVec.toNat, BitVec.eq_of_toNat_eq⟩

/-- A field among the low 32 bits of an integer is a field of its word. -/
theorem bits?_eq (n : Int) {hi lo width : Nat} (hhi : hi + 1 = lo + width) (h : hi < 32) :
    Number.bits? n hi lo = some (((ofInt n).extractLsb' lo width).toNat : Int) := by
  have hwidth : ((hi : Int) - lo + 1).toNat = width := by omega
  rw [Number.bits?, if_neg (by omega), hwidth, Int.toNat_natCast, Option.some.injEq,
    Int.shiftRight_eq_div_pow, BitVec.extractLsb'_toNat, Nat.shiftRight_eq_div_pow]
  push_cast
  rw [toNat_ofInt]
  -- The bits from 32 on add a multiple of `2 ^ lo * 2 ^ width`, which the field does not see.
  obtain ⟨rest, hrest⟩ : ∃ rest, 32 = lo + width + rest := Nat.exists_eq_add_of_le (by omega)
  have hpow : (2 : Int) ^ 32 = 2 ^ lo * (2 ^ width * 2 ^ rest) := by
    rw [← Int.pow_add, ← Int.pow_add, ← Nat.add_assoc, ← hrest]
  have hsplit : n = n % 2 ^ 32 + 2 ^ lo * (2 ^ width * (2 ^ rest * (n / 2 ^ 32))) := by
    rw [← Int.mul_assoc (2 ^ width), ← Int.mul_assoc, ← hpow, Int.emod_add_mul_ediv]
  have hpos : (2 : Int) ^ lo ≠ 0 := (Int.pow_pos (by decide)).ne'
  change n / 2 ^ lo % 2 ^ width = _
  conv_lhs => rw [hsplit]
  rw [Int.add_mul_ediv_left _ _ hpos, Int.add_mul_emod_self_left]

/-- A field of five bits names a register, whatever the integer is. -/
theorem ofIndex_bits? (n : Int) {hi lo : Nat} (hhi : hi + 1 = lo + 5) (h : hi < 32) :
    (Number.bits? n hi lo).map Register.ofIndex = some (.ok ((ofInt n).extractLsb' lo 5)) := by
  have hlt := ((ofInt n).extractLsb' lo 5).isLt
  rw [bits?_eq n hhi h, Option.map_some, Register.ofIndex, if_pos (by omega), BitVec.ofInt_natCast,
    BitVec.ofNat_toNat, BitVec.setWidth_eq]

/-- Fields among the low 32 bits of an integer, given with their widths, are gathered from its
word. -/
theorem gather?_eq (n : Int) {slices : List (Nat × Nat × Nat × Nat)}
    (h : ∀ slice ∈ slices, slice.1 + 1 = slice.2.1 + slice.2.2.1 ∧ slice.1 < 32) :
    Number.gather? n (slices.map fun (hi, lo, _, place) => (hi, lo, place)) =
      some (slices.map fun (_, lo, width, place) =>
        (((ofInt n).extractLsb' lo width).toNat * 2 ^ place : Int)).sum := by
  induction slices with
  | nil => rfl
  | cons slice rest ih =>
    obtain ⟨hi, lo, width, place⟩ := slice
    obtain ⟨hhi, hlt⟩ : hi + 1 = lo + width ∧ hi < 32 := h _ List.mem_cons_self
    rw [List.map_cons, Number.gather?, bits?_eq n hhi hlt,
      ih fun other hother => h other (List.mem_cons_of_mem _ hother)]
    rfl

theorem gather?_immS (n : Int) :
    Number.gather? n [(31, 25, 5), (11, 7, 0)] = some ((ofInt n).immS.toNat : Int) := by
  refine (@gather?_eq n [(31, 25, 7, 5), (11, 7, 5, 0)] (by decide)).trans ?_
  simp only [immS, Number.toNat_append, List.map_cons, List.map_nil, List.sum_cons, List.sum_nil]
  congr 1
  omega

/-- The distances of branches and jumps are gathered one place up, as they are in units of two
bytes. -/
theorem gather?_immB (n : Int) :
    Number.gather? n [(31, 31, 12), (7, 7, 11), (30, 25, 5), (11, 8, 1)] =
      some (2 * (ofInt n).immB.toNat : Int) := by
  refine (@gather?_eq n [(31, 31, 1, 12), (7, 7, 1, 11), (30, 25, 6, 5), (11, 8, 4, 1)]
    (by decide)).trans ?_
  simp only [immB, Number.toNat_append, List.map_cons, List.map_nil, List.sum_cons, List.sum_nil]
  congr 1
  omega

theorem gather?_immJ (n : Int) :
    Number.gather? n [(31, 31, 20), (19, 12, 12), (20, 20, 11), (30, 21, 1)] =
      some (2 * (ofInt n).immJ.toNat : Int) := by
  refine (@gather?_eq n [(31, 31, 1, 20), (19, 12, 8, 12), (20, 20, 1, 11), (30, 21, 10, 1)]
    (by decide)).trans ?_
  simp only [immJ, Number.toNat_append, List.map_cons, List.map_nil, List.sum_cons, List.sum_nil]
  congr 1
  omega

/-- The fields of a word are fields of an integer, the upper immediate among them. The other
immediates and the distances in bytes are signed numbers that are gathered from fields. -/
structure IsReadFrom (w : Word) (n : Int) : Prop where
  opcode : Number.bits? n 6 0 = some (w.opcode.toNat : Int)
  rd : Number.bits? n 11 7 = some (w.rd.toNat : Int)
  funct3 : Number.bits? n 14 12 = some (w.funct3.toNat : Int)
  rs1 : Number.bits? n 19 15 = some (w.rs1.toNat : Int)
  rs2 : Number.bits? n 24 20 = some (w.rs2.toNat : Int)
  funct7 : Number.bits? n 31 25 = some (w.funct7.toNat : Int)
  funct12 : Number.bits? n 31 20 = some (w.funct12.toNat : Int)
  immU : Number.bits? n 31 12 = some (w.immU.toNat : Int)
  immI : (Number.bits? n 31 20).bind (Number.signed? · 12) = some w.immI.toInt
  immS : (Number.gather? n [(31, 25, 5), (11, 7, 0)]).bind (Number.signed? · 12) =
    some w.immS.toInt
  branchOffset :
    (Number.gather? n [(31, 31, 12), (7, 7, 11), (30, 25, 5), (11, 8, 1)]).bind
      (Number.signed? · 13) = some w.branchOffset
  jalOffset :
    (Number.gather? n [(31, 31, 20), (19, 12, 12), (20, 20, 11), (30, 21, 1)]).bind
      (Number.signed? · 21) = some w.jalOffset

theorem isReadFrom_ofInt (n : Int) : (ofInt n).IsReadFrom n where
  opcode := bits?_eq n (rfl : 6 + 1 = 0 + 7) (by decide)
  rd := bits?_eq n (rfl : 11 + 1 = 7 + 5) (by decide)
  funct3 := bits?_eq n (rfl : 14 + 1 = 12 + 3) (by decide)
  rs1 := bits?_eq n (rfl : 19 + 1 = 15 + 5) (by decide)
  rs2 := bits?_eq n (rfl : 24 + 1 = 20 + 5) (by decide)
  funct7 := bits?_eq n (rfl : 31 + 1 = 25 + 7) (by decide)
  funct12 := bits?_eq n (rfl : 31 + 1 = 20 + 12) (by decide)
  immU := bits?_eq n (rfl : 31 + 1 = 12 + 20) (by decide)
  immI := by
    have hbits : Number.bits? n 31 20 = some ((ofInt n).immI.toNat : Int) :=
      bits?_eq n (rfl : 31 + 1 = 20 + 12) (by decide)
    rw [hbits]
    exact Number.signed?_toNat (by decide) (ofInt n).immI
  immS := by
    rw [gather?_immS]
    exact Number.signed?_toNat (by decide) (ofInt n).immS
  branchOffset := by
    rw [gather?_immB]
    exact Number.signed?_two_mul_toNat (by decide) (ofInt n).immB
  jalOffset := by
    rw [gather?_immJ]
    exact Number.signed?_two_mul_toNat (by decide) (ofInt n).immJ

end Word

/-! ### Targets -/

/-- The operands of an instruction that is no jump do not show a target. -/
theorem Instruction.operands_eq_of_jumpOffset?_eq_none {i : Instruction} (h : i.jumpOffset? = none)
    (target target' : String) : i.operands target = i.operands target' := by
  cases i with
  | jal rd distance => cases h
  | branch op rs1 rs2 distance => cases h
  | _ => rfl

namespace CodeLine

/-- What stands for the target of a jump at `address` that leads `offset` bytes away: the label that
is noted for the address, be it empty, or else the target in hexadecimal. -/
def targetText (jumps : AddressMap String) (address offset : Int) : String :=
  match jumps.get? address with
  | some label => label
  | none => "0x" ++ Numeral.hex 8 ((address + offset) % 2 ^ 32)

theorem targetLabel_eq_targetText {i : Instruction} {offset : Int}
    (h : i.jumpOffset? = some offset) (jumps : AddressMap String) (address : Int) :
    targetLabel jumps address i = targetText jumps address offset := by
  unfold targetLabel targetText
  rw [h]
  rfl

/-- An address in hexadecimal has eight digits. -/
theorem length_hex_emod (n : Int) : (Numeral.hex 8 (n % 2 ^ 32)).length = 8 := by
  obtain ⟨k, hk⟩ := Int.eq_ofNat_of_zero_le (Int.emod_nonneg n (by decide : (2 : Int) ^ 32 ≠ 0))
  have hlt : k < 16 ^ 8 := by omega
  rw [hk, ← String.length_toList]
  exact Numeral.length_hex (by decide) hlt

/-- Two integers with the same low 32 bits, decoded at one address with two pairs of maps, are both
accepted or both refused, each as the word that it is. They are accepted exactly if they stand for
an instruction, of which both lines bear the name. The maps show in the labels of the lines and in
the last operand of a jump or branch: the label noted for the address, or the target in eight
hexadecimal digits where there is none. All else is the same. No field of an integer that is meant
for a register lies outside of the registers, and both integers have the fields and the immediates
of the one word that is decoded. -/
theorem decode_depends_on_low_bits (word word' address : Int)
    (jumps labels jumps' labels' : AddressMap String) (hword : word % 2 ^ 32 = word' % 2 ^ 32) :
    ((∃ (i : Instruction) (line line' : CodeLine), i.encode = (Word.ofInt word).canonical ∧
        decode jumps labels address word = .ok line ∧
        decode jumps' labels' address word' = .ok line' ∧
        line.item = (address, word) ∧ line'.item = (address, word') ∧
        line.mnemonic = i.mnemonic ∧ line'.mnemonic = i.mnemonic ∧
        line.label = (labels.get? address).getD "" ∧
        line'.label = (labels'.get? address).getD "" ∧
        ((Word.ofInt word).jumpOffset? = none → line.operands = line'.operands) ∧
        ∀ offset, (Word.ofInt word).jumpOffset? = some offset →
          (Numeral.hex 8 ((address + offset) % 2 ^ 32)).length = 8 ∧
          ∃ front, line.operands = front ++ ", " ++ targetText jumps address offset ∧
            line'.operands = front ++ ", " ++ targetText jumps' address offset) ∨
      (∀ i : Instruction, i.encode ≠ (Word.ofInt word).canonical) ∧
        decode jumps labels address word = .error (.unexpectedInstruction word (some address)) ∧
        decode jumps' labels' address word' =
          .error (.unexpectedInstruction word' (some address))) ∧
    (Number.bits? word 11 7).map Register.ofIndex = some (.ok (Word.ofInt word).rd) ∧
    (Number.bits? word 19 15).map Register.ofIndex = some (.ok (Word.ofInt word).rs1) ∧
    (Number.bits? word 24 20).map Register.ofIndex = some (.ok (Word.ofInt word).rs2) ∧
    (Word.ofInt word).IsReadFrom word ∧ (Word.ofInt word).IsReadFrom word' := by
  have hsame : Word.ofInt word' = Word.ofInt word := Word.ofInt_eq_ofInt_iff.mpr hword.symm
  refine ⟨?_, Word.ofIndex_bits? word (rfl : 11 + 1 = 7 + 5) (by decide),
    Word.ofIndex_bits? word (rfl : 19 + 1 = 15 + 5) (by decide),
    Word.ofIndex_bits? word (rfl : 24 + 1 = 20 + 5) (by decide), Word.isReadFrom_ofInt word,
    hsame ▸ Word.isReadFrom_ofInt word'⟩
  cases hdecode : Instruction.decode? (Word.ofInt word) with
  | none =>
    right
    refine ⟨?_, ?_, ?_⟩
    · intro i hi
      rw [Instruction.decode?_eq_some_iff.mpr hi] at hdecode
      cases hdecode
    · exact (decode_eq_error_iff _ _ _ _ _).mpr ⟨hdecode, rfl⟩
    · exact (decode_eq_error_iff _ _ _ _ _).mpr ⟨hsame ▸ hdecode, rfl⟩
  | some i =>
    left
    have hoffset := Instruction.jumpOffset?_of_decode? hdecode
    refine ⟨i, _, _, Instruction.decode?_eq_some_iff.mp hdecode,
      decode_eq_ok_iff.mpr ⟨i, hdecode, rfl⟩, decode_eq_ok_iff.mpr ⟨i, hsame ▸ hdecode, rfl⟩,
      rfl, rfl, rfl, rfl, rfl, rfl, ?_, ?_⟩
    · intro hnone
      exact Instruction.operands_eq_of_jumpOffset?_eq_none (hoffset.symm.trans hnone) _ _
    · intro offset hjump
      rw [hoffset] at hjump
      obtain ⟨front, hfront⟩ := Instruction.operands_eq_append hjump
      refine ⟨length_hex_emod _, front, ?_, ?_⟩
      · rw [ofInstruction, targetLabel_eq_targetText hjump, hfront]
      · rw [ofInstruction, targetLabel_eq_targetText hjump, hfront]

/-- A jump to itself at the address -4, once with ones above its 32 bits and an empty label, once
with a bit far above and no label. -/
theorem decode_depends_on_low_bits_beyond :
    (0x6f - 2 ^ 32 : Int) % 2 ^ 32 = (0x6f + 2 ^ 40) % 2 ^ 32 ∧
      decode ⟨[(-4, "")]⟩ .empty (-4) (0x6f - 2 ^ 32) =
        .ok { address := -4, word := 0x6f - 2 ^ 32, mnemonic := "jal", operands := "zero, 0, " } ∧
      decode .empty ⟨[(-4, "end")]⟩ (-4) (0x6f + 2 ^ 40) =
        .ok { address := -4, word := 0x6f + 2 ^ 40, mnemonic := "jal",
              operands := "zero, 0, 0xfffffffc", label := "end" } ∧
      ∃ front, "zero, 0, " = front ++ ", " ++ targetText ⟨[(-4, "")]⟩ (-4) 0 ∧
        "zero, 0, 0xfffffffc" = front ++ ", " ++ targetText .empty (-4) 0 := by
  have hfirst : decode ⟨[(-4, "")]⟩ .empty (-4) (0x6f - 2 ^ 32) =
      .ok { address := -4, word := 0x6f - 2 ^ 32, mnemonic := "jal", operands := "zero, 0, " } :=
    rfl
  have hsecond : decode .empty ⟨[(-4, "end")]⟩ (-4) (0x6f + 2 ^ 40) =
      .ok { address := -4, word := 0x6f + 2 ^ 40, mnemonic := "jal",
            operands := "zero, 0, 0xfffffffc", label := "end" } := rfl
  refine ⟨by decide, hfirst, hsecond, ?_⟩
  rcases (decode_depends_on_low_bits (0x6f - 2 ^ 32) (0x6f + 2 ^ 40) (-4) ⟨[(-4, "")]⟩ .empty
      .empty ⟨[(-4, "end")]⟩ (by decide)).1 with
    ⟨i, line, line', -, hline, hline', -, -, -, -, -, -, -, hjump⟩ | ⟨-, hrefused, -⟩
  · rw [hfirst] at hline
    rw [hsecond] at hline'
    cases hline
    cases hline'
    exact (hjump 0 (by decide)).2
  · rw [hfirst] at hrefused
    cases hrefused

end CodeLine

end RiscvListing
