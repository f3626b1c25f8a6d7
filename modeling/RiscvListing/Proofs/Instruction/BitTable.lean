import Mathlib.Data.Int.Bitwise
import RiscvListing.Instruction.Word
import RiscvListing.Number.Bits

/-!
# The bits of immediates

An integer has a bit at every place, and from some place on they are all alike. The bits of an
immediate are bits of its word at other places; above its width it goes on with its sign, which is
bit 31 of the word in every format. A word may be any integer, of which only the bits below 32 are
used.

## Main results

* `Number.testBit_toInt` — a signed number goes on with its sign.
* `Number.signed?_eq_some_iff` — a signed field is the one number in its range with the same low
  bits.
* `Word.getLsbD_ofInt` — the bits of an integer are the bits of its word.
* `Word.testBit_immI`, `Word.testBit_immS`, `Word.testBit_branchOffset`, `Word.testBit_jalOffset` —
  where the bits of an immediate come from.
* `Word.immediates_match_bit_table` — all of this together.
-/

namespace RiscvListing

/-! ### Signed numbers -/

namespace Number

/-- The bits of a signed number are those of its field and, above them, its sign. -/
theorem testBit_toInt {width : Nat} (x : BitVec width) (k : Nat) :
    x.toInt.testBit k = if k < width then x.getLsbD k else x.msb := by
  cases hmsb : x.msb with
  | false =>
    rw [BitVec.toInt_eq_toNat_of_msb hmsb]
    change x.toNat.testBit k = _
    rw [BitVec.testBit_toNat]
    split
    · rfl
    · exact x.getLsbD_of_ge k (by omega)
  | true =>
    -- A negative number is the complement of the number with the opposite bits.
    have hneg : x.toInt = Int.negSucc (~~~x).toNat := by
      have hlt := x.isLt
      rw [BitVec.toInt_eq_msb_cond, if_pos hmsb, BitVec.toNat_not]
      omega
    rw [hneg]
    change (!(~~~x).toNat.testBit k) = _
    rw [BitVec.testBit_toNat, BitVec.getLsbD_not]
    split
    · rename_i hk
      rw [decide_eq_true hk, Bool.true_and, Bool.not_not]
    · rename_i hk
      rw [decide_eq_false hk, Bool.false_and, Bool.not_false]

/-- A field whose bits are taken from certain places of an integer goes on with the bit that it has
last. -/
theorem testBit_toInt_of_places {width : Nat} {x : BitVec width} {n : Int} {place : Nat → Nat}
    (hwidth : 0 < width) (h : ∀ k < width, x.getLsbD k = n.testBit (place k)) (k : Nat) :
    x.toInt.testBit k = n.testBit (place (min k (width - 1))) := by
  rw [testBit_toInt]
  split
  · rename_i hk
    rw [h k hk, Nat.min_eq_left (by omega)]
  · rename_i hk
    rw [BitVec.msb_eq_getLsbD_last, h (width - 1) (by omega), Nat.min_eq_right (by omega)]

/-- Twice a number has its bits one place further up. -/
theorem testBit_two_mul (n : Int) (k : Nat) :
    (2 * n).testBit k = if k = 0 then false else n.testBit (k - 1) := by
  have hbit : 2 * n = Int.bit false n := rfl
  rw [hbit]
  cases k with
  | zero => rw [Int.testBit_bit_zero, if_pos rfl]
  | succ k => rw [Int.testBit_bit_succ, if_neg (Nat.succ_ne_zero k), Nat.add_sub_cancel]

/-- A signed field is the one number in its range that has the same low bits. -/
theorem signed?_eq_some_iff {n value : Int} {width : Nat} (hwidth : 1 ≤ width) :
    signed? n width = some value ↔
      -2 ^ (width - 1) ≤ value ∧ value < 2 ^ (width - 1) ∧ value % 2 ^ width = n % 2 ^ width := by
  obtain ⟨width, rfl⟩ := Nat.exists_eq_add_of_le' hwidth
  have hpos : 0 < Nat.pow 2 (width + 1) := Nat.two_pow_pos _
  have hpow : ((Nat.pow 2 (width + 1) : Nat) : Int) = 2 ^ (width + 1) := Int.natCast_pow 2 _
  have hdouble : (2 : Int) ^ (width + 1) = 2 * 2 ^ width := Int.pow_succ' 2 width
  have hmod : (2 : Int) ^ (width + 1) ∣ value - n ↔
      value % 2 ^ (width + 1) = n % 2 ^ (width + 1) := by
    rw [Int.emod_eq_emod_iff_emod_sub_eq_zero, Int.dvd_iff_emod_eq_zero]
  rw [signed?, if_neg (by omega), Option.some.injEq, Int.toNat_natCast, Int.bmod_eq_iff hpos, hpow,
    hmod, Nat.add_sub_cancel]
  omega

end Number

/-! ### Immediates -/

namespace Word

theorem getLsbD_ofInt (n : Int) {k : Nat} (hk : k < 32) : (ofInt n).getLsbD k = n.testBit k := by
  rw [ofInt]
  cases n with
  | ofNat m =>
    change (BitVec.ofInt 32 (m : Int)).getLsbD k = m.testBit k
    rw [BitVec.ofInt_natCast, BitVec.getLsbD_ofNat, decide_eq_true hk, Bool.true_and]
  | negSucc m =>
    change _ = !m.testBit k
    rw [BitVec.ofInt_negSucc_eq_not_ofNat, BitVec.getLsbD_not, BitVec.getLsbD_ofNat,
      decide_eq_true hk, Bool.true_and, Bool.true_and]

/-- The bits of a slice of a word are the bits of the integer from the start of the slice on. -/
theorem getLsbD_slice (n : Int) {start count k : Nat} (hk : k < count) (hword : start + k < 32) :
    ((ofInt n).extractLsb' start count).getLsbD k = n.testBit (start + k) := by
  rw [BitVec.getLsbD_extractLsb', decide_eq_true hk, Bool.true_and, getLsbD_ofInt n hword]

/-- Slices are joined from the top: a slice that is put below others moves them up. -/
theorem getLsbD_append_slice (n : Int) {width start count : Nat} {x : BitVec width}
    {place : Nat → Nat} (hx : ∀ k < width, x.getLsbD k = n.testBit (place k))
    (hword : start + count ≤ 32) {k : Nat} (hk : k < width + count) :
    (x ++ (ofInt n).extractLsb' start count).getLsbD k =
      n.testBit (if k < count then start + k else place (k - count)) := by
  rw [BitVec.getLsbD_append]
  split
  · rename_i hlow
    exact getLsbD_slice n hlow (by omega)
  · exact hx _ (by omega)

theorem getLsbD_immS (n : Int) {k : Nat} (hk : k < 12) :
    (ofInt n).immS.getLsbD k = n.testBit (if k < 5 then 7 + k else 25 + (k - 5)) :=
  getLsbD_append_slice n (fun _ hk => getLsbD_slice n hk (by omega)) (by decide) hk

theorem getLsbD_immB (n : Int) {k : Nat} (hk : k < 12) :
    (ofInt n).immB.getLsbD k = n.testBit
      (if k < 4 then 8 + k
        else if k - 4 < 6 then 25 + (k - 4)
        else if k - 4 - 6 < 1 then 7 + (k - 4 - 6) else 31 + (k - 4 - 6 - 1)) := by
  have hsign := fun k => @getLsbD_slice n 31 1 k
  have hhigh := fun k => @getLsbD_append_slice n 1 7 1 _ _ (fun k hk => hsign k hk (by omega))
    (by decide) k
  have hmiddle := fun k => @getLsbD_append_slice n 2 25 6 _ _ hhigh (by decide) k
  exact getLsbD_append_slice n hmiddle (by decide) hk

theorem getLsbD_immJ (n : Int) {k : Nat} (hk : k < 20) :
    (ofInt n).immJ.getLsbD k = n.testBit
      (if k < 10 then 21 + k
        else if k - 10 < 1 then 20 + (k - 10)
        else if k - 10 - 1 < 8 then 12 + (k - 10 - 1) else 31 + (k - 10 - 1 - 8)) := by
  have hsign := fun k => @getLsbD_slice n 31 1 k
  have hhigh := fun k => @getLsbD_append_slice n 1 12 8 _ _ (fun k hk => hsign k hk (by omega))
    (by decide) k
  have hmiddle := fun k => @getLsbD_append_slice n 9 20 1 _ _ hhigh (by decide) k
  exact getLsbD_append_slice n hmiddle (by decide) hk

theorem testBit_immI (n : Int) (k : Nat) :
    (ofInt n).immI.toInt.testBit k = n.testBit (if k ≤ 10 then k + 20 else 31) := by
  rw [immI, Number.testBit_toInt_of_places (by decide) fun k hk => getLsbD_slice n hk (by omega)]
  exact congrArg n.testBit (by split_ifs <;> omega)

theorem testBit_immS (n : Int) (k : Nat) :
    (ofInt n).immS.toInt.testBit k =
      n.testBit (if k ≤ 4 then k + 7 else if k ≤ 10 then k + 20 else 31) := by
  rw [Number.testBit_toInt_of_places (by decide) fun k => getLsbD_immS n]
  exact congrArg n.testBit (by split_ifs <;> omega)

/-- Branches count in units of two bytes, so their distance in bytes has no bit at the first
place. -/
theorem testBit_branchOffset (n : Int) (k : Nat) :
    (ofInt n).branchOffset.testBit k =
      if k = 0 then false
      else n.testBit
        (if k ≤ 4 then k + 7 else if k ≤ 10 then k + 20 else if k = 11 then 7 else 31) := by
  rw [branchOffset, Number.testBit_two_mul,
    Number.testBit_toInt_of_places (by decide) fun k => getLsbD_immB n]
  split
  · rfl
  · exact congrArg n.testBit (by split_ifs <;> omega)

theorem testBit_jalOffset (n : Int) (k : Nat) :
    (ofInt n).jalOffset.testBit k =
      if k = 0 then false
      else n.testBit
        (if k ≤ 10 then k + 20 else if k = 11 then 20 else if k ≤ 19 then k else 31) := by
  rw [jalOffset, Number.testBit_two_mul,
    Number.testBit_toInt_of_places (by decide) fun k => getLsbD_immJ n]
  split
  · rfl
  · exact congrArg n.testBit (by split_ifs <;> omega)

/-- The bits of the four signed immediates of an integer at every place, by the place of the bit of
the integer that each of them is; and the signed number with some low bits of an integer, which is
there for every width but zero and is the only one in its range that agrees with the integer in
these bits. -/
theorem immediates_match_bit_table :
    (∀ (n : Int) (k : Nat),
      (ofInt n).immI.toInt.testBit k = n.testBit (if k ≤ 10 then k + 20 else 31) ∧
        (ofInt n).immS.toInt.testBit k =
          n.testBit (if k ≤ 4 then k + 7 else if k ≤ 10 then k + 20 else 31) ∧
        (ofInt n).branchOffset.testBit k =
          (if k = 0 then false
            else n.testBit
              (if k ≤ 4 then k + 7 else if k ≤ 10 then k + 20 else if k = 11 then 7 else 31)) ∧
        (ofInt n).jalOffset.testBit k =
          (if k = 0 then false
            else n.testBit
              (if k ≤ 10 then k + 20 else if k = 11 then 20 else if k ≤ 19 then k else 31))) ∧
      ∀ (n : Int) (width : Nat), 1 ≤ width →
        (∃ value, Number.signed? n width = some value) ∧
          ∀ value, Number.signed? n width = some value ↔
            -2 ^ (width - 1) ≤ value ∧ value < 2 ^ (width - 1) ∧
              value % 2 ^ width = n % 2 ^ width := by
  refine ⟨fun n k => ⟨testBit_immI n k, testBit_immS n k, testBit_branchOffset n k,
    testBit_jalOffset n k⟩, fun n width hwidth => ⟨?_, fun value => ?_⟩⟩
  · rw [← Option.ne_none_iff_exists', ne_eq, Number.signed?_eq_none_iff]
    omega
  · exact Number.signed?_eq_some_iff hwidth

/-- A branch four bytes back, in a word with a bit far above its 32 bits, has ones at all places
from the third one on. Of the numbers with the low eight bits of -129, the one of eight bits with a
sign is 127. -/
theorem immediates_match_bit_table_backwards :
    (ofInt (0xfe000ee3 + 2 ^ 40)).branchOffset = -4 ∧
      (∀ k, 12 ≤ k → (-4 : Int).testBit k = (0xfe000ee3 + 2 ^ 40 : Int).testBit 31) ∧
      Number.signed? (-129) 8 = some 127 := by
  have hoffset : (ofInt (0xfe000ee3 + 2 ^ 40)).branchOffset = -4 := by decide
  refine ⟨hoffset, fun k hk => ?_, ?_⟩
  · have hbit := (immediates_match_bit_table.1 (0xfe000ee3 + 2 ^ 40) k).2.2.1
    rwa [hoffset, if_neg (by omega), if_neg (by omega), if_neg (by omega),
      if_neg (by omega)] at hbit
  · exact ((immediates_match_bit_table.2 (-129) 8 (by decide)).2 127).mpr (by decide)

end Word

end RiscvListing
