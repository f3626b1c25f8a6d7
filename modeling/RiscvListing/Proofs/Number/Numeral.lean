import Mathlib.Algebra.Order.Ring.Int
import RiscvListing.Number.Numeral

/-!
# Digits of numerals

The characters of a numeral: the digits of its number, after zeros that fill it up and after a sign
where the number is negative. A numeral has no other characters, and its number can be read from it.

## Main definitions

* `Numeral.digitValue`, `Numeral.value` — the number of a digit and of several digits.

## Main results

* `Numeral.toList_decimal_natCast`, `Numeral.toList_decimal_of_neg` — the characters of a decimal
  numeral.
* `Numeral.not_mem_decimal`, `Numeral.not_mem_hex` — a character that is no digit and no sign is in
  no numeral.
* `Numeral.value_hex` — the number of a hexadecimal numeral.
* `Numeral.length_hex` — a number that is small enough fills a numeral exactly.
* `Numeral.decimal_injective`, `Numeral.upperHex_injective` — different numbers have different
  numerals.
-/

namespace RiscvListing.Numeral

theorem toList_padded_natCast (base width n : Nat) :
    (padded base width n).toList = (Nat.toDigits base n).leftpad width '0' := by
  have hnonneg : ¬ (n : Int) < 0 := by omega
  rw [padded, if_neg hnonneg, String.toList_ofList, Int.natAbs_natCast]

theorem toList_padded_zero (base : Nat) (n : Int) :
    (padded base 0 n).toList =
      if n < 0 then '-' :: Nat.toDigits base n.natAbs else Nat.toDigits base n.natAbs := by
  unfold padded
  split
  all_goals
    rw [String.toList_ofList, List.leftpad, Nat.zero_sub, List.replicate_zero, List.nil_append]

theorem padded_zero_ne_nil (base : Nat) (n : Int) : (padded base 0 n).toList ≠ [] := by
  rw [toList_padded_zero]
  split
  · exact List.cons_ne_nil _ _
  · exact Nat.toDigits_ne_nil

theorem toList_decimal_natCast (n : Nat) : (decimal n).toList = Nat.toDigits 10 n := by
  rw [decimal, toList_padded_zero, if_neg (Int.not_lt.mpr (Int.natCast_nonneg n)),
    Int.natAbs_natCast]

theorem toList_decimal_of_neg {n : Int} (h : n < 0) :
    (decimal n).toList = '-' :: Nat.toDigits 10 n.natAbs := by
  rw [decimal, toList_padded_zero, if_pos h]

theorem not_mem_decimal {c : Char} (hdigit : c.isDigit = false) (hsign : c ≠ '-') (n : Int) :
    c ∉ (decimal n).toList := by
  have hdigits : ∀ k, c ∉ Nat.toDigits 10 k := by
    intro k hmem
    have := Nat.isDigit_of_mem_toDigits (by decide) (by decide) hmem
    rw [hdigit] at this
    cases this
  by_cases hn : n < 0
  · rw [toList_decimal_of_neg hn, List.mem_cons, not_or]
    exact ⟨hsign, hdigits _⟩
  · obtain ⟨k, rfl⟩ := Int.eq_ofNat_of_zero_le (Int.not_lt.mp hn)
    rw [toList_decimal_natCast]
    exact hdigits k

theorem decimal_ne_nil (n : Int) : (decimal n).toList ≠ [] := padded_zero_ne_nil 10 n

/-! ### Hexadecimal numerals -/

/-- The number that a digit stands for. -/
def digitValue (c : Char) : Nat := if c.isDigit then c.toNat - 48 else c.toNat - 87

/-- The number with some hexadecimal digits. -/
def value (digits : List Char) : Nat := digits.foldl (fun n c => 16 * n + digitValue c) 0

theorem digitValue_digitChar {k : Nat} (h : k < 16) : digitValue (Nat.digitChar k) = k := by
  revert k
  decide

theorem value_toDigits (n : Nat) : value (Nat.toDigits 16 n) = n := by
  induction n using Nat.strongRecOn with
  | ind n ih =>
    by_cases h : n < 16
    · rw [Nat.toDigits_of_lt_base h, value, List.foldl_cons, List.foldl_nil, digitValue_digitChar h]
      omega
    · have hlast : n % 16 < 16 := Nat.mod_lt n (by decide)
      have hfront := ih (n / 16) (by omega)
      rw [value] at hfront
      rw [Nat.toDigits_of_base_le (by decide) (Nat.not_lt.mp h), value, List.foldl_append, hfront,
        List.foldl_cons, List.foldl_nil, digitValue_digitChar hlast]
      omega

theorem value_leftpad (width : Nat) (digits : List Char) :
    value (digits.leftpad width '0') = value digits := by
  have hzeros : ∀ count, value (List.replicate count '0') = 0 := by
    intro count
    induction count with
    | zero => rfl
    | succ count ih =>
      rw [value] at ih
      rw [List.replicate_succ', value, List.foldl_append, ih]
      rfl
  rw [List.leftpad, value, List.foldl_append, ← value, hzeros]
  rfl

theorem value_hex (width n : Nat) : value (hex width n).toList = n := by
  rw [hex, toList_padded_natCast, value_leftpad, value_toDigits]

theorem length_hex {width n : Nat} (hwidth : 0 < width) (h : n < 16 ^ width) :
    (hex width n).toList.length = width := by
  have hlength := (Nat.length_toDigits_le_iff (by decide) hwidth).mpr h
  rw [hex, toList_padded_natCast, List.length_leftpad]
  omega

theorem not_mem_toDigits {c : Char} (h : ∀ k < 16, Nat.digitChar k ≠ c) (n : Nat) :
    c ∉ Nat.toDigits 16 n := by
  induction n using Nat.strongRecOn with
  | ind n ih =>
    by_cases hn : n < 16
    · rw [Nat.toDigits_of_lt_base hn, List.mem_singleton]
      exact fun heq => h n hn heq.symm
    · rw [Nat.toDigits_of_base_le (by decide) (Nat.not_lt.mp hn), List.mem_append,
        List.mem_singleton, not_or]
      exact ⟨ih (n / 16) (by omega), fun heq => h _ (Nat.mod_lt n (by decide)) heq.symm⟩

theorem not_mem_hex {c : Char} (h : ∀ k < 16, Nat.digitChar k ≠ c) (hsign : c ≠ '-') (width : Nat)
    (n : Int) : c ∉ (hex width n).toList := by
  have hpadded : ∀ count, c ∉ (Nat.toDigits 16 n.natAbs).leftpad count '0' := by
    intro count hmem
    rw [List.leftpad, List.mem_append, List.mem_replicate] at hmem
    obtain ⟨-, hzero⟩ | hmem := hmem
    · exact h 0 (by decide) hzero.symm
    · exact not_mem_toDigits h _ hmem
  rw [hex, padded]
  split
  · rw [String.toList_ofList, List.mem_cons, not_or]
    exact ⟨hsign, hpadded _⟩
  · rw [String.toList_ofList]
    exact hpadded _

/-! ### Numbers read from numerals -/

/-- Where digits tell numbers apart and are no sign, numerals tell integers apart. -/
theorem padded_zero_injective {base : Nat} (hdigits : Function.Injective (Nat.toDigits base))
    (hsign : ∀ k, '-' ∉ Nat.toDigits base k) : Function.Injective (padded base 0) := by
  intro n m h
  have hchars := congrArg String.toList h
  rw [toList_padded_zero, toList_padded_zero] at hchars
  split_ifs at hchars with hn hm hm
  · have habs := hdigits (List.cons.inj hchars).2
    omega
  · exact absurd (hchars ▸ List.mem_cons_self) (hsign m.natAbs)
  · exact absurd (hchars.symm ▸ List.mem_cons_self) (hsign n.natAbs)
  · have habs := hdigits hchars
    omega

theorem decimal_injective : Function.Injective decimal := by
  have hdigits : Function.Injective (Nat.toDigits 10) :=
    Function.LeftInverse.injective fun k => Nat.ofDigitChars_ten_toDigits
  refine padded_zero_injective hdigits fun k hmem => ?_
  exact absurd (Nat.isDigit_of_mem_toDigits (by decide) (by decide) hmem) (by decide)

/-- A character of a hexadecimal numeral is a digit or the sign. -/
theorem of_mem_hex {c : Char} {width : Nat} {n : Int} (h : c ∈ (hex width n).toList) :
    c = '-' ∨ ∃ k < 16, Nat.digitChar k = c := by
  by_contra hnone
  rw [not_or, not_exists] at hnone
  exact not_mem_hex (fun k hk heq => hnone.2 k ⟨hk, heq⟩) hnone.1 width n h

/-- Upper-case digits are brought back to lower case. -/
theorem map_toLower_upperHex (n : Int) :
    (upperHex n).toList.map Char.toLower = (hex 0 n).toList := by
  rw [upperHex, String.toList_ofList, List.map_map]
  conv_rhs => rw [← List.map_id (hex 0 n).toList]
  have hdigit : ∀ k < 16, (Nat.digitChar k).toUpper.toLower = Nat.digitChar k := by decide
  refine List.map_congr_left fun c hc => ?_
  obtain rfl | ⟨k, hk, rfl⟩ := of_mem_hex hc
  · rfl
  · exact hdigit k hk

theorem upperHex_injective : Function.Injective upperHex := by
  have hhex : Function.Injective (hex 0) := by
    refine padded_zero_injective (Function.LeftInverse.injective value_toDigits) fun k => ?_
    exact not_mem_toDigits (by decide) k
  intro n m h
  have hdigits := congrArg (fun text : String => text.toList.map Char.toLower) h
  simp only [map_toLower_upperHex] at hdigits
  exact hhex (String.toList_inj.mp hdigits)

theorem not_mem_upperHex {c : Char} (h : ∀ k < 16, (Nat.digitChar k).toUpper ≠ c) (hsign : c ≠ '-')
    (n : Int) : c ∉ (upperHex n).toList := by
  rw [upperHex, String.toList_ofList]
  intro hmem
  obtain ⟨digit, hdigit, rfl⟩ := List.mem_map.mp hmem
  obtain rfl | ⟨k, hk, rfl⟩ := of_mem_hex hdigit
  · exact hsign rfl
  · exact h k hk rfl

theorem upperHex_ne_nil (n : Int) : (upperHex n).toList ≠ [] := by
  intro hnil
  have hdigits := map_toLower_upperHex n
  rw [hnil] at hdigits
  exact padded_zero_ne_nil 16 n hdigits.symm

end RiscvListing.Numeral
