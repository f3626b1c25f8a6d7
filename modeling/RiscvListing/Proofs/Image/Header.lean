import RiscvListing.Proofs.Image.Container
import RiscvListing.Proofs.Image.Extension

/-!
# The judgement of a file header

The header of a file is read piece by piece, and each piece is checked as soon as it is there: the
first four bytes, then the bytes that identify the format, then the numbers. The identification is
checked twice, and the file may end at any place in between. What comes of it can be said in one
list: six requirements in order, each with the fault of a file that does not meet it. A file is
refused with the fault of the first requirement that it does not meet. Otherwise its header is read,
and the header is written as the same 52 bytes again.

## Main definitions

* `Header.Requirement`, `Header.requirements` — what is asked of a file, in order.
* `Header.firstFault` — the fault of the first requirement that is not met.

## Main results

* `Layout.pack_valuesAt`, `Layout.fits_valuesAt` — a record that is read is written as it was.
* `Header.read_eq` — what reading a header gives.
* `Header.toBytes_of_read` — a header that was read is written as it was.
* `Header.read_append_of_le` — a file is judged by its first 52 bytes.
* `Header.read_reports_first_fault` — all of this together.
-/

namespace RiscvListing

/-! ### Records that are read -/

namespace Bytes

variable {d : Bytes} {start : Nat}

theorem bytes_numberAt {width : Nat} (h : start + width ≤ d.size) :
    LittleEndian.bytes width (d.numberAt start width) =
      (d.extract start (start + width)).toList := by
  have hlength : (d.extract start (start + width)).toList.length = width := by
    rw [Array.length_toList, Array.size_extract]
    omega
  have hbytes := LittleEndian.bytes_value (d.extract start (start + width)).toList
  rwa [hlength] at hbytes

/-- A number of two bytes tells both of them. -/
theorem numberAt_two_eq_iff (h : start + 2 ≤ d.size) {low high : UInt8} :
    d.numberAt start 2 = low.toNat + 256 * high.toNat ↔
      d[start]? = some low ∧ d[start + 1]? = some high := by
  have hextract : (d.extract start (start + 2)).toList = [d[start], d[start + 1]] := by
    apply List.ext_getElem?
    intro i
    rw [Array.getElem?_toList, Array.getElem?_extract]
    rcases i with _ | _ | i
    · simp
      omega
    · simp
      omega
    · rw [if_neg (by omega)]
      rfl
  have hlow := d[start].toNat_lt
  have hlow' := low.toNat_lt
  rw [numberAt, hextract, Array.getElem?_eq_getElem (by omega),
    Array.getElem?_eq_getElem (by omega), Option.some.injEq, Option.some.injEq,
    ← UInt8.toNat_inj, ← UInt8.toNat_inj]
  simp only [LittleEndian.value]
  omega

end Bytes

namespace Layout

/-- The numbers of a record are written as the bytes that they were read from. -/
theorem pack_valuesAt {d : Bytes} {start : Nat} {layout : Layout}
    (h : start + layout.size ≤ d.size) :
    layout.pack (layout.valuesAt d start) = (d.extract start (start + layout.size)).toList := by
  induction layout generalizing start with
  | nil => simp [pack, size]
  | cons cell rest ih =>
    rw [size] at h
    have hmin : min start (start + cell.size) = start := by omega
    have hmax : max (start + cell.size) (start + cell.size + size rest) =
        start + (cell.size + size rest) := by omega
    rw [valuesAt, pack, Bytes.bytes_numberAt (by omega), ih (by omega), ← Array.toList_append,
      Array.extract_append_extract, hmin, hmax, size]

/-- The numbers of a record fit in its cells. -/
theorem fits_valuesAt (d : Bytes) (start : Nat) (layout : Layout) :
    layout.Fits (layout.valuesAt d start) := by
  induction layout generalizing start with
  | nil => exact .nil
  | cons cell rest ih => exact .cons (d.numberAt_lt start cell.size) (ih _)

end Layout

namespace Header

variable {d : Bytes} {h : Header}

/-! ### Requirements -/

/-- A condition on a file and the fault of a file that does not meet it. -/
structure Requirement where
  /-- Whether the file meets the condition. -/
  isMet : Bool
  /-- The fault if it does not. -/
  fault : Fault

/-- The fault of the first requirement that is not met. -/
def firstFault (requirements : List Requirement) : Option Fault :=
  (requirements.find? fun requirement => !requirement.isMet).map Requirement.fault

theorem firstFault_cons (requirement : Requirement) (rest : List Requirement) :
    firstFault (requirement :: rest) =
      if requirement.isMet then firstFault rest else some requirement.fault := by
  unfold firstFault
  rw [List.find?_cons]
  cases requirement.isMet <;> rfl

theorem firstFault_eq_none_iff {requirements : List Requirement} :
    firstFault requirements = none ↔ ∀ requirement ∈ requirements, requirement.isMet = true := by
  rw [firstFault, Option.map_eq_none_iff, List.find?_eq_none]
  simp

/-- What is asked of a file, in order. -/
def requirements (d : Bytes) : List Requirement := [
  -- The file begins with the magic bytes.
  ⟨d.extract 0 4 = #[0x7f, 0x45, 0x4c, 0x46], .illegalFile .elf⟩,
  -- It has all of its identifying bytes.
  ⟨16 ≤ d.size, .truncatedFile 0 16 d.size⟩,
  -- It is made for 32 bits, the least significant byte first.
  ⟨d[4]? = some 1, .illegalFile .class32⟩,
  ⟨d[5]? = some 1, .illegalFile .littleEndian⟩,
  -- It has all of its numbers.
  ⟨52 ≤ d.size, .truncatedFile 16 36 d.size⟩,
  -- The number in the two bytes at 18 is 0xf3.
  ⟨d[18]? = some 0xf3 ∧ d[19]? = some 0, .illegalFile .riscv⟩]

/-! ### The outcome of reading -/

theorem slice_identSize (d : Bytes) :
    d.slice 0 identSize =
      if 16 ≤ d.size then .ok (d.extract 0 16) else .error (.truncatedFile 0 16 d.size) := by
  have hiff : (0 ≤ (0 : Int) ∧ 0 ≤ (identSize : Int) ∧ 0 + (identSize : Int) ≤ d.size) ↔
      16 ≤ d.size := by
    simp only [identSize]
    omega
  rw [Bytes.slice, Bytes.require]
  by_cases hsize : 16 ≤ d.size
  · rw [if_pos (hiff.mpr hsize), if_pos hsize]
    rfl
  · rw [if_neg (mt hiff.mp hsize), if_neg hsize]
    rfl

theorem unpack_layout (d : Bytes) :
    d.unpack layout identSize =
      if 52 ≤ d.size then .ok (layout.valuesAt d 16)
      else .error (.truncatedFile 16 36 d.size) := by
  have hiff : (0 ≤ (identSize : Int) ∧ (identSize : Int) + layout.size ≤ d.size) ↔
      52 ≤ d.size := by
    simp only [identSize, show layout.size = 36 from rfl]
    omega
  rw [Bytes.unpack_eq]
  by_cases hsize : 52 ≤ d.size
  · rw [if_pos (hiff.mpr hsize), if_pos hsize]
    rfl
  · rw [if_neg (mt hiff.mp hsize), if_neg hsize]
    rfl

/-- The bytes that are checked lie among the identifying ones. -/
theorem checkIdentification_extract (hsize : 16 ≤ d.size) :
    checkIdentification (d.extract 0 16) = checkIdentification d := by
  have hmagic : (d.extract 0 16).extract 0 4 = d.extract 0 4 := by
    rw [Array.extract_extract]
    rfl
  have hget : ∀ i < 16, (d.extract 0 16)[i]? = d[i]? := by
    intro i hi
    rw [Array.getElem?_extract, if_pos (by omega), Nat.zero_add]
  rw [checkIdentification, hmagic, hget 4 (by decide), hget 5 (by decide), checkIdentification]

theorem machine_eq_riscv_iff (hsize : 52 ≤ d.size) (ident : Bytes) :
    (ofNumbers ident (layout.valuesAt d 16)).machine = riscv ↔
      d[18]? = some 0xf3 ∧ d[19]? = some 0 := by
  rw [← Bytes.numberAt_two_eq_iff (by omega)]
  change ((d.numberAt 18 2 : Nat) : Int) = 0xf3 ↔ d.numberAt 18 2 = 0xf3
  omega

/-- A file is refused with the fault of the first requirement that it does not meet, or else its
header is made of its first 16 bytes and the numbers behind them. -/
theorem read_eq (d : Bytes) :
    read d = (firstFault (requirements d)).elim
      (.ok (ofNumbers (d.extract 0 16) (layout.valuesAt d 16))) .error := by
  simp only [requirements, firstFault_cons, decide_eq_true_iff]
  by_cases hmagic : d.extract 0 4 = #[0x7f, 0x45, 0x4c, 0x46]
  swap
  · have hother : d.extract 0 4 ≠ magic := hmagic
    rw [read, if_pos hother, if_neg hmagic]
    rfl
  have hbegins : ¬d.extract 0 4 ≠ magic := not_not_intro hmagic
  rw [read, if_neg hbegins, if_pos hmagic, slice_identSize]
  by_cases hident : 16 ≤ d.size
  swap
  · rw [if_neg hident, if_neg hident]
    rfl
  rw [if_pos hident, if_pos hident, Fault.ok_bind, checkIdentification_extract hident]
  by_cases hclass : d[4]? = some 1
  swap
  · rw [checkIdentification, if_neg hbegins, if_pos hclass, if_neg hclass]
    rfl
  by_cases hdata : d[5]? = some 1
  swap
  · rw [checkIdentification, if_neg hbegins, if_neg (not_not_intro hclass), if_pos hdata,
      if_pos hclass, if_neg hdata]
    rfl
  have hchecked : checkIdentification d = .ok () := by
    rw [checkIdentification, if_neg hbegins, if_neg (not_not_intro hclass),
      if_neg (not_not_intro hdata)]
  rw [hchecked, Fault.ok_bind, unpack_layout, if_pos hclass, if_pos hdata]
  by_cases hnumbers : 52 ≤ d.size
  swap
  · rw [if_neg hnumbers, if_neg hnumbers]
    rfl
  rw [if_pos hnumbers, if_pos hnumbers, Fault.ok_bind]
  -- The identification is checked once more, as a part of the header.
  have hagain : checkIdentification (ofNumbers (d.extract 0 16) (layout.valuesAt d 16)).ident =
      .ok () := (checkIdentification_extract hident).trans hchecked
  have hmachine := machine_eq_riscv_iff hnumbers (d.extract 0 16)
  simp only [check, hagain, Fault.ok_bind]
  by_cases hriscv : d[18]? = some 0xf3 ∧ d[19]? = some 0
  · rw [if_neg (not_not_intro (hmachine.mpr hriscv)), if_pos hriscv]
    rfl
  · rw [if_pos (mt hmachine.mp hriscv), if_neg hriscv]
    rfl

/-! ### Headers that are read -/

theorem numbers_ofNumbers_valuesAt (ident d : Bytes) (start : Nat) :
    (ofNumbers ident (layout.valuesAt d start)).numbers = layout.valuesAt d start := by
  simp only [numbers, ofNumbers, layout, Layout.valuesAt, List.getD_cons_zero, List.getD_cons_succ,
    List.map_cons, List.map_nil, Int.toNat_natCast]

/-- The numbers of a header that was read fit in its cells. -/
theorem fits_ofNumbers_valuesAt (ident d : Bytes) (start : Nat) :
    (ofNumbers ident (layout.valuesAt d start)).Fits where
  nonneg := by
    intro n hn
    simp only [ofNumbers, List.mem_cons, List.not_mem_nil, or_false] at hn
    omega
  layout_fits := by
    rw [numbers_ofNumbers_valuesAt]
    exact Layout.fits_valuesAt d start layout

theorem read_eq_ok_iff :
    read d = .ok h ↔ firstFault (requirements d) = none ∧
      h = ofNumbers (d.extract 0 16) (layout.valuesAt d 16) := by
  rw [read_eq]
  cases firstFault (requirements d) with
  | none => simp [eq_comm]
  | some fault => simp

theorem le_size_of_firstFault (hnone : firstFault (requirements d) = none) : 52 ≤ d.size := by
  have hmet := firstFault_eq_none_iff.mp hnone ⟨52 ≤ d.size, .truncatedFile 16 36 d.size⟩
    (by simp [requirements])
  exact of_decide_eq_true hmet

/-- A header that was read is written as the bytes that it was read from. -/
theorem toBytes_of_read (hread : read d = .ok h) : h.toBytes = (d.extract 0 52).toList := by
  obtain ⟨hnone, rfl⟩ := read_eq_ok_iff.mp hread
  have hsize := le_size_of_firstFault hnone
  have hnumbers : layout.pack (layout.valuesAt d 16) = (d.extract 16 52).toList :=
    Layout.pack_valuesAt hsize
  have hjoined : d.extract 0 16 ++ d.extract 16 52 = d.extract 0 52 := Array.extract_append_extract
  rw [toBytes, numbers_ofNumbers_valuesAt, hnumbers, ← hjoined, Array.toList_append]
  rfl

/-! ### What the judgement depends on -/

/-- Bytes behind the first 52 have no influence, whether the file is accepted or refused. -/
theorem read_append_of_le (hsize : 52 ≤ d.size) (more : Bytes) : read (d ++ more) = read d := by
  have hlarge := Bytes.size_le_size_append d more
  have hmagic : (d ++ more).extract 0 4 = d.extract 0 4 := Bytes.extract_append_of_le (by omega)
  have hget : ∀ i < 52, (d ++ more)[i]? = d[i]? := by
    intro i hi
    exact Array.getElem?_append_left (by omega)
  have hfault : firstFault (requirements (d ++ more)) = firstFault (requirements d) := by
    simp only [requirements, firstFault_cons, decide_eq_true_iff, hmagic, hget 4 (by decide),
      hget 5 (by decide), hget 18 (by decide), hget 19 (by decide)]
    -- Neither file is too short, so that their sizes are not told.
    rw [if_pos (by omega : 16 ≤ (d ++ more).size), if_pos (by omega : 52 ≤ (d ++ more).size),
      if_pos (by omega : 16 ≤ d.size), if_pos hsize]
  have hnumbers : layout.valuesAt (d ++ more) 16 = layout.valuesAt d 16 :=
    Bytes.valuesAt_append hsize
  rw [read_eq, read_eq, hfault, hnumbers, Bytes.extract_append_of_le (by omega)]

/-- Files with the same first 52 bytes are judged alike. -/
theorem read_congr {d' : Bytes} (hsame : d'.extract 0 52 = d.extract 0 52) : read d' = read d := by
  have hsizes := congrArg Array.size hsame
  rw [Array.size_extract, Array.size_extract] at hsizes
  by_cases hsize : 52 ≤ d.size
  · -- Both files begin with the same 52 bytes.
    have hsplit : ∀ e : Bytes, 52 ≤ e.size → read e = read (e.extract 0 52) := by
      intro e he
      have hparts : e = e.extract 0 52 ++ e.extract 52 e.size := by
        rw [Array.extract_append_extract, Nat.min_eq_left (by decide), Nat.max_eq_right he,
          Array.extract_size]
      conv_lhs => rw [hparts]
      refine read_append_of_le ?_ _
      rw [Array.size_extract]
      omega
    rw [hsplit d' (by omega), hsplit d hsize, hsame]
  · -- Both files end before.
    rw [Array.extract_eq_self_of_le (by omega), Array.extract_eq_self_of_le (by omega)] at hsame
    rw [hsame]

/-- A file is refused exactly with the fault of the first requirement that it does not meet, and is
accepted exactly if it meets all of them. The header of an accepted file has 16 identifying bytes
and numbers that fit in their cells, and is written as the first 52 bytes of the file. Files that
agree in their first 52 bytes are judged alike. -/
theorem read_reports_first_fault (d : Bytes) :
    (∀ fault, read d = .error fault ↔ firstFault (requirements d) = some fault) ∧
    ((∃ h, read d = .ok h) ↔ ∀ requirement ∈ requirements d, requirement.isMet = true) ∧
    (∀ h, read d = .ok h →
      h.ident.size = 16 ∧ h.Fits ∧ h.toBytes = (d.extract 0 52).toList) ∧
    ∀ d' : Bytes, d'.extract 0 52 = d.extract 0 52 → read d' = read d := by
  refine ⟨?_, ?_, ?_, fun d' => read_congr⟩
  · intro fault
    rw [read_eq]
    cases firstFault (requirements d) <;> simp
  · rw [← firstFault_eq_none_iff]
    simp only [read_eq_ok_iff, exists_and_left, exists_eq, and_true]
  · intro h hread
    obtain ⟨hnone, rfl⟩ := read_eq_ok_iff.mp hread
    have hsize := le_size_of_firstFault hnone
    refine ⟨?_, fits_ofNumbers_valuesAt _ d 16, toBytes_of_read hread⟩
    change (d.extract 0 16).size = 16
    rw [Array.size_extract]
    omega

/-- The first 20 bytes of a file for another processor, which is not made for 32 bits. -/
def foreignStart : Bytes :=
  .mk [0x7f, 0x45, 0x4c, 0x46, 2, 1, 1, 0, 0, 0, 0, 0, 0, 0, 0, 0, 2, 0, 0x3e, 0]

/-- A header and nothing else. -/
def headerOnly : Bytes :=
  .mk ([0x7f, 0x45, 0x4c, 0x46, 1, 1] ++ List.replicate 12 0 ++ [0xf3, 0] ++ List.replicate 32 0xff)

/-- The file that is too short, for another processor and not made for 32 bits is refused for the
last of these. The header with nothing behind it is accepted, though its numbers lead nowhere. -/
theorem read_reports_first_fault_foreign :
    firstFault (requirements foreignStart) = some (.illegalFile .class32) ∧
      ∃ h, read headerOnly = .ok h ∧ h.toBytes = (headerOnly.extract 0 52).toList := by
  have hforeign : read foreignStart = .error (.illegalFile .class32) := by decide +kernel
  have hheader : ∀ requirement ∈ requirements headerOnly, requirement.isMet = true := by
    decide +kernel
  obtain ⟨h, hread⟩ := (read_reports_first_fault headerOnly).2.1.mpr hheader
  exact ⟨((read_reports_first_fault foreignStart).1 _).mp hforeign, h, hread,
    ((read_reports_first_fault headerOnly).2.2.1 h hread).2.2⟩

end Header

end RiscvListing
