import RiscvListing.Proofs.Image.SectionScan

/-!
# The outcome of a search among section headers

A search looks at the section headers in order and ends at the first one that satisfies its
condition or leaves the file. It has one outcome only: the section that is found, the report that
there is none, or the report of the header that leaves the file. Which of them it is can be told
from the places of the headers and from what their bytes say. The file header gives the number of
section headers; where it gives none, as many are looked at as fit, so that none of them leaves the
file.

## Main definitions

* `Container.IsInside`, `Container.nthSection` — where a section header lies and what its bytes say.

## Main results

* `Container.scanSections_eq_iff` — a scan has exactly one outcome.
* `Container.scan_found_iff`, `Container.scan_missing_iff`, `Container.scan_broken_iff` — when a
  scan finds a header, finds none and is broken off.
* `Container.outcome_locate_exact` — when a section is found, reported missing or cut off.
-/

namespace RiscvListing.Container

open SectionHeader

/-! ### One outcome -/

section Unique

variable {d : Bytes} {condition : SectionHeader → Bool} {count index : Nat} {offset : Int}
  {s : SectionHeader} {outcome : Except Fault (Option (Nat × SectionHeader))}

/-- Two places in front of which all headers are passed are the same if neither header is passed
itself. -/
theorem eq_of_isPassed {i j : Nat} (hi : ¬IsPassed d condition offset i)
    (hj : ¬IsPassed d condition offset j) (hbefore : ∀ k < i, IsPassed d condition offset k)
    (hbefore' : ∀ k < j, IsPassed d condition offset k) : i = j := by
  rcases Nat.lt_trichotomy i j with hlt | heq | hgt
  · exact absurd (hbefore' i hlt) hi
  · exact heq
  · exact absurd (hbefore j hgt) hj

theorem not_isPassed_of_holds {i : Nat} (hread : readNth d offset i = .ok s)
    (hs : condition s = true) : ¬IsPassed d condition offset i := by
  rintro ⟨t, ht, hfalse⟩
  rw [Except.ok.inj (ht.symm.trans hread), hs] at hfalse
  cases hfalse

theorem not_isPassed_of_error {i : Nat} {fault : Fault}
    (hread : readNth d offset i = .error fault) : ¬IsPassed d condition offset i := by
  rintro ⟨t, ht, -⟩
  rw [hread] at ht
  cases ht

/-- A scan has one outcome: it ends at the first header that is not passed. -/
theorem Scan.unique {other : Except Fault (Option (Nat × SectionHeader))}
    (h : Scan d condition count index offset outcome)
    (h' : Scan d condition count index offset other) : outcome = other := by
  -- Each outcome but the second one comes with the number of a header that is not passed, while all
  -- headers in front of it are.
  cases h with
  | @found i s hi hread hs hbefore =>
    have hstop := not_isPassed_of_holds hread hs
    cases h' with
    | @found j t hj hread' ht hbefore' =>
      obtain rfl := eq_of_isPassed hstop (not_isPassed_of_holds hread' ht) hbefore hbefore'
      rw [Except.ok.inj (hread.symm.trans hread')]
    | missing hall => exact absurd (hall i hi) hstop
    | @broken j fault hj hread' hbefore' =>
      obtain rfl := eq_of_isPassed hstop (not_isPassed_of_error hread') hbefore hbefore'
      rw [hread] at hread'
      cases hread'
  | missing hall =>
    cases h' with
    | @found j t hj hread' ht hbefore' => exact absurd (hall j hj) (not_isPassed_of_holds hread' ht)
    | missing _ => rfl
    | @broken j fault hj hread' hbefore' => exact absurd (hall j hj) (not_isPassed_of_error hread')
  | @broken i fault hi hread hbefore =>
    have hstop : ¬IsPassed d condition offset i := not_isPassed_of_error hread
    cases h' with
    | @found j t hj hread' ht hbefore' =>
      obtain rfl := eq_of_isPassed hstop (not_isPassed_of_holds hread' ht) hbefore hbefore'
      rw [hread] at hread'
      cases hread'
    | missing hall => exact absurd (hall i hi) hstop
    | @broken j fault' hj hread' hbefore' =>
      obtain rfl := eq_of_isPassed hstop (not_isPassed_of_error hread') hbefore hbefore'
      rw [Except.error.inj (hread.symm.trans hread')]

theorem scanSections_eq_iff :
    scanSections d condition count index offset = outcome ↔
      Scan d condition count index offset outcome := by
  constructor
  · rintro rfl
    exact scan_scanSections d condition count index offset
  · intro h
    exact (scan_scanSections d condition count index offset).unique h

end Unique

/-! ### What a search for a section comes to -/

section Exact

variable {d : Bytes} {header : Header} {condition : SectionHeader → Bool} {name : String}

/-- Section header number `i` lies inside the file. -/
def IsInside (d : Bytes) (header : Header) (i : Nat) : Prop :=
  header.sectionOffset + 40 * i + 40 ≤ d.size

instance (d : Bytes) (header : Header) (i : Nat) : Decidable (IsInside d header i) :=
  inferInstanceAs (Decidable (_ ≤ _))

/-- Section header number `i`, as its bytes give it. -/
def nthSection (d : Bytes) (header : Header) (i : Nat) : SectionHeader :=
  ofNumbers (header.sectionOffset + 40 * i)
    (layout.valuesAt d (header.sectionOffset + 40 * i).toNat)

/-- Section headers that follow each other have different places. -/
theorem nthSection_injective {i j : Nat} (h : nthSection d header i = nthSection d header j) :
    i = j := by
  have hoffset : header.sectionOffset + 40 * (i : Int) = header.sectionOffset + 40 * j :=
    congrArg SectionHeader.offset h
  omega

theorem readNth_eq (hoffset : 0 ≤ header.sectionOffset) (i : Nat) :
    readNth d header.sectionOffset i =
      if IsInside d header i then .ok (nthSection d header i)
      else .error (.truncatedFile (header.sectionOffset + 40 * i) 40 d.size) := by
  have hplace : 0 ≤ header.sectionOffset + 40 * (i : Int) := by omega
  have hread := read_eq d (header.sectionOffset + 40 * i)
  simp only [hplace, true_and] at hread
  exact hread

theorem readNth_eq_ok_iff (hoffset : 0 ≤ header.sectionOffset) {i : Nat} {s : SectionHeader} :
    readNth d header.sectionOffset i = .ok s ↔ IsInside d header i ∧ s = nthSection d header i := by
  rw [readNth_eq hoffset]
  split
  · rename_i hinside
    rw [Except.ok.injEq, eq_comm]
    exact (and_iff_right hinside).symm
  · rename_i houtside
    constructor
    · intro h
      cases h
    · rintro ⟨hinside, -⟩
      exact absurd hinside houtside

theorem readNth_eq_error_iff (hoffset : 0 ≤ header.sectionOffset) {i : Nat} {fault : Fault} :
    readNth d header.sectionOffset i = .error fault ↔ ¬IsInside d header i ∧
      fault = .truncatedFile (header.sectionOffset + 40 * i) 40 d.size := by
  rw [readNth_eq hoffset]
  split
  · rename_i hinside
    constructor
    · intro h
      cases h
    · rintro ⟨houtside, -⟩
      exact absurd hinside houtside
  · rename_i houtside
    rw [Except.error.injEq, eq_comm]
    exact (and_iff_right houtside).symm

theorem isPassed_iff (hoffset : 0 ≤ header.sectionOffset) {i : Nat} :
    IsPassed d condition header.sectionOffset i ↔
      IsInside d header i ∧ condition (nthSection d header i) = false := by
  constructor
  · rintro ⟨s, hread, hs⟩
    obtain ⟨hinside, rfl⟩ := (readNth_eq_ok_iff hoffset).mp hread
    exact ⟨hinside, hs⟩
  · rintro ⟨hinside, hs⟩
    exact ⟨_, (readNth_eq_ok_iff hoffset).mpr ⟨hinside, rfl⟩, hs⟩

/-- A section is found if the scan finds it. -/
theorem outcome_locate_eq_ok_iff_scan {s : SectionHeader} :
    (locate d header condition name).outcome = .ok s ↔
      ∃ number, Scan d condition (sectionCount d header) 0 header.sectionOffset
        (.ok (some (number, s))) := by
  simp only [← scanSections_eq_iff]
  rw [outcome_locate, findSection]
  rcases scanSections d condition (sectionCount d header) 0 header.sectionOffset with
    fault | (_ | ⟨number, t⟩)
  · constructor
    · intro h
      cases h
    · rintro ⟨_, h⟩
      cases h
  · constructor
    · intro h
      cases h
    · rintro ⟨_, h⟩
      cases h
  · constructor
    · intro h
      cases h
      exact ⟨number, rfl⟩
    · rintro ⟨_, h⟩
      cases h
      rfl

/-- A search fails if its scan is broken off, or comes to an end and finds nothing. -/
theorem outcome_locate_eq_error_iff_scan {fault : Fault} :
    (locate d header condition name).outcome = .error fault ↔
      Scan d condition (sectionCount d header) 0 header.sectionOffset (.error fault) ∨
        fault = .missingSection name ∧
          Scan d condition (sectionCount d header) 0 header.sectionOffset (.ok none) := by
  simp only [← scanSections_eq_iff]
  rw [outcome_locate, findSection]
  rcases scanSections d condition (sectionCount d header) 0 header.sectionOffset with
    other | (_ | ⟨number, t⟩)
  · constructor
    · intro h
      cases h
      exact .inl rfl
    · rintro (h | ⟨-, h⟩)
      · cases h
        rfl
      · cases h
  · constructor
    · intro h
      cases h
      exact .inr ⟨rfl, rfl⟩
    · rintro (h | ⟨rfl, -⟩)
      · cases h
      · rfl
  · constructor
    · intro h
      cases h
    · rintro (h | ⟨-, h⟩)
      · cases h
      · cases h

/-- The scan finds number `i` if it is the first one that satisfies the condition and all headers up
to it lie inside the file. -/
theorem scan_found_iff (hoffset : 0 ≤ header.sectionOffset) {count number : Nat}
    {s : SectionHeader} :
    Scan d condition count 0 header.sectionOffset (.ok (some (number, s))) ↔
      s = nthSection d header number ∧ number < count ∧ condition s = true ∧
        (∀ j < number, condition (nthSection d header j) = false) ∧
        ∀ j ≤ number, IsInside d header j := by
  constructor
  · intro h
    generalize houtcome : Except.ok (some (number, s)) = outcome at h
    cases h with
    | @found i t hi hread ht hbefore =>
      rw [Except.ok.injEq, Option.some.injEq, Prod.mk.injEq, Nat.zero_add] at houtcome
      obtain ⟨rfl, rfl⟩ := houtcome
      obtain ⟨hinside, hs⟩ := (readNth_eq_ok_iff hoffset).mp hread
      refine ⟨hs, hi, ht, fun j hj => ((isPassed_iff hoffset).mp (hbefore j hj)).2, fun j hj => ?_⟩
      rcases Nat.eq_or_lt_of_le hj with rfl | hlt
      · exact hinside
      · exact ((isPassed_iff hoffset).mp (hbefore j hlt)).1
    | missing => cases houtcome
    | broken => cases houtcome
  · rintro ⟨rfl, hi, hs, hbefore, hinside⟩
    have hread := (readNth_eq_ok_iff hoffset).mpr ⟨hinside number (Nat.le_refl _), rfl⟩
    have hfound : Scan d condition count 0 header.sectionOffset
        (.ok (some (0 + number, nthSection d header number))) := .found hi hread hs fun j hj =>
      (isPassed_iff hoffset).mpr ⟨hinside j (Nat.le_of_lt hj), hbefore j hj⟩
    rwa [Nat.zero_add] at hfound

theorem scan_missing_iff (hoffset : 0 ≤ header.sectionOffset) {count : Nat} :
    Scan d condition count 0 header.sectionOffset (.ok none) ↔
      (∀ j < count, IsInside d header j) ∧
        ∀ j < count, condition (nthSection d header j) = false := by
  constructor
  · intro h
    cases h with
    | missing hall =>
      exact ⟨fun j hj => ((isPassed_iff hoffset).mp (hall j hj)).1,
        fun j hj => ((isPassed_iff hoffset).mp (hall j hj)).2⟩
  · rintro ⟨hinside, hnone⟩
    exact .missing fun j hj => (isPassed_iff hoffset).mpr ⟨hinside j hj, hnone j hj⟩

/-- The scan is broken off by the first header that leaves the file. -/
theorem scan_broken_iff (hoffset : 0 ≤ header.sectionOffset) {count : Nat} {fault : Fault} :
    Scan d condition count 0 header.sectionOffset (.error fault) ↔
      ∃ i < count, fault = .truncatedFile (header.sectionOffset + 40 * i) 40 d.size ∧
        ¬IsInside d header i ∧ (∀ j < i, IsInside d header j) ∧
        ∀ j < i, condition (nthSection d header j) = false := by
  constructor
  · intro h
    cases h with
    | @broken i _ hi hread hbefore =>
      obtain ⟨houtside, hfault⟩ := (readNth_eq_error_iff hoffset).mp hread
      exact ⟨i, hi, hfault, houtside, fun j hj => ((isPassed_iff hoffset).mp (hbefore j hj)).1,
        fun j hj => ((isPassed_iff hoffset).mp (hbefore j hj)).2⟩
  · rintro ⟨i, hi, hfault, houtside, hinside, hnone⟩
    exact .broken hi ((readNth_eq_error_iff hoffset).mpr ⟨houtside, hfault⟩) fun j hj =>
      (isPassed_iff hoffset).mpr ⟨hinside j hj, hnone j hj⟩

/-- How many section headers are looked at. -/
theorem sectionCount_eq (hread : Header.read d = .ok header) :
    (sectionCount d header : Int) =
      if header.sectionCount ≠ 0 then header.sectionCount
      else max 0 ((d.size - header.sectionOffset) / 40) := by
  obtain ⟨ident, numbers, rfl⟩ := Header.exists_eq_ofNumbers_of_read hread
  rw [sectionCount]
  split
  · exact Int.toNat_of_nonneg (Int.natCast_nonneg _)
  · rw [Int.toNat_eq_max, Int.max_comm]
    rfl

/-- Where the number of section headers is counted from the size of the file, they lie inside. -/
theorem isInside_of_sectionCount_eq_zero (hzero : header.sectionCount = 0) {i : Nat}
    (hi : i < sectionCount d header) : IsInside d header i := by
  rw [sectionCount, if_neg (not_not_intro hzero), stride] at hi
  rw [IsInside]
  omega

/-- Section headers are looked at in order, as many as the file header gives or, where it gives
none, as fit in the file. A section is found exactly if it is the first one that satisfies the
condition and no header up to it leaves the file. It is missing exactly if all headers lie inside
the file and none satisfies the condition. Otherwise the first header that leaves the file is
reported, which cannot happen if the headers are counted from the size of the file. -/
theorem outcome_locate_exact (d : Bytes) (header : Header) (condition : SectionHeader → Bool)
    (name : String) (hread : Header.read d = .ok header) :
    (sectionCount d header : Int) =
        (if header.sectionCount ≠ 0 then header.sectionCount
          else max 0 ((d.size - header.sectionOffset) / 40)) ∧
      (∀ i, IsInside d header i →
        SectionHeader.read d (header.sectionOffset + 40 * i) = .ok (nthSection d header i)) ∧
      (∀ i, (locate d header condition name).outcome = .ok (nthSection d header i) ↔
        i < sectionCount d header ∧ condition (nthSection d header i) = true ∧
          (∀ j < i, condition (nthSection d header j) = false) ∧ ∀ j ≤ i, IsInside d header j) ∧
      ((locate d header condition name).outcome = .error (.missingSection name) ↔
        (∀ j < sectionCount d header, IsInside d header j) ∧
          ∀ j < sectionCount d header, condition (nthSection d header j) = false) ∧
      (∀ i : Nat, (locate d header condition name).outcome =
          .error (.truncatedFile (header.sectionOffset + 40 * i) 40 d.size) ↔
        i < sectionCount d header ∧ ¬IsInside d header i ∧ (∀ j < i, IsInside d header j) ∧
          ∀ j < i, condition (nthSection d header j) = false) ∧
      ((∃ i, (locate d header condition name).outcome = .ok (nthSection d header i)) ∨
        (locate d header condition name).outcome = .error (.missingSection name) ∨
        ∃ i : Nat, (locate d header condition name).outcome =
          .error (.truncatedFile (header.sectionOffset + 40 * i) 40 d.size)) ∧
      (header.sectionCount = 0 → ∀ offset size length,
        (locate d header condition name).outcome ≠ .error (.truncatedFile offset size length)) := by
  have hoffset : 0 ≤ header.sectionOffset := by
    obtain ⟨ident, numbers, rfl⟩ := Header.exists_eq_ofNumbers_of_read hread
    exact Int.natCast_nonneg _
  refine ⟨sectionCount_eq hread,
    fun i hinside => (readNth_eq_ok_iff hoffset).mpr ⟨hinside, rfl⟩, fun i => ?_, ?_, fun i => ?_,
    ?_, ?_⟩
  · simp only [outcome_locate_eq_ok_iff_scan, scan_found_iff hoffset]
    constructor
    · -- A header remembers its place, so it is found under its own number only.
      rintro ⟨number, hsame, hrest⟩
      obtain rfl := nthSection_injective hsame
      exact hrest
    · intro h
      exact ⟨i, rfl, h⟩
  · rw [outcome_locate_eq_error_iff_scan, scan_broken_iff hoffset, scan_missing_iff hoffset]
    constructor
    · rintro (⟨i, -, hfault, -⟩ | ⟨-, h⟩)
      · cases hfault
      · exact h
    · intro h
      exact .inr ⟨rfl, h⟩
  · rw [outcome_locate_eq_error_iff_scan, scan_broken_iff hoffset]
    constructor
    · rintro (⟨j, hj, hfault, hrest⟩ | ⟨hfault, -⟩)
      · -- The place in the report tells the number of the header.
        obtain rfl : i = j := by
          rw [Fault.truncatedFile.injEq] at hfault
          omega
        exact ⟨hj, hrest⟩
      · cases hfault
    · rintro ⟨hi, hrest⟩
      exact .inl ⟨i, hi, rfl, hrest⟩
  · -- The scan has an outcome, and each of its outcomes is one of the three.
    cases houtcome : (locate d header condition name).outcome with
    | ok s =>
      obtain ⟨number, hscan⟩ := outcome_locate_eq_ok_iff_scan.mp houtcome
      exact .inl ⟨number, congrArg Except.ok ((scan_found_iff hoffset).mp hscan).1⟩
    | error fault =>
      rcases outcome_locate_eq_error_iff_scan.mp houtcome with hscan | ⟨rfl, -⟩
      · obtain ⟨i, -, rfl, -⟩ := (scan_broken_iff hoffset).mp hscan
        exact .inr (.inr ⟨i, rfl⟩)
      · exact .inr (.inl rfl)
  · -- The headers that were counted all lie inside the file.
    intro hzero offset size length houtcome
    rcases outcome_locate_eq_error_iff_scan.mp houtcome with hscan | ⟨hfault, -⟩
    · obtain ⟨i, hi, -, houtside, -⟩ := (scan_broken_iff hoffset).mp hscan
      exact houtside (isInside_of_sectionCount_eq_zero hzero hi)
    · cases hfault

/-- The header of a file that has nothing else. Its section headers begin at its byte 12, so that
the first of them ends with the file. -/
def folded (sectionCount : Int) : Header where
  ident := Header.magic ++ #[1, 1] ++ Array.replicate 10 0
  machine := Header.riscv
  sectionOffset := 12
  sectionCount := sectionCount

/-- Two section headers are one too many, and the second one is reported with the place where the
file ends. Where the number is left out, the first one is the only one. -/
theorem outcome_locate_exact_folded :
    Header.read (folded 2).toBytes.toArray = .ok (folded 2) ∧
      (locate (folded 2).toBytes.toArray (folded 2) (·.type = symbolTableType)
        symbolsName).outcome = .error (.truncatedFile 52 40 52) ∧
      Header.read (folded 0).toBytes.toArray = .ok (folded 0) ∧
      (locate (folded 0).toBytes.toArray (folded 0) (·.type = symbolTableType)
        symbolsName).outcome = .error (.missingSection symbolsName) := by
  have htwo : Header.read (folded 2).toBytes.toArray = .ok (folded 2) := by decide +kernel
  have hnone : Header.read (folded 0).toBytes.toArray = .ok (folded 0) := by decide +kernel
  refine ⟨htwo, ?_, hnone, ?_⟩
  · refine ((outcome_locate_exact _ _ _ _ htwo).2.2.2.2.1 1).mpr ⟨?_, ?_, ?_, ?_⟩
    all_goals decide +kernel
  · refine (outcome_locate_exact _ _ _ _ hnone).2.2.2.1.mpr ⟨?_, ?_⟩
    all_goals decide +kernel

end Exact

end RiscvListing.Container
