import RiscvListing.Proofs.Image.Container

/-!
# Looking through section headers

Section headers are looked at one after the other, and the first one that satisfies a condition is
taken. A header that leaves the file breaks the scan off; where all headers lie inside the file, the
scan finds the first section that satisfies the condition or tells that there is none.

## Main definitions

* `Container.Scan` — the outcomes of a scan over section headers.
* `Container.IsSection`, `Container.IsFirstSection` — the section headers of a file, and the first
  of them that satisfies a condition.

## Main results

* `SectionHeader.read_eq` — when a section header is read.
* `Container.scan_scanSections` — what a scan over section headers finds.
* `Container.findSection_cases` — what is found in a file that holds all its section headers.
-/

namespace RiscvListing

/-! ### Reading headers -/

theorem Bytes.unpack_eq (d : Bytes) (layout : Layout) (offset : Int) :
    d.unpack layout offset =
      if 0 ≤ offset ∧ offset + layout.size ≤ d.size then .ok (layout.valuesAt d offset.toNat)
      else .error (.truncatedFile offset layout.size d.size) := by
  have hsize : (0 : Int) ≤ layout.size := Int.natCast_nonneg _
  unfold unpack require
  by_cases h : 0 ≤ offset ∧ offset + layout.size ≤ d.size
  · rw [if_pos ⟨h.1, hsize, h.2⟩, if_pos h]
    rfl
  · rw [if_neg (fun hall => h ⟨hall.1, hall.2.2⟩), if_neg h]
    rfl

/-- The numbers of a header are read from the file, so none of them is negative. -/
theorem Header.exists_eq_ofNumbers_of_read {d : Bytes} {h : Header} (hread : read d = .ok h) :
    ∃ ident numbers, h = ofNumbers ident numbers := by
  unfold read at hread
  split at hread
  · cases hread
  · simp only [Fault.bind_eq_ok_iff] at hread
    obtain ⟨ident, -, _, -, numbers, -, _, -, hh⟩ := hread
    exact ⟨ident, numbers, (Except.ok.inj hh).symm⟩

namespace SectionHeader

variable {d : Bytes} {offset : Int} {s : SectionHeader}

theorem read_eq (d : Bytes) (offset : Int) :
    read d offset =
      if 0 ≤ offset ∧ offset + stride ≤ d.size then
        .ok (ofNumbers offset (layout.valuesAt d offset.toNat))
      else .error (.truncatedFile offset stride d.size) := by
  have hstride : layout.size = stride := rfl
  rw [read, Bytes.unpack_eq, hstride]
  split <;> rfl

/-- The numbers of a section header are read from the file, so none of them is negative. -/
theorem exists_eq_ofNumbers_of_read (h : read d offset = .ok s) :
    ∃ numbers, s = ofNumbers offset numbers := by
  obtain ⟨numbers, -, hs⟩ := Fault.bind_eq_ok_iff.mp h
  exact ⟨numbers, (Except.ok.inj hs).symm⟩

theorem dataOffset_nonneg_of_read (h : read d offset = .ok s) : 0 ≤ s.dataOffset := by
  obtain ⟨numbers, rfl⟩ := exists_eq_ofNumbers_of_read h
  exact Int.natCast_nonneg _

theorem exists_read_of_le (h0 : 0 ≤ offset) (hle : offset + stride ≤ d.size) :
    ∃ s, read d offset = .ok s :=
  ⟨_, (read_eq d offset).trans (if_pos ⟨h0, hle⟩)⟩

/-- Number `i` of the section headers that follow each other from `offset` on. -/
def readNth (d : Bytes) (offset : Int) (i : Nat) : Except Fault SectionHeader :=
  read d (offset + stride * i)

theorem readNth_zero (d : Bytes) (offset : Int) : readNth d offset 0 = read d offset := by
  rw [readNth, Int.natCast_zero, Int.mul_zero, Int.add_zero]

theorem readNth_succ (d : Bytes) (offset : Int) (i : Nat) :
    readNth d offset (i + 1) = readNth d (offset + stride) i := by
  have hoffset : offset + (stride : Int) * (i + 1 : Nat) = offset + stride + stride * i := by
    simp only [stride]
    omega
  rw [readNth, readNth, hoffset]

end SectionHeader

namespace Container

open SectionHeader

/-! ### Scans over section headers -/

section Scan

variable {d : Bytes} {condition : SectionHeader → Bool} {count index : Nat} {offset : Int}
  {s : SectionHeader} {outcome : Except Fault (Option (Nat × SectionHeader))}

/-- Section header number `i` is there and does not satisfy the condition. -/
def IsPassed (d : Bytes) (condition : SectionHeader → Bool) (offset : Int) (i : Nat) : Prop :=
  ∃ s, readNth d offset i = .ok s ∧ condition s = false

/-- The outcomes of a scan over `count` section headers from `offset` on, the first of which has the
number `index`: the first one that satisfies the condition, none, or a header that leaves the
file. -/
inductive Scan (d : Bytes) (condition : SectionHeader → Bool) (count index : Nat) (offset : Int) :
    Except Fault (Option (Nat × SectionHeader)) → Prop
  | found {i : Nat} {s : SectionHeader} (hi : i < count) (hread : readNth d offset i = .ok s)
      (hs : condition s = true) (hbefore : ∀ j < i, IsPassed d condition offset j) :
      Scan d condition count index offset (.ok (some (index + i, s)))
  | missing (hall : ∀ j < count, IsPassed d condition offset j) :
      Scan d condition count index offset (.ok none)
  | broken {i : Nat} {fault : Fault} (hi : i < count) (hread : readNth d offset i = .error fault)
      (hbefore : ∀ j < i, IsPassed d condition offset j) :
      Scan d condition count index offset (.error fault)

/-- The headers up to number `i` are passed if the first one is and then those behind it. -/
theorem IsPassed.cons {i : Nat} (hfirst : IsPassed d condition offset 0)
    (hrest : ∀ j < i, IsPassed d condition (offset + stride) j) :
    ∀ j < i + 1, IsPassed d condition offset j := by
  rintro (_ | j) hj
  · exact hfirst
  · obtain ⟨t, hread, ht⟩ := hrest j (Nat.lt_of_succ_lt_succ hj)
    exact ⟨t, (readNth_succ d offset j).trans hread, ht⟩

/-- Behind a header that does not satisfy the condition the scan goes on. -/
theorem Scan.of_next (hfirst : IsPassed d condition offset 0)
    (h : Scan d condition count (index + 1) (offset + stride) outcome) :
    Scan d condition (count + 1) index offset outcome := by
  cases h with
  | @found i s hi hread hs hbefore =>
    have hnumber : index + 1 + i = index + (i + 1) := by omega
    rw [hnumber]
    exact .found (by omega) ((readNth_succ d offset i).trans hread) hs (.cons hfirst hbefore)
  | missing hall => exact .missing (.cons hfirst hall)
  | @broken i _ hi hread hbefore =>
    exact .broken (by omega) ((readNth_succ d offset i).trans hread) (.cons hfirst hbefore)

/-- A scan finds the first section header that satisfies the condition, if there is one in front of
the first header that leaves the file. -/
theorem scan_scanSections (d : Bytes) (condition : SectionHeader → Bool) (count index : Nat)
    (offset : Int) :
    Scan d condition count index offset (scanSections d condition count index offset) := by
  induction count generalizing index offset with
  | zero => exact .missing (fun j hj => absurd hj (Nat.not_lt_zero j))
  | succ count ih =>
    have hnone : ∀ j < 0, IsPassed d condition offset j :=
      fun j hj => absurd hj (Nat.not_lt_zero j)
    rw [scanSections]
    cases hread : SectionHeader.read d offset with
    | error fault => exact .broken (Nat.succ_pos _) ((readNth_zero d offset).trans hread) hnone
    | ok s =>
      have hzero : readNth d offset 0 = .ok s := (readNth_zero d offset).trans hread
      rw [Fault.ok_bind]
      by_cases hs : condition s = true
      · rw [if_pos hs]
        exact .found (Nat.succ_pos _) hzero hs hnone
      · rw [if_neg hs]
        exact .of_next ⟨s, hzero, Bool.eq_false_iff.mpr hs⟩ (ih _ _)

end Scan

/-! ### The first section of a kind -/

section First

variable {d : Bytes} {header : Header} {p : SectionHeader → Prop} {s t : SectionHeader}

/-- One of the section headers of a file. -/
def IsSection (d : Bytes) (header : Header) (s : SectionHeader) : Prop :=
  ∃ i < sectionCount d header, readNth d header.sectionOffset i = .ok s

/-- The first of the section headers of a file that satisfies `p`. -/
def IsFirstSection (d : Bytes) (header : Header) (p : SectionHeader → Prop)
    (s : SectionHeader) : Prop :=
  ∃ i < sectionCount d header, readNth d header.sectionOffset i = .ok s ∧ p s ∧
    ∀ j < i, ∀ t, readNth d header.sectionOffset j = .ok t → ¬p t

theorem IsFirstSection.isSection (h : IsFirstSection d header p s) : IsSection d header s := by
  obtain ⟨i, hi, hread, -⟩ := h
  exact ⟨i, hi, hread⟩

theorem IsFirstSection.holds (h : IsFirstSection d header p s) : p s := by
  obtain ⟨-, -, -, hs, -⟩ := h
  exact hs

/-- The first section that satisfies a condition is the first one that satisfies a stronger
condition, if it does. -/
theorem IsFirstSection.of_imp {q : SectionHeader → Prop} (h : IsFirstSection d header p s)
    (hs : q s) (himp : ∀ t, q t → p t) : IsFirstSection d header q s := by
  obtain ⟨i, hi, hread, -, hbefore⟩ := h
  exact ⟨i, hi, hread, hs, fun j hj t ht hq => hbefore j hj t ht (himp t hq)⟩

theorem IsFirstSection.unique (h : IsFirstSection d header p s) (h' : IsFirstSection d header p t) :
    s = t := by
  obtain ⟨i, -, hs, hps, hbefore⟩ := h
  obtain ⟨j, -, ht, hpt, hbefore'⟩ := h'
  rcases Nat.lt_trichotomy i j with hlt | rfl | hgt
  · exact absurd hps (hbefore' i hlt s hs)
  · exact Except.ok.inj (hs.symm.trans ht)
  · exact absurd hpt (hbefore j hgt t ht)

/-- Where all section headers lie inside the file, the first one that satisfies the condition is
found, or none satisfies it. -/
theorem findSection_cases (condition : SectionHeader → Bool) (name : String)
    (hinside : ∀ i < sectionCount d header, ∃ s, readNth d header.sectionOffset i = .ok s) :
    (∃ number s, findSection d header condition name = .ok (number, s) ∧
        IsFirstSection d header (condition · = true) s) ∨
      findSection d header condition name = .error (.missingSection name) ∧
        ∀ s, IsSection d header s → condition s = false := by
  have hscan := scan_scanSections d condition (sectionCount d header) 0 header.sectionOffset
  unfold findSection
  generalize scanSections d condition (sectionCount d header) 0 header.sectionOffset = outcome
    at hscan ⊢
  cases hscan with
  | @found i s hi hread hs hbefore =>
    refine .inl ⟨0 + i, s, rfl, i, hi, hread, hs, fun j hj t ht hcondition => ?_⟩
    obtain ⟨u, hu, hfalse⟩ := hbefore j hj
    rw [Except.ok.inj (hu.symm.trans ht), hcondition] at hfalse
    cases hfalse
  | missing hall =>
    refine .inr ⟨rfl, ?_⟩
    rintro s ⟨i, hi, hread⟩
    obtain ⟨t, ht, hfalse⟩ := hall i hi
    rwa [Except.ok.inj (ht.symm.trans hread)] at hfalse
  | @broken i fault hi hread hbefore =>
    -- No header leaves the file, so the scan is not broken off.
    obtain ⟨s, hs⟩ := hinside i hi
    rw [hread] at hs
    cases hs

end First

theorem outcome_locate (d : Bytes) (header : Header) (condition : SectionHeader → Bool)
    (name : String) :
    (locate d header condition name).outcome =
      (findSection d header condition name).map Prod.snd := by
  unfold locate
  simp only [Traced.outcome_bind, Traced.outcome_lift, Traced.outcome_note, Traced.outcome_pure]
  cases findSection d header condition name <;> rfl

theorem outcome_locateNamed (d : Bytes) (header : Header) (names : SectionHeader) (name : String) :
    (locateNamed d header names name).outcome = (do
      let record ← sectionRecord d names name
      (findSection d header (·.nameOffset = record) name).map Prod.snd) := by
  simp only [locateNamed, Traced.outcome_bind, Traced.outcome_lift, outcome_locate]

end Container

end RiscvListing
