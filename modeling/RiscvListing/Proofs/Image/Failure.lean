import RiscvListing.Proofs.Image.SectionName

/-!
# How reading an image fails

The numbers that decide what is read come from the image itself, and none of them is negative. A
read that fails therefore leaves the file at its end and never at its start, no division is by zero,
and a search for a section ends with a section, with its name or with the end of the file.

## Main definitions

* `Fault.FailsOnly` — a computation fails with certain faults only.
* `Bytes.IsOverrun` — the fault of a read that goes beyond the end of a file.
* `Container.IsExplained` — the faults that an image can give rise to.

## Main results

* `Container.failsOnly_read` — reading a container fails with these faults only.
* `Container.Of.failsOnly_codeWords` — so does reading its words of code.
-/

namespace RiscvListing

/-! ### Computations that fail -/

namespace Fault

variable {α β : Type} {first : Except Fault α} {next : α → Except Fault β} {P Q : Fault → Prop}

/-- Every fault that the computation can end with satisfies `P`. -/
def FailsOnly (first : Except Fault α) (P : Fault → Prop) : Prop :=
  ∀ fault, first = .error fault → P fault

theorem failsOnly_ok (value : α) : FailsOnly (.ok value) P := by
  intro fault h
  cases h

theorem failsOnly_error {fault : Fault} (h : P fault) :
    FailsOnly (.error fault : Except Fault α) P := by
  intro other hother
  exact Except.error.inj hother ▸ h

/-- A sequence fails with the faults of its parts; the second part may use what the first one
gave. -/
theorem FailsOnly.bind (h : FailsOnly first P)
    (hnext : ∀ value, first = .ok value → FailsOnly (next value) P) :
    FailsOnly (first >>= next) P := by
  intro fault hfault
  cases hfirst : first with
  | error other =>
    rw [hfirst] at hfault
    exact h fault (hfirst.trans (congrArg Except.error (Except.error.inj hfault)))
  | ok value =>
    rw [hfirst, ok_bind] at hfault
    exact hnext value hfirst fault hfault

theorem FailsOnly.map (h : FailsOnly first P) (f : α → β) : FailsOnly (first.map f) P := by
  intro fault hfault
  cases first with
  | error other => exact h fault (congrArg Except.error (Except.error.inj hfault))
  | ok value => cases hfault

theorem FailsOnly.mono (h : FailsOnly first P) (himp : ∀ fault, P fault → Q fault) :
    FailsOnly first Q :=
  fun fault hfault => himp fault (h fault hfault)

end Fault

open Fault

/-! ### Reads -/

namespace Bytes

variable {d : Bytes} {offset size : Int}

/-- The fault of a read at an offset that is not negative and that goes beyond the end of the
file. -/
inductive IsOverrun (d : Bytes) : Fault → Prop
  | intro {offset size : Int} (h0 : 0 ≤ offset) (hlt : d.size < offset + size) :
      IsOverrun d (.truncatedFile offset size d.size)

theorem failsOnly_require (h0 : 0 ≤ offset) (hsize : 0 ≤ size) :
    FailsOnly (d.require offset size) d.IsOverrun := by
  unfold require
  split
  · exact failsOnly_ok _
  · exact failsOnly_error (.intro h0 (by omega))

theorem failsOnly_slice (h0 : 0 ≤ offset) (hsize : 0 ≤ size) :
    FailsOnly (d.slice offset size) d.IsOverrun :=
  .bind (failsOnly_require h0 hsize) fun _ _ => failsOnly_ok _

theorem failsOnly_unpack (layout : Layout) (h0 : 0 ≤ offset) :
    FailsOnly (d.unpack layout offset) d.IsOverrun :=
  .bind (failsOnly_require h0 (Int.natCast_nonneg _)) fun _ _ => failsOnly_ok _

/-- Words that a record can hold are read, or the file ends before the last of them does. -/
theorem failsOnly_words {count : Int} (h0 : 0 ≤ offset) (hcount : 4 * count ≤ recordLimit) :
    FailsOnly (d.words offset count) d.IsOverrun := by
  unfold words
  split
  · exact failsOnly_ok _
  · rw [requireRecord_eq_require d offset hcount]
    exact .bind (failsOnly_require h0 (by omega)) fun _ _ => failsOnly_ok _

end Bytes

theorem SectionHeader.failsOnly_read {d : Bytes} {offset : Int} (h0 : 0 ≤ offset) :
    FailsOnly (read d offset) d.IsOverrun :=
  .bind (Bytes.failsOnly_unpack layout h0) fun _ _ => failsOnly_ok _

theorem StringCursor.failsOnly_read {d : Bytes} {c : StringCursor} (h0 : 0 ≤ c.position) :
    FailsOnly (c.read d).1 d.IsOverrun := by
  obtain ⟨start, hstart⟩ := Int.eq_ofNat_of_zero_le h0
  cases hzero : d.zeroFrom? start with
  | none =>
    rw [read_of_zeroFrom?_eq_none hstart hzero]
    exact failsOnly_error (.intro (Int.natCast_nonneg _) (by omega))
  | some stop =>
    rw [read_of_zeroFrom? hstart hzero]
    exact failsOnly_ok _

/-! ### Symbols -/

theorem Symbol.failsOnly_read {d : Bytes} {offset strings : Int} (hoffset : 0 ≤ offset)
    (hstrings : 0 ≤ strings) : FailsOnly (read d offset strings) d.IsOverrun := by
  refine .bind (Bytes.failsOnly_unpack layout hoffset) fun numbers _ => ?_
  refine .bind (StringCursor.failsOnly_read ?_) fun _ _ => failsOnly_ok _
  exact Int.add_nonneg (Int.add_nonneg hstrings (Int.natCast_nonneg _)) le_rfl

theorem SymbolTable.failsOnly_readEntries {d : Bytes} {strings offset : Int} (count : Nat)
    (hoffset : 0 ≤ offset) (hstrings : 0 ≤ strings) :
    FailsOnly (readEntries d strings count offset) d.IsOverrun := by
  induction count generalizing offset with
  | zero => exact failsOnly_ok _
  | succ count ih =>
    refine .bind (Symbol.failsOnly_read hoffset hstrings) fun _ _ => ?_
    exact .bind (ih (by omega)) fun _ _ => failsOnly_ok _

/-! ### Containers -/

namespace Container

variable {d : Bytes} {header : Header} {names : SectionHeader}

/-- The faults that an image can give rise to: it does not meet a criterion of its header, one of
three sections is missing, the symbols cannot be told apart, or it ends too early. -/
inductive IsExplained (d : Bytes) : Fault → Prop
  | illegal {criterion : Criterion} (h : criterion ≠ .size) : IsExplained d (.illegalFile criterion)
  | missing {name : String} (h : name ∈ [codeName, symbolNamesName, symbolsName]) :
      IsExplained d (.missingSection name)
  | malformed (reason : String) : IsExplained d (.malformedSection symbolsName reason)
  | overrun {fault : Fault} (h : d.IsOverrun fault) : IsExplained d fault

theorem failsOnly_checkIdentification (ident : Bytes) :
    FailsOnly (Header.checkIdentification ident) (IsExplained d) := by
  unfold Header.checkIdentification
  split
  · exact failsOnly_error (.illegal (by decide))
  split
  · exact failsOnly_error (.illegal (by decide))
  split
  · exact failsOnly_error (.illegal (by decide))
  · exact failsOnly_ok _

theorem failsOnly_readHeader (d : Bytes) : FailsOnly (Header.read d) (IsExplained d) := by
  unfold Header.read
  split
  · exact failsOnly_error (.illegal (by decide))
  refine .bind ((Bytes.failsOnly_slice le_rfl (Int.natCast_nonneg _)).mono fun _ => .overrun)
    fun ident _ => ?_
  refine .bind (failsOnly_checkIdentification ident) fun _ _ => ?_
  refine .bind ((Bytes.failsOnly_unpack _ (Int.natCast_nonneg _)).mono fun _ => .overrun)
    fun numbers _ => ?_
  refine .bind (.bind (failsOnly_checkIdentification _) fun _ _ => ?_) fun _ _ => failsOnly_ok _
  split
  · exact failsOnly_error (.illegal (by decide))
  · exact failsOnly_ok _

theorem failsOnly_findSection (condition : SectionHeader → Bool) {name : String}
    (h0 : 0 ≤ header.sectionOffset) (hname : name ∈ [codeName, symbolNamesName, symbolsName]) :
    FailsOnly (findSection d header condition name) (IsExplained d) := by
  have hscan := scan_scanSections d condition (sectionCount d header) 0 header.sectionOffset
  refine .bind (fun fault hfault => ?_) fun found _ => ?_
  · -- A scan that fails has come to a header that leaves the file.
    rw [hfault] at hscan
    cases hscan with
    | @broken i _ hi hread hbefore =>
      have hoffset : 0 ≤ header.sectionOffset + SectionHeader.stride * i := by
        simp only [SectionHeader.stride]
        omega
      exact .overrun (SectionHeader.failsOnly_read hoffset fault hread)
  · cases found with
    | none => exact failsOnly_error (.missing hname)
    | some found => exact failsOnly_ok _

theorem failsOnly_locate (condition : SectionHeader → Bool) {name : String}
    (h0 : 0 ≤ header.sectionOffset) (hname : name ∈ [codeName, symbolNamesName, symbolsName]) :
    FailsOnly (locate d header condition name).outcome (IsExplained d) := by
  rw [outcome_locate]
  exact (failsOnly_findSection condition h0 hname).map _

theorem failsOnly_locateNamed {name : String} (h0 : 0 ≤ header.sectionOffset)
    (hdata : 0 ≤ names.dataOffset) (hlatin : IsLatin name)
    (hname : name ∈ [codeName, symbolNamesName, symbolsName]) :
    FailsOnly (locateNamed d header names name).outcome (IsExplained d) := by
  rw [outcome_locateNamed]
  refine .bind (fun fault hfault => ?_) fun record _ => (failsOnly_findSection _ h0 hname).map _
  rcases sectionRecord_cases hdata hlatin with
    ⟨r, hrecord, -⟩ | ⟨-, ⟨hrecord, -⟩ | ⟨hrecord, -⟩⟩
  · rw [hrecord] at hfault
    cases hfault
  · rw [hrecord] at hfault
    exact Except.error.inj hfault ▸ .missing hname
  · rw [hrecord] at hfault
    exact Except.error.inj hfault ▸ .overrun (.intro (Int.natCast_nonneg _) (by omega))

theorem dataOffset_nonneg_of_locate {condition : SectionHeader → Bool} {name : String}
    {s : SectionHeader} (h : (locate d header condition name).outcome = .ok s) :
    0 ≤ s.dataOffset := by
  obtain ⟨number, hfind⟩ := outcome_locate_eq_ok_iff.mp h
  obtain ⟨place, hread⟩ := exists_read_of_findSection hfind
  exact SectionHeader.dataOffset_nonneg_of_read hread

theorem dataOffset_nonneg_of_locateNamed {name : String} {s : SectionHeader}
    (h : (locateNamed d header names name).outcome = .ok s) : 0 ≤ s.dataOffset := by
  obtain ⟨record, number, -, hfind⟩ := outcome_locateNamed_eq_ok_iff.mp h
  exact dataOffset_nonneg_of_locate (outcome_locate_eq_ok_iff.mpr ⟨number, hfind⟩)

theorem failsOnly_readSymbols {symbols symbolNames : SectionHeader}
    (hsymbols : 0 ≤ symbols.dataOffset) (hnames : 0 ≤ symbolNames.dataOffset) :
    FailsOnly (readSymbols d symbols symbolNames) (IsExplained d) := by
  unfold readSymbols
  split
  · exact failsOnly_error (.malformed _)
  · -- The size of a record is not zero, so the number of records is a quotient.
    refine .bind ?_ fun _ _ => failsOnly_ok _
    exact (SymbolTable.failsOnly_readEntries _ hsymbols hnames).mono fun _ => .overrun

/-- Whatever the image holds, a container is read from it, or one of the explained faults arises. -/
theorem failsOnly_read (d : Bytes) : FailsOnly (read d).outcome (IsExplained d) := by
  unfold read
  simp only [Traced.outcome_bind, Traced.outcome_lift, Traced.outcome_note, Fault.ok_bind]
  refine .bind (failsOnly_readHeader d) fun header hheader => ?_
  -- Sums and products of numbers from the header are not negative either.
  obtain ⟨ident, numbers, rfl⟩ := Header.exists_eq_ofNumbers_of_read hheader
  have hsections : 0 ≤ (Header.ofNumbers ident numbers).sectionOffset := Int.natCast_nonneg _
  have hplace : 0 ≤ (Header.ofNumbers ident numbers).sectionOffset +
      (Header.ofNumbers ident numbers).sectionEntrySize *
        (Header.ofNumbers ident numbers).nameSection :=
    Int.add_nonneg hsections (Int.mul_nonneg (Int.natCast_nonneg _) (Int.natCast_nonneg _))
  refine .bind ((SectionHeader.failsOnly_read hplace).mono fun _ => .overrun) fun names hnames => ?_
  have hdata := SectionHeader.dataOffset_nonneg_of_read hnames
  refine .bind (failsOnly_locateNamed hsections hdata (by decide) (by decide)) fun code _ => ?_
  refine .bind (failsOnly_locateNamed hsections hdata (by decide) (by decide))
    fun symbolNames hsymbolNames => ?_
  refine .bind (failsOnly_locate _ hsections (by decide)) fun symbols hsymbols => ?_
  refine .bind (failsOnly_readSymbols (dataOffset_nonneg_of_locate hsymbols)
    (dataOffset_nonneg_of_locateNamed hsymbolNames)) fun table _ => ?_
  -- What is left only leaves notes.
  split <;> exact failsOnly_ok _

/-- The words of code are read, or the file ends before the code does. -/
theorem Of.failsOnly_codeWords {c : Container} (h : Of d c) :
    FailsOnly (c.codeWords d) (IsExplained d) := by
  obtain ⟨record, number, -, hcode⟩ := h.code_eq
  obtain ⟨place, hread⟩ := exists_read_of_findSection hcode
  have hsize := h.isBounded_code.size_lt
  refine .bind (.mono ?_ fun _ => .overrun) fun _ _ => failsOnly_ok _
  refine Bytes.failsOnly_words (SectionHeader.dataOffset_nonneg_of_read hread) ?_
  -- The code is smaller than the address space, and so far smaller than the largest record.
  simp only [wordSize, Bytes.recordLimit]
  omega

end Container

end RiscvListing
