import RiscvListing.Proofs.Image.SectionScan
import RiscvListing.Proofs.Image.StringTable

/-!
# Files that grow at their end

A read that succeeds lies inside the file, so it finds the same in every longer file that begins
with it. This also holds for reads that look for their own end: a text ends at its first zero byte,
and the scan over section headers stops at the first one that fits, also where the number of headers
is taken from the size of the file. Only reads that fail can come out differently.

## Main definitions

* `Bytes.IsStable` — what a reader finds in a file it finds in every longer one.

## Main results

* `Bytes.IsStable.bind` — readers one after the other.
* `StringCursor.findUpTo_append` — a text that was found is found again.
* `Container.scanSections_append` — so is a section, with more headers to look at.
* `Container.Of.append`, `Container.isStable_codeWords` — the container and its words of code.
-/

namespace RiscvListing

namespace Bytes

variable {α β : Type} {d more : Bytes}

/-- What is read from a file is read from every longer file that begins with it. -/
def IsStable (reader : Bytes → Except Fault α) : Prop :=
  ∀ d more value, reader d = .ok value → reader (d ++ more) = .ok value

theorem isStable_const (outcome : Except Fault α) : IsStable fun _ => outcome :=
  fun _ _ _ h => h

/-- A reader that goes on with what another one has read. -/
theorem IsStable.bind {first : Bytes → Except Fault α} {next : α → Bytes → Except Fault β}
    (hfirst : IsStable first) (hnext : ∀ value, IsStable (next value)) :
    IsStable fun d => first d >>= fun value => next value d := by
  intro d more result h
  obtain ⟨value, hvalue, hresult⟩ := Fault.bind_eq_ok_iff.mp h
  exact Fault.bind_eq_ok_iff.mpr
    ⟨value, hfirst d more value hvalue, hnext value d more result hresult⟩

/-! ### Bytes and numbers -/

theorem size_le_size_append (d more : Bytes) : d.size ≤ (d ++ more).size := by
  rw [Array.size_append]
  exact Nat.le_add_right _ _

theorem extract_append_of_le {start stop : Nat} (h : stop ≤ d.size) :
    (d ++ more).extract start stop = d.extract start stop := by
  rw [Array.extract_append, Nat.sub_eq_zero_of_le h, Array.extract_zero, Array.append_empty]

theorem numberAt_append {start width : Nat} (h : start + width ≤ d.size) :
    (d ++ more).numberAt start width = d.numberAt start width := by
  rw [numberAt, extract_append_of_le h, numberAt]

theorem wordsAt_append {start count : Nat} (h : start + 4 * count ≤ d.size) :
    (d ++ more).wordsAt start count = d.wordsAt start count := by
  induction count generalizing start with
  | zero => rfl
  | succ count ih => rw [wordsAt, wordsAt, numberAt_append (by omega), ih (by omega)]

theorem valuesAt_append {start : Nat} {layout : Layout} (h : start + layout.size ≤ d.size) :
    layout.valuesAt (d ++ more) start = layout.valuesAt d start := by
  induction layout generalizing start with
  | nil => rfl
  | cons cell rest ih =>
    rw [Layout.size] at h
    rw [Layout.valuesAt, Layout.valuesAt, numberAt_append (by omega), ih (by omega)]

theorem isStable_require (offset size : Int) : IsStable fun d => d.require offset size := by
  intro d more _ h
  have hle := size_le_size_append d more
  have hinside := (require_eq_ok_iff d offset size).mp h
  exact (require_eq_ok_iff (d ++ more) offset size).mpr ⟨hinside.1, hinside.2.1, by omega⟩

theorem isStable_slice (offset size : Int) : IsStable fun d => d.slice offset size := by
  intro d more value h
  obtain ⟨_, hrequire, hvalue⟩ := Fault.bind_eq_ok_iff.mp h
  have hinside := (require_eq_ok_iff d offset size).mp hrequire
  refine Fault.bind_eq_ok_iff.mpr ⟨(), isStable_require offset size d more () hrequire, ?_⟩
  rw [extract_append_of_le (by omega)]
  exact hvalue

theorem isStable_unpack (layout : Layout) (offset : Int) :
    IsStable fun d => d.unpack layout offset := by
  intro d more numbers h
  obtain ⟨_, hrequire, hnumbers⟩ := Fault.bind_eq_ok_iff.mp h
  have hinside := (require_eq_ok_iff d offset layout.size).mp hrequire
  refine Fault.bind_eq_ok_iff.mpr ⟨(), isStable_require offset layout.size d more () hrequire, ?_⟩
  rw [valuesAt_append (by omega)]
  exact hnumbers

theorem isStable_words (offset count : Int) : IsStable fun d => d.words offset count := by
  unfold words
  by_cases hnone : count ≤ 0
  · simp only [if_pos hnone]
    exact isStable_const _
  simp only [if_neg hnone]
  intro d more numbers h
  obtain ⟨_, hrecord, hnumbers⟩ := Fault.bind_eq_ok_iff.mp h
  -- A record that was read is not too large, so that only its place counts.
  have hlimit : 4 * count ≤ recordLimit := by
    by_contra hlarge
    rw [requireRecord, if_pos (by omega)] at hrecord
    cases hrecord
  rw [requireRecord_eq_require _ _ hlimit] at hrecord
  have hinside := (require_eq_ok_iff d offset (4 * count)).mp hrecord
  refine Fault.bind_eq_ok_iff.mpr ⟨(), ?_, ?_⟩
  · rw [requireRecord_eq_require _ _ hlimit]
    exact isStable_require offset (4 * count) d more () hrecord
  · rw [wordsAt_append (by omega)]
    exact hnumbers

/-! ### Texts -/

/-- The first zero byte stays the first one. -/
theorem zeroFrom?_append {start stop : Nat} (h : d.zeroFrom? start = some stop) :
    (d ++ more).zeroFrom? start = some stop := by
  rw [zeroFrom?_eq_some_iff] at h ⊢
  obtain ⟨hle, hzero, hfirst⟩ := h
  have hlt : stop < d.size := (Array.getElem?_eq_some_iff.mp hzero).1
  refine ⟨hle, ?_, fun i hi hstop => ?_⟩
  · rw [Array.getElem?_append_left hlt]
    exact hzero
  · rw [Array.getElem?_append_left (by omega)]
    exact hfirst i hi hstop

theorem textAt_append {start stop : Nat} (h : d.zeroFrom? start = some stop) :
    (d ++ more).textAt start stop = d.textAt start stop := by
  obtain ⟨-, hzero, -⟩ := (zeroFrom?_eq_some_iff d start stop).mp h
  have hlt : stop < d.size := (Array.getElem?_eq_some_iff.mp hzero).1
  rw [textAt, extract_append_of_le (Nat.le_of_lt hlt), textAt]

end Bytes

open Bytes

namespace StringCursor

variable {d more : Bytes} {c found : StringCursor} {text : String}

/-- A text that was read is read again, and the cursor comes to the same place. -/
theorem read_append (h : (c.read d).1 = .ok text) : c.read (d ++ more) = c.read d := by
  by_cases hposition : 0 ≤ c.position
  · obtain ⟨start, hstart⟩ := Int.eq_ofNat_of_zero_le hposition
    cases hzero : d.zeroFrom? start with
    | none =>
      rw [read_of_zeroFrom?_eq_none hstart hzero] at h
      cases h
    | some stop =>
      rw [read_of_zeroFrom? hstart hzero, read_of_zeroFrom? hstart (zeroFrom?_append hzero),
        textAt_append hzero]
  · rw [read, if_pos (Int.not_le.mp hposition)] at h
    cases h

theorem room_le_room_append (c : StringCursor) (d more : Bytes) :
    c.room d ≤ c.room (d ++ more) := by
  have hle := size_le_size_append d more
  unfold room
  omega

/-- A search that found a text finds it again, also if it may read more texts. -/
theorem findUpTo_append {fuel fuel' : Nat} (hfuel : fuel ≤ fuel')
    (h : findUpTo d text fuel c = .ok (some found)) :
    findUpTo (d ++ more) text fuel' c = .ok (some found) := by
  induction fuel generalizing c fuel' with
  | zero => cases h
  | succ fuel ih =>
    obtain ⟨fuel', rfl⟩ := Nat.exists_eq_succ_of_ne_zero (Nat.ne_zero_of_lt hfuel)
    rw [findUpTo] at h ⊢
    by_cases hend : c.exhausted = true
    · rw [if_pos hend] at h
      cases h
    rw [if_neg hend] at h ⊢
    -- The next text has been read, so it is read from the longer file as well.
    rcases hread : c.read d with ⟨_ | read, behind⟩
    · rw [hread] at h
      cases h
    · rw [hread] at h
      rw [read_append (congrArg Prod.fst hread), hread]
      dsimp only at h ⊢
      by_cases htext : read = text
      · rw [if_pos htext] at h ⊢
        exact h
      · rw [if_neg htext] at h ⊢
        exact ih (Nat.le_of_succ_le_succ hfuel) h

end StringCursor

/-! ### Headers and symbols -/

theorem SectionHeader.isStable_read (offset : Int) : IsStable fun d => read d offset :=
  (isStable_unpack layout offset).bind fun _ => isStable_const _

theorem Header.isStable_read : IsStable read := by
  intro d more header h
  -- The magic has been found, so the file has at least its four bytes.
  have hmagic : d.extract 0 4 = magic := by
    by_contra hother
    rw [read, if_pos hother] at h
    cases h
  have hsize : 4 ≤ d.size := by
    have hfour := congrArg Array.size hmagic
    rw [Array.size_extract, show magic.size = 4 from rfl] at hfour
    omega
  have hmagic' : (d ++ more).extract 0 4 = magic := (extract_append_of_le hsize).trans hmagic
  rw [read, if_neg (not_not.mpr hmagic)] at h
  rw [read, if_neg (not_not.mpr hmagic')]
  exact ((isStable_slice 0 identSize).bind fun ident => (isStable_const _).bind fun _ =>
    (isStable_unpack layout identSize).bind fun numbers => isStable_const _) d more header h

theorem Symbol.isStable_read (offset strings : Int) : IsStable fun d => read d offset strings := by
  refine (isStable_unpack layout offset).bind fun numbers => .bind ?_ fun _ => isStable_const _
  intro d more name h
  exact (congrArg Prod.fst (StringCursor.read_append h)).trans h

theorem SymbolTable.isStable_readEntries (strings : Int) (count : Nat) (offset : Int) :
    IsStable fun d => readEntries d strings count offset := by
  induction count generalizing offset with
  | zero => exact isStable_const _
  | succ count ih =>
    exact (Symbol.isStable_read offset strings).bind fun _ =>
      (ih (offset + Symbol.stride)).bind fun _ => isStable_const _

namespace Container

variable {d more : Bytes} {c : Container}

theorem isStable_readSymbols (symbols symbolNames : SectionHeader) :
    IsStable fun d => readSymbols d symbols symbolNames := by
  unfold readSymbols
  split
  · exact isStable_const _
  · exact (SymbolTable.isStable_readEntries _ _ _).bind fun _ => isStable_const _

/-! ### Sections -/

theorem isStable_sectionRecord (names : SectionHeader) (name : String) :
    IsStable fun d => sectionRecord d names name := by
  intro d more record h
  obtain ⟨_ | behind, hfind, hrecord⟩ := Fault.bind_eq_ok_iff.mp h
  · cases hrecord
  · refine Fault.bind_eq_ok_iff.mpr ⟨some behind, ?_, hrecord⟩
    exact StringCursor.findUpTo_append (StringCursor.room_le_room_append _ d more) hfind

/-- A scan that found a section finds it again, also if there are more headers to look at. -/
theorem scanSections_append {condition : SectionHeader → Bool} {count count' index : Nat}
    {offset : Int} {found : Nat × SectionHeader} (hcount : count ≤ count')
    (h : scanSections d condition count index offset = .ok (some found)) :
    scanSections (d ++ more) condition count' index offset = .ok (some found) := by
  induction count generalizing count' index offset with
  | zero => cases h
  | succ count ih =>
    obtain ⟨count', rfl⟩ := Nat.exists_eq_succ_of_ne_zero (Nat.ne_zero_of_lt hcount)
    obtain ⟨s, hread, hrest⟩ := Fault.bind_eq_ok_iff.mp h
    refine Fault.bind_eq_ok_iff.mpr ⟨s, SectionHeader.isStable_read offset d more s hread, ?_⟩
    by_cases hs : condition s = true
    · rw [if_pos hs] at hrest ⊢
      exact hrest
    · rw [if_neg hs] at hrest ⊢
      exact ih (Nat.le_of_succ_le_succ hcount) hrest

/-- In a longer file there is room for at least as many section headers. -/
theorem sectionCount_le_sectionCount_append (d more : Bytes) (header : Header) :
    sectionCount d header ≤ sectionCount (d ++ more) header := by
  have hle := size_le_size_append d more
  unfold sectionCount
  split
  · exact Nat.le_refl _
  · refine Int.toNat_le_toNat (Int.ediv_le_ediv (by decide) ?_)
    omega

theorem isStable_findSection (header : Header) (condition : SectionHeader → Bool) (name : String) :
    IsStable fun d => findSection d header condition name := by
  intro d more found h
  obtain ⟨_ | first, hscan, hfound⟩ := Fault.bind_eq_ok_iff.mp h
  · cases hfound
  · refine Fault.bind_eq_ok_iff.mpr ⟨some first, ?_, hfound⟩
    exact scanSections_append (sectionCount_le_sectionCount_append d more header) hscan

/-! ### The container -/

/-- The container of a file is the container of every longer file that begins with it. -/
theorem Of.append (h : Of d c) (more : Bytes) : Of (d ++ more) c where
  header_eq := Header.isStable_read d more _ h.header_eq
  names_eq := SectionHeader.isStable_read _ d more _ h.names_eq
  code_eq := by
    obtain ⟨record, number, hrecord, hfound⟩ := h.code_eq
    exact ⟨record, number, isStable_sectionRecord _ _ d more _ hrecord,
      isStable_findSection _ _ _ d more _ hfound⟩
  symbolNames_eq := by
    obtain ⟨record, number, hrecord, hfound⟩ := h.symbolNames_eq
    exact ⟨record, number, isStable_sectionRecord _ _ d more _ hrecord,
      isStable_findSection _ _ _ d more _ hfound⟩
  symbolSection_eq := by
    obtain ⟨number, hfound⟩ := h.symbolSection_eq
    exact ⟨number, isStable_findSection _ _ _ d more _ hfound⟩
  table_eq := isStable_readSymbols _ _ d more _ h.table_eq

theorem isStable_codeWords (c : Container) : IsStable fun d => c.codeWords d :=
  (isStable_words _ _).bind fun _ => isStable_const _

end Container

end RiscvListing
