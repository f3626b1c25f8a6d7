import Mathlib.Algebra.Order.Ring.Int
import RiscvListing.Image.Container

/-!
# The container and its words of code

A container is read step by step, and each step has to succeed. Numbers read from a file are as
small as their bytes allow; the code section is therefore smaller than the address space, and the
addresses of its words, which may wrap around, are all different.

## Main definitions

* `Container.Of` — a container together with the steps that led to it.

## Main results

* `Container.outcome_read_eq_ok_iff` — what reading a container consists of.
* `SectionHeader.isBounded_of_read` — the bounds on the fields of a section header.
* `Container.addressed_eq_mapIdx` — the address of each word.
* `Container.Of.nodup_addresses_codeWords` — the addresses of the words of code differ.
* `Container.Of.length_codeWords`, `Container.Of.getElem_codeWords` — how many words of code there
  are, and where each of them stands.
-/

namespace RiscvListing

/-! ### Numbers in bytes -/

theorem LittleEndian.value_lt (content : List UInt8) : value content < 256 ^ content.length := by
  induction content with
  | nil => decide
  | cons b rest ih =>
    have hb : b.toNat < 256 := b.toNat_lt
    rw [value, List.length_cons, Nat.pow_succ']
    omega

theorem Bytes.numberAt_lt (d : Bytes) (start width : Nat) :
    d.numberAt start width < 256 ^ width := by
  refine Nat.lt_of_lt_of_le (LittleEndian.value_lt _) (Nat.pow_le_pow_right (by decide) ?_)
  rw [Array.length_toList, Array.size_extract]
  omega

theorem Bytes.length_wordsAt (d : Bytes) (start count : Nat) :
    (d.wordsAt start count).length = count := by
  induction count generalizing start with
  | zero => rfl
  | succ count ih => rw [wordsAt, List.length_cons, ih]

theorem Bytes.getElem_wordsAt (d : Bytes) (start count : Nat) {i : Nat}
    (hi : i < (d.wordsAt start count).length) :
    (d.wordsAt start count)[i] = d.numberAt (start + 4 * i) 4 := by
  induction count generalizing start i with
  | zero => cases hi
  | succ count ih =>
    cases i with
    | zero => rfl
    | succ i =>
      have hplace : start + 4 * (i + 1) = start + 4 + 4 * i := by omega
      simp only [wordsAt, List.getElem_cons_succ]
      rw [ih, hplace]

theorem Bytes.lt_of_mem_wordsAt {d : Bytes} {start count n : Nat} (h : n ∈ d.wordsAt start count) :
    n < 2 ^ 32 := by
  induction count generalizing start with
  | zero => cases h
  | succ count ih =>
    rw [wordsAt, List.mem_cons] at h
    obtain rfl | h := h
    · exact d.numberAt_lt start 4
    · exact ih h

theorem Bytes.eq_wordsAt_of_words {d : Bytes} {offset count : Int} {words : List Nat}
    (h : d.words offset count = .ok words) : words = d.wordsAt offset.toNat count.toNat := by
  unfold Bytes.words at h
  split at h
  · rename_i hcount
    cases h
    rw [Int.toNat_of_nonpos hcount]
    rfl
  · obtain ⟨-, -, hwords⟩ := Fault.bind_eq_ok_iff.mp h
    cases hwords
    rfl

theorem Layout.valuesAt_replicate_word (d : Bytes) (start count : Nat) :
    valuesAt d start (List.replicate count .word) = d.wordsAt start count := by
  induction count generalizing start with
  | zero => rfl
  | succ count ih =>
    rw [List.replicate_succ, valuesAt, ih]
    rfl

/-! ### Section headers -/

namespace SectionHeader

/-- The address and the size of a section are numbers of 32 bits. -/
structure IsBounded (s : SectionHeader) : Prop where
  address_nonneg : 0 ≤ s.address
  address_lt : s.address < 2 ^ 32
  size_nonneg : 0 ≤ s.size
  size_lt : s.size < 2 ^ 32

theorem isBounded_ofNumbers {offset : Int} {numbers : List Nat} (h : ∀ n ∈ numbers, n < 2 ^ 32) :
    (ofNumbers offset numbers).IsBounded := by
  have hget : ∀ i, numbers.getD i 0 < 2 ^ 32 := by
    intro i
    rw [List.getD_eq_getElem?_getD]
    cases hi : numbers[i]? with
    | none => decide
    | some n => exact h n (List.mem_of_getElem? hi)
  have haddress := hget 3
  have hsize := hget 5
  constructor <;> simp only [ofNumbers] <;> omega

theorem isBounded_of_read {d : Bytes} {offset : Int} {s : SectionHeader}
    (h : read d offset = .ok s) : s.IsBounded := by
  obtain ⟨numbers, hnumbers, hs⟩ := Fault.bind_eq_ok_iff.mp h
  obtain ⟨-, -, hvalues⟩ := Fault.bind_eq_ok_iff.mp hnumbers
  cases hvalues
  cases hs
  rw [layout, Layout.valuesAt_replicate_word]
  exact isBounded_ofNumbers fun n => Bytes.lt_of_mem_wordsAt

end SectionHeader

namespace Container

/-! ### The code section -/

theorem exists_read_of_scanSections {d : Bytes} {condition : SectionHeader → Bool}
    {count index : Nat} {offset : Int} {number : Nat} {s : SectionHeader}
    (h : scanSections d condition count index offset = .ok (some (number, s))) :
    ∃ place, SectionHeader.read d place = .ok s := by
  induction count generalizing index offset with
  | zero => cases h
  | succ count ih =>
    obtain ⟨found, hfound, hrest⟩ := Fault.bind_eq_ok_iff.mp h
    split at hrest
    · cases hrest
      exact ⟨offset, hfound⟩
    · exact ih hrest

theorem exists_read_of_findSection {d : Bytes} {header : Header}
    {condition : SectionHeader → Bool} {name : String} {number : Nat} {s : SectionHeader}
    (h : findSection d header condition name = .ok (number, s)) :
    ∃ place, SectionHeader.read d place = .ok s := by
  obtain ⟨found, hscan, hfound⟩ := Fault.bind_eq_ok_iff.mp h
  split at hfound
  · cases hfound
    exact exists_read_of_scanSections hscan
  · cases hfound

/-- `c` holds what is read from `d`. -/
structure Of (d : Bytes) (c : Container) : Prop where
  header_eq : Header.read d = .ok c.header
  names_eq : SectionHeader.read d
    (c.header.sectionOffset + c.header.sectionEntrySize * c.header.nameSection) = .ok c.names
  code_eq : ∃ record number, sectionRecord d c.names codeName = .ok record ∧
    findSection d c.header (·.nameOffset = record) codeName = .ok (number, c.code)
  symbolNames_eq : ∃ record number, sectionRecord d c.names symbolNamesName = .ok record ∧
    findSection d c.header (·.nameOffset = record) symbolNamesName = .ok (number, c.symbolNames)
  symbolSection_eq : ∃ number,
    findSection d c.header (·.type = SectionHeader.symbolTableType) symbolsName =
      .ok (number, c.symbolSection)
  table_eq : readSymbols d c.symbolSection c.symbolNames = .ok c.table

theorem outcome_locate_eq_ok_iff {d : Bytes} {header : Header} {condition : SectionHeader → Bool}
    {name : String} {s : SectionHeader} :
    (locate d header condition name).outcome = .ok s ↔
      ∃ number, findSection d header condition name = .ok (number, s) := by
  unfold locate
  simp only [Traced.outcome_bind, Traced.outcome_lift, Traced.outcome_note, Traced.outcome_pure,
    Fault.bind_eq_ok_iff]
  constructor
  · rintro ⟨⟨number, found⟩, hfound, -, -, hs⟩
    cases hs
    exact ⟨number, hfound⟩
  · rintro ⟨number, hfound⟩
    exact ⟨(number, s), hfound, (), trivial, rfl⟩

theorem outcome_locateNamed_eq_ok_iff {d : Bytes} {header : Header} {names : SectionHeader}
    {name : String} {s : SectionHeader} :
    (locateNamed d header names name).outcome = .ok s ↔
      ∃ record number, sectionRecord d names name = .ok record ∧
        findSection d header (·.nameOffset = record) name = .ok (number, s) := by
  unfold locateNamed
  simp only [Traced.outcome_bind, Traced.outcome_lift, Fault.bind_eq_ok_iff,
    outcome_locate_eq_ok_iff, exists_and_left]

theorem outcome_read_eq_ok_iff {d : Bytes} {c : Container} :
    (read d).outcome = .ok c ↔ Of d c := by
  unfold read
  simp only [Traced.outcome_bind, Traced.outcome_lift, Traced.outcome_note, Fault.bind_eq_ok_iff,
    outcome_locateNamed_eq_ok_iff, outcome_locate_eq_ok_iff]
  constructor
  · rintro ⟨header, hheader, -, -, names, hnames, code, hcode, symbolNames, hsymbolNames,
      symbolSection, hsymbolSection, table, htable, -, -, hc⟩
    -- The note on bytes behind the last word leaves the container as it is.
    obtain rfl : c = ⟨header, names, code, symbolNames, symbolSection, table⟩ := by
      split at hc
      · exact (Except.ok.inj hc).symm
      · exact (Except.ok.inj hc).symm
    exact ⟨hheader, hnames, hcode, hsymbolNames, hsymbolSection, htable⟩
  · intro h
    refine ⟨c.header, h.header_eq, (), trivial, c.names, h.names_eq, c.code, h.code_eq,
      c.symbolNames, h.symbolNames_eq, c.symbolSection, h.symbolSection_eq, c.table, h.table_eq,
      (), trivial, ?_⟩
    split <;> rfl

theorem Of.isBounded_code {d : Bytes} {c : Container} (h : Of d c) : c.code.IsBounded := by
  obtain ⟨_, _, -, hcode⟩ := h.code_eq
  obtain ⟨place, hread⟩ := exists_read_of_findSection hcode
  exact SectionHeader.isBounded_of_read hread

/-! ### Words and addresses -/

/-- The address of a word is four times its number behind the first address, modulo the size of the
address space. -/
theorem addressed_eq_mapIdx {address : Int} (h0 : 0 ≤ address) (hlt : address < 2 ^ 32)
    (words : List Nat) :
    addressed address words =
      words.mapIdx fun i (word : Nat) => ((address + 4 * i) % 2 ^ 32, (word : Int)) := by
  induction words generalizing address with
  | nil => rfl
  | cons word rest ih =>
    -- Addresses wrap at every step; the sum of the steps wraps to the same address.
    have hnext : (address + (wordSize : Nat)) % 0x100000000 < 2 ^ 32 :=
      Int.emod_lt_of_pos _ (by decide)
    rw [addressed, List.mapIdx_cons, ih (Int.emod_nonneg _ (by decide)) hnext]
    congr 1
    · rw [Prod.mk.injEq]
      omega
    · congr 1
      funext i word
      simp only [wordSize, Prod.mk.injEq, and_true]
      omega

/-- Addresses of fewer words than there are multiples of four in the address space differ. -/
theorem nodup_addresses_addressed {address : Int} {words : List Nat} (h0 : 0 ≤ address)
    (hlt : address < 2 ^ 32) (hlength : words.length ≤ 2 ^ 30) :
    ((addressed address words).map Prod.fst).Nodup := by
  rw [addressed_eq_mapIdx h0 hlt, List.nodup_iff_pairwise_ne, List.pairwise_iff_getElem]
  intro i j hi hj hij
  simp only [List.length_map, List.length_mapIdx] at hi hj
  simp only [List.getElem_map, List.getElem_mapIdx]
  -- The two lie less than the address space apart.
  omega

theorem Of.nodup_addresses_codeWords {d : Bytes} {c : Container} {words : List (Int × Int)}
    (h : Of d c) (hwords : c.codeWords d = .ok words) : (words.map Prod.fst).Nodup := by
  obtain ⟨numbers, hnumbers, hw⟩ := Fault.bind_eq_ok_iff.mp hwords
  cases hw
  have hcode := h.isBounded_code
  have hsize := hcode.size_lt
  refine nodup_addresses_addressed hcode.address_nonneg hcode.address_lt ?_
  rw [Bytes.eq_wordsAt_of_words hnumbers, Bytes.length_wordsAt, wordSize]
  omega

/-- There are as many words of code as fit in the code section. -/
theorem Of.length_codeWords {d : Bytes} {c : Container} {words : List (Int × Int)}
    (h : Of d c) (hwords : c.codeWords d = .ok words) : (words.length : Int) = c.code.size / 4 := by
  obtain ⟨numbers, hnumbers, hw⟩ := Fault.bind_eq_ok_iff.mp hwords
  cases hw
  have hcode := h.isBounded_code
  have hsize := hcode.size_nonneg
  rw [addressed_eq_mapIdx hcode.address_nonneg hcode.address_lt, List.length_mapIdx,
    Bytes.eq_wordsAt_of_words hnumbers, Bytes.length_wordsAt, wordSize]
  omega

/-- Words of code stand four bytes apart, in the file and in memory. -/
theorem Of.getElem_codeWords {d : Bytes} {c : Container} {words : List (Int × Int)}
    (h : Of d c) (hwords : c.codeWords d = .ok words) {i : Nat} (hi : i < words.length) :
    words[i] = ((c.code.address + 4 * i) % 2 ^ 32,
      (d.numberAt (c.code.dataOffset.toNat + 4 * i) 4 : Int)) := by
  obtain ⟨numbers, hnumbers, hw⟩ := Fault.bind_eq_ok_iff.mp hwords
  cases hw
  have hcode := h.isBounded_code
  simp only [addressed_eq_mapIdx hcode.address_nonneg hcode.address_lt, List.getElem_mapIdx,
    Bytes.eq_wordsAt_of_words hnumbers, Bytes.getElem_wordsAt]

/-- The addresses and the words of code are numbers of 32 bits. -/
theorem Of.lt_of_mem_codeWords {d : Bytes} {c : Container} {words : List (Int × Int)}
    {item : Int × Int} (h : Of d c) (hwords : c.codeWords d = .ok words) (hitem : item ∈ words) :
    (0 ≤ item.1 ∧ item.1 < 2 ^ 32) ∧ 0 ≤ item.2 ∧ item.2 < 2 ^ 32 := by
  obtain ⟨numbers, hnumbers, hw⟩ := Fault.bind_eq_ok_iff.mp hwords
  cases hw
  have hcode := h.isBounded_code
  rw [addressed_eq_mapIdx hcode.address_nonneg hcode.address_lt, List.mem_mapIdx] at hitem
  obtain ⟨i, hi, rfl⟩ := hitem
  have hall : ∀ n ∈ numbers, n < 2 ^ 32 := by
    rw [Bytes.eq_wordsAt_of_words hnumbers]
    exact fun n => Bytes.lt_of_mem_wordsAt
  have hword := hall _ (List.getElem_mem hi)
  refine ⟨⟨Int.emod_nonneg _ (by decide), Int.emod_lt_of_pos _ (by decide)⟩, ?_⟩
  simp only
  omega

end Container

end RiscvListing
