import RiscvListing.Proofs.Image.Header

/-!
# Records and their formats

A format is written as a row of letters, each with a count in front of it or without one. A record
of this format is read in one go, and what is read is what its numbers would be if they were read
one by one: it lies inside the file or is refused as a whole, its numbers are written again as the
bytes they were read from, and a format that is put together from two reads two records in a row.
The one limit is that a record must not be larger than any file can be. Such a record is refused
without a look at the file, and not for leaving it.

## Main definitions

* `Format.Item` — a letter with the digits of its count.
* `Format.written`, `Format.ofItems` — the text of a format, and the format.

## Main results

* `Format.parse?_written` — every row of letters with counts is a format.
* `Bytes.unpackAs_eq_ok_iff`, `Bytes.unpackAs_append_eq_ok_iff` — which records are read.
* `Bytes.words_eq_ok_iff`, `Bytes.exists_words_iff` — words in one go and one by one.
* `Bytes.unpackAs_lossless` — all of this together.
* `Bytes.unpackAs_oversized` — a record that is refused without a look at the file.
-/

namespace RiscvListing

/-! ### Formats as they are written -/

/-- The letter of a cell. -/
def Cell.letter : Cell → Char
  | byte => 'B'
  | half => 'H'
  | word => 'I'

theorem Cell.ofLetter?_letter (cell : Cell) : ofLetter? cell.letter = some cell := by
  cases cell <;> rfl

theorem Cell.isDigit_letter (cell : Cell) : cell.letter.isDigit = false := by
  cases cell <;> decide

namespace Format

/-- A letter with the digits in front of it, of which there may be none. -/
structure Item where
  /-- The digits of the count. -/
  digits : List Char
  /-- The cell that the letter stands for. -/
  cell : Cell
  isDigit : digits.all Char.isDigit = true

/-- How often a cell is repeated: once, if there is no count. -/
def Item.count (item : Item) : Nat :=
  if item.digits = [] then 1 else Nat.ofDigitChars 10 item.digits 0

/-- The text of a format. -/
def written (items : List Item) : String :=
  String.ofList ('<' :: items.flatMap fun item => item.digits ++ [item.cell.letter])

/-- The format with some items. -/
def ofItems (items : List Item) : Format := items.map fun item => (item.count, item.cell)

theorem ofItems_append (first second : List Item) :
    ofItems (first ++ second) = ofItems first ++ ofItems second := List.map_append

theorem size_append (first second : Format) :
    size (first ++ second) = first.size + second.size := by
  induction first with
  | nil => rw [List.nil_append, size, Nat.zero_add]
  | cons row rest ih => rw [List.cons_append, size, size, ih, Nat.add_assoc]

theorem layout_append (first second : Format) :
    layout (first ++ second) = first.layout ++ second.layout := List.flatMap_append

theorem size_singleton (count : Nat) (cell : Cell) : size [(count, cell)] = count * cell.size := by
  rw [size, size, Nat.add_zero]

theorem layout_singleton (count : Nat) (cell : Cell) :
    layout [(count, cell)] = List.replicate count cell := List.append_nil _

/-- Digits that follow each other are read as one count. -/
theorem ofLetters?_digits {digits : List Char} (hdigits : ∀ c ∈ digits, c.isDigit = true)
    (count : Option Nat) (rest : List Char) :
    ofLetters? count (digits ++ rest) =
      ofLetters? (if digits = [] then count
        else some (Nat.ofDigitChars 10 digits (count.getD 0))) rest := by
  induction digits generalizing count with
  | nil => rfl
  | cons c digits ih =>
    rw [List.forall_mem_cons] at hdigits
    rw [List.cons_append, ofLetters?, if_pos hdigits.1, ih hdigits.2, if_neg (List.cons_ne_nil _ _),
      Nat.ofDigitChars_cons, Option.getD_some]
    -- The first digit has made a count, to which the other digits are added.
    cases digits with
    | nil => rw [if_pos rfl, Nat.ofDigitChars_nil]
    | cons c' digits => rw [if_neg (List.cons_ne_nil _ _)]

theorem ofLetters?_letter (count : Option Nat) (cell : Cell) (rest : List Char) :
    ofLetters? count (cell.letter :: rest) =
      (ofLetters? none rest).map fun format => (count.getD 1, cell) :: format := by
  rw [ofLetters?, cell.isDigit_letter, if_neg Bool.false_ne_true, cell.ofLetter?_letter]
  cases ofLetters? none rest <;> rfl

/-- Every row of letters with counts is a format. -/
theorem parse?_written (items : List Item) : parse? (written items) = some (ofItems items) := by
  have hletters : ofLetters? none (items.flatMap fun item => item.digits ++ [item.cell.letter]) =
      some (ofItems items) := by
    induction items with
    | nil => rfl
    | cons item items ih =>
      have hdigits := List.all_eq_true.mp item.isDigit
      rw [List.flatMap_cons, List.append_assoc, ofLetters?_digits hdigits, List.singleton_append,
        ofLetters?_letter, ih, Option.map_some, ofItems, ofItems, List.map_cons, Item.count]
      -- A letter without a count is read once.
      split <;> rfl
  rw [parse?, written, String.toList_ofList]
  exact hletters

end Format

/-! ### Reading records -/

namespace Bytes

variable {d : Bytes} {format first second : Format} {offset count : Int} {values numbers : List Nat}

theorem unpackAs_eq_unpack (d : Bytes) (offset : Int) (h : format.size ≤ recordLimit) :
    d.unpackAs format offset = d.unpack format.layout offset := by
  rw [unpackAs, requireRecord_eq_require d offset (by omega), unpack, format.size_layout]

theorem unpackAs_of_lt (d : Bytes) (offset : Int) (h : recordLimit < format.size) :
    d.unpackAs format offset = .error (.oversizedRecord format.size) := by
  rw [unpackAs, requireRecord, if_pos (by omega)]
  rfl

theorem unpackAs_eq (d : Bytes) (offset : Int) (h : format.size ≤ recordLimit) :
    d.unpackAs format offset =
      if 0 ≤ offset ∧ offset + format.size ≤ d.size then
        .ok (format.layout.valuesAt d offset.toNat)
      else .error (.truncatedFile offset format.size d.size) := by
  rw [unpackAs_eq_unpack d offset h, unpack_eq, format.size_layout]

theorem unpackAs_eq_ok_iff (h : format.size ≤ recordLimit) :
    d.unpackAs format offset = .ok values ↔
      0 ≤ offset ∧ offset + format.size ≤ d.size ∧
        values = format.layout.valuesAt d offset.toNat := by
  rw [unpackAs_eq d offset h]
  split
  · rename_i hinside
    rw [Except.ok.injEq, eq_comm, and_iff_right hinside.1, and_iff_right hinside.2]
  · rename_i houtside
    constructor
    · intro hok
      cases hok
    · rintro ⟨hnonneg, hle, -⟩
      exact absurd ⟨hnonneg, hle⟩ houtside

theorem exists_unpackAs_iff (h : format.size ≤ recordLimit) :
    (∃ values, d.unpackAs format offset = .ok values) ↔
      0 ≤ offset ∧ offset + format.size ≤ d.size := by
  simp only [unpackAs_eq_ok_iff h, exists_and_left, exists_eq, and_true]

/-- The numbers of a record fit in its cells and are written as the bytes that they were read
from. -/
theorem pack_of_unpackAs (h : format.size ≤ recordLimit)
    (hread : d.unpackAs format offset = .ok values) :
    format.layout.Fits values ∧
      format.layout.pack values =
        (d.extract offset.toNat (offset.toNat + format.size)).toList := by
  obtain ⟨hnonneg, hle, rfl⟩ := (unpackAs_eq_ok_iff h).mp hread
  have hsize := format.size_layout
  refine ⟨Layout.fits_valuesAt d _ _, ?_⟩
  rw [Layout.pack_valuesAt (by omega), hsize]

/-- A format that is put together from two reads two records in a row. -/
theorem unpackAs_append_eq_ok_iff (h : (first ++ second).size ≤ recordLimit) :
    d.unpackAs (first ++ second) offset = .ok values ↔
      ∃ front back, d.unpackAs first offset = .ok front ∧
        d.unpackAs second (offset + first.size) = .ok back ∧ values = front ++ back := by
  have hsize := Format.size_append first second
  rw [unpackAs_eq_ok_iff h]
  simp only [unpackAs_eq_ok_iff (by omega : first.size ≤ recordLimit),
    unpackAs_eq_ok_iff (by omega : second.size ≤ recordLimit)]
  -- The second part begins where the first one ends.
  have hvalues : 0 ≤ offset → (first ++ second).layout.valuesAt d offset.toNat =
      first.layout.valuesAt d offset.toNat ++
        second.layout.valuesAt d (offset + first.size).toNat := by
    intro hnonneg
    rw [Format.layout_append, Layout.valuesAt_append, first.size_layout,
      Int.toNat_add_nat hnonneg]
  constructor
  · rintro ⟨hnonneg, hle, rfl⟩
    exact ⟨_, _, ⟨hnonneg, by omega, rfl⟩, ⟨by omega, by omega, rfl⟩, hvalues hnonneg⟩
  · rintro ⟨front, back, ⟨hnonneg, -, rfl⟩, ⟨-, hle, rfl⟩, rfl⟩
    exact ⟨hnonneg, by omega, (hvalues hnonneg).symm⟩

/-- A record of one number is read as this number. -/
theorem unpackAs_single (d : Bytes) (cell : Cell) (offset : Int) :
    d.unpackAs [(1, cell)] offset = (d.number cell.size offset).map fun n => [n] := by
  have hsize : Format.size [(1, cell)] = cell.size := by
    rw [Format.size_singleton, Nat.one_mul]
  have hlimit : cell.size ≤ recordLimit := by
    cases cell <;> decide
  rw [unpackAs, hsize, requireRecord_eq_require d offset (by omega), number]
  cases d.require offset cell.size <;> rfl

/-! ### Words -/

theorem size_words (hcount : 0 < count) :
    (Format.size [(count.toNat, .word)] : Int) = 4 * count := by
  rw [Format.size_singleton, Cell.size]
  omega

theorem words_eq_unpackAs (d : Bytes) (offset : Int) (hcount : 0 < count) :
    d.words offset count = d.unpackAs [(count.toNat, .word)] offset := by
  rw [words, if_neg (by omega), unpackAs, size_words hcount, Format.layout_singleton,
    Layout.valuesAt_replicate_word]

theorem words_eq_ok_iff (hcount : 0 < count) :
    d.words offset count = .ok numbers ↔
      4 * count ≤ recordLimit ∧ 0 ≤ offset ∧ offset + 4 * count ≤ d.size ∧
        numbers = d.wordsAt offset.toNat count.toNat := by
  have hsize := size_words hcount
  rw [words_eq_unpackAs d offset hcount]
  by_cases hsmall : 4 * count ≤ recordLimit
  · rw [unpackAs_eq_ok_iff (by omega), hsize, Format.layout_singleton,
      Layout.valuesAt_replicate_word, and_iff_right hsmall]
  · rw [unpackAs_of_lt d offset (by omega)]
    constructor
    · intro h
      cases h
    · rintro ⟨hle, -⟩
      exact absurd hle hsmall

theorem u32_eq_ok_iff {n : Nat} :
    d.u32 offset = .ok n ↔
      0 ≤ offset ∧ offset + 4 ≤ d.size ∧ n = d.numberAt offset.toNat 4 := by
  rw [u32, number, Fault.bind_eq_ok_iff]
  constructor
  · rintro ⟨_, hrequire, hn⟩
    obtain ⟨hnonneg, -, hle⟩ := (require_eq_ok_iff d offset _).mp hrequire
    exact ⟨hnonneg, hle, (Except.ok.inj hn).symm⟩
  · rintro ⟨hnonneg, hle, rfl⟩
    exact ⟨(), (require_eq_ok_iff d offset _).mpr ⟨hnonneg, by decide, hle⟩, rfl⟩

/-- A row of words is read if each of them is. Words that are all in a file are not too many for a
record, unless the file is larger than any record. -/
theorem exists_words_iff (hcount : 0 < count)
    (hlimit : 4 * count ≤ recordLimit ∨ d.size ≤ recordLimit) :
    (∃ numbers, d.words offset count = .ok numbers) ↔
      ∀ i : Nat, i < count → ∃ n, d.u32 (offset + 4 * i) = .ok n := by
  simp only [words_eq_ok_iff hcount, u32_eq_ok_iff, exists_and_left, exists_eq, and_true]
  constructor
  · rintro ⟨-, hnonneg, hle⟩ i hi
    omega
  · -- The first word gives the one bound and the last word the other.
    intro hall
    have hfirst := hall 0 hcount
    have hlast := hall (count - 1).toNat (by omega)
    omega

/-- The words that are read in one go are those that are read one by one. -/
theorem u32_of_words (hcount : 0 < count) (h : d.words offset count = .ok numbers) :
    (numbers.length : Int) = count ∧
      ∀ (i : Nat) n, numbers[i]? = some n → d.u32 (offset + 4 * i) = .ok n := by
  obtain ⟨-, hnonneg, hle, rfl⟩ := (words_eq_ok_iff hcount).mp h
  have hlength := d.length_wordsAt offset.toNat count.toNat
  refine ⟨by omega, fun i n hn => ?_⟩
  obtain ⟨hi, rfl⟩ := List.getElem?_eq_some_iff.mp hn
  have hplace : (offset + 4 * (i : Int)).toNat = offset.toNat + 4 * i := by omega
  rw [u32_eq_ok_iff, getElem_wordsAt, hplace]
  exact ⟨by omega, by omega, rfl⟩

/-! ### Records as a whole -/

/-- Every row of letters with counts is a format. A record of this format that is not larger than
any file can be is read exactly if it lies inside the file; otherwise its place, its size and the
size of the file are reported. Its numbers fit in their cells and are written as the bytes that they
were read from. If the row is cut in two, the record is read exactly if its two parts are, one
behind the other. A record of one number is this number. Words in a row are read exactly if each of
them is, and are these words; none are read where none are asked for. A record that is larger than
any file can be is refused for its size alone. -/
theorem unpackAs_lossless (d : Bytes) (items : List Format.Item) (offset : Int) :
    Format.parse? (Format.written items) = some (Format.ofItems items) ∧
      ((Format.ofItems items).size ≤ recordLimit →
        ((∃ values, d.unpackAs (Format.ofItems items) offset = .ok values) ↔
          0 ≤ offset ∧ offset + (Format.ofItems items).size ≤ d.size) ∧
        (¬(0 ≤ offset ∧ offset + (Format.ofItems items).size ≤ d.size) →
          d.unpackAs (Format.ofItems items) offset =
            .error (.truncatedFile offset (Format.ofItems items).size d.size)) ∧
        (∀ values, d.unpackAs (Format.ofItems items) offset = .ok values →
          (Format.ofItems items).layout.Fits values ∧
            (Format.ofItems items).layout.pack values =
              (d.extract offset.toNat (offset.toNat + (Format.ofItems items).size)).toList) ∧
        ∀ first second, items = first ++ second → ∀ values,
          (d.unpackAs (Format.ofItems items) offset = .ok values ↔
            ∃ front back, d.unpackAs (Format.ofItems first) offset = .ok front ∧
              d.unpackAs (Format.ofItems second) (offset + (Format.ofItems first).size) = .ok back ∧
              values = front ++ back)) ∧
      (∀ cell, d.unpackAs [(1, cell)] offset = (d.number cell.size offset).map fun n => [n]) ∧
      (∀ count : Int, 0 < count → 4 * count ≤ recordLimit ∨ d.size ≤ recordLimit →
        ((∃ numbers, d.words offset count = .ok numbers) ↔
          ∀ i : Nat, i < count → ∃ n, d.u32 (offset + 4 * i) = .ok n) ∧
        ∀ numbers, d.words offset count = .ok numbers →
          (numbers.length : Int) = count ∧
            ∀ (i : Nat) n, numbers[i]? = some n → d.u32 (offset + 4 * i) = .ok n) ∧
      (∀ count ≤ 0, d.words offset count = .ok []) ∧
      (recordLimit < (Format.ofItems items).size →
        d.unpackAs (Format.ofItems items) offset =
          .error (.oversizedRecord (Format.ofItems items).size)) := by
  refine ⟨Format.parse?_written items, fun hsize => ⟨exists_unpackAs_iff hsize, fun houtside => ?_,
    fun values => pack_of_unpackAs hsize, fun first second hitems values => ?_⟩,
    fun cell => unpackAs_single d cell offset,
    fun count hcount hlimit => ⟨exists_words_iff hcount hlimit, fun numbers => u32_of_words hcount⟩,
    fun count hcount => if_pos hcount, unpackAs_of_lt d offset⟩
  · rw [unpackAs_eq d offset hsize, if_neg houtside]
  · rw [hitems, Format.ofItems_append] at hsize ⊢
    exact unpackAs_append_eq_ok_iff hsize

/-- The items of the format `<BH02I`. -/
def byteHalfWords : List Format.Item :=
  [⟨[], .byte, by decide⟩, ⟨[], .half, by decide⟩, ⟨['0', '2'], .word, by decide⟩]

/-- A record of 11 bytes is read up to the end of the file, and no byte further. -/
theorem unpackAs_lossless_byteHalfWords :
    Format.written byteHalfWords = "<BH02I" ∧
      unpackAs #[9, 1, 2, 3, 4, 5, 6, 7, 8, 9, 10, 11] (Format.ofItems byteHalfWords) 1 =
        .ok [1, 0x302, 0x7060504, 0xb0a0908] ∧
      (Format.ofItems byteHalfWords).layout.pack [1, 0x302, 0x7060504, 0xb0a0908] =
        [1, 2, 3, 4, 5, 6, 7, 8, 9, 10, 11] ∧
      unpackAs #[9, 1, 2, 3, 4, 5, 6, 7, 8, 9, 10, 11] (Format.ofItems byteHalfWords) 2 =
        .error (.truncatedFile 2 11 12) := by
  have hread : unpackAs #[9, 1, 2, 3, 4, 5, 6, 7, 8, 9, 10, 11] (Format.ofItems byteHalfWords) 1 =
      .ok [1, 0x302, 0x7060504, 0xb0a0908] := by decide +kernel
  have hsize : (Format.ofItems byteHalfWords).size ≤ recordLimit := by decide +kernel
  refine ⟨by decide +kernel, hread, ?_, ?_⟩
  · exact (((unpackAs_lossless _ byteHalfWords 1).2.1 hsize).2.2.1 _ hread).2
  · exact ((unpackAs_lossless _ byteHalfWords 2).2.1 hsize).2.1 (by decide +kernel)

/-- The format `<9223372036854775808B` asks for more bytes than there are in the file, and so does a
read of as many bytes. Only the latter is reported as a read that leaves the file; the same goes for
a row of words of this size. -/
theorem unpackAs_oversized :
    Format.parse? "<9223372036854775808B" = some [(0x8000000000000000, .byte)] ∧
      unpackAs #[1, 2, 3, 4] [(0x8000000000000000, .byte)] 0 =
        .error (.oversizedRecord 0x8000000000000000) ∧
      words #[1, 2, 3, 4] 0 0x2000000000000000 = .error (.oversizedRecord 0x8000000000000000) ∧
      slice #[1, 2, 3, 4] 0 0x8000000000000000 =
        .error (.truncatedFile 0 0x8000000000000000 4) := by
  refine ⟨by decide +kernel, ?_, ?_, ?_⟩
  · exact unpackAs_of_lt _ _ (by decide)
  · decide +kernel
  · decide +kernel

end Bytes

end RiscvListing
