import Mathlib.Algebra.Order.Ring.Int
import Mathlib.Data.List.Forall2
import RiscvListing.Image.Container
import RiscvListing.Image.Draft

/-!
# Content at a place

What stands at a place in a file decides what is read there. Content that is put together from
parts is read part by part.

## Main definitions

* `Bytes.HasAt` — some content stands at a place.
* `IsLatin` — a text that a string table can hold.

## Main results

* `Bytes.hasAt_append` — parts that follow each other.
* `Layout.Fits.unpack` — a packed record is unpacked.
* `Bytes.HasAt.words` — words that follow each other are read.
* `StringCursor.read_of_hasAt`, `StringCursor.findAfter_of_hasAt` — a text is read, and found.
* `Header.Fits.read`, `SectionHeader.Fits.read` — headers are read back.
* `Container.scanSections_of_hasAt` — the first section that satisfies a condition is found.
-/

namespace RiscvListing

theorem LittleEndian.value_bytes (width n : Nat) : value (bytes width n) = n % 256 ^ width := by
  induction width generalizing n with
  | zero => simp [bytes, value, Nat.mod_one]
  | succ width ih =>
    rw [bytes, value, ih, Nat.pow_succ', Nat.mod_mul]
    simp

/-! ### Places -/

namespace Bytes

/-- `content` stands in `d` from position `start` on. -/
def HasAt (d : Bytes) (start : Nat) (content : List UInt8) : Prop := content <+: d.toList.drop start

variable {d : Bytes} {start : Nat} {content first second : List UInt8}

theorem hasAt_append :
    d.HasAt start (first ++ second) ↔
      d.HasAt start first ∧ d.HasAt (start + first.length) second := by
  unfold HasAt
  rw [← List.drop_drop]
  constructor
  · rintro ⟨rest, hrest⟩
    rw [← hrest, List.append_assoc]
    exact ⟨List.prefix_append _ _, by rw [List.drop_left]; exact List.prefix_append _ _⟩
  · rintro ⟨⟨rest, hrest⟩, hsecond⟩
    rw [← hrest, List.drop_left] at hsecond
    rw [← hrest]
    exact (List.prefix_append_right_inj first).mpr hsecond

theorem HasAt.left (h : d.HasAt start (first ++ second)) : d.HasAt start first :=
  (hasAt_append.mp h).1

theorem HasAt.right (h : d.HasAt start (first ++ second)) :
    d.HasAt (start + first.length) second :=
  (hasAt_append.mp h).2

theorem hasAt_zero_toArray (content : List UInt8) : HasAt content.toArray 0 content := by
  simp [HasAt]

theorem HasAt.le_size (h : d.HasAt start content) (hne : 0 < content.length) :
    start + content.length ≤ d.size := by
  have hlength := h.length_le
  simp only [List.length_drop, Array.length_toList] at hlength
  omega

theorem HasAt.toList_extract (h : d.HasAt start content) :
    (d.extract start (start + content.length)).toList = content := by
  rw [Array.toList_extract, List.extract_eq_take_drop, Nat.add_sub_cancel_left]
  exact (List.prefix_iff_eq_take.mp h).symm

theorem HasAt.getElem? (h : d.HasAt start content) {i : Nat} (hi : i < content.length) :
    d[start + i]? = content[i]? := by
  obtain ⟨rest, hrest⟩ := h
  rw [← Array.getElem?_toList, ← List.getElem?_drop, ← hrest, List.getElem?_append_left hi]

/-! ### Numbers and records -/

theorem HasAt.numberAt (h : d.HasAt start content) :
    d.numberAt start content.length = LittleEndian.value content := by
  rw [Bytes.numberAt, h.toList_extract]

theorem HasAt.require (h : d.HasAt start content) (hne : 0 < content.length) :
    d.require start content.length = .ok () := by
  have hle := h.le_size hne
  rw [require_eq_ok_iff]
  omega

theorem HasAt.numberAt_bytes {width n : Nat} (h : d.HasAt start (LittleEndian.bytes width n))
    (hn : n < 256 ^ width) : d.numberAt start width = n := by
  have hnumber := h.numberAt
  rwa [LittleEndian.length_bytes, LittleEndian.value_bytes, Nat.mod_eq_of_lt hn] at hnumber

end Bytes

namespace Layout

/-- As many numbers as cells, each small enough for its cell. -/
def Fits (layout : Layout) (numbers : List Nat) : Prop :=
  List.Forall₂ (fun cell n => n < 256 ^ Cell.size cell) layout numbers

theorem fits_replicate_word {numbers : List Nat} (h : ∀ n ∈ numbers, n < 2 ^ 32) :
    Fits (List.replicate numbers.length .word) numbers := by
  induction numbers with
  | nil => exact .nil
  | cons n numbers ih =>
    rw [List.forall_mem_cons] at h
    exact .cons h.1 (ih h.2)

theorem length_pack {layout : Layout} {numbers : List Nat} (h : layout.length = numbers.length) :
    (layout.pack numbers).length = layout.size := by
  induction layout generalizing numbers with
  | nil => rfl
  | cons cell layout ih =>
    cases numbers with
    | nil => cases h
    | cons n numbers =>
      rw [pack, List.length_append, LittleEndian.length_bytes, ih (Nat.succ.inj h), size]

theorem Fits.length_pack {layout : Layout} {numbers : List Nat} (h : layout.Fits numbers) :
    (layout.pack numbers).length = layout.size :=
  Layout.length_pack (List.Forall₂.length_eq h)

theorem Fits.valuesAt {layout : Layout} {numbers : List Nat} (h : layout.Fits numbers)
    {d : Bytes} {start : Nat} (hat : d.HasAt start (layout.pack numbers)) :
    Layout.valuesAt d start layout = numbers := by
  induction h generalizing start with
  | nil => rfl
  | cons hn _ ih =>
    rw [pack, Bytes.hasAt_append, LittleEndian.length_bytes] at hat
    rw [Layout.valuesAt, hat.1.numberAt_bytes hn, ih hat.2]

/-- A packed record is unpacked. -/
theorem Fits.unpack {layout : Layout} {numbers : List Nat} (h : layout.Fits numbers)
    (hne : 0 < layout.size) {d : Bytes} {start : Nat} (hat : d.HasAt start (layout.pack numbers)) :
    d.unpack layout start = .ok numbers := by
  have hrequire := hat.require (h.length_pack ▸ hne)
  rw [h.length_pack] at hrequire
  rw [Bytes.unpack, hrequire, Int.toNat_natCast, h.valuesAt hat]
  rfl

end Layout

/-! ### Words -/

namespace Bytes

theorem length_flatMap_bytes (words : List Word) :
    (words.flatMap fun word => LittleEndian.bytes 4 word.toNat).length = 4 * words.length := by
  induction words with
  | nil => rfl
  | cons word rest ih =>
    rw [List.flatMap_cons, List.length_append, LittleEndian.length_bytes, ih, List.length_cons]
    omega

theorem HasAt.wordsAt {d : Bytes} {start : Nat} {words : List Word}
    (h : d.HasAt start (words.flatMap fun word => LittleEndian.bytes 4 word.toNat)) :
    d.wordsAt start words.length = words.map BitVec.toNat := by
  induction words generalizing start with
  | nil => rfl
  | cons word rest ih =>
    rw [List.flatMap_cons, hasAt_append, LittleEndian.length_bytes] at h
    rw [List.length_cons, Bytes.wordsAt, h.1.numberAt_bytes word.isLt, ih h.2, List.map_cons]

/-- Words that follow each other are read in one go. -/
theorem HasAt.words {d : Bytes} {start : Nat} {words : List Word}
    (h : d.HasAt start (words.flatMap fun word => LittleEndian.bytes 4 word.toNat))
    (hsize : d.size ≤ recordLimit) :
    d.words start words.length = .ok (words.map BitVec.toNat) := by
  have hlength := length_flatMap_bytes words
  cases hwords : words with
  | nil => rfl
  | cons word rest =>
    rw [← hwords]
    have hpos : 0 < words.length := by rw [hwords]; exact Nat.succ_pos _
    have hle := h.le_size (by omega)
    have hrequire := h.require (by omega)
    rw [hlength] at hle hrequire
    rw [Bytes.words, if_neg (by omega), requireRecord_eq_require d _ (by omega), Int.toNat_natCast,
      Int.toNat_natCast, h.wordsAt]
    rw [Int.natCast_mul] at hrequire
    rw [show d.require start (4 * (words.length : Int)) = .ok () from hrequire]
    rfl

end Bytes

/-! ### Texts -/

/-- A text without a zero whose characters have numbers below 256. -/
def IsLatin (text : String) : Prop := ∀ c ∈ text.toList, 0 < c.toNat ∧ c.toNat < 256

-- The characters of the text are looked at, not all characters there are.
instance (text : String) : Decidable (IsLatin text) := List.decidableBAll _ _

@[simp] theorem length_terminated (text : String) :
    (terminated text).length = text.length + 1 := by
  rw [terminated, List.length_append, List.length_map, String.length_toList, List.length_singleton]

theorem length_le_length_flatMap_terminated (texts : List String) :
    texts.length ≤ (texts.flatMap terminated).length := by
  induction texts with
  | nil => exact Nat.le_refl _
  | cons text texts ih =>
    rw [List.flatMap_cons, List.length_append, length_terminated, List.length_cons]
    omega

theorem ofUInt8_ofNat_toNat {c : Char} (h : c.toNat < 256) :
    Char.ofUInt8 (UInt8.ofNat c.toNat) = c := by
  apply Char.ext
  apply UInt32.toNat_inj.mp
  change (UInt8.ofNat c.toNat).toUInt32.toNat = c.toNat
  rw [UInt8.toNat_toUInt32, UInt8.toNat_ofNat', Nat.mod_eq_of_lt h]

namespace Bytes

variable {d : Bytes} {start : Nat} {text : String}

theorem HasAt.textAt (h : d.HasAt start (terminated text)) (htext : IsLatin text) :
    d.textAt start (start + text.length) = text := by
  have hchars := (hasAt_append.mp h).1.toList_extract
  rw [List.length_map, String.length_toList] at hchars
  have hsame : text.toList.map (Char.ofUInt8 ∘ fun c => UInt8.ofNat c.toNat) = text.toList.map id :=
    List.map_congr_left fun c hc => ofUInt8_ofNat_toNat (htext c hc).2
  rw [Bytes.textAt, hchars, List.map_map, hsame, List.map_id, String.ofList_toList]

theorem HasAt.zeroFrom? (h : d.HasAt start (terminated text)) (htext : IsLatin text) :
    d.zeroFrom? start = some (start + text.length) := by
  have hat : ∀ i < text.length + 1, d[start + i]? = (terminated text)[i]? :=
    fun i hi => h.getElem? (by rwa [length_terminated])
  rw [zeroFrom?_eq_some_iff]
  refine ⟨Nat.le_add_right _ _, ?_, ?_⟩
  · rw [hat _ (Nat.lt_succ_self _), terminated, List.getElem?_append_right
      (by simp only [List.length_map, String.length_toList, Nat.le_refl]), List.length_map,
      String.length_toList, Nat.sub_self, List.getElem?_cons_zero]
  · -- A zero further in front would be a character of the text.
    intro position hstart hlt hzero
    obtain ⟨i, rfl⟩ := Nat.exists_eq_add_of_le hstart
    have hi : i < text.toList.length := by rw [String.length_toList]; omega
    rw [hat i (by omega), terminated, List.getElem?_append_left (by rwa [List.length_map]),
      List.getElem?_map, List.getElem?_eq_getElem hi, Option.map_some, Option.some.injEq] at hzero
    obtain ⟨hpos, hsmall⟩ := htext _ (List.getElem_mem hi)
    have hnumber := congrArg UInt8.toNat hzero
    rw [UInt8.toNat_ofNat', Nat.mod_eq_of_lt hsmall] at hnumber
    exact absurd hnumber (Nat.pos_iff_ne_zero.mp hpos)

end Bytes

namespace StringCursor

variable {d : Bytes} {c : StringCursor} {start : Nat} {text : String}

/-- A text is read, and the cursor moves behind it. -/
theorem read_of_hasAt (hposition : c.position = start) (h : d.HasAt start (terminated text))
    (htext : IsLatin text) :
    c.read d = (.ok text, { c with offset := c.offset + (terminated text).length }) := by
  have hnonneg : ¬c.position < 0 := by omega
  have hoffset : ((start + text.length : Nat) : Int) + 1 - c.table =
      c.offset + (terminated text).length := by
    rw [position] at hposition
    rw [length_terminated]
    omega
  rw [read, if_neg hnonneg]
  simp only [hposition, Int.toNat_natCast, h.zeroFrom? htext, h.textAt htext, hoffset]

theorem exhausted_eq_false {size : Int} (hsize : c.size = some size) (hroom : c.offset < size) :
    c.exhausted = false := by
  rw [exhausted, hsize]
  exact decide_eq_false (Int.not_le.mpr hroom)

/-- A text is found behind other texts of a table. -/
theorem findUpTo_of_hasAt {texts : List String} {size : Int} {fuel : Nat}
    (hposition : c.position = start) (hsize : c.size = some size)
    (h : d.HasAt start ((texts ++ [text]).flatMap terminated))
    (hlatin : ∀ t ∈ texts ++ [text], IsLatin t) (hfirst : text ∉ texts)
    (hroom : c.offset + (texts.flatMap terminated).length < size) (hfuel : texts.length < fuel) :
    findUpTo d text fuel c = .ok (some
      { c with offset := c.offset + ((texts ++ [text]).flatMap terminated).length }) := by
  obtain ⟨fuel, rfl⟩ := Nat.exists_eq_succ_of_ne_zero (Nat.ne_zero_of_lt hfuel)
  induction texts generalizing c start fuel with
  | nil =>
    have hopen := exhausted_eq_false hsize (by simpa using hroom)
    simp only [List.nil_append, List.flatMap_singleton] at h ⊢
    rw [findUpTo, hopen, read_of_hasAt hposition h (hlatin text (by simp))]
    simp
  | cons other texts ih =>
    rw [List.flatMap_cons, List.length_append] at hroom
    rw [List.cons_append, List.flatMap_cons] at h ⊢
    -- The cursor reads another text and goes on behind it.
    have hopen := exhausted_eq_false hsize (by omega)
    have hother : other ≠ text := fun heq => hfirst (heq ▸ List.mem_cons_self)
    rw [List.length_cons] at hfuel
    obtain ⟨fuel, rfl⟩ := Nat.exists_eq_succ_of_ne_zero (n := fuel) (by omega)
    rw [findUpTo, hopen, read_of_hasAt hposition h.left (hlatin other (by simp))]
    simp only [Bool.false_eq_true, if_false, if_neg hother]
    refine (ih ?_ ?_ h.right ?_ ?_ ?_ fuel (by omega)).trans ?_
    · rw [position] at hposition ⊢
      push_cast
      omega
    · exact hsize
    · exact fun t ht => hlatin t (List.mem_cons_of_mem _ ht)
    · exact fun hmem => hfirst (List.mem_cons_of_mem _ hmem)
    · simp only
      omega
    · rw [List.length_append]
      push_cast
      rw [Int.add_assoc]

theorem findAfter_of_hasAt {texts : List String} {size : Int}
    (hposition : c.position = start) (hsize : c.size = some size)
    (h : d.HasAt start ((texts ++ [text]).flatMap terminated))
    (hlatin : ∀ t ∈ texts ++ [text], IsLatin t) (hfirst : text ∉ texts)
    (hroom : c.offset + (texts.flatMap terminated).length < size) :
    findAfter d text c = .ok (some
      { c with offset := c.offset + ((texts ++ [text]).flatMap terminated).length }) := by
  refine findUpTo_of_hasAt hposition hsize h hlatin hfirst hroom ?_
  -- Every text has a zero byte of its own, so there are fewer texts than bytes.
  have hcount := length_le_length_flatMap_terminated (texts ++ [text])
  rw [List.length_append, List.length_singleton] at hcount
  have hle := h.le_size (by omega)
  rw [room, hposition, Int.toNat_natCast]
  omega

end StringCursor

/-! ### Sections -/

theorem Container.sectionRecord_of_hasAt {d : Bytes} {names : SectionHeader} {texts : List String}
    {name : String} {start : Nat} (hdata : names.dataOffset = start)
    (h : d.HasAt start ((texts ++ [name]).flatMap terminated))
    (hlatin : ∀ t ∈ texts ++ [name], IsLatin t) (hfirst : name ∉ texts)
    (hroom : (texts.flatMap terminated).length < names.size) :
    sectionRecord d names name = .ok (texts.flatMap terminated).length := by
  have hfound := StringCursor.findAfter_of_hasAt
    (c := { table := names.dataOffset, size := some names.size })
    (by rw [StringCursor.position, hdata, Int.add_zero]) rfl h hlatin hfirst (by simpa using hroom)
  have hoffset : (0 : Int) + ((texts ++ [name]).flatMap terminated).length - (name.length + 1) =
      (texts.flatMap terminated).length := by
    rw [List.flatMap_append, List.flatMap_singleton, List.length_append, length_terminated]
    omega
  rw [sectionRecord, hfound]
  exact congrArg Except.ok hoffset

namespace SectionHeader

/-- Every field is a number of 32 bits. -/
def Fits (s : SectionHeader) : Prop :=
  ∀ n ∈ [s.nameOffset, s.type, s.flags, s.address, s.dataOffset, s.size, s.link, s.info,
    s.alignment, s.entrySize], 0 ≤ n ∧ n < 2 ^ 32

theorem Fits.layout_fits {s : SectionHeader} (h : s.Fits) : layout.Fits s.numbers := by
  refine @Layout.fits_replicate_word s.numbers fun n hn => ?_
  obtain ⟨field, hfield, rfl⟩ := List.mem_map.mp hn
  have hbounds := h field hfield
  omega

theorem Fits.ofNumbers_numbers {s : SectionHeader} (h : s.Fits) (offset : Int) :
    ofNumbers offset s.numbers = { s with offset } := by
  simp only [Fits, List.forall_mem_cons] at h
  simp only [ofNumbers, numbers, List.map_cons, List.map_nil, List.getD_cons_zero,
    List.getD_cons_succ, SectionHeader.mk.injEq, true_and]
  omega

theorem Fits.read {s : SectionHeader} (h : s.Fits) {d : Bytes} {start : Nat}
    (hat : d.HasAt start s.toBytes) :
    SectionHeader.read d start = .ok { s with offset := start } := by
  rw [SectionHeader.read, h.layout_fits.unpack (by decide) hat, ← h.ofNumbers_numbers]
  rfl

theorem length_toBytes (s : SectionHeader) : s.toBytes.length = stride := Layout.length_pack rfl

end SectionHeader

/-- The first of several section headers in a row that satisfies a condition is found. -/
theorem Container.scanSections_of_hasAt {d : Bytes} {condition : SectionHeader → Bool}
    {before after : List SectionHeader} {s : SectionHeader} {count start : Nat} (index : Nat)
    (hfits : ∀ t ∈ before ++ s :: after, t.Fits)
    (h : d.HasAt start ((before ++ s :: after).flatMap SectionHeader.toBytes))
    (hbefore : ∀ t ∈ before, ∀ offset, condition { t with offset } = false)
    (hs : ∀ offset, condition { s with offset } = true) (hcount : before.length < count) :
    ∃ offset, scanSections d condition count index start =
      .ok (some (index + before.length, { s with offset })) := by
  obtain ⟨count, rfl⟩ := Nat.exists_eq_succ_of_ne_zero (Nat.ne_zero_of_lt hcount)
  induction before generalizing count index start with
  | nil =>
    have hread := (hfits s List.mem_cons_self).read h.left
    refine ⟨start, ?_⟩
    rw [scanSections, hread, Fault.ok_bind, hs, if_pos rfl]
    rfl
  | cons t before ih =>
    rw [List.length_cons] at hcount
    obtain ⟨count, rfl⟩ := Nat.exists_eq_succ_of_ne_zero (n := count) (by omega)
    rw [List.cons_append, List.forall_mem_cons] at hfits
    rw [List.forall_mem_cons] at hbefore
    rw [List.cons_append, List.flatMap_cons] at h
    have hright := h.right
    rw [t.length_toBytes] at hright
    obtain ⟨offset, hscan⟩ := ih (index + 1) hfits.2 hright hbefore.2 count (by omega)
    refine ⟨offset, ?_⟩
    rw [scanSections, hfits.1.read h.left, Fault.ok_bind, hbefore.1, if_neg Bool.false_ne_true]
    rw [Int.natCast_add] at hscan
    rw [hscan, List.length_cons, Nat.add_right_comm, Nat.add_assoc]

namespace Header

/-- Every field is a number that its cell can hold. -/
structure Fits (h : Header) : Prop where
  nonneg : ∀ n ∈ [h.type, h.machine, h.version, h.entry, h.programOffset, h.sectionOffset, h.flags,
    h.headerSize, h.programEntrySize, h.programCount, h.sectionEntrySize, h.sectionCount,
    h.nameSection], 0 ≤ n
  layout_fits : layout.Fits h.numbers

theorem Fits.ofNumbers_numbers {h : Header} (hfits : h.Fits) : ofNumbers h.ident h.numbers = h := by
  have hnonneg := hfits.nonneg
  simp only [List.forall_mem_cons] at hnonneg
  obtain ⟨ident, _⟩ := h
  simp only [ofNumbers, numbers, List.map_cons, List.map_nil, List.getD_cons_zero,
    List.getD_cons_succ, Header.mk.injEq, true_and] at hnonneg ⊢
  omega

theorem extract_of_checkIdentification {ident : Bytes} (h : checkIdentification ident = .ok ()) :
    ident.extract 0 4 = magic := by
  unfold checkIdentification at h
  split at h
  · cases h
  · rename_i hmagic
    exact Classical.not_not.mp hmagic

/-- A header that passes its checks is read from the bytes it is written as. -/
theorem Fits.read {h : Header} (hfits : h.Fits) (hsize : h.ident.size = identSize)
    (hcheck : h.check = .ok ()) {d : Bytes} (hat : d.HasAt 0 h.toBytes) :
    Header.read d = .ok h := by
  have hlength : h.ident.toList.length = identSize := by rw [Array.length_toList, hsize]
  have hident : d.extract 0 identSize = h.ident := by
    have hextract := hat.left.toList_extract
    rw [Nat.zero_add, hlength] at hextract
    exact Array.toList_inj.mp hextract
  have hslice : d.slice 0 identSize = .ok h.ident := by
    have hrequire := hat.left.require (by rw [hlength]; decide)
    rw [hlength] at hrequire
    rw [Bytes.slice, show d.require 0 identSize = .ok () from hrequire]
    exact congrArg Except.ok hident
  have hnumbers : d.unpack layout identSize = .ok h.numbers := by
    have hright := hat.right
    rw [Nat.zero_add, hlength] at hright
    exact hfits.layout_fits.unpack (by decide) hright
  -- The first bytes are compared before the identification is read and checked as a whole.
  obtain ⟨_, hidentification, -⟩ := Fault.bind_eq_ok_iff.mp hcheck
  have hmagic : d.extract 0 4 = magic := by
    rw [← extract_of_checkIdentification hidentification, ← hident, Array.extract_extract]
    rfl
  rw [Header.read, if_neg (not_not_intro hmagic)]
  simp only [hslice, hidentification, hnumbers, hfits.ofNumbers_numbers, hcheck, Fault.ok_bind]
  rfl

end Header

end RiscvListing
