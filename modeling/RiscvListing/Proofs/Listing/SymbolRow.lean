import Mathlib.Data.List.Nodup
import RiscvListing.Proofs.Listing

/-!
# Reading the rows of symbols

The columns of a row of symbols can be told apart although some of them are filled up on the left,
some on the right, and an entry that is too wide pushes the rest of its row to the right. No entry
has blanks, so an entry ends at the first blank behind it. The name comes last, behind a single
blank, and may hold anything.

An entry stands for one number only: the names that a column knows are made of letters, so none of
them is the numeral of a number that the column has no name for.

## Main definitions

* `Listing.IsEntry` — a text that can stand in a column.
* `Listing.IsLegible` — a way to write numbers as entries from which they can be read.
* `Symbol.LooksLike` — two symbols have the same row.

## Main results

* `Listing.isLegible_nameIn` — a table of names is legible.
* `Listing.IsLegible.alignLeft_injective`, `Listing.IsLegible.alignRight_injective` — a column and
  what stands behind it.
* `Listing.symbolRow_eq_iff` — what a row shows.
* `Listing.symbolRow_lossless` — what a row and a block of rows show.
-/

namespace RiscvListing

open Text

/-- Two symbols have the same value, size, type, binding, visibility, section and name. The place of
the name and the other bits of the packed visibility are not shown. -/
structure Symbol.LooksLike (s t : Symbol) : Prop where
  value_eq : s.value = t.value
  size_eq : s.size = t.size
  type_eq : s.type = t.type
  bind_eq : s.bind = t.bind
  visibility_eq : s.visibility = t.visibility
  sectionIndex_eq : s.sectionIndex = t.sectionIndex
  name_eq : s.name = t.name

namespace Listing

/-! ### Entries -/

/-- A text that can stand in a column: it is not empty and has no blanks and ends of lines. -/
structure IsEntry (text : String) : Prop where
  ne_nil : text.toList ≠ []
  isSolid : IsSolid text

/-- A way to write numbers as entries, each of which stands for one number. -/
structure IsLegible (written : Int → String) : Prop where
  injective : Function.Injective written
  isEntry : ∀ n, IsEntry (written n)

theorem isLegible_decimal : IsLegible Numeral.decimal where
  injective := Numeral.decimal_injective
  isEntry n := ⟨Numeral.decimal_ne_nil n, Numeral.not_mem_decimal (by decide) (by decide) n,
    Numeral.not_mem_decimal (by decide) (by decide) n⟩

theorem isLegible_upperHex : IsLegible Numeral.upperHex where
  injective := Numeral.upperHex_injective
  isEntry n := ⟨Numeral.upperHex_ne_nil n, Numeral.not_mem_upperHex (by decide) (by decide) n,
    Numeral.not_mem_upperHex (by decide) (by decide) n⟩

/-- A text of capital letters. -/
def IsWord (text : String) : Prop := text.toList ≠ [] ∧ text.toList.all Char.isUpper = true

instance (text : String) : Decidable (IsWord text) := inferInstanceAs (Decidable (_ ∧ _))

theorem IsWord.isUpper {text : String} {c : Char} (h : IsWord text) (hc : c ∈ text.toList) :
    c.isUpper = true :=
  List.all_eq_true.mp h.2 c hc

theorem IsWord.isEntry {text : String} (h : IsWord text) : IsEntry text := by
  refine ⟨h.1, fun hmem => ?_, fun hmem => ?_⟩
  · exact absurd (h.isUpper hmem) (by decide)
  · exact absurd (h.isUpper hmem) (by decide)

/-- A word is no numeral: its first letter is no digit and no sign. -/
theorem IsWord.ne_decimal {text : String} (h : IsWord text) (n : Int) :
    text ≠ Numeral.decimal n := by
  rintro rfl
  obtain ⟨c, rest, hcons⟩ := List.exists_cons_of_ne_nil h.1
  have hmem : c ∈ (Numeral.decimal n).toList := hcons ▸ List.mem_cons_self
  have hupper := h.isUpper hmem
  refine Numeral.not_mem_decimal ?_ ?_ n hmem
  · have hge : 'A'.val ≤ c.val := (of_decide_eq_true hupper).1
    rw [Char.isDigit, Bool.and_eq_false_iff, decide_eq_false_iff_not, decide_eq_false_iff_not]
    exact .inr fun hle => absurd (UInt32.le_trans hge hle) (by decide)
  · rintro rfl
    exact absurd hupper (by decide)

/-- A number is written as its name in the table, or as a numeral if it has none. -/
theorem nameIn_cases (table : List (Int × String)) (n : Int) :
    (∃ name, (n, name) ∈ table ∧ nameIn table n = name) ∨ nameIn table n = Numeral.decimal n := by
  unfold nameIn
  split
  · rename_i key name hfind
    have hkey := List.find?_some hfind
    rw [decide_eq_true_eq] at hkey
    exact .inl ⟨name, hkey ▸ List.mem_of_find?_eq_some hfind, rfl⟩
  · exact .inr rfl

/-- Numbers written by a table of different words can be read. -/
theorem isLegible_nameIn {table : List (Int × String)} (hnames : (table.map Prod.snd).Nodup)
    (hwords : ∀ row ∈ table, IsWord row.2) : IsLegible (nameIn table) where
  injective n m h := by
    rcases nameIn_cases table n with ⟨name, hmem, hn⟩ | hn <;>
      rcases nameIn_cases table m with ⟨name', hmem', hm⟩ | hm <;>
      rw [hn, hm] at h
    · exact congrArg Prod.fst (List.inj_on_of_nodup_map hnames hmem hmem' h)
    · exact absurd h ((hwords _ hmem).ne_decimal m)
    · exact absurd h.symm ((hwords _ hmem').ne_decimal n)
    · exact Numeral.decimal_injective h
  isEntry n := by
    rcases nameIn_cases table n with ⟨name, hmem, hn⟩ | hn
    · exact hn ▸ (hwords _ hmem).isEntry
    · exact hn ▸ isLegible_decimal.isEntry n

theorem isLegible_typeName : IsLegible typeName := isLegible_nameIn (by decide) (by decide)

theorem isLegible_bindName : IsLegible bindName := isLegible_nameIn (by decide) (by decide)

theorem isLegible_visibilityName : IsLegible visibilityName :=
  isLegible_nameIn (by decide) (by decide)

theorem isLegible_sectionName : IsLegible sectionName := isLegible_nameIn (by decide) (by decide)

/-! ### Columns -/

section Columns

variable {written : Int → String} {n m : Int} {width : Nat} {rest rest' : List Char} {c : Char}
  {text : String}

theorem toList_alignLeft (width : Nat) (text : String) :
    (alignLeft width text).toList =
      text.toList ++ List.replicate (width - text.toList.length) ' ' := by
  rw [alignLeft, String.toList_ofList, List.rightpad]

theorem toList_alignRight (width : Nat) (text : String) :
    (alignRight width text).toList =
      List.replicate (width - text.toList.length) ' ' ++ text.toList := by
  rw [alignRight, String.toList_ofList, List.leftpad]

/-- A column holds the characters of its entry and blanks. -/
theorem mem_alignLeft_iff (hc : c ≠ ' ') : c ∈ (alignLeft width text).toList ↔ c ∈ text.toList := by
  simp [toList_alignLeft, hc]

theorem mem_alignRight_iff (hc : c ≠ ' ') :
    c ∈ (alignRight width text).toList ↔ c ∈ text.toList := by
  simp [toList_alignRight, hc]

/-- The entry of a column that is filled up on the right ends at the first blank. -/
theorem IsLegible.alignLeft_injective (hwritten : IsLegible written)
    (h : (alignLeft width (written n)).toList ++ ' ' :: rest =
      (alignLeft width (written m)).toList ++ ' ' :: rest') : n = m ∧ rest = rest' := by
  -- A blank behind the filling can as well stand in front of it.
  have hblank : ∀ (count : Nat) (tail : List Char), List.replicate count ' ' ++ ' ' :: tail =
      ' ' :: (List.replicate count ' ' ++ tail) := by
    intro count tail
    rw [← List.singleton_append, ← List.append_assoc, ← List.replicate_succ', List.replicate_succ,
      List.cons_append]
  rw [toList_alignLeft, toList_alignLeft, List.append_assoc, List.append_assoc, hblank, hblank] at h
  obtain ⟨hentry, htail⟩ := eq_and_eq_of_append_cons (hwritten.isEntry n).isSolid.1
    (hwritten.isEntry m).isSolid.1 h
  obtain rfl := hwritten.injective (String.toList_inj.mp hentry)
  exact ⟨rfl, List.append_cancel_left htail⟩

/-- The entry of a column that is filled up on the left begins behind the blanks and ends at the
separator. -/
theorem IsLegible.alignRight_injective (hwritten : IsLegible written)
    (hc : ∀ k, c ∉ (written k).toList)
    (h : (alignRight width (written n)).toList ++ c :: rest =
      (alignRight width (written m)).toList ++ c :: rest') : n = m ∧ rest = rest' := by
  have hfirst : ∀ k, ∃ a tail, (written k).toList = a :: tail ∧ a ≠ ' ' := by
    intro k
    obtain ⟨a, tail, hcons⟩ := List.exists_cons_of_ne_nil (hwritten.isEntry k).ne_nil
    refine ⟨a, tail, hcons, ?_⟩
    rintro rfl
    exact (hwritten.isEntry k).isSolid.1 (hcons ▸ List.mem_cons_self)
  -- The first character of an entry is no blank, so both fillings are equally long.
  obtain ⟨a, tail, hn, ha⟩ := hfirst n
  obtain ⟨a', tail', hm, ha'⟩ := hfirst m
  rw [toList_alignRight, toList_alignRight, List.append_assoc, List.append_assoc, hn, hm,
    List.cons_append, List.cons_append] at h
  have hbehind := (eq_and_eq_of_replicate_append ha ha' h).2
  rw [← List.cons_append, ← List.cons_append, ← hn, ← hm] at hbehind
  obtain ⟨hentry, hrest⟩ := eq_and_eq_of_append_cons (hc n) (hc m) hbehind
  exact ⟨hwritten.injective (String.toList_inj.mp hentry), hrest⟩

end Columns

/-! ### Rows -/

theorem toList_symbolRow (index : Int) (s : Symbol) :
    (symbolRow index s).toList =
      '[' :: ((alignRight 4 (Numeral.decimal index)).toList ++ ']' :: ' ' :: '0' :: 'x' ::
        ((alignLeft 15 (Numeral.upperHex s.value)).toList ++ ' ' ::
        ((alignRight 5 (Numeral.decimal s.size)).toList ++ ' ' ::
        ((alignLeft 8 (typeName s.type)).toList ++ ' ' ::
        ((alignLeft 8 (bindName s.bind)).toList ++ ' ' ::
        ((alignLeft 8 (visibilityName s.visibility)).toList ++ ' ' ::
        ((alignRight 6 (sectionName s.sectionIndex)).toList ++ ' ' :: s.name.toList))))))) := by
  have hopen : "[".toList = ['['] := rfl
  have hclose : "] 0x".toList = [']', ' ', '0', 'x'] := rfl
  have hblank : " ".toList = [' '] := rfl
  -- Not `rw [symbolRow]`: the equation of the row is too slow to be derived.
  delta symbolRow
  simp only [String.toList_append, hopen, hclose, hblank, List.append_assoc, List.cons_append,
    List.nil_append]

/-- A row shows the number of its symbol, and of the symbol all that makes it look like another. -/
theorem symbolRow_eq_iff {i j : Int} {s t : Symbol} :
    symbolRow i s = symbolRow j t ↔ i = j ∧ s.LooksLike t := by
  have hblank : ∀ {written : Int → String}, IsLegible written → ∀ k, ' ' ∉ (written k).toList :=
    fun hwritten k => (hwritten.isEntry k).isSolid.1
  have hbracket : ∀ k, ']' ∉ (Numeral.decimal k).toList :=
    Numeral.not_mem_decimal (by decide) (by decide)
  constructor
  · intro h
    have hchars := congrArg String.toList h
    rw [toList_symbolRow, toList_symbolRow] at hchars
    -- The columns are read from left to right, each together with what stands behind it.
    rw [List.cons.injEq] at hchars
    obtain ⟨hindex, hchars⟩ := isLegible_decimal.alignRight_injective hbracket hchars.2
    simp only [List.cons.injEq, true_and] at hchars
    obtain ⟨hvalue, hchars⟩ := isLegible_upperHex.alignLeft_injective hchars
    obtain ⟨hsize, hchars⟩ :=
      isLegible_decimal.alignRight_injective (hblank isLegible_decimal) hchars
    obtain ⟨htype, hchars⟩ := isLegible_typeName.alignLeft_injective hchars
    obtain ⟨hbind, hchars⟩ := isLegible_bindName.alignLeft_injective hchars
    obtain ⟨hvisibility, hchars⟩ := isLegible_visibilityName.alignLeft_injective hchars
    obtain ⟨hsection, hname⟩ :=
      isLegible_sectionName.alignRight_injective (hblank isLegible_sectionName) hchars
    exact ⟨hindex, hvalue, hsize, htype, hbind, hvisibility, hsection, String.toList_inj.mp hname⟩
  · rintro ⟨rfl, h⟩
    rw [← String.toList_inj, toList_symbolRow, toList_symbolRow, h.value_eq, h.size_eq, h.type_eq,
      h.bind_eq, h.visibility_eq, h.sectionIndex_eq, h.name_eq]

theorem symbolRow_ne_empty (index : Int) (s : Symbol) : symbolRow index s ≠ "" := by
  intro hempty
  have hchars := toList_symbolRow index s
  rw [hempty] at hchars
  cases hchars

theorem newline_not_mem_symbolRow {s : Symbol} (index : Int) (h : '\n' ∉ s.name.toList) :
    '\n' ∉ (symbolRow index s).toList := by
  have hentry : ∀ {written : Int → String}, IsLegible written → ∀ k, '\n' ∉ (written k).toList :=
    fun hwritten k => (hwritten.isEntry k).isSolid.2
  simp [toList_symbolRow, mem_alignLeft_iff, mem_alignRight_iff, h, hentry isLegible_decimal,
    hentry isLegible_upperHex, hentry isLegible_typeName, hentry isLegible_bindName,
    hentry isLegible_visibilityName, hentry isLegible_sectionName]

/-! ### Blocks -/

theorem mem_symbolRows {index : Nat} {symbols : List Symbol} {row : String}
    (h : row ∈ symbolRows index symbols) : ∃ i, ∃ s ∈ symbols, row = symbolRow i s := by
  induction symbols generalizing index with
  | nil => cases h
  | cons s rest ih =>
    rw [symbolRows, List.mem_cons] at h
    obtain rfl | h := h
    · exact ⟨index, s, List.mem_cons_self, rfl⟩
    · obtain ⟨i, t, ht, hrow⟩ := ih h
      exact ⟨i, t, List.mem_cons_of_mem _ ht, hrow⟩

theorem forall₂_of_symbolRows_eq {index : Nat} {symbols symbols' : List Symbol}
    (h : symbolRows index symbols = symbolRows index symbols') :
    List.Forall₂ Symbol.LooksLike symbols symbols' := by
  induction symbols generalizing index symbols' with
  | nil =>
    cases symbols' with
    | nil => exact .nil
    | cons t rest' => cases h
  | cons s rest ih =>
    cases symbols' with
    | nil => cases h
    | cons t rest' =>
      obtain ⟨hrow, hrows⟩ := List.cons.inj h
      exact .cons (symbolRow_eq_iff.mp hrow).2 (ih hrows)

/-- The heading and the rows can be told apart where no name holds the end of a line. -/
theorem forall_mem_symbolLines {symbols : List Symbol}
    (h : ∀ s ∈ symbols, '\n' ∉ s.name.toList) :
    ∀ line ∈ symbolHeading :: symbolRows 0 symbols, line ≠ "" ∧ '\n' ∉ line.toList := by
  intro line hline
  obtain rfl | hrow := List.mem_cons.mp hline
  · decide
  · obtain ⟨i, s, hs, rfl⟩ := mem_symbolRows hrow
    exact ⟨symbolRow_ne_empty i s, newline_not_mem_symbolRow i (h s hs)⟩

/-- Equal rows have the same number and show the same of their symbols, whatever the names are. Two
blocks of rows whose names do not hold the end of a line are equal only if they have the same number
of rows and show the same row by row. -/
theorem symbolRow_lossless :
    (∀ (i j : Int) (s t : Symbol), symbolRow i s = symbolRow j t → i = j ∧ s.LooksLike t) ∧
      ∀ symbols symbols' : List Symbol, (∀ s ∈ symbols, '\n' ∉ s.name.toList) →
        (∀ s ∈ symbols', '\n' ∉ s.name.toList) → symbolBlock symbols = symbolBlock symbols' →
          List.Forall₂ Symbol.LooksLike symbols symbols' := by
  refine ⟨fun i j s t => symbolRow_eq_iff.mp, fun symbols symbols' hnames hnames' h => ?_⟩
  -- No line is empty, so an empty line behind the block marks where the rows end.
  have hchars : (symbolBlock symbols).toList ++ '\n' :: [] =
      (symbolBlock symbols').toList ++ '\n' :: [] := by rw [h]
  have hlines := lines_eq_of_block (forall_mem_symbolLines hnames) (forall_mem_symbolLines hnames')
    hchars
  exact forall₂_of_symbolRows_eq (List.cons.inj hlines).2

/-- A symbol whose entries are too wide for their columns and whose name begins with a blank. -/
def overlongSymbol (nameOffset other : Int) : Symbol where
  nameOffset := nameOffset
  value := 0xFFFFFFFF
  size := 0xFFFFFFFF
  info := 0xEC
  other := other
  sectionIndex := 0xFF00
  name := " main"

theorem symbolRow_lossless_overlongSymbol :
    overlongSymbol 0 3 ≠ overlongSymbol 1 7 ∧
      symbolBlock [{}, overlongSymbol 0 3] = symbolBlock [{}, overlongSymbol 1 7] ∧
      List.Forall₂ Symbol.LooksLike [{}, overlongSymbol 0 3] [{}, overlongSymbol 1 7] := by
  have hblock : symbolBlock [{}, overlongSymbol 0 3] = symbolBlock [{}, overlongSymbol 1 7] := by
    decide +kernel
  exact ⟨by decide, hblock, symbolRow_lossless.2 _ _ (by decide) (by decide) hblock⟩

end Listing

end RiscvListing
