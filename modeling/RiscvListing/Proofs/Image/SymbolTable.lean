import RiscvListing.Image.Draft
import RiscvListing.Proofs.Image.SectionScan

/-!
# Where symbols are read

The records of a symbol table are read 16 bytes apart, and there are as many of them as the entry
size of the section divides its size. The two go together if the entry size is 16: the records then
fill the section as far as whole records go. Larger entries are read from the front of the section
without their gaps. Smaller entries are too many: where they divide the size of the section, the
records run over its end, and what stands behind the section is taken for symbols.

## Main results

* `SymbolTable.readEntries_eq_ok_iff` — the records of a table, one by one.
* `Container.Of.length_symbols`, `Container.Of.read_symbol` — how many symbols there are, and where
  each of them is read.
* `Container.symbols_of_section` — when the symbols are those of their section.
* `Container.symbols_leave_section` — entry sizes for which they are not.
-/

namespace RiscvListing

/-! ### Records in a row -/

/-- The records of a table are those that are read one by one, at multiples of the stride. -/
theorem SymbolTable.readEntries_eq_ok_iff {d : Bytes} {strings offset : Int} {count : Nat}
    {entries : List Symbol} :
    readEntries d strings count offset = .ok entries ↔
      entries.length = count ∧ ∀ (i : Nat) s, entries[i]? = some s →
        Symbol.read d (offset + Symbol.stride * i) strings = .ok s := by
  -- The place of the first record moves on with each record, so the offset is general.
  induction count generalizing offset entries with
  | zero =>
    rw [readEntries, Except.ok.injEq, eq_comm, List.length_eq_zero_iff]
    refine ⟨fun h => ⟨h, ?_⟩, And.left⟩
    rintro i s hs
    rw [h] at hs
    cases hs
  | succ count ih =>
    have hnext : ∀ i : Nat, offset + Symbol.stride + Symbol.stride * i =
        offset + Symbol.stride * (i + 1 : Nat) := by
      intro i
      simp only [Symbol.stride]
      omega
    simp only [readEntries, Fault.bind_eq_ok_iff, ih, hnext]
    constructor
    · rintro ⟨first, hfirst, rest, ⟨hlength, hrest⟩, hentries⟩
      cases hentries
      refine ⟨congrArg Nat.succ hlength, ?_⟩
      rintro (_ | i) s hs
      · cases hs
        rwa [Int.natCast_zero, Int.mul_zero, Int.add_zero]
      · exact hrest i s hs
    · rintro ⟨hlength, hall⟩
      obtain ⟨first, rest, rfl⟩ := List.exists_cons_of_length_eq_add_one hlength
      have hfirst := hall 0 first rfl
      rw [Int.natCast_zero, Int.mul_zero, Int.add_zero] at hfirst
      exact ⟨first, hfirst, rest, ⟨Nat.succ.inj hlength, fun i s hs => hall (i + 1) s hs⟩, rfl⟩

namespace Container

variable {d : Bytes} {c : Container}

/-! ### The symbols of a container -/

theorem Of.exists_read_symbolSection (h : Of d c) :
    ∃ place, SectionHeader.read d place = .ok c.symbolSection := by
  obtain ⟨number, hfind⟩ := h.symbolSection_eq
  exact exists_read_of_findSection hfind

/-- The symbols are read as the records of a table, and the entry size is not zero. -/
theorem Of.readEntries_symbols (h : Of d c) :
    0 < c.symbolSection.entrySize ∧
      SymbolTable.readEntries d c.symbolNames.dataOffset
        (c.symbolSection.size / c.symbolSection.entrySize).toNat c.symbolSection.dataOffset =
          .ok c.symbols := by
  have hnonneg : 0 ≤ c.symbolSection.entrySize := by
    obtain ⟨place, hread⟩ := h.exists_read_symbolSection
    obtain ⟨numbers, hnumbers⟩ := SectionHeader.exists_eq_ofNumbers_of_read hread
    rw [hnumbers]
    exact Int.natCast_nonneg _
  have htable := h.table_eq
  unfold readSymbols at htable
  split at htable
  · cases htable
  · obtain ⟨entries, hentries, htable⟩ := Fault.bind_eq_ok_iff.mp htable
    have hsymbols : c.symbols = entries := by
      rw [symbols, ← Except.ok.inj htable]
    exact ⟨by omega, hsymbols ▸ hentries⟩

/-- There are as many symbols as entries in their section. -/
theorem Of.length_symbols (h : Of d c) :
    (c.symbols.length : Int) = c.symbolSection.size / c.symbolSection.entrySize := by
  obtain ⟨place, hread⟩ := h.exists_read_symbolSection
  obtain ⟨hpos, hentries⟩ := h.readEntries_symbols
  have hsize := (SectionHeader.isBounded_of_read hread).size_nonneg
  rw [(SymbolTable.readEntries_eq_ok_iff.mp hentries).1]
  exact Int.toNat_of_nonneg (Int.ediv_nonneg hsize hpos.le)

/-- Symbols are read 16 bytes apart, whatever the entry size is. -/
theorem Of.read_symbol (h : Of d c) {i : Nat} {s : Symbol} (hs : c.symbols[i]? = some s) :
    Symbol.read d (c.symbolSection.dataOffset + 16 * i) c.symbolNames.dataOffset = .ok s :=
  (SymbolTable.readEntries_eq_ok_iff.mp h.readEntries_symbols.2).2 i s hs

/-- Records of 16 bytes lie inside the section if the entries are not smaller. -/
theorem Of.symbols_le_size (h : Of d c) (hentry : 16 ≤ c.symbolSection.entrySize) :
    16 * c.symbols.length ≤ c.symbolSection.size := by
  rw [h.length_symbols]
  calc 16 * (c.symbolSection.size / c.symbolSection.entrySize)
      ≤ c.symbolSection.entrySize * (c.symbolSection.size / c.symbolSection.entrySize) :=
        Int.mul_le_mul_of_nonneg_right hentry (h.length_symbols ▸ Int.natCast_nonneg _)
    _ ≤ c.symbolSection.size := Int.mul_ediv_self_le h.readEntries_symbols.1.ne'

/-- Smaller entries that fill a section are read over its end. -/
theorem Of.size_lt_symbols (h : Of d c) (hentry : c.symbolSection.entrySize < 16)
    (hwhole : c.symbolSection.entrySize ∣ c.symbolSection.size) (hsize : c.symbolSection.size ≠ 0) :
    c.symbolSection.size < 16 * c.symbols.length := by
  -- Nothing is lost in the division, so each entry is read as 16 bytes.
  have hlength := h.length_symbols
  obtain ⟨count, hcount⟩ := hwhole
  rw [hcount, Int.mul_ediv_cancel_left count h.readEntries_symbols.1.ne'] at hlength
  have hpos : 0 < count := by
    have hne : count ≠ 0 := by
      rintro rfl
      exact hsize (hcount.trans (Int.mul_zero _))
    omega
  rw [hcount, hlength]
  exact Int.mul_lt_mul_of_pos_right hentry hpos

/-- The symbols of an image are as many as the entries of their section, and they are read 16 bytes
apart from its start on. With entries of 16 bytes they are the entries of the section and lie inside
it. They lie inside it with larger entries, too, and leave it with smaller ones that fill it. -/
theorem symbols_of_section (d : Bytes) (c : Container) (h : (read d).outcome = .ok c) :
    0 < c.symbolSection.entrySize ∧
      (c.symbols.length : Int) = c.symbolSection.size / c.symbolSection.entrySize ∧
      (∀ (i : Nat) s, c.symbols[i]? = some s →
        Symbol.read d (c.symbolSection.dataOffset + 16 * i) c.symbolNames.dataOffset = .ok s) ∧
      (c.symbolSection.entrySize = 16 →
        16 * c.symbols.length ≤ c.symbolSection.size ∧
        ∀ (i : Nat) s, c.symbols[i]? = some s →
          Symbol.read d (c.symbolSection.dataOffset + i * c.symbolSection.entrySize)
            c.symbolNames.dataOffset = .ok s) ∧
      (16 ≤ c.symbolSection.entrySize → 16 * c.symbols.length ≤ c.symbolSection.size) ∧
      (c.symbolSection.entrySize < 16 → c.symbolSection.entrySize ∣ c.symbolSection.size →
        c.symbolSection.size ≠ 0 → c.symbolSection.size < 16 * c.symbols.length) := by
  have hof := outcome_read_eq_ok_iff.mp h
  refine ⟨hof.readEntries_symbols.1, hof.length_symbols, fun i s => hof.read_symbol,
    fun hentry => ⟨hof.symbols_le_size hentry.ge, fun i s hs => ?_⟩, hof.symbols_le_size,
    hof.size_lt_symbols⟩
  rw [hentry, Int.mul_comm]
  exact hof.read_symbol hs

/-! ### Entry sizes -/

/-- The image of a draft in which the section with the symbols has another entry size. -/
def resized (draft : Draft) (entrySize : Int) : Bytes :=
  (draft.header.toBytes ++ aligned draft.code ++ aligned draft.symbolTable ++
    aligned draft.symbolNames ++ aligned Draft.sectionNames ++
    draft.sections.flatMap fun s =>
      SectionHeader.toBytes <|
        if s.type = SectionHeader.symbolTableType then { s with entrySize } else s).toArray

/-- A draft with one word of code and no symbols but the empty one. -/
def withoutSymbols : Draft where
  words := [0x13#32]
  base := 0x10000#32

/-- A draft with three symbols behind the empty one. -/
def threefold : Draft where
  words := [0x13#32]
  base := 0x10000#32
  symbols := [{ name := "a" }, { name := "b" }, { name := "c" }]

theorem symbols_of_section_threefold :
    ∃ c, (read (resized threefold 16)).outcome = .ok c ∧
      c.symbols.map Symbol.name = ["", "a", "b", "c"] ∧ c.symbolSection.size = 64 ∧
      16 * c.symbols.length ≤ c.symbolSection.size := by
  have hread : (read (resized threefold 16)).outcome.map
      (fun c => (c.symbols.map Symbol.name, c.symbolSection.size, c.symbolSection.entrySize)) =
        .ok (["", "a", "b", "c"], 64, 16) := by decide +kernel
  obtain ⟨c, hc, hparts⟩ := Fault.map_eq_ok_iff.mp hread
  simp only [Prod.mk.injEq] at hparts
  obtain ⟨hnames, hsize, hentry⟩ := hparts
  exact ⟨c, hc, hnames, hsize, ((symbols_of_section _ c hc).2.2.2.1 hentry).1⟩

/-- With entries of 8 bytes, two symbols are read from a section of 16 bytes, and the second one is
made of section names. With entries of 32 bytes, the second symbol is not the second entry. -/
theorem symbols_leave_section :
    (∃ c, (read (resized withoutSymbols 8)).outcome = .ok c ∧ c.symbolSection.size = 16 ∧
        c.symbols.length = 2 ∧ ¬16 * (c.symbols.length : Int) ≤ c.symbolSection.size) ∧
      ∃ c s, (read (resized threefold 32)).outcome = .ok c ∧
        c.symbols.map Symbol.name = ["", "a"] ∧
        Symbol.read (resized threefold 32)
          (c.symbolSection.dataOffset + 1 * c.symbolSection.entrySize) c.symbolNames.dataOffset =
            .ok s ∧ s.name = "b" := by
  constructor
  · have hread : (read (resized withoutSymbols 8)).outcome.map
        (fun c => (c.symbolSection.size, c.symbols.length)) = .ok (16, 2) := by decide +kernel
    obtain ⟨c, hc, hparts⟩ := Fault.map_eq_ok_iff.mp hread
    obtain ⟨hsize, hlength⟩ := Prod.mk.inj hparts
    exact ⟨c, hc, hsize, hlength, by rw [hsize, hlength]; decide⟩
  · have hread : (read (resized threefold 32)).outcome.map
        (fun c => (c.symbols.map Symbol.name, c.symbolSection.dataOffset,
          c.symbolSection.entrySize, c.symbolNames.dataOffset)) =
          .ok (["", "a"], 56, 32, 120) := by decide +kernel
    obtain ⟨c, hc, hparts⟩ := Fault.map_eq_ok_iff.mp hread
    simp only [Prod.mk.injEq] at hparts
    obtain ⟨hnames, hdata, hentry, hstrings⟩ := hparts
    have hsecond : (Symbol.read (resized threefold 32) (56 + 1 * 32) 120).map Symbol.name =
        .ok "b" := by decide +kernel
    obtain ⟨s, hs, hname⟩ := Fault.map_eq_ok_iff.mp hsecond
    exact ⟨c, s, hc, hnames, by rw [hdata, hentry, hstrings]; exact hs, hname⟩

end Container

end RiscvListing
