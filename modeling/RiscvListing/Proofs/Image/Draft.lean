import RiscvListing.Proofs.Image.Container
import RiscvListing.Proofs.Image.Placement

/-!
# Drafts are read back

The container of an image that was put together from a draft holds what the draft holds. Every part
of the image stands where the headers say, so each read meets the bytes that were written for it.

## Main definitions

* `Draft.IsSound` — what a draft has to satisfy for its image to be well formed.
* `Draft.Placed` — where the parts of an image stand.

## Main results

* `Draft.placed` — the image of a draft holds the parts of the draft.
* `Draft.IsSound.exists_container` — the image of a sound draft is read.
* `Draft.read_toBytes` — code and symbols are read back from an image.
-/

namespace RiscvListing

/-! ### Symbols -/

namespace DraftSymbol

/-- The symbol at the start of every table. -/
def null : DraftSymbol := { name := "", sectionIndex := 0 }

/-- The numbers of the record of a symbol whose name begins at `nameOffset`. -/
def numbers (nameOffset : Nat) (s : DraftSymbol) : List Nat :=
  [nameOffset, s.value.toNat, s.size.toNat, (s.bind ++ s.type).toNat, s.other.toNat,
    s.sectionIndex.toNat]

/-- The symbol that is read from the record of a draft. -/
def entry (nameOffset : Nat) (s : DraftSymbol) : Symbol :=
  .ofNumbers (s.numbers nameOffset) s.name

theorem fits_numbers {nameOffset : Nat} (h : nameOffset < 2 ^ 32) (s : DraftSymbol) :
    Symbol.layout.Fits (s.numbers nameOffset) :=
  .cons h <| .cons s.value.isLt <| .cons s.size.isLt <| .cons (s.bind ++ s.type).isLt <|
    .cons s.other.isLt <| .cons s.sectionIndex.isLt .nil

theorem length_record (nameOffset : Nat) (s : DraftSymbol) :
    (s.record nameOffset).length = Symbol.stride :=
  Layout.length_pack rfl

theorem info_entry (nameOffset : Nat) (s : DraftSymbol) :
    (s.entry nameOffset).info = 16 * s.bind.toNat + s.type.toNat := by
  -- Binding and type are the two halves of one byte.
  change ((s.bind ++ s.type).toNat : Int) = _
  rw [BitVec.toNat_append, ← Nat.shiftLeft_add_eq_or_of_lt s.type.isLt, Nat.shiftLeft_eq]
  omega

theorem type_entry (nameOffset : Nat) (s : DraftSymbol) :
    (s.entry nameOffset).type = s.type.toNat := by
  have htype := s.type.isLt
  rw [Symbol.type, info_entry]
  omega

theorem bind_entry (nameOffset : Nat) (s : DraftSymbol) :
    (s.entry nameOffset).bind = s.bind.toNat := by
  have htype := s.type.isLt
  rw [Symbol.bind, info_entry]
  omega

/-- A record and the name it points at are read as a symbol. -/
theorem read_entry {d : Bytes} {nameOffset start strings : Nat} {s : DraftSymbol}
    (hsmall : nameOffset < 2 ^ 32) (hname : IsLatin s.name)
    (hrecord : d.HasAt start (s.record nameOffset))
    (hstring : d.HasAt (strings + nameOffset) (terminated s.name)) :
    Symbol.read d start strings = .ok (s.entry nameOffset) := by
  have hunpack : d.unpack Symbol.layout start = .ok (s.numbers nameOffset) :=
    (s.fits_numbers hsmall).unpack (by decide) hrecord
  have hread := StringCursor.read_of_hasAt
    (c := { table := (strings : Int) + (nameOffset : Int) }) rfl hstring hname
  rw [Symbol.read, hunpack]
  change ((StringCursor.read d { table := (strings : Int) + (nameOffset : Int) }).1 >>=
    fun _ => _) = _
  rw [hread]
  rfl

end DraftSymbol

namespace Draft

/-- The symbols that are read from the records of a draft. -/
def entries (nameOffset : Nat) : List DraftSymbol → List Symbol
  | [] => []
  | s :: rest => s.entry nameOffset :: entries (nameOffset + s.name.length + 1) rest

theorem length_records (nameOffset : Nat) (symbols : List DraftSymbol) :
    (records nameOffset symbols).length = Symbol.stride * symbols.length := by
  induction symbols generalizing nameOffset with
  | nil => rfl
  | cons s rest ih =>
    rw [records, List.length_append, s.length_record, ih, List.length_cons, Nat.mul_succ,
      Nat.add_comm]

theorem readEntries_records {d : Bytes} {nameOffset start strings : Nat}
    {symbols : List DraftSymbol} (hnames : ∀ s ∈ symbols, IsLatin s.name)
    (hsmall : nameOffset + (symbols.flatMap fun s => terminated s.name).length ≤ 2 ^ 32)
    (hrecords : d.HasAt start (records nameOffset symbols))
    (hstrings : d.HasAt (strings + nameOffset) (symbols.flatMap fun s => terminated s.name)) :
    SymbolTable.readEntries d strings symbols.length start = .ok (entries nameOffset symbols) := by
  -- The induction moves through the records and through the names at once.
  induction symbols generalizing nameOffset start with
  | nil => rfl
  | cons s rest ih =>
    rw [List.forall_mem_cons] at hnames
    rw [List.flatMap_cons, List.length_append, length_terminated] at hsmall
    rw [records] at hrecords
    rw [List.flatMap_cons] at hstrings
    have hread := DraftSymbol.read_entry (by omega) hnames.1 hrecords.left hstrings.left
    have hlater := hrecords.right
    have hbehind := hstrings.right
    rw [s.length_record] at hlater
    rw [length_terminated, Nat.add_assoc, ← Nat.add_assoc nameOffset] at hbehind
    have hrest := ih hnames.2 (by omega) hlater hbehind
    rw [List.length_cons, SymbolTable.readEntries, hread]
    change (SymbolTable.readEntries d strings rest.length (start + Symbol.stride : Nat) >>=
      fun _ => _) = _
    rw [hrest]
    rfl

/-! ### The parts of an image -/

/-- The symbols of an image, the empty one included. -/
def table (d : Draft) : List DraftSymbol := .null :: d.symbols

theorem symbolTable_eq_records (d : Draft) : d.symbolTable = records 0 d.table := rfl

theorem symbolNames_eq_flatMap (d : Draft) :
    d.symbolNames = d.table.flatMap fun s => terminated s.name := rfl

theorem sectionNames_eq_flatMap :
    sectionNames = ["", ".text", ".symtab", ".strtab", ".shstrtab"].flatMap terminated := rfl

theorem length_header (d : Draft) : d.header.toBytes.length = headerSize := by
  rw [Header.toBytes, List.length_append, Layout.length_pack rfl]
  rfl

theorem length_le_length_aligned (bytes : List UInt8) : bytes.length ≤ (aligned bytes).length := by
  rw [aligned, List.length_append]
  exact Nat.le_add_right _ _

theorem length_code (d : Draft) : d.code.length = 4 * d.words.length + d.tail.length := by
  rw [code, List.length_append, Bytes.length_flatMap_bytes]

/-- Where the parts of an image stand. -/
structure Placed (d : Draft) (image : Bytes) : Prop where
  size_eq : image.size = d.sectionOffset + 5 * SectionHeader.stride
  header_at : image.HasAt 0 d.header.toBytes
  code_at : image.HasAt codeOffset d.code
  symbols_at : image.HasAt d.symbolOffset d.symbolTable
  names_at : image.HasAt d.nameOffset d.symbolNames
  sectionNames_at : image.HasAt d.sectionNameOffset sectionNames
  sections_at : image.HasAt d.sectionOffset (d.sections.flatMap SectionHeader.toBytes)

theorem length_sections (d : Draft) :
    (d.sections.flatMap SectionHeader.toBytes).length = 5 * SectionHeader.stride := by
  simp only [sections, List.flatMap_cons, List.flatMap_nil, List.length_append, List.length_nil,
    SectionHeader.length_toBytes]
  rfl

theorem size_toBytes (d : Draft) : d.toBytes.size = d.sectionOffset + 5 * SectionHeader.stride := by
  rw [toBytes, List.size_toArray]
  simp only [List.length_append, length_header, length_sections]
  rfl

theorem placed (d : Draft) : d.Placed d.toBytes := by
  -- What fills a part up to a multiple of four stands behind the part.
  have hparts : d.toBytes.HasAt 0 _ := Bytes.hasAt_zero_toArray _
  simp only [Bytes.hasAt_append, List.length_append, length_header, Nat.zero_add,
    ← Nat.add_assoc] at hparts
  obtain ⟨⟨⟨⟨⟨hheader, hcode⟩, hsymbols⟩, hnames⟩, hsectionNames⟩, hsections⟩ := hparts
  exact ⟨d.size_toBytes, hheader, hcode.left, hsymbols.left, hnames.left, hsectionNames.left,
    hsections⟩

/-! ### Sound drafts -/

/-- Fewer bytes than a word behind the last word, names that a string table can hold, and an image
whose offsets are numbers of 32 bits. -/
structure IsSound (d : Draft) : Prop where
  length_tail : d.tail.length ≤ 3
  names : ∀ s ∈ d.symbols, IsLatin s.name
  size_lt : d.toBytes.size < 2 ^ 32

/-- The parts of an image follow each other, so the section headers lie behind all of them. -/
theorem offsets_le (d : Draft) :
    codeOffset + d.code.length ≤ d.symbolOffset ∧
      d.symbolOffset + d.symbolTable.length ≤ d.nameOffset ∧
      d.nameOffset + d.symbolNames.length ≤ d.sectionNameOffset ∧
      d.sectionNameOffset + sectionNames.length ≤ d.sectionOffset :=
  ⟨Nat.add_le_add_left (length_le_length_aligned _) _,
    Nat.add_le_add_left (length_le_length_aligned _) _,
    Nat.add_le_add_left (length_le_length_aligned _) _,
    Nat.add_le_add_left (length_le_length_aligned _) _⟩

theorem IsSound.sectionOffset_lt {d : Draft} (h : d.IsSound) : d.sectionOffset < 2 ^ 32 := by
  have hsize := h.size_lt
  rw [d.size_toBytes] at hsize
  omega

theorem IsSound.sections_fit {d : Draft} (h : d.IsSound) : ∀ s ∈ d.sections, s.Fits := by
  have hoffsets := d.offsets_le
  have hsection := h.sectionOffset_lt
  have hbase := d.base.isLt
  simp only [sections, SectionHeader.Fits, List.forall_mem_cons, SectionHeader.symbolTableType,
    Symbol.stride, codeOffset, headerSize, List.not_mem_nil, false_implies, implies_true, and_true]
  omega

theorem sectionCount_header (d : Draft) :
    d.header.sectionCount = 5 ∨ d.header.sectionCount = 0 := by
  cases hcounted : d.counted with
  | true => exact .inl (if_pos hcounted)
  | false => exact .inr (if_neg (ne_true_of_eq_false hcounted))

theorem IsSound.header_fits {d : Draft} (h : d.IsSound) : d.header.Fits := by
  have hcount := d.sectionCount_header
  constructor
  · simp only [header, List.forall_mem_cons, Header.riscv, headerSize, SectionHeader.stride,
      List.not_mem_nil, false_implies, implies_true, and_true] at hcount ⊢
    omega
  · have hcell : d.header.sectionCount.toNat < 256 ^ 2 := by omega
    have hnumbers : d.header.numbers = [2, 243, 1, d.base.toNat, 0, d.sectionOffset, 0, 52, 0, 0,
      40, d.header.sectionCount.toNat, 4] := rfl
    rw [hnumbers]
    exact .cons (by decide) <| .cons (by decide) <| .cons (by decide) <| .cons d.base.isLt <|
      .cons (by decide) <| .cons h.sectionOffset_lt <| .cons (by decide) <| .cons (by decide) <|
      .cons (by decide) <| .cons (by decide) <| .cons (by decide) <| .cons hcell <|
      .cons (by decide) .nil

theorem check_header (d : Draft) : d.header.check = .ok () := by
  have hident : Header.checkIdentification d.header.ident = .ok () := by
    change Header.checkIdentification (Header.magic ++ #[1, 1, 1] ++ Array.replicate 9 0) = .ok ()
    decide
  rw [Header.check, hident]
  rfl

/-! ### Reading an image -/

theorem sectionOffset_header (d : Draft) : d.header.sectionOffset = d.sectionOffset := rfl

/-- The number of section headers is known whether or not the file header gives it. -/
theorem sectionCount_toBytes (d : Draft) : Container.sectionCount d.toBytes d.header = 5 := by
  have hsize := d.size_toBytes
  rw [SectionHeader.stride] at hsize
  rw [Container.sectionCount, hsize, sectionOffset_header, SectionHeader.stride]
  rcases d.sectionCount_header with hcount | hcount
  · rw [hcount]
    rfl
  · -- Without a number, as many headers are counted as fit into the rest of the image.
    rw [hcount, if_neg (fun h => h rfl)]
    omega

theorem IsSound.findSection {d : Draft} (h : d.IsSound) (condition : SectionHeader → Bool)
    (name : String) (before : List SectionHeader) {after : List SectionHeader} {s : SectionHeader}
    (hsections : d.sections = before ++ s :: after)
    (hbefore : ∀ t ∈ before, ∀ offset, condition { t with offset } = false)
    (hs : ∀ offset, condition { s with offset } = true) :
    ∃ offset, Container.findSection d.toBytes d.header condition name =
      .ok (before.length, { s with offset }) := by
  have hlength : before.length < 5 := by
    have hfive : d.sections.length = 5 := rfl
    rw [hsections, List.length_append, List.length_cons] at hfive
    omega
  obtain ⟨offset, hscan⟩ := Container.scanSections_of_hasAt 0
    (hsections ▸ h.sections_fit) (hsections ▸ d.placed.sections_at) hbefore hs hlength
  refine ⟨offset, ?_⟩
  rw [Container.findSection, sectionCount_toBytes, sectionOffset_header, hscan, Nat.zero_add,
    Fault.ok_bind]
  rfl

/-- The section with the section names is the last one. -/
theorem IsSound.readNames {d : Draft} (h : d.IsSound) :
    ∃ names, SectionHeader.read d.toBytes
        (d.header.sectionOffset + d.header.sectionEntrySize * d.header.nameSection) = .ok names ∧
      names.dataOffset = d.sectionNameOffset ∧ names.size = sectionNames.length := by
  have hsections := d.placed.sections_at
  rw [← List.take_append_drop 4 d.sections, List.flatMap_append] at hsections
  have hlast := hsections.right
  have hlength : ((d.sections.take 4).flatMap SectionHeader.toBytes).length = 160 := by
    simp only [sections, List.take_succ_cons, List.take_zero, List.flatMap_cons, List.flatMap_nil,
      List.length_append, List.length_nil, SectionHeader.length_toBytes]
    rfl
  rw [hlength] at hlast
  have hfits := h.sections_fit _ (List.mem_of_mem_drop (i := 4) List.mem_cons_self)
  exact ⟨_, hfits.read hlast.left, rfl, rfl⟩

/-- A section name is found where its section header says. -/
theorem sectionRecord_toBytes {d : Draft} {names : SectionHeader} (texts : List String)
    {after : List String} {name : String} (hdata : names.dataOffset = d.sectionNameOffset)
    (hsize : names.size = sectionNames.length)
    (hnames : ["", ".text", ".symtab", ".strtab", ".shstrtab"] = texts ++ name :: after)
    (hfirst : name ∉ texts) :
    Container.sectionRecord d.toBytes names name = .ok (texts.flatMap terminated).length := by
  have hsplit : sectionNames =
      (texts ++ [name]).flatMap terminated ++ after.flatMap terminated := by
    rw [sectionNames_eq_flatMap, hnames, ← List.flatMap_append, List.append_assoc,
      List.singleton_append]
  have hlatin : ∀ t ∈ ["", ".text", ".symtab", ".strtab", ".shstrtab"], IsLatin t := by
    decide
  have hat := d.placed.sectionNames_at
  rw [hsplit] at hat
  refine Container.sectionRecord_of_hasAt hdata hat.left ?_ hfirst ?_
  · intro t ht
    refine hlatin t ?_
    rw [hnames, List.append_cons]
    exact List.mem_append_left _ ht
  · rw [hsize, hsplit]
    simp only [List.flatMap_append, List.flatMap_singleton, List.length_append, length_terminated]
    omega

theorem IsSound.readSymbols {d : Draft} (h : d.IsSound) {symbols names : SectionHeader}
    (hentry : symbols.entrySize = Symbol.stride) (hsize : symbols.size = d.symbolTable.length)
    (hsymbols : symbols.dataOffset = d.symbolOffset) (hnames : names.dataOffset = d.nameOffset) :
    Container.readSymbols d.toBytes symbols names =
      .ok { count := d.table.length, entries := entries 0 d.table } := by
  have hlatin : ∀ s ∈ d.table, IsLatin s.name :=
    List.forall_mem_cons.mpr ⟨by decide, h.names⟩
  have hbound := d.offsets_le
  have hsmall := h.sectionOffset_lt
  have hentries : SymbolTable.readEntries d.toBytes d.nameOffset d.table.length d.symbolOffset =
      .ok (entries 0 d.table) :=
    readEntries_records hlatin (by rw [← symbolNames_eq_flatMap]; omega) d.placed.symbols_at
      d.placed.names_at
  have hcount : symbols.size / symbols.entrySize = d.table.length := by
    rw [hsize, hentry, symbolTable_eq_records, length_records, Symbol.stride]
    omega
  rw [Container.readSymbols, if_neg (by rw [hentry]; decide), hcount, SymbolTable.read, hsymbols,
    hnames, Int.toNat_natCast, hentries]
  rfl

/-- The image of a sound draft is read, with the code and the symbols of the draft. -/
theorem IsSound.exists_container {d : Draft} (h : d.IsSound) :
    ∃ c : Container, c.Of d.toBytes ∧ c.code.address = d.base.toNat ∧
      c.code.dataOffset = codeOffset ∧ c.code.size = d.code.length ∧
      c.symbols = entries 0 d.table := by
  obtain ⟨names, hnames, hdata, hsize⟩ := h.readNames
  obtain ⟨codeAt, hcode⟩ := h.findSection (·.nameOffset = 1) Container.codeName
    (d.sections.take 1) rfl (by simp [sections]) (by simp)
  obtain ⟨symbolNamesAt, hsymbolNames⟩ := h.findSection (·.nameOffset = 15)
    Container.symbolNamesName (d.sections.take 3) rfl (by simp [sections]) (by simp)
  obtain ⟨symbolsAt, hsymbols⟩ := h.findSection (·.type = SectionHeader.symbolTableType)
    Container.symbolsName (d.sections.take 2) rfl
    (by simp [sections, SectionHeader.symbolTableType]) (by simp)
  -- Each name begins where its section header says, at 1 and at 15.
  have hcodeRecord := sectionRecord_toBytes [""] hdata hsize rfl (by decide)
  have hstringRecord := sectionRecord_toBytes ["", ".text", ".symtab"] hdata hsize rfl
    (by decide)
  have hheader := h.header_fits.read rfl d.check_header d.placed.header_at
  refine ⟨⟨d.header, names, _, _, _, _⟩, ⟨hheader, hnames, ⟨1, _, hcodeRecord, hcode⟩,
    ⟨15, _, hstringRecord, hsymbolNames⟩, ⟨_, hsymbols⟩, h.readSymbols rfl rfl rfl rfl⟩, rfl, rfl,
    rfl, rfl⟩

theorem IsSound.codeWords {d : Draft} (h : d.IsSound) {c : Container}
    (haddress : c.code.address = d.base.toNat) (hdata : c.code.dataOffset = codeOffset)
    (hsize : c.code.size = d.code.length) :
    c.codeWords d.toBytes = .ok (d.words.mapIdx fun i word =>
      (((d.base.toNat + 4 * i) % 2 ^ 32 : Int), (word.toNat : Int))) := by
  have htail := h.length_tail
  have hlimit := h.size_lt
  have hcount : c.code.size / (Container.wordSize : Int) = d.words.length := by
    rw [hsize, d.length_code, Container.wordSize]
    omega
  have hwords := d.placed.code_at.left.words (by rw [Bytes.recordLimit]; omega)
  have hbase := d.base.isLt
  rw [Container.codeWords, hcount, hdata, hwords, haddress]
  change Except.ok (Container.addressed (d.base.toNat : Int) (d.words.map BitVec.toNat)) = _
  rw [Container.addressed_eq_mapIdx (by omega) (by omega)]
  refine congrArg Except.ok (List.ext_getElem (by simp) fun i _ _ => ?_)
  simp only [List.getElem_mapIdx, List.getElem_map]

theorem map_entries (nameOffset : Nat) (symbols : List DraftSymbol) :
    (entries nameOffset symbols).map
        (fun e => (e.name, e.value, e.size, e.type, e.bind, e.other, e.sectionIndex)) =
      symbols.map fun s => (s.name, (s.value.toNat : Int), (s.size.toNat : Int),
        (s.type.toNat : Int), (s.bind.toNat : Int), (s.other.toNat : Int),
        (s.sectionIndex.toNat : Int)) := by
  induction symbols generalizing nameOffset with
  | nil => rfl
  | cons s rest ih =>
    rw [entries, List.map_cons, List.map_cons, ih, s.type_entry, s.bind_entry]
    rfl

/-- The image of a sound draft is read. Its words of code are those of the draft, four bytes apart
from the base address on, and its symbols are an empty one and those of the draft. -/
theorem read_toBytes (d : Draft) (h : d.IsSound) :
    ∃ c, (Container.read d.toBytes).outcome = .ok c ∧
      c.codeWords d.toBytes = .ok (d.words.mapIdx fun i word =>
        (((d.base.toNat + 4 * i) % 2 ^ 32 : Int), (word.toNat : Int))) ∧
      ∃ entries, c.symbols = {} :: entries ∧
        entries.map
            (fun e => (e.name, e.value, e.size, e.type, e.bind, e.other, e.sectionIndex)) =
          d.symbols.map fun s => (s.name, (s.value.toNat : Int), (s.size.toNat : Int),
            (s.type.toNat : Int), (s.bind.toNat : Int), (s.other.toNat : Int),
            (s.sectionIndex.toNat : Int)) := by
  obtain ⟨c, hof, haddress, hdata, hsize, hsymbols⟩ := h.exists_container
  refine ⟨c, Container.outcome_read_eq_ok_iff.mpr hof, h.codeWords haddress hdata hsize,
    entries 1 d.symbols, hsymbols, map_entries 1 d.symbols⟩

/-- Code that ends behind the end of the address space with half a word, a name that is not ASCII,
and no number of section headers. -/
def wrapped : Draft where
  words := [0x00000013#32, 0x00000073#32]
  base := 0xFFFFFFFC#32
  tail := [1, 2]
  symbols := [{ name := "é", value := 4, type := 2, bind := 1 }]
  counted := false

theorem read_toBytes_wrapped :
    wrapped.IsSound ∧ ∃ c, (Container.read wrapped.toBytes).outcome = .ok c ∧
      c.codeWords wrapped.toBytes = .ok [(0xFFFFFFFC, 0x13), (0, 0x73)] ∧
      c.symbols.map (fun e => (e.name, e.value, e.type, e.bind)) =
        [("", 0, 0, 0), ("é", 4, 2, 1)] := by
  have hsound : wrapped.IsSound := ⟨by decide, by decide, by decide +kernel⟩
  obtain ⟨c, hread, hwords, entries, hsymbols, hentries⟩ := read_toBytes wrapped hsound
  refine ⟨hsound, c, hread, hwords, ?_⟩
  have hshown := congrArg (List.map fun e => (e.1, e.2.1, e.2.2.2.1, e.2.2.2.2.1)) hentries
  rw [List.map_map] at hshown
  rw [hsymbols, List.map_cons]
  exact congrArg _ hshown

end Draft

end RiscvListing
