import RiscvListing.Proofs.Disassembly.Passes
import RiscvListing.Proofs.Listing

/-!
# Listings lose nothing

Where neither the names of functions nor the stem of synthetic labels hold blanks or ends of lines,
every line of a listing can be read, and the code can be assembled from the listing again. Only
three bits of a register jump are not shown.

## Main definitions

* `CodeLine.Agrees` — two lines show the same code.

## Main results

* `Disassembly.Of.isReadable` — the lines of a disassembly can be read.
* `Disassembly.agrees_of_render_eq` — disassemblies with the same listing have the same code.
-/

namespace RiscvListing

open Listing

/-! ### Labels without blanks -/

theorem LabelStyle.isSolid_name {style : LabelStyle} {digits : Int} {number : Nat} {label : String}
    (hnumbering : style.numbering = .ofInt digits) (hstem : IsSolid style.stem)
    (h : style.name number = .ok label) : IsSolid label := by
  have hwritten : ∀ numeral, style.numbering.write number = .ok numeral → IsSolid numeral := by
    intro numeral hnumeral
    rw [hnumbering, Numbering.ofInt] at hnumeral
    split_ifs at hnumeral
    -- Numberings that cannot write a number give no label.
    all_goals cases hnumeral
    exact ⟨Numeral.not_mem_hex (by decide) (by decide) _ _,
      Numeral.not_mem_hex (by decide) (by decide) _ _⟩
  unfold name at h
  cases hnumeral : style.numbering.write number with
  | error fault =>
    rw [hnumeral] at h
    cases h
  | ok numeral =>
    rw [hnumeral] at h
    cases h
    obtain ⟨hblank, hend⟩ := hwritten numeral hnumeral
    simp only [IsSolid, String.toList_append, List.mem_append, not_or]
    exact ⟨⟨hstem.1, hblank⟩, hstem.2, hend⟩

theorem CodeLine.newline_not_mem_targetLabel {jumps : AddressMap String} {address : Int}
    (i : Instruction) (h : ∀ address label, jumps.get? address = some label → IsSolid label) :
    '\n' ∉ (targetLabel jumps address i).toList := by
  unfold targetLabel
  split
  · rename_i label hlabel
    exact (h address label hlabel).2
  · have hhex := Numeral.not_mem_hex (c := '\n') (by decide) (by decide) 8
    simp [toString, hhex]

/-- Two lines have the same address and the same word of 32 bits, but for bits 14 to 12 of two
register jumps. -/
def CodeLine.Agrees (line line' : CodeLine) : Prop :=
  line.address = line'.address ∧
    ∃ v w : Word, line.word = (v.toNat : Int) ∧ line'.word = (w.toNat : Int) ∧
      (v = w ∨ v.opcode = Opcode.jalr ∧ w.opcode = Opcode.jalr ∧
        ∀ k, k < 12 ∨ 14 < k → v.getLsbD k = w.getLsbD k)

namespace Disassembly

variable {settings settings' : Settings} {source source' : Source} {container : Container}
  {words : List (Int × Int)} {d d' : Disassembly}

theorem Of.isReadable (h : Of settings source container words d) {digits : Int}
    (hnumbering : settings.labels.numbering = .ofInt digits) (hstem : IsSolid settings.labels.stem)
    (hnames : ∀ s ∈ d.symbols, s.isFunction → IsSolid s.name) :
    ∀ line ∈ d.lines, line.IsReadable := by
  intro line hline
  obtain ⟨hlabels, hjumps⟩ := Resolution.forall_label_of_resolve (h.symbols_eq ▸ hnames)
    (fun number label => LabelStyle.isSolid_name hnumbering hstem) h.resolved
  obtain ⟨⟨hnonneg, hlt⟩, -⟩ := h.container_of.lt_of_mem_codeWords h.words_eq (h.mem_words hline)
  obtain ⟨i, -, hshown⟩ := CodeLine.decode_eq_ok_iff.mp (h.decoded line hline)
  obtain ⟨hne, hsolid⟩ := i.mnemonic_isSolid
  have hmnemonic : line.mnemonic = i.mnemonic := by rw [hshown]; rfl
  refine ⟨hnonneg, hlt, ?_, hmnemonic ▸ hne, hmnemonic ▸ hsolid, ?_⟩
  · have hlabel : line.label = (d.resolution.labels.get? line.address).getD "" := by
      rw [hshown]
      rfl
    rw [hlabel]
    cases hfound : d.resolution.labels.get? line.address with
    | none => exact ⟨List.not_mem_nil, List.not_mem_nil⟩
    | some label => exact hlabels _ _ hfound
  · rw [hshown]
    exact i.newline_not_mem_operands (CodeLine.newline_not_mem_targetLabel i hjumps)

/-- Lines that look the same show the same address, and words with the same canonical form. -/
theorem canonical_eq_of_lineOf_eq {jumps jumps' labels labels' : AddressMap String}
    {line line' : CodeLine} (h : CodeLine.decode jumps labels line.address line.word = .ok line)
    (h' : CodeLine.decode jumps' labels' line'.address line'.word = .ok line')
    (hread : line.IsReadable) (hread' : line'.IsReadable) (heq : lineOf line = lineOf line') :
    line.address = line'.address ∧
      (Word.ofInt line.word).canonical = (Word.ofInt line'.word).canonical := by
  obtain ⟨haddress, -, hmnemonic, hoperands⟩ := hread.lineOf_injective hread' heq
  refine ⟨haddress, Option.some_inj.mp ?_⟩
  rw [← CodeLine.assemble?_of_decode h, ← CodeLine.assemble?_of_decode h', hmnemonic, hoperands]

theorem Of.toNat_ofInt_word (h : Of settings source container words d) {line : CodeLine}
    (hline : line ∈ d.lines) : ((Word.ofInt line.word).toNat : Int) = line.word := by
  obtain ⟨-, hnonneg, hlt⟩ := h.container_of.lt_of_mem_codeWords h.words_eq (h.mem_words hline)
  simp only at hnonneg hlt
  rw [Word.ofInt, BitVec.toNat_ofInt]
  omega

theorem exists_append_render (d : Disassembly) :
    ∃ rest, d.render.toList = ".text\n".toList ++ ((codeBlock d.lines).toList ++ '\n' :: rest) := by
  refine ⟨".symtab\n".toList ++ (symbolBlock d.symbols).toList, ?_⟩
  simp [render, Listing.render]

/-- Two disassemblies with the same listing have the same number of lines, and line by line they
agree in address and word, provided that no name of a function and no stem of synthetic labels holds
a blank or the end of a line. -/
theorem agrees_of_render_eq (settings settings' : Settings) (source source' : Source)
    (journal journal' : Journal) (d d' : Disassembly) (digits digits' : Int)
    (hd : ((disassemble settings source).outcome journal).1 = .ok d)
    (hd' : ((disassemble settings' source').outcome journal').1 = .ok d')
    (hnumbering : settings.labels.numbering = .ofInt digits)
    (hnumbering' : settings'.labels.numbering = .ofInt digits')
    (hstem : IsSolid settings.labels.stem) (hstem' : IsSolid settings'.labels.stem)
    (hnames : ∀ s ∈ d.symbols, s.isFunction → IsSolid s.name)
    (hnames' : ∀ s ∈ d'.symbols, s.isFunction → IsSolid s.name)
    (h : d.render = d'.render) :
    List.Forall₂ CodeLine.Agrees d.lines d'.lines := by
  obtain ⟨container, words, hof⟩ := of_disassemble hd
  obtain ⟨container', words', hof'⟩ := of_disassemble hd'
  obtain ⟨rest, hrest⟩ := d.exists_append_render
  obtain ⟨rest', hrest'⟩ := d'.exists_append_render
  have hread := hof.isReadable hnumbering hstem hnames
  have hread' := hof'.isReadable hnumbering' hstem' hnames'
  -- The heading is the same, and an empty line stands behind the block of code.
  rw [h, hrest'] at hrest
  have hblocks := (List.append_cancel_left hrest).symm
  have hrows := CodeLine.forall₂_of_codeBlock hread hread' hblocks
  rw [List.forall₂_iff_get] at hrows ⊢
  refine ⟨hrows.1, fun i hi hi' => ?_⟩
  have hline := List.get_mem d.lines ⟨i, hi⟩
  have hline' := List.get_mem d'.lines ⟨i, hi'⟩
  obtain ⟨haddress, hcanonical⟩ := canonical_eq_of_lineOf_eq (hof.decoded _ hline)
    (hof'.decoded _ hline') (hread _ hline) (hread' _ hline') (hrows.2 i hi hi')
  exact ⟨haddress, _, _, (hof.toNat_ofInt_word hline).symm, (hof'.toNat_ofInt_word hline').symm,
    Word.eq_or_of_canonical_eq hcanonical⟩

/-- An image with one word, at which a function begins. -/
def oneWord (word : Word) : Source where
  shown := "oneWord"
  name := "oneWord"
  path := "/oneWord"
  content := Draft.toBytes {
    words := [word]
    base := 0x10000#32
    symbols := [{ name := "main", value := 0x10000, type := 2 }] }

/-- Two returns that differ in bit 12 have the same listing. -/
theorem agrees_of_render_eq_return :
    ∃ d d', ((disassemble {} (oneWord 0x00008067#32)).outcome ⟨.info, none, #[]⟩).1 = .ok d ∧
      ((disassemble {} (oneWord 0x00009067#32)).outcome ⟨.info, none, #[]⟩).1 = .ok d' ∧
      d.render = d'.render ∧ d.lines.map CodeLine.word = [0x00008067] ∧
      d'.lines.map CodeLine.word = [0x00009067] ∧
      List.Forall₂ CodeLine.Agrees d.lines d'.lines := by
  have hshown : (result {} (oneWord 0x00008067#32)).map (fun d => (d.lines, d.symbols)) =
      .ok ([{ address := 0x10000, word := 0x00008067, mnemonic := "jalr",
              operands := "zero, ra, 0", label := "main" }],
        [{}, { nameOffset := 1, value := 0x10000, info := 2, sectionIndex := 1,
               name := "main" }]) := by decide +kernel
  have hshown' : (result {} (oneWord 0x00009067#32)).map (fun d => (d.lines, d.symbols)) =
      .ok ([{ address := 0x10000, word := 0x00009067, mnemonic := "jalr",
              operands := "zero, ra, 0", label := "main" }],
        [{}, { nameOffset := 1, value := 0x10000, info := 2, sectionIndex := 1,
               name := "main" }]) := by decide +kernel
  obtain ⟨d, hresult, hparts⟩ := Fault.map_eq_ok_iff.mp hshown
  obtain ⟨d', hresult', hparts'⟩ := Fault.map_eq_ok_iff.mp hshown'
  obtain ⟨hlines, hsymbols⟩ := Prod.mk.inj hparts
  obtain ⟨hlines', hsymbols'⟩ := Prod.mk.inj hparts'
  have hd := (disassemble_yields {} (oneWord 0x00008067#32) ⟨.info, none, #[]⟩).trans hresult
  have hd' := (disassemble_yields {} (oneWord 0x00009067#32) ⟨.info, none, #[]⟩).trans hresult'
  have hrender : d.render = d'.render := by
    rw [render, render, hlines, hlines', hsymbols, hsymbols']
    rfl
  have hsolid : IsSolid "LOC_" := by unfold IsSolid; decide
  refine ⟨d, d', hd, hd', hrender, by rw [hlines]; rfl, by rw [hlines']; rfl, ?_⟩
  refine agrees_of_render_eq {} {} _ _ _ _ d d' 5 5 hd hd' rfl rfl hsolid hsolid ?_ ?_ hrender
  · rw [hsymbols]
    unfold IsSolid
    decide
  · rw [hsymbols']
    unfold IsSolid
    decide

end Disassembly

end RiscvListing
