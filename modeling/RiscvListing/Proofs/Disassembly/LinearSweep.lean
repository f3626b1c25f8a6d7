import RiscvListing.Image.Draft
import RiscvListing.Proofs.Disassembly.Extension

/-!
# The sweep over the code

Code is decoded word by word, from the first word of the code section to the last whole one, and
each word that stands for an instruction gives one line. The first word that stands for none ends
the sweep: the lines up to it are there, and its fault names it. A disassembly, which needs all of
the lines, then fails with that fault.

## Main definitions

* `Word.IsInstruction` — the words that stand for instructions.
* `Resolution.Shows` — lines that show words one by one.

## Main results

* `CodeLine.decodeAll_append_of_none` — a sweep goes on where it has found no fault.
* `Resolution.exists_shows`, `CodeLine.decodeAll_of_first` — a sweep without a fault, and one with.
* `Disassembly.result_of_steps` — the result of a disassembly from its first steps on.
* `Disassembly.sweep_ends_at_first_fault` — how far a disassembly gets.
-/

namespace RiscvListing

/-- The word is that of an instruction, but for bits that carry no meaning. -/
def Word.IsInstruction (w : Word) : Prop := ∃ i : Instruction, i.encode = w.canonical

theorem Word.isInstruction_iff {w : Word} :
    w.IsInstruction ↔ ∃ i, Instruction.decode? w = some i := by
  simp only [IsInstruction, Instruction.decode?_eq_some_iff]

theorem Word.not_isInstruction_iff {w : Word} :
    ¬w.IsInstruction ↔ Instruction.decode? w = none := by
  rw [isInstruction_iff, ← Option.ne_none_iff_exists', not_not]

/-- The lines show the words one by one, with the labels of the resolution. -/
structure Resolution.Shows (r : Resolution) (items : List (Int × Int)) (lines : List CodeLine) :
    Prop where
  items_eq : lines.map CodeLine.item = items
  decoded : ∀ line ∈ lines, CodeLine.decode r.jumps r.labels line.address line.word = .ok line

namespace CodeLine

variable {jumps labels : AddressMap String} {before after : List (Int × Int)}
  {lines : List CodeLine}

/-- A sweep goes on where it has found no fault. -/
theorem decodeAll_append_of_none (h : decodeAll jumps labels before = (lines, none))
    (after : List (Int × Int)) :
    decodeAll jumps labels (before ++ after) =
      (lines ++ (decodeAll jumps labels after).1, (decodeAll jumps labels after).2) := by
  induction before generalizing lines with
  | nil =>
    cases h
    rfl
  | cons item rest ih =>
    rw [decodeAll] at h
    rw [List.cons_append, decodeAll]
    cases hitem : decode jumps labels item.1 item.2 with
    | error fault =>
      -- Then the sweep would have found a fault.
      rw [hitem] at h
      cases h
    | ok line =>
      rw [hitem] at h
      obtain ⟨rfl, hfault⟩ := Prod.mk.inj h
      have hrest : decodeAll jumps labels rest = ((decodeAll jumps labels rest).1, none) :=
        Prod.ext rfl hfault
      simp only [ih hrest, List.cons_append]

/-- A sweep ends at the first word that stands for no instruction, with its fault. -/
theorem decodeAll_of_first {item : Int × Int} (h : decodeAll jumps labels before = (lines, none))
    (hitem : ¬(Word.ofInt item.2).IsInstruction) :
    decodeAll jumps labels (before ++ item :: after) =
      (lines, some (.unexpectedInstruction item.2 (some item.1))) := by
  have hfault : decode jumps labels item.1 item.2 =
      .error (.unexpectedInstruction item.2 (some item.1)) :=
    (decode_eq_error_iff _ _ _ _ _).mpr ⟨Word.not_isInstruction_iff.mp hitem, rfl⟩
  rw [decodeAll_append_of_none h, decodeAll, hfault, List.append_nil]

end CodeLine

/-- A sweep over instructions gives a line for each. -/
theorem Resolution.exists_shows (r : Resolution) {items : List (Int × Int)}
    (h : ∀ item ∈ items, (Word.ofInt item.2).IsInstruction) :
    ∃ lines, CodeLine.decodeAll r.jumps r.labels items = (lines, none) ∧ r.Shows items lines := by
  have hnone : (CodeLine.decodeAll r.jumps r.labels items).2 = none := by
    induction items with
    | nil => rfl
    | cons item rest ih =>
      rw [List.forall_mem_cons] at h
      obtain ⟨i, hi⟩ := Word.isInstruction_iff.mp h.1
      have hitem : CodeLine.decode r.jumps r.labels item.1 item.2 =
          .ok (CodeLine.ofInstruction r.jumps r.labels item.1 item.2 i) :=
        CodeLine.decode_eq_ok_iff.mpr ⟨i, hi, rfl⟩
      rw [CodeLine.decodeAll, hitem]
      exact ih h.2
  have hlines : CodeLine.decodeAll r.jumps r.labels items =
      ((CodeLine.decodeAll r.jumps r.labels items).1, none) := Prod.ext rfl hnone
  obtain ⟨hitems, hdecoded⟩ := CodeLine.decodeAll_eq_none_iff.mp hlines
  exact ⟨_, hlines, hitems, hdecoded⟩

namespace Disassembly

variable {settings : Settings} {source : Source} {content : Bytes} {container : Container}
  {words : List (Int × Int)} {resolution : Resolution}

/-- Where the container is read and the labels are found, the rest is up to the second pass. -/
theorem result_of_steps (haccepted : source.refusal = none)
    (hloaded : loaded settings source.content = .ok container)
    (hwords : container.codeWords source.content = .ok words)
    (hresolved : Resolution.resolve settings.labels words container.symbols = .ok resolution) :
    result settings source =
      (decodeAll source.content container resolution).map fun lines => {
        path := source.path
        header := container.header
        code := container.code
        symbols := container.symbols
        resolution, lines } := by
  rw [result, haccepted, hloaded]
  simp only [Option.elim_none, Fault.ok_bind, hwords, hresolved]
  cases decodeAll source.content container resolution <;> rfl

/-- Let the container of an image be read and the labels of its code be found. There are as many
words of code as the size of the code section allows, four bytes apart in the file and in memory,
where their addresses may wrap around and yet differ. If all of them stand for instructions, the
disassembly succeeds and has one line for each of them, in order. Otherwise let the word with the
number `k` be the first that stands for none. The second pass has given the lines of the `k` words
before it when it meets that word and fails with the fault that names it, and so does the
disassembly. -/
theorem sweep_ends_at_first_fault (settings : Settings) (source : Source)
    (loading resolving journal : Journal) (container : Container) (resolution : Resolution)
    (haccepted : source.refusal = none)
    (hload : ((load settings source.content).outcome loading).1 = .ok container)
    (hresolve : ((resolve settings source.content container).outcome resolving).1 =
      .ok resolution) :
    ∃ words, container.codeWords source.content = .ok words ∧
      (words.length : Int) = container.code.size / 4 ∧
      (∀ i (hi : i < words.length), words[i] = ((container.code.address + 4 * i) % 2 ^ 32,
        (source.content.numberAt (container.code.dataOffset.toNat + 4 * i) 4 : Int))) ∧
      (words.map Prod.fst).Nodup ∧
      ((∀ item ∈ words, (Word.ofInt item.2).IsInstruction) →
        ∃ d, ((disassemble settings source).outcome journal).1 = .ok d ∧
          decode source.content container resolution = .ok (d.lines, none) ∧
          (d.lines.length : Int) = container.code.size / 4 ∧
          d.resolution = resolution ∧ resolution.Shows words d.lines) ∧
      ∀ k (hk : k < words.length), (∀ item ∈ words.take k, (Word.ofInt item.2).IsInstruction) →
        ¬(Word.ofInt words[k].2).IsInstruction →
          ∃ lines, decode source.content container resolution =
              .ok (lines, some (.unexpectedInstruction words[k].2 (some words[k].1))) ∧
            lines.length = k ∧ resolution.Shows (words.take k) lines ∧
            ((disassemble settings source).outcome journal).1 =
              .error (.unexpectedInstruction words[k].2 (some words[k].1)) := by
  have hloaded := (load_yields settings source.content loading).symm.trans hload
  have hcontainer := Container.outcome_read_eq_ok_iff.mp (loaded_eq_ok_iff.mp hloaded).2
  obtain ⟨words, hwords, hresolved⟩ := outcome_resolve_eq_ok_iff.mp hresolve
  -- Records aside, the disassembly is the second pass over the words that the first one has read.
  have hresult := (disassemble_yields settings source journal).trans
    (result_of_steps haccepted hloaded hwords hresolved)
  rw [decodeAll_of_codeWords hwords] at hresult
  have hlength := hcontainer.length_codeWords hwords
  refine ⟨words, hwords, hlength, fun i hi => hcontainer.getElem_codeWords hwords hi,
    hcontainer.nodup_addresses_codeWords hwords, ?_, ?_⟩
  · intro hall
    obtain ⟨lines, hlines, hshows⟩ := resolution.exists_shows hall
    rw [hlines] at hresult
    refine ⟨_, hresult, ?_, ?_, rfl, hshows⟩
    · rw [decode_of_codeWords hwords, hlines]
    · rw [← hlength, ← hshows.items_eq, List.length_map]
  · intro k hk hbefore hfirst
    obtain ⟨lines, hlines, hshows⟩ := resolution.exists_shows hbefore
    -- The words in front of the first that stands for no instruction are swept without a fault.
    have hsplit : words = words.take k ++ words[k] :: words.drop (k + 1) := by
      rw [← List.drop_eq_getElem_cons hk, List.take_append_drop]
    have hstop : CodeLine.decodeAll resolution.jumps resolution.labels words =
        (lines, some (.unexpectedInstruction words[k].2 (some words[k].1))) := by
      conv_lhs => rw [hsplit]
      exact CodeLine.decodeAll_of_first hlines hfirst
    rw [hstop] at hresult
    refine ⟨lines, ?_, ?_, hshows, hresult⟩
    · rw [decode_of_codeWords hwords, hstop]
    · rw [← List.length_map CodeLine.item, hshows.items_eq, List.length_take]
      omega

/-- Two instructions in front of the end of the address space, and behind it a word that stands for
none and a third instruction. -/
def interrupted : Source where
  shown := "interrupted"
  name := "interrupted"
  path := "/interrupted"
  content := Draft.toBytes {
    words := [0x00000013#32, 0x0000006f#32, 0#32, 0x00000013#32], base := 0xfffffff8#32 }

theorem sweep_ends_at_first_fault_interrupted :
    ∃ container resolution lines,
      ((load {} interrupted.content).outcome ⟨.info, none, #[]⟩).1 = .ok container ∧
      ((resolve {} interrupted.content container).outcome ⟨.info, none, #[]⟩).1 = .ok resolution ∧
      decode interrupted.content container resolution =
        .ok (lines, some (.unexpectedInstruction 0 (some 0))) ∧
      lines.length = 2 ∧
      ((disassemble {} interrupted).outcome ⟨.info, none, #[]⟩).1 =
        .error (.unexpectedInstruction 0 (some 0)) := by
  have hsteps : (do
      let container ← loaded {} interrupted.content
      let words ← container.codeWords interrupted.content
      let _ ← Resolution.resolve ({} : Settings).labels words container.symbols
      return words) =
        .ok [(0xfffffff8, 0x13), (0xfffffffc, 0x6f), (0, 0), (4, 0x13)] := by decide +kernel
  have hbefore : ∀ item ∈ [((0xfffffff8, 0x13) : Int × Int), (0xfffffffc, 0x6f)],
      (Word.ofInt item.2).IsInstruction := by
    rw [List.forall_mem_cons, List.forall_mem_singleton]
    exact ⟨Word.isInstruction_iff.mpr ⟨_, rfl⟩, Word.isInstruction_iff.mpr ⟨_, rfl⟩⟩
  simp only [Fault.bind_eq_ok_iff] at hsteps
  obtain ⟨container, hloaded, words, hwords, resolution, hresolved, heq⟩ := hsteps
  cases heq
  have hload := (load_yields {} interrupted.content ⟨.info, none, #[]⟩).trans hloaded
  have hresolve : ((resolve {} interrupted.content container).outcome ⟨.info, none, #[]⟩).1 =
      .ok resolution := outcome_resolve_eq_ok_iff.mpr ⟨_, hwords, hresolved⟩
  obtain ⟨found, hfound, -, -, -, -, hfirst⟩ := sweep_ends_at_first_fault {} interrupted _ _
    ⟨.info, none, #[]⟩ container resolution rfl hload hresolve
  rw [hwords] at hfound
  cases hfound
  obtain ⟨lines, hlines, hlength, -, hfault⟩ :=
    hfirst 2 (by decide) hbefore (Word.not_isInstruction_iff.mpr rfl)
  exact ⟨container, resolution, lines, hload, hresolve, hlines, hlength, hfault⟩

end Disassembly

end RiscvListing
