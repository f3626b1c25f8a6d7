import RiscvListing.Image.Draft
import RiscvListing.Proofs.Disassembly.Result
import RiscvListing.Proofs.Image.Extension

/-!
# Images that grow at their end

Bytes behind an image that could be disassembled change nothing: the container, the words of code,
the labels and the lines are those of the image itself, and so is the listing. The one thing that
looks at the size of a whole image is the limit on it.

## Main results

* `Disassembly.resolve_append`, `Disassembly.decodeAll_append` — the two passes over the code.
* `Disassembly.Of.append` — the disassembly of an image with more bytes behind it.
* `Disassembly.success_append` — success is stable, step by step and as a whole.
-/

namespace RiscvListing.Disassembly

variable {settings : Settings} {source : Source} {content more : Bytes} {container : Container}
  {words : List (Int × Int)} {resolution : Resolution} {lines : List CodeLine} {d : Disassembly}

/-- A resolution has read the words of code and found their labels. -/
theorem outcome_resolve_eq_ok_iff {journal : Journal} :
    ((resolve settings content container).outcome journal).1 = .ok resolution ↔
      ∃ words, container.codeWords content = .ok words ∧
        Resolution.resolve settings.labels words container.symbols = .ok resolution := by
  rw [resolve_yields settings content container journal, Fault.bind_eq_ok_iff]

/-- The labels are found among the same words of code. -/
theorem resolve_append {journal : Journal} (more : Bytes)
    (h : ((resolve settings content container).outcome journal).1 = .ok resolution) :
    ((resolve settings (content ++ more) container).outcome journal).1 = .ok resolution := by
  obtain ⟨words, hwords, hresolved⟩ := outcome_resolve_eq_ok_iff.mp h
  exact outcome_resolve_eq_ok_iff.mpr
    ⟨words, container.isStable_codeWords content more words hwords, hresolved⟩

/-- The same words of code are decoded. -/
theorem decodeAll_append (more : Bytes) (hwords : container.codeWords content = .ok words) :
    decodeAll (content ++ more) container resolution = decodeAll content container resolution := by
  have hwords' : container.codeWords (content ++ more) = .ok words :=
    container.isStable_codeWords content more words hwords
  rw [decodeAll_of_codeWords hwords, decodeAll_of_codeWords hwords']

/-- An image with more bytes behind it. -/
def Source.extend (source : Source) (more : Bytes) : Source :=
  { source with content := source.content ++ more }

/-- Bytes behind an image leave its disassembly as it is, unless the image gets too large. -/
theorem Of.append (h : Of settings source container words d)
    (hsmall : settings.sizeLimit = 0 ∨ (source.content ++ more).size ≤ settings.sizeLimit) :
    Of settings (source.extend more) container words d where
  accepted := h.accepted
  small := hsmall
  container_eq := by
    have hcontainer := Container.outcome_read_eq_ok_iff.mp h.container_eq
    exact Container.outcome_read_eq_ok_iff.mpr (hcontainer.append more)
  words_eq := container.isStable_codeWords source.content more words h.words_eq
  resolved := h.resolved
  items_eq := h.items_eq
  decoded := h.decoded
  path_eq := h.path_eq
  header_eq := h.header_eq
  code_eq := h.code_eq
  symbols_eq := h.symbols_eq

/-- An image whose container is read and over which both passes go keeps its container, its words
of code, its labels and its lines when bytes are put behind it. A run that the limit on the size of
images does not stop gives the same disassembly with them as without them, and so the same
listing. -/
theorem success_append (settings : Settings) (journal : Journal) (content more : Bytes)
    (container : Container) (resolution : Resolution) (lines : List CodeLine)
    (hcontainer : (Container.read content).outcome = .ok container)
    (hresolution : ((resolve settings content container).outcome journal).1 = .ok resolution)
    (hlines : decodeAll content container resolution = .ok lines) :
    (Container.read (content ++ more)).outcome = .ok container ∧
    (∃ words, container.codeWords content = .ok words ∧
      container.codeWords (content ++ more) = .ok words) ∧
    ((resolve settings (content ++ more) container).outcome journal).1 = .ok resolution ∧
    decodeAll (content ++ more) container resolution = .ok lines ∧
    ∀ source : Source, source.content = content → source.refusal = none →
      settings.sizeLimit = 0 ∨ (content ++ more).size ≤ settings.sizeLimit →
      ∃ d, ((disassemble settings source).outcome journal).1 = .ok d ∧
        ((disassemble settings (source.extend more)).outcome journal).1 = .ok d ∧
        d.header = container.header ∧ d.resolution = resolution ∧
        d.render = Listing.render lines container.symbols := by
  obtain ⟨words, hwords, hresolved⟩ := outcome_resolve_eq_ok_iff.mp hresolution
  have hread := (Container.outcome_read_eq_ok_iff.mp hcontainer).append more
  refine ⟨Container.outcome_read_eq_ok_iff.mpr hread,
    ⟨words, hwords, container.isStable_codeWords content more words hwords⟩,
    resolve_append more hresolution, (decodeAll_append more hwords).trans hlines, ?_⟩
  rintro source rfl haccepted hsmall
  obtain ⟨hitems, hdecoded⟩ := (decodeAll_eq_ok_iff hwords).mp hlines
  have hle := Bytes.size_le_size_append source.content more
  -- All steps have succeeded, so they make up a disassembly.
  let d : Disassembly :=
    { path := source.path, header := container.header, code := container.code,
      symbols := container.symbols, resolution, lines }
  have hof : Of settings source container words d :=
    { accepted := haccepted, small := by omega, container_eq := hcontainer, words_eq := hwords,
      resolved := hresolved, items_eq := hitems, decoded := hdecoded, path_eq := rfl,
      header_eq := rfl, code_eq := rfl, symbols_eq := rfl }
  refine ⟨d, ?_, ?_, rfl, rfl, rfl⟩
  · rw [disassemble_yields settings source journal]
    exact result_eq_ok_iff.mpr ⟨container, words, hof⟩
  · rw [disassemble_yields settings (source.extend more) journal]
    exact result_eq_ok_iff.mpr ⟨container, words, hof.append hsmall⟩

/-- An image that does not give the number of its section headers, with a jump to a function. -/
def uncounted : Source where
  shown := "uncounted"
  name := "uncounted"
  path := "/uncounted"
  content := Draft.toBytes
    { words := [0x0040006f#32, 0x13#32], base := 0x10000#32,
      symbols := [{ name := "end", value := 0x10004, type := 2 }], counted := false }

/-- Settings without a limit on the size of images. -/
def unlimited : Settings := { sizeLimit := 0 }

/-- Zeros that make room for two more section headers leave the image as it is. -/
theorem success_append_uncounted :
    ∃ container resolution lines,
      (Container.read uncounted.content).outcome = .ok container ∧
      container.header.sectionCount = 0 ∧
      ((resolve unlimited uncounted.content container).outcome ⟨.info, none, #[]⟩).1 =
        .ok resolution ∧
      decodeAll uncounted.content container resolution = .ok lines ∧
      lines.map CodeLine.operands = ["zero, 2, end", "zero, zero, 0"] ∧
      (Container.read (uncounted.content ++ Array.replicate 80 0)).outcome = .ok container ∧
      decodeAll (uncounted.content ++ Array.replicate 80 0) container resolution = .ok lines ∧
      ∃ d, ((disassemble unlimited (uncounted.extend (Array.replicate 80 0))).outcome
        ⟨.info, none, #[]⟩).1 = .ok d ∧ d.render = Listing.render lines container.symbols := by
  have hshown : (do
      let container ← (Container.read uncounted.content).outcome
      let resolution ←
        ((resolve unlimited uncounted.content container).outcome ⟨.info, none, #[]⟩).1
      let lines ← decodeAll uncounted.content container resolution
      return (container.header.sectionCount, lines.map CodeLine.operands)) =
        .ok (0, ["zero, 2, end", "zero, zero, 0"]) := by decide +kernel
  simp only [Fault.bind_eq_ok_iff] at hshown
  obtain ⟨container, hcontainer, resolution, hresolution, lines, hlines, hparts⟩ := hshown
  obtain ⟨hcount, hoperands⟩ := Prod.mk.inj (Except.ok.inj hparts)
  obtain ⟨hread, -, -, hdecode, hrun⟩ := success_append unlimited ⟨.info, none, #[]⟩
    uncounted.content (Array.replicate 80 0) container resolution lines hcontainer hresolution
    hlines
  obtain ⟨d, -, hd, -, -, hrender⟩ := hrun uncounted rfl rfl (.inl rfl)
  exact ⟨container, resolution, lines, hcontainer, hcount, hresolution, hlines, hoperands, hread,
    hdecode, d, hd, hrender⟩

end RiscvListing.Disassembly
