import RiscvListing.Disassembly
import RiscvListing.Proofs.CodeLine
import RiscvListing.Proofs.Journal.Run

/-!
# The result of a disassembly

What a disassembly records has no influence on what it gives: the steps behind the records are a
chain of computations that may fail, and its outcome is the same whatever the journal held before.

## Main definitions

* `Disassembly.result` — the result of a disassembly without its records.
* `Disassembly.Of` — a disassembly together with the steps that led to it.

## Main results

* `Disassembly.disassemble_yields` — a disassembly yields its result.
* `Disassembly.result_eq_ok_iff` — what a successful disassembly consists of.
-/

namespace RiscvListing

namespace Disassembly

/-- The container of an image that is not too large, without records. -/
def loaded (settings : Settings) (content : Bytes) : Except Fault Container :=
  if settings.sizeLimit ≠ 0 ∧ settings.sizeLimit < content.size then .error (.illegalFile .size)
  else (Container.read content).outcome

/-- The disassembly of an image, without records. -/
def result (settings : Settings) (source : Source) : Except Fault Disassembly := do
  source.refusal.elim (.ok ()) .error
  let container ← loaded settings source.content
  let words ← container.codeWords source.content
  let resolution ← Resolution.resolve settings.labels words container.symbols
  let lines ← decodeAll source.content container resolution
  return {
    path := source.path
    header := container.header
    code := container.code
    symbols := container.symbols
    resolution, lines }

theorem load_yields (settings : Settings) (content : Bytes) :
    (load settings content).Yields (loaded settings content) := by
  unfold load loaded
  split
  · exact .bind (Run.yields_log _ _) fun _ => .bind (Run.yields_lift _) fun _ =>
      (Run.yields_follow _).within _
  · exact .bind (Run.yields_pure ()) fun _ => (Run.yields_follow _).within _

theorem resolve_yields (settings : Settings) (content : Bytes) (container : Container) :
    (resolve settings content container).Yields (do
      let words ← container.codeWords content
      Resolution.resolve settings.labels words container.symbols) := by
  refine .of_eq (.within (.bind (Run.yields_lift _) fun words => .bind (Run.yields_lift _)
    fun resolution => .bind (Run.yields_log _ _) fun _ => Run.yields_pure resolution) _) ?_
  simp only [pure_bind, bind_pure]

/-- What a disassembly gives does not depend on what the journal holds. -/
theorem disassemble_yields (settings : Settings) (source : Source) :
    (disassemble settings source).Yields (result settings source) := by
  refine .of_eq (.bind (Run.yields_log _ _) fun _ => .bind (.timed (.bind (Run.yields_lift _)
    fun _ => .bind (load_yields _ _) fun container => .bind (resolve_yields _ _ _) fun resolution =>
      .bind (.within (Run.yields_lift _) _) fun lines => Run.yields_pure _) _) fun _ =>
        .bind (Run.yields_log _ _) fun _ => Run.yields_pure _) ?_
  -- Without the records, the steps are the steps of the result.
  simp only [result, bind_assoc, pure_bind]

theorem loaded_eq_ok_iff {settings : Settings} {content : Bytes} {container : Container} :
    loaded settings content = .ok container ↔
      (settings.sizeLimit = 0 ∨ content.size ≤ settings.sizeLimit) ∧
        (Container.read content).outcome = .ok container := by
  unfold loaded
  split
  · rename_i h
    have hlarge : ¬(settings.sizeLimit = 0 ∨ (content.size : Int) ≤ settings.sizeLimit) := by omega
    simp [hlarge]
  · rename_i h
    have hsmall : settings.sizeLimit = 0 ∨ (content.size : Int) ≤ settings.sizeLimit := by omega
    simp [hsmall]

theorem decode_of_codeWords {content : Bytes} {container : Container} {resolution : Resolution}
    {words : List (Int × Int)} (h : container.codeWords content = .ok words) :
    decode content container resolution =
      .ok (CodeLine.decodeAll resolution.jumps resolution.labels words) := by
  rw [decode, h]
  rfl

/-- Decoding all words fails with the fault of the first word that is no instruction. -/
theorem decodeAll_of_codeWords {content : Bytes} {container : Container} {resolution : Resolution}
    {words : List (Int × Int)} (h : container.codeWords content = .ok words) :
    decodeAll content container resolution =
      (CodeLine.decodeAll resolution.jumps resolution.labels words).2.elim
        (.ok (CodeLine.decodeAll resolution.jumps resolution.labels words).1) .error := by
  rw [decodeAll, decode_of_codeWords h]
  obtain ⟨lines, _ | fault⟩ := CodeLine.decodeAll resolution.jumps resolution.labels words
  · rfl
  · rfl

theorem decodeAll_eq_ok_iff {content : Bytes} {container : Container} {resolution : Resolution}
    {words : List (Int × Int)} {lines : List CodeLine}
    (h : container.codeWords content = .ok words) :
    decodeAll content container resolution = .ok lines ↔
      lines.map CodeLine.item = words ∧ ∀ line ∈ lines,
        CodeLine.decode resolution.jumps resolution.labels line.address line.word = .ok line := by
  rw [← CodeLine.decodeAll_eq_none_iff, decodeAll_of_codeWords h]
  obtain ⟨found, _ | fault⟩ := CodeLine.decodeAll resolution.jumps resolution.labels words
  · simp
  · simp

/-- `d` is the disassembly of the image at `source`, with `container` for its container and `words`
for its code. -/
structure Of (settings : Settings) (source : Source) (container : Container)
    (words : List (Int × Int)) (d : Disassembly) : Prop where
  accepted : source.refusal = none
  small : settings.sizeLimit = 0 ∨ source.content.size ≤ settings.sizeLimit
  container_eq : (Container.read source.content).outcome = .ok container
  words_eq : container.codeWords source.content = .ok words
  resolved : Resolution.resolve settings.labels words container.symbols = .ok d.resolution
  items_eq : d.lines.map CodeLine.item = words
  decoded : ∀ line ∈ d.lines,
    CodeLine.decode d.resolution.jumps d.resolution.labels line.address line.word = .ok line
  path_eq : d.path = source.path
  header_eq : d.header = container.header
  code_eq : d.code = container.code
  symbols_eq : d.symbols = container.symbols

theorem result_eq_ok_iff {settings : Settings} {source : Source} {d : Disassembly} :
    result settings source = .ok d ↔ ∃ container words, Of settings source container words d := by
  unfold result
  simp only [Fault.bind_eq_ok_iff, loaded_eq_ok_iff]
  constructor
  · rintro ⟨_, haccepted, container, ⟨hsmall, hcontainer⟩, words, hwords, resolution, hresolved,
      lines, hlines, hd⟩
    cases hd
    obtain ⟨hitems, hdecoded⟩ := (decodeAll_eq_ok_iff hwords).mp hlines
    refine ⟨container, words, ?_, hsmall, hcontainer, hwords, hresolved, hitems, hdecoded, rfl, rfl,
      rfl, rfl⟩
    cases hrefusal : source.refusal with
    | none => rfl
    | some fault => simp [hrefusal] at haccepted
  · rintro ⟨container, words, h⟩
    refine ⟨(), by simp [h.accepted], container, ⟨h.small, h.container_eq⟩, words, h.words_eq,
      d.resolution, h.resolved, d.lines,
      (decodeAll_eq_ok_iff h.words_eq).mpr ⟨h.items_eq, h.decoded⟩, ?_⟩
    cases d
    cases h.path_eq
    cases h.header_eq
    cases h.code_eq
    cases h.symbols_eq
    rfl

/-- A disassembly that succeeds has gone through all of its steps. -/
theorem of_disassemble {settings : Settings} {source : Source} {journal : Journal} {d : Disassembly}
    (h : ((disassemble settings source).outcome journal).1 = .ok d) :
    ∃ container words, Of settings source container words d :=
  result_eq_ok_iff.mp ((disassemble_yields settings source journal).symm.trans h)

end Disassembly

end RiscvListing
