import RiscvListing.Image.Draft
import RiscvListing.Proofs.Disassembly.Result
import RiscvListing.Proofs.Image.Failure
import RiscvListing.Proofs.Label

/-!
# How a disassembly fails

A disassembly ends with a result or with a fault that says what is wrong with the image: it is too
large, its container cannot be read, or one of its words is no instruction. One more fault can arise
that the image is not to blame for, if labels are to have more digits than can be written and the
code jumps to a place that is no function.

## Main definitions

* `Disassembly.IsTooLarge` — an image is larger than it may be.
* `Disassembly.IsExplained` — the faults that an image can give rise to.
* `Disassembly.IsUnwritable` — the fault of a label with too many digits.

## Main results

* `CodeLine.exists_of_decodeAll` — decoding stops at a word that is no instruction.
* `Disassembly.failsOnly_result` — a disassembly fails with these faults only.
* `Disassembly.outcome_disassemble_explained` — every outcome of a disassembly.
-/

namespace RiscvListing

open Fault

/-- Decoding stops at a word that is no instruction, and says so. -/
theorem CodeLine.exists_of_decodeAll {jumps labels : AddressMap String} {items : List (Int × Int)}
    {fault : Fault} (h : (decodeAll jumps labels items).2 = some fault) :
    ∃ item ∈ items, Instruction.decode? (Word.ofInt item.2) = none ∧
      fault = .unexpectedInstruction item.2 (some item.1) := by
  induction items with
  | nil => cases h
  | cons item rest ih =>
    rw [decodeAll] at h
    cases hitem : decode jumps labels item.1 item.2 with
    | error other =>
      rw [hitem] at h
      cases h
      exact ⟨item, List.mem_cons_self, (decode_eq_error_iff _ _ _ _ _).mp hitem⟩
    | ok line =>
      rw [hitem] at h
      obtain ⟨found, hmem, hfound⟩ := ih h
      exact ⟨found, List.mem_cons_of_mem _ hmem, hfound⟩

namespace Disassembly

variable {settings : Settings} {source : Source} {content : Bytes} {container : Container}
  {words : List (Int × Int)} {digits : Int} {fault : Fault}

/-- There is a limit on the size of an image, and the image exceeds it. -/
def IsTooLarge (settings : Settings) (content : Bytes) : Prop :=
  settings.sizeLimit ≠ 0 ∧ settings.sizeLimit < content.size

/-- The faults that an image can give rise to: it is too large, its container cannot be read, or one
of its words of code is no instruction. -/
inductive IsExplained (settings : Settings) (content : Bytes) : Fault → Prop
  | tooLarge (h : IsTooLarge settings content) : IsExplained settings content (.illegalFile .size)
  | unreadable {fault : Fault} (h : Container.IsExplained content fault) :
      IsExplained settings content fault
  | unexpected {container : Container} {words : List (Int × Int)} {address word : Int}
      (hcontainer : Container.Of content container)
      (hwords : container.codeWords content = .ok words) (hitem : (address, word) ∈ words)
      (hword : Instruction.decode? (Word.ofInt word) = none) :
      IsExplained settings content (.unexpectedInstruction word (some address))

/-- The fault of a label with too many digits: the code jumps to a place that is no function. -/
inductive IsUnwritable (digits : Int) (content : Bytes) : Fault → Prop
  | intro {container : Container} {words : List (Int × Int)} {address word offset : Int}
      (hdigits : Pattern.widthLimit < digits)
      (hcontainer : Container.Of content container)
      (hwords : container.codeWords content = .ok words) (hitem : (address, word) ∈ words)
      (hjump : (Word.ofInt word).jumpOffset? = some offset)
      (hplace : ∀ symbol ∈ container.symbols, symbol.isFunction = true →
        symbol.value ≠ jumpTarget address offset) :
      IsUnwritable digits content (.labelPattern .tooManyDigits)

theorem failsOnly_loaded (settings : Settings) (content : Bytes) :
    FailsOnly (loaded settings content) (IsExplained settings content) := by
  unfold loaded
  split
  · rename_i hlarge
    exact failsOnly_error (.tooLarge hlarge)
  · exact (Container.failsOnly_read content).mono fun _ => .unreadable

theorem failsOnly_resolve (hstyle : settings.labels.numbering = .ofInt digits)
    (hdigits : 0 ≤ digits) (hcontainer : Container.Of content container)
    (hwords : container.codeWords content = .ok words) :
    FailsOnly (Resolution.resolve settings.labels words container.symbols)
      (IsUnwritable digits content) := by
  intro fault hfault
  obtain ⟨⟨address, word⟩, hitem, offset, hjump, hplace, number, hname⟩ :=
    Resolution.exists_of_resolve_eq_error hfault
  obtain ⟨hmany, rfl⟩ := LabelStyle.of_name_eq_error hstyle hdigits hname
  exact .intro hmany hcontainer hwords hitem hjump hplace

theorem failsOnly_decodeAll (resolution : Resolution) (hcontainer : Container.Of content container)
    (hwords : container.codeWords content = .ok words) :
    FailsOnly (decodeAll content container resolution) (IsExplained settings content) := by
  rw [decodeAll_of_codeWords hwords]
  cases hstop : (CodeLine.decodeAll resolution.jumps resolution.labels words).2 with
  | none => exact failsOnly_ok _
  | some fault =>
    obtain ⟨⟨address, word⟩, hitem, hword, rfl⟩ := CodeLine.exists_of_decodeAll hstop
    exact failsOnly_error (.unexpected hcontainer hwords hitem hword)

/-- Every fault of a disassembly is one that the image gives rise to or that of a label with too
many digits. -/
theorem failsOnly_result (hrefusal : source.refusal = none)
    (hstyle : settings.labels.numbering = .ofInt digits) (hdigits : 0 ≤ digits) :
    FailsOnly (result settings source) fun fault =>
      IsExplained settings source.content fault ∨ IsUnwritable digits source.content fault := by
  unfold result
  rw [hrefusal]
  refine .bind (failsOnly_ok ()) fun _ _ => ?_
  refine .bind ((failsOnly_loaded _ _).mono fun _ => .inl) fun container hloaded => ?_
  have hcontainer : Container.Of source.content container :=
    Container.outcome_read_eq_ok_iff.mp (loaded_eq_ok_iff.mp hloaded).2
  -- Both passes read the words of code; the second one finds them as the first one did.
  refine .bind (hcontainer.failsOnly_codeWords.mono fun _ h => .inl (.unreadable h))
    fun words hwords => ?_
  refine .bind ((failsOnly_resolve hstyle hdigits hcontainer hwords).mono fun _ => .inr)
    fun resolution _ => ?_
  refine .bind ((failsOnly_decodeAll resolution hcontainer hwords).mono fun _ => .inl)
    fun lines _ => failsOnly_ok _

theorem result_eq_tooLarge_iff (hrefusal : source.refusal = none)
    (hstyle : settings.labels.numbering = .ofInt digits) (hdigits : 0 ≤ digits) :
    result settings source = .error (.illegalFile .size) ↔
      IsTooLarge settings source.content := by
  constructor
  · -- No other explained fault is about the size.
    intro h
    rcases failsOnly_result hrefusal hstyle hdigits _ h with hexplained | hunwritable
    · cases hexplained with
      | tooLarge hlarge => exact hlarge
      | unreadable hfault =>
        cases hfault with
        | illegal hne => exact absurd rfl hne
        | overrun hoverrun => cases hoverrun
    · cases hunwritable
  · intro hlarge
    have hloaded : loaded settings source.content = .error (.illegalFile .size) := if_pos hlarge
    rw [result, hrefusal, hloaded]
    rfl

/-- A disassembly whose labels are to have a number of digits succeeds, or ends with a fault that
the image gives rise to, or with that of a label with more digits than can be written. The image is
called too large exactly if it is. No search in the image for a name is cut off: reading on beyond
the bound on its reads would find the same. -/
theorem outcome_disassemble_explained (settings : Settings) (source : Source) (journal : Journal)
    (digits : Int) (hrefusal : source.refusal = none)
    (hstyle : settings.labels.numbering = .ofInt digits) (hdigits : 0 ≤ digits) :
    ((∃ d, ((disassemble settings source).outcome journal).1 = .ok d) ∨
      ∃ fault, ((disassemble settings source).outcome journal).1 = .error fault ∧
        (IsExplained settings source.content fault ∨
          IsUnwritable digits source.content fault)) ∧
    (((disassemble settings source).outcome journal).1 = .error (.illegalFile .size) ↔
      IsTooLarge settings source.content) ∧
    ∀ (name : String) (c : StringCursor) (fuel : Nat), c.room source.content ≤ fuel →
      StringCursor.findUpTo source.content name fuel c = c.findAfter source.content name := by
  rw [disassemble_yields settings source journal]
  refine ⟨?_, result_eq_tooLarge_iff hrefusal hstyle hdigits,
    fun name c fuel hfuel => StringCursor.findUpTo_congr hfuel le_rfl⟩
  cases hresult : result settings source with
  | ok d => exact .inl ⟨d, rfl⟩
  | error fault =>
    exact .inr ⟨fault, rfl, failsOnly_result hrefusal hstyle hdigits fault hresult⟩

/-- An image of a word that is no instruction and a jump to a place that is no function. -/
def leaping : Source where
  shown := "leaping"
  name := "leaping"
  path := "/leaping"
  content := Draft.toBytes { words := [0#32, 0x0080006f#32], base := 0x10000#32 }

theorem outcome_disassemble_explained_leaping :
    ((disassemble {} leaping).outcome ⟨.info, none, #[]⟩).1 =
        .error (.unexpectedInstruction 0 (some 0x10000)) ∧
      ∃ fault, ((disassemble {} leaping).outcome ⟨.info, none, #[]⟩).1 = .error fault ∧
        (IsExplained {} leaping.content fault ∨ IsUnwritable 5 leaping.content fault) := by
  have hfault : ((disassemble {} leaping).outcome ⟨.info, none, #[]⟩).1 =
      .error (.unexpectedInstruction 0 (some 0x10000)) := by decide +kernel
  have h := (outcome_disassemble_explained {} leaping ⟨.info, none, #[]⟩ 5 rfl (by decide)
    (by decide)).1
  refine ⟨hfault, h.resolve_left ?_⟩
  rintro ⟨d, hd⟩
  rw [hfault] at hd
  cases hd

/-- With labels of 2^63 digits the fault of the same image says nothing about the image. -/
theorem outcome_disassemble_unexplained :
    ((disassemble { labels := { numbering := .ofInt 0x8000000000000000 } } leaping).outcome
        ⟨.info, none, #[]⟩).1 = .error (.labelPattern .tooManyDigits) ∧
      ¬IsExplained { labels := { numbering := .ofInt 0x8000000000000000 } } leaping.content
        (.labelPattern .tooManyDigits) := by
  refine ⟨by decide +kernel, fun h => ?_⟩
  cases h with
  | unreadable hfault =>
    cases hfault with
    | overrun hoverrun => cases hoverrun

end Disassembly

end RiscvListing
