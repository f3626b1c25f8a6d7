import RiscvListing.Image.Draft
import RiscvListing.Proofs.Disassembly.Result
import RiscvListing.Proofs.Text.Charset

/-!
# What a run leaves in the file of the listing

The file is opened when every word of the code is decoded, so a fault in the image leaves the file
as it was. From then on the listing replaces what the file held, line by line. A fault in the
encoding of a line comes too late: the file keeps the lines in front of it and nothing else.

## Main definitions

* `Listing.IsEncodable` — a listing can be written in an encoding.

## Main results

* `Listing.file_snd_eq_none_iff` — the listings that are written to the end.
* `Disassembly.result_run_of_ok`, `Disassembly.output_run_of_ok` — a run after its disassembly.
* `Disassembly.output_of_failing_run` — the file after a run that fails.
-/

namespace RiscvListing

/-! ### Listings in an encoding -/

namespace Listing

/-- The encoding is known and has a code for every character of the listing. -/
def IsEncodable (encoding : String) (lines : List CodeLine) (symbols : List Symbol) : Prop :=
  ∃ charset, Charset.ofName? encoding = some charset ∧
    ∀ piece ∈ pieces lines symbols, charset.accepts piece = true

variable {encoding : String} {lines : List CodeLine} {symbols : List Symbol}

/-- A listing is written to its end exactly if it can be written in its encoding. -/
theorem file_snd_eq_none_iff :
    (file encoding lines symbols).2 = none ↔ IsEncodable encoding lines symbols := by
  unfold file IsEncodable
  cases Charset.ofName? encoding with
  | none => simp
  | some charset =>
    simp only [Option.some.injEq, exists_eq_left']
    exact Charset.encode_snd_eq_none_iff

/-- An encoding without a limit is good for every listing. -/
theorem isEncodable_of_limit?_eq_none {charset : Charset}
    (hname : Charset.ofName? encoding = some charset) (hlimit : charset.limit? = none) :
    IsEncodable encoding lines symbols :=
  ⟨charset, hname, fun piece _ => Charset.accepts_of_limit?_eq_none hlimit piece⟩

end Listing

/-! ### Runs -/

namespace Disassembly

variable {settings : Settings} {source : Source} {destination : Destination} {journal : Journal}
  {d : Disassembly} {fault : Fault}

/-- A run whose disassembly fails does not touch the file. -/
theorem output_run_of_error
    (h : ((disassemble settings source).outcome journal).1 = .error fault) :
    (run settings source destination journal).output = destination.content := by
  unfold run
  revert h
  obtain ⟨result, after⟩ := (disassemble settings source).outcome journal
  rintro rfl
  rfl

theorem result_run_of_error
    (h : ((disassemble settings source).outcome journal).1 = .error fault) :
    (run settings source destination journal).result = .error fault := by
  unfold run
  revert h
  obtain ⟨result, after⟩ := (disassemble settings source).outcome journal
  rintro rfl
  rfl

/-- After a disassembly the file holds what the writing leaves in it. -/
theorem output_run_of_ok (h : ((disassemble settings source).outcome journal).1 = .ok d) :
    (run settings source destination journal).output = (write settings destination d).2 := by
  unfold run
  revert h
  obtain ⟨result, after⟩ := (disassemble settings source).outcome journal
  rintro rfl
  rfl

/-- After a disassembly the run fails exactly if the writing does. -/
theorem result_run_of_ok (h : ((disassemble settings source).outcome journal).1 = .ok d) :
    (run settings source destination journal).result =
      (write settings destination d).1.map fun _ => d := by
  unfold run
  revert h
  obtain ⟨result, after⟩ := (disassemble settings source).outcome journal
  rintro rfl
  dsimp only
  obtain ⟨_ | _, output⟩ := write settings destination d
  · rfl
  · rfl

theorem write_of_refusal (h : destination.refusal = some fault) :
    write settings destination d = (.error fault, destination.content) := by
  rw [write, h]

/-- A file that can be opened holds what is left of the listing, and the writing fails if something
is missing. -/
theorem write_of_accepted (h : destination.refusal = none) :
    write settings destination d =
      ((Listing.file settings.encoding d.lines d.symbols).2.elim (.ok ()) .error,
        some (Listing.file settings.encoding d.lines d.symbols).1) := by
  rw [write, h]
  obtain ⟨content, _ | fault⟩ := Listing.file settings.encoding d.lines d.symbols
  · rfl
  · rfl

/-- A run that fails leaves the file as it was if the listing could be written in its encoding, in
case the run came that far. Otherwise, in an encoding that is known, the file is opened, and the
lines in front of the first that cannot be encoded replace what it held. -/
theorem output_of_failing_run (settings : Settings) (source : Source) (destination : Destination)
    (journal : Journal) (fault : Fault)
    (h : (run settings source destination journal).result = .error fault) :
    ((∀ d, ((disassemble settings source).outcome journal).1 = .ok d →
        destination.refusal = none →
          Listing.IsEncodable settings.encoding d.lines d.symbols) →
      (run settings source destination journal).output = destination.content) ∧
    ∀ charset, Charset.ofName? settings.encoding = some charset →
      ∀ d, ((disassemble settings source).outcome journal).1 = .ok d →
        destination.refusal = none →
          ¬Listing.IsEncodable settings.encoding d.lines d.symbols ∧
          (run settings source destination journal).output =
            some (Listing.file settings.encoding d.lines d.symbols).1 := by
  -- What happens when the file has been opened.
  have hopened : ∀ d, ((disassemble settings source).outcome journal).1 = .ok d →
      destination.refusal = none →
        ¬Listing.IsEncodable settings.encoding d.lines d.symbols ∧
        (run settings source destination journal).output =
          some (Listing.file settings.encoding d.lines d.symbols).1 := by
    intro d hd haccepted
    constructor
    · intro hencodable
      rw [result_run_of_ok hd, write_of_accepted haccepted,
        Listing.file_snd_eq_none_iff.mpr hencodable] at h
      cases h
    · rw [output_run_of_ok hd, write_of_accepted haccepted]
  refine ⟨fun hencodable => ?_, fun _ _ => hopened⟩
  cases hresult : ((disassemble settings source).outcome journal).1 with
  | error cause => exact output_run_of_error hresult
  | ok d =>
    cases hrefusal : destination.refusal with
    | some cause => rw [output_run_of_ok hresult, write_of_refusal hrefusal]
    | none =>
      have hlisting := hencodable d hresult hrefusal
      exact absurd hlisting (hopened d hresult hrefusal).1

/-- An image of one word with a function whose name is not ASCII. -/
def accented (word : Word) : Source where
  shown := "accented"
  name := "accented"
  path := "/accented"
  content := Draft.toBytes {
    words := [word]
    base := 0x10000#32
    symbols := [{ name := "é", value := 0x10000, type := 2 }] }

/-- A file that holds an older listing. -/
def older : Destination where
  path := "/listing"
  content := some #[0x6f, 0x6c, 0x64]

theorem output_of_failing_run_undecodable :
    (run {} (accented 0#32) older ⟨.info, none, #[]⟩).result =
        .error (.unexpectedInstruction 0 (some 0x10000)) ∧
      (run {} (accented 0#32) older ⟨.info, none, #[]⟩).output = older.content := by
  have hresult : (run {} (accented 0#32) older ⟨.info, none, #[]⟩).result =
      .error (.unexpectedInstruction 0 (some 0x10000)) := by decide +kernel
  refine ⟨hresult, (output_of_failing_run _ _ _ _ _ hresult).1 ?_⟩
  intro d _ _
  have hname : Charset.ofName? "utf-8" = some .utf8 := by decide +kernel
  exact Listing.isEncodable_of_limit?_eq_none hname rfl

/-- In an encoding that has no code for the name of the function, the older listing is lost and
only the heading of the new one is there. -/
theorem output_of_failing_run_unencodable :
    (run { encoding := "ascii" } (accented 0x13#32) older ⟨.info, none, #[]⟩).result =
        .error (.unencodable "ascii" 'é' 18 18 128) ∧
      (run { encoding := "ascii" } (accented 0x13#32) older ⟨.info, none, #[]⟩).output =
        some #[0x2e, 0x74, 0x65, 0x78, 0x74, 0x0a] ∧
      older.content ≠ some #[0x2e, 0x74, 0x65, 0x78, 0x74, 0x0a] := by decide +kernel

end Disassembly

end RiscvListing
