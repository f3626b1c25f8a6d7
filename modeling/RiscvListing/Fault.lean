import RiscvListing.Number.Pattern
import RiscvListing.Text.Escape

/-!
# Faults

Every way in which reading an image, naming its labels, decoding its code or writing its listing
can fail, each with the values that led to it, and the wording of each.

## Main definitions

* `Criterion` — the checks a file has to pass before anything else is read.
* `Fault` — the causes of failure.
* `Fault.kind` — whether the container, the code or the surroundings are to blame.
* `Fault.message` — the text shown to the user.

## Main results

* `Fault.bind_eq_ok_iff` — a sequence of computations succeeds exactly if both parts do.
-/

namespace RiscvListing

/-- What a file has to be, in the order in which it is checked, and the limit on its size. -/
inductive Criterion where
  | elf
  | class32
  | littleEndian
  | riscv
  | size
  deriving Repr, DecidableEq

/-- The name of a criterion in a message. -/
def Criterion.name : Criterion → String
  | .elf => "ELF"
  | .class32 => "32-bit"
  | .littleEndian => "little-endian"
  | .riscv => "RISC-V"
  | .size => "size"

/-- A cause of failure. -/
inductive Fault where
  /-- The file does not meet a criterion. -/
  | illegalFile (criterion : Criterion)
  /-- No section has the name or type that is needed. -/
  | missingSection (name : String)
  /-- A section is there and cannot be interpreted. -/
  | malformedSection (name reason : String)
  /-- A read of `size` bytes at `offset` leaves a file of `length` bytes. -/
  | truncatedFile (offset size : Int) (length : Nat)
  /-- A record of `size` bytes is larger than any file can be. -/
  | oversizedRecord (size : Int)
  /-- A word is no supported instruction. -/
  | unexpectedInstruction (word : Int) (address : Option Int)
  /-- A number names no register. -/
  | unexpectedRegister (index : Int)
  /-- A label's number cannot be written as it is set. -/
  | labelPattern (flaw : Pattern.Flaw)
  /-- The limit on the size of an image is no number, but a value of another kind. -/
  | incomparable (kind : String)
  /-- The name of the listing's encoding is no text, but a value of another kind. -/
  | encodingKind (kind : String)
  /-- The name of the listing's encoding has a character in it that no name can have. -/
  | encodingName
  /-- The listing's encoding is not known. -/
  | unknownEncoding (name : String)
  /-- An encoding has no code for the characters from `first` to `last` of a line. -/
  | unencodable (encoding : String) (character : Char) (first last : Nat) (limit : Nat)
  /-- The listing's file cannot be opened: a reason with its number, and the path. -/
  | unopened (number : Nat) (reason path : String)
  deriving Repr, DecidableEq

/-- What a fault is blamed on. -/
inductive Fault.Kind where
  | container
  | code
  | surroundings
  deriving Repr, DecidableEq

namespace Fault

/-- The part of the input or of its surroundings that a fault is blamed on. -/
def kind : Fault → Kind
  | illegalFile _ | missingSection _ | malformedSection .. | truncatedFile .. => .container
  | unexpectedInstruction .. | unexpectedRegister _ => .code
  | oversizedRecord _ | labelPattern _ | incomparable _ | encodingKind _ | encodingName
  | unknownEncoding _ | unencodable .. | unopened .. => .surroundings

/-- The text of a fault. -/
def message : Fault → String
  | illegalFile criterion => s!"Illegal file given, not {criterion.name}"
  | missingSection name => s!"Required section {name} is missing"
  | malformedSection name reason => s!"Malformed section {name}: {reason}"
  | truncatedFile offset size length =>
    s!"Unexpected end of file: cannot read {Numeral.decimal size} byte(s) at offset " ++
      s!"0x{Numeral.hex 0 offset} (file length 0x{Numeral.hex 0 length})"
  | unexpectedInstruction word none => s!"Unexpected instruction found: {Numeral.binary word}"
  | unexpectedInstruction word (some address) =>
    s!"Unexpected instruction found: {Numeral.binary word} at 0x{Numeral.hex 8 address}"
  | unexpectedRegister index => s!"Unexpected register found: {Numeral.decimal index}"
  | oversizedRecord _ => "total struct size too long"
  | labelPattern flaw => flaw.message
  | incomparable kind => s!"'>' not supported between instances of 'int' and '{kind}'"
  | encodingKind kind => s!"open() argument 'encoding' must be str or None, not {kind}"
  | encodingName => "embedded null character"
  | unknownEncoding name => s!"unknown encoding: {name}"
  | unencodable encoding character first last limit =>
    let place :=
      if first = last then
        s!"character '{Text.escape character}' in position {Numeral.decimal first}"
      else s!"characters in position {Numeral.decimal first}-{Numeral.decimal last}"
    s!"'{encoding}' codec can't encode {place}: ordinal not in range({Numeral.decimal limit})"
  | unopened number reason path =>
    s!"[Errno {Numeral.decimal number}] {reason}: {path}"

theorem ok_bind {α β : Type} (value : α) (next : α → Except Fault β) :
    Except.ok value >>= next = next value := rfl

theorem bind_eq_ok_iff {α β : Type} {first : Except Fault α} {next : α → Except Fault β}
    {result : β} :
    first >>= next = .ok result ↔ ∃ value, first = .ok value ∧ next value = .ok result := by
  cases first with
  | error fault =>
    simp only [reduceCtorEq, false_and, exists_false, iff_false]
    exact fun h => nomatch h
  | ok value => simp only [ok_bind, Except.ok.injEq, exists_eq_left']

theorem map_eq_ok_iff {α β : Type} {first : Except Fault α} {f : α → β} {result : β} :
    first.map f = .ok result ↔ ∃ value, first = .ok value ∧ f value = result := by
  cases first with
  | error fault => simp [Except.map]
  | ok value => simp [Except.map]

end Fault

end RiscvListing
