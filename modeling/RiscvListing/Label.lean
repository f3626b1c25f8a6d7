import RiscvListing.AddressMap
import RiscvListing.Image.Symbol
import RiscvListing.Instruction.Word

/-!
# Labels

Functions are labelled with their names. A jump target without a label gets a synthetic one, a
numeral behind a common stem; the number counts the jumps seen before, so numbers can be skipped.

## Main definitions

* `Numbering`, `LabelStyle` and `LabelStyle.name` — how a synthetic label is written.
* `Resolution` — the labels of addresses and the labels that jumps lead to.
* `Resolution.ofFunctions` — the labels that come from function symbols.
* `Resolution.resolve` — the labels of a run of code.
-/

namespace RiscvListing

/-- How the number of a synthetic label is written. -/
inductive Numbering where
  /-- A lower-case hexadecimal numeral with at least a number of digits. -/
  | digits (count : Nat)
  /-- A numeral after a pattern. -/
  | pattern (p : Pattern)
  /-- No number can be written. -/
  | flawed (flaw : Pattern.Flaw)
  deriving Repr, DecidableEq

namespace Numbering

/-- A numeral with at least a number of digits, which cannot be negative or too large. -/
def ofInt (count : Int) : Numbering :=
  if count < 0 then .flawed (.malformed (Numeral.decimal count))
  else if Pattern.widthLimit < count.toNat then .flawed .tooManyDigits
  else .digits count.toNat

/-- A numeral after the pattern with a text. -/
def ofText (text : String) : Numbering :=
  match Pattern.parse text with
  | .ok p => .pattern p
  | .error flaw => .flawed flaw

/-- The same numbering where there is room for numerals of `room` characters only. -/
def within (room : Nat) : Numbering → Numbering
  | digits count => if room < count then .flawed .outOfMemory else .digits count
  | pattern p => if room < p.width then .flawed .outOfMemory else .pattern p
  | flawed flaw => .flawed flaw

/-- The numeral of a number. -/
def write (numbering : Numbering) (number : Int) : Except Fault String :=
  match numbering with
  | digits count => .ok (Numeral.hex count number)
  | pattern p => .ok (p.write number)
  | flawed flaw => .error (.labelPattern flaw)

end Numbering

/-- How a synthetic label is written: a stem and a number. -/
structure LabelStyle where
  /-- What stands in front of the number. -/
  stem : String := "LOC_"
  /-- How the number is written. -/
  numbering : Numbering := .digits 5
  deriving Repr, DecidableEq

/-- The synthetic label with a number. -/
def LabelStyle.name (style : LabelStyle) (number : Int) : Except Fault String :=
  (style.numbering.write number).map (style.stem ++ ·)

/-- The labels of a run of code. -/
structure Resolution where
  /-- The label of each address that has one. -/
  labels : AddressMap String := .empty
  /-- The label of the target of each jump, by the address of the jump. -/
  jumps : AddressMap String := .empty
  /-- The number of jumps. -/
  counter : Nat := 0
  deriving Repr, DecidableEq

namespace Resolution

/-- The labels of the functions among `symbols`; of two functions at one address the later wins. -/
def ofFunctions (symbols : List Symbol) : AddressMap String :=
  .ofList ((symbols.filter Symbol.isFunction).map fun symbol => (symbol.value, symbol.name))

/-- The label of `target`: the one it has, or else a synthetic one with the present number. -/
def labelOf (style : LabelStyle) (r : Resolution) (target : Int) : Except Fault String :=
  match r.labels.get? target with
  | some label => .ok label
  | none => style.name r.counter

/-- Takes in a word: a jump labels its target and is counted, other words leave everything as it
is. -/
def step (style : LabelStyle) (r : Resolution) (item : Int × Int) : Except Fault Resolution :=
  match (Word.ofInt item.2).jumpOffset? with
  | none => .ok r
  | some offset => do
    let target := jumpTarget item.1 offset
    let label ← labelOf style r target
    return {
      labels := r.labels.insert target label
      jumps := r.jumps.insert item.1 label
      counter := r.counter + 1 }

/-- The labels of code given as addresses with words. -/
def resolve (style : LabelStyle) (items : List (Int × Int)) (symbols : List Symbol) :
    Except Fault Resolution :=
  items.foldlM (step style) { labels := ofFunctions symbols }

end Resolution

end RiscvListing
