import RiscvListing.Image.Bytes

/-!
# String tables

Texts stored one after the other, each ended by a zero byte. A byte stands for the character with
its number. A cursor walks over a table and remembers, relative to the start of the table, where
the next text begins.

## Main definitions

* `Bytes.zeroFrom?` — the first zero byte at or after a position.
* `StringCursor` — a place in a table.
* `StringCursor.read`, `StringCursor.next`, `StringCursor.readAll` — one text, the next one if the
  table has not ended, all that are left.
* `StringCursor.findAfter` — the place behind a given text.

## Main results

* `Bytes.zeroFrom?_eq_some_iff` — the position found holds the first zero.
-/

namespace RiscvListing

namespace Bytes

/-- Looks for a zero byte among the `count` bytes from `start` on. -/
def zeroAmong? (d : Bytes) : (count start : Nat) → Option Nat
  | 0, _ => none
  | count + 1, start => if d[start]? = some 0 then some start else d.zeroAmong? count (start + 1)

/-- The position of the first zero byte at or after `start`. -/
def zeroFrom? (d : Bytes) (start : Nat) : Option Nat := d.zeroAmong? (d.size - start) start

theorem zeroAmong?_eq_some_iff (d : Bytes) (count start position : Nat) :
    d.zeroAmong? count start = some position ↔
      start ≤ position ∧ position < start + count ∧ d[position]? = some 0 ∧
        ∀ i, start ≤ i → i < position → d[i]? ≠ some 0 := by
  induction count generalizing start with
  | zero => simp [zeroAmong?]; omega
  | succ count ih =>
    unfold zeroAmong?
    split
    · rename_i h
      simp only [Option.some.injEq]
      constructor
      · rintro rfl
        exact ⟨Nat.le_refl _, by omega, h, fun i _ _ => by omega⟩
      · rintro ⟨hle, -, -, hfirst⟩
        apply Classical.byContradiction
        intro hne
        exact hfirst start (Nat.le_refl _) (by omega) h
    · rename_i h
      rw [ih]
      constructor
      · rintro ⟨hle, hlt, hzero, hfirst⟩
        refine ⟨by omega, by omega, hzero, fun i hi hip => ?_⟩
        rcases Nat.eq_or_lt_of_le hi with rfl | hgt
        · exact h
        · exact hfirst i hgt hip
      · rintro ⟨hle, hlt, hzero, hfirst⟩
        have hne : start ≠ position := fun heq => h (heq ▸ hzero)
        exact ⟨by omega, by omega, hzero, fun i hi hip => hfirst i (by omega) hip⟩

theorem zeroFrom?_eq_some_iff (d : Bytes) (start position : Nat) :
    d.zeroFrom? start = some position ↔
      start ≤ position ∧ d[position]? = some 0 ∧
        ∀ i, start ≤ i → i < position → d[i]? ≠ some 0 := by
  rw [zeroFrom?, zeroAmong?_eq_some_iff]
  constructor
  · rintro ⟨hle, -, hzero, hfirst⟩
    exact ⟨hle, hzero, hfirst⟩
  · rintro ⟨hle, hzero, hfirst⟩
    obtain ⟨hlt, -⟩ := Array.getElem?_eq_some_iff.mp hzero
    exact ⟨hle, by omega, hzero, hfirst⟩

/-- The text of the bytes from `start` up to `stop`, a character for each byte. -/
def textAt (d : Bytes) (start stop : Nat) : String :=
  String.ofList ((d.extract start stop).toList.map Char.ofUInt8)

end Bytes

/-- A place in a string table. -/
structure StringCursor where
  /-- The offset of the table in the file. -/
  table : Int
  /-- The size of the table, where one is known. -/
  size : Option Int := none
  /-- Where the next text begins, relative to the table. -/
  offset : Int := 0
  deriving Repr, DecidableEq

namespace StringCursor

/-- The offset of the next text in the file. -/
def position (c : StringCursor) : Int := c.table + c.offset

/-- Whether the cursor has come to the end of a table of known size. -/
def exhausted (c : StringCursor) : Bool :=
  match c.size with
  | some size => size ≤ c.offset
  | none => false

/-- Reads a text and moves behind its zero byte. Where the file ends first, the cursor moves to the
end of the file, or stays if it lies outside. -/
def read (d : Bytes) (c : StringCursor) : Except Fault String × StringCursor :=
  if c.position < 0 then (.error (.truncatedFile c.position 1 d.size), c)
  else
    let start := c.position.toNat
    match d.zeroFrom? start with
    | some stop => (.ok (d.textAt start stop), { c with offset := stop + 1 - c.table })
    | none =>
      let stop := max start d.size
      (.error (.truncatedFile stop 1 d.size), { c with offset := stop - c.table })

/-- Reads a text unless the table has ended. -/
def next (d : Bytes) (c : StringCursor) : Except Fault (Option String) × StringCursor :=
  if c.exhausted then (.ok none, c)
  else
    let (result, c) := c.read d
    (result.map some, c)

/-- A bound on the reads that can succeed from a cursor on, and one more for the read that fails. -/
def room (d : Bytes) (c : StringCursor) : Nat := (d.size - c.position.toNat) + 1

/-- Reads texts until the table ends, at most `fuel` of them. -/
def readUpTo (d : Bytes) : (fuel : Nat) → StringCursor → Except Fault (List String) × StringCursor
  | 0, c => (.ok [], c)
  | fuel + 1, c =>
    if c.exhausted then (.ok [], c)
    else
      match c.read d with
      | (.error fault, c) => (.error fault, c)
      | (.ok text, c) =>
        let (rest, c) := readUpTo d fuel c
        (rest.map (text :: ·), c)

/-- Reads the texts that are left. -/
def readAll (d : Bytes) (c : StringCursor) : Except Fault (List String) × StringCursor :=
  readUpTo d (c.room d) c

/-- Reads texts until one equals `text`, at most `fuel` of them, and gives the place behind it. -/
def findUpTo (d : Bytes) (text : String) :
    (fuel : Nat) → StringCursor → Except Fault (Option StringCursor)
  | 0, _ => .ok none
  | fuel + 1, c =>
    if c.exhausted then .ok none
    else
      match c.read d with
      | (.error fault, _) => .error fault
      | (.ok found, c) => if found = text then .ok (some c) else findUpTo d text fuel c

/-- The place behind the first text that equals `text`. -/
def findAfter (d : Bytes) (text : String) (c : StringCursor) : Except Fault (Option StringCursor) :=
  findUpTo d text (c.room d) c

end StringCursor

end RiscvListing
