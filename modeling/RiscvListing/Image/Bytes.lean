import RiscvListing.Fault

/-!
# Bytes of a file

Reads at absolute offsets. A read either lies inside the file or fails with the offset and the size
that were asked for. Numbers are unsigned, the least significant byte first.

## Main definitions

* `LittleEndian.value`, `LittleEndian.bytes` — a number and its bytes.
* `Bytes` — the content of a file.
* `Bytes.slice`, `Bytes.number`, `Bytes.words` — the reads.

## Main results

* `LittleEndian.bytes_value` — bytes are determined by their number.
* `Bytes.require_eq_ok_iff`, `Bytes.requireRecord_eq_require` — a read succeeds exactly inside the
  file, and so does the read of a record that is not too large.
-/

namespace RiscvListing

namespace LittleEndian

/-- The number with the given bytes. -/
def value : List UInt8 → Nat
  | [] => 0
  | b :: rest => b.toNat + 256 * value rest

/-- The `width` low bytes of `n`. -/
def bytes : (width : Nat) → (n : Nat) → List UInt8
  | 0, _ => []
  | width + 1, n => UInt8.ofNat (n % 256) :: bytes width (n / 256)

@[simp] theorem length_bytes (width n : Nat) : (bytes width n).length = width := by
  induction width generalizing n with
  | zero => rfl
  | succ width ih => simp [bytes, ih]

theorem bytes_value (content : List UInt8) : bytes content.length (value content) = content := by
  induction content with
  | nil => rfl
  | cons b rest ih =>
    have hb : b.toNat < 256 := b.toNat_lt
    have hmod : (b.toNat + 256 * value rest) % 256 = b.toNat := by omega
    have hdiv : (b.toNat + 256 * value rest) / 256 = value rest := by omega
    simp [bytes, value, hmod, hdiv, ih]

end LittleEndian

/-- The content of a file. -/
abbrev Bytes := Array UInt8

namespace Bytes

/-- Fails unless `size` bytes at `offset` lie inside the file. -/
def require (d : Bytes) (offset size : Int) : Except Fault Unit :=
  if 0 ≤ offset ∧ 0 ≤ size ∧ offset + size ≤ d.size then .ok ()
  else .error (.truncatedFile offset size d.size)

theorem require_eq_ok_iff (d : Bytes) (offset size : Int) :
    d.require offset size = .ok () ↔ 0 ≤ offset ∧ 0 ≤ size ∧ offset + size ≤ d.size := by
  unfold require
  split <;> simp_all

/-- The `size` bytes at `offset`. -/
def slice (d : Bytes) (offset size : Int) : Except Fault Bytes := do
  d.require offset size
  return d.extract offset.toNat (offset + size).toNat

/-- The number in the `width` bytes from position `start` on. -/
def numberAt (d : Bytes) (start width : Nat) : Nat :=
  LittleEndian.value (d.extract start (start + width)).toList

/-- The number in the `width` bytes at `offset`. -/
def number (d : Bytes) (width : Nat) (offset : Int) : Except Fault Nat := do
  d.require offset width
  return d.numberAt offset.toNat width

/-- The number in the byte at `offset`. -/
def u8 (d : Bytes) (offset : Int) : Except Fault Nat := d.number 1 offset

/-- The number in the two bytes at `offset`. -/
def u16 (d : Bytes) (offset : Int) : Except Fault Nat := d.number 2 offset

/-- The number in the four bytes at `offset`. -/
def u32 (d : Bytes) (offset : Int) : Except Fault Nat := d.number 4 offset

/-- The `count` numbers of four bytes each from position `start` on. -/
def wordsAt (d : Bytes) (start : Nat) : (count : Nat) → List Nat
  | 0 => []
  | count + 1 => d.numberAt start 4 :: d.wordsAt (start + 4) count

/-- The most bytes that a record can have. -/
def recordLimit : Nat := 0x7FFFFFFFFFFFFFFF

/-- Fails unless a record of `size` bytes at `offset` lies inside the file. -/
def requireRecord (d : Bytes) (offset size : Int) : Except Fault Unit :=
  if recordLimit < size then .error (.oversizedRecord size) else d.require offset size

theorem requireRecord_eq_require (d : Bytes) (offset : Int) {size : Int} (h : size ≤ recordLimit) :
    d.requireRecord offset size = d.require offset size :=
  if_neg (Int.not_lt.mpr h)

/-- The `count` numbers of four bytes each at `offset`. Nothing is read where none are asked for. -/
def words (d : Bytes) (offset count : Int) : Except Fault (List Nat) :=
  if count ≤ 0 then .ok []
  else do
    d.requireRecord offset (4 * count)
    return d.wordsAt offset.toNat count.toNat

end Bytes

end RiscvListing
