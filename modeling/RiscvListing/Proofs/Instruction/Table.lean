import Mathlib.Data.List.Nodup
import RiscvListing.Instruction.Basic

/-!
# Tables of operations

The operations of a family are listed once, and an operation is found in its list by its code. The
list has every operation, and no two of them share a code, so looking up a code gives the operation
with that code and nothing else.

## Main definitions

* `IsTable` — a list with every value of a type, no two of them with the same key.

## Main results

* `IsTable.find?_eq_some_iff` — what a look-up finds.
* `BranchOp.ofFunct3?_eq_some_iff` and its relatives — the operation with a code.
-/

namespace RiscvListing

/-- A list that has every value of a type and in which a key belongs to one value only. -/
structure IsTable {α β : Type} (rows : List α) (key : α → β) : Prop where
  /-- Every value is listed. -/
  complete : ∀ a, a ∈ rows
  /-- No key is listed twice. -/
  nodup : (rows.map key).Nodup

namespace IsTable

variable {α β : Type} [DecidableEq β] {rows : List α} {key : α → β}

/-- A look-up finds the value with the key. -/
theorem find?_eq_some_iff (h : IsTable rows key) {k : β} {a : α} :
    rows.find? (fun x => decide (key x = k)) = some a ↔ key a = k := by
  constructor
  · intro hfind
    simpa using List.find?_some hfind
  · intro hkey
    cases hfind : rows.find? (fun x => decide (key x = k)) with
    | none => exact absurd (decide_eq_true hkey) (List.find?_eq_none.mp hfind a (h.complete a))
    | some b =>
      have hb : key b = k := by simpa using List.find?_some hfind
      have hab : b = a :=
        List.inj_on_of_nodup_map h.nodup (h.complete b) (h.complete a) (hb.trans hkey.symm)
      rw [hab]

end IsTable

/-! ### Operations by their codes -/

theorem BranchOp.ofFunct3?_eq_some_iff {code : BitVec 3} {op : BranchOp} :
    ofFunct3? code = some op ↔ op.funct3 = code :=
  IsTable.find?_eq_some_iff ⟨by rintro ⟨⟩ <;> decide, by decide⟩

theorem LoadOp.ofFunct3?_eq_some_iff {code : BitVec 3} {op : LoadOp} :
    ofFunct3? code = some op ↔ op.funct3 = code :=
  IsTable.find?_eq_some_iff ⟨by rintro ⟨⟩ <;> decide, by decide⟩

theorem StoreOp.ofFunct3?_eq_some_iff {code : BitVec 3} {op : StoreOp} :
    ofFunct3? code = some op ↔ op.funct3 = code :=
  IsTable.find?_eq_some_iff ⟨by rintro ⟨⟩ <;> decide, by decide⟩

theorem ImmediateOp.ofFunct3?_eq_some_iff {code : BitVec 3} {op : ImmediateOp} :
    ofFunct3? code = some op ↔ op.funct3 = code :=
  IsTable.find?_eq_some_iff ⟨by rintro ⟨⟩ <;> decide, by decide⟩

theorem ShiftOp.ofCodes?_eq_some_iff {code : BitVec 3 × BitVec 7} {op : ShiftOp} :
    ofCodes? code = some op ↔ op.codes = code :=
  IsTable.find?_eq_some_iff ⟨by rintro ⟨⟩ <;> decide, by decide⟩

theorem RegisterOp.ofCodes?_eq_some_iff {code : BitVec 3 × BitVec 7} {op : RegisterOp} :
    ofCodes? code = some op ↔ op.codes = code :=
  IsTable.find?_eq_some_iff ⟨by rintro ⟨⟩ <;> decide, by decide⟩

theorem EnvironmentOp.ofFunct12?_eq_some_iff {code : BitVec 12} {op : EnvironmentOp} :
    ofFunct12? code = some op ↔ op.funct12 = code :=
  IsTable.find?_eq_some_iff ⟨by rintro ⟨⟩ <;> decide, by decide⟩

theorem CsrOp.ofFunct3?_eq_some_iff {code : BitVec 3} {op : CsrOp} :
    ofFunct3? code = some op ↔ op.funct3 = code :=
  IsTable.find?_eq_some_iff ⟨by rintro ⟨⟩ <;> decide, by decide⟩

theorem CsrOp.ofImmediateFunct3?_eq_some_iff {code : BitVec 3} {op : CsrOp} :
    ofImmediateFunct3? code = some op ↔ op.immediateFunct3 = code :=
  IsTable.find?_eq_some_iff ⟨by rintro ⟨⟩ <;> decide, by decide⟩

end RiscvListing
