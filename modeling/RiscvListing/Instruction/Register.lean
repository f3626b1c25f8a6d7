import RiscvListing.Fault

/-!
# Registers

The 32 integer registers and the names that the calling convention gives them.

## Main definitions

* `Register`, `Register.name` — a register and its name.
* `Register.ofIndex`, `Register.ofName?` — a register from its number or its name.

## Main results

* `Register.ofName?_name` — a name belongs to one register only.
-/

namespace RiscvListing

/-- An integer register. -/
abbrev Register := BitVec 5

namespace Register

/-- The names of the registers in order. -/
def names : List String :=
  ["zero", "ra", "sp", "gp", "tp", "t0", "t1", "t2",
   "s0", "s1", "a0", "a1", "a2", "a3", "a4", "a5",
   "a6", "a7", "s2", "s3", "s4", "s5", "s6", "s7",
   "s8", "s9", "s10", "s11", "t3", "t4", "t5", "t6"]

/-- The name of a register. -/
def name (r : Register) : String := names.get (r.toFin.cast rfl)

/-- The register with a number. -/
def ofIndex (index : Int) : Except Fault Register :=
  if 0 ≤ index ∧ index < 32 then .ok (BitVec.ofInt 5 index) else .error (.unexpectedRegister index)

/-- The register with a name. -/
def ofName? (name : String) : Option Register :=
  (names.idxOf? name).map (BitVec.ofNat 5)

@[simp] theorem ofName?_name (r : Register) : ofName? r.name = some r := by
  revert r
  decide

end Register

end RiscvListing
