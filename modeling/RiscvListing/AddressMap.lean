/-!
# Maps from addresses

A map from addresses to values that remembers the order in which its addresses first came. Giving
an address a new value leaves it in its place.

## Main definitions

* `AddressMap` — entries in order of first insertion.
* `AddressMap.get?`, `AddressMap.insert`, `AddressMap.ofList` — look up, add, build.

## Main results

* `AddressMap.get?_insert` — an inserted value is found at its address and nowhere else.
* `AddressMap.keys_insert` — a new address comes last, a known one stays where it is.
-/

namespace RiscvListing

/-- A map from addresses, its entries in order of first insertion. -/
structure AddressMap (α : Type) where
  /-- The entries, the oldest address first. -/
  entries : List (Int × α) := []
  deriving Repr, DecidableEq

namespace AddressMap

variable {α : Type}

/-- The map without entries. -/
def empty : AddressMap α := {}

/-- The number of addresses. -/
def size (m : AddressMap α) : Nat := m.entries.length

/-- The addresses, the oldest first. -/
def keys (m : AddressMap α) : List Int := m.entries.map Prod.fst

/-- The value at an address in a list of entries. -/
def firstValue? (address : Int) : List (Int × α) → Option α
  | [] => none
  | (key, value) :: rest => if key = address then some value else firstValue? address rest

/-- The value at an address. -/
def get? (m : AddressMap α) (address : Int) : Option α := firstValue? address m.entries

/-- Gives `address` the value `value` in a list of entries. -/
def insertEntry (address : Int) (value : α) : List (Int × α) → List (Int × α)
  | [] => [(address, value)]
  | (key, old) :: rest =>
    if key = address then (key, value) :: rest else (key, old) :: insertEntry address value rest

/-- Gives `address` the value `value`. -/
def insert (m : AddressMap α) (address : Int) (value : α) : AddressMap α :=
  ⟨insertEntry address value m.entries⟩

/-- The map of a list of pairs; a later pair overrides an earlier one at its address. -/
def ofList (pairs : List (Int × α)) : AddressMap α :=
  pairs.foldl (fun m pair => m.insert pair.1 pair.2) empty

theorem firstValue?_insertEntry (address key : Int) (value : α) (entries : List (Int × α)) :
    firstValue? key (insertEntry address value entries) =
      if key = address then some value else firstValue? key entries := by
  induction entries with
  | nil => simp [insertEntry, firstValue?, eq_comm]
  | cons entry rest ih =>
    obtain ⟨k, old⟩ := entry
    by_cases hk : k = address
    · subst hk
      by_cases h : key = k
      · simp [insertEntry, firstValue?, h]
      · simp [insertEntry, firstValue?, h, Ne.symm h]
    · by_cases h : k = key
      · subst h
        simp [insertEntry, firstValue?, hk]
      · simp [insertEntry, firstValue?, hk, h, ih]

@[simp] theorem get?_insert (m : AddressMap α) (address key : Int) (value : α) :
    (m.insert address value).get? key = if key = address then some value else m.get? key :=
  firstValue?_insertEntry address key value m.entries

@[simp] theorem get?_empty (key : Int) : (empty : AddressMap α).get? key = none := rfl

theorem keys_insertEntry (address : Int) (value : α) (entries : List (Int × α)) :
    (insertEntry address value entries).map Prod.fst =
      if address ∈ entries.map Prod.fst then entries.map Prod.fst
      else entries.map Prod.fst ++ [address] := by
  induction entries with
  | nil => simp [insertEntry]
  | cons entry rest ih =>
    obtain ⟨k, old⟩ := entry
    by_cases hk : k = address
    · simp [insertEntry, hk]
    · have hne : address ≠ k := fun h => hk h.symm
      by_cases hmem : address ∈ rest.map Prod.fst <;> simp_all [insertEntry]

theorem keys_insert (m : AddressMap α) (address : Int) (value : α) :
    (m.insert address value).keys =
      if address ∈ m.keys then m.keys else m.keys ++ [address] :=
  keys_insertEntry address value m.entries

end AddressMap

end RiscvListing
