import Mathlib.Data.List.Induction
import Mathlib.Data.List.Nodup
import Mathlib.Data.Set.Function
import RiscvListing.AddressMap

/-!
# Maps made from pairs

A map keeps an address where it first came and gives it the value that came last. Both are told by
the list of pairs that a map is made from, and a map is told by its addresses in order and the value
of each.

## Main results

* `AddressMap.keys_ofList` — addresses stand in the order of their first pairs.
* `AddressMap.get?_ofList` — the value of an address is that of its last pair.
* `AddressMap.eq_of_keys_eq` — maps with the same addresses and values are the same.
* `AddressMap.get?_mapKeys`, `AddressMap.mapKeys_insert`, `AddressMap.mapKeys_ofList` — maps whose
  addresses are renamed.
-/

namespace RiscvListing

/-! ### First occurrences -/

section FirstOccurrences

variable {α : Type} [DecidableEq α]

theorem eraseDups_concat (l : List α) (a : α) :
    (l ++ [a]).eraseDups = if a ∈ l then l.eraseDups else l.eraseDups ++ [a] := by
  rw [List.eraseDups_append]
  by_cases h : a ∈ l
  · simp [List.removeAll, h]
  · simp [List.removeAll, h, List.eraseDups_cons]

theorem nodup_eraseDups (l : List α) : l.eraseDups.Nodup := by
  induction l using List.reverseRecOn with
  | nil => exact List.nodup_nil
  | append_singleton l a ih =>
    rw [eraseDups_concat]
    split
    · exact ih
    · rename_i hnew
      rw [← List.concat_eq_append]
      exact ih.concat (mt List.mem_eraseDups.mp hnew)

end FirstOccurrences

namespace AddressMap

variable {α : Type} {m m' : AddressMap α} {pairs : List (Int × α)} {address : Int}

/-! ### Addresses and values -/

theorem firstValue?_eq_none_iff {entries : List (Int × α)} :
    firstValue? address entries = none ↔ address ∉ entries.map Prod.fst := by
  induction entries with
  | nil => simp [firstValue?]
  | cons entry rest ih =>
    obtain ⟨key, value⟩ := entry
    by_cases hkey : key = address
    · simp [firstValue?, hkey]
    · simp [firstValue?, hkey, ih, Ne.symm hkey]

theorem get?_eq_none_iff : m.get? address = none ↔ address ∉ m.keys :=
  firstValue?_eq_none_iff

theorem size_eq_length_keys (m : AddressMap α) : m.size = m.keys.length := by
  rw [keys, List.length_map, size]

theorem forall_get?_insert {P : α → Prop} {key : Int} {value : α}
    (hm : ∀ address old, m.get? address = some old → P old) (hvalue : P value) :
    ∀ address found, (m.insert key value).get? address = some found → P found := by
  intro address found h
  rw [get?_insert] at h
  split at h
  · exact Option.some.inj h ▸ hvalue
  · exact hm _ _ h

theorem mem_keys_of_get? {value : α} (h : m.get? address = some value) : address ∈ m.keys := by
  by_contra hmem
  rw [get?_eq_none_iff.mpr hmem] at h
  cases h

theorem entries_eq_of_map_eq {entries entries' : List (Int × α)}
    (hnodup : (entries.map Prod.fst).Nodup)
    (hkeys : entries.map Prod.fst = entries'.map Prod.fst)
    (hvalues : ∀ key ∈ entries.map Prod.fst, firstValue? key entries = firstValue? key entries') :
    entries = entries' := by
  induction entries generalizing entries' with
  | nil => exact (List.map_eq_nil_iff.mp hkeys.symm).symm
  | cons entry rest ih =>
    obtain _ | ⟨entry', rest'⟩ := entries'
    · cases hkeys
    obtain ⟨key, value⟩ := entry
    obtain ⟨key', value'⟩ := entry'
    simp only [List.map_cons, List.cons.injEq] at hkeys
    obtain ⟨rfl, hrest⟩ := hkeys
    simp only [List.map_cons, List.nodup_cons] at hnodup
    obtain ⟨hnew, hnodup⟩ := hnodup
    have hvalue : value = value' := by
      have hfirst := hvalues key List.mem_cons_self
      simpa [firstValue?] using hfirst
    -- The first address does not come again, so the rest agrees without the first entry.
    have hothers : rest = rest' := by
      refine ih hnodup hrest fun other hother => ?_
      have hne : key ≠ other := fun heq => hnew (heq ▸ hother)
      have hlater := hvalues other (List.mem_cons_of_mem _ hother)
      simpa [firstValue?, hne] using hlater
    rw [hvalue, hothers]

/-- Maps with the same addresses in the same order and the same value at each are the same. -/
theorem eq_of_keys_eq (hnodup : m.keys.Nodup) (hkeys : m.keys = m'.keys)
    (hvalues : ∀ address ∈ m.keys, m.get? address = m'.get? address) : m = m' := by
  obtain ⟨entries⟩ := m
  obtain ⟨entries'⟩ := m'
  exact congrArg AddressMap.mk (entries_eq_of_map_eq hnodup hkeys hvalues)

/-! ### Maps of pairs -/

theorem ofList_concat (pairs : List (Int × α)) (pair : Int × α) :
    ofList (pairs ++ [pair]) = (ofList pairs).insert pair.1 pair.2 := by
  rw [ofList, List.foldl_append]
  rfl

theorem keys_ofList (pairs : List (Int × α)) :
    (ofList pairs).keys = (pairs.map Prod.fst).eraseDups := by
  induction pairs using List.reverseRecOn with
  | nil => rfl
  | append_singleton pairs pair ih =>
    rw [ofList_concat, keys_insert, ih, List.map_append, List.map_singleton, eraseDups_concat]
    simp only [List.mem_eraseDups]

/-- The value of the last pair at an address. -/
def lastValue? (pairs : List (Int × α)) (address : Int) : Option α :=
  (pairs.filter fun pair => pair.1 = address).getLast?.map Prod.snd

theorem lastValue?_concat (pairs : List (Int × α)) (pair : Int × α) (address : Int) :
    lastValue? (pairs ++ [pair]) address =
      if address = pair.1 then some pair.2 else lastValue? pairs address := by
  unfold lastValue?
  rw [List.filter_append]
  by_cases h : address = pair.1
  · simp [h]
  · simp [h, Ne.symm h]

theorem get?_ofList (pairs : List (Int × α)) (address : Int) :
    (ofList pairs).get? address = lastValue? pairs address := by
  induction pairs using List.reverseRecOn with
  | nil => rfl
  | append_singleton pairs pair ih =>
    rw [ofList_concat, get?_insert, ih, lastValue?_concat]

theorem lastValue?_eq_none_iff :
    lastValue? pairs address = none ↔ address ∉ pairs.map Prod.fst := by
  rw [← get?_ofList, get?_eq_none_iff, keys_ofList, List.mem_eraseDups]

/-- A value of the map of a list of pairs is the value of a pair. -/
theorem mem_of_get?_ofList {value : α} (h : (ofList pairs).get? address = some value) :
    (address, value) ∈ pairs := by
  rw [get?_ofList, lastValue?, Option.map_eq_some_iff] at h
  obtain ⟨pair, hlast, rfl⟩ := h
  obtain ⟨hpair, haddress⟩ := List.mem_filter.mp (List.mem_of_getLast? hlast)
  rwa [← of_decide_eq_true haddress]

/-- An address of a pair has a value in the map of the pairs. -/
theorem exists_get?_ofList {pair : Int × α} (h : pair ∈ pairs) :
    ∃ value, (ofList pairs).get? pair.1 = some value := by
  rw [← Option.ne_none_iff_exists', Ne, get?_eq_none_iff, keys_ofList, List.mem_eraseDups, not_not]
  exact List.mem_map_of_mem h

/-! ### Renamed addresses -/

/-- The map with its addresses renamed, in the order that they have. -/
def mapKeys (f : Int → Int) (m : AddressMap α) : AddressMap α :=
  ⟨m.entries.map fun entry => (f entry.1, entry.2)⟩

/-- All addresses of the map lie in `s`. -/
def IsWithin (m : AddressMap α) (s : Set Int) : Prop := ∀ key ∈ m.keys, key ∈ s

variable {f : Int → Int} {s : Set Int}

theorem isWithin_empty : (empty : AddressMap α).IsWithin s := by
  intro key hkey
  cases hkey

theorem IsWithin.insert (hm : m.IsWithin s) (haddress : address ∈ s) (value : α) :
    (m.insert address value).IsWithin s := by
  intro key hkey
  rw [keys_insert] at hkey
  split at hkey
  · exact hm key hkey
  · rw [List.mem_append, List.mem_singleton] at hkey
    obtain hkey | rfl := hkey
    · exact hm key hkey
    · exact haddress

theorem isWithin_ofList (h : ∀ pair ∈ pairs, pair.1 ∈ s) : (ofList pairs).IsWithin s := by
  intro key hkey
  rw [keys_ofList, List.mem_eraseDups, List.mem_map] at hkey
  obtain ⟨pair, hpair, rfl⟩ := hkey
  exact h pair hpair

/-- An address has the value that it had before it was renamed. -/
theorem get?_mapKeys (hf : Set.InjOn f s) (hm : m.IsWithin s) (haddress : address ∈ s) :
    (m.mapKeys f).get? (f address) = m.get? address := by
  obtain ⟨entries⟩ := m
  change firstValue? (f address) (entries.map _) = firstValue? address entries
  induction entries with
  | nil => rfl
  | cons entry rest ih =>
    obtain ⟨key, value⟩ := entry
    have hrest : AddressMap.IsWithin ⟨rest⟩ s := fun k hk => hm k (List.mem_cons_of_mem _ hk)
    have hkey : key ∈ s := hm key List.mem_cons_self
    by_cases heq : key = address
    · simp [firstValue?, heq]
    · have hne : f key ≠ f address := fun h => heq (hf hkey haddress h)
      simp [firstValue?, heq, hne, ih hrest]

/-- A value may be inserted before or after the addresses are renamed. -/
theorem mapKeys_insert (hf : Set.InjOn f s) (hm : m.IsWithin s) (haddress : address ∈ s)
    (value : α) : (m.insert address value).mapKeys f = (m.mapKeys f).insert (f address) value := by
  obtain ⟨entries⟩ := m
  apply congrArg AddressMap.mk
  change (insertEntry address value entries).map _ = insertEntry (f address) value (entries.map _)
  induction entries with
  | nil => rfl
  | cons entry rest ih =>
    obtain ⟨key, old⟩ := entry
    have hrest : AddressMap.IsWithin ⟨rest⟩ s := fun k hk => hm k (List.mem_cons_of_mem _ hk)
    have hkey : key ∈ s := hm key List.mem_cons_self
    by_cases heq : key = address
    · simp [insertEntry, heq]
    · have hne : f key ≠ f address := fun h => heq (hf hkey haddress h)
      simp [insertEntry, heq, hne, ih hrest]

theorem mapKeys_ofList (hf : Set.InjOn f s) (h : ∀ pair ∈ pairs, pair.1 ∈ s) :
    (ofList pairs).mapKeys f = ofList (pairs.map fun pair => (f pair.1, pair.2)) := by
  induction pairs using List.reverseRecOn with
  | nil => rfl
  | append_singleton pairs pair ih =>
    have hpairs : ∀ other ∈ pairs, other.1 ∈ s := fun other hother =>
      h other (List.mem_append_left _ hother)
    have hpair : pair.1 ∈ s := h pair (List.mem_append_right _ (List.mem_singleton_self pair))
    rw [ofList_concat, mapKeys_insert hf (isWithin_ofList hpairs) hpair, ih hpairs, List.map_append,
      List.map_singleton, ofList_concat]

end AddressMap

end RiscvListing
