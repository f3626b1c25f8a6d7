import RiscvListing.Proofs.Label.Declaration
import RiscvListing.Proofs.Number.Numeral

/-!
# Synthetic labels tell places apart

Every jump is counted, so the number of jumps in front of the first jump to a place belongs to that
place alone. The number can be read from the label, also if it has more digits than were asked for.
Two places that are no functions therefore never share a label, and two jumps to such places have
the same label exactly if they lead to the same place. Names of functions are not told apart in this
way: two functions may have the same name, and the name of a function may look like a synthetic one.

## Main results

* `LabelStyle.name_injective` — the number of a label can be read from it.
* `Resolution.Declared.eq_of_label_eq` — places with the same synthetic label are the same.
* `Resolution.synthetic_labels_distinct` — labels and jumps of code with different addresses.
-/

namespace RiscvListing

/-- Labels with a number of digits have the same number if they are the same. -/
theorem LabelStyle.name_injective {style : LabelStyle} {digits : Int} {number other : Nat}
    {label : String} (hstyle : style.numbering = .ofInt digits) (hdigits : 0 ≤ digits)
    (h : style.name number = .ok label) (h' : style.name other = .ok label) : number = other := by
  rw [name_of_ofInt hstyle hdigits] at h h'
  split at h
  · cases h
  · rw [if_neg ‹_›] at h'
    -- The stem is the same, so the numerals are, and a numeral has one value.
    have hnumerals : (Numeral.hex digits.toNat number).toList =
        (Numeral.hex digits.toNat other).toList := by
      have htexts := congrArg String.toList (Except.ok.inj (h.trans h'.symm))
      rw [String.toList_append, String.toList_append] at htexts
      exact List.append_cancel_left htexts
    calc number = Numeral.value (Numeral.hex digits.toNat number).toList :=
          (Numeral.value_hex _ _).symm
      _ = Numeral.value (Numeral.hex digits.toNat other).toList := by rw [hnumerals]
      _ = other := Numeral.value_hex _ _

namespace Resolution

variable {style : LabelStyle} {symbols : List Symbol} {items : List (Int × Int)} {r : Resolution}
  {address other digits : Int} {label : String}

theorem Declared.name_of_get? (h : Declared style items symbols r)
    (hfunction : address ∉ functionAddresses symbols)
    (hlabel : r.labels.get? address = some label) :
    address ∈ targets items ∧ style.name (jumpsBefore items address) = .ok label := by
  have htarget : address ∈ targets items :=
    (h.mem_keys_labels_iff.mp (AddressMap.mem_keys_of_get? hlabel)).resolve_left hfunction
  obtain ⟨found, hname, hfound⟩ := h.synthetic_label address htarget hfunction
  rw [hlabel] at hfound
  cases hfound
  exact ⟨htarget, hname⟩

/-- Places that are no functions and have the same label are the same. -/
theorem Declared.eq_of_label_eq (h : Declared style items symbols r)
    (hstyle : style.numbering = .ofInt digits) (hdigits : 0 ≤ digits)
    (hfunction : address ∉ functionAddresses symbols)
    (hfunction' : other ∉ functionAddresses symbols) (hlabel : r.labels.get? address = some label)
    (hlabel' : r.labels.get? other = some label) : address = other := by
  obtain ⟨htarget, hname⟩ := h.name_of_get? hfunction hlabel
  obtain ⟨-, hname'⟩ := h.name_of_get? hfunction' hlabel'
  exact jumpsBefore_injective htarget (LabelStyle.name_injective hstyle hdigits hname hname')

/-- In code with different addresses, different places that are no functions have different labels,
and two jumps to such places have the same label exactly if the places are the same. -/
theorem synthetic_labels_distinct (stem : String) (digits : Nat) (items : List (Int × Int))
    (symbols : List Symbol) (hnodup : (items.map Prod.fst).Nodup) :
    (digits ≤ Pattern.widthLimit →
      ∃ r, resolve ⟨stem, .ofInt digits⟩ items symbols = .ok r) ∧
    ∀ r, resolve ⟨stem, .ofInt digits⟩ items symbols = .ok r →
      (∀ address other label label', address ≠ other →
        (∀ symbol ∈ symbols, symbol.isFunction → symbol.value ≠ address) →
        (∀ symbol ∈ symbols, symbol.isFunction → symbol.value ≠ other) →
        r.labels.get? address = some label → r.labels.get? other = some label' →
          label ≠ label') ∧
      ∀ item ∈ items, ∀ item' ∈ items, ∀ offset offset',
        (Word.ofInt item.2).jumpOffset? = some offset →
        (Word.ofInt item'.2).jumpOffset? = some offset' →
        (∀ symbol ∈ symbols, symbol.isFunction → symbol.value ≠ jumpTarget item.1 offset) →
        (∀ symbol ∈ symbols, symbol.isFunction → symbol.value ≠ jumpTarget item'.1 offset') →
        ∃ label label', r.jumps.get? item.1 = some label ∧ r.jumps.get? item'.1 = some label' ∧
          (label = label' ↔ (item.1 + offset) % 2 ^ 32 = (item'.1 + offset') % 2 ^ 32) := by
  have hdigits : (0 : Int) ≤ digits := Int.natCast_nonneg digits
  have hplace : ∀ {address : Int},
      (∀ symbol ∈ symbols, symbol.isFunction → symbol.value ≠ address) →
        address ∉ functionAddresses symbols := by
    intro address hall hmem
    obtain ⟨symbol, hsymbol, hvalue⟩ := List.mem_map.mp hmem
    obtain ⟨hsymbol, hfunction⟩ := List.mem_filter.mp hsymbol
    exact hall symbol hsymbol hfunction hvalue
  refine ⟨fun hwidth => (exists_resolve_iff rfl hdigits).mpr (.inl (by omega)), fun r hr => ?_⟩
  have hdeclared := declared_of_resolve hr
  refine ⟨?_, ?_⟩
  · intro address other label label' hne hfunction hfunction' hlabel hlabel' heq
    rw [← heq] at hlabel'
    exact hne (hdeclared.eq_of_label_eq rfl hdigits (hplace hfunction) (hplace hfunction') hlabel
      hlabel')
  · intro item hitem item' hitem' offset offset' hoffset hoffset' hfunction hfunction'
    -- With different addresses, no later jump takes the place of a jump.
    have haccounts := accounts_of_resolve hr hnodup
    obtain ⟨label, hlabel, hjump⟩ := haccounts.linked item hitem offset hoffset
    obtain ⟨label', hlabel', hjump'⟩ := haccounts.linked item' hitem' offset' hoffset'
    refine ⟨label, label', hjump, hjump', ?_, ?_⟩
    · rintro rfl
      exact hdeclared.eq_of_label_eq rfl hdigits (hplace hfunction) (hplace hfunction') hlabel
        hlabel'
    · intro htarget
      rw [show jumpTarget item.1 offset = jumpTarget item'.1 offset' from htarget] at hlabel
      exact Option.some.inj (hlabel.symm.trans hlabel')

/-- Seventeen jumps to different places and one to the place of the first. -/
def crowded : List (Int × Int) :=
  (List.range 17).map (fun i => (4 * (i : Int), 0x0800006f)) ++ [(0x100000080, 0x0000006f)]

theorem synthetic_labels_distinct_crowded :
    (crowded.map Prod.fst).Nodup ∧
      ∃ r, resolve ⟨"LOC_", .ofInt (1 : Nat)⟩ crowded [] = .ok r ∧
        r.labels.get? 132 = some "LOC_1" ∧ r.labels.get? 192 = some "LOC_10" ∧
        "LOC_1" ≠ "LOC_10" ∧
        ∃ label label', r.jumps.get? 0 = some label ∧ r.jumps.get? 0x100000080 = some label' ∧
          (label = label' ↔ ((0 : Int) + 128) % 2 ^ 32 = (0x100000080 + 0) % 2 ^ 32) := by
  have hnodup : (crowded.map Prod.fst).Nodup := by decide
  have h := synthetic_labels_distinct "LOC_" 1 crowded [] hnodup
  have hlabels : (resolve ⟨"LOC_", .ofInt (1 : Nat)⟩ crowded []).map
      (fun r => (r.labels.get? 132, r.labels.get? 192)) = .ok (some "LOC_1", some "LOC_10") := by
    decide +kernel
  obtain ⟨r, hr, hparts⟩ := Fault.map_eq_ok_iff.mp hlabels
  obtain ⟨hfirst, hsecond⟩ := Prod.mk.inj hparts
  obtain ⟨hdistinct, hjumps⟩ := h.2 r hr
  refine ⟨hnodup, r, hr, hfirst, hsecond, ?_, ?_⟩
  · exact hdistinct 132 192 _ _ (by decide) (by simp) (by simp) hfirst hsecond
  · exact hjumps (0, 0x0800006f) (by decide) (0x100000080, 0x0000006f) (by decide) 128 0
      (by decide) (by decide) (by simp) (by simp)

end Resolution

end RiscvListing
