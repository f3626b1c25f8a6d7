import RiscvListing.Label
import RiscvListing.Proofs.AddressMap

/-!
# The labels that jumps lead to

The pass that finds labels takes in the words of the code one by one. It never changes a label once
it is given, so what it noted for the first jump still holds after the last one.

## Main definitions

* `Resolution.Accounts` — a resolution knows every jump of a run of code.

## Main results

* `LabelStyle.name_of_ofInt` — which synthetic labels can be written.
* `Resolution.step_eq_ok_iff` — everything that taking in a word can do.
* `Resolution.resolve_induction` — what one word preserves holds after all of them.
* `Resolution.accounts_of_resolve` — the resolution of a run of code accounts for it.
* `Resolution.forall_label_of_resolve` — labels are names of functions or synthetic.
* `Resolution.exists_step_of_resolve_eq_error` — a resolution fails at the first word that is not
  taken in.
* `Resolution.exists_of_resolve_eq_error` — a resolution fails only at a jump to a place that is no
  function, whose synthetic label cannot be written.
-/

namespace RiscvListing

/-! ### Synthetic labels -/

namespace LabelStyle

variable {style : LabelStyle} {digits number : Int}

/-- Labels with a number of digits can be written up to the largest width of a numeral. -/
theorem name_of_ofInt (hstyle : style.numbering = .ofInt digits) (hdigits : 0 ≤ digits) :
    style.name number =
      if Pattern.widthLimit < digits then .error (.labelPattern .tooManyDigits)
      else .ok (style.stem ++ Numeral.hex digits.toNat number) := by
  rw [name, hstyle, Numbering.ofInt, if_neg (by omega)]
  by_cases hwidth : Pattern.widthLimit < digits.toNat
  · rw [if_pos hwidth, if_pos (by omega)]
    rfl
  · rw [if_neg hwidth, if_neg (by omega)]
    rfl

theorem of_name_eq_error {fault : Fault} (hstyle : style.numbering = .ofInt digits)
    (hdigits : 0 ≤ digits) (h : style.name number = .error fault) :
    Pattern.widthLimit < digits ∧ fault = .labelPattern .tooManyDigits := by
  rw [name_of_ofInt hstyle hdigits] at h
  split at h
  · rename_i hmany
    cases h
    exact ⟨hmany, rfl⟩
  · cases h

end LabelStyle

namespace Resolution

variable {style : LabelStyle} {symbols : List Symbol} {items : List (Int × Int)}
  {item : Int × Int} {r r' : Resolution}

/-! ### One word -/

theorem labelOf_of_get? {target : Int} {label : String} (h : r.labels.get? target = some label) :
    labelOf style r target = .ok label := by
  rw [labelOf, h]

/-- A word that is no jump changes nothing. A jump gives its target the label of the target and
notes the label at its own address. -/
theorem step_eq_ok_iff :
    step style r item = .ok r' ↔
      ((Word.ofInt item.2).jumpOffset? = none ∧ r' = r) ∨
      ∃ offset label, (Word.ofInt item.2).jumpOffset? = some offset ∧
        labelOf style r (jumpTarget item.1 offset) = .ok label ∧
        r' = { labels := r.labels.insert (jumpTarget item.1 offset) label
               jumps := r.jumps.insert item.1 label
               counter := r.counter + 1 } := by
  unfold step
  cases (Word.ofInt item.2).jumpOffset? with
  | none => simp [eq_comm]
  | some offset =>
    rw [Fault.bind_eq_ok_iff]
    simp [pure, Except.pure, eq_comm]

/-- A label stays once it is given. -/
theorem get?_labels_of_step {address : Int} {label : String} (h : step style r item = .ok r')
    (hlabel : r.labels.get? address = some label) : r'.labels.get? address = some label := by
  obtain ⟨-, rfl⟩ | ⟨offset, other, -, hother, rfl⟩ := step_eq_ok_iff.mp h
  · exact hlabel
  · rw [AddressMap.get?_insert]
    split
    · -- A target that has a label is given the same label again.
      rename_i heq
      rw [← heq, labelOf_of_get? hlabel] at hother
      rw [Except.ok.inj hother]
    · exact hlabel

/-! ### All words -/

/-- What holds at first and is preserved by each word holds after all of them. -/
theorem resolve_induction {motive : List (Int × Int) → Resolution → Prop}
    (start : motive [] { labels := ofFunctions symbols })
    (next : ∀ items item r r', motive items r → step style r item = .ok r' →
      motive (items ++ [item]) r')
    (h : resolve style items symbols = .ok r) : motive items r := by
  unfold resolve at h
  induction items using List.reverseRecOn generalizing r with
  | nil =>
    cases h
    exact start
  | append_singleton items item ih =>
    rw [List.foldlM_append, Fault.bind_eq_ok_iff] at h
    obtain ⟨before, hbefore, hlast⟩ := h
    rw [List.foldlM_cons, Fault.bind_eq_ok_iff] at hlast
    obtain ⟨after, hstep, hafter⟩ := hlast
    cases hafter
    exact next items item before _ (ih hbefore) hstep

/-- The jumps of `items` are counted, noted in order at their addresses, and each of them leads to
the label of its target. -/
structure Accounts (items : List (Int × Int)) (r : Resolution) : Prop where
  counter_eq : r.counter = items.countP fun item => (Word.ofInt item.2).isJump
  keys_jumps : r.jumps.keys =
    (items.filter fun item => (Word.ofInt item.2).isJump).map Prod.fst
  linked : ∀ item ∈ items, ∀ offset, (Word.ofInt item.2).jumpOffset? = some offset →
    ∃ label, r.labels.get? (jumpTarget item.1 offset) = some label ∧
      r.jumps.get? item.1 = some label

theorem accounts_nil : Accounts [] { labels := ofFunctions symbols } where
  counter_eq := rfl
  keys_jumps := rfl
  linked := by simp

/-- Taking in a word at a new address. -/
theorem Accounts.step (hr : Accounts items r) (hnew : item.1 ∉ items.map Prod.fst)
    (h : Resolution.step style r item = .ok r') : Accounts (items ++ [item]) r' := by
  have hkept := @get?_labels_of_step style item r r'
  obtain ⟨hjump, rfl⟩ | ⟨offset, label, hjump, hlabel, rfl⟩ := step_eq_ok_iff.mp h
  · have hnot : (Word.ofInt item.2).isJump = false := by rw [Word.isJump, hjump]; rfl
    refine ⟨by simp [hr.counter_eq, hnot], by simp [hr.keys_jumps, hnot], ?_⟩
    intro other hother offset hoffset
    rw [List.mem_append, List.mem_singleton] at hother
    obtain hother | rfl := hother
    · exact hr.linked other hother offset hoffset
    · rw [hjump] at hoffset
      cases hoffset
  · have hyes : (Word.ofInt item.2).isJump = true := by rw [Word.isJump, hjump]; rfl
    refine ⟨by simp [hr.counter_eq, hyes], ?_, ?_⟩
    · have hkey : item.1 ∉ r.jumps.keys := by
        rw [hr.keys_jumps]
        exact fun hmem => hnew (List.map_subset _ (List.filter_subset_self _) hmem)
      rw [AddressMap.keys_insert, if_neg hkey, hr.keys_jumps]
      simp [hyes]
    · intro other hother distance hdistance
      rw [List.mem_append, List.mem_singleton] at hother
      obtain hother | rfl := hother
      · -- The address is new, so what is noted at the address of an earlier jump stays.
        obtain ⟨target, htarget, hnoted⟩ := hr.linked other hother distance hdistance
        have hne : other.1 ≠ item.1 := fun heq => hnew (heq ▸ List.mem_map_of_mem hother)
        refine ⟨target, hkept h htarget, ?_⟩
        rw [AddressMap.get?_insert, if_neg hne, hnoted]
      · rw [hjump] at hdistance
        cases hdistance
        exact ⟨label, by rw [AddressMap.get?_insert, if_pos rfl],
          by rw [AddressMap.get?_insert, if_pos rfl]⟩

/-- The resolution of a run of code whose addresses differ accounts for the code. -/
theorem accounts_of_resolve (h : resolve style items symbols = .ok r)
    (hnodup : (items.map Prod.fst).Nodup) : Accounts items r := by
  refine resolve_induction (motive := fun items r => (items.map Prod.fst).Nodup → Accounts items r)
    (fun _ => accounts_nil) ?_ h hnodup
  intro items item r r' ih hstep hnodup
  rw [List.map_append, List.map_singleton, List.nodup_append] at hnodup
  obtain ⟨hitems, -, hdisjoint⟩ := hnodup
  exact (ih hitems).step (fun hmem => hdisjoint _ hmem _ (List.mem_singleton_self _) rfl) hstep

theorem Accounts.size_jumps (hr : Accounts items r) : r.jumps.size = r.counter := by
  rw [AddressMap.size_eq_length_keys, hr.keys_jumps, List.length_map,
    ← List.countP_eq_length_filter, hr.counter_eq]

theorem Accounts.nodup_keys_jumps (hr : Accounts items r) (hnodup : (items.map Prod.fst).Nodup) :
    r.jumps.keys.Nodup := by
  rw [hr.keys_jumps]
  exact hnodup.sublist (List.filter_sublist.map Prod.fst)

/-! ### Where labels come from -/

theorem mem_of_get?_ofFunctions {address : Int} {label : String}
    (h : (ofFunctions symbols).get? address = some label) :
    ∃ symbol ∈ symbols, symbol.isFunction ∧ symbol.name = label := by
  obtain ⟨symbol, hmem, hpair⟩ := List.mem_map.mp (AddressMap.mem_of_get?_ofList h)
  obtain ⟨hsymbol, hfunction⟩ := List.mem_filter.mp hmem
  exact ⟨symbol, hsymbol, hfunction, congrArg Prod.snd hpair⟩

/-- What holds of the names of functions and of all synthetic labels holds of every label. -/
theorem forall_label_of_resolve {P : String → Prop}
    (hnames : ∀ symbol ∈ symbols, symbol.isFunction → P symbol.name)
    (hstyle : ∀ (number : Nat) label, style.name number = .ok label → P label)
    (h : resolve style items symbols = .ok r) :
    (∀ address label, r.labels.get? address = some label → P label) ∧
      ∀ address label, r.jumps.get? address = some label → P label := by
  refine resolve_induction (motive := fun _ r =>
    (∀ address label, r.labels.get? address = some label → P label) ∧
      ∀ address label, r.jumps.get? address = some label → P label) ⟨?_, ?_⟩ ?_ h
  · intro address label hlabel
    obtain ⟨symbol, hmem, hfunction, rfl⟩ := mem_of_get?_ofFunctions hlabel
    exact hnames symbol hmem hfunction
  · intro address label hlabel
    cases hlabel
  · rintro - item r r' ⟨hlabels, hjumps⟩ hstep
    obtain ⟨-, rfl⟩ | ⟨offset, label, -, hlabel, rfl⟩ := step_eq_ok_iff.mp hstep
    · exact ⟨hlabels, hjumps⟩
    · -- The label of the jump is a label of before or a synthetic one.
      have hP : P label := by
        unfold labelOf at hlabel
        split at hlabel
        · rename_i found hfound
          cases hlabel
          exact hlabels _ _ hfound
        · exact hstyle _ _ hlabel
      exact ⟨AddressMap.forall_get?_insert hlabels hP, AddressMap.forall_get?_insert hjumps hP⟩

/-! ### Labels that cannot be written -/

/-- A word is not taken in exactly if it jumps to a place without a label and the synthetic label
cannot be written. -/
theorem step_eq_error_iff {fault : Fault} :
    step style r item = .error fault ↔
      ∃ offset, (Word.ofInt item.2).jumpOffset? = some offset ∧
        r.labels.get? (jumpTarget item.1 offset) = none ∧
          style.name r.counter = .error fault := by
  unfold step labelOf
  cases (Word.ofInt item.2).jumpOffset? with
  | none => simp
  | some offset =>
    simp only [Option.some.injEq, exists_eq_left']
    cases r.labels.get? (jumpTarget item.1 offset) with
    | some label => simp [Fault.ok_bind, pure, Except.pure]
    | none => cases style.name r.counter <;> simp [bind, Except.bind, pure, Except.pure]

/-- The labels of functions are there from the first word on, and they stay. -/
theorem exists_get?_labels_of_function {symbol : Symbol}
    (h : resolve style items symbols = .ok r) (hmem : symbol ∈ symbols)
    (hfunction : symbol.isFunction = true) : ∃ label, r.labels.get? symbol.value = some label := by
  refine resolve_induction (motive := fun _ r => ∃ label, r.labels.get? symbol.value = some label)
    ?_ ?_ h
  · exact AddressMap.exists_get?_ofList
      (List.mem_map_of_mem (List.mem_filter.mpr ⟨hmem, hfunction⟩))
  · rintro - item r r' ⟨label, hlabel⟩ hstep
    exact ⟨label, get?_labels_of_step hstep hlabel⟩

/-- A resolution that fails has come to a word that is not taken in. -/
theorem exists_step_of_resolve_eq_error {fault : Fault}
    (h : resolve style items symbols = .error fault) :
    ∃ before item after r, items = before ++ item :: after ∧
      resolve style before symbols = .ok r ∧ step style r item = .error fault := by
  induction items using List.reverseRecOn with
  | nil => cases h
  | append_singleton items item ih =>
    rw [resolve, List.foldlM_append] at h
    -- The fault arose at one of the words in front, or the last word gives rise to it.
    cases hbefore : resolve style items symbols with
    | error other =>
      rw [show List.foldlM (step style) _ items = .error other from hbefore] at h
      obtain ⟨before, stop, after, r, rfl, hr, hstep⟩ :=
        ih (hbefore.trans (congrArg _ (Except.error.inj h)))
      exact ⟨before, stop, after ++ [item], r, List.append_assoc .., hr, hstep⟩
    | ok r =>
      rw [show List.foldlM (step style) _ items = .ok r from hbefore, Fault.ok_bind,
        List.foldlM_cons] at h
      refine ⟨items, item, [], r, rfl, hbefore, ?_⟩
      cases hstep : step style r item with
      | ok r' =>
        rw [hstep] at h
        cases h
      | error other =>
        rw [hstep] at h
        exact congrArg _ (Except.error.inj h)

/-- A resolution that fails has come to a jump to a place that is no function, and the synthetic
label of the place cannot be written. -/
theorem exists_of_resolve_eq_error {fault : Fault}
    (h : resolve style items symbols = .error fault) :
    ∃ item ∈ items, ∃ offset, (Word.ofInt item.2).jumpOffset? = some offset ∧
      (∀ symbol ∈ symbols, symbol.isFunction = true → symbol.value ≠ jumpTarget item.1 offset) ∧
      ∃ number : Nat, style.name number = .error fault := by
  obtain ⟨before, item, after, r, rfl, hbefore, hstep⟩ := exists_step_of_resolve_eq_error h
  obtain ⟨offset, hoffset, hnone, hname⟩ := step_eq_error_iff.mp hstep
  refine ⟨item, List.mem_append_right _ List.mem_cons_self, offset, hoffset, ?_, r.counter, hname⟩
  -- A function at the place would have given it a label.
  intro symbol hsymbol hfunction htarget
  obtain ⟨label, hlabel⟩ := exists_get?_labels_of_function hbefore hsymbol hfunction
  rw [htarget, hnone] at hlabel
  cases hlabel

end Resolution

end RiscvListing
