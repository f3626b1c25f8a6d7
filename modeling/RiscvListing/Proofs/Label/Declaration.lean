import RiscvListing.Proofs.Label

/-!
# Which labels code has

The labels of code are found word by word, and each is given when a jump first leads to its place.
They can be told without going through the words. A place that is a function is called after the
last function there. Any other place that a jump leads to is called after the number of jumps in
front of the first jump to it. Places are listed functions first, each where it first occurs.

The addresses of the words need not differ. Of two jumps at one address the later one counts, at the
place of the earlier one.

## Main definitions

* `Resolution.leaps`, `Resolution.targets` — the jumps of a run of code and where they lead.
* `Resolution.jumpsBefore` — the number after which a place is called.
* `Resolution.Declared` — a resolution has the labels that code has.

## Main results

* `Resolution.Declared.step` — taking in a word.
* `Resolution.Declared.unique` — code has its labels in one way only.
* `Resolution.resolve_eq_ok_iff_declared` — a resolution is found exactly if it has the labels that
  code has.
* `Resolution.resolve_declared` — what becomes of code whose labels have a number of digits.
-/

namespace RiscvListing.Resolution

/-! ### Jumps of a run of code -/

/-- The place that a word with an address jumps to, if it is a jump. -/
def targetOf? (item : Int × Int) : Option Int :=
  (Word.ofInt item.2).jumpOffset?.map (jumpTarget item.1)

/-- The address and the target of each jump, in order. -/
def leaps (items : List (Int × Int)) : List (Int × Int) :=
  items.filterMap fun item => (targetOf? item).map fun target => (item.1, target)

/-- The targets of the jumps, in order. -/
def targets (items : List (Int × Int)) : List Int := (leaps items).map Prod.snd

/-- The number of jumps in front of the first jump to `target`. -/
def jumpsBefore (items : List (Int × Int)) (target : Int) : Nat :=
  (items.takeWhile fun item => targetOf? item ≠ some target).countP fun item =>
    (Word.ofInt item.2).isJump

section Jumps

variable {items more : List (Int × Int)} {item : Int × Int} {target : Int}

theorem isJump_eq_isSome (item : Int × Int) :
    (Word.ofInt item.2).isJump = (targetOf? item).isSome := by
  rw [targetOf?, Option.isSome_map]
  rfl

theorem leaps_append (items more : List (Int × Int)) :
    leaps (items ++ more) = leaps items ++ leaps more :=
  List.filterMap_append

theorem leaps_cons_of_none (h : targetOf? item = none) : leaps (item :: items) = leaps items := by
  simp [leaps, h]

theorem leaps_cons_of_some (h : targetOf? item = some target) :
    leaps (item :: items) = (item.1, target) :: leaps items := by
  simp [leaps, h]

theorem leaps_concat_of_none (h : targetOf? item = none) :
    leaps (items ++ [item]) = leaps items := by
  rw [leaps_append, leaps_cons_of_none h]
  exact List.append_nil _

theorem leaps_concat_of_some (h : targetOf? item = some target) :
    leaps (items ++ [item]) = leaps items ++ [(item.1, target)] := by
  rw [leaps_append, leaps_cons_of_some h]
  rfl

theorem targets_append (items more : List (Int × Int)) :
    targets (items ++ more) = targets items ++ targets more := by
  rw [targets, leaps_append, List.map_append, targets, targets]

theorem targets_cons_of_none (h : targetOf? item = none) :
    targets (item :: items) = targets items := by
  rw [targets, leaps_cons_of_none h, targets]

theorem targets_cons_of_some (h : targetOf? item = some target) :
    targets (item :: items) = target :: targets items := by
  rw [targets, leaps_cons_of_some h, targets, List.map_cons]

theorem length_targets (items : List (Int × Int)) :
    (targets items).length = items.countP fun item => (Word.ofInt item.2).isJump := by
  induction items with
  | nil => rfl
  | cons item rest ih =>
    cases h : targetOf? item with
    | none => simp [targets_cons_of_none h, ih, isJump_eq_isSome, h]
    | some target => simp [targets_cons_of_some h, ih, isJump_eq_isSome, h]

/-- The jumps in front of the first jump to a place are counted by the place of that jump among all
jumps. -/
theorem jumpsBefore_eq_idxOf (items : List (Int × Int)) (target : Int) :
    jumpsBefore items target = (targets items).idxOf target := by
  induction items with
  | nil => rfl
  | cons item rest ih =>
    have hjump := isJump_eq_isSome item
    unfold jumpsBefore at ih ⊢
    cases h : targetOf? item with
    | none =>
      rw [h] at hjump
      simp [targets_cons_of_none h, h, hjump, ← ih]
    | some other =>
      rw [h] at hjump
      by_cases hother : other = target
      · simp [targets_cons_of_some h, h, hother]
      · simp [targets_cons_of_some h, h, hjump, hother, ← ih]

/-- Words behind the first jump to a place do not change its number. -/
theorem jumpsBefore_append_of_mem (h : target ∈ targets items) :
    jumpsBefore (items ++ more) target = jumpsBefore items target := by
  rw [jumpsBefore_eq_idxOf, jumpsBefore_eq_idxOf, targets_append, List.idxOf_append_of_mem h]

/-- The first jump to a place comes behind all jumps that there are so far. -/
theorem jumpsBefore_append_of_notMem (h : target ∉ targets items)
    (hitem : targetOf? item = some target) :
    jumpsBefore (items ++ item :: more) target =
      items.countP fun item => (Word.ofInt item.2).isJump := by
  rw [jumpsBefore_eq_idxOf, targets_append, targets_cons_of_some hitem,
    List.idxOf_append_of_notMem h, List.idxOf_cons_self, Nat.add_zero, length_targets]

/-- Different places have different numbers. -/
theorem jumpsBefore_injective {other : Int} (h : target ∈ targets items)
    (heq : jumpsBefore items target = jumpsBefore items other) : target = other := by
  rw [jumpsBefore_eq_idxOf, jumpsBefore_eq_idxOf] at heq
  exact (List.idxOf_inj h).mp heq

theorem mem_targets_of_lastValue? {address : Int}
    (h : AddressMap.lastValue? (leaps items) address = some target) : target ∈ targets items := by
  rw [← AddressMap.get?_ofList] at h
  exact List.mem_map_of_mem (f := Prod.snd) (AddressMap.mem_of_get?_ofList h)

end Jumps

/-! ### Functions -/

/-- The addresses of the functions among `symbols`, in order. -/
def functionAddresses (symbols : List Symbol) : List Int :=
  (symbols.filter Symbol.isFunction).map Symbol.value

/-- The name of the last function at an address. -/
def functionName? (symbols : List Symbol) (address : Int) : Option String :=
  (symbols.filter fun symbol => symbol.isFunction ∧ symbol.value = address).getLast?.map
    Symbol.name

section Functions

variable {symbols : List Symbol} {address : Int}

theorem keys_ofFunctions (symbols : List Symbol) :
    (ofFunctions symbols).keys = (functionAddresses symbols).eraseDups := by
  rw [ofFunctions, AddressMap.keys_ofList, List.map_map]
  rfl

theorem get?_ofFunctions (symbols : List Symbol) (address : Int) :
    (ofFunctions symbols).get? address = functionName? symbols address := by
  rw [ofFunctions, AddressMap.get?_ofList, AddressMap.lastValue?, List.filter_map,
    List.getLast?_map, Option.map_map, List.filter_filter, functionName?]
  have hfilter : symbols.filter (fun symbol => symbol.isFunction ∧ symbol.value = address) =
      symbols.filter fun symbol => symbol.value = address && symbol.isFunction := by
    refine List.filter_congr fun symbol _ => ?_
    simp [Bool.and_comm]
  rw [hfilter]
  rfl

theorem exists_functionName? (h : address ∈ functionAddresses symbols) :
    ∃ name, functionName? symbols address = some name := by
  rw [← Option.ne_none_iff_exists', ← get?_ofFunctions, Ne, AddressMap.get?_eq_none_iff,
    keys_ofFunctions, List.mem_eraseDups, not_not]
  exact h

end Functions

/-! ### The labels that code has -/

variable {style : LabelStyle} {symbols : List Symbol} {items : List (Int × Int)}
  {item : Int × Int} {r r' : Resolution} {target : Int}

/-- A resolution has the labels that code has among some symbols. -/
structure Declared (style : LabelStyle) (items : List (Int × Int)) (symbols : List Symbol)
    (r : Resolution) : Prop where
  /-- Functions come first, then all other targets, each in order of first occurrence. -/
  keys_labels : r.labels.keys = (functionAddresses symbols).eraseDups ++
    ((targets items).filter fun target => target ∉ functionAddresses symbols).eraseDups
  /-- A function is called by the name of the last one at its address. -/
  function_label : ∀ address ∈ functionAddresses symbols,
    r.labels.get? address = functionName? symbols address
  /-- Any other target has the synthetic label with the number of jumps in front of the first jump
  to it. -/
  synthetic_label : ∀ target ∈ targets items, target ∉ functionAddresses symbols →
    ∃ label, style.name (jumpsBefore items target) = .ok label ∧
      r.labels.get? target = some label
  /-- The addresses of jumps, in order of first occurrence. -/
  keys_jumps : r.jumps.keys = ((leaps items).map Prod.fst).eraseDups
  /-- An address leads to the label of the target of the last jump there. -/
  jump_label : ∀ address target, AddressMap.lastValue? (leaps items) address = some target →
    r.jumps.get? address = r.labels.get? target
  /-- Every jump is counted. -/
  counter_eq : r.counter = items.countP fun item => (Word.ofInt item.2).isJump

namespace Declared

/-- The places with labels are the functions and then the targets, without repetitions. -/
theorem keys_labels_iff :
    r.labels.keys = (functionAddresses symbols).eraseDups ++
        ((targets items).filter fun target => target ∉ functionAddresses symbols).eraseDups ↔
      r.labels.keys = (functionAddresses symbols ++ targets items).eraseDups := by
  rw [List.eraseDups_append, List.removeAll]
  simp [List.elem_eq_contains]

theorem mem_keys_labels_iff (h : Declared style items symbols r) {address : Int} :
    address ∈ r.labels.keys ↔ address ∈ functionAddresses symbols ∨ address ∈ targets items := by
  rw [keys_labels_iff.mp h.keys_labels, List.mem_eraseDups, List.mem_append]

theorem exists_label (h : Declared style items symbols r) (htarget : target ∈ targets items) :
    ∃ label, r.labels.get? target = some label := by
  by_cases hfunction : target ∈ functionAddresses symbols
  · rw [h.function_label target hfunction]
    exact exists_functionName? hfunction
  · obtain ⟨label, -, hlabel⟩ := h.synthetic_label target htarget hfunction
    exact ⟨label, hlabel⟩

/-! #### One word -/

theorem start (style : LabelStyle) (symbols : List Symbol) :
    Declared style [] symbols { labels := ofFunctions symbols } where
  keys_labels := by
    rw [keys_ofFunctions]
    exact (List.append_nil _).symm
  function_label := fun address _ => get?_ofFunctions symbols address
  synthetic_label := fun target htarget => nomatch htarget
  keys_jumps := rfl
  jump_label := fun address target h => nomatch h
  counter_eq := rfl

/-- A word that is no jump. -/
theorem concat_of_none (h : Declared style items symbols r) (hitem : targetOf? item = none) :
    Declared style (items ++ [item]) symbols r := by
  have hleaps : leaps (items ++ [item]) = leaps items := leaps_concat_of_none hitem
  have htargets : targets (items ++ [item]) = targets items := by rw [targets, hleaps, targets]
  refine ⟨htargets ▸ h.keys_labels, h.function_label, ?_, hleaps ▸ h.keys_jumps,
    hleaps ▸ h.jump_label, ?_⟩
  · intro target htarget hfunction
    rw [htargets] at htarget
    rw [jumpsBefore_append_of_mem htarget]
    exact h.synthetic_label target htarget hfunction
  · simp [h.counter_eq, isJump_eq_isSome item, hitem]

/-- A jump gives its target the label that the target has in the end. -/
theorem label_of_concat (h : Declared style items symbols r) {label : String}
    (hitem : targetOf? item = some target) (hlabel : labelOf style r target = .ok label)
    (hfunction : target ∉ functionAddresses symbols) :
    style.name (jumpsBefore (items ++ [item]) target) = .ok label := by
  by_cases htarget : target ∈ targets items
  · -- An earlier jump has given the target its label.
    obtain ⟨found, hname, hfound⟩ := h.synthetic_label target htarget hfunction
    rw [labelOf_of_get? hfound] at hlabel
    rw [jumpsBefore_append_of_mem htarget, hname, hlabel]
  · -- The target has no label yet, and the counter has come to its number.
    have hnone : r.labels.get? target = none := by
      rw [AddressMap.get?_eq_none_iff, h.mem_keys_labels_iff, not_or]
      exact ⟨hfunction, htarget⟩
    rw [labelOf, hnone, h.counter_eq] at hlabel
    rw [jumpsBefore_append_of_notMem htarget hitem]
    exact hlabel

/-- A jump. -/
theorem concat_of_some (h : Declared style items symbols r) {label : String}
    (hitem : targetOf? item = some target) (hlabel : labelOf style r target = .ok label)
    (hkept : ∀ address old, r.labels.get? address = some old →
      (r.labels.insert target label).get? address = some old) :
    Declared style (items ++ [item]) symbols
      { labels := r.labels.insert target label
        jumps := r.jumps.insert item.1 label
        counter := r.counter + 1 } := by
  have hleaps : leaps (items ++ [item]) = leaps items ++ [(item.1, target)] :=
    leaps_concat_of_some hitem
  have htargets : targets (items ++ [item]) = targets items ++ [target] := by
    rw [targets, hleaps, List.map_append, targets]
    rfl
  constructor
  case keys_labels =>
    rw [keys_labels_iff, htargets, ← List.append_assoc, eraseDups_concat, AddressMap.keys_insert,
      keys_labels_iff.mp h.keys_labels]
    simp only [List.mem_eraseDups]
  case function_label =>
    intro address haddress
    obtain ⟨name, hname⟩ := exists_functionName? haddress
    rw [hname]
    exact hkept address name ((h.function_label address haddress).trans hname)
  case synthetic_label =>
    intro other hother hfunction
    rw [htargets, List.mem_append, List.mem_singleton] at hother
    obtain hother | rfl := hother
    · obtain ⟨old, hname, hold⟩ := h.synthetic_label other hother hfunction
      rw [jumpsBefore_append_of_mem hother]
      exact ⟨old, hname, hkept other old hold⟩
    · exact ⟨label, h.label_of_concat hitem hlabel hfunction, by simp⟩
  case keys_jumps =>
    rw [hleaps, List.map_append, List.map_singleton, eraseDups_concat, AddressMap.keys_insert,
      h.keys_jumps]
    simp only [List.mem_eraseDups]
  case jump_label =>
    intro address other hother
    rw [hleaps, AddressMap.lastValue?_concat] at hother
    rw [AddressMap.get?_insert]
    split at hother
    · rename_i heq
      cases hother
      simp [heq]
    · -- The last jump at another address stays the last, and the label of its target stays.
      rename_i hne
      obtain ⟨old, hold⟩ := h.exists_label (mem_targets_of_lastValue? hother)
      rw [if_neg hne, h.jump_label address other hother, hold, hkept other old hold]
  case counter_eq => simp [h.counter_eq, isJump_eq_isSome item, hitem]

/-- Taking in a word. -/
theorem step (h : Declared style items symbols r) (hstep : Resolution.step style r item = .ok r') :
    Declared style (items ++ [item]) symbols r' := by
  have hkept := fun address old => @get?_labels_of_step style item r r' address old hstep
  obtain ⟨hjump, rfl⟩ | ⟨offset, label, hjump, hlabel, rfl⟩ := step_eq_ok_iff.mp hstep
  · exact h.concat_of_none (by rw [targetOf?, hjump]; rfl)
  · exact h.concat_of_some (by rw [targetOf?, hjump]; rfl) hlabel hkept

/-! #### All words -/

/-- Two resolutions that have the labels of the same code are the same. -/
theorem unique (h : Declared style items symbols r) (h' : Declared style items symbols r') :
    r = r' := by
  have hlabels : r.labels = r'.labels := by
    refine AddressMap.eq_of_keys_eq ?_ (h.keys_labels.trans h'.keys_labels.symm) ?_
    · rw [keys_labels_iff.mp h.keys_labels]
      exact nodup_eraseDups _
    · intro address haddress
      by_cases hfunction : address ∈ functionAddresses symbols
      · rw [h.function_label address hfunction, h'.function_label address hfunction]
      · have htarget := (h.mem_keys_labels_iff.mp haddress).resolve_left hfunction
        obtain ⟨label, hname, hlabel⟩ := h.synthetic_label address htarget hfunction
        obtain ⟨label', hname', hlabel'⟩ := h'.synthetic_label address htarget hfunction
        rw [hlabel, hlabel', Except.ok.inj (hname.symm.trans hname')]
  have hjumps : r.jumps = r'.jumps := by
    refine AddressMap.eq_of_keys_eq ?_ (h.keys_jumps.trans h'.keys_jumps.symm) ?_
    · rw [h.keys_jumps]
      exact nodup_eraseDups _
    · -- Every address in the map has a last jump.
      intro address haddress
      rw [h.keys_jumps, List.mem_eraseDups] at haddress
      cases hlast : AddressMap.lastValue? (leaps items) address with
      | none => exact absurd haddress (AddressMap.lastValue?_eq_none_iff.mp hlast)
      | some target =>
        rw [h.jump_label address target hlast, h'.jump_label address target hlast, hlabels]
  have hcounter : r.counter = r'.counter := h.counter_eq.trans h'.counter_eq.symm
  cases r
  cases r'
  cases hlabels
  cases hjumps
  cases hcounter
  rfl

end Declared

theorem declared_of_resolve (h : resolve style items symbols = .ok r) :
    Declared style items symbols r :=
  resolve_induction (motive := fun items r => Declared style items symbols r)
    (Declared.start style symbols) (fun _ _ _ _ hr hstep => hr.step hstep) h

/-- A resolution that fails has come to a target that is no function, and the label that the target
would have cannot be written. -/
theorem exists_target_of_resolve_eq_error {fault : Fault}
    (h : resolve style items symbols = .error fault) :
    ∃ target ∈ targets items, target ∉ functionAddresses symbols ∧
      style.name (jumpsBefore items target) = .error fault := by
  obtain ⟨before, item, after, r, rfl, hbefore, hstep⟩ := exists_step_of_resolve_eq_error h
  obtain ⟨offset, hoffset, hnone, hname⟩ := step_eq_error_iff.mp hstep
  have hr : Declared style before symbols r := declared_of_resolve hbefore
  have hitem : targetOf? item = some (jumpTarget item.1 offset) := by
    rw [targetOf?, hoffset]
    rfl
  rw [AddressMap.get?_eq_none_iff, hr.mem_keys_labels_iff, not_or] at hnone
  refine ⟨jumpTarget item.1 offset, ?_, hnone.1, ?_⟩
  · rw [targets_append, targets_cons_of_some hitem]
    exact List.mem_append_right _ List.mem_cons_self
  · rw [jumpsBefore_append_of_notMem hnone.2 hitem, ← hr.counter_eq]
    exact hname

/-- A resolution is found exactly if it has the labels that the code has. -/
theorem resolve_eq_ok_iff_declared :
    resolve style items symbols = .ok r ↔ Declared style items symbols r := by
  refine ⟨declared_of_resolve, fun h => ?_⟩
  cases hresolve : resolve style items symbols with
  | ok found => rw [(declared_of_resolve hresolve).unique h]
  | error fault =>
    -- The label that could not be written is one that the code has.
    obtain ⟨target, htarget, hfunction, hname⟩ := exists_target_of_resolve_eq_error hresolve
    obtain ⟨label, hlabel, -⟩ := h.synthetic_label target htarget hfunction
    rw [hname] at hlabel
    cases hlabel

/-- A resolution is found if the labels that the code has can be written. -/
theorem exists_resolve (h : ∀ target ∈ targets items, target ∉ functionAddresses symbols →
      ∃ label, style.name (jumpsBefore items target) = .ok label) :
    ∃ r, resolve style items symbols = .ok r := by
  cases hresolve : resolve style items symbols with
  | ok r => exact ⟨r, rfl⟩
  | error fault =>
    obtain ⟨target, htarget, hfunction, hname⟩ := exists_target_of_resolve_eq_error hresolve
    obtain ⟨label, hlabel⟩ := h target htarget hfunction
    rw [hname] at hlabel
    cases hlabel

/-! ### Labels with a number of digits -/

variable {digits : Int}

/-- With more digits than a numeral can have, code has labels only if it jumps to functions only. -/
theorem exists_resolve_iff (hstyle : style.numbering = .ofInt digits) (hdigits : 0 ≤ digits) :
    (∃ r, resolve style items symbols = .ok r) ↔
      digits ≤ Pattern.widthLimit ∨
        ∀ target ∈ targets items, target ∈ functionAddresses symbols := by
  have hname := @LabelStyle.name_of_ofInt style digits
  constructor
  · rintro ⟨r, hr⟩
    by_cases hwidth : digits ≤ Pattern.widthLimit
    · exact .inl hwidth
    · right
      intro target htarget
      by_contra hfunction
      obtain ⟨label, hlabel, -⟩ :=
        (declared_of_resolve hr).synthetic_label target htarget hfunction
      rw [hname hstyle hdigits, if_pos (Int.not_le.mp hwidth)] at hlabel
      cases hlabel
  · intro h
    refine exists_resolve fun target htarget hfunction => ?_
    obtain hwidth | hfunctions := h
    · exact ⟨_, (hname hstyle hdigits).trans (if_neg (Int.not_lt.mpr hwidth))⟩
    · exact absurd (hfunctions target htarget) hfunction

/-- Code whose synthetic labels have a number of digits has exactly the labels that are declared:
functions first and then all other targets of jumps, in order of first occurrence, a function called
after the last one at its address, another target after the number of jumps in front of the first
jump to it; and for each address with jumps, in order of first occurrence, the label of the target
of the last one. They are found unless a synthetic label is needed that has more digits than a
numeral can have; then the fault is that of this label. -/
theorem resolve_declared (stem : String) (digits : Nat) (items : List (Int × Int))
    (symbols : List Symbol) :
    (∀ r, resolve ⟨stem, .ofInt digits⟩ items symbols = .ok r ↔
      Declared ⟨stem, .ofInt digits⟩ items symbols r) ∧
    ((∃ r, resolve ⟨stem, .ofInt digits⟩ items symbols = .ok r) ↔
      digits ≤ Pattern.widthLimit ∨
        ∀ target ∈ targets items, target ∈ functionAddresses symbols) ∧
    ∀ fault, resolve ⟨stem, .ofInt digits⟩ items symbols = .error fault →
      fault = .labelPattern .tooManyDigits := by
  refine ⟨fun r => resolve_eq_ok_iff_declared, ?_, ?_⟩
  · rw [exists_resolve_iff rfl (Int.natCast_nonneg digits), Int.ofNat_le]
  · intro fault h
    obtain ⟨target, -, -, hname⟩ := exists_target_of_resolve_eq_error h
    exact (LabelStyle.of_name_eq_error rfl (Int.natCast_nonneg digits) hname).2

/-- Two jumps at the address 0, one to a function of two names and one to 16, a word that is no
jump, a jump back to 0 and one to the function again. -/
def overlapping : List (Int × Int) :=
  [(0, 0x0080006f), (0, 0x0100006f), (4, 0x13), (8, 0xff9ff06f), (12, 0xffdff06f)]

/-- The function, and a symbol at 16 that is none. -/
def overlappingSymbols : List Symbol :=
  [{ value := 8, info := 2, name := "old" }, { value := 16, info := 1, name := "data" },
   { value := 8, info := 2, name := "new" }]

theorem resolve_declared_overlapping :
    resolve ⟨"L", .ofInt (1 : Nat)⟩ overlapping overlappingSymbols = .ok {
        labels := ⟨[(8, "new"), (16, "L1"), (0, "L2")]⟩
        jumps := ⟨[(0, "L1"), (8, "L2"), (12, "new")]⟩
        counter := 4 } ∧
      Declared ⟨"L", .ofInt (1 : Nat)⟩ overlapping overlappingSymbols {
        labels := ⟨[(8, "new"), (16, "L1"), (0, "L2")]⟩
        jumps := ⟨[(0, "L1"), (8, "L2"), (12, "new")]⟩
        counter := 4 } := by
  have hresolve : resolve ⟨"L", .ofInt (1 : Nat)⟩ overlapping overlappingSymbols = .ok {
      labels := ⟨[(8, "new"), (16, "L1"), (0, "L2")]⟩
      jumps := ⟨[(0, "L1"), (8, "L2"), (12, "new")]⟩
      counter := 4 } := by decide +kernel
  exact ⟨hresolve, ((resolve_declared "L" 1 overlapping overlappingSymbols).1 _).mp hresolve⟩

/-- A label of 2^63 digits cannot be written, so that code with a single jump is left without
labels. -/
theorem resolve_not_declared :
    resolve ⟨"LOC_", .ofInt (0x8000000000000000 : Nat)⟩ [(0x10000, 0), (0x10004, 0x0080006f)] [] =
        .error (.labelPattern .tooManyDigits) ∧
      ¬∃ r, resolve ⟨"LOC_", .ofInt (0x8000000000000000 : Nat)⟩
        [(0x10000, 0), (0x10004, 0x0080006f)] [] = .ok r := by
  have hresolve : resolve ⟨"LOC_", .ofInt (0x8000000000000000 : Nat)⟩
      [(0x10000, 0), (0x10004, 0x0080006f)] [] = .error (.labelPattern .tooManyDigits) := by
    decide +kernel
  refine ⟨hresolve, ?_⟩
  rintro ⟨r, hr⟩
  rw [hresolve] at hr
  cases hr

end RiscvListing.Resolution
