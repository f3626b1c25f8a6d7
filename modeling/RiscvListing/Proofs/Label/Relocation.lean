import RiscvListing.Proofs.CodeLine.Dependence
import RiscvListing.Proofs.Label.Declaration

/-!
# Code at another place

Code can be moved as a whole: the addresses of its words and of its functions by one distance,
modulo the size of the address space. Jumps say how far they lead and not where to, so their targets
move along, also if some of the addresses wrap around and others do not. The labels are found in the
same order and under the same names, and every word is shown as it was.

Addresses have to be numbers of 32 bits: others may be told apart before the code is moved and no
longer afterwards.

## Main definitions

* `addressSpace`, `moveAddress` — addresses, and an address at a distance from another.
* `Symbol.move`, `Resolution.moveItem`, `Resolution.move` — symbols, words and labels elsewhere.

## Main results

* `jumpTarget_moveAddress` — the target of a jump moves with the jump.
* `Resolution.step_move` — a word is taken in at another place as it was.
* `Resolution.resolve_move` — so are all words.
* `CodeLine.decode_of_get?_eq` — what a line shows of its place is what the maps hold for it.
* `Resolution.resolve_and_decode_move` — code that is moved has its labels moved and reads the same.
-/

namespace RiscvListing

/-! ### Addresses -/

/-- The numbers of 32 bits. -/
def addressSpace : Set Int := {address | 0 ≤ address ∧ address < 2 ^ 32}

/-- The address that lies `distance` bytes behind an address, modulo the size of the address
space. -/
def moveAddress (distance address : Int) : Int := (address + distance) % 2 ^ 32

theorem mem_addressSpace {address : Int} :
    address ∈ addressSpace ↔ 0 ≤ address ∧ address < 2 ^ 32 := Iff.rfl

theorem jumpTarget_mem (address offset : Int) : jumpTarget address offset ∈ addressSpace := by
  rw [mem_addressSpace, jumpTarget]
  omega

/-- Different addresses stay different. -/
theorem injOn_moveAddress (distance : Int) : Set.InjOn (moveAddress distance) addressSpace := by
  intro address haddress other hother heq
  rw [mem_addressSpace] at haddress hother
  unfold moveAddress at heq
  omega

/-- The target of a jump moves with the jump. -/
theorem jumpTarget_moveAddress (distance address offset : Int) :
    jumpTarget (moveAddress distance address) offset =
      moveAddress distance (jumpTarget address offset) := by
  unfold jumpTarget moveAddress
  omega

/-- The symbol at another place. -/
def Symbol.move (distance : Int) (s : Symbol) : Symbol :=
  { s with value := moveAddress distance s.value }

namespace Resolution

variable {style : LabelStyle} {symbols : List Symbol} {items : List (Int × Int)}
  {item : Int × Int} {r r' : Resolution} {distance : Int}

/-- A word at another place. -/
def moveItem (distance : Int) (item : Int × Int) : Int × Int :=
  (moveAddress distance item.1, item.2)

/-- The labels at another place: their addresses are moved, in the order that they have, and all
else is as it was. -/
def move (distance : Int) (r : Resolution) : Resolution where
  labels := r.labels.mapKeys (moveAddress distance)
  jumps := r.jumps.mapKeys (moveAddress distance)
  counter := r.counter

/-! ### Labels are addresses -/

/-- The places with labels and the jumps have addresses of 32 bits. -/
structure IsPlaced (r : Resolution) : Prop where
  labels_within : r.labels.IsWithin addressSpace
  jumps_within : r.jumps.IsWithin addressSpace

theorem mem_addressSpace_of_function (h : ∀ symbol ∈ symbols, symbol.value ∈ addressSpace) :
    ∀ pair ∈ (symbols.filter Symbol.isFunction).map fun symbol => (symbol.value, symbol.name),
      pair.1 ∈ addressSpace := by
  intro pair hpair
  obtain ⟨symbol, hsymbol, rfl⟩ := List.mem_map.mp hpair
  exact h symbol (List.mem_filter.mp hsymbol).1

theorem isPlaced_start (h : ∀ symbol ∈ symbols, symbol.value ∈ addressSpace) :
    IsPlaced { labels := ofFunctions symbols } where
  labels_within := AddressMap.isWithin_ofList (mem_addressSpace_of_function h)
  jumps_within := AddressMap.isWithin_empty

theorem IsPlaced.step (hr : r.IsPlaced) (hitem : item.1 ∈ addressSpace)
    (hstep : Resolution.step style r item = .ok r') : r'.IsPlaced := by
  obtain ⟨-, rfl⟩ | ⟨offset, label, -, -, rfl⟩ := step_eq_ok_iff.mp hstep
  · exact hr
  · exact ⟨hr.labels_within.insert (jumpTarget_mem item.1 offset) label,
      hr.jumps_within.insert hitem label⟩

theorem isPlaced_of_resolve (hitems : ∀ item ∈ items, item.1 ∈ addressSpace)
    (hsymbols : ∀ symbol ∈ symbols, symbol.value ∈ addressSpace)
    (h : resolve style items symbols = .ok r) : r.IsPlaced := by
  refine resolve_induction (motive := fun items r =>
    (∀ item ∈ items, item.1 ∈ addressSpace) → r.IsPlaced) ?_ ?_ h hitems
  · intro _
    exact isPlaced_start hsymbols
  · intro items item r r' hr hstep hitems
    rw [List.forall_mem_append, List.forall_mem_singleton] at hitems
    exact (hr hitems.1).step hitems.2 hstep

/-! ### One word -/

theorem ofFunctions_move (h : ∀ symbol ∈ symbols, symbol.value ∈ addressSpace) :
    ofFunctions (symbols.map (Symbol.move distance)) =
      (ofFunctions symbols).mapKeys (moveAddress distance) := by
  have hfilter : (symbols.map (Symbol.move distance)).filter Symbol.isFunction =
      (symbols.filter Symbol.isFunction).map (Symbol.move distance) := List.filter_map
  rw [ofFunctions, hfilter, ofFunctions,
    AddressMap.mapKeys_ofList (injOn_moveAddress distance) (mem_addressSpace_of_function h),
    List.map_map, List.map_map]
  rfl

theorem labelOf_move (hr : r.IsPlaced) {target : Int} (htarget : target ∈ addressSpace) :
    labelOf style (r.move distance) (moveAddress distance target) = labelOf style r target := by
  unfold labelOf move
  rw [AddressMap.get?_mapKeys (injOn_moveAddress distance) hr.labels_within htarget]

/-- A word at another place is taken in as it was, or fails as it did. -/
theorem step_move (hr : r.IsPlaced) (hitem : item.1 ∈ addressSpace) :
    step style (r.move distance) (moveItem distance item) =
      (step style r item).map (move distance) := by
  unfold step
  simp only [moveItem]
  cases (Word.ofInt item.2).jumpOffset? with
  | none => rfl
  | some offset =>
    have htarget := jumpTarget_mem item.1 offset
    simp only [jumpTarget_moveAddress, labelOf_move hr htarget]
    cases labelOf style r (jumpTarget item.1 offset) with
    | error fault => rfl
    | ok label =>
      -- The label is noted at the two places that have moved.
      have hinj := injOn_moveAddress distance
      change Except.ok (_ : Resolution) = Except.ok (move distance _)
      simp only [move, AddressMap.mapKeys_insert hinj hr.labels_within htarget,
        AddressMap.mapKeys_insert hinj hr.jumps_within hitem]

/-! ### All words -/

theorem foldlM_step_move (hr : r.IsPlaced) (hitems : ∀ item ∈ items, item.1 ∈ addressSpace) :
    (items.map (moveItem distance)).foldlM (step style) (r.move distance) =
      (items.foldlM (step style) r).map (move distance) := by
  induction items generalizing r with
  | nil => rfl
  | cons item rest ih =>
    rw [List.forall_mem_cons] at hitems
    rw [List.map_cons, List.foldlM_cons, List.foldlM_cons, step_move hr hitems.1]
    cases hstep : step style r item with
    | error fault => rfl
    | ok next =>
      -- The step adds addresses only, so that the next one can be moved as well.
      exact ih (hr.step hitems.1 hstep) hitems.2

/-- Code that is moved has its labels moved, or fails as it did. -/
theorem resolve_move (hitems : ∀ item ∈ items, item.1 ∈ addressSpace)
    (hsymbols : ∀ symbol ∈ symbols, symbol.value ∈ addressSpace) :
    resolve style (items.map (moveItem distance)) (symbols.map (Symbol.move distance)) =
      (resolve style items symbols).map (move distance) := by
  have hstart : ({ labels := ofFunctions (symbols.map (Symbol.move distance)) } : Resolution) =
      move distance { labels := ofFunctions symbols } := by
    rw [ofFunctions_move hsymbols]
    rfl
  rw [resolve, hstart, foldlM_step_move (isPlaced_start hsymbols) hitems, resolve]

/-! ### Lines -/

/-- Every jump is noted. -/
theorem exists_get?_jumps_of_resolve {offset : Int} (h : resolve style items symbols = .ok r)
    (hitem : item ∈ items) (hoffset : (Word.ofInt item.2).jumpOffset? = some offset) :
    ∃ label, r.jumps.get? item.1 = some label := by
  have hleap : (item.1, jumpTarget item.1 offset) ∈ leaps items := by
    rw [leaps, List.mem_filterMap]
    exact ⟨item, hitem, by simp [targetOf?, hoffset]⟩
  have hkey : item.1 ∈ r.jumps.keys := by
    rw [(declared_of_resolve h).keys_jumps, List.mem_eraseDups]
    exact List.mem_map.mpr ⟨_, hleap, rfl⟩
  refine Option.ne_none_iff_exists'.mp fun hnone => ?_
  exact AddressMap.get?_eq_none_iff.mp hnone hkey

end Resolution

/-- A line shows of its place only what the maps hold for it, if a jump is noted there. -/
theorem CodeLine.decode_of_get?_eq {jumps labels jumps' labels' : AddressMap String}
    {address address' word : Int} {line : CodeLine}
    (hjumps : jumps'.get? address' = jumps.get? address)
    (hlabels : labels'.get? address' = labels.get? address)
    (hnoted : ∀ offset, (Word.ofInt word).jumpOffset? = some offset →
      ∃ label, jumps.get? address = some label)
    (h : decode jumps labels address word = .ok line) :
    decode jumps' labels' address' word = .ok { line with address := address' } := by
  obtain ⟨i, hi, rfl⟩ := decode_eq_ok_iff.mp h
  have htarget : i.operands (targetLabel jumps' address' i) =
      i.operands (targetLabel jumps address i) := by
    cases hoffset : i.jumpOffset? with
    | none => exact Instruction.operands_eq_of_jumpOffset?_eq_none hoffset _ _
    | some offset =>
      -- Without the label, the line would show the address that the jump leads to.
      have hjump := (Instruction.jumpOffset?_of_decode? hi).trans hoffset
      obtain ⟨label, hlabel⟩ := hnoted offset hjump
      rw [targetLabel, targetLabel, hjumps, hlabel]
  refine decode_eq_ok_iff.mpr ⟨i, hi, ?_⟩
  simp only [ofInstruction, htarget, hlabels]

namespace Resolution

/-- Code that is moved is given the labels that it had, in the same order and with the same counter,
at the addresses that have moved. Every word of it is then shown with the name, the operands and the
label that it had, or is refused where it was. -/
theorem resolve_and_decode_move (style : LabelStyle) (distance : Int) (items : List (Int × Int))
    (symbols : List Symbol) (hitems : ∀ item ∈ items, item.1 ∈ addressSpace)
    (hsymbols : ∀ symbol ∈ symbols, symbol.value ∈ addressSpace) :
    resolve style (items.map (moveItem distance)) (symbols.map (Symbol.move distance)) =
        (resolve style items symbols).map (move distance) ∧
      ∀ r, resolve style items symbols = .ok r → ∀ item ∈ items,
        (∀ line, CodeLine.decode r.jumps r.labels item.1 item.2 = .ok line →
          CodeLine.decode (r.move distance).jumps (r.move distance).labels
            (moveAddress distance item.1) item.2 =
              .ok { line with address := moveAddress distance item.1 }) ∧
        ∀ fault, CodeLine.decode r.jumps r.labels item.1 item.2 = .error fault →
          CodeLine.decode (r.move distance).jumps (r.move distance).labels
            (moveAddress distance item.1) item.2 =
              .error (.unexpectedInstruction item.2 (some (moveAddress distance item.1))) := by
  refine ⟨resolve_move hitems hsymbols, ?_⟩
  intro r hr item hitem
  have hplaced := isPlaced_of_resolve hitems hsymbols hr
  have hinj := injOn_moveAddress distance
  constructor
  · intro line hline
    refine CodeLine.decode_of_get?_eq ?_ ?_ ?_ hline
    · exact AddressMap.get?_mapKeys hinj hplaced.jumps_within (hitems item hitem)
    · exact AddressMap.get?_mapKeys hinj hplaced.labels_within (hitems item hitem)
    · intro offset hoffset
      exact exists_get?_jumps_of_resolve hr hitem hoffset
  · intro fault hfault
    rw [CodeLine.decode_eq_error_iff] at hfault ⊢
    exact ⟨hfault.1, rfl⟩

/-- A branch that leads across the end of the address space, a jump to itself at its beginning, and
a word that is no instruction. -/
def across : List (Int × Int) := [(0xfffffffc, 0x00000463), (0, 0x0000006f), (4, 0)]

/-- The labels of `across` with a function at the last word. -/
def acrossLabels : Resolution where
  labels := ⟨[(4, "f"), (0, "L1")]⟩
  jumps := ⟨[(0xfffffffc, "f"), (0, "L1")]⟩
  counter := 2

/-- Eight bytes further down, the branch stays within the address space. -/
theorem resolve_and_decode_move_across :
    resolve ⟨"L", .ofInt 1⟩ (across.map (moveItem (-8)))
        [{ value := 0xfffffffc, info := 2, name := "f" }] =
      .ok { labels := ⟨[(0xfffffffc, "f"), (0xfffffff8, "L1")]⟩
            jumps := ⟨[(0xfffffff4, "f"), (0xfffffff8, "L1")]⟩
            counter := 2 } ∧
    CodeLine.decode (acrossLabels.move (-8)).jumps (acrossLabels.move (-8)).labels 0xfffffff4
        0x00000463 =
      .ok { address := 0xfffffff4, word := 0x00000463, mnemonic := "beq",
            operands := "zero, zero, 4, f" } ∧
    CodeLine.decode (acrossLabels.move (-8)).jumps (acrossLabels.move (-8)).labels 0xfffffffc 0 =
      .error (.unexpectedInstruction 0 (some 0xfffffffc)) := by
  have hitems : ∀ item ∈ across, item.1 ∈ addressSpace := by
    simp [across, mem_addressSpace]
  have hsymbols : ∀ symbol ∈ [({ value := 4, info := 2, name := "f" } : Symbol)],
      symbol.value ∈ addressSpace := by
    simp [mem_addressSpace]
  have hresolve : resolve ⟨"L", .ofInt 1⟩ across [{ value := 4, info := 2, name := "f" }] =
      .ok acrossLabels := by decide +kernel
  have hbranch : CodeLine.decode acrossLabels.jumps acrossLabels.labels 0xfffffffc 0x00000463 =
      .ok { address := 0xfffffffc, word := 0x00000463, mnemonic := "beq",
            operands := "zero, zero, 4, f" } := rfl
  obtain ⟨hmoved, hlines⟩ :=
    resolve_and_decode_move ⟨"L", .ofInt 1⟩ (-8) across _ hitems hsymbols
  rw [hresolve] at hmoved
  refine ⟨hmoved, ?_, ?_⟩
  · exact (hlines _ hresolve (0xfffffffc, 0x00000463) (by simp [across])).1 _ hbranch
  · exact (hlines _ hresolve (4, 0) (by simp [across])).2 _ rfl

end Resolution

end RiscvListing
