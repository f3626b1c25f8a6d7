import Mathlib.Data.Nat.Find
import Mathlib.Order.Bounds.Basic
import RiscvListing.Proofs.Image.Placement

/-!
# Looking for a text in a string table

A cursor reads the texts of a table one after the other, and each text ends behind the first zero
byte. A text therefore begins at the start of the table or behind a zero byte, and the search for a
text finds the least place of this kind at which it stands. Texts that stand somewhere else, as the
end of a longer text, are not seen.

## Main definitions

* `Bytes.BeginsAt` — where texts begin.
* `StringCursor.Places` — where a text begins that equals a given one.
* `StringCursor.IsClosed` — the last text that begins in a table comes to an end.
* `StringCursor.atStart` — the cursor at the start of a table.
* `StringCursor.Search` — the outcomes of a search.

## Main results

* `Bytes.textAt_eq_iff` — the text that is read is the one that stands there.
* `StringCursor.search_findUpTo` — what a search finds.
* `StringCursor.findUpTo_congr` — a search ends by itself.
-/

namespace RiscvListing

/-! ### Where texts begin -/

namespace Bytes

variable {d : Bytes} {start stop place : Nat} {text : String}

/-- A reader that starts at `start` comes to a text at `place`: it starts there, or a zero byte ends
the text in front. -/
def BeginsAt (d : Bytes) (start place : Nat) : Prop :=
  place = start ∨ start < place ∧ d[place - 1]? = some 0

theorem BeginsAt.le (h : d.BeginsAt start place) : start ≤ place := by
  obtain rfl | ⟨hlt, -⟩ := h
  · exact Nat.le_refl _
  · exact Nat.le_of_lt hlt

theorem zeroFrom?_eq_none_iff : d.zeroFrom? start = none ↔ ∀ i, start ≤ i → d[i]? ≠ some 0 := by
  constructor
  · -- If there were a zero byte, there would be a first one, which is found.
    intro hnone i hi hzero
    classical
    have hex : ∃ i, start ≤ i ∧ d[i]? = some 0 := ⟨i, hi, hzero⟩
    have hfound : d.zeroFrom? start = some (Nat.find hex) := by
      rw [zeroFrom?_eq_some_iff]
      refine ⟨(Nat.find_spec hex).1, (Nat.find_spec hex).2, fun j hj hlt hzero => ?_⟩
      exact Nat.find_min hex hlt ⟨hj, hzero⟩
    rw [hnone] at hfound
    cases hfound
  · intro hall
    cases hfind : d.zeroFrom? start with
    | none => rfl
    | some stop =>
      obtain ⟨hle, hzero, -⟩ := (zeroFrom?_eq_some_iff d start stop).mp hfind
      exact absurd hzero (hall stop hle)

/-- Behind the first text the reader goes on as if it started there. -/
theorem beginsAt_iff_of_zeroFrom? (h : d.zeroFrom? start = some stop) :
    d.BeginsAt start place ↔ place = start ∨ d.BeginsAt (stop + 1) place := by
  obtain ⟨hle, hzero, hfirst⟩ := (zeroFrom?_eq_some_iff d start stop).mp h
  constructor
  · rintro (rfl | ⟨hlt, hbyte⟩)
    · exact .inl rfl
    · have hge : stop ≤ place - 1 := by
        by_contra hlt'
        exact hfirst (place - 1) (by omega) (by omega) hbyte
      refine .inr ?_
      by_cases hplace : place = stop + 1
      · exact .inl hplace
      · exact .inr ⟨by omega, hbyte⟩
  · rintro (rfl | rfl | ⟨hlt, hbyte⟩)
    · exact .inl rfl
    · exact .inr ⟨by omega, hzero⟩
    · exact .inr ⟨by omega, hbyte⟩

/-- Where no zero byte follows, no second text begins. -/
theorem beginsAt_iff_of_zeroFrom?_eq_none (h : d.zeroFrom? start = none) :
    d.BeginsAt start place ↔ place = start := by
  constructor
  · rintro (rfl | ⟨hlt, hbyte⟩)
    · rfl
    · exact absurd hbyte (zeroFrom?_eq_none_iff.mp h (place - 1) (by omega))
  · rintro rfl
    exact .inl rfl

/-! ### The text that is read -/

theorem ofNat_toNat_ofUInt8 (b : UInt8) : UInt8.ofNat (Char.ofUInt8 b).toNat = b := by
  have hchar : (Char.ofUInt8 b).toNat = b.toNat := UInt8.toNat_toUInt32 b
  rw [hchar, UInt8.ofNat_toNat]

theorem hasAt_extract (d : Bytes) (start stop : Nat) :
    d.HasAt start (d.extract start stop).toList := by
  rw [HasAt, Array.toList_extract, List.extract_eq_take_drop]
  exact List.take_prefix _ _

theorem hasAt_zero (h : d[stop]? = some 0) : d.HasAt stop [0] := by
  obtain ⟨hlt, hbyte⟩ := Array.getElem?_eq_some_iff.mp h
  have hlist : stop < d.toList.length := by rwa [Array.length_toList]
  rw [HasAt, List.drop_eq_getElem_cons hlist, Array.getElem_toList, hbyte]
  exact ⟨_, rfl⟩

/-- The text that ends at the first zero byte is the one that stands there with its end. -/
theorem textAt_eq_iff (h : d.zeroFrom? start = some stop) (htext : IsLatin text) :
    d.textAt start stop = text ↔ d.HasAt start (terminated text) := by
  obtain ⟨hle, hzero, -⟩ := (zeroFrom?_eq_some_iff d start stop).mp h
  constructor
  · rintro rfl
    have hsize : stop < d.size := (Array.getElem?_eq_some_iff.mp hzero).1
    have hbytes : terminated (d.textAt start stop) = (d.extract start stop).toList ++ [0] := by
      rw [terminated, textAt, String.toList_ofList, List.map_map]
      congr 1
      conv_rhs => rw [← List.map_id (d.extract start stop).toList]
      exact List.map_congr_left fun b _ => ofNat_toNat_ofUInt8 b
    have hlength : start + (d.extract start stop).toList.length = stop := by
      rw [Array.length_toList, Array.size_extract]
      omega
    rw [hbytes, hasAt_append, hlength]
    exact ⟨hasAt_extract d start stop, hasAt_zero hzero⟩
  · intro hat
    have hstop : stop = start + text.length := Option.some.inj (h.symm.trans (hat.zeroFrom? htext))
    rw [hstop, hat.textAt htext]

end Bytes

/-! ### Reading one text -/

namespace StringCursor

variable {d : Bytes} {c : StringCursor} {start stop : Nat} {size : Int} {text : String}

/-- The cursor behind a text that ends at `stop`. -/
def behind (c : StringCursor) (stop : Nat) : StringCursor :=
  { c with offset := stop + 1 - c.table }

@[simp] theorem position_behind (c : StringCursor) (stop : Nat) :
    (c.behind stop).position = (stop + 1 : Nat) := by
  rw [position, behind]
  push_cast
  omega

theorem read_of_zeroFrom? (hposition : c.position = start) (h : d.zeroFrom? start = some stop) :
    c.read d = (.ok (d.textAt start stop), c.behind stop) := by
  have hnonneg : ¬c.position < 0 := by omega
  rw [read, if_neg hnonneg]
  simp only [hposition, Int.toNat_natCast, h]
  rfl

theorem read_of_zeroFrom?_eq_none (hposition : c.position = start)
    (h : d.zeroFrom? start = none) :
    c.read d = (.error (.truncatedFile (max start d.size : Nat) 1 d.size),
      { c with offset := (max start d.size : Nat) - c.table }) := by
  have hnonneg : ¬c.position < 0 := by omega
  rw [read, if_neg hnonneg]
  simp only [hposition, Int.toNat_natCast, h]

/-- Every text takes at least its zero byte from the file. -/
theorem room_behind_lt (hposition : c.position = start) (h : d.zeroFrom? start = some stop) :
    (c.behind stop).room d < c.room d := by
  obtain ⟨hle, hzero, -⟩ := (Bytes.zeroFrom?_eq_some_iff d start stop).mp h
  have hlt : stop < d.size := (Array.getElem?_eq_some_iff.mp hzero).1
  rw [room, room, position_behind, hposition, Int.toNat_natCast, Int.toNat_natCast]
  omega

/-- A text ends inside the file, so the file ends at the same place for the cursor behind it. -/
theorem max_position_behind (hposition : c.position = start) (h : d.zeroFrom? start = some stop) :
    max (c.behind stop).position.toNat d.size = max c.position.toNat d.size := by
  obtain ⟨hle, hzero, -⟩ := (Bytes.zeroFrom?_eq_some_iff d start stop).mp h
  have hlt : stop < d.size := (Array.getElem?_eq_some_iff.mp hzero).1
  rw [position_behind, hposition, Int.toNat_natCast, Int.toNat_natCast]
  omega

theorem exhausted_iff (hsize : c.size = some size) : c.exhausted = true ↔ size ≤ c.offset := by
  rw [exhausted, hsize]
  exact decide_eq_true_iff

/-! ### Searching -/

/-- The places in a table of a given size at which a text begins and equals `text`. -/
def Places (d : Bytes) (c : StringCursor) (size : Int) (text : String) : Set Nat :=
  {place | d.BeginsAt c.position.toNat place ∧ place - c.table < size ∧
    d.HasAt place (terminated text)}

/-- Every text that begins in the rest of the table comes to an end in the file. -/
def IsClosed (d : Bytes) (c : StringCursor) (size : Int) : Prop :=
  size ≤ c.offset ∨
    ∃ stop, c.position.toNat ≤ stop ∧ d[stop]? = some 0 ∧ size ≤ stop + 1 - c.table

/-- The cursor at the start of a table of `n` bytes at `o`. -/
def atStart (o n : Nat) : StringCursor where
  table := o
  size := some n

@[simp] theorem position_atStart (o n : Nat) : (atStart o n).position = o := Int.add_zero _

/-- A table is closed if it is empty or a zero byte is its last byte or lies behind it. -/
theorem isClosed_atStart_iff {o n : Nat} :
    IsClosed d (atStart o n) n ↔ n = 0 ∨ ∃ i, n - 1 ≤ i ∧ d[o + i]? = some 0 := by
  unfold IsClosed
  rw [position_atStart, Int.toNat_natCast]
  simp only [atStart]
  constructor
  · rintro (hend | ⟨stop, hle, hzero, hend⟩)
    · exact .inl (by omega)
    · obtain ⟨i, rfl⟩ := Nat.exists_eq_add_of_le hle
      exact .inr ⟨i, by omega, hzero⟩
  · rintro (hend | ⟨i, hle, hzero⟩)
    · exact .inl (by omega)
    · exact .inr ⟨o + i, Nat.le_add_right _ _, hzero, by omega⟩

/-- The outcomes of a search: the cursor behind the first place of the text, the end of the table,
or the end of the file inside a text. -/
inductive Search (d : Bytes) (c : StringCursor) (size : Int) (text : String) :
    Except Fault (Option StringCursor) → Prop
  | found {place : Nat} (hplace : IsLeast (Places d c size text) place) :
      Search d c size text (.ok (some { c with offset := place + text.length + 1 - c.table }))
  | ended (hplaces : Places d c size text = ∅) (hclosed : IsClosed d c size) :
      Search d c size text (.ok none)
  | broken (hplaces : Places d c size text = ∅) (hopen : ¬IsClosed d c size) :
      Search d c size text
        (.error (.truncatedFile (max c.position.toNat d.size : Nat) 1 d.size))

/-- A text that does not equal `text` is no place of it. -/
theorem places_behind (hposition : c.position = start) (h : d.zeroFrom? start = some stop)
    (hne : ¬d.HasAt start (terminated text)) :
    Places d (c.behind stop) size text = Places d c size text := by
  ext place
  simp only [Places, Set.mem_ofPred_eq, position_behind, hposition, Int.toNat_natCast,
    Bytes.beginsAt_iff_of_zeroFrom? h]
  constructor
  · rintro ⟨hbegins, hrest⟩
    exact ⟨.inr hbegins, hrest⟩
  · rintro ⟨rfl | hbegins, hroom, hat⟩
    · exact absurd hat hne
    · exact ⟨hbegins, hroom, hat⟩

theorem isClosed_behind (hposition : c.position = start) (h : d.zeroFrom? start = some stop)
    (hroom : c.offset < size) : IsClosed d (c.behind stop) size ↔ IsClosed d c size := by
  obtain ⟨hle, hzero, hfirst⟩ := (Bytes.zeroFrom?_eq_some_iff d start stop).mp h
  unfold IsClosed
  rw [position_behind, hposition, Int.toNat_natCast, Int.toNat_natCast, behind]
  constructor
  · rintro (hend | ⟨last, hge, hbyte, hend⟩)
    · exact .inr ⟨stop, hle, hzero, hend⟩
    · exact .inr ⟨last, by omega, hbyte, hend⟩
  · rintro (hend | ⟨last, hge, hbyte, hend⟩)
    · omega
    · -- The zero byte is the one that ends this text, or lies behind it.
      have hstop : stop ≤ last := by
        by_contra hlt
        exact hfirst last hge (by omega) hbyte
      by_cases hlast : last = stop
      · exact .inl (hlast ▸ hend)
      · exact .inr ⟨last, by omega, hbyte, hend⟩

/-- Behind the end of the table there is nothing to find. -/
theorem Search.of_exhausted (hposition : c.position = start) (hend : size ≤ c.offset) :
    Search d c size text (.ok none) := by
  refine .ended (Set.eq_empty_iff_forall_notMem.mpr ?_) (.inl hend)
  rintro place ⟨hbegins, hroom, -⟩
  have hle := hbegins.le
  rw [hposition, Int.toNat_natCast] at hle
  rw [position] at hposition
  omega

/-- A text without an end breaks the search off. -/
theorem Search.of_zeroFrom?_eq_none (hposition : c.position = start)
    (h : d.zeroFrom? start = none) (htext : IsLatin text) (hroom : c.offset < size) :
    Search d c size text (.error (.truncatedFile (max start d.size : Nat) 1 d.size)) := by
  have hstart : c.position.toNat = start := by rw [hposition, Int.toNat_natCast]
  rw [← hstart]
  refine .broken (Set.eq_empty_iff_forall_notMem.mpr ?_) ?_
  · rintro place ⟨hbegins, -, hat⟩
    rw [hstart, Bytes.beginsAt_iff_of_zeroFrom?_eq_none h] at hbegins
    have hfound := (hbegins ▸ hat).zeroFrom? htext
    rw [h] at hfound
    cases hfound
  · rintro (hend | ⟨last, hge, hbyte, -⟩)
    · omega
    · exact Bytes.zeroFrom?_eq_none_iff.mp h last (hstart ▸ hge) hbyte

/-- A text that stands at the cursor is found. -/
theorem Search.of_hasAt (hposition : c.position = start) (h : d.zeroFrom? start = some stop)
    (htext : IsLatin text) (hroom : c.offset < size) (hat : d.HasAt start (terminated text)) :
    Search d c size text (.ok (some (c.behind stop))) := by
  have hstart : c.position.toNat = start := by rw [hposition, Int.toNat_natCast]
  have hstop : stop = start + text.length := Option.some.inj (h.symm.trans (hat.zeroFrom? htext))
  have hbehind : c.behind stop = { c with offset := start + text.length + 1 - c.table } := by
    rw [behind, hstop, Int.natCast_add]
  rw [hbehind]
  refine .found ⟨⟨.inl hstart.symm, ?_, hat⟩, ?_⟩
  · rw [← hposition, position]
    omega
  · rintro place ⟨hbegins, -, -⟩
    exact hstart ▸ hbegins.le

/-- The search goes on behind a text that does not equal `text`. -/
theorem Search.of_behind {outcome : Except Fault (Option StringCursor)}
    (hposition : c.position = start) (h : d.zeroFrom? start = some stop)
    (hne : ¬d.HasAt start (terminated text)) (hroom : c.offset < size)
    (hsearch : Search d (c.behind stop) size text outcome) : Search d c size text outcome := by
  have hplaces : Places d (c.behind stop) size text = Places d c size text :=
    places_behind hposition h hne
  cases hsearch with
  | found hplace => exact .found (hplaces ▸ hplace)
  | ended hnone hclosed =>
    exact .ended (hplaces ▸ hnone) ((isClosed_behind hposition h hroom).mp hclosed)
  | broken hnone hopen =>
    rw [max_position_behind hposition h]
    exact .broken (hplaces ▸ hnone) (mt (isClosed_behind hposition h hroom).mpr hopen)

/-- A search that may read every text of the table finds the first place of a text, if there is
one. -/
theorem search_findUpTo {fuel : Nat} (hposition : 0 ≤ c.position) (hsize : c.size = some size)
    (htext : IsLatin text) (hfuel : c.room d ≤ fuel) :
    Search d c size text (findUpTo d text fuel c) := by
  induction fuel generalizing c with
  | zero => exact absurd hfuel (Nat.not_succ_le_zero _)
  | succ fuel ih =>
    obtain ⟨start, hstart⟩ := Int.eq_ofNat_of_zero_le hposition
    rw [findUpTo]
    by_cases hend : c.exhausted = true
    · rw [if_pos hend]
      exact .of_exhausted hstart ((exhausted_iff hsize).mp hend)
    rw [if_neg hend]
    rw [exhausted_iff hsize, not_le] at hend
    cases hzero : d.zeroFrom? start with
    | none =>
      rw [read_of_zeroFrom?_eq_none hstart hzero]
      exact .of_zeroFrom?_eq_none hstart hzero htext hend
    | some stop =>
      have htextAt := Bytes.textAt_eq_iff hzero htext
      rw [read_of_zeroFrom? hstart hzero]
      dsimp only
      by_cases hat : d.HasAt start (terminated text)
      · rw [if_pos (htextAt.mpr hat)]
        exact .of_hasAt hstart hzero htext hend hat
      · -- The text is another one, and the rest of the file is shorter.
        have hless := room_behind_lt hstart hzero
        rw [if_neg (mt htextAt.mp hat)]
        refine .of_behind hstart hzero hat hend (ih ?_ hsize (by omega))
        rw [position_behind]
        exact Int.natCast_nonneg _

/-- A search does not depend on the bound on its reads, once every text may be read. -/
theorem findUpTo_congr {fuel other : Nat} (hfuel : c.room d ≤ fuel) (hother : c.room d ≤ other) :
    findUpTo d text fuel c = findUpTo d text other c := by
  induction fuel generalizing c other with
  | zero => exact absurd hfuel (Nat.not_succ_le_zero _)
  | succ fuel ih =>
    obtain ⟨other, rfl⟩ := Nat.exists_eq_succ_of_ne_zero
      (Nat.ne_zero_of_lt (Nat.lt_of_lt_of_le (Nat.succ_pos _) hother))
    rw [findUpTo, findUpTo]
    by_cases hnonneg : 0 ≤ c.position
    · obtain ⟨start, hstart⟩ := Int.eq_ofNat_of_zero_le hnonneg
      cases hzero : d.zeroFrom? start with
      | none => rw [read_of_zeroFrom?_eq_none hstart hzero]
      | some stop =>
        have hless := room_behind_lt hstart hzero
        have hrest : findUpTo d text fuel (c.behind stop) = findUpTo d text other (c.behind stop) :=
          ih (by omega) (by omega)
        rw [read_of_zeroFrom? hstart hzero]
        simp only [hrest]
    · have hread : c.read d = (.error (.truncatedFile c.position 1 d.size), c) :=
        if_pos (not_le.mp hnonneg)
      rw [hread]

end StringCursor

end RiscvListing
