import RiscvListing.Proofs.Image.StringTable

/-!
# The texts of a string table

A cursor that reads a table to its end cuts the bytes of the table into texts and leaves none out.
The end of the table is looked for only between two texts, so the last text may end behind it: the
cursor comes to rest behind the first zero byte that is the last byte of the table or lies behind
it. Texts that were stored one after the other are read as they were stored. If the file ends inside
a text, the cursor stays at the end of the file, and it stays there for good.

## Main definitions

* `StringCursor.Sweep` — the outcomes of reading a table to its end.
* `StringCursor.Reaches` — the cursors that reads lead to.

## Main results

* `flatMap_terminated_injective` — texts can be told from their bytes.
* `StringCursor.sweep_readUpTo` — what is read from a table.
* `StringCursor.read_of_read_eq_error` — a read that has failed fails again.
* `StringCursor.readAll_partitions` — all of this together.
-/

namespace RiscvListing

/-! ### Texts and their bytes -/

namespace Bytes

variable {d : Bytes} {start stop : Nat}

/-- No byte of a text is zero. -/
theorem isLatin_textAt (h : d.zeroFrom? start = some stop) : IsLatin (d.textAt start stop) := by
  obtain ⟨-, -, hfirst⟩ := (zeroFrom?_eq_some_iff d start stop).mp h
  intro c hc
  rw [textAt, String.toList_ofList, List.mem_map] at hc
  obtain ⟨b, hb, rfl⟩ := hc
  obtain ⟨i, hi⟩ := List.mem_iff_getElem?.mp hb
  rw [Array.getElem?_toList, Array.getElem?_extract] at hi
  have hchar : (Char.ofUInt8 b).toNat = b.toNat := UInt8.toNat_toUInt32 b
  have hb : b.toNat < 256 := b.toNat_lt
  split at hi
  · rename_i hlt
    have hne : b ≠ 0 := by
      rintro rfl
      exact hfirst (start + i) (by omega) (by omega) hi
    have hpos : b.toNat ≠ (0 : UInt8).toNat := mt UInt8.toNat_inj.mp hne
    rw [UInt8.toNat_zero] at hpos
    omega
  · cases hi

theorem terminated_textAt (h : d.zeroFrom? start = some stop) :
    terminated (d.textAt start stop) = (d.extract start (stop + 1)).toList := by
  have hlatin := isLatin_textAt h
  have hat : d.HasAt start (terminated (d.textAt start stop)) := (textAt_eq_iff h hlatin).mp rfl
  have hstop : stop = start + (d.textAt start stop).length :=
    Option.some.inj (h.symm.trans (hat.zeroFrom? hlatin))
  have hbytes := hat.toList_extract
  rw [length_terminated, ← Nat.add_assoc, ← hstop] at hbytes
  exact hbytes.symm

end Bytes

/-- Texts that were stored one after the other can be told from their bytes: each one ends at the
first zero byte. -/
theorem flatMap_terminated_injective {texts texts' : List String} (hlatin : ∀ t ∈ texts, IsLatin t)
    (hlatin' : ∀ t ∈ texts', IsLatin t)
    (h : texts.flatMap terminated = texts'.flatMap terminated) : texts = texts' := by
  induction texts generalizing texts' with
  | nil =>
    have hcount := length_le_length_flatMap_terminated texts'
    rw [← h, List.flatMap_nil, List.length_nil] at hcount
    exact (List.length_eq_zero_iff.mp (Nat.le_zero.mp hcount)).symm
  | cons text texts ih =>
    cases texts' with
    | nil =>
      have hcount := length_le_length_flatMap_terminated (text :: texts)
      rw [h, List.flatMap_nil, List.length_nil, List.length_cons] at hcount
      omega
    | cons text' texts' =>
      rw [List.forall_mem_cons] at hlatin hlatin'
      rw [List.flatMap_cons, List.flatMap_cons] at h
      -- Both texts are read at the start of the same bytes.
      have hat := (Bytes.hasAt_zero_toArray (terminated text ++ texts.flatMap terminated)).left
      have hat' := (Bytes.hasAt_zero_toArray (terminated text' ++ texts'.flatMap terminated)).left
      rw [← h] at hat'
      have hlength : 0 + text.length = 0 + text'.length :=
        Option.some.inj ((hat.zeroFrom? hlatin.1).symm.trans (hat'.zeroFrom? hlatin'.1))
      obtain rfl : text = text' := by
        rw [← hat.textAt hlatin.1, ← hat'.textAt hlatin'.1, hlength]
      rw [ih hlatin.2 hlatin'.2 (List.append_cancel_left h)]

namespace StringCursor

variable {d : Bytes} {c c' : StringCursor} {start stop : Nat} {size : Int} {fault : Fault}

/-! ### Reading a table to its end -/

/-- The zero bytes with which the rest of a table of a given size can end. -/
def Ends (d : Bytes) (c : StringCursor) (size : Int) : Set Nat :=
  {stop | c.position.toNat ≤ stop ∧ size ≤ stop + 1 - c.table ∧ d[stop]? = some 0}

/-- The outcomes of reading a table to its end: nothing is left to read, the texts up to the first
zero byte with which the table can end, or the end of the file inside a text. -/
inductive Sweep (d : Bytes) (c : StringCursor) (size : Int) :
    Except Fault (List String) × StringCursor → Prop
  | idle (hend : size ≤ c.offset) : Sweep d c size (.ok [], c)
  | ended {texts : List String} {stop : Nat} (hopen : c.offset < size)
      (hstop : IsLeast (Ends d c size) stop) (htexts : ∀ t ∈ texts, IsLatin t)
      (hbytes : texts.flatMap terminated = (d.extract c.position.toNat (stop + 1)).toList) :
      Sweep d c size (.ok texts, c.behind stop)
  | broken (hopen : ¬IsClosed d c size) :
      Sweep d c size
        (.error (.truncatedFile (max c.position.toNat d.size : Nat) 1 d.size),
          { c with offset := (max c.position.toNat d.size : Nat) - c.table })

/-- If the table goes on behind a text, it ends as if the cursor had started there. -/
theorem ends_behind (hposition : c.position = start) (h : d.zeroFrom? start = some stop)
    (hroom : (c.behind stop).offset < size) : Ends d (c.behind stop) size = Ends d c size := by
  obtain ⟨hle, -, -⟩ := (Bytes.zeroFrom?_eq_some_iff d start stop).mp h
  ext last
  simp only [Ends, Set.mem_ofPred_eq, position_behind, hposition, Int.toNat_natCast]
  simp only [behind] at hroom ⊢
  constructor
  · rintro ⟨hge, hend⟩
    exact ⟨by omega, hend⟩
  · rintro ⟨-, hend⟩
    exact ⟨by omega, hend⟩

/-- If the table ends with a text, it ends with the zero byte of this text. -/
theorem isLeast_ends (hposition : c.position = start) (h : d.zeroFrom? start = some stop)
    (hend : size ≤ (c.behind stop).offset) : IsLeast (Ends d c size) stop := by
  obtain ⟨hle, hzero, hfirst⟩ := (Bytes.zeroFrom?_eq_some_iff d start stop).mp h
  have hstart : c.position.toNat = start := by rw [hposition, Int.toNat_natCast]
  refine ⟨⟨hstart ▸ hle, hend, hzero⟩, ?_⟩
  rintro last ⟨hge, -, hbyte⟩
  by_contra hlt
  exact hfirst last (hstart ▸ hge) (by omega) hbyte

/-- The text at the cursor comes before the texts behind it. -/
theorem Sweep.of_behind {result : Except Fault (List String)} (hposition : c.position = start)
    (h : d.zeroFrom? start = some stop) (hroom : c.offset < size)
    (hsweep : Sweep d (c.behind stop) size (result, c')) :
    Sweep d c size (result.map (d.textAt start stop :: ·), c') := by
  obtain ⟨hle, -, -⟩ := (Bytes.zeroFrom?_eq_some_iff d start stop).mp h
  have hstart : c.position.toNat = start := by rw [hposition, Int.toNat_natCast]
  have hbehind : (c.behind stop).position.toNat = stop + 1 := by
    rw [position_behind, Int.toNat_natCast]
  have hlatin := Bytes.isLatin_textAt h
  cases hsweep with
  | idle hend =>
    refine .ended hroom (isLeast_ends hposition h hend) ?_ ?_
    · intro t ht
      rwa [List.mem_singleton.mp ht]
    · rw [List.flatMap_singleton, Bytes.terminated_textAt h, hstart]
  | @ended texts last hopen hlast htexts hbytes =>
    rw [ends_behind hposition h hopen] at hlast
    have hge : stop + 1 ≤ last + 1 := by
      have hend := hlast.1.2.1
      simp only [behind] at hopen
      omega
    refine .ended hroom hlast (List.forall_mem_cons.mpr ⟨hlatin, htexts⟩) ?_
    -- The bytes of the first text and the bytes behind it lie next to each other.
    rw [List.flatMap_cons, Bytes.terminated_textAt h, hbytes, hbehind, hstart,
      ← Array.toList_append, Array.extract_append_extract, Nat.min_eq_left (by omega),
      Nat.max_eq_right hge]
  | broken hopen =>
    rw [max_position_behind hposition h]
    exact .broken (mt (isClosed_behind hposition h hroom).mpr hopen)

/-- A cursor that may read every text of the table reads the table to its end. -/
theorem sweep_readUpTo {fuel : Nat} (hposition : 0 ≤ c.position) (hsize : c.size = some size)
    (hfuel : c.room d ≤ fuel) : Sweep d c size (readUpTo d fuel c) := by
  induction fuel generalizing c with
  | zero => exact absurd hfuel (Nat.not_succ_le_zero _)
  | succ fuel ih =>
    obtain ⟨start, hstart⟩ := Int.eq_ofNat_of_zero_le hposition
    rw [readUpTo]
    by_cases hend : c.exhausted = true
    · rw [if_pos hend]
      exact .idle ((exhausted_iff hsize).mp hend)
    rw [if_neg hend]
    rw [exhausted_iff hsize, Int.not_le] at hend
    cases hzero : d.zeroFrom? start with
    | none =>
      have hopen : ¬IsClosed d c size := by
        rintro (hclosed | ⟨last, hge, hbyte, -⟩)
        · omega
        · exact Bytes.zeroFrom?_eq_none_iff.mp hzero last (by omega) hbyte
      have hnat : start = c.position.toNat := by rw [hstart, Int.toNat_natCast]
      rw [read_of_zeroFrom?_eq_none hstart hzero, hnat]
      exact .broken hopen
    | some stop =>
      -- The text takes its zero byte from the file, so the rest of the file is shorter.
      have hless := room_behind_lt hstart hzero
      have hnonneg : 0 ≤ (c.behind stop).position := by
        rw [position_behind]
        exact Int.natCast_nonneg _
      rw [read_of_zeroFrom? hstart hzero]
      exact .of_behind hstart hzero hend (ih hnonneg hsize (by omega))

/-! ### Reads one after the other -/

/-- The cursors that reads lead to, whether they succeed or not. -/
inductive Reaches (d : Bytes) (c : StringCursor) : StringCursor → Prop
  | refl : Reaches d c c
  | read {c' : StringCursor} (h : Reaches d c c') : Reaches d c (c'.read d).2

/-- What reads leave as it is: the table, and the place at which the file ends for the cursor. -/
structure Follows (d : Bytes) (c c' : StringCursor) : Prop where
  table_eq : c'.table = c.table
  position_nonneg : 0 ≤ c'.position
  end_eq : max c'.position d.size = max c.position d.size

theorem position_of_offset_eq (c : StringCursor) (place : Int) :
    position { c with offset := place - c.table } = place := by
  change c.table + (place - c.table) = place
  omega

/-- A text that is read lies inside the file, and a read that fails leads to the end of the file. -/
theorem follows_read (hposition : 0 ≤ c.position) : Follows d c (c.read d).2 := by
  obtain ⟨start, hstart⟩ := Int.eq_ofNat_of_zero_le hposition
  cases hzero : d.zeroFrom? start with
  | none =>
    have hplace : (c.read d).2.position = (max start d.size : Nat) := by
      rw [read_of_zeroFrom?_eq_none hstart hzero]
      exact position_of_offset_eq c _
    refine ⟨by rw [read_of_zeroFrom?_eq_none hstart hzero], ?_, ?_⟩
    · rw [hplace]
      exact Int.natCast_nonneg _
    · rw [hplace, hstart]
      omega
  | some stop =>
    obtain ⟨hle, hbyte, -⟩ := (Bytes.zeroFrom?_eq_some_iff d start stop).mp hzero
    have hlt : stop < d.size := (Array.getElem?_eq_some_iff.mp hbyte).1
    rw [read_of_zeroFrom? hstart hzero]
    refine ⟨rfl, ?_, ?_⟩
    · rw [position_behind]
      exact Int.natCast_nonneg _
    · rw [position_behind, hstart]
      omega

theorem Reaches.follows (hposition : 0 ≤ c.position) (h : Reaches d c c') : Follows d c c' := by
  induction h with
  | refl => exact ⟨rfl, hposition, rfl⟩
  | read h ih =>
    have hstep := follows_read (d := d) ih.position_nonneg
    exact ⟨hstep.table_eq.trans ih.table_eq, hstep.position_nonneg, hstep.end_eq.trans ih.end_eq⟩

theorem Reaches.of_read (h : Reaches d (c.read d).2 c') : Reaches d c c' := by
  induction h with
  | refl => exact .read .refl
  | read h ih => exact .read ih

/-- A read that has failed has come to the end of the file, and fails again in the same way. -/
theorem read_of_read_eq_error (hposition : 0 ≤ c.position)
    (h : c.read d = (.error fault, c')) :
    fault = .truncatedFile (max c.position d.size) 1 d.size ∧
      c'.position = max c.position d.size ∧ c'.read d = (.error fault, c') := by
  obtain ⟨start, hstart⟩ := Int.eq_ofNat_of_zero_le hposition
  cases hzero : d.zeroFrom? start with
  | some stop =>
    rw [read_of_zeroFrom? hstart hzero] at h
    cases h
  | none =>
    rw [read_of_zeroFrom?_eq_none hstart hzero] at h
    cases h
    have hmax : ((max start d.size : Nat) : Int) = max c.position d.size := by
      rw [hstart]
      omega
    have hplace : (StringCursor.mk c.table c.size ((max start d.size : Nat) - c.table)).position =
        (max start d.size : Nat) := position_of_offset_eq c _
    -- There is no zero byte at the end of the file, either.
    have hrest : d.zeroFrom? (max start d.size) = none :=
      Bytes.zeroFrom?_eq_none_iff.mpr fun i hi =>
        Bytes.zeroFrom?_eq_none_iff.mp hzero i (by omega)
    refine ⟨by rw [hmax], hplace.trans hmax, ?_⟩
    rw [read_of_zeroFrom?_eq_none hplace hrest, Nat.max_eq_left (Nat.le_max_right _ _)]

theorem Reaches.eq_of_read_eq_error (hfail : c.read d = (.error fault, c)) (h : Reaches d c c') :
    c' = c := by
  induction h with
  | refl => rfl
  | read h ih => rw [ih, hfail]

/-- Reading a table fails with the first read that fails. -/
theorem exists_read_of_readUpTo {fuel : Nat} (h : readUpTo d fuel c = (.error fault, c')) :
    ∃ last, Reaches d c last ∧ last.read d = (.error fault, c') := by
  induction fuel generalizing c with
  | zero => cases h
  | succ fuel ih =>
    rw [readUpTo] at h
    split at h
    · cases h
    · split at h
      · rename_i hread
        cases h
        exact ⟨c, .refl, hread⟩
      · rename_i text next hread
        have hnext : (c.read d).2 = next := by rw [hread]
        cases hrest : (readUpTo d fuel next).1 with
        | ok texts =>
          simp only [hrest, Except.map] at h
          cases h
        | error other =>
          simp only [hrest, Except.map] at h
          cases h
          obtain ⟨last, hlast, hfail⟩ := ih (c := next) (Prod.ext hrest rfl)
          exact ⟨last, .of_read (hnext ▸ hlast), hfail⟩

/-! ### A table from its start -/

variable {o n : Nat} {texts : List String}

/-- The zero bytes with which a table can end, counted from its start. -/
theorem isLeast_ends_atStart_iff {i : Nat} :
    IsLeast (Ends d (atStart o n) n) (o + i) ↔ IsLeast {i | n - 1 ≤ i ∧ d[o + i]? = some 0} i := by
  have hmem : ∀ k, o + k ∈ Ends d (atStart o n) n ↔ n - 1 ≤ k ∧ d[o + k]? = some 0 := by
    intro k
    simp only [Ends, Set.mem_ofPred_eq, position_atStart, Int.toNat_natCast]
    simp only [atStart]
    constructor
    · rintro ⟨-, hend, hzero⟩
      exact ⟨by omega, hzero⟩
    · rintro ⟨hend, hzero⟩
      exact ⟨by omega, by omega, hzero⟩
  constructor
  · rintro ⟨hi, hleast⟩
    refine ⟨(hmem i).mp hi, fun k hk => ?_⟩
    exact Nat.le_of_add_le_add_left (hleast ((hmem k).mpr hk))
  · rintro ⟨hi, hleast⟩
    refine ⟨(hmem i).mpr hi, fun stop hstop => ?_⟩
    -- A zero byte with which the table can end does not lie in front of the table.
    have hge : o ≤ stop := by
      have hposition := hstop.1
      rwa [position_atStart, Int.toNat_natCast] at hposition
    obtain ⟨k, rfl⟩ := Nat.exists_eq_add_of_le hge
    exact Nat.add_le_add_left (hleast ((hmem k).mp hstop)) o

theorem sweep_readAll (d : Bytes) (o n : Nat) :
    Sweep d (atStart o n) n ((atStart o n).readAll d) := by
  refine sweep_readUpTo ?_ rfl (Nat.le_refl _)
  rw [position_atStart]
  exact Int.natCast_nonneg _

/-- The texts that are read from a table are its bytes, up to the first zero byte with which the
table can end. -/
theorem flatMap_of_readAll (h : (atStart o n).readAll d = (.ok texts, c')) :
    (∀ t ∈ texts, IsLatin t) ∧ ∃ f : Nat, c' = { table := o, size := some n, offset := f } ∧
      texts.flatMap terminated = (d.extract o (o + f)).toList ∧ (n = 0 → f = 0) ∧
      (n ≠ 0 → ∃ i, f = i + 1 ∧ IsLeast {i | n - 1 ≤ i ∧ d[o + i]? = some 0} i) := by
  have hsweep := sweep_readAll d o n
  rw [h] at hsweep
  cases hsweep with
  | idle hend =>
    have hn : n = 0 := by
      simp only [atStart] at hend
      omega
    refine ⟨fun t ht => absurd ht List.not_mem_nil, 0, rfl, ?_, fun _ => rfl, fun hne => ?_⟩
    · rw [List.flatMap_nil, Nat.add_zero, Array.extract_empty_of_stop_le_start (Nat.le_refl _)]
    · exact absurd hn hne
  | @ended _ stop hopen hstop htexts hbytes =>
    have hn : n ≠ 0 := by
      simp only [atStart] at hopen
      omega
    have hge := hstop.1.1
    rw [position_atStart, Int.toNat_natCast] at hbytes hge
    obtain ⟨i, rfl⟩ := Nat.exists_eq_add_of_le hge
    refine ⟨htexts, i + 1, ?_, hbytes, fun hzero => absurd hzero hn,
      fun _ => ⟨i, rfl, isLeast_ends_atStart_iff.mp hstop⟩⟩
    have hoffset : ((o + i : Nat) : Int) + 1 - o = (i + 1 : Nat) := by omega
    simp only [behind, atStart, hoffset]

theorem exists_readAll_iff :
    (∃ texts, ((atStart o n).readAll d).1 = .ok texts) ↔
      n = 0 ∨ ∃ i, n - 1 ≤ i ∧ d[o + i]? = some 0 := by
  rw [← isClosed_atStart_iff]
  have hsweep := sweep_readAll d o n
  generalize (atStart o n).readAll d = outcome at hsweep
  cases hsweep with
  | idle hend => exact iff_of_true ⟨[], rfl⟩ (.inl hend)
  | @ended texts stop hopen hstop _ _ =>
    obtain ⟨hge, hend, hzero⟩ := hstop.1
    exact iff_of_true ⟨texts, rfl⟩ (.inr ⟨stop, hge, hzero, hend⟩)
  | broken hopen =>
    refine iff_of_false ?_ hopen
    rintro ⟨texts, h⟩
    cases h

/-- Texts that fill a table are read as they were stored. -/
theorem readAll_of_hasAt (hlatin : ∀ t ∈ texts, IsLatin t)
    (hat : d.HasAt o (texts.flatMap terminated)) (hn : (texts.flatMap terminated).length = n) :
    (atStart o n).readAll d = (.ok texts, { table := o, size := some n, offset := n }) := by
  -- The table is empty, or its last byte is the end of the last text.
  have hlast : n = 0 ∨ d[o + (n - 1)]? = some 0 := by
    rcases List.eq_nil_or_concat texts with rfl | ⟨front, last, rfl⟩
    · exact .inl hn.symm
    · right
      rw [List.concat_eq_append, List.flatMap_append, List.flatMap_singleton, terminated,
        ← List.append_assoc] at hat hn
      rw [List.length_append, List.length_singleton] at hn
      have hzero := hat.right.getElem? (i := 0) Nat.one_pos
      rwa [Nat.add_zero, Nat.eq_sub_of_add_eq hn, List.getElem?_cons_zero] at hzero
  obtain ⟨found, hfound⟩ := exists_readAll_iff (d := d).mpr
    (hlast.imp_right fun hzero => ⟨n - 1, Nat.le_refl _, hzero⟩)
  obtain ⟨hfoundLatin, f, hc', hbytes, hempty, hrest⟩ := flatMap_of_readAll (Prod.ext hfound rfl)
  have hf : f = n := by
    by_cases hzero : n = 0
    · rw [hempty hzero, hzero]
    · obtain ⟨i, rfl, hi, hleast⟩ := hrest hzero
      have hle : i ≤ n - 1 := hleast ⟨Nat.le_refl _, hlast.resolve_left hzero⟩
      have hge := hi.1
      omega
  have hsame : found = texts := by
    refine flatMap_terminated_injective hfoundLatin hlatin ?_
    rw [hbytes, hf, ← hn, hat.toList_extract]
  rw [hf] at hc'
  exact Prod.ext (hfound.trans (congrArg Except.ok hsame)) hc'

/-- A cursor that reads a table of `n` bytes to its end succeeds exactly if the table is empty or
closed by a zero byte that does not lie in front of its last byte. The texts are free of zeros, and
together with their zero bytes they are the bytes that the cursor has passed, up to the first such
zero byte. Texts that were stored one after the other, anywhere in a file, are read as they were
stored. A read that fails, be it the first one or a later one, reports the end of the file and
leaves the cursor there, and every read from then on does the same. If reading a table to its end
fails, then because one of its reads does. -/
theorem readAll_partitions (d : Bytes) (o n : Nat) :
    (∀ texts c', (atStart o n).readAll d = (.ok texts, c') →
        (∀ t ∈ texts, IsLatin t) ∧ ∃ f : Nat, c' = { table := o, size := some n, offset := f } ∧
          texts.flatMap terminated = (d.extract o (o + f)).toList ∧ (n = 0 → f = 0) ∧
          (n ≠ 0 → ∃ i, f = i + 1 ∧ IsLeast {i | n - 1 ≤ i ∧ d[o + i]? = some 0} i)) ∧
      ((∃ texts, ((atStart o n).readAll d).1 = .ok texts) ↔
        n = 0 ∨ ∃ i, n - 1 ≤ i ∧ d[o + i]? = some 0) ∧
      (∀ texts : List String, (∀ t ∈ texts, IsLatin t) → d.HasAt o (texts.flatMap terminated) →
        (texts.flatMap terminated).length = n →
        (atStart o n).readAll d = (.ok texts, { table := o, size := some n, offset := n })) ∧
      (∀ c fault c', Reaches d (atStart o n) c → c.read d = (.error fault, c') →
        fault = .truncatedFile (max o d.size : Nat) 1 d.size ∧
          c'.table = o ∧ c'.position = (max o d.size : Nat) ∧
          ∀ later, Reaches d c' later → later = c' ∧ later.read d = (.error fault, c')) ∧
      (∀ fault c', (atStart o n).readAll d = (.error fault, c') →
        ∃ c, Reaches d (atStart o n) c ∧ c.read d = (.error fault, c')) := by
  refine ⟨fun texts c' => flatMap_of_readAll, exists_readAll_iff, fun texts => readAll_of_hasAt,
    fun c fault c' hreach hfail => ?_, fun fault c' => exists_read_of_readUpTo⟩
  have hnonneg : 0 ≤ (atStart o n).position := by
    rw [position_atStart]
    exact Int.natCast_nonneg _
  have hfollows := hreach.follows hnonneg
  obtain ⟨hfault, hplace, hagain⟩ := read_of_read_eq_error hfollows.position_nonneg hfail
  -- No read has led out of the file, so the file ends where it ended for the first read.
  have hend : max c.position d.size = (max o d.size : Nat) := by
    rw [hfollows.end_eq, position_atStart]
    omega
  have htable : c'.table = o := by
    have hstep := follows_read (d := d) hfollows.position_nonneg
    rw [hfail] at hstep
    exact hstep.table_eq.trans hfollows.table_eq
  rw [hend] at hfault hplace
  refine ⟨hfault, htable, hplace, fun later hlater => ?_⟩
  rw [hlater.eq_of_read_eq_error hagain]
  exact ⟨rfl, hagain⟩

/-- The texts `ab`, an empty one and `c` in a table whose last byte is the letter of the third one,
which ends behind the table; and the same bytes without the last zero byte. -/
theorem readAll_partitions_overhanging :
    (atStart 1 5).readAll #[9, 97, 98, 0, 0, 99, 0, 7] =
        (.ok ["ab", "", "c"], { table := 1, size := some 5, offset := 6 }) ∧
      ["ab", "", "c"].flatMap terminated = [97, 98, 0, 0, 99, 0] ∧
      (∃ c, Reaches #[9, 97, 98, 0, 0, 99] (atStart 1 5) c ∧
        c.read #[9, 97, 98, 0, 0, 99] =
          (.error (.truncatedFile 6 1 6), { table := 1, size := some 5, offset := 5 })) := by
  have hread : (atStart 1 5).readAll #[9, 97, 98, 0, 0, 99, 0, 7] =
      (.ok ["ab", "", "c"], { table := 1, size := some 5, offset := 6 }) := by decide +kernel
  have hfail : (atStart 1 5).readAll #[9, 97, 98, 0, 0, 99] =
      (.error (.truncatedFile 6 1 6), { table := 1, size := some 5, offset := 5 }) := by
    decide +kernel
  obtain ⟨-, f, hf, hbytes, -⟩ := (readAll_partitions _ 1 5).1 _ _ hread
  obtain rfl : 6 = f := Int.ofNat_inj.mp (congrArg StringCursor.offset hf)
  exact ⟨hread, hbytes, (readAll_partitions _ 1 5).2.2.2.2 _ _ hfail⟩

end StringCursor

end RiscvListing
