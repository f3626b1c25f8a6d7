import RiscvListing.Proofs.Image.SectionScan
import RiscvListing.Proofs.Image.StringTable

/-!
# The section with a name

A name is first looked for among the section names, where it is seen at the places at which texts
begin; the section is the first one that refers to the first of these places. It has the name. A
section that has the name, too, and refers to another place, to a second copy of the name or to the
end of a longer text, is passed over.

## Main definitions

* `Container.IsCalled` — a section has a name.
* `Container.NamePlaces` — where a text begins among the section names that equals a name.
* `Container.HasSoundNames` — the section headers and their names lie inside the file.

## Main results

* `Container.sectionRecord_cases` — where a name is found among the section names.
* `Container.sectionRecord_finds_least` — the place of a name, and the fault where it has none.
* `Container.outcome_locateNamed_of_hasSoundNames` — the section that is found for a name.
-/

namespace RiscvListing.Container

open SectionHeader

/-! ### Names of sections -/

section Names

variable {d : Bytes} {names s : SectionHeader} {name : String} {r : Nat}

/-- At `r` inside the section names stands `name` with its end. -/
def HasNameAt (d : Bytes) (names : SectionHeader) (name : String) (r : Nat) : Prop :=
  r < names.size ∧ d.HasAt (names.dataOffset.toNat + r) (terminated name)

/-- The section refers to a place inside the section names at which `name` stands with its end. -/
def IsCalled (d : Bytes) (names : SectionHeader) (name : String) (s : SectionHeader) : Prop :=
  ∃ r : Nat, s.nameOffset = r ∧ HasNameAt d names name r

/-- The places at which one of the section names begins and equals `name`: it is the first of the
names, or a zero byte ends the one in front. -/
def NamePlaces (d : Bytes) (names : SectionHeader) (name : String) : Set Nat :=
  {r | (r = 0 ∨ d[names.dataOffset.toNat + r - 1]? = some 0) ∧ HasNameAt d names name r}

/-- The cursor at the first of the section names. -/
def namesCursor (names : SectionHeader) : StringCursor where
  table := names.dataOffset
  size := some names.size

theorem position_namesCursor (names : SectionHeader) :
    (namesCursor names).position = names.dataOffset :=
  Int.add_zero _

theorem mem_namePlaces_iff (hdata : 0 ≤ names.dataOffset) :
    r ∈ NamePlaces d names name ↔
      names.dataOffset.toNat + r ∈ StringCursor.Places d (namesCursor names) names.size name := by
  -- Places in the file and places among the names differ by the offset of the names.
  have hroom : ((names.dataOffset.toNat + r : Nat) : Int) - (namesCursor names).table = r := by
    change ((names.dataOffset.toNat + r : Nat) : Int) - names.dataOffset = r
    omega
  simp only [NamePlaces, StringCursor.Places, HasNameAt, Set.mem_ofPred_eq, position_namesCursor,
    Bytes.BeginsAt, hroom, Nat.add_eq_left]
  constructor
  · rintro ⟨hbegins, hrest⟩
    refine ⟨?_, hrest⟩
    by_cases hr : r = 0
    · exact .inl hr
    · exact .inr ⟨by omega, hbegins.resolve_left hr⟩
  · rintro ⟨hbegins, hrest⟩
    exact ⟨hbegins.imp_right And.right, hrest⟩

/-- The least place in the file is the least place among the section names. -/
theorem isLeast_namePlaces {place : Nat} (hdata : 0 ≤ names.dataOffset)
    (h : IsLeast (StringCursor.Places d (namesCursor names) names.size name) place) :
    ∃ r, place = names.dataOffset.toNat + r ∧ IsLeast (NamePlaces d names name) r := by
  have hle := h.1.1.le
  rw [position_namesCursor] at hle
  obtain ⟨r, rfl⟩ := Nat.exists_eq_add_of_le hle
  refine ⟨r, rfl, (mem_namePlaces_iff hdata).mpr h.1, fun other hother => ?_⟩
  exact Nat.le_of_add_le_add_left (h.2 ((mem_namePlaces_iff hdata).mp hother))

theorem namePlaces_eq_empty (hdata : 0 ≤ names.dataOffset)
    (h : StringCursor.Places d (namesCursor names) names.size name = ∅) :
    NamePlaces d names name = ∅ := by
  refine Set.eq_empty_iff_forall_notMem.mpr fun r hr => ?_
  rw [mem_namePlaces_iff hdata, h] at hr
  exact hr

/-- A name is found at the first place at which it is one of the section names. Where it is none of
them, the names come to an end, or the file does. -/
theorem sectionRecord_cases (hdata : 0 ≤ names.dataOffset) (hname : IsLatin name) :
    (∃ r : Nat, sectionRecord d names name = .ok r ∧ IsLeast (NamePlaces d names name) r) ∨
      NamePlaces d names name = ∅ ∧
        (sectionRecord d names name = .error (.missingSection name) ∧
            StringCursor.IsClosed d (namesCursor names) names.size ∨
          sectionRecord d names name =
              .error (.truncatedFile (max names.dataOffset.toNat d.size : Nat) 1 d.size) ∧
            ¬StringCursor.IsClosed d (namesCursor names) names.size) := by
  have hposition := position_namesCursor names
  have hsearch := StringCursor.search_findUpTo (d := d) (c := namesCursor names)
    (hdata.trans_eq hposition.symm) rfl hname le_rfl
  generalize houtcome : StringCursor.findUpTo d name _ (namesCursor names) = outcome at hsearch
  have hfind : StringCursor.findAfter d name
      { table := names.dataOffset, size := some names.size } = outcome := houtcome
  rw [sectionRecord, hfind]
  cases hsearch with
  | @found place hplace =>
    -- The search stops behind the name; the length of the name leads back to its place.
    obtain ⟨r, rfl, hr⟩ := isLeast_namePlaces hdata hplace
    refine .inl ⟨r, congrArg Except.ok ?_, hr⟩
    simp only [namesCursor]
    omega
  | ended hplaces hclosed => exact .inr ⟨namePlaces_eq_empty hdata hplaces, .inl ⟨rfl, hclosed⟩⟩
  | broken hplaces hopen =>
    rw [hposition]
    exact .inr ⟨namePlaces_eq_empty hdata hplaces, .inr ⟨rfl, hopen⟩⟩

theorem sectionRecord_eq_ok_iff {place : Int} (hdata : 0 ≤ names.dataOffset)
    (hname : IsLatin name) :
    sectionRecord d names name = .ok place ↔
      ∃ r : Nat, place = r ∧ IsLeast (NamePlaces d names name) r := by
  rcases sectionRecord_cases (d := d) hdata hname with
    ⟨r, hrecord, hleast⟩ | ⟨hempty, ⟨hrecord, -⟩ | ⟨hrecord, -⟩⟩
  · rw [hrecord, Except.ok.injEq]
    constructor
    · rintro rfl
      exact ⟨r, rfl, hleast⟩
    · rintro ⟨other, rfl, hother⟩
      rw [hother.unique hleast]
  all_goals
    -- A fault is reported only where there is no place at all.
    rw [hrecord]
    constructor
    · intro hok
      cases hok
    · rintro ⟨r, -, hr⟩
      rw [hempty] at hr
      exact absurd hr.1 (Set.notMem_empty r)

/-- Without a place for the name, it depends on the end of the section names which fault is
reported. -/
theorem sectionRecord_of_namePlaces_eq_empty (hdata : 0 ≤ names.dataOffset) (hname : IsLatin name)
    (hempty : NamePlaces d names name = ∅) :
    (StringCursor.IsClosed d (namesCursor names) names.size →
        sectionRecord d names name = .error (.missingSection name)) ∧
      (¬StringCursor.IsClosed d (namesCursor names) names.size →
        sectionRecord d names name =
          .error (.truncatedFile (max names.dataOffset.toNat d.size : Nat) 1 d.size)) := by
  rcases sectionRecord_cases (d := d) hdata hname with
    ⟨r, -, hleast⟩ | ⟨-, ⟨hrecord, hclosed⟩ | ⟨hrecord, hopen⟩⟩
  · rw [hempty] at hleast
    exact absurd hleast.1 (Set.notMem_empty r)
  · exact ⟨fun _ => hrecord, fun hopen => absurd hclosed hopen⟩
  · exact ⟨fun hclosed => absurd hclosed hopen, fun _ => hrecord⟩

/-- The section names come to an end if there are none, or if a zero byte is the last of their bytes
or lies behind it. -/
theorem isClosed_namesCursor_iff {o n : Nat} (hdata : names.dataOffset = o)
    (hsize : names.size = n) :
    StringCursor.IsClosed d (namesCursor names) names.size ↔
      n = 0 ∨ ∃ i, n - 1 ≤ i ∧ d[o + i]? = some 0 := by
  have hcursor : namesCursor names = StringCursor.atStart o n := by
    rw [namesCursor, hdata, hsize, StringCursor.atStart]
  rw [hcursor, hsize, StringCursor.isClosed_atStart_iff]

/-- Among `n` bytes of section names at `o`, a name is found at the least place at which one of them
begins and equals it, and every text that begins further in front ends in front of that place. Where
there is no such place, the name is reported missing if the section names come to an end, and else
the end of the file is reported. -/
theorem sectionRecord_finds_least (d : Bytes) (names : SectionHeader) (o n : Nat) (name : String)
    (hdata : names.dataOffset = o) (hsize : names.size = n) (hname : IsLatin name) :
    (∀ r, r ∈ NamePlaces d names name ↔
        r < n ∧ d.HasAt (o + r) (terminated name) ∧ (r = 0 ∨ d[o + r - 1]? = some 0)) ∧
      (∀ place : Int, sectionRecord d names name = .ok place ↔
        ∃ r : Nat, place = r ∧ IsLeast (NamePlaces d names name) r) ∧
      (∀ r : Nat, sectionRecord d names name = .ok r →
        ∀ k < r, ∃ stop, k ≤ stop ∧ stop < r ∧ d[o + stop]? = some 0) ∧
      (NamePlaces d names name = ∅ →
        (n = 0 ∨ (∃ i, n - 1 ≤ i ∧ d[o + i]? = some 0) →
            sectionRecord d names name = .error (.missingSection name)) ∧
          (¬(n = 0 ∨ ∃ i, n - 1 ≤ i ∧ d[o + i]? = some 0) →
            sectionRecord d names name =
              .error (.truncatedFile (max o d.size : Nat) 1 d.size))) := by
  have hnonneg : 0 ≤ names.dataOffset := by omega
  have hplaces : ∀ r, r ∈ NamePlaces d names name ↔
      r < n ∧ d.HasAt (o + r) (terminated name) ∧ (r = 0 ∨ d[o + r - 1]? = some 0) := by
    intro r
    simp only [NamePlaces, HasNameAt, hdata, hsize, Int.toNat_natCast, Int.ofNat_lt,
      Set.mem_ofPred_eq]
    tauto
  refine ⟨hplaces, fun place => sectionRecord_eq_ok_iff hnonneg hname, fun r hr k hk => ?_,
    fun hempty => ?_⟩
  · -- The byte in front of the place is the end of the text in front of it.
    obtain ⟨other, hother, hleast⟩ := (sectionRecord_eq_ok_iff hnonneg hname).mp hr
    obtain rfl : r = other := Int.ofNat_inj.mp hother
    have hzero := ((hplaces r).mp hleast.1).2.2.resolve_left (by omega)
    rw [Nat.add_sub_assoc (by omega : 1 ≤ r)] at hzero
    exact ⟨r - 1, by omega, by omega, hzero⟩
  · have hfault := sectionRecord_of_namePlaces_eq_empty hnonneg hname hempty
    rwa [isClosed_namesCursor_iff hdata hsize, hdata, Int.toNat_natCast] at hfault

/-- In four bytes begin the names `ab` and `b`, the second of which has its zero byte behind them.
It is found where it begins, and not as the end of the first one. -/
theorem sectionRecord_finds_least_overhanging :
    IsLatin "b" ∧
      sectionRecord #[9, 97, 98, 0, 98, 0] { dataOffset := 1, size := 4 } "b" = .ok 3 ∧
      IsLeast (NamePlaces #[9, 97, 98, 0, 98, 0] { dataOffset := 1, size := 4 } "b") 3 := by
  have hlatin : IsLatin "b" := by decide
  have hrecord : sectionRecord #[9, 97, 98, 0, 98, 0] { dataOffset := 1, size := 4 } "b" =
      .ok 3 := by decide +kernel
  obtain ⟨r, hr, hleast⟩ :=
    ((sectionRecord_finds_least _ _ 1 4 "b" rfl rfl hlatin).2.1 3).mp hrecord
  obtain rfl : 3 = r := Int.ofNat_inj.mp hr
  exact ⟨hlatin, hrecord, hleast⟩

end Names

/-! ### The section with a name -/

/-- The section headers lie inside the file, as many as the file header gives, and so do the section
names, each of which ends inside them. -/
structure HasSoundNames (d : Bytes) (header : Header) (names : SectionHeader) : Prop where
  header_eq : Header.read d = .ok header
  sectionCount_ne : header.sectionCount ≠ 0
  sections_le : header.sectionOffset + stride * header.sectionCount ≤ d.size
  names_eq : SectionHeader.read d
    (header.sectionOffset + header.sectionEntrySize * header.nameSection) = .ok names
  names_le : names.dataOffset + names.size ≤ d.size
  terminated : ∀ r : Nat, r < names.size → ∃ stop : Nat, r ≤ stop ∧ stop < names.size ∧
    d[names.dataOffset.toNat + stop]? = some 0

namespace HasSoundNames

variable {d : Bytes} {header : Header} {names s : SectionHeader} {name : String}

theorem dataOffset_nonneg (h : HasSoundNames d header names) : 0 ≤ names.dataOffset :=
  dataOffset_nonneg_of_read h.names_eq

theorem exists_readNth (h : HasSoundNames d header names) {i : Nat}
    (hi : i < sectionCount d header) : ∃ s, readNth d header.sectionOffset i = .ok s := by
  rw [sectionCount, if_pos h.sectionCount_ne] at hi
  have hle := h.sections_le
  obtain ⟨ident, numbers, rfl⟩ := Header.exists_eq_ofNumbers_of_read h.header_eq
  simp only [Header.ofNumbers, Int.toNat_natCast, stride] at hi hle ⊢
  exact exists_read_of_le (by simp only [stride]; omega) (by simp only [stride]; omega)

/-- The last of the names ends, so a search comes to the end of the names. -/
theorem isClosed (h : HasSoundNames d header names) :
    StringCursor.IsClosed d (namesCursor names) names.size := by
  have hdata := h.dataOffset_nonneg
  by_cases hsize : names.size ≤ 0
  · exact .inl hsize
  · -- The name that holds the last byte ends inside the names, so the last byte is its end.
    obtain ⟨stop, hle, hlt, hzero⟩ := h.terminated (names.size - 1).toNat (by omega)
    refine .inr ⟨names.dataOffset.toNat + stop, ?_, hzero, ?_⟩
    · rw [position_namesCursor]
      exact Nat.le_add_right _ _
    · simp only [namesCursor]
      omega

/-- The name is found, and then the first section that refers to it, or one of the two is
missing. -/
theorem locateNamed_cases (h : HasSoundNames d header names) (hname : IsLatin name) :
    (∃ s r, (locateNamed d header names name).outcome = .ok s ∧
        IsLeast (NamePlaces d names name) r ∧ IsFirstSection d header (·.nameOffset = r) s) ∨
      (locateNamed d header names name).outcome = .error (.missingSection name) ∧
        ∀ r, IsLeast (NamePlaces d names name) r →
          ∀ s, IsSection d header s → s.nameOffset ≠ r := by
  rw [outcome_locateNamed]
  rcases sectionRecord_cases h.dataOffset_nonneg hname with
    ⟨r, hrecord, hleast⟩ | ⟨hempty, ⟨hrecord, -⟩ | ⟨-, hopen⟩⟩
  · -- The name is found, and the sections that refer to its place are looked for.
    rw [hrecord, Fault.ok_bind]
    rcases findSection_cases (·.nameOffset = (r : Int)) name (fun i => h.exists_readNth) with
      ⟨number, s, hfind, hfirst⟩ | ⟨hfind, hnone⟩
    · refine .inl ⟨s, r, by rw [hfind]; rfl, hleast, ?_⟩
      simpa only [decide_eq_true_eq] using hfirst
    · refine .inr ⟨by rw [hfind]; rfl, fun other hother s hs => ?_⟩
      rw [hother.unique hleast]
      exact of_decide_eq_false (hnone s hs)
  · -- The name is none of the section names, so there is no place to refer to.
    refine .inr ⟨by rw [hrecord]; rfl, fun r hr => ?_⟩
    rw [hempty] at hr
    exact absurd hr.1 (Set.notMem_empty r)
  · exact absurd h.isClosed hopen

theorem outcome_locateNamed_eq_ok_iff (h : HasSoundNames d header names) (hname : IsLatin name) :
    (locateNamed d header names name).outcome = .ok s ↔
      ∃ r, IsLeast (NamePlaces d names name) r ∧
        IsFirstSection d header (·.nameOffset = r) s := by
  rcases h.locateNamed_cases hname with ⟨t, r, hok, hleast, hfirst⟩ | ⟨herror, hnone⟩
  · rw [hok, Except.ok.injEq]
    constructor
    · rintro rfl
      exact ⟨r, hleast, hfirst⟩
    · rintro ⟨other, hother, hs⟩
      rw [hother.unique hleast] at hs
      exact hfirst.unique hs
  · rw [herror]
    constructor
    · intro hok
      cases hok
    · rintro ⟨r, hr, hs⟩
      exact absurd hs.holds (hnone r hr s hs.isSection)

/-- The section that is found for a name has this name. -/
theorem isCalled_of_outcome_locateNamed (h : HasSoundNames d header names) (hname : IsLatin name)
    (hs : (locateNamed d header names name).outcome = .ok s) :
    IsSection d header s ∧ IsCalled d names name s := by
  obtain ⟨r, hr, hfirst⟩ := (h.outcome_locateNamed_eq_ok_iff hname).mp hs
  exact ⟨hfirst.isSection, r, hfirst.holds, hr.1.2⟩

end HasSoundNames

/-- In a file with sound names, a section is found for a name, or the name is reported missing. The
section is the first one that refers to the first place at which the name is one of the section
names. It has the name; it is the first section that has the name exactly if that section refers to
this place, and the name is missing if no section has it. -/
theorem outcome_locateNamed_of_hasSoundNames {d : Bytes} {header : Header} {names : SectionHeader}
    {name : String} (h : HasSoundNames d header names) (hname : IsLatin name) :
    ((∃ s, (locateNamed d header names name).outcome = .ok s) ∨
        (locateNamed d header names name).outcome = .error (.missingSection name)) ∧
      (∀ s, (locateNamed d header names name).outcome = .ok s ↔
        ∃ r, IsLeast (NamePlaces d names name) r ∧
          IsFirstSection d header (·.nameOffset = r) s) ∧
      (∀ s, (locateNamed d header names name).outcome = .ok s →
        IsSection d header s ∧ IsCalled d names name s) ∧
      (∀ s, IsFirstSection d header (IsCalled d names name) s →
        ((locateNamed d header names name).outcome = .ok s ↔
          ∃ r, IsLeast (NamePlaces d names name) r ∧ s.nameOffset = r)) ∧
      ((∀ s, IsSection d header s → ¬IsCalled d names name s) →
        (locateNamed d header names name).outcome = .error (.missingSection name)) := by
  have htotal : (∃ s, (locateNamed d header names name).outcome = .ok s) ∨
      (locateNamed d header names name).outcome = .error (.missingSection name) := by
    rcases h.locateNamed_cases hname with ⟨s, r, hok, -⟩ | ⟨herror, -⟩
    · exact .inl ⟨s, hok⟩
    · exact .inr herror
  refine ⟨htotal, fun s => h.outcome_locateNamed_eq_ok_iff hname,
    fun s => h.isCalled_of_outcome_locateNamed hname, fun s hs => ?_, fun hnone => ?_⟩
  · rw [h.outcome_locateNamed_eq_ok_iff hname]
    constructor
    · rintro ⟨r, hr, hfirst⟩
      exact ⟨r, hr, hfirst.holds⟩
    · -- An earlier section that refers to the same place would have the name, too.
      rintro ⟨r, hr, hplace⟩
      exact ⟨r, hr, hs.of_imp hplace fun t ht => ⟨r, ht, hr.1.2⟩⟩
  · refine htotal.resolve_left ?_
    rintro ⟨s, hs⟩
    obtain ⟨hsection, hcalled⟩ := h.isCalled_of_outcome_locateNamed hname hs
    exact hnone s hsection hcalled

/-! ### A name stored as the end of another one -/

/-- The header of a file with five sections, the last of which holds the section names. -/
def tailHeader : Header where
  ident := Header.magic ++ #[1, 1, 1] ++ Array.replicate 9 0
  machine := Header.riscv
  sectionOffset := 72
  sectionEntrySize := stride
  sectionCount := 5
  nameSection := 4

/-- The section headers: the third one has the name `.text`, which is the end of the name of the
second one, and the fourth one the name `.strtab`. -/
def tailSections : List SectionHeader :=
  [{}, { nameOffset := 1, type := 4 }, { nameOffset := 6, type := 1 },
   { nameOffset := 12, type := 3 }, { type := 3, dataOffset := 52, size := 20 }]

/-- The file with this header, the section names and the section headers. -/
def tailImage : Bytes :=
  (tailHeader.toBytes ++ (0 :: (terminated ".rela.text" ++ terminated ".strtab")) ++
    tailSections.flatMap SectionHeader.toBytes).toArray

/-- The header of the section names. -/
def tailNames : SectionHeader where
  offset := 232
  type := 3
  dataOffset := 52
  size := 20

theorem hasSoundNames_tailImage : HasSoundNames tailImage tailHeader tailNames where
  header_eq := by decide +kernel
  sectionCount_ne := by decide
  sections_le := by decide +kernel
  names_eq := by decide +kernel
  names_le := by decide +kernel
  terminated := by
    intro r hr
    refine ⟨19, ?_, by decide, by decide +kernel⟩
    simp only [tailNames] at hr
    omega

theorem outcome_locateNamed_of_hasSoundNames_strtab :
    HasSoundNames tailImage tailHeader tailNames ∧
      (locateNamed tailImage tailHeader tailNames ".strtab").outcome =
        .ok { offset := 192, nameOffset := 12, type := 3 } ∧
      IsCalled tailImage tailNames ".strtab" { offset := 192, nameOffset := 12, type := 3 } := by
  have hlatin : IsLatin ".strtab" := by decide
  have h := outcome_locateNamed_of_hasSoundNames hasSoundNames_tailImage hlatin
  have hok : (locateNamed tailImage tailHeader tailNames ".strtab").outcome =
      .ok { offset := 192, nameOffset := 12, type := 3 } := by decide +kernel
  exact ⟨hasSoundNames_tailImage, hok, (h.2.2.1 _ hok).2⟩

/-- A section that has a name is not found if the name is stored as the end of another one. -/
theorem locateNamed_misses_shared_tail :
    HasSoundNames tailImage tailHeader tailNames ∧
      IsSection tailImage tailHeader { offset := 152, nameOffset := 6, type := 1 } ∧
      IsCalled tailImage tailNames ".text" { offset := 152, nameOffset := 6, type := 1 } ∧
      (locateNamed tailImage tailHeader tailNames ".text").outcome =
        .error (.missingSection ".text") := by
  refine ⟨hasSoundNames_tailImage, ⟨2, by decide, by decide +kernel⟩, ⟨6, rfl, by decide, ?_⟩,
    by decide +kernel⟩
  unfold Bytes.HasAt
  decide +kernel

end RiscvListing.Container
