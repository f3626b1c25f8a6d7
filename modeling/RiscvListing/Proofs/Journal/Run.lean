import RiscvListing.Journal.Run

/-!
# Recorded computations and their journals

What a computation records has no influence on what it gives, and what a journal holds has no
influence on what is recorded: a computation adds its records behind the ones that are there. Only
the operation under way shows in them.

Two texts have a meaning of their own, the announcements of the start and of the end of a timed
stretch of work. All other messages are plain.

## Main definitions

* `Run.Yields` — a recorded computation has the same result with every journal.
* `Run.Records` — it also adds the same records to every journal.
* `Run.RecordsAs` — the records it adds satisfy a condition.
* `Message.IsPlain` — a message that announces nothing.
* `Record.IsTimed` — records with one start and, behind it, one end of a timed stretch.

## Main results

* `Journal.addAll_eq` — which of several records a journal keeps.
* `Run.RecordsAs.bind` — the records of a sequence.
* `Run.RecordsAs.timed` — plain records between two announcements.
-/

namespace RiscvListing

/-! ### Results -/

namespace Run

variable {α β : Type}

/-- With every journal the computation ends with `result`. -/
def Yields (act : Run α) (result : Except Fault α) : Prop := ∀ j, (act.outcome j).1 = result

theorem Yields.of_eq {act : Run α} {result other : Except Fault α} (h : Yields act result)
    (heq : result = other) : Yields act other := heq ▸ h

theorem yields_pure (value : α) : Yields (pure value) (pure value) := fun _ => rfl

theorem yields_log (level : Level) (text : String) : Yields (log level text) (pure ()) :=
  fun _ => rfl

theorem yields_lift (result : Except Fault α) : Yields (lift result) result := fun _ => rfl

theorem yields_follow (traced : Traced α) : Yields (follow traced) traced.outcome := fun _ => rfl

theorem Yields.within {act : Run α} {result : Except Fault α} (h : Yields act result)
    (operation : String) : Yields (within operation act) result :=
  fun j => h { j with operation := some operation }

theorem Yields.timed {act : Run α} {result : Except Fault α} (h : Yields act result)
    (label : String) : Yields (timed label act) result :=
  fun j => h (j.log .debug (.text s!"Started: {label}"))

theorem outcome_bind (act : Run α) (next : α → Run β) (j : Journal) :
    (act >>= next).outcome j =
      match act.outcome j with
      | (.ok value, j) => (next value).outcome j
      | (.error fault, j) => (.error fault, j) := by
  unfold outcome
  rw [ExceptT.run_bind, StateT.run_bind]
  obtain ⟨result, after⟩ := act.run.run j
  cases result <;> rfl

theorem Yields.bind {act : Run α} {result : Except Fault α} {next : α → Run β}
    {results : α → Except Fault β} (h : Yields act result)
    (hnext : ∀ a, Yields (next a) (results a)) :
    Yields (act >>= next) (result >>= results) := by
  intro j
  rw [outcome_bind, ← h j]
  obtain ⟨outcome, after⟩ := act.outcome j
  cases outcome with
  | error fault => rfl
  | ok value => exact hnext value after

end Run

/-! ### Adding records -/

/-- The record of a note. -/
def Record.ofNote (operation : Option String) (note : Note) : Record where
  level := note.level
  operation := operation
  message := .text note.text

namespace Journal

/-- Adds records in order, each if it is grave enough. -/
def addAll (j : Journal) (records : List Record) : Journal := records.foldl add j

theorem addAll_cons (j : Journal) (record : Record) (rest : List Record) :
    j.addAll (record :: rest) = (j.add record).addAll rest := rfl

theorem addAll_append (j : Journal) (first second : List Record) :
    j.addAll (first ++ second) = (j.addAll first).addAll second := List.foldl_append

/-- The journal keeps the records that are grave enough, behind the ones that it held. -/
theorem addAll_eq (j : Journal) (records : List Record) :
    j.addAll records =
      { j with
        records := j.records ++
          (records.filter fun record => record.level.meets j.threshold).toArray } := by
  induction records generalizing j with
  | nil => simp [addAll]
  | cons record rest ih =>
    rw [addAll_cons, ih, add]
    by_cases h : record.level.meets j.threshold
    · simp [h]
    · simp [h]

theorem addAll_eq_self {j : Journal} {records : List Record}
    (h : ∀ record ∈ records, ¬ record.level.meets j.threshold) : j.addAll records = j := by
  rw [addAll_eq, List.filter_eq_nil_iff.mpr h, Array.append_empty]

@[simp] theorem operation_addAll (j : Journal) (records : List Record) :
    (j.addAll records).operation = j.operation := by rw [addAll_eq]

/-- Which records are added does not depend on the operation under way. -/
theorem addAll_operation (j : Journal) (operation : Option String) (records : List Record) :
    { j with operation }.addAll records = { j.addAll records with operation } := by
  rw [addAll_eq, addAll_eq]

/-- Notes are logged under the operation that is under way at the start. -/
theorem foldl_log_eq_addAll (j : Journal) (notes : List Note) :
    notes.foldl (fun j note => j.log note.level (.text note.text)) j =
      j.addAll (notes.map (Record.ofNote j.operation)) := by
  induction notes generalizing j with
  | nil => rfl
  | cons note rest ih =>
    rw [List.foldl_cons, ih, operation_log, List.map_cons, addAll_cons]
    rfl

end Journal

/-! ### Records -/

namespace Run

variable {α β : Type} {act : Run α} {next : α → Run β}

/-- With every journal the computation ends with `result` and adds the same records, which may name
the operation that is under way. -/
def Records (act : Run α) (result : Except Fault α) (records : Option String → List Record) :
    Prop :=
  ∀ j, act.outcome j = (result, j.addAll (records j.operation))

/-- The computation adds the same records to every journal, and they satisfy `condition`. -/
def RecordsAs (act : Run α) (condition : List Record → Prop) : Prop :=
  ∃ result records, Records act result records ∧ ∀ operation, condition (records operation)

theorem Records.bind_ok {value : α} {results : Except Fault β}
    {first second : Option String → List Record} (h : Records act (.ok value) first)
    (hnext : Records (next value) results second) :
    Records (act >>= next) results fun operation => first operation ++ second operation := by
  intro j
  rw [outcome_bind, h j]
  dsimp only
  rw [hnext, Journal.operation_addAll, Journal.addAll_append]

theorem Records.bind_error {fault : Fault} {records : Option String → List Record}
    (h : Records act (.error fault) records) :
    Records (act >>= next) (.error fault) records := by
  intro j
  rw [outcome_bind, h j]

variable {condition conditionNext : List Record → Prop}

/-- The records of a sequence satisfy what the records of its first part satisfy, whether or not
the second part is reached. -/
theorem RecordsAs.bind (h : RecordsAs act condition)
    (hnext : ∀ value, RecordsAs (next value) conditionNext)
    (happend : ∀ first second, condition first → conditionNext second →
      condition (first ++ second)) :
    RecordsAs (act >>= next) condition := by
  obtain ⟨result, first, hfirst, hcondition⟩ := h
  cases result with
  | error fault => exact ⟨_, first, hfirst.bind_error, hcondition⟩
  | ok value =>
    obtain ⟨_, second, hsecond, hconditionNext⟩ := hnext value
    refine ⟨_, _, hfirst.bind_ok hsecond, ?_⟩
    intro operation
    exact happend _ _ (hcondition operation) (hconditionNext operation)

/-- An operation is named in the records, and it ends with the computation. -/
theorem RecordsAs.within (h : RecordsAs act condition) (operation : String) :
    RecordsAs (within operation act) condition := by
  obtain ⟨result, records, hrecords, hcondition⟩ := h
  refine ⟨result, fun _ => records (some operation), ?_, fun _ => hcondition _⟩
  intro j
  have hinside := hrecords { j with operation := some operation }
  change (let (outcome, after) := act.outcome { j with operation := some operation }
    (outcome, ({ after with operation := j.operation } : Journal))) = _
  rw [hinside, Journal.addAll_operation]
  dsimp only
  rw [Journal.addAll_eq]

end Run

/-! ### Plain messages -/

/-- The message announces neither the start nor the end of a timed stretch, whatever is filled in
for the time that a stretch took. -/
def Message.IsPlain (message : Message) : Prop :=
  ∀ elapsed, ¬"Started: ".toList <+: (message.render elapsed).toList ∧
    ¬"Completed: ".toList <+: (message.render elapsed).toList

/-- The first character shows that a text announces nothing. -/
theorem Message.isPlain_text {text : String} {c : Char} (h : text.toList.head? = some c)
    (hother : c ≠ 'S' ∧ c ≠ 'C') : (Message.text text).IsPlain := by
  intro elapsed
  change ¬"Started: ".toList <+: text.toList ∧ ¬"Completed: ".toList <+: text.toList
  constructor
  · rintro ⟨rest, hrest⟩
    rw [← hrest] at h
    exact hother.1 (Option.some.inj h).symm
  · rintro ⟨rest, hrest⟩
    rw [← hrest] at h
    exact hother.2 (Option.some.inj h).symm

namespace Record

/-- None of the records announces anything. -/
def ArePlain (records : List Record) : Prop := ∀ record ∈ records, record.message.IsPlain

theorem arePlain_nil : ArePlain [] := by
  intro record hrecord
  cases hrecord

theorem arePlain_singleton {record : Record} (h : record.message.IsPlain) :
    ArePlain [record] := by
  intro other hother
  cases List.mem_singleton.mp hother
  exact h

theorem ArePlain.append {first second : List Record} (hfirst : ArePlain first)
    (hsecond : ArePlain second) : ArePlain (first ++ second) := by
  intro record hrecord
  rcases List.mem_append.mp hrecord with hmem | hmem
  · exact hfirst record hmem
  · exact hsecond record hmem

/-- The announcement of the start of a timed stretch. -/
def started (label : String) (operation : Option String) : Record where
  level := .debug
  operation := operation
  message := .text s!"Started: {label}"

/-- The announcement of the end of a timed stretch. -/
def completed (label : String) (operation : Option String) : Record where
  level := .info
  operation := operation
  message := .completed label

/-- The start of the timed stretch `label` is announced once, its end is announced once and behind
it, and nothing else is announced. -/
def IsTimed (label : String) (records : List Record) : Prop :=
  ∃ operation front middle back,
    records = front ++ started label operation :: (middle ++ completed label operation :: back) ∧
    ArePlain front ∧ ArePlain middle ∧ ArePlain back

theorem IsTimed.prepend {label : String} {front records : List Record} (hfront : ArePlain front)
    (h : IsTimed label records) : IsTimed label (front ++ records) := by
  obtain ⟨operation, first, middle, back, rfl, hfirst, hmiddle, hback⟩ := h
  refine ⟨operation, front ++ first, middle, back, ?_, hfront.append hfirst, hmiddle, hback⟩
  rw [List.append_assoc]

theorem IsTimed.append {label : String} {records more : List Record} (h : IsTimed label records)
    (hmore : ArePlain more) : IsTimed label (records ++ more) := by
  obtain ⟨operation, front, middle, back, rfl, hfront, hmiddle, hback⟩ := h
  refine ⟨operation, front, middle, back ++ more, ?_, hfront, hmiddle, hback.append hmore⟩
  simp

end Record

namespace Run

variable {α β : Type} {act : Run α} {next : α → Run β}

theorem recordsAs_pure (value : α) : RecordsAs (pure value) Record.ArePlain :=
  ⟨.ok value, fun _ => [], fun _ => rfl, fun _ => Record.arePlain_nil⟩

theorem recordsAs_lift (result : Except Fault α) : RecordsAs (lift result) Record.ArePlain :=
  ⟨result, fun _ => [], fun _ => rfl, fun _ => Record.arePlain_nil⟩

theorem records_log (level : Level) (text : String) :
    Records (log level text) (.ok ()) fun operation =>
      [{ level, operation, message := .text text }] := fun _ => rfl

theorem recordsAs_log (level : Level) {text : String} (h : (Message.text text).IsPlain) :
    RecordsAs (log level text) Record.ArePlain :=
  ⟨.ok (), _, records_log level text, fun _ => Record.arePlain_singleton h⟩

/-- The notes of a traced computation become records of the operation under way. -/
theorem recordsAs_follow {traced : Traced α}
    (h : ∀ note ∈ traced.notes, (Message.text note.text).IsPlain) :
    RecordsAs (follow traced) Record.ArePlain := by
  refine ⟨traced.outcome, fun operation => traced.notes.map (Record.ofNote operation), ?_, ?_⟩
  · intro j
    change (traced.outcome, _) = _
    rw [Journal.foldl_log_eq_addAll]
  · intro operation record hrecord
    obtain ⟨note, hnote, rfl⟩ := List.mem_map.mp hrecord
    exact h note hnote

/-- One plain computation after the other. -/
theorem RecordsAs.then (h : RecordsAs act Record.ArePlain)
    (hnext : ∀ value, RecordsAs (next value) Record.ArePlain) :
    RecordsAs (act >>= next) Record.ArePlain :=
  h.bind hnext fun _ _ => Record.ArePlain.append

/-- A plain message in front of a timed stretch. -/
theorem RecordsAs.log_bind {label : String} {level : Level} {text : String}
    {next : Unit → Run β} (h : (Message.text text).IsPlain)
    (hnext : RecordsAs (next ()) (Record.IsTimed label)) :
    RecordsAs (log level text >>= next) (Record.IsTimed label) := by
  obtain ⟨result, records, hrecords, htimed⟩ := hnext
  refine ⟨result, _, (records_log level text).bind_ok hrecords, ?_⟩
  intro operation
  exact (htimed operation).prepend (Record.arePlain_singleton h)

/-- Plain records inside a timed stretch stand between its two announcements, also if the
computation fails. -/
theorem RecordsAs.timed (h : RecordsAs act Record.ArePlain) (label : String) :
    RecordsAs (timed label act) (Record.IsTimed label) := by
  obtain ⟨result, records, hrecords, hplain⟩ := h
  refine ⟨result, fun operation => Record.started label operation ::
    (records operation ++ [Record.completed label operation]), ?_, ?_⟩
  · intro j
    have hinside := hrecords (j.add (Record.started label j.operation))
    rw [Journal.operation_add] at hinside
    change (let (outcome, after) := act.outcome (j.add (Record.started label j.operation))
      (outcome, after.log .info (.completed label))) = _
    rw [hinside]
    dsimp only
    rw [Journal.log, Journal.operation_addAll, Journal.operation_add, Journal.addAll_cons,
      Journal.addAll_append]
    rfl
  · intro operation
    exact ⟨operation, [], records operation, [], rfl, Record.arePlain_nil, hplain operation,
      Record.arePlain_nil⟩

end Run

end RiscvListing
