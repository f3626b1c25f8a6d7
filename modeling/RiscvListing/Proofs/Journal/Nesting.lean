import RiscvListing.Journal.Report
import RiscvListing.Proofs.Journal.Run

/-!
# Nested operations

Operations and timed stretches of work are scopes that start and end in any order and to any depth.
A session keeps no list of the operations that are open: each scope has saved the operation that it
found, and hands it back when it ends. All the same, the operation under way is at any time the one
of the innermost operation that has started and not ended, and every record names it.

Which scopes are open after some steps is said here without a session. An end goes to the innermost
scope that is open, so a scope is still open if the steps behind its start end only scopes that have
started behind it too.

## Main definitions

* `Step.ended` — how many of the scopes from before the steps end in them.
* `Step.openings` — the starts of the scopes that are open after the steps.
* `Step.underWay` — the innermost operation that is open after the steps.
* `Step.emitted` — the records of a step.
* `Session.after` — a session after some steps.
* `Scope.Nested` — what the scopes have saved fits the scopes that are open.

## Main results

* `Step.openings_concat` — the open scopes from step to step.
* `Scope.Nested.next` — a step keeps the saved operations in order.
* `Session.nested_after` — so does a run.
* `Session.operations_nest` — the operation under way and the records, after all steps.
-/

namespace RiscvListing

namespace Attachment

theorem of_record?_eq_ok {a : Attachment} {level : Level} {operation : Option String}
    {template : String} {values : List Json} {record : Record}
    (h : a.record? level operation template values = .ok (some record)) :
    record.level = level ∧ record.operation = operation := by
  unfold record? at h
  split at h
  · cases h
  · split at h
    · cases h
    · obtain ⟨message, -, rfl⟩ := Option.map_eq_some_iff.mp (Except.ok.inj h)
      exact ⟨rfl, rfl⟩

end Attachment

namespace Step

/-! ### Open scopes -/

/-- The step starts a scope. -/
def opens : Step → Bool
  | enter _ | time _ => true
  | report .. | leave _ => false

/-- How many of the scopes that were open before the steps end in them. A scope that starts in them
takes the first of the ends that are left over behind it. -/
def ended : List Step → Nat
  | [] => 0
  | report .. :: rest => ended rest
  | enter _ :: rest | time _ :: rest => ended rest - 1
  | leave _ :: rest => ended rest + 1

/-- The starts of the scopes that are open after the steps, the innermost first. -/
def openings : List Step → List Step
  | [] => []
  | step :: rest =>
    if step.opens ∧ ended rest = 0 then openings rest ++ [step] else openings rest

/-- The operation that a step starts. -/
def operation? : Step → Option String
  | enter operation => some operation
  | _ => none

/-- The operation of the innermost of the open scopes that has one, and `initial` if none has. -/
def innermost (initial : Option String) (opened : List Step) : Option String :=
  (opened.findSome? operation?).or initial

/-- The innermost operation that is open after the steps, and `initial` if none is. -/
def underWay (initial : Option String) (steps : List Step) : Option String :=
  innermost initial (openings steps)

/-- The open scopes after a step, the innermost first. -/
def advance (opened : List Step) (step : Step) : List Step :=
  match step with
  | report .. => opened
  | enter _ | time _ => step :: opened
  | leave _ => opened.tail

/-- Some of the scopes that were open before the steps end in them, the others are still open behind
those that have started. -/
theorem foldl_advance (opened steps : List Step) :
    steps.foldl advance opened = openings steps ++ opened.drop (ended steps) := by
  induction steps generalizing opened with
  | nil => simp [openings, ended]
  | cons step rest ih =>
    rw [List.foldl_cons, ih]
    cases step with
    | report => simp [advance, openings, ended, opens]
    | leave => simp [advance, openings, ended, opens]
    | enter | time =>
      -- The new scope is the first that an end behind the steps would go to.
      cases hended : ended rest with
      | zero => simp [advance, openings, ended, opens, hended]
      | succ n => simp [advance, openings, ended, opens, hended]

theorem openings_concat (steps : List Step) (step : Step) :
    openings (steps ++ [step]) = advance (openings steps) step := by
  have hfold (steps : List Step) : openings steps = steps.foldl advance [] := by
    simp [foldl_advance]
  rw [hfold, hfold, List.foldl_append, List.foldl_cons, List.foldl_nil]

/-! ### The records of a step -/

/-- The record that a step asks for during `operation`, where `opening` has started the innermost of
the open scopes. -/
def record? (operation : Option String) (opening : Option Step) : Step → Option Record
  | report level template values members error =>
    match Attachment.ofMembers members error with
    | .error _ => none
    | .ok a =>
      match a.record? level operation template values with
      | .error _ => none
      | .ok record => record
  | enter _ => none
  | time label => some (.started label operation)
  | leave _ =>
    match opening with
    | some (time label) => some (.completed label operation)
    | _ => none

/-- The records that a step behind `steps` adds to a journal: the one that it asks for, if it is
grave enough. -/
def emitted (j : Journal) (steps : List Step) (step : Step) : List Record :=
  (step.record? (underWay j.operation steps) (openings steps).head?).toList.filter fun record =>
    record.level.meets j.threshold

/-- A step asks for no record but one that names the operation. -/
theorem operation_of_record?_eq_some {operation : Option String} {opening : Option Step}
    {step : Step} {record : Record} (h : step.record? operation opening = some record) :
    record.operation = operation := by
  cases step with
  | report =>
    rw [record?] at h
    split at h
    · cases h
    · split at h
      · cases h
      · next hrecord => exact (Attachment.of_record?_eq_ok (h ▸ hrecord)).2
  | enter => cases h
  | time =>
    cases h
    rfl
  | leave =>
    simp only [record?] at h
    split at h
    · cases h
      rfl
    · cases h

/-- A step that asks for a record neither starts nor ends an operation. -/
theorem innermost_advance_of_record?_eq_some {operation : Option String} {opened : List Step}
    {step : Step} {record : Record} (h : step.record? operation opened.head? = some record)
    (initial : Option String) :
    innermost initial (advance opened step) = innermost initial opened := by
  cases step with
  | report | time => rfl
  | enter => cases h
  | leave =>
    -- The end of an operation asks for no record, so it is a timed stretch that ends.
    match opened with
    | [] | .time _ :: _ => rfl
    | .report .. :: _ | .enter _ :: _ | .leave _ :: _ => cases h

end Step

/-! ### Sessions -/

namespace Session

/-- The session after a step. A message that is refused leaves it as it is. -/
def next (s : Session) (step : Step) : Session :=
  match s.step step with
  | .ok next => next
  | .error _ => s

/-- The session after some steps. -/
def after (s : Session) (steps : List Step) : Session := steps.foldl next s

theorem report_of_not_meets {s : Session} {level : Level}
    (h : ¬ level.meets s.journal.threshold) (template : String) (values : List Json)
    (a : Attachment) : s.report level template values a = .ok s := by
  rw [report, if_pos h]
  rfl

theorem report_of_meets {s : Session} {level : Level} (h : level.meets s.journal.threshold)
    (template : String) (values : List Json) (a : Attachment) :
    s.report level template values a =
      (a.record? level s.journal.operation template values).map fun record =>
        { s with journal := s.journal.addAll record.toList } := by
  rw [report, if_neg (not_not_intro h)]
  cases a.record? level s.journal.operation template values with
  | error problem => rfl
  | ok record => cases record <;> rfl

/-- A message adds its record, if it has one and is grave enough. -/
theorem next_report (s : Session) (level : Level) (template : String) (values : List Json)
    (members : List (String × Json)) (error : Option String) (opening : Option Step) :
    s.next (.report level template values members error) =
      { s with
        journal := s.journal.addAll
          ((Step.report level template values members error).record? s.journal.operation
            opening).toList } := by
  rw [next, step, Step.record?]
  cases Attachment.ofMembers members error with
  | error problem => rfl
  | ok a =>
    change (match s.report level template values a with | .ok next => next | .error _ => s) = _
    dsimp only
    by_cases hlevel : level.meets s.journal.threshold
    · rw [report_of_meets hlevel]
      cases a.record? level s.journal.operation template values <;> rfl
    · -- The record has the level of the message, so the journal would not take it.
      rw [report_of_not_meets hlevel]
      cases hrecord : a.record? level s.journal.operation template values with
      | error problem => rfl
      | ok asked =>
        dsimp only
        rw [Journal.addAll_eq_self]
        intro record hmem
        rw [Option.mem_toList.mp hmem] at hrecord
        rw [(Attachment.of_record?_eq_ok hrecord).1]
        exact hlevel

end Session

/-! ### Saved operations -/

namespace Scope

/-- Each scope of an operation has saved the operation under way around it, out to `initial`: the
scopes belong to the steps in `opened`, and `operation` is under way. -/
inductive Nested (initial : Option String) :
    (operation : Option String) → List Scope → (opened : List Step) → Prop
  /-- No scope is open. -/
  | outside : Nested initial initial [] []
  /-- An operation inside others. -/
  | enter {operation : Option String} {scopes : List Scope} {opened : List Step} (name : String)
      (around : Nested initial operation scopes opened) :
      Nested initial (some name) (.operation operation :: scopes) (.enter name :: opened)
  /-- A timed stretch of work inside other scopes. -/
  | time {operation : Option String} {scopes : List Scope} {opened : List Step} (label : String)
      (around : Nested initial operation scopes opened) :
      Nested initial operation (.timed label :: scopes) (.time label :: opened)

namespace Nested

variable {initial operation : Option String} {scopes : List Scope} {opened : List Step}
  {s : Session}

theorem operation_eq (h : Nested initial operation scopes opened) :
    operation = Step.innermost initial opened := by
  induction h with
  | outside => rfl
  | enter => rfl
  | time _ _ ih => exact ih

theorem next (h : Nested initial s.journal.operation s.scopes opened) (step : Step) :
    Nested initial (s.next step).journal.operation (s.next step).scopes
      (Step.advance opened step) := by
  obtain ⟨⟨threshold, operation, records⟩, scopes⟩ := s
  change Nested initial operation scopes opened at h
  cases step with
  | report level template values members error =>
    rw [Session.next_report _ _ _ _ _ _ none, Journal.operation_addAll]
    exact h
  | enter operation => exact h.enter operation
  | time label =>
    change Nested initial (Journal.log _ .debug (.text s!"Started: {label}")).operation _ _
    rw [Journal.operation_log]
    exact h.time label
  | leave error =>
    -- What an operation has saved is the one that the scopes around it call for.
    cases h with
    | outside => exact .outside
    | enter _ around => exact around
    | time label around =>
      change Nested initial (Journal.log _ .info (.completed label)).operation _ _
      rw [Journal.operation_log]
      exact around

/-- A step adds its record to the journal and leaves the records before it as they are. -/
theorem journal_next (h : Nested initial s.journal.operation s.scopes opened) (step : Step) :
    (s.next step).journal =
      { s.journal.addAll (step.record? s.journal.operation opened.head?).toList with
        operation := (s.next step).journal.operation } := by
  obtain ⟨⟨threshold, operation, records⟩, scopes⟩ := s
  change Nested initial operation scopes opened at h
  cases step with
  | report level template values members error =>
    rw [Session.next_report _ _ _ _ _ _ opened.head?]
  | enter operation => rfl
  | time label => rfl
  | leave error =>
    cases h with
    | outside => rfl
    | enter name around => rfl
    | time label around => rfl

/-- The saved operations stay in order along a run. -/
theorem after (h : Nested initial s.journal.operation s.scopes opened) (steps : List Step) :
    Nested initial (s.after steps).journal.operation (s.after steps).scopes
      (steps.foldl Step.advance opened) := by
  induction steps generalizing s opened with
  | nil => exact h
  | cons step rest ih => exact ih (h.next step)

theorem threshold_after (h : Nested initial s.journal.operation s.scopes opened)
    (steps : List Step) : (s.after steps).journal.threshold = s.journal.threshold := by
  induction steps generalizing s opened with
  | nil => rfl
  | cons step rest ih =>
    change ((s.next step).after rest).journal.threshold = _
    rw [ih (h.next step), h.journal_next step, Journal.addAll_eq]

end Nested

end Scope

namespace Session

/-- Along a run the scopes of a session are those that are open. -/
theorem nested_after (j : Journal) (steps : List Step) :
    Scope.Nested j.operation (after { journal := j } steps).journal.operation
      (after { journal := j } steps).scopes (Step.openings steps) := by
  have h := Scope.Nested.after (s := { journal := j }) .outside steps
  -- Nothing is open at the outset, so the steps leave nothing open but what they start.
  simpa [Step.foldl_advance] using h

theorem operation_after (j : Journal) (steps : List Step) :
    (after { journal := j } steps).journal.operation = Step.underWay j.operation steps :=
  (nested_after j steps).operation_eq

theorem threshold_after (j : Journal) (steps : List Step) :
    (after { journal := j } steps).journal.threshold = j.threshold :=
  Scope.Nested.threshold_after (s := { journal := j }) .outside steps

theorem after_concat (s : Session) (steps : List Step) (step : Step) :
    s.after (steps ++ [step]) = (s.after steps).next step := by
  rw [after, List.foldl_append]
  rfl

/-- Along a run a journal gets records behind those that it holds. -/
theorem journal_after_concat (j : Journal) (steps : List Step) (step : Step) :
    (after { journal := j } (steps ++ [step])).journal =
      { (after { journal := j } steps).journal.addAll
          (step.record? (Step.underWay j.operation steps) (Step.openings steps).head?).toList with
        operation := Step.underWay j.operation (steps ++ [step]) } := by
  rw [← operation_after, ← operation_after, after_concat]
  exact (nested_after j steps).journal_next step

/-- Operations nest. Whatever messages are reported and whatever scopes start and end, of themselves
or by an error, the operation under way is the innermost one that has started and not ended, and the
one from the outset if there is none. Each step adds to the records those that it emits, and they
name the operation that is under way before the step and still after it. -/
theorem operations_nest (j : Journal) (steps : List Step) :
    (after { journal := j } steps).journal.operation = Step.underWay j.operation steps ∧
    ∀ step : Step,
      (after { journal := j } (steps ++ [step])).journal.records.toList =
        (after { journal := j } steps).journal.records.toList ++ step.emitted j steps ∧
      ∀ record ∈ step.emitted j steps,
        record.operation = Step.underWay j.operation steps ∧
        record.operation = Step.underWay j.operation (steps ++ [step]) := by
  refine ⟨operation_after j steps, fun step => ⟨?_, ?_⟩⟩
  · rw [journal_after_concat, Journal.addAll_eq, threshold_after, Array.toList_append]
    rfl
  · intro record hrecord
    have hasked := Option.mem_toList.mp (List.mem_filter.mp hrecord).1
    have hoperation := Step.operation_of_record?_eq_some hasked
    refine ⟨hoperation, hoperation.trans ?_⟩
    rw [Step.underWay, Step.underWay, Step.openings_concat,
      Step.innermost_advance_of_record?_eq_some hasked]

/-- Two operations of one name inside a timed stretch of work, the inner one ended by an error. -/
def repeated : List Step :=
  [.enter "batch", .time "images", .enter "parse", .enter "parse", .leave (some "no section"),
   .leave none]

/-- The end of the timed stretch is recorded under the operation around it. -/
theorem operations_nest_repeated :
    (after { journal := { threshold := .info } } repeated).journal.operation = some "batch" ∧
      Record.completed "images" (some "batch") ∈
        (after { journal := { threshold := .info } }
          (repeated ++ [.leave (some "no section")])).journal.records.toList ∧
      Step.underWay none (repeated ++ [.leave (some "no section")]) = some "batch" := by
  obtain ⟨hoperation, hstep⟩ := operations_nest { threshold := .info } repeated
  obtain ⟨hrecords, hnamed⟩ := hstep (.leave (some "no section"))
  have hemitted : Record.completed "images" (some "batch") ∈
      (Step.leave (some "no section")).emitted { threshold := .info } repeated :=
    List.mem_singleton.mpr rfl
  refine ⟨hoperation, ?_, (hnamed _ hemitted).2.symm⟩
  rw [hrecords]
  exact List.mem_append_right _ hemitted

end Session

end RiscvListing
