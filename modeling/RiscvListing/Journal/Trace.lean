import RiscvListing.Fault
import RiscvListing.Journal.Level

/-!
# Traced computations

A computation that may fail and leaves notes on its way. The notes made before a failure are kept.

## Main definitions

* `Note` — a level and a text.
* `Traced` — notes with an outcome.
* `Traced.note`, `Traced.lift` — leave a note, include a computation without notes.

## Main results

* `Traced.outcome_bind`, `Traced.notes_bind_ok`, `Traced.notes_bind_error` — the outcome and the
  notes of a sequence.
-/

namespace RiscvListing

/-- A level and a text. -/
structure Note where
  /-- How grave it is. -/
  level : Level
  /-- What it says. -/
  text : String
  deriving Repr, DecidableEq

/-- Notes with an outcome. -/
structure Traced (α : Type) where
  /-- The notes, the oldest first. -/
  notes : List Note
  /-- The value, or the fault that ended the computation. -/
  outcome : Except Fault α

namespace Traced

variable {α β : Type}

/-- A value without notes. -/
protected def pure (value : α) : Traced α := ⟨[], .ok value⟩

/-- One computation after the other, unless the first fails. -/
protected def bind (first : Traced α) (next : α → Traced β) : Traced β :=
  match first.outcome with
  | .error fault => ⟨first.notes, .error fault⟩
  | .ok value => ⟨first.notes ++ (next value).notes, (next value).outcome⟩

instance : Monad Traced where
  pure := Traced.pure
  bind := Traced.bind

/-- Leaves a note. -/
def note (level : Level) (text : String) : Traced Unit := ⟨[⟨level, text⟩], .ok ()⟩

/-- A computation that leaves no notes. -/
def lift (outcome : Except Fault α) : Traced α := ⟨[], outcome⟩

@[simp] theorem outcome_pure (value : α) : (pure value : Traced α).outcome = .ok value := rfl

@[simp] theorem outcome_lift (outcome : Except Fault α) : (lift outcome).outcome = outcome := rfl

@[simp] theorem outcome_note (level : Level) (text : String) :
    (note level text).outcome = .ok () := rfl

@[simp] theorem outcome_bind (first : Traced α) (next : α → Traced β) :
    (first >>= next).outcome = first.outcome >>= fun value => (next value).outcome := by
  change (Traced.bind first next).outcome = _
  unfold Traced.bind
  cases first.outcome <;> rfl

theorem notes_bind_ok {first : Traced α} {value : α} (next : α → Traced β)
    (h : first.outcome = .ok value) :
    (first >>= next).notes = first.notes ++ (next value).notes := by
  change (Traced.bind first next).notes = _
  simp [Traced.bind, h]

theorem notes_bind_error {first : Traced α} {fault : Fault} (next : α → Traced β)
    (h : first.outcome = .error fault) : (first >>= next).notes = first.notes := by
  change (Traced.bind first next).notes = _
  simp [Traced.bind, h]

end Traced

end RiscvListing
