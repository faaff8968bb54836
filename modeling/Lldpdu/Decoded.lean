import Lldpdu.Error

/-!
# Records with the errors met on the way

A record is gathered from readings: each reading is an item that is added to the record, or the
error that it met.  An error costs its own reading and nothing else.
-/

namespace Lldpdu

/-- A record together with the errors of the readings that did not make it. -/
structure Decoded (σ : Type) where
  value : σ
  errors : List FieldError
  deriving DecidableEq, Repr

namespace Decoded

variable {σ ι : Type}

/-- The item of a reading. -/
def item? : Except FieldError ι → Option ι
  | .ok item => some item
  | .error _ => none

/-- The error of a reading. -/
def error? : Except FieldError ι → Option FieldError
  | .ok _ => none
  | .error e => some e

/-- Add the items of the readings to a record one after the other, and keep the errors. -/
def gather (add : σ → ι → σ) (start : σ) (readings : List (Except FieldError ι)) : Decoded σ where
  value := (readings.filterMap item?).foldl add start
  errors := readings.filterMap error?

@[simp]
theorem gather_nil (add : σ → ι → σ) (start : σ) : gather add start [] = ⟨start, []⟩ :=
  rfl

/-- Gathering two lists of readings goes on from where the first one stopped. -/
theorem gather_append (add : σ → ι → σ) (start : σ) (first second : List (Except FieldError ι)) :
    gather add start (first ++ second) =
      { value := (gather add (gather add start first).value second).value
        errors := (gather add start first).errors ++
          (gather add (gather add start first).value second).errors } := by
  simp [gather]

/-- Whether every reading made it. -/
def isOk (d : Decoded σ) : Bool :=
  d.errors.isEmpty

/-- The first error. -/
def firstError? (d : Decoded σ) : Option FieldError :=
  d.errors.head?

end Decoded

end Lldpdu
