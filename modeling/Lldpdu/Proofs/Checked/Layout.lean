import Lldpdu.Layout
import Lldpdu.Proofs.Checked.Basic
import Lldpdu.Proofs.Decoded

/-!
# Decoders of values

A decoder compares the length of a value with the lengths that it needs and reads from it by
operations that can fault.  It makes an item of the value or none, and it notes the lengths that
the value turned out too short for.

`Decodes` relates a decoder to a layout: on every value the decoder makes what the layout says and
notes the demand that is not met, and it never faults.  A loop over TLVs whose decoders are so
related gathers the readings of the layouts.
-/

namespace Lldpdu.Checked

variable {α β ι σ τ : Type}

/-- What a value was found to mean, unless it is too short, and the lengths that it fails to
reach. -/
abbrev Outcome (α : Type) := Option α × List Nat

/-- A decoder of values. -/
abbrev Decoder (α : Type) := Octets → Checked (Outcome α)

/-- Read a value if it has the given length. -/
def atLeast (length : Nat) (read : Octets → Checked α) : Decoder α := fun value => do
  if value.length < length then
    return (none, [length])
  return (some (← read value), [])

/-- Apply a function to what a value means. -/
def mapItem (f : α → β) (decoder : Decoder α) : Decoder β := fun value => do
  let (item?, wanted) ← decoder value
  return (item?.map f, wanted)

/-- The outcome of a layout on a value. -/
def outcome (layout : Layout α) (value : Octets) : Outcome α :=
  match layout.decode value with
  | .ok a => (some a, [])
  | .error wanted => (none, [wanted])

/-- On every value the decoder has the outcome of the layout. -/
def Decodes (decoder : Decoder α) (layout : Layout α) : Prop :=
  ∀ value, decoder value = .ok (outcome layout value)

theorem decodes_atLeast {length : Nat} {read : Octets → Checked α} {read' : Octets → α}
    (reads : ∀ value, length ≤ value.length → read value = .ok (read' value)) :
    Decodes (atLeast length read) (.atLeast length read') := by
  intro value
  rw [atLeast, outcome, Layout.decode_atLeast]
  by_cases short : value.length < length
  · rw [if_pos short, if_pos short]
    rfl
  · rw [if_neg short, if_neg short, reads value (Nat.not_lt.mp short)]
    rfl

theorem Decodes.map {decoder : Decoder α} {layout : Layout α} (decodes : Decodes decoder layout)
    (f : α → β) : Decodes (mapItem f decoder) (layout.map f) := by
  intro value
  rw [mapItem, decodes value, outcome, outcome, Layout.decode_map]
  cases layout.decode value <;> rfl

/-! ## Loops -/

/-- The record with what became of a value: its item is added, and each length that it fails to
reach is an error. -/
def record (add : σ → ι → σ) (error : Nat → FieldError) (d : Decoded σ) (found : Outcome ι) :
    Decoded σ where
  value := match found.1 with
    | some item => add d.value item
    | none => d.value
  errors := d.errors ++ found.2.map error

/-- The outcome of a layout is recorded as its reading. -/
theorem record_outcome (add : σ → ι → σ) (error : Nat → FieldError) (d : Decoded σ)
    (layout : Layout ι) (value : Octets) :
    record add error d (outcome layout value) =
      d.push add ((layout.decode value).mapError error) := by
  rw [outcome]
  cases layout.decode value with
  | ok item => exact congrArg (Decoded.mk _) (List.append_nil d.errors)
  | error wanted => rfl

/-- A loop whose rounds do not fault does not fault. -/
theorem foldlM_eq_ok {step : σ → τ → Checked σ} {step' : σ → τ → σ}
    (round : ∀ s t, step s t = .ok (step' s t)) (start : σ) (ts : List τ) :
    ts.foldlM step start = .ok (ts.foldl step' start) := by
  induction ts generalizing start with
  | nil => rfl
  | cons t ts ih => rw [List.foldlM_cons, round, ok_bind, ih, List.foldl_cons]

end Lldpdu.Checked
