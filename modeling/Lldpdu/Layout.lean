import Lldpdu.Octets.Basic

/-!
# Layouts of values

A `Layout` says how the value of a TLV is laid out: how long it has to be, and what it means if
it is long enough.  A layout that describes itself, with length octets inside the value, makes
its demands one after the other, each from the octets that the ones before it have secured.
-/

namespace Lldpdu

/-- How a value is laid out. -/
structure Layout (α : Type) where
  /-- The lengths that a value has to reach, in the order in which they are asked for. -/
  demands : Octets → List Nat
  /-- The meaning of a value that meets every demand. -/
  read : Octets → α

namespace Layout

variable {α β : Type}

/-- The layout whose only demand is a fixed length. -/
def atLeast (length : Nat) (read : Octets → α) : Layout α where
  demands _ := [length]
  read

/-- The layout that fits every value. -/
def anyLength (read : Octets → α) : Layout α where
  demands _ := []
  read

/-- The same layout, with a function applied to what the value means. -/
def map (f : α → β) (layout : Layout α) : Layout β where
  demands := layout.demands
  read value := f (layout.read value)

/-- The first demand that a value does not meet. -/
def unmet? (layout : Layout α) (value : Octets) : Option Nat :=
  (layout.demands value).find? fun wanted => value.length < wanted

/-- The meaning of a value, or the first length that it fails to reach. -/
def decode (layout : Layout α) (value : Octets) : Except Nat α :=
  match layout.unmet? value with
  | some wanted => .error wanted
  | none => .ok (layout.read value)

@[simp]
theorem decode_map (f : α → β) (layout : Layout α) (value : Octets) :
    (layout.map f).decode value = (layout.decode value).map f := by
  unfold decode
  change (match layout.unmet? value with | some wanted => _ | none => _) = _
  cases layout.unmet? value <;> rfl

@[simp]
theorem decode_anyLength (read : Octets → α) (value : Octets) :
    (anyLength read).decode value = .ok (read value) :=
  rfl

theorem decode_atLeast (length : Nat) (read : Octets → α) (value : Octets) :
    (atLeast length read).decode value =
      if value.length < length then .error length else .ok (read value) := by
  by_cases short : value.length < length <;> simp [decode, unmet?, atLeast, short]

theorem decode_atLeast_of_le {length : Nat} {value : Octets} (long : length ≤ value.length)
    (read : Octets → α) : (atLeast length read).decode value = .ok (read value) := by
  rw [decode_atLeast, if_neg (Nat.not_lt.mpr long)]

end Layout

end Lldpdu
