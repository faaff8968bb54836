import Lldpdu.Octets.Basic
import Mathlib.Algebra.Group.Nat.Defs

/-!
# Operations that can fault

The operations from which a decoder is built have preconditions: an octet has to be there to be
looked up, and a sum has to fit its word.  Here each of them is total, and where its precondition
fails it ends in a `Fault`.  Whether a decoder keeps to the preconditions is then a question about
what it returns.

Beside each operation stands what it returns if its precondition holds, in terms of the reads from
which layouts are built.
-/

namespace Lldpdu

/-- How an operation was misused. -/
inductive Fault where
  /-- An octet was looked up beyond the end. -/
  | index
  /-- A range was out of order or went beyond the end. -/
  | range
  /-- A number or an address was read from octets that are not exactly as many as it takes. -/
  | width
  | overflow
  | underflow
  | assertion
  deriving DecidableEq, Repr

/-- What a computation returns, unless one of its operations faults. -/
abbrev Checked (α : Type) := Except Fault α

namespace Checked

variable {α β : Type}

@[simp]
theorem ok_bind (a : α) (f : α → Checked β) : ((Except.ok a : Checked α) >>= f) = f a :=
  rfl

@[simp]
theorem pure_eq_ok (a : α) : (pure a : Checked α) = .ok a :=
  rfl

/-- A sequence that returns something has first steps that do. -/
theorem bind_eq_ok_iff (x : Checked α) (f : α → Checked β) (b : β) :
    x >>= f = .ok b ↔ ∃ a, x = .ok a ∧ f a = .ok b := by
  cases x with
  | ok a => simp
  | error fault => simp [bind, Except.bind]

/-! ## Words -/

/-- The sum of two 64-bit words. -/
def addWord (a b : Nat) : Checked Nat :=
  if a + b < 2 ^ 64 then .ok (a + b) else .error .overflow

/-- The difference of two 64-bit words. -/
def subWord (a b : Nat) : Checked Nat :=
  if b ≤ a then .ok (a - b) else .error .underflow

/-- The sum of two octets. -/
def addOctet (a b : UInt8) : Checked UInt8 :=
  if a.toNat + b.toNat < 2 ^ 8 then .ok (a + b) else .error .overflow

/-- A condition that has to hold. -/
def ensure (p : Prop) [Decidable p] : Checked Unit :=
  if p then .ok () else .error .assertion

theorem addWord_eq_ok {a b : Nat} (fits : a + b < 2 ^ 64) : addWord a b = .ok (a + b) :=
  if_pos fits

theorem subWord_eq_ok {a b : Nat} (le : b ≤ a) : subWord a b = .ok (a - b) :=
  if_pos le

theorem addOctet_eq_ok {a b : UInt8} (fits : a.toNat + b.toNat < 2 ^ 8) :
    addOctet a b = .ok (a + b) :=
  if_pos fits

theorem ensure_eq_ok {p : Prop} [Decidable p] (holds : p) : ensure p = .ok () :=
  if_pos holds

theorem ensure_eq_error {p : Prop} [Decidable p] (fails : ¬ p) : ensure p = .error .assertion :=
  if_neg fails

theorem addWord_eq_ok_iff {a b c : Nat} : addWord a b = .ok c ↔ a + b < 2 ^ 64 ∧ a + b = c := by
  rw [addWord]
  split
  next fits => simp only [fits, true_and, Except.ok.injEq]
  next high => simp only [high, false_and, reduceCtorEq]

theorem subWord_eq_ok_iff {a b c : Nat} : subWord a b = .ok c ↔ b ≤ a ∧ a - b = c := by
  rw [subWord]
  split
  next le => simp only [le, true_and, Except.ok.injEq]
  next lt => simp only [lt, false_and, reduceCtorEq]

theorem ensure_eq_ok_iff {p : Prop} [Decidable p] {u : Unit} : ensure p = .ok u ↔ p := by
  simp [ensure]

/-! ## Octets -/

/-- The octet at an offset. -/
def octet (bs : Octets) (offset : Nat) : Checked UInt8 :=
  match bs[offset]? with
  | some b => .ok b
  | none => .error .index

/-- The octets from `start` up to `stop`, if they are all there. -/
def get? (bs : Octets) (start stop : Nat) : Option Octets :=
  if start ≤ stop ∧ stop ≤ bs.length then some (bs.slice start (stop - start)) else none

/-- The octets from `start` up to `stop`. -/
def range (bs : Octets) (start stop : Nat) : Checked Octets :=
  match get? bs start stop with
  | some part => .ok part
  | none => .error .range

/-- The octets from an offset on. -/
def rangeFrom (bs : Octets) (start : Nat) : Checked Octets :=
  range bs start bs.length

theorem octet_eq_ok {bs : Octets} {offset : Nat} (inside : offset < bs.length) :
    octet bs offset = .ok (bs.octet offset) := by
  rw [octet, Octets.octet, List.getD_eq_getElem?_getD, List.getElem?_eq_getElem inside]
  rfl

theorem get?_eq_some {bs : Octets} {start stop : Nat} (ordered : start ≤ stop)
    (inside : stop ≤ bs.length) : get? bs start stop = some (bs.slice start (stop - start)) :=
  if_pos ⟨ordered, inside⟩

theorem get?_eq_none {bs : Octets} {start stop : Nat} (beyond : bs.length < stop) :
    get? bs start stop = none :=
  if_neg fun inside => Nat.not_le.mpr beyond inside.2

theorem range_eq_ok {bs : Octets} {start stop : Nat} (ordered : start ≤ stop)
    (inside : stop ≤ bs.length) : range bs start stop = .ok (bs.slice start (stop - start)) := by
  rw [range, get?_eq_some ordered inside]

theorem slice_rest (bs : Octets) (start : Nat) :
    bs.slice start (bs.length - start) = bs.drop start := by
  rw [Octets.slice, ← List.length_drop, List.take_length]

theorem rangeFrom_eq_ok {bs : Octets} {start : Nat} (inside : start ≤ bs.length) :
    rangeFrom bs start = .ok (bs.drop start) := by
  rw [rangeFrom, range_eq_ok inside (Nat.le_refl _), slice_rest]

/-- Beyond the end there is nothing from an offset on. -/
theorem getD_get?_rest (bs : Octets) (start : Nat) :
    (get? bs start bs.length).getD [] = bs.drop start := by
  by_cases inside : start ≤ bs.length
  · rw [get?_eq_some inside (Nat.le_refl _), slice_rest]
    rfl
  · have nothing : get? bs start bs.length = none := if_neg fun ordered => inside ordered.1
    rw [nothing, List.drop_eq_nil_of_le (Nat.le_of_not_le inside)]
    rfl

/-! ## Numbers -/

/-- The number that exactly so many octets spell. -/
def number (width : Nat) (bs : Octets) : Checked Nat :=
  if bs.length = width then .ok bs.number else .error .width

/-- The 16-bit number that two octets spell. -/
def u16 (bs : Octets) : Checked UInt16 := do
  return UInt16.ofNat (← number 2 bs)

/-- The 24-bit number that three octets spell, in a 32-bit word. -/
def u24 (bs : Octets) : Checked UInt32 := do
  return UInt32.ofNat (← number 3 bs)

/-- The 32-bit number that four octets spell. -/
def u32 (bs : Octets) : Checked UInt32 := do
  return UInt32.ofNat (← number 4 bs)

theorem number_slice {bs : Octets} {start width : Nat} (inside : start + width ≤ bs.length) :
    number width (bs.slice start width) = .ok (bs.slice start width).number := by
  apply if_pos
  rw [Octets.slice, List.length_take, List.length_drop]
  omega

theorem u16_slice {bs : Octets} {start : Nat} (inside : start + 2 ≤ bs.length) :
    u16 (bs.slice start 2) = .ok (bs.u16 start) := by
  rw [u16, number_slice inside]
  rfl

theorem u24_slice {bs : Octets} {start : Nat} (inside : start + 3 ≤ bs.length) :
    u24 (bs.slice start 3) = .ok (bs.u24 start) := by
  rw [u24, number_slice inside]
  rfl

theorem u32_slice {bs : Octets} {start : Nat} (inside : start + 4 ≤ bs.length) :
    u32 (bs.slice start 4) = .ok (bs.u32 start) := by
  rw [u32, number_slice inside]
  rfl

end Checked

end Lldpdu
