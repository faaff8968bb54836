import Lldpdu.Proofs.Checked.Reader
import Lldpdu.Proofs.Octets

/-!
# Operations on a reader

An operation asks for so many octets and hands something out for them if they are left, or is
refused and leaves the reader as it was.  Which octets an operation consumed can be read off what it
hands out, and over any sequence of operations nothing is consumed twice or passed over: the octets
consumed and the octets left make up the buffer.

The operations are also carried out on a reader in place, where a fault leaves behind the reader as
it is at that moment.  Inside the buffer no sum or difference of positions is out of the range of
words, and a refusal leaves the reader as it was there, too.
-/

namespace Lldpdu

open Checked (Inside)

namespace Reader

/-! ## Single operations -/

/-- The number of octets that an operation asks for. -/
def Op.size : Op → Nat
  | .take count => count.toNat
  | .skip count => count.toNat
  | .u8 => 1
  | .u16 => 2
  | .u32 => 4

/-- What an operation hands out for the octets that it consumes. -/
def Op.yield : Op → Octets → Yield
  | .take _, bs => .octets bs
  | .skip _, _ => .skipped
  | .u8, bs => .u8 (UInt8.ofNat bs.number)
  | .u16, bs => .u16 (UInt16.ofNat bs.number)
  | .u32, bs => .u32 (UInt32.ofNat bs.number)

/-- The octets that something handed out stands for: a slice is itself, and a number is spelt by its
octets.  Those that were skipped are not in it and have to be given. -/
def Yield.octetsOf (skipped : Octets) : Yield → Octets
  | .octets bs => bs
  | .skipped => skipped
  | .u8 value => Octets.ofNumber 1 value.toNat
  | .u16 value => Octets.ofNumber 2 value.toNat
  | .u32 value => Octets.ofNumber 4 value.toNat

/-- The reader after an operation.  One that is refused leaves it as it was. -/
def after (r : Reader) (op : Op) : Reader :=
  match r.step? op with
  | some (_, r') => r'
  | none => r

/-- The octets that an operation consumes, as told by what it hands out; none if it is refused. -/
def consumedBy (r : Reader) (op : Op) : Octets :=
  match r.step? op with
  | some (yield, r') => yield.octetsOf (r.buffer.slice r.position (r'.position - r.position))
  | none => []

theorem number?_eq_some {r : Reader} (width : Nat) (left : width ≤ r.remaining) :
    r.number? width = some (Octets.number (r.rest.take width), r.moved width) :=
  if_pos left

theorem number?_eq_none {r : Reader} (width : Nat) (short : r.remaining < width) :
    r.number? width = none :=
  if_neg (Nat.not_le.mpr short)

/-- If the octets are left, an operation hands out what it makes of them and consumes them. -/
theorem step?_eq_some {r : Reader} (inside : Inside r) {op : Op} (left : op.size ≤ r.remaining) :
    r.step? op = some (op.yield (r.rest.take op.size), r.moved op.size) := by
  cases op with
  | take count =>
      rw [step?, Checked.take?_eq_some inside left]
      rfl
  | skip count =>
      have skips : r.skip? count = some (r.moved count.toNat) := if_pos left
      rw [step?, skips]
      rfl
  | u8 =>
      rw [step?, u8?, number?_eq_some 1 left]
      rfl
  | u16 =>
      rw [step?, u16?, number?_eq_some 2 left]
      rfl
  | u32 =>
      rw [step?, u32?, number?_eq_some 4 left]
      rfl

/-- If they are not, it is refused. -/
theorem step?_eq_none {r : Reader} (inside : Inside r) {op : Op} (short : r.remaining < op.size) :
    r.step? op = none := by
  cases op with
  | take count => rw [step?, Checked.take?_eq_none inside short, Option.map_none]
  | skip count =>
      have refuses : r.skip? count = none := if_neg (Nat.not_le.mpr short)
      rw [step?, refuses, Option.map_none]
  | u8 => rw [step?, u8?, number?_eq_none 1 short, Option.map_none, Option.map_none]
  | u16 => rw [step?, u16?, number?_eq_none 2 short, Option.map_none, Option.map_none]
  | u32 => rw [step?, u32?, number?_eq_none 4 short, Option.map_none, Option.map_none]

theorem isSome_step?_iff {r : Reader} (inside : Inside r) (op : Op) :
    (r.step? op).isSome = true ↔ op.size ≤ r.remaining := by
  by_cases left : op.size ≤ r.remaining
  · simp [step?_eq_some inside left, left]
  · simp [step?_eq_none inside (Nat.not_le.mp left), left]

theorem after_of_refused {r : Reader} {op : Op} (refused : r.step? op = none) : r.after op = r := by
  rw [after, refused]

/-- A word that holds the number of some octets is spelt by them. -/
theorem ofNumber_of_toNat_eq {bs : Octets} {width n : Nat} (length : bs.length = width)
    (fits : n = bs.number % 256 ^ width) : Octets.ofNumber width n = bs := by
  subst length
  rw [fits, Nat.mod_eq_of_lt (Octets.number_lt bs), Octets.ofNumber_number]

/-- What is handed out for octets stands for them. -/
theorem octetsOf_yield {op : Op} {bs : Octets} (length : bs.length = op.size) :
    (op.yield bs).octetsOf bs = bs := by
  cases op with
  | take count => rfl
  | skip count => rfl
  | u8 => exact ofNumber_of_toNat_eq length UInt8.toNat_ofNat'
  | u16 => exact ofNumber_of_toNat_eq length UInt16.toNat_ofNat'
  | u32 => exact ofNumber_of_toNat_eq length UInt32.toNat_ofNat'

theorem inside_after {r : Reader} (inside : Inside r) (op : Op) : Inside (r.after op) := by
  by_cases left : op.size ≤ r.remaining
  · rw [after, step?_eq_some inside left]
    exact inside.moved left
  · rwa [after_of_refused (step?_eq_none inside (Nat.not_le.mp left))]

theorem buffer_after {r : Reader} (inside : Inside r) (op : Op) : (r.after op).buffer = r.buffer := by
  by_cases left : op.size ≤ r.remaining
  · rw [after, step?_eq_some inside left]
    rfl
  · rw [after_of_refused (step?_eq_none inside (Nat.not_le.mp left))]

/-- The octets that an operation consumes are the first of those left before it, and those left
after it are the others. -/
theorem consumedBy_append_rest {r : Reader} (inside : Inside r) (op : Op) :
    r.consumedBy op ++ (r.after op).rest = r.rest := by
  by_cases left : op.size ≤ r.remaining
  · have length : (r.rest.take op.size).length = op.size := by
      rw [List.length_take, Checked.length_rest, Nat.min_eq_left left]
    have skipped : r.buffer.slice r.position ((r.moved op.size).position - r.position) =
        r.rest.take op.size := by
      rw [moved, Nat.add_sub_cancel_left]
      rfl
    rw [consumedBy, after, step?_eq_some inside left]
    change Yield.octetsOf _ (op.yield (r.rest.take op.size)) ++ (r.moved op.size).rest = r.rest
    rw [skipped, octetsOf_yield length, Checked.rest_moved, List.take_append_drop]
  · have refused := step?_eq_none inside (Nat.not_le.mp left)
    rw [consumedBy, after, refused]
    rfl

/-! ## Sequences of operations -/

/-- The reader after some operations. -/
def afterAll (r : Reader) (ops : List Op) : Reader :=
  ops.foldl after r

/-- The octets that some operations consume, in order. -/
def consumedByAll (r : Reader) : List Op → Octets
  | [] => []
  | op :: ops => r.consumedBy op ++ (r.after op).consumedByAll ops

theorem inside_afterAll {r : Reader} (inside : Inside r) (ops : List Op) :
    Inside (r.afterAll ops) := by
  induction ops generalizing r with
  | nil => exact inside
  | cons op ops ih => exact ih (inside_after inside op)

theorem buffer_afterAll {r : Reader} (inside : Inside r) (ops : List Op) :
    (r.afterAll ops).buffer = r.buffer := by
  induction ops generalizing r with
  | nil => rfl
  | cons op ops ih => exact (ih (inside_after inside op)).trans (buffer_after inside op)

/-- Nothing is consumed twice, and nothing is passed over. -/
theorem consumedByAll_append_rest {r : Reader} (inside : Inside r) (ops : List Op) :
    r.consumedByAll ops ++ (r.afterAll ops).rest = r.rest := by
  induction ops generalizing r with
  | nil => rfl
  | cons op ops ih =>
      calc
        r.consumedBy op ++ (r.after op).consumedByAll ops ++ ((r.after op).afterAll ops).rest
        _ = r.consumedBy op ++
            ((r.after op).consumedByAll ops ++ ((r.after op).afterAll ops).rest) :=
          List.append_assoc _ _ _
        _ = r.consumedBy op ++ (r.after op).rest := by rw [ih (inside_after inside op)]
        _ = r.rest := consumedBy_append_rest inside op

end Reader

/-! ## Operations in place -/

namespace Checked

open Reader (Op Yield)

/-- Carry out an operation. -/
def perform : Op → InPlace (Option Yield)
  | .take count => do return (← takeInPlace count).map .octets
  | .skip count => do
      advanceInPlace count.toNat
      return some .skipped
  | .u8 => do return some (.u8 (UInt8.ofNat (← numberInPlace 1)))
  | .u16 => do return some (.u16 (UInt16.ofNat (← numberInPlace 2)))
  | .u32 => do return some (.u32 (UInt32.ofNat (← numberInPlace 4)))

/-- What comes of an operation that is refused: nothing is handed out for a slice, and everything
else faults.  The reader is as it was. -/
def refusal (r : Reader) : Op → EStateM.Result Fault Reader (Option Yield)
  | .take _ => .ok none r
  | _ => .error .assertion r

/-- What comes of an operation. -/
def answer (r : Reader) (op : Op) : EStateM.Result Fault Reader (Option Yield) :=
  match r.step? op with
  | some (yield, r') => .ok (some yield) r'
  | none => refusal r op

/-- The reader that is left behind, by a fault or without one. -/
def leftBehind {α : Type} : EStateM.Result Fault Reader α → Reader
  | .ok _ r => r
  | .error _ r => r

/-- In place an operation hands out what it does otherwise, and it leaves the reader where it was if
it is refused. -/
theorem perform_eq_answer {r : Reader} (inside : Inside r) (op : Op) :
    (perform op).run r = answer r op := by
  by_cases left : op.size ≤ r.remaining
  · rw [answer, Reader.step?_eq_some inside left]
    cases op with
    | take count =>
        have taken : (takeInPlace count).run r = _ := takeInPlace_eq count r
        rw [take?_eq_some inside left] at taken
        exact run_bind_of_ok taken _
    | skip count => exact run_bind_of_ok (advanceInPlace_of_le inside left) _
    | u8 => exact run_bind_of_ok (numberInPlace_of_le inside left) _
    | u16 => exact run_bind_of_ok (numberInPlace_of_le inside left) _
    | u32 => exact run_bind_of_ok (numberInPlace_of_le inside left) _
  · have short := Nat.not_le.mp left
    rw [answer, Reader.step?_eq_none inside short]
    cases op with
    | take count =>
        have taken : (takeInPlace count).run r = _ := takeInPlace_eq count r
        rw [take?_eq_none inside short] at taken
        exact run_bind_of_ok taken _
    | skip count => exact run_bind_of_error (advanceInPlace_of_lt inside short) _
    | u8 => exact run_bind_of_error (numberInPlace_of_lt inside short) _
    | u16 => exact run_bind_of_error (numberInPlace_of_lt inside short) _
    | u32 => exact run_bind_of_error (numberInPlace_of_lt inside short) _

theorem leftBehind_answer (r : Reader) (op : Op) : leftBehind (answer r op) = r.after op := by
  rw [answer, Reader.after]
  cases r.step? op with
  | none => cases op <;> rfl
  | some found => rfl

/-- The reader that some operations in place leave behind, whichever of them fault. -/
def leftBehindAll (ops : List Op) (r : Reader) : Reader :=
  ops.foldl (fun r op => leftBehind ((perform op).run r)) r

theorem leftBehindAll_eq {r : Reader} (inside : Inside r) (ops : List Op) :
    leftBehindAll ops r = r.afterAll ops := by
  induction ops generalizing r with
  | nil => rfl
  | cons op ops ih =>
      have first : leftBehind ((perform op).run r) = r.after op := by
        rw [perform_eq_answer inside, leftBehind_answer]
      calc
        leftBehindAll (op :: ops) r = leftBehindAll ops (r.after op) :=
          congrArg (leftBehindAll ops) first
        _ = (r.after op).afterAll ops := ih (Reader.inside_after inside op)

end Checked

/-! ## The operations on a buffer -/

namespace Reader

/-- How a reader that came from the start of a buffer by some operations accounts for the buffer. -/
structure Accounts (buffer : Octets) (ops : List Op) (r : Reader) : Prop where
  buffer_eq : r.buffer = buffer
  position_le : r.position ≤ buffer.length
  remaining_eq : Checked.remaining r = .ok (buffer.length - r.position)
  /-- Both views of the octets ahead are the same range of the buffer. -/
  ahead_eq : Checked.chunk r = .ok r.rest ∧ r.rest = buffer.drop r.position
  /-- The octets consumed and the octets ahead make up the buffer. -/
  whole : (ofOctets buffer).consumedByAll ops ++ r.rest = buffer
  isSome_iff : ∀ op, (r.step? op).isSome = true ↔ op.size ≤ buffer.length - r.position
  inPlace : Checked.leftBehindAll ops (ofOctets buffer) = r
  /-- An operation in place leaves the reader where it was if it is refused. -/
  answered : ∀ op, (Checked.perform op).run r = Checked.answer r op
  refused : ∀ op, buffer.length - r.position < op.size →
    Checked.leftBehind ((Checked.perform op).run r) = r

/-- Whatever operations are asked for, with whatever counts, the reader stays in the buffer and no
octet is lost or handed out twice: what the operations that were not refused consumed and what is
still ahead make up the buffer.  An operation is refused exactly if it asks for more than is left,
and then nothing changes. -/
theorem operations_account {buffer : Octets} (small : buffer.length < 2 ^ 63) (ops : List Op) :
    Accounts buffer ops ((ofOctets buffer).afterAll ops) := by
  have start : Inside (ofOctets buffer) := ⟨Nat.zero_le _, small⟩
  have inside : Inside ((ofOctets buffer).afterAll ops) := inside_afterAll start ops
  have buffer_eq : ((ofOctets buffer).afterAll ops).buffer = buffer := buffer_afterAll start ops
  have remaining : ((ofOctets buffer).afterAll ops).remaining =
      buffer.length - ((ofOctets buffer).afterAll ops).position := by
    rw [Reader.remaining, buffer_eq]
  constructor
  case buffer_eq => exact buffer_eq
  case position_le =>
    have position_le := inside.position_le
    rwa [buffer_eq] at position_le
  case remaining_eq => rw [Checked.remaining_eq_ok inside, remaining]
  case ahead_eq =>
    refine ⟨Checked.chunk_eq_ok inside, ?_⟩
    rw [rest, buffer_eq]
  case whole => exact consumedByAll_append_rest start ops
  case isSome_iff =>
    intro op
    rw [← remaining]
    exact isSome_step?_iff inside op
  case inPlace => exact Checked.leftBehindAll_eq start ops
  case answered => exact Checked.perform_eq_answer inside
  case refused =>
    intro op short
    rw [← remaining] at short
    rw [Checked.perform_eq_answer inside, Checked.leftBehind_answer,
      after_of_refused (step?_eq_none inside short)]

/-- Two octets are taken, four more and the largest count there is are refused, a number is read from
the next two octets, and one of four octets is refused. -/
theorem operations_account_for_five_octets :
    let buffer : Octets := [1, 2, 3, 4, 5]
    let ops : List Op := [.take 2, .take 4, .skip 18446744073709551615, .u16, .u32]
    let r := (ofOctets buffer).afterAll ops
    buffer.length < 2 ^ 63 ∧ r.position = 4 ∧ r.rest = [5] ∧
      (ofOctets buffer).consumedByAll ops = [1, 2, 3, 4] ∧
      (ofOctets buffer).consumedByAll ops ++ r.rest = buffer ∧
      Checked.remaining r = .ok 1 ∧
      (r.step? .u8).isSome = true ∧ (r.step? (.take 18446744073709551615)).isSome = false ∧
      Checked.leftBehind ((Checked.perform (.skip 18446744073709551615)).run r) = r := by
  intro buffer ops r
  have small : buffer.length < 2 ^ 63 := by decide
  have accounts : Accounts buffer ops r := operations_account small ops
  have position : r.position = 4 := by decide
  have remaining : Checked.remaining r = .ok 1 := by
    rw [accounts.remaining_eq, position]
    rfl
  have left : 1 ≤ buffer.length - r.position := by
    rw [position]
    decide
  have short : buffer.length - r.position < (18446744073709551615 : UInt64).toNat := by
    rw [position]
    decide
  exact ⟨small, position, by decide, by decide, accounts.whole, remaining,
    (accounts.isSome_iff .u8).mpr left, by decide,
    accounts.refused (.skip 18446744073709551615) short⟩

end Reader

end Lldpdu
