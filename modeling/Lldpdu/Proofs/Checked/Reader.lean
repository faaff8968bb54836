import Lldpdu.Octets.Reader
import Lldpdu.Proofs.Checked.Basic

/-!
# Reading a buffer by operations that can fault

A `Reader` is moved by subtractions for the octets left, a range for the octets ahead, and sums for
the position behind what it consumes.  Inside the buffer each of them has a value, and the reader
moves as far as it was asked to.

The operations act on a reader in place.  There a fault leaves behind the reader as it is at that
moment, so that a refusal changes nothing has to be proved.  A walk ends with its first fault, so it
goes by what the operations return.
-/

namespace Lldpdu.Checked

variable {α β : Type}

/-! ## Computations in place -/

/-- A computation on a reader that is changed in place.  A fault leaves behind the reader as it is
at that moment. -/
abbrev InPlace (α : Type) :=
  EStateM Fault Reader α

/-- A computation that only looks at the reader. -/
def evaluate : Checked α → InPlace α
  | .ok a => pure a
  | .error fault => throw fault

/-- What a computation returns, together with the reader that it leaves behind then. -/
def returned (x : InPlace α) (r : Reader) : Checked (α × Reader) :=
  match x.run r with
  | .ok a r' => .ok (a, r')
  | .error fault _ => .error fault

theorem run_get_bind (f : Reader → InPlace α) (r : Reader) : (get >>= f).run r = (f r).run r :=
  rfl

theorem run_evaluate_ok_bind (a : α) (f : α → InPlace β) (r : Reader) :
    (evaluate (.ok a) >>= f).run r = (f a).run r :=
  rfl

theorem run_evaluate_error_bind (fault : Fault) (f : α → InPlace β) (r : Reader) :
    (evaluate (.error fault) >>= f).run r = .error fault r :=
  rfl

/-- Behind a computation that returned the next one goes on. -/
theorem run_bind_of_ok {x : InPlace α} {r r' : Reader} {a : α} (first : x.run r = .ok a r')
    (f : α → InPlace β) : (x >>= f).run r = (f a).run r' := by
  change EStateM.bind x f r = _
  change x r = _ at first
  rw [EStateM.bind, first]
  rfl

/-- Behind a computation that faulted nothing goes on. -/
theorem run_bind_of_error {x : InPlace α} {r r' : Reader} {fault : Fault}
    (faulted : x.run r = .error fault r') (f : α → InPlace β) :
    (x >>= f).run r = .error fault r' := by
  change EStateM.bind x f r = _
  change x r = _ at faulted
  rw [EStateM.bind, faulted]

/-- A sequence that returns something has first steps that do. -/
theorem exists_of_run_bind {x : InPlace α} {f : α → InPlace β} {r r'' : Reader} {b : β}
    (h : (x >>= f).run r = .ok b r'') : ∃ a r', x.run r = .ok a r' ∧ (f a).run r' = .ok b r'' := by
  cases first : x.run r with
  | ok a r' => exact ⟨a, r', rfl, (run_bind_of_ok first f).symm.trans h⟩
  | error fault r' => exact absurd ((run_bind_of_error first f).symm.trans h) nofun

theorem exists_of_run_evaluate_bind {x : Checked α} {f : α → InPlace β} {r r' : Reader} {b : β}
    (h : (evaluate x >>= f).run r = .ok b r') : ∃ a, x = .ok a ∧ (f a).run r = .ok b r' := by
  cases x with
  | ok a => exact ⟨a, rfl, h⟩
  | error fault => exact absurd h nofun

theorem returned_eq_ok_iff {x : InPlace α} {r r' : Reader} {a : α} :
    returned x r = .ok (a, r') ↔ x.run r = .ok a r' := by
  rw [returned]
  cases x.run r with
  | ok b r'' => simp
  | error fault r'' => simp

/-! ## Operations -/

/-- The number of octets left. -/
def remaining (r : Reader) : Checked Nat :=
  subWord r.buffer.length r.position

/-- The octets left. -/
def chunk (r : Reader) : Checked Octets :=
  rangeFrom r.buffer r.position

/-- Move on over so many octets, which have to be left. -/
def advanceInPlace (count : Nat) : InPlace Unit := do
  let r ← get
  let left ← evaluate (remaining r)
  evaluate (ensure (count ≤ left))
  let position ← evaluate (addWord r.position count)
  set { r with position }

/-- Read so many octets, which have to be left, as a number. -/
def numberInPlace (width : Nat) : InPlace Nat := do
  let r ← get
  let left ← evaluate (remaining r)
  evaluate (ensure (width ≤ left))
  let ahead ← evaluate (chunk r)
  let octets ← evaluate (range ahead 0 width)
  let value ← evaluate (number width octets)
  advanceInPlace width
  return value

/-- Take a slice of octets, if there are so many. -/
def takeInPlace (count : UInt64) : InPlace (Option Octets) := do
  let r ← get
  match r.stop? count with
  | none => return none
  | some stop =>
      match get? r.buffer r.position stop with
      | none => return none
      | some taken =>
          let position ← evaluate (addWord r.position count.toNat)
          set { r with position }
          return some taken

/-- The next two octets as a number, and the reader past them.  They have to be left. -/
def getU16 (r : Reader) : Checked (UInt16 × Reader) := do
  let (value, r') ← returned (numberInPlace 2) r
  return (UInt16.ofNat value, r')

/-- The next octets, if there are so many, and the reader past them. -/
def takeSlice (r : Reader) (count : UInt64) : Checked (Option (Octets × Reader)) := do
  let (taken, r') ← returned (takeInPlace count) r
  return taken.map fun bs => (bs, r')

/-! ## Inside the buffer -/

/-- The position is in the buffer, and the buffer is not as long as words go. -/
structure Inside (r : Reader) : Prop where
  position_le : r.position ≤ r.buffer.length
  length_lt : r.buffer.length < 2 ^ 63

theorem length_rest (r : Reader) : r.rest.length = r.remaining :=
  List.length_drop

theorem rest_moved (r : Reader) (count : Nat) : (r.moved count).rest = r.rest.drop count := by
  rw [Reader.rest, Reader.rest, List.drop_drop]
  rfl

theorem Inside.moved {r : Reader} (inside : Inside r) {count : Nat} (left : count ≤ r.remaining) :
    Inside (r.moved count) := by
  have position_le := inside.position_le
  rw [Reader.remaining] at left
  refine ⟨?_, inside.length_lt⟩
  change r.position + count ≤ r.buffer.length
  omega

/-- A position behind octets that are left is a word. -/
theorem Inside.add_lt {r : Reader} (inside : Inside r) {count : Nat} (left : count ≤ r.remaining) :
    r.position + count < 2 ^ 64 := by
  have position_le := (inside.moved left).position_le
  have length_lt := inside.length_lt
  change r.position + count ≤ r.buffer.length at position_le
  omega

theorem remaining_eq_ok {r : Reader} (inside : Inside r) : remaining r = .ok r.remaining :=
  subWord_eq_ok inside.position_le

theorem chunk_eq_ok {r : Reader} (inside : Inside r) : chunk r = .ok r.rest :=
  rangeFrom_eq_ok inside.position_le

theorem advanceInPlace_of_le {r : Reader} (inside : Inside r) {count : Nat}
    (left : count ≤ r.remaining) : (advanceInPlace count).run r = .ok () (r.moved count) := by
  rw [advanceInPlace, run_get_bind, remaining_eq_ok inside, run_evaluate_ok_bind, ensure_eq_ok left,
    run_evaluate_ok_bind, addWord_eq_ok (inside.add_lt left), run_evaluate_ok_bind]
  rfl

theorem advanceInPlace_of_lt {r : Reader} (inside : Inside r) {count : Nat}
    (short : r.remaining < count) : (advanceInPlace count).run r = .error .assertion r := by
  rw [advanceInPlace, run_get_bind, remaining_eq_ok inside, run_evaluate_ok_bind,
    ensure_eq_error (Nat.not_le.mpr short), run_evaluate_error_bind]

theorem numberInPlace_of_le {r : Reader} (inside : Inside r) {width : Nat}
    (left : width ≤ r.remaining) :
    (numberInPlace width).run r = .ok (Octets.number (r.rest.take width)) (r.moved width) := by
  have whole : 0 + width ≤ r.rest.length := by rwa [length_rest, Nat.zero_add]
  rw [numberInPlace, run_get_bind, remaining_eq_ok inside, run_evaluate_ok_bind, ensure_eq_ok left,
    run_evaluate_ok_bind, chunk_eq_ok inside, run_evaluate_ok_bind,
    range_eq_ok (Nat.zero_le _) (by omega), run_evaluate_ok_bind, Nat.sub_zero, number_slice whole,
    run_evaluate_ok_bind, run_bind_of_ok (advanceInPlace_of_le inside left)]
  rfl

theorem numberInPlace_of_lt {r : Reader} (inside : Inside r) {width : Nat}
    (short : r.remaining < width) : (numberInPlace width).run r = .error .assertion r := by
  rw [numberInPlace, run_get_bind, remaining_eq_ok inside, run_evaluate_ok_bind,
    ensure_eq_error (Nat.not_le.mpr short), run_evaluate_error_bind]

theorem getU16_eq_ok {r : Reader} (inside : Inside r) {high low : UInt8} {body : Octets}
    (ahead : r.rest = high :: low :: body) :
    getU16 r = .ok (UInt16.ofNat (Octets.number [high, low]), r.moved 2) := by
  have left : 2 ≤ r.remaining := by
    rw [← length_rest, ahead]
    simp
  rw [getU16, returned_eq_ok_iff.mpr (numberInPlace_of_le inside left), ok_bind, ahead]
  rfl

/-- Taking octets does not fault anywhere: where the end of the slice is no word, it is refused
before the position is added to. -/
theorem takeInPlace_eq (count : UInt64) (r : Reader) :
    (takeInPlace count).run r = match r.take? count with
      | some (taken, r') => .ok (some taken) r'
      | none => .ok none r := by
  rw [takeInPlace, run_get_bind, Reader.take?]
  by_cases fits : r.position + count.toNat < UInt64.size
  · have stop : r.stop? count = some (r.position + count.toNat) := if_pos fits
    rw [stop]
    by_cases left : r.position + count.toNat ≤ r.buffer.length
    · simp only [get?_eq_some (Nat.le_add_right _ _) left, addWord_eq_ok fits, run_evaluate_ok_bind,
        Nat.add_sub_cancel_left, if_pos left]
      rfl
    · simp only [get?_eq_none (Nat.not_le.mp left), if_neg left]
      rfl
  · have stop : r.stop? count = none := if_neg fits
    rw [stop]
    rfl

theorem takeSlice_eq_ok (r : Reader) (count : UInt64) :
    takeSlice r count = .ok (r.take? count) := by
  have run := takeInPlace_eq count r
  cases taken : r.take? count with
  | none =>
      rw [taken] at run
      rw [takeSlice, returned_eq_ok_iff.mpr run]
      rfl
  | some found =>
      rw [taken] at run
      rw [takeSlice, returned_eq_ok_iff.mpr run]
      rfl

theorem take?_eq_some {r : Reader} (inside : Inside r) {count : UInt64}
    (left : count.toNat ≤ r.remaining) :
    r.take? count = some (r.rest.take count.toNat, r.moved count.toNat) := by
  have position_le := (inside.moved left).position_le
  have stop : r.stop? count = some (r.position + count.toNat) := if_pos (inside.add_lt left)
  rw [Reader.take?, stop]
  exact if_pos position_le

theorem take?_eq_none {r : Reader} (inside : Inside r) {count : UInt64}
    (short : r.remaining < count.toNat) : r.take? count = none := by
  have position_le := inside.position_le
  rw [Reader.remaining] at short
  rw [Reader.take?]
  cases stop : r.stop? count with
  | none => rfl
  | some stop =>
      rw [Reader.stop?] at stop
      simp only [Option.ite_none_right_eq_some, Option.some.injEq] at stop
      exact if_neg (by omega)

/-! ## Whatever the position -/

/-- A reader that advances consumes what it was asked to. -/
theorem of_advanceInPlace {r r' : Reader} {count : Nat} {u : Unit}
    (h : (advanceInPlace count).run r = .ok u r') : count ≤ r.remaining ∧ r' = r.moved count := by
  rw [advanceInPlace, run_get_bind] at h
  obtain ⟨left, remains, h⟩ := exists_of_run_evaluate_bind h
  obtain ⟨_, enough, h⟩ := exists_of_run_evaluate_bind h
  obtain ⟨position, sum, h⟩ := exists_of_run_evaluate_bind h
  obtain ⟨-, rfl⟩ := subWord_eq_ok_iff.mp remains
  obtain ⟨-, rfl⟩ := addWord_eq_ok_iff.mp sum
  refine ⟨ensure_eq_ok_iff.mp enough, ?_⟩
  cases h
  rfl

/-- A number that is read is consumed. -/
theorem of_numberInPlace {r r' : Reader} {width value : Nat}
    (h : (numberInPlace width).run r = .ok value r') :
    width ≤ r.remaining ∧ r' = r.moved width := by
  rw [numberInPlace, run_get_bind] at h
  obtain ⟨left, -, h⟩ := exists_of_run_evaluate_bind h
  obtain ⟨_, -, h⟩ := exists_of_run_evaluate_bind h
  obtain ⟨ahead, -, h⟩ := exists_of_run_evaluate_bind h
  obtain ⟨octets, -, h⟩ := exists_of_run_evaluate_bind h
  obtain ⟨number, -, h⟩ := exists_of_run_evaluate_bind h
  obtain ⟨_, r₁, advanced, h⟩ := exists_of_run_bind h
  cases h
  exact of_advanceInPlace advanced

/-- A header is consumed. -/
theorem remaining_of_getU16 {r r' : Reader} {n : UInt16} (h : getU16 r = .ok (n, r')) :
    r'.remaining < r.remaining := by
  obtain ⟨⟨value, r''⟩, read, h⟩ := (bind_eq_ok_iff _ _ _).mp h
  obtain ⟨-, rfl⟩ := Prod.mk.inj (Except.ok.inj h)
  obtain ⟨enough, rfl⟩ := of_numberInPlace (returned_eq_ok_iff.mp read)
  have fewer : (r.moved 2).remaining = r.remaining - 2 := Nat.sub_add_eq _ _ _
  omega

theorem reader_of_take? {r r' : Reader} {count : UInt64} {taken : Octets}
    (h : r.take? count = some (taken, r')) : r' = r.moved count.toNat := by
  rw [Reader.take?] at h
  split at h
  · contradiction
  · split at h
    · simp only [Option.some.injEq, Prod.mk.injEq] at h
      exact h.2.symm
    · contradiction

end Lldpdu.Checked
