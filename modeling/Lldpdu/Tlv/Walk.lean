import Lldpdu.Tlv.Basic

/-!
# Walking the TLVs of a buffer

A `Walk` goes through a buffer TLV by TLV.  It ends at the End TLV, at a TLV that the buffer cuts
off, or where the buffer ends between two TLVs.

The End TLV ends the walk whatever length it declares: if fewer octets follow, its value is empty
and only its header is consumed.  Any other TLV has to be there in full.
-/

namespace Lldpdu

/-- A TLV that the buffer cuts off. -/
structure Truncation where
  /-- The offset of its header. -/
  offset : Nat
  /-- The number of octets it needs, header included. -/
  needed : Nat
  /-- The number of octets from its header to the end of the buffer. -/
  remaining : Nat
  deriving DecidableEq, Repr

/-- How far a walk has come. -/
inductive Walk.Status where
  | running
  | ended
  | cut
  deriving DecidableEq, Repr

/-- A walk over the TLVs of a buffer. -/
structure Walk where
  consumed : Nat
  rest : Octets
  status : Walk.Status
  deriving DecidableEq, Repr

namespace Walk

/-- The walk at the start of a buffer. -/
def ofOctets (buffer : Octets) : Walk :=
  { consumed := 0, rest := buffer, status := .running }

/-- Whether the End TLV was met. -/
def endSeen (w : Walk) : Bool :=
  w.status == .ended

/-- The walk with `count` more octets consumed. -/
def advance (w : Walk) (count : Nat) (status : Status) : Walk :=
  { consumed := w.consumed + count, rest := w.rest.drop count, status }

/-- The item at a header of the given type and length, with the value taken from `body`. -/
def item (w : Walk) (kind : TlvType) (length : Nat) (body : Octets) :
    Except Truncation Tlv × Walk :=
  let tlv (value : Octets) : Tlv := { kind, length := UInt16.ofNat length, value }
  let size := Tlv.headerLength + length
  if length ≤ body.length then
    (.ok (tlv (body.take length)), w.advance size (if kind = .endOfPdu then .ended else .running))
  else if kind = .endOfPdu then
    (.ok (tlv []), w.advance Tlv.headerLength .ended)
  else
    (.error ⟨w.consumed, size, w.rest.length⟩, w.advance Tlv.headerLength .cut)

/-- The next item and the walk past it.  There is none once the walk has ended, and then the walk
stays where it is. -/
def next? (w : Walk) : Option (Except Truncation Tlv × Walk) :=
  match w.status, w.rest with
  | .running, high :: low :: body =>
      let word := Octets.number [high, low]
      let kind := ⟨UInt8.ofNat (word / (Tlv.maxLength + 1))⟩
      some (w.item kind (word % (Tlv.maxLength + 1)) body)
  | .running, [_] => some (.error ⟨w.consumed, Tlv.headerLength, 1⟩, w.advance 0 .cut)
  | _, _ => none

/-- A bound on the number of items still to come. -/
def budget (w : Walk) : Nat :=
  match w.status with
  | .running => w.rest.length + 1
  | _ => 0

theorem budget_advance_lt (w : Walk) {count : Nat} (status : Status) (two : 2 ≤ count)
    (rest : 2 ≤ w.rest.length) : (w.advance count status).budget < w.rest.length + 1 := by
  cases status with
  | running =>
      simp only [budget, advance, List.length_drop]
      omega
  | ended => simp [budget, advance]
  | cut => simp [budget, advance]

theorem budget_item_lt (w : Walk) (kind : TlvType) (length : Nat) (body : Octets)
    (running : w.status = .running) (rest : 2 ≤ w.rest.length) :
    (w.item kind length body).2.budget < w.budget := by
  have start : w.budget = w.rest.length + 1 := by simp [budget, running]
  rw [start, item]
  split
  · exact w.budget_advance_lt _ (by simp [Tlv.headerLength]) rest
  · split
    · exact w.budget_advance_lt _ (by simp [Tlv.headerLength]) rest
    · exact w.budget_advance_lt _ (by simp [Tlv.headerLength]) rest

/-- Every item costs: no buffer keeps a walk going for ever. -/
theorem budget_next?_lt {w w' : Walk} {x : Except Truncation Tlv}
    (h : w.next? = some (x, w')) : w'.budget < w.budget := by
  unfold next? at h
  split at h
  next high low body running rest =>
      simp only [Option.some.injEq] at h
      have := budget_item_lt w ⟨UInt8.ofNat (Octets.number [high, low] / (Tlv.maxLength + 1))⟩
        (Octets.number [high, low] % (Tlv.maxLength + 1)) body running (by simp [rest])
      rwa [h] at this
  next running rest =>
      simp only [Option.some.injEq, Prod.mk.injEq] at h
      obtain ⟨_, rfl⟩ := h
      simp [budget, advance, running]
  · contradiction

/-- The items still to come. -/
def items (w : Walk) : List (Except Truncation Tlv) :=
  match _next : w.next? with
  | none => []
  | some (x, w') => x :: w'.items
termination_by w.budget
decreasing_by exact budget_next?_lt _next

theorem items_of_next?_eq_none {w : Walk} (h : w.next? = none) : w.items = [] := by
  rw [items]
  split <;> simp_all

theorem items_of_next?_eq_some {w w' : Walk} {x : Except Truncation Tlv}
    (h : w.next? = some (x, w')) : w.items = x :: w'.items := by
  rw [items]
  split <;> simp_all

end Walk

/-- The TLVs of a buffer up to and with the End TLV, unless one of them is cut off. -/
def Tlv.ofOctets (buffer : Octets) : Except Truncation (List Tlv) :=
  (Walk.ofOctets buffer).items.mapM id

end Lldpdu
