import Lldpdu.Proofs.Tlv.Calls

/-!
# Walks from the middle of a buffer

A walk counts the octets that it has consumed, and its items depend on that count in one place
only, the offset of a TLV that is cut off.  So a walk that is under way goes on as a walk from the
start of the octets ahead would, with the count and that offset shifted.
-/

namespace Lldpdu.Walk

/-- The item with its offset, if it has one, moved up. -/
def shiftItem (count : Nat) : Except Truncation Tlv → Except Truncation Tlv
  | .ok t => .ok t
  | .error cause => .error { cause with offset := cause.offset + count }

/-- The walk with more octets counted as consumed. -/
def shift (w : Walk) (count : Nat) : Walk :=
  { w with consumed := w.consumed + count }

/-! ## Calls -/

theorem advance_shift (w : Walk) (shifted count : Nat) (status : Status) :
    (w.shift shifted).advance count status = (w.advance count status).shift shifted := by
  rw [advance, shift, Nat.add_right_comm]
  rfl

theorem item_shift (w : Walk) (count : Nat) (kind : TlvType) (length : Nat) (body : Octets) :
    (w.shift count).item kind length body =
      (w.item kind length body).map (shiftItem count) (·.shift count) := by
  rw [item, item, advance_shift, advance_shift, advance_shift]
  by_cases fits : length ≤ body.length
  · rw [if_pos fits, if_pos fits]
    rfl
  rw [if_neg fits, if_neg fits]
  by_cases isEnd : kind = .endOfPdu
  · rw [if_pos isEnd, if_pos isEnd]
    rfl
  · rw [if_neg isEnd, if_neg isEnd]
    rfl

theorem next?_shift (w : Walk) (count : Nat) :
    (w.shift count).next? = w.next?.map (Prod.map (shiftItem count) (·.shift count)) := by
  rcases w with ⟨consumed, rest, status⟩
  cases status with
  | running =>
      match rest with
      | [] => rfl
      | [octet] => rfl
      | high :: low :: body =>
          exact congrArg some (item_shift (underway consumed (high :: low :: body)) count _ _ body)
  | ended => rfl
  | cut => rfl

theorem past_shift (w : Walk) (count : Nat) : (w.shift count).past = w.past.shift count := by
  rw [past, past, next?_shift]
  cases w.next? <;> rfl

theorem after_shift (w : Walk) (count n : Nat) :
    (w.shift count).after n = (w.after n).shift count := by
  induction n generalizing w with
  | zero => rfl
  | succ n ih => rw [after, past_shift, ih, after]

theorem handedOut_shift (w : Walk) (count n : Nat) :
    (w.shift count).handedOut n = (w.handedOut n).map (shiftItem count) := by
  rw [handedOut, after_shift, next?_shift, handedOut, Option.map_map, Option.map_map]
  rfl

theorem items_shift (w : Walk) (count : Nat) :
    (w.shift count).items = w.items.map (shiftItem count) := by
  apply List.ext_getElem?
  intro n
  rw [List.getElem?_map, ← handedOut_eq_getElem?, ← handedOut_eq_getElem?, handedOut_shift]

/-! ## Buffers -/

/-- A walk over a buffer that is under way is the one from the start of the octets ahead, shifted
by the octets consumed. -/
theorem Tracks.eq_shift {buffer : Octets} {w : Walk} (tracks : Tracks buffer w)
    (running : w.status = .running) :
    w = (ofOctets (buffer.drop w.consumed)).shift w.consumed := by
  rcases w with ⟨consumed, rest, status⟩
  obtain rfl : status = .running := running
  obtain rfl : rest = buffer.drop consumed := tracks.rest_eq
  rw [shift, ofOctets, Nat.zero_add]

theorem status_eq_running {w : Walk} (unseen : w.endSeen = false) (whole : w.failed = false) :
    w.status = .running := by
  rcases w with ⟨consumed, rest, status⟩
  cases status with
  | running => rfl
  | ended => contradiction
  | cut => contradiction

/-- Behind octets over which a walk runs out the walk goes on with what follows them. -/
theorem items_append_of_plain {front : Octets}
    (plain : ∀ x ∈ (ofOctets front).items, ∃ t, x = .ok t ∧ t.kind ≠ .endOfPdu) (behind : Octets) :
    (ofOctets front).stop.consumed = front.length ∧
      (ofOctets (front ++ behind)).items =
        (ofOctets front).items ++ (ofOctets behind).items.map (shiftItem front.length) := by
  obtain ⟨ts, wellFormed, ⟨residue, written⟩, ending⟩ := exists_ending front
  rcases ending with out | ⟨high, low, body, -, -, items, -⟩ | ⟨tail, -, -, -, items, -⟩
  case inl =>
    have whole := out.whole
    have nothing : residue = [] := by
      rw [← written, List.length_append] at whole
      exact List.eq_nil_of_length_eq_zero (by omega)
    have encoded : Tlv.encodeAll ts = front := by rw [← written, nothing, List.append_nil]
    refine ⟨out.consumed, ?_⟩
    rw [out.items, ofOctets_eq_underway, ← encoded, items_underway_encodeAll_append wellFormed,
      ← items_shift]
    rfl
  case inr.inl =>
    obtain ⟨t, isOk, other⟩ := plain (.ok (Tlv.atEnd high low body)) (by simp [items])
    obtain rfl : Tlv.atEnd high low body = t := Except.ok.inj isOk
    exact absurd rfl other
  case inr.inr =>
    obtain ⟨t, isOk, -⟩ :=
      plain (.error ⟨(Tlv.encodeAll ts).length, Tlv.needed tail, tail.length⟩) (by simp [items])
    contradiction

end Lldpdu.Walk
