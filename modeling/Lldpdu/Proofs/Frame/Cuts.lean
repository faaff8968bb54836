import Lldpdu.Extension.Report
import Lldpdu.Proofs.Frame.Refusal
import Mathlib.Order.Bounds.Defs

/-!
# Frames with their end replaced or cut off

Of a buffer that holds a frame, everything up to and with the two octets of the End header is
needed, and nothing behind it matters.  Whatever is put there in its place, the frame is the same,
whether or not the length that the End TLV declares is still satisfied.

A buffer that is cut off earlier holds no frame.  Cut between two TLVs, it holds complete TLVs
without an End TLV, so a mandatory type is missing.  Cut inside a TLV, it ends with a part of it,
and that is reported as a truncation.
-/

namespace Lldpdu

namespace Tlv

/-! ## Boundaries -/

/-- An offset at which one of the TLVs begins, or at which the last of them ends. -/
def IsBoundary (ts : List Tlv) (offset : Nat) : Prop :=
  ∃ front behind, ts = front ++ behind ∧ offset = (encodeAll front).length

/-- The length that the header at an offset declares. -/
def declaredLength (buffer : Octets) (offset : Nat) : Nat :=
  headerSize (buffer.octet offset) (buffer.octet (offset + 1))

theorem isBoundary_length_encodeAll (front behind : List Tlv) :
    IsBoundary (front ++ behind) (encodeAll front).length :=
  ⟨front, behind, rfl, rfl⟩

/-- An offset in written TLVs is a boundary, or it is inside one of the TLVs. -/
theorem isBoundary_or_inside (ts : List Tlv) {k : Nat} (within : k ≤ (encodeAll ts).length) :
    IsBoundary ts k ∨ ∃ front t behind, ts = front ++ t :: behind ∧
      (encodeAll front).length < k ∧ k < (encodeAll front).length + t.encode.length := by
  induction ts generalizing k with
  | nil =>
      rw [encodeAll_nil, List.length_nil, Nat.le_zero] at within
      exact .inl ⟨[], [], rfl, within⟩
  | cons t ts ih =>
      rw [encodeAll_cons, List.length_append] at within
      by_cases first : k < t.encode.length
      · rcases Nat.eq_zero_or_pos k with rfl | positive
        · exact .inl ⟨[], t :: ts, rfl, rfl⟩
        · exact .inr ⟨[], t, ts, rfl, positive, by simpa using first⟩
      · rcases ih (k := k - t.encode.length) (by omega) with
          ⟨front, behind, rfl, offset⟩ | ⟨front, u, behind, rfl, above, below⟩
        · refine .inl ⟨t :: front, behind, rfl, ?_⟩
          rw [encodeAll_cons, List.length_append]
          omega
        · refine .inr ⟨t :: front, u, behind, rfl, ?_, ?_⟩
          · rw [encodeAll_cons, List.length_append]
            omega
          · rw [encodeAll_cons, List.length_append]
            omega

/-- Between the ends of a TLV there is no boundary. -/
theorem IsBoundary.le_or_le {front behind : List Tlv} {t : Tlv} {offset : Nat}
    (boundary : IsBoundary (front ++ t :: behind) offset) :
    offset ≤ (encodeAll front).length ∨
      (encodeAll front).length + t.encode.length ≤ offset := by
  rcases boundary with ⟨front', behind', split, rfl⟩
  rcases List.append_eq_append_iff.mp split with ⟨more, rfl, tail⟩ | ⟨more, rfl, -⟩
  · cases more with
    | nil => exact .inl (by simp)
    | cons u more =>
        rw [List.cons_append, List.cons.injEq] at tail
        rcases tail with ⟨rfl, -⟩
        right
        simp only [encodeAll_append, encodeAll_cons, List.length_append]
        omega
  · left
    simp

/-- The last boundary in front of an offset inside a TLV is where that TLV begins. -/
theorem isGreatest_boundary {front behind : List Tlv} {t : Tlv} {k : Nat}
    (above : (encodeAll front).length < k)
    (below : k < (encodeAll front).length + t.encode.length) :
    IsGreatest {offset | IsBoundary (front ++ t :: behind) offset ∧ offset < k}
      (encodeAll front).length := by
  refine ⟨⟨isBoundary_length_encodeAll front _, above⟩, ?_⟩
  rintro offset ⟨boundary, before⟩
  rcases boundary.le_or_le with least | most
  · exact least
  · omega

/-! ## The first octets of a TLV -/

/-- A TLV in front of the End TLV starts with its header. -/
theorem WellFormed.encode_eq {t : Tlv} (wellFormed : t.WellFormed) :
    ∃ high low, t.encode = high :: low :: t.value ∧ headerKind high low = t.kind ∧
      headerSize high low = t.value.length := by
  obtain ⟨high, low, written, kind, size⟩ :=
    exists_header_eq wellFormed.sevenBits wellFormed.nineBits
  exact ⟨high, low, by rw [encode, written]; rfl, kind, size⟩

/-- The first octets of a TLV, but not all of them, are a cut TLV. -/
theorem cut_take {high low : UInt8} (other : headerKind high low ≠ .endOfPdu) (body : Octets)
    {count : Nat} (some : 0 < count) (part : count < 2 + headerSize high low) :
    Cut ((high :: low :: body).take count) := by
  match count, some with
  | 1, _ => exact .header high
  | count + 2, _ =>
      apply Cut.value other
      rw [List.length_take]
      omega

theorem needed_take (high low : UInt8) (body : Octets) {count : Nat} (some : 0 < count) :
    needed ((high :: low :: body).take count) =
      if count = 1 then 2 else 2 + headerSize high low := by
  match count, some with
  | 1, _ => rfl
  | count + 2, _ => rfl

theorem declaredLength_append (front : Octets) (high low : UInt8) (body : Octets) :
    declaredLength (front ++ high :: low :: body) front.length = headerSize high low := by
  have second : (front ++ high :: low :: body).octet (front.length + 1) = low := by
    rw [List.append_cons]
    exact Octets.octet_append (front ++ [high]) low body (by simp)
  rw [declaredLength, Octets.octet_append front high (low :: body) rfl, second]

end Tlv

namespace Frame

/-! ## Buffers that are cut off -/

/-- Complete TLVs without an End TLV lack a mandatory type. -/
theorem exists_decode_encodeAll_eq {ts : List Tlv} (wellFormed : ∀ t ∈ ts, t.WellFormed) :
    ∃ kind, decode (Tlv.encodeAll ts) = .error (.missing kind) := by
  have items := (Walk.runsOut_encodeAll wellFormed).items
  cases decoded : decode (Tlv.encodeAll ts) with
  | error e =>
      rcases (decode_eq_error_iff_refused items e).mp decoded with ⟨kind, rfl, -⟩
      exact ⟨kind, rfl⟩
  | ok frame =>
      rcases exists_octets_eq_of_decode decoded with ⟨pdu, octets⟩
      have ended : Walk.MeetsEnd (Tlv.encodeAll ts) pdu.tlvs := octets ▸ pdu.meetsEnd
      have walked := Walk.plainTlvs_eq pdu.wellFormed (.inr (.inl ended))
      rw [Walk.plainTlvs_eq wellFormed (.inl (Walk.runsOut_encodeAll wellFormed))] at walked
      rw [← walked] at ended
      exact absurd ended (Walk.runsOut_encodeAll wellFormed).not_meetsEnd

/-- A part of a TLV behind complete ones is a truncation. -/
theorem decode_take_of_cut {front : List Tlv} (wellFormed : ∀ t ∈ front, t.WellFormed)
    {high low : UInt8} {body : Octets} {count : Nat} (some : 0 < count)
    (within : count ≤ body.length + 2) (cut : Tlv.Cut ((high :: low :: body).take count)) :
    decode ((Tlv.encodeAll front ++ high :: low :: body).take
        ((Tlv.encodeAll front).length + count)) =
      .error (.truncated ⟨(Tlv.encodeAll front).length,
        if count = 1 then 2
        else 2 + Tlv.declaredLength (Tlv.encodeAll front ++ high :: low :: body)
          (Tlv.encodeAll front).length,
        count⟩) := by
  have refusal := Refusal.truncated wellFormed rfl cut
  have length : ((high :: low :: body).take count).length = count := by
    rw [List.length_take, List.length_cons, List.length_cons]
    omega
  rw [Tlv.needed_take high low body some, length] at refusal
  rw [List.take_length_add_append, Tlv.declaredLength_append]
  exact decode_of_refusal refusal

/-- A buffer that is cut off inside one of the TLVs in front of its End TLV. -/
theorem decode_take_of_inside {front behind : List Tlv} {t : Tlv}
    (wellFormed : ∀ u ∈ front ++ t :: behind, u.WellFormed) {k : Nat}
    (above : (Tlv.encodeAll front).length < k)
    (below : k < (Tlv.encodeAll front).length + t.encode.length) (rest : Octets) :
    decode ((Tlv.encodeAll (front ++ t :: behind) ++ rest).take k) =
      .error (.truncated ⟨(Tlv.encodeAll front).length,
        if k - (Tlv.encodeAll front).length = 1 then 2
        else 2 + Tlv.declaredLength (Tlv.encodeAll (front ++ t :: behind) ++ rest)
          (Tlv.encodeAll front).length,
        k - (Tlv.encodeAll front).length⟩) := by
  have isWellFormed := wellFormed t (List.mem_append_right front List.mem_cons_self)
  obtain ⟨high, low, written, kind, size⟩ := isWellFormed.encode_eq
  obtain ⟨count, rfl⟩ := Nat.exists_eq_add_of_lt above
  have octets : Tlv.encodeAll (front ++ t :: behind) ++ rest =
      Tlv.encodeAll front ++ high :: low :: (t.value ++ (Tlv.encodeAll behind ++ rest)) := by
    simp [written]
  have part : count + 1 < 2 + Tlv.headerSize high low := by
    rw [written, List.length_cons, List.length_cons, ← size] at below
    omega
  have other : Tlv.headerKind high low ≠ .endOfPdu := kind ▸ isWellFormed.kind_ne
  have cut := Tlv.cut_take other (t.value ++ (Tlv.encodeAll behind ++ rest)) (Nat.succ_pos count)
    part
  have within : count + 1 ≤ (t.value ++ (Tlv.encodeAll behind ++ rest)).length + 2 := by
    rw [List.length_append, ← size]
    omega
  rw [octets, Nat.add_assoc, Nat.add_sub_cancel_left]
  exact decode_take_of_cut (fun u member => wellFormed u (List.mem_append_left _ member))
    (Nat.succ_pos count) within cut

/-- Whatever follows the End header in place of the rest, the frame is the same. -/
theorem decode_replaced {pdu : Pdu} {frame : Frame} (decoded : decode pdu.octets = .ok frame)
    (rest : Octets) :
    decode { pdu with rest }.octets = .ok { frame with buffer := { pdu with rest }.octets } := by
  rcases (decode_octets_eq_ok_iff pdu frame).mp decoded with ⟨acceptable, holds, -⟩
  rw [decode_octets_eq_ok_iff]
  exact ⟨acceptable, ⟨holds.chassisId, holds.portId, holds.timeToLive, holds.values⟩, rfl⟩

/-- A buffer that is cut off at a boundary, or anywhere else up to its End header. -/
theorem decode_take_octets (pdu : Pdu) {k : Nat}
    (early : k < (Tlv.encodeAll pdu.tlvs).length + 2) :
    (Tlv.IsBoundary pdu.tlvs k → ∃ kind, decode (pdu.octets.take k) = .error (.missing kind)) ∧
      (¬ Tlv.IsBoundary pdu.tlvs k →
        ∃ offset, IsGreatest {offset | Tlv.IsBoundary pdu.tlvs offset ∧ offset < k} offset ∧
          decode (pdu.octets.take k) = .error (.truncated ⟨offset,
            if k - offset = 1 then 2 else 2 + Tlv.declaredLength pdu.octets offset,
            k - offset⟩)) := by
  constructor
  · rintro ⟨front, behind, split, rfl⟩
    have wellFormed : ∀ t ∈ front, t.WellFormed := fun t member =>
      pdu.wellFormed t (split ▸ List.mem_append_left behind member)
    have taken : pdu.octets.take (Tlv.encodeAll front).length = Tlv.encodeAll front := by
      rw [Pdu.octets, split, Tlv.encodeAll_append, List.append_assoc, List.take_left]
    rw [taken]
    exact exists_decode_encodeAll_eq wellFormed
  · intro between
    by_cases within : k ≤ (Tlv.encodeAll pdu.tlvs).length
    · rcases Tlv.isBoundary_or_inside pdu.tlvs within with
        boundary | ⟨front, t, behind, split, above, below⟩
      · exact absurd boundary between
      · refine ⟨(Tlv.encodeAll front).length, ?_, ?_⟩
        · rw [split]
          exact Tlv.isGreatest_boundary above below
        · rw [Pdu.octets, split]
          exact decode_take_of_inside (split ▸ pdu.wellFormed) above below _
    · -- Only the first octet of the End header is left.
      obtain rfl : k = (Tlv.encodeAll pdu.tlvs).length + 1 := by omega
      refine ⟨(Tlv.encodeAll pdu.tlvs).length, ⟨⟨?_, Nat.lt_succ_self _⟩, ?_⟩, ?_⟩
      · exact ⟨pdu.tlvs, [], (List.append_nil _).symm, rfl⟩
      · rintro offset ⟨-, before⟩
        exact Nat.le_of_lt_succ before
      · rw [Nat.add_sub_cancel_left]
        exact decode_take_of_cut pdu.wellFormed Nat.one_pos (Nat.le_add_left 1 _)
          (.header pdu.high)

/-- Nothing behind the End header matters, and nothing in front of it can be missed.  A buffer
that decodes to a frame has an End header at the end of written TLVs.  With any octets in place of
those behind the header it decodes to the same frame, info and extensions.  Cut off earlier it
decodes to no frame: at a boundary of the TLVs a mandatory type is missing, and elsewhere the TLV
at the last boundary is truncated. -/
theorem decode_take_of_decode {buffer : Octets} {frame : Frame}
    (decoded : decode buffer = .ok frame) :
    ∃ ts high low rest, (∀ t ∈ ts, t.WellFormed) ∧ high ≤ 1 ∧
      buffer = Tlv.encodeAll ts ++ high :: low :: rest ∧
      (∀ other : Octets, ∃ frame',
        decode (buffer.take ((Tlv.encodeAll ts).length + 2) ++ other) = .ok frame' ∧
          frame'.chassisId = frame.chassisId ∧ frame'.portId = frame.portId ∧
          frame'.timeToLive = frame.timeToLive ∧ frame'.values = frame.values ∧
          frame'.info = frame.info ∧
          ∀ known, frame'.info.value.extension known = frame.info.value.extension known) ∧
      ∀ k < (Tlv.encodeAll ts).length + 2,
        (Tlv.IsBoundary ts k → ∃ kind, decode (buffer.take k) = .error (.missing kind)) ∧
          (¬ Tlv.IsBoundary ts k →
            ∃ offset, IsGreatest {offset | Tlv.IsBoundary ts offset ∧ offset < k} offset ∧
              decode (buffer.take k) = .error (.truncated ⟨offset,
                if k - offset = 1 then 2 else 2 + Tlv.declaredLength buffer offset,
                k - offset⟩)) := by
  obtain ⟨pdu, rfl⟩ := exists_octets_eq_of_decode decoded
  refine ⟨pdu.tlvs, pdu.high, pdu.low, pdu.rest, pdu.wellFormed, pdu.isEnd, rfl, ?_,
    fun k early => decode_take_octets pdu early⟩
  intro other
  have replaced : pdu.octets.take ((Tlv.encodeAll pdu.tlvs).length + 2) ++ other =
      { pdu with rest := other }.octets := by
    rw [Pdu.octets, List.take_length_add_append]
    simp [Pdu.octets]
  rw [replaced]
  exact ⟨_, decode_replaced decoded other, rfl, rfl, rfl, rfl, rfl, fun known => rfl⟩

/-- A frame whose End TLV declares an octet that is there.  Without that octet the info is the
same. -/
theorem decode_take_satisfied :
    let buffer : Octets := [2, 2, 4, 1, 4, 2, 5, 65, 6, 2, 0, 120, 0, 1, 7]
    let frame : Frame := ⟨⟨⟨4⟩, [1]⟩, ⟨⟨5⟩, [65]⟩, 120, [], buffer⟩
    decode buffer = .ok frame ∧
      ∃ ts high low rest, (∀ t ∈ ts, t.WellFormed) ∧ high ≤ 1 ∧
        buffer = Tlv.encodeAll ts ++ high :: low :: rest ∧
        ∃ frame', decode (buffer.take ((Tlv.encodeAll ts).length + 2)) = .ok frame' ∧
          frame'.info = frame.info := by
  intro buffer frame
  have decoded : decode buffer = .ok frame := by decide +kernel
  obtain ⟨ts, high, low, rest, wellFormed, isEnd, split, same, -⟩ := decode_take_of_decode decoded
  obtain ⟨frame', again, -, -, -, -, info, -⟩ := same []
  rw [List.append_nil] at again
  exact ⟨decoded, ts, high, low, rest, wellFormed, isEnd, split, frame', again, info⟩

end Frame

end Lldpdu
