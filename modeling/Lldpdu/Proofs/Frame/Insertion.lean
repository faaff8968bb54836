import Lldpdu.Proofs.Frame.Fields
import Lldpdu.Proofs.Info.Insertion

/-!
# One more TLV in a buffer

An optional TLV may be put into a buffer that holds a frame at every boundary up to the End header.
The buffer still holds a frame, with the same fields, and the TLV is handed on in its place.  What
the TLV makes of the optional part is confined to what it says itself: it hides, resets or changes
nothing that TLVs of other types have said.
-/

namespace Lldpdu

namespace Pdu

/-- The buffer with one more TLV. -/
def insert (pdu : Pdu) {front behind : List Tlv} (split : pdu.tlvs = front ++ behind) {t : Tlv}
    (wellFormed : t.WellFormed) : Pdu where
  tlvs := front ++ t :: behind
  high := pdu.high
  low := pdu.low
  rest := pdu.rest
  wellFormed := by
    have others := pdu.wellFormed
    rw [split, List.forall_mem_append] at others
    exact List.forall_mem_append.mpr ⟨others.1, List.forall_mem_cons.mpr ⟨wellFormed, others.2⟩⟩
  isEnd := pdu.isEnd

/-- The written form of the TLV stands at the boundary. -/
theorem octets_insert (pdu : Pdu) {front behind : List Tlv} (split : pdu.tlvs = front ++ behind)
    {t : Tlv} (wellFormed : t.WellFormed) :
    (pdu.insert split wellFormed).octets =
      pdu.octets.take (Tlv.encodeAll front).length ++ t.encode ++
        pdu.octets.drop (Tlv.encodeAll front).length := by
  have whole : pdu.octets = Tlv.encodeAll front ++
      (Tlv.encodeAll behind ++ pdu.high :: pdu.low :: pdu.rest) := by
    rw [octets, split, Tlv.encodeAll_append, List.append_assoc]
  rw [whole, List.take_left, List.drop_left, octets, insert]
  simp only [Tlv.encodeAll_append, Tlv.encodeAll_cons, List.append_assoc]

end Pdu

namespace Frame

theorem sameFields_insert {t : Tlv} (optional : t.kind ∉ fieldTypes) (front behind : List Tlv) :
    SameFields (front ++ behind) (front ++ t :: behind) := by
  intro kind field
  have other : t.kind ≠ kind := fun is => optional (is ▸ field)
  rw [List.filter_append, List.filter_append, List.filter_cons_of_neg (by simpa using other)]

/-- One optional TLV affects only its own.  Put into a buffer that holds a frame, at any boundary up
to the End header, it is handed on in its place among the TLVs of the frame, whose fields are the
same, and in the optional part it is confined to what it says itself. -/
theorem decode_insert {buffer : Octets} {frame : Frame} (decoded : decode buffer = .ok frame) :
    (∃ pdu : Pdu, pdu.octets = buffer) ∧
      ∀ pdu : Pdu, pdu.octets = buffer → ∀ front behind, pdu.tlvs = front ++ behind →
        ∀ t : Tlv, t.WellFormed → 4 ≤ t.kind.raw.toNat →
          let offset := (Tlv.encodeAll front).length
          let before := front.filter fun u => u.kind ∉ fieldTypes
          let after := behind.filter fun u => u.kind ∉ fieldTypes
          let inserted : Frame := { frame with
            values := before ++ t :: after
            buffer := buffer.take offset ++ t.encode ++ buffer.drop offset }
          frame.values = before ++ after ∧ decode inserted.buffer = .ok inserted ∧
            Info.Confined before t after frame.info inserted.info := by
  refine ⟨exists_octets_eq_of_decode decoded, ?_⟩
  rintro pdu rfl front behind split t wellFormed least offset before after inserted
  have optional := notMem_fieldTypes least
  have values : frame.values = before ++ after := by
    rw [((decode_octets_eq_ok_iff pdu frame).mp decoded).2.1.values, split, List.filter_append]
  have same : SameFields pdu.tlvs (pdu.insert split wellFormed).tlvs := by
    rw [split]
    exact sameFields_insert optional front behind
  have handedOn : ((front ++ t :: behind).filter fun u => u.kind ∉ fieldTypes) =
      before ++ t :: after := by
    rw [List.filter_append, List.filter_cons_of_pos (by simpa using optional)]
  refine ⟨values, ?_, ?_⟩
  · have decodes := decode_of_sameFields same decoded
    rw [pdu.octets_insert split wellFormed] at decodes
    change decode _ = .ok { frame with
      values := (front ++ t :: behind).filter fun u => u.kind ∉ fieldTypes
      buffer := _ } at decodes
    rwa [handedOn] at decodes
  · rw [info, values]
    exact Info.confined before t after

/-- A name in front of another name leaves no trace, and capabilities that are cut short cost one
error. -/
theorem decode_insert_without_effect :
    let name : Tlv := .ofValue .systemName [98]
    let overwritten : Tlv := .ofValue .systemName [97]
    let cutShort : Tlv := .ofValue .systemCapabilities [0, 4]
    let buffer : Octets := [2, 2, 4, 1, 4, 2, 5, 66, 6, 2, 0, 120, 10, 1, 98, 0, 0]
    let frame : Frame := ⟨⟨⟨4⟩, [1]⟩, ⟨⟨5⟩, [66]⟩, 120, [name], buffer⟩
    decode buffer = .ok frame ∧
      (overwritten.WellFormed ∧ 4 ≤ overwritten.kind.raw.toNat ∧ ¬ overwritten.CutShort ∧
        ∃ inserted, decode (buffer.take 12 ++ overwritten.encode ++ buffer.drop 12) =
            .ok inserted ∧
          inserted.values = [overwritten, name] ∧ inserted.info.value = frame.info.value) ∧
      cutShort.WellFormed ∧ 4 ≤ cutShort.kind.raw.toNat ∧ cutShort.CutShort ∧
        ∃ inserted, decode (buffer.take 15 ++ cutShort.encode ++ buffer.drop 15) =
            .ok inserted ∧
          inserted.info = ⟨frame.info.value, [.tlv .systemCapabilities 2 4]⟩ := by
  intro name overwritten cutShort buffer frame
  let mandatory : List Tlv :=
    [.ofValue .chassisId [4, 1], .ofValue .portId [5, 66], .ofValue .timeToLive [0, 120]]
  let pdu : Pdu := ⟨mandatory ++ [name], 0, 0, [], by decide, by decide⟩
  have decoded : decode buffer = .ok frame := by decide +kernel
  have octets : pdu.octets = buffer := by decide +kernel
  have insert := (decode_insert decoded).2 pdu octets
  have wellFormed : overwritten.WellFormed := by decide
  have cutWellFormed : cutShort.WellFormed := by decide
  obtain ⟨-, first, confined⟩ := insert mandatory [name] rfl overwritten wellFormed (by decide)
  obtain ⟨-, second, confined'⟩ := insert (mandatory ++ [name]) [] rfl cutShort cutWellFormed
    (by decide)
  obtain ⟨-, hidden, -⟩ := confined.described (by decide) (by decide)
  obtain ⟨wanted, short, -, new⟩ := confined'.rejected (by decide)
  obtain rfl : 4 = wanted := Option.some.inj short
  exact ⟨decoded,
    ⟨wellFormed, by decide, by decide, _, first, rfl,
      hidden ⟨name, List.mem_singleton.mpr rfl, rfl, by decide⟩⟩,
    cutWellFormed, by decide, by decide, _, second, new⟩

end Frame

end Lldpdu
