import Lldpdu.Proofs.Frame.Acceptance

/-!
# The TLVs that a frame depends on

Whether a buffer holds a frame, and what its three fields are, is a matter of the TLVs of the three
types of these fields, each type for itself.  The other TLVs are handed on as they come.
-/

namespace Lldpdu.Frame

/-- The TLVs of each of the three types are the same in both lists. -/
def SameFields (ts us : List Tlv) : Prop :=
  ∀ kind ∈ fieldTypes, (ts.filter fun t => t.kind = kind) = us.filter fun u => u.kind = kind

namespace SameFields

variable {ts us : List Tlv}

theorem symm (same : SameFields ts us) : SameFields us ts :=
  fun kind field => (same kind field).symm

theorem mem_iff (same : SameFields ts us) {t : Tlv} (field : t.kind ∈ fieldTypes) :
    t ∈ ts ↔ t ∈ us := by
  have own (vs : List Tlv) : t ∈ vs.filter (fun v => v.kind = t.kind) ↔ t ∈ vs := by
    rw [List.mem_filter]
    exact and_iff_left (decide_eq_true rfl)
  rw [← own ts, same t.kind field, own us]

theorem isLast_iff (same : SameFields ts us) {kind : TlvType} (field : kind ∈ fieldTypes)
    (t : Tlv) : Tlv.IsLast kind ts t ↔ Tlv.IsLast kind us t := by
  rw [← Tlv.getLast?_filter_eq_some_iff, same kind field, Tlv.getLast?_filter_eq_some_iff]

theorem acceptable (same : SameFields ts us) (acceptable : Acceptable ts) : Acceptable us where
  occurs kind field := by
    rcases acceptable.occurs kind field with ⟨t, member, rfl⟩
    exact ⟨t, (same.mem_iff field).mp member, rfl⟩
  long t member field := acceptable.long t ((same.mem_iff field).mpr member) field
  usable kind identifier t last := by
    have field : kind ∈ fieldTypes := List.mem_append_left [TlvType.timeToLive] identifier
    exact acceptable.usable kind identifier t ((same.isLast_iff field t).mpr last)

theorem holds (same : SameFields ts us) {frame : Frame} (holds : frame.Holds ts)
    (buffer : Octets) :
    { frame with values := us.filter fun u => u.kind ∉ fieldTypes, buffer }.Holds us := by
  rcases holds with ⟨⟨c, lastChassis, chassisValue⟩, ⟨p, lastPort, portValue⟩,
    ⟨t, high, low, more, lastTtl, ttlValue⟩, -⟩
  exact ⟨⟨c, (same.isLast_iff (by decide) c).mp lastChassis, chassisValue⟩,
    ⟨p, (same.isLast_iff (by decide) p).mp lastPort, portValue⟩,
    ⟨t, high, low, more, (same.isLast_iff (by decide) t).mp lastTtl, ttlValue⟩, rfl⟩

end SameFields

/-- A buffer whose TLVs of the three types are those of a frame holds a frame with the same
fields. -/
theorem decode_of_sameFields {pdu other : Pdu} (same : SameFields pdu.tlvs other.tlvs)
    {frame : Frame} (decoded : decode pdu.octets = .ok frame) :
    decode other.octets = .ok { frame with
      values := other.tlvs.filter fun t => t.kind ∉ fieldTypes
      buffer := other.octets } := by
  rcases (decode_octets_eq_ok_iff pdu frame).mp decoded with ⟨acceptable, holds, -⟩
  rw [decode_octets_eq_ok_iff]
  exact ⟨same.acceptable acceptable, same.holds holds other.octets, rfl⟩

end Lldpdu.Frame
