import Lldpdu.Proofs.Extension.Order
import Lldpdu.Proofs.Frame.Fields
import Lldpdu.Proofs.Info.Order

/-!
# The order of TLVs

Nothing is said by the place of a TLV among TLVs of other groups.  If the TLVs of two buffers agree
group by group, both hold a frame or neither does, and the frames differ only in the order in which
they hand on TLVs and list errors.  The same goes for the TLVs of organizations and subtypes.
-/

namespace Lldpdu

/-- The group in which a TLV has its place: the TLVs of its type, if the type is a field of the
frame or has a layout, and otherwise the TLVs of all other types together. -/
def Tlv.group? (t : Tlv) : Option TlvType :=
  t.typeAmong? (Frame.fieldTypes ++ Info.layoutTypes)

namespace Frame

/-- Frames that tell the same, up to the order of their TLVs and errors. -/
structure Alike (frame frame' : Frame) : Prop where
  chassisId : frame.chassisId = frame'.chassisId
  portId : frame.portId = frame'.portId
  timeToLive : frame.timeToLive = frame'.timeToLive
  values : frame.values.Perm frame'.values
  info : frame.info.Alike frame'.info
  errors : SameByKey FieldError.kind? frame.info.errors frame'.info.errors
  extension : ∀ known,
    frame.info.value.extension known = frame'.info.value.extension known

/-- Among the TLVs that a frame hands on, the groups are the types that have a layout. -/
theorem layoutType?_eq_group? {t : Tlv} (handedOn : t.kind ∉ fieldTypes) :
    Info.layoutType? t = t.group? := by
  have other : t.typeAmong? fieldTypes = none := (t.typeAmong?_eq_none_iff _).mpr handedOn
  rw [Tlv.typeAmong?] at other
  rw [Tlv.group?, Tlv.typeAmong?, List.find?_append, other, Option.none_or]
  rfl

variable {ts us : List Tlv}

theorem sameFields_of_sameByKey (same : SameByKey Tlv.group? ts us) : SameFields ts us := by
  intro kind field
  have isGroup (t : Tlv) : t.group? = some kind ↔ t.kind = kind := by
    rw [Tlv.group?, Tlv.typeAmong?_eq_some_iff]
    exact and_iff_right (List.mem_append_left Info.layoutTypes field)
  have group := same (some kind)
  simpa only [isGroup] using group

theorem alike_of_sameByKey {pdu other : Pdu} (same : SameByKey Tlv.group? pdu.tlvs other.tlvs)
    {frame frame' : Frame} (decoded : decode pdu.octets = .ok frame)
    (decoded' : decode other.octets = .ok frame') : frame.Alike frame' := by
  have values : frame.values = pdu.tlvs.filter fun t => t.kind ∉ fieldTypes :=
    ((decode_octets_eq_ok_iff pdu frame).mp decoded).2.1.values
  rw [decode_of_sameFields (sameFields_of_sameByKey same) decoded, Except.ok.injEq] at decoded'
  subst decoded'
  have groups : SameByKey Tlv.group? frame.values
      (other.tlvs.filter fun t => t.kind ∉ fieldTypes) := by
    rw [values]
    exact same.filter _
  have layouts : SameByKey Info.layoutType? frame.values
      (other.tlvs.filter fun t => t.kind ∉ fieldTypes) := by
    apply groups.congr
    · intro t member
      rw [values, List.mem_filter] at member
      exact layoutType?_eq_group? (of_decide_eq_true member.2)
    · intro t member
      exact layoutType?_eq_group? (of_decide_eq_true (List.mem_filter.mp member).2)
  have info := Info.alike_of_sameByKey layouts
  exact {
    chassisId := rfl
    portId := rfl
    timeToLive := rfl
    values := groups.perm
    info
    errors := Info.sameByKey_errors layouts
    extension known := congrArg (Info.extension · known) info.value }

/-- The order of TLVs of different groups is irrelevant.  Buffers whose TLVs agree group by group,
whatever their End headers are and whatever follows them, hold frames that tell the same, or hold no
frame.  And lists of TLVs of organizations that agree for each organization and subtype tell the
same in each extension. -/
theorem order_irrelevant :
    (∀ pdu other : Pdu, SameByKey Tlv.group? pdu.tlvs other.tlvs →
      ((∃ frame, decode pdu.octets = .ok frame) ↔ ∃ frame, decode other.octets = .ok frame) ∧
        ∀ frame frame', decode pdu.octets = .ok frame → decode other.octets = .ok frame' →
          frame.Alike frame') ∧
      ∀ info info' : Info,
        SameByKey OrganizationTlv.source info.organizationTlvs info'.organizationTlvs →
        info.bridging.Alike info'.bridging ∧ info.ethernet.Alike info'.ethernet ∧
          info.edgeBridging.Alike info'.edgeBridging := by
  constructor
  · intro pdu other same
    have fields := sameFields_of_sameByKey same
    refine ⟨⟨?_, ?_⟩, fun frame frame' => alike_of_sameByKey same⟩
    · rintro ⟨frame, decoded⟩
      exact ⟨_, decode_of_sameFields fields decoded⟩
    · rintro ⟨frame, decoded⟩
      exact ⟨_, decode_of_sameFields fields.symm decoded⟩
  · intro info info' same
    exact ⟨Bridging.alike_of_sameByKey same, Ethernet.alike_of_sameByKey same,
      EdgeBridging.alike_of_sameByKey same⟩

/-- TLVs with a chassis and capabilities that count for nothing, the fields of the frame first. -/
def sampleGrouped : Pdu where
  tlvs :=
    [ .ofValue .chassisId [0, 1], .ofValue .chassisId [4, 1], .ofValue .portId [5, 66],
      .ofValue .timeToLive [0, 120], .ofValue .systemName [97], .ofValue .systemName [98],
      .ofValue .systemCapabilities [0], .ofValue ⟨9⟩ [], .ofValue ⟨10⟩ [1],
      .ofValue .organizationSpecific [0] ]
  high := 0
  low := 0
  rest := []
  wellFormed := by decide
  isEnd := by decide

/-- The same TLVs in another order, closed by an End header that is cut short. -/
def sampleInterleaved : Pdu where
  tlvs :=
    [ .ofValue .organizationSpecific [0], .ofValue ⟨9⟩ [], .ofValue .systemName [97],
      .ofValue .chassisId [0, 1], .ofValue .timeToLive [0, 120], .ofValue ⟨10⟩ [1],
      .ofValue .systemCapabilities [0], .ofValue .chassisId [4, 1], .ofValue .systemName [98],
      .ofValue .portId [5, 66] ]
  high := 1
  low := 255
  rest := [7]
  wellFormed := by decide
  isEnd := by decide

/-- Errors change places, in the frame and in an extension. -/
theorem order_irrelevant_interleaved :
    let info : Info := { organizationTlvs :=
      [⟨.ieee8021, 1, [0, 5]⟩, ⟨.ieee8021, 1, [0]⟩, ⟨.ieee8021, 6, [0]⟩, ⟨.ieee8023, 4, [5, 2]⟩] }
    let reversed : Info := { organizationTlvs :=
      [⟨.ieee8023, 4, [5, 2]⟩, ⟨.ieee8021, 6, [0]⟩, ⟨.ieee8021, 1, [0, 5]⟩, ⟨.ieee8021, 1, [0]⟩] }
    (SameByKey Tlv.group? sampleGrouped.tlvs sampleInterleaved.tlvs ∧
        ∃ frame frame', decode sampleGrouped.octets = .ok frame ∧
          decode sampleInterleaved.octets = .ok frame' ∧ frame.Alike frame' ∧
          frame.info.errors ≠ frame'.info.errors) ∧
      SameByKey OrganizationTlv.source info.organizationTlvs reversed.organizationTlvs ∧
        info.bridging.Alike reversed.bridging ∧ info.bridging.errors ≠ reversed.bridging.errors := by
  intro info reversed
  constructor
  · have same : SameByKey Tlv.group? sampleGrouped.tlvs sampleInterleaved.tlvs := by
      decide +kernel
    have decodes : decode sampleGrouped.octets = .ok
        { chassisId := ⟨⟨4⟩, [1]⟩
          portId := ⟨⟨5⟩, [66]⟩
          timeToLive := 120
          values :=
            [ .ofValue .systemName [97], .ofValue .systemName [98],
              .ofValue .systemCapabilities [0], .ofValue ⟨9⟩ [], .ofValue ⟨10⟩ [1],
              .ofValue .organizationSpecific [0] ]
          buffer := sampleGrouped.octets } := by decide +kernel
    obtain ⟨both, alike⟩ := order_irrelevant.1 sampleGrouped sampleInterleaved same
    obtain ⟨frame', decodes'⟩ := both.mp ⟨_, decodes⟩
    refine ⟨same, _, frame', decodes, decodes', alike _ frame' decodes decodes', ?_⟩
    rw [decode_of_sameFields (sameFields_of_sameByKey same) decodes, Except.ok.injEq] at decodes'
    subst decodes'
    decide +kernel
  · have same : SameByKey OrganizationTlv.source info.organizationTlvs
        reversed.organizationTlvs := by decide +kernel
    exact ⟨same, (order_irrelevant.2 info reversed same).1, by decide +kernel⟩

end Frame

end Lldpdu
