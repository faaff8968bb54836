import Lldpdu.Proofs.Frame.Acceptance
import Lldpdu.Proofs.Info.Encoding
import Lldpdu.Proofs.Info.Items

/-!
# Records through the wire

A record is written as a TLV for each of its first five fields and one for each entry of its
lists.  Among TLVs that make up a frame, and in every order that keeps the two lists, these give
the record back, without an error.
-/

namespace Lldpdu

/-- The TLV that carries one of an organization. -/
def OrganizationTlv.tlv (t : OrganizationTlv) : Tlv :=
  .ofValue .organizationSpecific t.value

namespace Info

/-- A record that can be written: each of its parts has room in a TLV, and its unknown TLVs have
a type without a layout. -/
structure Fits (info : Info) : Prop where
  portDescription : (Text.encode info.portDescription).length ≤ Tlv.maxLength
  systemName : (Text.encode info.systemName).length ≤ Tlv.maxLength
  systemDescription : (Text.encode info.systemDescription).length ≤ Tlv.maxLength
  managementAddress : info.managementAddress.Fits
  ouis : ∀ t ∈ info.organizationTlvs, t.oui.raw.toNat < 2 ^ 24
  payloads : ∀ t ∈ info.organizationTlvs, t.payload.length ≤ 507
  unknownKinds : ∀ t ∈ info.unknown, 9 ≤ t.kind.raw.toNat ∧ t.kind.raw.toNat ≤ 126
  unknown : ∀ t ∈ info.unknown, t.WellFormed

/-- What is left open when a record is written: two words that raise its capabilities, and the
two octets in front of the object identifier. -/
structure Writing (info : Info) where
  supported : UInt16
  enabled : UInt16
  first : UInt8
  second : UInt8
  raisesSupported : info.capabilities.supported.RaisedBy supported
  raisesEnabled : info.capabilities.enabled.RaisedBy enabled

/-- The TLVs for the fields of a record that are not lists. -/
def Writing.fieldTlvs {info : Info} (w : info.Writing) : List Tlv :=
  [ .ofValue .portDescription (Text.encode info.portDescription),
    .ofValue .systemName (Text.encode info.systemName),
    .ofValue .systemDescription (Text.encode info.systemDescription),
    .ofValue .systemCapabilities (SystemCapabilities.value w.supported w.enabled),
    .ofValue .managementAddress (info.managementAddress.value w.first w.second) ]

/-- The TLVs that a record is written as. -/
def Writing.tlvs {info : Info} (w : info.Writing) : List Tlv :=
  w.fieldTlvs ++ info.organizationTlvs.map OrganizationTlv.tlv ++ info.unknown

/-! ## Reading what was written -/

theorem read_ofValue {kind : TlvType} {layout : Layout Item} (known : layout? kind = some layout)
    {value : Octets} {item : Item} (decoded : layout.decode value = .ok item) :
    read (.ofValue kind value) = .ok item := by
  have isKind : (Tlv.ofValue kind value).kind = kind := rfl
  have isValue : (Tlv.ofValue kind value).value = value := rfl
  rw [read, isKind, known, isValue]
  change (layout.decode value).mapError _ = _
  rw [decoded]
  rfl

theorem read_tlv {t : OrganizationTlv} (bound : t.oui.raw.toNat < 2 ^ 24) :
    read t.tlv = .ok (.organizationTlv t) := by
  apply read_ofValue rfl
  rw [Layout.decode_map, OrganizationTlv.decode_value bound]
  rfl

theorem layout?_eq_none {kind : TlvType} (least : 9 ≤ kind.raw.toNat)
    (most : kind.raw.toNat ≤ 126) : layout? kind = none := by
  unfold layout?
  split
  · contradiction
  · contradiction
  · contradiction
  · contradiction
  · contradiction
  · contradiction
  · rfl

theorem read_unknown {t : Tlv} (least : 9 ≤ t.kind.raw.toNat) (most : t.kind.raw.toNat ≤ 126) :
    read t = .ok (.unknown t) := by
  rw [read, layout?_eq_none least most]

variable {info : Info}

theorem map_read_fieldTlvs (fits : info.Fits) (w : info.Writing) :
    w.fieldTlvs.map read = info.fieldItems.map .ok := by
  have text (s : String) : textLayout.decode (Text.encode s) = .ok s := by
    rw [textLayout, Layout.decode_anyLength, Text.lossy_encode]
  have capabilities := SystemCapabilities.decode_value w.raisesSupported w.raisesEnabled
  have managementAddress :=
    ManagementAddress.decode_value fits.managementAddress w.first w.second
  simp only [Writing.fieldTlvs, fieldItems, List.map_cons, List.map_nil]
  rw [read_ofValue rfl (by rw [Layout.decode_map, text]; rfl),
    read_ofValue rfl (by rw [Layout.decode_map, text]; rfl),
    read_ofValue rfl (by rw [Layout.decode_map, text]; rfl),
    read_ofValue rfl (by rw [Layout.decode_map, capabilities]; rfl),
    read_ofValue rfl (by rw [Layout.decode_map, managementAddress]; rfl)]

theorem map_read_organizationTlvs (fits : info.Fits) :
    (info.organizationTlvs.map OrganizationTlv.tlv).map read =
      (info.organizationTlvs.map Item.organizationTlv).map .ok := by
  rw [List.map_map, List.map_map]
  apply List.map_congr_left
  intro t member
  exact read_tlv (fits.ouis t member)

theorem map_read_unknown (fits : info.Fits) :
    info.unknown.map read = (info.unknown.map Item.unknown).map .ok := by
  rw [List.map_map]
  apply List.map_congr_left
  intro t member
  exact read_unknown (fits.unknownKinds t member).1 (fits.unknownKinds t member).2

/-- Each of the TLVs that a record is written as gives the item for its part of the record. -/
theorem map_read_tlvs (fits : info.Fits) (w : info.Writing) :
    w.tlvs.map read = (describing info).map .ok := by
  simp only [Writing.tlvs, describing, List.map_append, map_read_fieldTlvs fits w,
    map_read_organizationTlvs fits, map_read_unknown fits]

/-! ## Any order -/

/-- A TLV that can stand in front of the End TLV without being a field of the frame. -/
theorem optional_ofValue {kind : TlvType} {value : Octets} (least : 4 ≤ kind.raw.toNat)
    (most : kind.raw.toNat ≤ 127) (nineBits : value.length ≤ Tlv.maxLength) :
    (Tlv.ofValue kind value).WellFormed ∧ (Tlv.ofValue kind value).kind ∉ Frame.fieldTypes :=
  ⟨Tlv.wellFormed_ofValue (Nat.le_trans (by decide) least) most nineBits,
    Frame.notMem_fieldTypes least⟩

theorem optional_of_mem_tlvs (fits : info.Fits) (w : info.Writing) :
    ∀ t ∈ w.tlvs, t.WellFormed ∧ t.kind ∉ Frame.fieldTypes := by
  intro t member
  simp only [Writing.tlvs, Writing.fieldTlvs, List.mem_append, List.mem_cons, List.not_mem_nil,
    or_false, List.mem_map] at member
  rcases member with ((rfl | rfl | rfl | rfl | rfl) | ⟨o, member, rfl⟩) | member
  · exact optional_ofValue (by decide) (by decide) fits.portDescription
  · exact optional_ofValue (by decide) (by decide) fits.systemName
  · exact optional_ofValue (by decide) (by decide) fits.systemDescription
  · apply optional_ofValue (by decide) (by decide)
    rw [SystemCapabilities.length_value]
    decide
  · exact optional_ofValue (by decide) (by decide) (fits.managementAddress.whole w.first w.second)
  · apply optional_ofValue (by decide) (by decide)
    have payload := fits.payloads o member
    rw [OrganizationTlv.length_value, Tlv.maxLength]
    omega
  · have least := (fits.unknownKinds t member).1
    exact ⟨fits.unknown t member, Frame.notMem_fieldTypes (Nat.le_trans (by decide) least)⟩

/-- Readings that give the items of a record, in whatever order, give that record if the order
keeps the two lists. -/
theorem ofTlvs_of_perm {tlvs : List Tlv} {info : Info}
    (perm : (tlvs.map read).Perm ((describing info).map .ok))
    (organizations :
      ((info.organizationTlvs.map Item.organizationTlv).map .ok).Sublist (tlvs.map read))
    (unknown : ((info.unknown.map Item.unknown).map .ok).Sublist (tlvs.map read)) :
    ofTlvs tlvs = ⟨info, []⟩ := by
  have value : (ofTlvs tlvs).value = info := by
    rw [value_ofTlvs]
    apply ofItems_of_perm
    · have said := perm.filterMap Decoded.item?
      rwa [Decoded.filterMap_item?_ok] at said
    · have said := organizations.filterMap Decoded.item?
      rwa [Decoded.filterMap_item?_ok] at said
    · have said := unknown.filterMap Decoded.item?
      rwa [Decoded.filterMap_item?_ok] at said
  have errors : (ofTlvs tlvs).errors = [] := by
    have met := perm.filterMap Decoded.error?
    rw [Decoded.filterMap_error?_ok] at met
    exact met.eq_nil
  rw [← value, ← errors]

theorem filter_eq_self_of_optional {written : List Tlv}
    (others : ∀ t ∈ written, t.kind ∉ Frame.fieldTypes) :
    (written.filter fun t => t.kind ∉ Frame.fieldTypes) = written := by
  rw [List.filter_eq_self]
  intro t member
  simpa using others t member

/-- Among the fields of a frame, written TLVs are what the frame keeps as its values. -/
theorem values_of_perm {mandatory written ts : List Tlv} (perm : ts.Perm (mandatory ++ written))
    (fields : ∀ t ∈ mandatory, t.kind ∈ Frame.fieldTypes)
    (others : ∀ t ∈ written, t.kind ∉ Frame.fieldTypes) :
    (ts.filter fun t => t.kind ∉ Frame.fieldTypes).Perm written := by
  have kept := perm.filter fun t => t.kind ∉ Frame.fieldTypes
  have dropped : (mandatory.filter fun t => t.kind ∉ Frame.fieldTypes) = [] := by
    rw [List.filter_eq_nil_iff]
    intro t member
    simpa using fields t member
  rwa [List.filter_append, dropped, filter_eq_self_of_optional others, List.nil_append] at kept

theorem sublist_values {written ts : List Tlv} (ordered : written.Sublist ts)
    (others : ∀ t ∈ written, t.kind ∉ Frame.fieldTypes) :
    written.Sublist (ts.filter fun t => t.kind ∉ Frame.fieldTypes) := by
  have kept := ordered.filter fun t => t.kind ∉ Frame.fieldTypes
  rwa [filter_eq_self_of_optional others] at kept

/-- Decoding undoes encoding.  A record that fits is written as TLVs, and these are put among
TLVs for the fields of a frame in any order that keeps the two lists of the record.  Whatever
End header and octets come behind, there is a frame, and its optional part is the record,
without an error. -/
theorem decode_encodeAll_of_perm {info : Info} (fits : info.Fits) (w : info.Writing)
    {mandatory ts : List Tlv} (perm : ts.Perm (mandatory ++ w.tlvs))
    (fields : ∀ t ∈ mandatory, t.WellFormed ∧ t.kind ∈ Frame.fieldTypes)
    (organizations : (info.organizationTlvs.map OrganizationTlv.tlv).Sublist ts)
    (unknown : info.unknown.Sublist ts) (acceptable : Frame.Acceptable ts)
    {high : UInt8} (isEnd : high ≤ 1) (low : UInt8) (rest : Octets) :
    ∃ frame, Frame.decode (Tlv.encodeAll ts ++ high :: low :: rest) = .ok frame ∧
      frame.Holds ts ∧ frame.info = ⟨info, []⟩ := by
  have optional := optional_of_mem_tlvs fits w
  have allWellFormed : ∀ t ∈ ts, t.WellFormed := by
    intro t member
    rcases List.mem_append.mp (perm.subset member) with field | written
    · exact (fields t field).1
    · exact (optional t written).1
  let pdu : Pdu := ⟨ts, high, low, rest, allWellFormed, isEnd⟩
  rcases acceptable.exists_holds pdu.octets with ⟨frame, holds, buffer⟩
  have isInfo : frame.info = ⟨info, []⟩ := by
    have organizationsKept := sublist_values organizations fun t member =>
      (optional t (List.mem_append_left _ (List.mem_append_right _ member))).2
    have unknownKept := sublist_values unknown fun t member =>
      (optional t (List.mem_append_right _ member)).2
    have values := values_of_perm perm (fun t member => (fields t member).2)
      fun t member => (optional t member).2
    rw [Frame.info, holds.values]
    apply ofTlvs_of_perm
    · rw [← map_read_tlvs fits w]
      exact values.map read
    · rw [← map_read_organizationTlvs fits]
      exact organizationsKept.map read
    · rw [← map_read_unknown fits]
      exact unknownKept.map read
  exact ⟨frame, (Frame.decode_octets_eq_ok_iff pdu frame).mpr ⟨acceptable, holds, buffer⟩, holds,
    isInfo⟩

/-- A record with something in each of its parts. -/
def sample : Info where
  portDescription := "é"
  systemName := "a"
  systemDescription := "€"
  capabilities := ⟨⟨5⟩, ⟨4⟩⟩
  managementAddress := ⟨⟨1⟩, [10, 0, 0, 1], ⟨2⟩, 7, "1.3"⟩
  organizationTlvs := [⟨.ieee8021, 1, [0, 1]⟩, ⟨.ieee8023, 4, []⟩]
  unknown := [.ofValue ⟨9⟩ [1], .ofValue ⟨9⟩ []]

theorem fits_sample : sample.Fits where
  portDescription := by decide
  systemName := by decide
  systemDescription := by decide
  managementAddress := by
    refine ⟨by decide, by decide, by decide, ?_⟩
    intro first second
    rw [ManagementAddress.length_value, ManagementAddress.identifierPart, if_neg (by decide)]
    exact (by decide : 8 + 4 + 5 ≤ Tlv.maxLength)
  ouis := by decide
  payloads := by decide
  unknownKinds := by decide
  unknown := by decide

/-- A way to write the record in which bits are raised that belong to no capability. -/
def sampleWriting : sample.Writing where
  supported := 0xf805
  enabled := 0x0804
  first := 0xaa
  second := 0xbb
  raisesSupported := by intro capability; cases capability <;> decide
  raisesEnabled := by intro capability; cases capability <;> decide

/-- TLVs for the fields of a frame. -/
def sampleMandatory : List Tlv :=
  [.ofValue .chassisId [4, 1], .ofValue .portId [5, 65], .ofValue .timeToLive [0, 120]]

/-- All of the TLVs, each list in its order and nothing else in order. -/
def sampleTlvs : List Tlv :=
  [ .ofValue ⟨9⟩ [1],
    .ofValue .managementAddress (sample.managementAddress.value 0xaa 0xbb),
    .ofValue .timeToLive [0, 120],
    OrganizationTlv.tlv ⟨.ieee8021, 1, [0, 1]⟩,
    .ofValue .systemDescription (Text.encode "€"),
    .ofValue .portId [5, 65],
    .ofValue .systemCapabilities [0xf8, 0x05, 0x08, 0x04],
    OrganizationTlv.tlv ⟨.ieee8023, 4, []⟩,
    .ofValue .systemName (Text.encode "a"),
    .ofValue .chassisId [4, 1],
    .ofValue ⟨9⟩ [],
    .ofValue .portDescription (Text.encode "é") ]

theorem acceptable_sampleTlvs : Frame.Acceptable sampleTlvs := by
  have chassisId : Tlv.IsLast .chassisId sampleTlvs (.ofValue .chassisId [4, 1]) :=
    (Tlv.getLast?_filter_eq_some_iff _ _ _).mp (by decide +kernel)
  have portId : Tlv.IsLast .portId sampleTlvs (.ofValue .portId [5, 65]) :=
    (Tlv.getLast?_filter_eq_some_iff _ _ _).mp (by decide +kernel)
  have timeToLive : Tlv.IsLast .timeToLive sampleTlvs (.ofValue .timeToLive [0, 120]) :=
    (Tlv.getLast?_filter_eq_some_iff _ _ _).mp (by decide +kernel)
  exact Frame.acceptable_of_isLast (by decide +kernel) chassisId (by decide) portId (by decide)
    timeToLive

theorem decode_encodeAll_sampleTlvs :
    sample.Fits ∧ sampleTlvs.Perm (sampleMandatory ++ sampleWriting.tlvs) ∧
      Frame.Acceptable sampleTlvs ∧
      ∃ frame, Frame.decode (Tlv.encodeAll sampleTlvs ++ [1, 44, 7]) = .ok frame ∧
        frame.Holds sampleTlvs ∧ frame.info = ⟨sample, []⟩ := by
  have perm : sampleTlvs.Perm (sampleMandatory ++ sampleWriting.tlvs) := by decide +kernel
  have fields : ∀ t ∈ sampleMandatory, t.WellFormed ∧ t.kind ∈ Frame.fieldTypes := by decide
  exact ⟨fits_sample, perm, acceptable_sampleTlvs,
    decode_encodeAll_of_perm fits_sample sampleWriting perm fields (by decide +kernel)
      (by decide +kernel) acceptable_sampleTlvs (by decide) 44 [7]⟩

end Info

end Lldpdu
