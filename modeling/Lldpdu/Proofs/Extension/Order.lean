import Lldpdu.Proofs.Extension.Rejection
import Lldpdu.Proofs.Keyed

/-!
# The order of TLVs of different subtypes

What an extension makes of a TLV is a matter of its organization and subtype.  So TLVs of different
organizations or subtypes may change places: the record stays as it is, and the errors are the same
up to their order.
-/

namespace Lldpdu

/-- The organization and the subtype of a TLV. -/
def OrganizationTlv.source (t : OrganizationTlv) : Oui × UInt8 :=
  (t.oui, t.subtype)

/-- The organization and the subtype of the TLV that an error is about, if it is about one. -/
def FieldError.source? : FieldError → Option (Oui × UInt8)
  | .tlv _ _ _ => none
  | .organizationTlv oui subtype _ _ => some (oui, subtype)

namespace Extension

variable {ι σ : Type}

/-- What an extension says by a TLV, if the payload is long enough. -/
def said? (x : Extension ι σ) (t : OrganizationTlv) : Option ι :=
  (x.reading? t).bind Decoded.item?

theorem value_decode (x : Extension ι σ) (tlvs : List OrganizationTlv) :
    (x.decode tlvs).value = (tlvs.filterMap x.said?).foldl x.add x.empty := by
  rw [decode_eq_gather]
  change ((tlvs.filterMap x.reading?).filterMap Decoded.item?).foldl _ _ = _
  rw [List.filterMap_filterMap]
  rfl

/-- An item tells the subtype whose layout it was read by. -/
def Keyed (x : Extension ι σ) (subtype : ι → UInt8) : Prop :=
  ∀ s layout, x.layout? s = some layout → ∀ payload, subtype (layout.read payload) = s

/-- Whatever is read from a payload, it is read by the layout of the subtype. -/
theorem said?_eq_some {x : Extension ι σ} {t : OrganizationTlv} {item : ι}
    (said : x.said? t = some item) :
    t.oui = x.oui ∧
      ∃ layout, x.layout? t.subtype = some layout ∧ layout.read t.payload = item := by
  rw [said?, reading?] at said
  by_cases own : t.oui = x.oui
  · rw [if_pos own, read?] at said
    refine ⟨own, ?_⟩
    cases known : x.layout? t.subtype with
    | none =>
        rw [known] at said
        contradiction
    | some layout =>
        rw [known, Option.map_some, Option.bind_some, Layout.decode] at said
        cases short : layout.unmet? t.payload with
        | some wanted =>
            rw [short] at said
            contradiction
        | none =>
            rw [short] at said
            exact ⟨layout, rfl, Option.some.inj said⟩
  · rw [if_neg own] at said
    contradiction

variable {x : Extension ι σ} {ts us : List OrganizationTlv}

theorem sameByKey_said? (same : SameByKey OrganizationTlv.source ts us) {subtype : ι → UInt8}
    (keyed : x.Keyed subtype) :
    SameByKey subtype (ts.filterMap x.said?) (us.filterMap x.said?) := by
  apply same.filterMap fun s => (x.oui, s)
  intro t item said
  obtain ⟨isOwn, layout, known, rfl⟩ := said?_eq_some said
  rw [OrganizationTlv.source, isOwn, keyed _ _ known]

theorem source?_of_rejection? {oui : Oui} {least? : UInt8 → Octets → Option Nat}
    {t : OrganizationTlv} {e : FieldError} (rejected : t.rejection? oui least? = some e) :
    e.source? = some t.source := by
  rw [OrganizationTlv.rejection?, Option.ite_none_right_eq_some,
    Option.bind_eq_some_iff] at rejected
  rcases rejected with ⟨-, least, -, rejected⟩
  rw [Option.ite_none_right_eq_some] at rejected
  rw [← Option.some.inj rejected.2]
  rfl

theorem sameByKey_errors {least? : UInt8 → Octets → Option Nat} (asks : x.Asks least?)
    (same : SameByKey OrganizationTlv.source ts us) :
    SameByKey FieldError.source? (x.decode ts).errors (x.decode us).errors := by
  rw [errors_decode asks, errors_decode asks]
  apply same.filterMap fun source => source.getD (x.oui, 0)
  intro t e rejected
  rw [source?_of_rejection? rejected, Option.getD_some]

/-- If items of different subtypes may change places, so may TLVs of different sources. -/
theorem alike_of_sameByKey {least? : UInt8 → Octets → Option Nat} (asks : x.Asks least?)
    {subtype : ι → UInt8} (keyed : x.Keyed subtype)
    (commute : ∀ items others : List ι, SameByKey subtype items others →
      items.foldl x.add x.empty = others.foldl x.add x.empty)
    (same : SameByKey OrganizationTlv.source ts us) : (x.decode ts).Alike (x.decode us) := by
  refine ⟨?_, (sameByKey_errors asks same).perm⟩
  rw [value_decode, value_decode, commute _ _ (sameByKey_said? same keyed)]

end Extension

/-! ## The known extensions -/

namespace Bridging

namespace Item

theorem subtype_of_portVlanId? : ∀ {i : Item} {said : UInt16},
    i.portVlanId? = some said → i.subtype = 1
  | .portVlanId _, _, _ => rfl

theorem subtype_of_protocolVlan? : ∀ {i : Item} {said : ProtocolVlan},
    i.protocolVlan? = some said → i.subtype = 2
  | .protocolVlan _, _, _ => rfl

theorem subtype_of_vlanName? : ∀ {i : Item} {said : VlanName},
    i.vlanName? = some said → i.subtype = 3
  | .vlanName _, _, _ => rfl

theorem subtype_of_protocolIdentity? : ∀ {i : Item} {said : Octets},
    i.protocolIdentity? = some said → i.subtype = 4
  | .protocolIdentity (_ :: _), _, _ => rfl

theorem subtype_of_vidUsageDigest? : ∀ {i : Item} {said : UInt32},
    i.vidUsageDigest? = some said → i.subtype = 5
  | .vidUsageDigest _, _, _ => rfl

theorem subtype_of_managementVid? : ∀ {i : Item} {said : UInt16},
    i.managementVid? = some said → i.subtype = 6
  | .managementVid _, _, _ => rfl

theorem subtype_of_linkAggregation? : ∀ {i : Item} {said : LinkAggregation},
    i.linkAggregation? = some said → i.subtype = 7
  | .linkAggregation _, _, _ => rfl

end Item

theorem keyed : extension.Keyed Item.subtype := by
  intro subtype layout known payload
  change layout? subtype = some layout at known
  unfold layout? at known
  split at known
  case h_8 => contradiction
  all_goals
    cases known
    rfl

/-- Items of different subtypes may change places. -/
theorem ofItems_eq_of_sameByKey {items others : List Item}
    (same : SameByKey Item.subtype items others) : ofItems items = ofItems others := by
  have portVlanId := same.filterMap_eq fun _ _ said => Item.subtype_of_portVlanId? said
  have protocolVlans := same.filterMap_eq fun _ _ said => Item.subtype_of_protocolVlan? said
  have vlanNames := same.filterMap_eq fun _ _ said => Item.subtype_of_vlanName? said
  have protocolIdentities := same.filterMap_eq fun _ _ said =>
    Item.subtype_of_protocolIdentity? said
  have vidUsageDigest := same.filterMap_eq fun _ _ said => Item.subtype_of_vidUsageDigest? said
  have managementVid := same.filterMap_eq fun _ _ said => Item.subtype_of_managementVid? said
  have linkAggregation := same.filterMap_eq fun _ _ said => Item.subtype_of_linkAggregation? said
  rw [ofItems, portVlanId, protocolVlans, vlanNames, protocolIdentities, vidUsageDigest,
    managementVid, linkAggregation, ofItems]

/-- TLVs of different sources may change places. -/
theorem alike_of_sameByKey {ts us : List OrganizationTlv}
    (same : SameByKey OrganizationTlv.source ts us) :
    (extension.decode ts).Alike (extension.decode us) := by
  apply Extension.alike_of_sameByKey asks keyed _ same
  intro items others sameItems
  exact (foldl_add items).trans ((ofItems_eq_of_sameByKey sameItems).trans (foldl_add others).symm)

end Bridging

namespace Ethernet

namespace Item

variable {i : Item}

theorem subtype_of_macPhy? {said : MacPhy} (is : i.macPhy? = some said) : i.subtype = 1 := by
  cases i with
  | macPhy => rfl
  | _ => contradiction

theorem subtype_of_power? {said : PowerViaMdi} (is : i.power? = some said) : i.subtype = 2 := by
  cases i with
  | power => rfl
  | _ => contradiction

theorem subtype_of_linkAggregation? {said : LinkAggregation} (is : i.linkAggregation? = some said) :
    i.subtype = 3 := by
  cases i with
  | linkAggregation => rfl
  | _ => contradiction

theorem subtype_of_maxFrameSize? {said : UInt16} (is : i.maxFrameSize? = some said) :
    i.subtype = 4 := by
  cases i with
  | maxFrameSize => rfl
  | _ => contradiction

end Item

theorem keyed : extension.Keyed Item.subtype := by
  intro subtype layout known payload
  change layout? subtype = some layout at known
  unfold layout? at known
  split at known
  case h_5 => contradiction
  all_goals
    cases known
    rfl

/-- Items of different subtypes may change places. -/
theorem ofItems_eq_of_sameByKey {items others : List Item}
    (same : SameByKey Item.subtype items others) : ofItems items = ofItems others := by
  have macPhy := same.filterMap_eq fun _ _ said => Item.subtype_of_macPhy? said
  have power := same.filterMap_eq fun _ _ said => Item.subtype_of_power? said
  have linkAggregation := same.filterMap_eq fun _ _ said => Item.subtype_of_linkAggregation? said
  have maxFrameSize := same.filterMap_eq fun _ _ said => Item.subtype_of_maxFrameSize? said
  rw [ofItems, macPhy, power, linkAggregation, maxFrameSize, ofItems]

/-- TLVs of different sources may change places. -/
theorem alike_of_sameByKey {ts us : List OrganizationTlv}
    (same : SameByKey OrganizationTlv.source ts us) :
    (extension.decode ts).Alike (extension.decode us) := by
  apply Extension.alike_of_sameByKey asks keyed _ same
  intro items others sameItems
  exact (foldl_add items).trans ((ofItems_eq_of_sameByKey sameItems).trans (foldl_add others).symm)

end Ethernet

namespace EdgeBridging

/-- There is one subtype with a layout, so all settings are read at the same one. -/
theorem keyed : extension.Keyed fun _ => 0 := by
  intro subtype layout known _
  change layout? subtype = some layout at known
  unfold layout? at known
  split at known
  · rfl
  · contradiction

/-- TLVs of different sources may change places. -/
theorem alike_of_sameByKey {ts us : List OrganizationTlv}
    (same : SameByKey OrganizationTlv.source ts us) :
    (extension.decode ts).Alike (extension.decode us) := by
  apply Extension.alike_of_sameByKey asks keyed _ same
  intro items others sameItems
  have equal := sameItems 0
  simp only [decide_true, List.filter_true] at equal
  rw [equal]

end EdgeBridging

end Lldpdu
