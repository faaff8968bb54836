import Lldpdu.Extension.Bridging
import Lldpdu.Extension.EdgeBridging
import Lldpdu.Extension.Ethernet.Basic
import Lldpdu.Proofs.FlagSet
import Lldpdu.Proofs.Octets
import Lldpdu.Proofs.Text.Utf8

/-!
# Payloads of the extensions as they are written

Each item of an extension is written as the payload of a TLV, and is read back from it.  The
layouts leave something open: bits of an octet or of a word that stand for no flag, the length
octet in front of a VLAN name, and octets behind the part that is read.  A `Filler` fills all of
that, and what it is makes no difference.

The source of power shares an octet with the type of device.  It is written without the offset
that tells the sources of powered devices from the others.
-/

namespace Lldpdu

/-- What a layout leaves open, in a payload that is written. -/
structure Filler where
  /-- The free bits of the octet or the word at an offset. -/
  bits : Nat → Nat := fun _ => 0
  /-- The length octet in front of a VLAN name. -/
  length : UInt8 := 0
  /-- The octets behind the part that is read. -/
  more : Octets := []

/-- A TLV is read as the item that its payload carries. -/
theorem Extension.read?_eq_ok {ι σ : Type} {x : Extension ι σ} {t : OrganizationTlv}
    {layout : Layout ι} {item : ι} (known : x.layout? t.subtype = some layout)
    (decoded : layout.decode t.payload = .ok item) : x.read? t = some (.ok item) := by
  rw [read?, known, Option.map_some, decoded]
  rfl

/-! ## Bridging -/

namespace Bridging

namespace Item

/-- The subtype of the TLVs that carry an item. -/
def subtype : Item → UInt8
  | .portVlanId _ => 1
  | .protocolVlan _ => 2
  | .vlanName _ => 3
  | .protocolIdentity _ => 4
  | .vidUsageDigest _ => 5
  | .managementVid _ => 6
  | .linkAggregation _ => 7

/-- The payload that carries an item.  A VLAN name goes on to the end of the payload, so nothing
can be put behind it. -/
def payload (filler : Filler) : Item → Octets
  | .portVlanId id => Octets.ofNumber 2 id.toNat ++ filler.more
  | .protocolVlan vlan =>
      Octets.flags [vlan.supported, vlan.enabled] (filler.bits 0) ::
        (Octets.ofNumber 2 vlan.id.toNat ++ filler.more)
  | .vlanName vlan =>
      Octets.ofNumber 2 vlan.id.toNat ++ filler.length :: Text.encode vlan.name
  | .protocolIdentity identity =>
      UInt8.ofNat identity.length :: (identity ++ filler.more)
  | .vidUsageDigest digest => Octets.ofNumber 4 digest.toNat ++ filler.more
  | .managementVid id => Octets.ofNumber 2 id.toNat ++ filler.more
  | .linkAggregation aggregation =>
      Octets.flags [aggregation.supported, aggregation.enabled] (filler.bits 0) ::
        (Octets.ofNumber 4 aggregation.portId.toNat ++ filler.more)

/-- The TLV that carries an item. -/
def tlv (filler : Filler) (item : Item) : OrganizationTlv where
  oui := .ieee8021
  subtype := item.subtype
  payload := item.payload filler

/-- An item whose parts can be counted where they are counted. -/
def Fits : Item → Prop
  | .protocolIdentity identity => identity.length ≤ 255
  | _ => True

end Item

theorem decode_protocolVlan (vlan : ProtocolVlan) (filler : Filler) :
    protocolVlanLayout.decode (Item.payload filler (.protocolVlan vlan)) = .ok vlan := by
  have supported : (Item.payload filler (.protocolVlan vlan)).bit 0 0 = vlan.supported :=
    Octets.bit_flags _ rfl (by decide) _
  have enabled : (Item.payload filler (.protocolVlan vlan)).bit 0 1 = vlan.enabled :=
    Octets.bit_flags _ rfl (by decide) _
  have id : (Item.payload filler (.protocolVlan vlan)).u16 1 = vlan.id :=
    Octets.u16_append [_] vlan.id filler.more rfl
  rw [protocolVlanLayout, Layout.decode_atLeast_of_le (by simp [Item.payload]), supported, enabled,
    id]

theorem decode_vlanName (vlan : VlanName) (filler : Filler) :
    vlanNameLayout.decode (Item.payload filler (.vlanName vlan)) = .ok vlan := by
  have id : (Item.payload filler (.vlanName vlan)).u16 0 = vlan.id :=
    Octets.u16_append [] vlan.id _ rfl
  have name : (Item.payload filler (.vlanName vlan)).drop 3 = Text.encode vlan.name := by
    rw [Item.payload, List.append_cons, List.drop_left' (by simp)]
  rw [vlanNameLayout, Layout.decode_atLeast_of_le (by simp [Item.payload]), id, name,
    Text.lossy_encode]

theorem decode_protocolIdentity {identity : Octets} (counted : identity.length ≤ 255)
    (filler : Filler) :
    protocolIdentityLayout.decode (Item.payload filler (.protocolIdentity identity)) =
      .ok identity := by
  have count : ((Item.payload filler (.protocolIdentity identity)).octet 0).toNat =
      identity.length := by
    change (UInt8.ofNat identity.length).toNat = _
    rw [UInt8.toNat_ofNat']
    omega
  have part : (Item.payload filler (.protocolIdentity identity)).slice 1 identity.length =
      identity := Octets.slice_append [_] identity filler.more rfl rfl
  have met : protocolIdentityLayout.unmet? (Item.payload filler (.protocolIdentity identity)) =
      none := by
    simp only [Layout.unmet?, protocolIdentityLayout, count]
    simp [Item.payload]
    omega
  have read : protocolIdentityLayout.read (Item.payload filler (.protocolIdentity identity)) =
      identity := by
    change (Item.payload filler (.protocolIdentity identity)).slice 1
      ((Item.payload filler (.protocolIdentity identity)).octet 0).toNat = identity
    rw [count, part]
  rw [Layout.decode, met]
  exact congrArg Except.ok read

theorem decode_linkAggregation (aggregation : LinkAggregation) (filler : Filler) :
    linkAggregationLayout.decode (Item.payload filler (.linkAggregation aggregation)) =
      .ok aggregation := by
  have supported :
      (Item.payload filler (.linkAggregation aggregation)).bit 0 0 = aggregation.supported :=
    Octets.bit_flags _ rfl (by decide) _
  have enabled :
      (Item.payload filler (.linkAggregation aggregation)).bit 0 1 = aggregation.enabled :=
    Octets.bit_flags _ rfl (by decide) _
  have portId : (Item.payload filler (.linkAggregation aggregation)).u32 1 = aggregation.portId :=
    Octets.u32_append [_] aggregation.portId filler.more rfl
  rw [linkAggregationLayout, Layout.decode_atLeast_of_le (by simp [Item.payload]), supported,
    enabled, portId]

/-- An item is read back from the TLV that carries it. -/
theorem read?_tlv {item : Item} (fits : item.Fits) (filler : Filler) :
    extension.read? (item.tlv filler) = some (.ok item) := by
  cases item with
  | portVlanId id =>
      have number : (Item.payload filler (.portVlanId id)).u16 0 = id :=
        Octets.u16_append [] id filler.more rfl
      apply Extension.read?_eq_ok rfl
      rw [Item.tlv, Layout.decode_atLeast_of_le (by simp [Item.payload]), number]
  | protocolVlan vlan =>
      apply Extension.read?_eq_ok rfl
      rw [Layout.decode_map, Item.tlv, decode_protocolVlan]
      rfl
  | vlanName name =>
      apply Extension.read?_eq_ok rfl
      rw [Layout.decode_map, Item.tlv, decode_vlanName]
      rfl
  | protocolIdentity identity =>
      apply Extension.read?_eq_ok rfl
      rw [Layout.decode_map, Item.tlv, decode_protocolIdentity fits]
      rfl
  | vidUsageDigest digest =>
      have number : (Item.payload filler (.vidUsageDigest digest)).u32 0 = digest :=
        Octets.u32_append [] digest filler.more rfl
      apply Extension.read?_eq_ok rfl
      rw [Item.tlv, Layout.decode_atLeast_of_le (by simp [Item.payload]), number]
  | managementVid id =>
      have number : (Item.payload filler (.managementVid id)).u16 0 = id :=
        Octets.u16_append [] id filler.more rfl
      apply Extension.read?_eq_ok rfl
      rw [Item.tlv, Layout.decode_atLeast_of_le (by simp [Item.payload]), number]
  | linkAggregation aggregation =>
      apply Extension.read?_eq_ok rfl
      rw [Layout.decode_map, Item.tlv, decode_linkAggregation]
      rfl

end Bridging

/-! ## Power over the medium -/

namespace PowerViaMdi

/-- A record of power whose codes have room in the bits that carry them, and whose source is one
of a device of its type. -/
structure Fits (power : PowerViaMdi) : Prop where
  type : power.type.raw.toNat ≤ 3
  sourcing : power.type.isSourcing = true → power.source.raw.toNat ≤ 3
  powered : power.type.isSourcing = false →
    128 ≤ power.source.raw.toNat ∧ power.source.raw.toNat ≤ 131
  priority : power.priority.raw.toNat ≤ 15

/-- The octet that carries the type of device and the source of the power. -/
def sourceOctet (power : PowerViaMdi) (below : Nat) : UInt8 :=
  UInt8.ofNat (power.type.raw.toNat * 64 + power.source.raw.toNat % 128 * 16 + below % 16)

/-- The octet that carries the priority. -/
def priorityOctet (power : PowerViaMdi) (above : Nat) : UInt8 :=
  UInt8.ofNat (above * 16 + power.priority.raw.toNat)

/-- The payload that carries a record of power, in its form of nine octets. -/
def payload (power : PowerViaMdi) (filler : Filler) : Octets :=
  Octets.flags [power.isSourcingPort, power.supported, power.enabled, power.pairsControllable]
      (filler.bits 0) ::
    power.pair :: power.powerClass :: power.sourceOctet (filler.bits 3) ::
    power.priorityOctet (filler.bits 4) ::
    (Octets.ofNumber 2 power.requested.toNat ++
      (Octets.ofNumber 2 power.allocated.toNat ++ filler.more))

variable {power : PowerViaMdi}

theorem Fits.sourceBits (fits : power.Fits) : power.source.raw.toNat % 128 ≤ 3 := by
  cases side : power.type.isSourcing with
  | true =>
      have small := fits.sourcing side
      omega
  | false =>
      obtain ⟨least, most⟩ := fits.powered side
      omega

theorem toNat_sourceOctet (fits : power.Fits) (below : Nat) :
    (power.sourceOctet below).toNat =
      power.type.raw.toNat * 64 + power.source.raw.toNat % 128 * 16 + below % 16 := by
  have type := fits.type
  have source := fits.sourceBits
  rw [sourceOctet, UInt8.toNat_ofNat']
  omega

theorem type_sourceOctet (fits : power.Fits) (below : Nat) :
    power.sourceOctet below >>> 6 = power.type.raw := by
  have source := fits.sourceBits
  apply UInt8.toNat_inj.mp
  rw [UInt8.toNat_shiftRight, toNat_sourceOctet fits, Nat.shiftRight_eq_div_pow]
  change _ / 64 = _
  omega

theorem source_sourceOctet (fits : power.Fits) (below : Nat) :
    (power.sourceOctet below >>> 4) &&& 3 = UInt8.ofNat (power.source.raw.toNat % 128) := by
  have source := fits.sourceBits
  apply UInt8.toNat_inj.mp
  rw [UInt8.toNat_and, UInt8.toNat_shiftRight, toNat_sourceOctet fits,
    Nat.shiftRight_eq_div_pow, UInt8.toNat_ofNat']
  change _ / 16 &&& (2 ^ 2 - 1) = _
  rw [Nat.and_two_pow_sub_one_eq_mod]
  omega

/-- The source is read back at a device of its type, moved up if the device is powered. -/
theorem ofBits_source (fits : power.Fits) :
    PowerSource.ofBits power.type (UInt8.ofNat (power.source.raw.toNat % 128)) = power.source := by
  rw [PowerSource.ofBits]
  cases side : power.type.isSourcing with
  | true =>
      have small := fits.sourcing side
      rw [if_pos rfl, Nat.mod_eq_of_lt (by omega), UInt8.ofNat_toNat]
  | false =>
      obtain ⟨least, most⟩ := fits.powered side
      have raw : UInt8.ofNat (power.source.raw.toNat % 128) + PowerSource.poweredOffset =
          power.source.raw := by
        apply UInt8.toNat_inj.mp
        rw [UInt8.toNat_add, UInt8.toNat_ofNat']
        change (_ % 2 ^ 8 + 128) % 2 ^ 8 = _
        omega
      rw [if_neg Bool.false_ne_true]
      exact congrArg Code.mk raw

theorem priority_priorityOctet (fits : power.Fits) (above : Nat) :
    power.priorityOctet above &&& 15 = power.priority.raw := by
  have priority := fits.priority
  apply UInt8.toNat_inj.mp
  rw [UInt8.toNat_and, priorityOctet, UInt8.toNat_ofNat']
  change _ % 2 ^ 8 &&& (2 ^ 4 - 1) = _
  rw [Nat.and_two_pow_sub_one_eq_mod]
  omega

theorem basic_payload (power : PowerViaMdi) (filler : Filler) :
    basic (power.payload filler) =
      { isSourcingPort := power.isSourcingPort
        supported := power.supported
        enabled := power.enabled
        pairsControllable := power.pairsControllable
        pair := power.pair
        powerClass := power.powerClass } := by
  have isSourcingPort : (power.payload filler).bit 0 0 = power.isSourcingPort :=
    Octets.bit_flags _ rfl (by decide) _
  have supported : (power.payload filler).bit 0 1 = power.supported :=
    Octets.bit_flags _ rfl (by decide) _
  have enabled : (power.payload filler).bit 0 2 = power.enabled :=
    Octets.bit_flags _ rfl (by decide) _
  have pairsControllable : (power.payload filler).bit 0 3 = power.pairsControllable :=
    Octets.bit_flags _ rfl (by decide) _
  rw [basic, isSourcingPort, supported, enabled, pairsControllable]
  rfl

theorem decode_payload (fits : power.Fits) (filler : Filler) :
    layout.decode (power.payload filler) = .ok power := by
  have length : (power.payload filler).length = 9 + filler.more.length := by
    simp [payload]
    omega
  have type : (power.payload filler).octet 3 >>> 6 = power.type.raw :=
    type_sourceOctet fits (filler.bits 3)
  have source : ((power.payload filler).octet 3 >>> 4) &&& 3 =
      UInt8.ofNat (power.source.raw.toNat % 128) := source_sourceOctet fits (filler.bits 3)
  have priority : (power.payload filler).octet 4 &&& 15 = power.priority.raw :=
    priority_priorityOctet fits (filler.bits 4)
  have requested : (power.payload filler).u16 5 = power.requested :=
    Octets.u16_append [_, _, _, _, _] power.requested _ rfl
  have allocated : (power.payload filler).u16 7 = power.allocated :=
    Octets.u16_append ([_, _, _, _, _] ++ Octets.ofNumber 2 power.requested.toNat)
      power.allocated filler.more (by simp)
  rw [layout, Layout.decode_atLeast_of_le (by omega), if_pos (by omega), basic_payload, extend,
    type, source, priority, requested, allocated, if_pos (by omega)]
  dsimp only
  rw [ofBits_source fits]

end PowerViaMdi

/-! ## Ethernet -/

namespace Ethernet

namespace Item

/-- The subtype of the TLVs that carry an item. -/
def subtype : Item → UInt8
  | .macPhy _ => 1
  | .power _ => 2
  | .linkAggregation _ => 3
  | .maxFrameSize _ => 4

/-- The payload that carries an item. -/
def payload (filler : Filler) : Item → Octets
  | .macPhy said =>
      Octets.flags [said.autonegotiationSupported, said.autonegotiationEnabled] (filler.bits 0) ::
        (Octets.ofNumber 2 (said.advertised.word 0).toNat ++
          (Octets.ofNumber 2 said.mauType.raw.toNat ++ filler.more))
  | .power said => said.payload filler
  | .linkAggregation said => said.status :: (Octets.ofNumber 4 said.portId.toNat ++ filler.more)
  | .maxFrameSize size => Octets.ofNumber 2 size.toNat ++ filler.more

/-- The TLV that carries an item. -/
def tlv (filler : Filler) (item : Item) : OrganizationTlv where
  oui := .ieee8023
  subtype := item.subtype
  payload := item.payload filler

/-- An item whose codes have room in the bits that carry them. -/
def Fits : Item → Prop
  | .power said => said.Fits
  | _ => True

end Item

theorem decode_macPhy (said : MacPhy) (filler : Filler) :
    macPhyLayout.decode (Item.payload filler (.macPhy said)) = .ok said := by
  have supported :
      (Item.payload filler (.macPhy said)).bit 0 0 = said.autonegotiationSupported :=
    Octets.bit_flags _ rfl (by decide) _
  have enabled : (Item.payload filler (.macPhy said)).bit 0 1 = said.autonegotiationEnabled :=
    Octets.bit_flags _ rfl (by decide) _
  have advertised : (Item.payload filler (.macPhy said)).u16 1 = said.advertised.word 0 :=
    Octets.u16_append [_] (said.advertised.word 0) _ rfl
  have mauType : (Item.payload filler (.macPhy said)).u16 3 = said.mauType.raw :=
    Octets.u16_append ([_] ++ Octets.ofNumber 2 (said.advertised.word 0).toNat)
      said.mauType.raw filler.more (by simp)
  rw [macPhyLayout, Layout.decode_atLeast_of_le (by simp [Item.payload]; omega), supported, enabled,
    advertised, mauType, FlagSet.ofWord_word (by decide)]

theorem decode_linkAggregation (said : LinkAggregation) (filler : Filler) :
    linkAggregationLayout.decode (Item.payload filler (.linkAggregation said)) = .ok said := by
  have portId : (Item.payload filler (.linkAggregation said)).u32 1 = said.portId :=
    Octets.u32_append [_] said.portId filler.more rfl
  rw [linkAggregationLayout, Layout.decode_atLeast_of_le (by simp [Item.payload]), portId]
  rfl

/-- An item is read back from the TLV that carries it. -/
theorem read?_tlv {item : Item} (fits : item.Fits) (filler : Filler) :
    extension.read? (item.tlv filler) = some (.ok item) := by
  cases item with
  | macPhy said =>
      apply Extension.read?_eq_ok rfl
      rw [Layout.decode_map, Item.tlv, decode_macPhy]
      rfl
  | power said =>
      apply Extension.read?_eq_ok rfl
      rw [Layout.decode_map, Item.tlv, Item.payload, PowerViaMdi.decode_payload fits]
      rfl
  | linkAggregation said =>
      apply Extension.read?_eq_ok rfl
      rw [Layout.decode_map, Item.tlv, decode_linkAggregation]
      rfl
  | maxFrameSize size =>
      have number : (Item.payload filler (.maxFrameSize size)).u16 0 = size :=
        Octets.u16_append [] size filler.more rfl
      apply Extension.read?_eq_ok rfl
      rw [Item.tlv, Layout.decode_atLeast_of_le (by simp [Item.payload]), number]

end Ethernet

/-! ## Edge virtual bridging -/

namespace EdgeBridging

/-- The payload that carries settings. -/
def Settings.payload (settings : Settings) (filler : Filler) : Octets :=
  Octets.ofNumber 2 (settings.supported.word (filler.bits 0)).toNat ++
    (Octets.ofNumber 2 (settings.enabled.word (filler.bits 2)).toNat ++
      (Octets.ofNumber 2 settings.supportedInterfaces.toNat ++
        (Octets.ofNumber 2 settings.configuredInterfaces.toNat ++
          settings.timerExponent :: filler.more)))

/-- The TLV that carries settings. -/
def Settings.tlv (filler : Filler) (settings : Settings) : OrganizationTlv where
  oui := .ieee8021Qbg
  subtype := 0
  payload := settings.payload filler

theorem decode_payload (settings : Settings) (filler : Filler) :
    settingsLayout.decode (settings.payload filler) = .ok settings := by
  let supported := Octets.ofNumber 2 (settings.supported.word (filler.bits 0)).toNat
  let enabled := Octets.ofNumber 2 (settings.enabled.word (filler.bits 2)).toNat
  let supportedInterfaces := Octets.ofNumber 2 settings.supportedInterfaces.toNat
  let configuredInterfaces := Octets.ofNumber 2 settings.configuredInterfaces.toNat
  have first : (settings.payload filler).u16 0 = settings.supported.word (filler.bits 0) :=
    Octets.u16_append [] _ _ rfl
  have second : (settings.payload filler).u16 2 = settings.enabled.word (filler.bits 2) :=
    Octets.u16_append supported _ _ (by simp [supported])
  have third : (settings.payload filler).u16 4 = settings.supportedInterfaces := by
    have split : settings.payload filler = (supported ++ enabled) ++ (supportedInterfaces ++
        (configuredInterfaces ++ settings.timerExponent :: filler.more)) :=
      (List.append_assoc ..).symm
    rw [split]
    exact Octets.u16_append _ _ _ (by simp [supported, enabled])
  have fourth : (settings.payload filler).u16 6 = settings.configuredInterfaces := by
    have split : settings.payload filler = (supported ++ enabled ++ supportedInterfaces) ++
        (configuredInterfaces ++ settings.timerExponent :: filler.more) := by
      simp [Settings.payload, supported, enabled, supportedInterfaces, configuredInterfaces]
    rw [split]
    exact Octets.u16_append _ _ _ (by simp [supported, enabled, supportedInterfaces])
  have fifth : (settings.payload filler).octet 8 = settings.timerExponent := by
    have split : settings.payload filler =
        (supported ++ enabled ++ supportedInterfaces ++ configuredInterfaces) ++
          settings.timerExponent :: filler.more := by
      simp [Settings.payload, supported, enabled, supportedInterfaces, configuredInterfaces]
    rw [split]
    exact Octets.octet_append _ _ _
      (by simp [supported, enabled, supportedInterfaces, configuredInterfaces])
  rw [settingsLayout, Layout.decode_atLeast_of_le (by simp [Settings.payload]; omega), first,
    second, third, fourth, fifth, FlagSet.ofWord_word (by decide), FlagSet.ofWord_word (by decide)]

/-- Settings are read back from the TLV that carries them. -/
theorem read?_tlv (settings : Settings) (filler : Filler) :
    extension.read? (settings.tlv filler) = some (.ok settings) :=
  Extension.read?_eq_ok rfl (decode_payload settings filler)

end EdgeBridging

end Lldpdu
