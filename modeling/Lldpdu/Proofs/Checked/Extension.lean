import Lldpdu.Extension.Report
import Lldpdu.Proofs.Checked.Layout
import Mathlib.Data.Option.Basic

/-!
# The extensions, operation by operation

The payloads of the extensions have their fields at fixed offsets, but for the protocol identity,
which declares its own length, and the source of power, whose code is a sum of octets for the
devices that draw power.  The two bits that a source takes leave the sum well below 256.
-/

namespace Lldpdu.Checked

/-! ## Bridging -/

/-- The decoder of a 16-bit number at the start of a payload. -/
def leadingU16 : Decoder UInt16 :=
  atLeast 2 fun v => do u16 (← range v 0 2)

/-- The decoder of a port and protocol VLAN. -/
def protocolVlan : Decoder Bridging.ProtocolVlan :=
  atLeast 3 fun v => do
    let flags ← octet v 0
    let id ← u16 (← range v 1 3)
    return { supported := flags.toNat.testBit 0, enabled := flags.toNat.testBit 1, id }

/-- The decoder of a VLAN name. -/
def vlanName : Decoder Bridging.VlanName :=
  atLeast 2 fun v => do
    let id ← u16 (← range v 0 2)
    return { id, name := Text.lossy ((get? v 3 v.length).getD []) }

/-- The decoder of a protocol identity.  One of no octets is not read, and it will not be kept. -/
def protocolIdentity : Decoder Octets := fun v => do
  if v.length < 1 then
    return (none, [1])
  let length := (← octet v 0).toNat
  if length = 0 then
    return (some [], [])
  let wanted ← addWord 1 length
  if v.length < wanted then
    return (none, [wanted])
  let identity ← range v 1 (← addWord 1 length)
  return (some identity, [])

/-- The decoder of a usage digest. -/
def vidUsageDigest : Decoder UInt32 :=
  atLeast 4 fun v => do u32 (← range v 0 4)

/-- The decoder of a link aggregation of a bridge port. -/
def bridgingAggregation : Decoder Bridging.LinkAggregation :=
  atLeast 5 fun v => do
    let flags ← octet v 0
    let portId ← u32 (← range v 1 5)
    return { supported := flags.toNat.testBit 0, enabled := flags.toNat.testBit 1, portId }

/-- The decoder of the payloads of a bridging subtype. -/
def bridging? : UInt8 → Option (Decoder Bridging.Item)
  | 1 => some (mapItem .portVlanId leadingU16)
  | 2 => some (mapItem .protocolVlan protocolVlan)
  | 3 => some (mapItem .vlanName vlanName)
  | 4 => some (mapItem .protocolIdentity protocolIdentity)
  | 5 => some (mapItem .vidUsageDigest vidUsageDigest)
  | 6 => some (mapItem .managementVid leadingU16)
  | 7 => some (mapItem .linkAggregation bridgingAggregation)
  | _ => none

/-! ## Ethernet -/

/-- The decoder of a physical layer. -/
def macPhy : Decoder Ethernet.MacPhy :=
  atLeast 5 fun v => do
    let flags ← octet v 0
    let advertised ← u16 (← range v 1 3)
    let mauType ← u16 (← range v 3 5)
    return {
      autonegotiationSupported := flags.toNat.testBit 0
      autonegotiationEnabled := flags.toNat.testBit 1
      advertised := .ofWord advertised
      mauType := ⟨mauType⟩ }

/-- The source that two bits stand for at a device of the given type. -/
def powerSource (type : PowerType) (bits : UInt8) : Checked PowerSource := do
  if type.isSourcing then
    return ⟨bits⟩
  return ⟨← addOctet bits PowerSource.poweredOffset⟩

/-- The power in a payload that has its three octets. -/
def readPower (v : Octets) : Checked PowerViaMdi := do
  let flags ← octet v 0
  let power : PowerViaMdi :=
    { isSourcingPort := flags.toNat.testBit 0
      supported := flags.toNat.testBit 1
      enabled := flags.toNat.testBit 2
      pairsControllable := flags.toNat.testBit 3
      pair := ← octet v 1
      powerClass := ← octet v 2 }
  if v.length < 8 then
    return power
  let type : PowerType := ⟨((← octet v 3) &&& 0xc0) >>> 6⟩
  let source ← powerSource type (((← octet v 3) &&& 0x30) >>> 4)
  let priority : PowerPriority := ⟨(← octet v 4) &&& 0x0f⟩
  let requested ← u16 (← range v 5 7)
  match get? v 7 9 with
  | some allocated =>
      return { power with type, source, priority, requested, allocated := ← u16 allocated }
  | none => return { power with type, source, priority, requested }

/-- The decoder of the power. -/
def power : Decoder PowerViaMdi :=
  atLeast 3 readPower

/-- The decoder of a link aggregation of an Ethernet port. -/
def ethernetAggregation : Decoder Ethernet.LinkAggregation :=
  atLeast 5 fun v => do
    let status ← octet v 0
    let portId ← u32 (← range v 1 5)
    return { status, portId }

/-- The decoder of the payloads of an Ethernet subtype. -/
def ethernet? : UInt8 → Option (Decoder Ethernet.Item)
  | 1 => some (mapItem .macPhy macPhy)
  | 2 => some (mapItem .power power)
  | 3 => some (mapItem .linkAggregation ethernetAggregation)
  | 4 => some (mapItem .maxFrameSize leadingU16)
  | _ => none

/-! ## Edge virtual bridging -/

/-- The decoder of the settings. -/
def settings : Decoder EdgeBridging.Settings :=
  atLeast 9 fun v => do
    let supported ← u16 (← range v 0 2)
    let enabled ← u16 (← range v 2 4)
    let supportedInterfaces ← u16 (← range v 4 6)
    let configuredInterfaces ← u16 (← range v 6 8)
    let timerExponent ← octet v 8
    return {
      supported := .ofWord supported
      enabled := .ofWord enabled
      supportedInterfaces
      configuredInterfaces
      timerExponent }

/-- The decoder of the payloads of a subtype of edge virtual bridging. -/
def edgeBridging? : UInt8 → Option (Decoder EdgeBridging.Settings)
  | 0 => some settings
  | _ => none

/-! ## Records -/

/-- The record of an extension whose subtypes are read by the given decoders. -/
def extension {ι σ : Type} (x : Extension ι σ) (decoder? : UInt8 → Option (Decoder ι))
    (tlvs : List OrganizationTlv) : Checked (Decoded σ) :=
  (organizationTlvsOf x.oui tlvs).foldlM (fun d t => do
    match decoder? t.subtype with
    | some decoder =>
        return record x.add (.organizationTlv t.oui t.subtype t.payload.length) d
          (← decoder t.payload)
    | none => return d) ⟨x.empty, []⟩

/-! ## What the decoders make of a payload -/

theorem decodes_leadingU16 : Decodes leadingU16 (.atLeast 2 fun v => v.u16 0) := by
  apply decodes_atLeast
  intro v long
  simp (disch := omega) only [range_eq_ok, ok_bind, Nat.reduceSub, u16_slice]

theorem decodes_protocolVlan : Decodes protocolVlan Bridging.protocolVlanLayout := by
  apply decodes_atLeast
  intro v long
  simp (disch := omega) only [octet_eq_ok, range_eq_ok, ok_bind, Nat.reduceSub, u16_slice,
    pure_eq_ok, Octets.bit]

theorem decodes_vlanName : Decodes vlanName Bridging.vlanNameLayout := by
  apply decodes_atLeast
  intro v long
  simp (disch := omega) only [range_eq_ok, ok_bind, Nat.reduceSub, u16_slice, pure_eq_ok,
    getD_get?_rest]

theorem decode_protocolIdentity (v : Octets) :
    Bridging.protocolIdentityLayout.decode v =
      if v.length < 1 then .error 1
      else if v.length < 1 + (v.octet 0).toNat then .error (1 + (v.octet 0).toNat)
      else .ok (v.slice 1 (v.octet 0).toNat) := by
  simp only [Layout.decode, Layout.unmet?, Bridging.protocolIdentityLayout]
  by_cases nothing : v.length < 1
  · simp [nothing]
  by_cases short : v.length < 1 + (v.octet 0).toNat
  · simp [nothing, short]
  · simp [nothing, short]

/-- An identity of no octets is not read, and the layout finds an empty one there. -/
theorem decodes_protocolIdentity : Decodes protocolIdentity Bridging.protocolIdentityLayout := by
  intro v
  have bound := (v.octet 0).toNat_lt
  rw [outcome, decode_protocolIdentity, protocolIdentity]
  by_cases nothing : v.length < 1
  · simp only [if_pos nothing, pure_eq_ok]
  rw [if_neg nothing, if_neg nothing, octet_eq_ok (by omega), ok_bind]
  generalize (v.octet 0).toNat = n at bound ⊢
  have sum : addWord 1 n = .ok (1 + n) := addWord_eq_ok (by omega)
  by_cases empty : n = 0
  · subst empty
    rw [if_neg nothing]
    rfl
  by_cases short : v.length < 1 + n
  · simp only [if_neg empty, sum, ok_bind, if_pos short, pure_eq_ok]
  · simp only [if_neg empty, sum, ok_bind, if_neg short, Nat.add_sub_cancel_left, pure_eq_ok,
      range_eq_ok (Nat.le_add_right 1 n) (Nat.not_lt.mp short)]

theorem decodes_vidUsageDigest :
    Decodes vidUsageDigest (.atLeast 4 fun v => v.u32 0) := by
  apply decodes_atLeast
  intro v long
  simp (disch := omega) only [range_eq_ok, ok_bind, Nat.reduceSub, u32_slice]

theorem decodes_bridgingAggregation :
    Decodes bridgingAggregation Bridging.linkAggregationLayout := by
  apply decodes_atLeast
  intro v long
  simp (disch := omega) only [octet_eq_ok, range_eq_ok, ok_bind, Nat.reduceSub, u32_slice,
    pure_eq_ok, Octets.bit]

theorem bridging?_agrees (subtype : UInt8) :
    Option.Rel Decodes (bridging? subtype) (Bridging.layout? subtype) := by
  unfold bridging?
  split
  · exact .some (decodes_leadingU16.map _)
  · exact .some (decodes_protocolVlan.map _)
  · exact .some (decodes_vlanName.map _)
  · exact .some (decodes_protocolIdentity.map _)
  · exact .some (decodes_vidUsageDigest.map _)
  · exact .some (decodes_leadingU16.map _)
  · exact .some (decodes_bridgingAggregation.map _)
  · rw [Bridging.layout?]
    exact .none
    all_goals assumption

/-- The type of device is in the two high bits of its octet. -/
theorem type_bits (b : UInt8) : (b &&& 0xc0) >>> 6 = b >>> 6 := by
  have bound := b.toNat_lt
  apply UInt8.toNat_inj.mp
  rw [UInt8.toNat_shiftRight, UInt8.toNat_shiftRight, UInt8.toNat_and,
    Nat.shiftRight_and_distrib]
  change b.toNat >>> 6 &&& 2 ^ 2 - 1 = b.toNat >>> 6
  rw [Nat.and_two_pow_sub_one_eq_mod, Nat.shiftRight_eq_div_pow]
  omega

/-- The source is in the two bits below. -/
theorem source_bits (b : UInt8) : (b &&& 0x30) >>> 4 = (b >>> 4) &&& 3 := by
  apply UInt8.toNat_inj.mp
  simp [Nat.shiftRight_and_distrib]

/-- Two bits moved up by 128 still fit an octet. -/
theorem powerSource_eq_ok (type : PowerType) (b : UInt8) :
    powerSource type ((b >>> 4) &&& 3) = .ok (.ofBits type ((b >>> 4) &&& 3)) := by
  have small : ((b >>> 4) &&& 3).toNat < 4 := by
    rw [UInt8.toNat_and]
    exact Nat.lt_of_le_of_lt Nat.and_le_right (by decide)
  have fits : ((b >>> 4) &&& 3).toNat + PowerSource.poweredOffset.toNat < 2 ^ 8 := by
    have offset : PowerSource.poweredOffset.toNat = 128 := rfl
    omega
  rw [powerSource, PowerSource.ofBits, addOctet_eq_ok fits]
  cases type.isSourcing <;> rfl

theorem decodes_macPhy : Decodes macPhy Ethernet.macPhyLayout := by
  apply decodes_atLeast
  intro v long
  simp (disch := omega) only [octet_eq_ok, range_eq_ok, ok_bind, Nat.reduceSub, u16_slice,
    pure_eq_ok, Octets.bit]

theorem readPower_eq_ok {v : Octets} (long : 3 ≤ v.length) :
    readPower v = .ok (if 8 ≤ v.length then (PowerViaMdi.basic v).extend v else .basic v) := by
  simp (disch := omega) only [readPower, octet_eq_ok, ok_bind]
  by_cases extended : v.length < 8
  · rw [if_pos extended, if_neg (Nat.not_le.mpr extended)]
    rfl
  rw [if_neg extended, if_pos (Nat.not_lt.mp extended)]
  simp (disch := omega) only [octet_eq_ok, range_eq_ok, ok_bind, Nat.reduceSub, u16_slice,
    type_bits, source_bits, powerSource_eq_ok]
  by_cases ninth : 9 ≤ v.length
  · simp (disch := omega) only [get?_eq_some, Nat.reduceSub, u16_slice, ok_bind, pure_eq_ok,
      PowerViaMdi.extend, if_pos ninth]
    rfl
  · simp only [get?_eq_none (Nat.not_le.mp ninth), PowerViaMdi.extend, if_neg ninth]
    rfl

theorem decodes_ethernetAggregation :
    Decodes ethernetAggregation Ethernet.linkAggregationLayout := by
  apply decodes_atLeast
  intro v long
  simp (disch := omega) only [octet_eq_ok, range_eq_ok, ok_bind, Nat.reduceSub, u32_slice,
    pure_eq_ok]

theorem ethernet?_agrees (subtype : UInt8) :
    Option.Rel Decodes (ethernet? subtype) (Ethernet.layout? subtype) := by
  unfold ethernet?
  split
  · exact .some (decodes_macPhy.map _)
  · exact .some ((decodes_atLeast fun _ => readPower_eq_ok).map _)
  · exact .some (decodes_ethernetAggregation.map _)
  · exact .some (decodes_leadingU16.map _)
  · rw [Ethernet.layout?]
    exact .none
    all_goals assumption

theorem decodes_settings : Decodes settings EdgeBridging.settingsLayout := by
  apply decodes_atLeast
  intro v long
  simp (disch := omega) only [octet_eq_ok, range_eq_ok, ok_bind, Nat.reduceSub, u16_slice,
    pure_eq_ok]

theorem edgeBridging?_agrees (subtype : UInt8) :
    Option.Rel Decodes (edgeBridging? subtype) (EdgeBridging.layout? subtype) := by
  unfold edgeBridging?
  split
  · exact .some decodes_settings
  · rw [EdgeBridging.layout?]
    exact .none
    assumption

/-! ## Whole extensions -/

/-- If its decoders agree with its layouts, no list of TLVs makes an extension fault. -/
theorem extension_eq_ok {ι σ : Type} {x : Extension ι σ} {decoder? : UInt8 → Option (Decoder ι)}
    (agrees : ∀ subtype, Option.Rel Decodes (decoder? subtype) (x.layout? subtype))
    (tlvs : List OrganizationTlv) : extension x decoder? tlvs = .ok (x.decode tlvs) := by
  rw [extension, Extension.decode, ← Decoded.foldl_push, List.foldl_filterMap]
  apply foldlM_eq_ok
  intro d t
  have agree := agrees t.subtype
  rw [Extension.read?]
  generalize decoder? t.subtype = own, x.layout? t.subtype = layout at agree ⊢
  cases agree with
  | none => rfl
  | some decodes =>
      simp only [decodes t.payload, ok_bind, pure_eq_ok, record_outcome]
      rfl

end Lldpdu.Checked
