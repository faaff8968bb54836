import Lldpdu.Extension.Basic
import Lldpdu.Text.Utf8

/-!
# The bridging extension, IEEE 802.1

A bridge port tells its VLANs, the protocols it can speak and its link aggregation.  A port has
one VLAN identifier, one usage digest, one management VLAN and one aggregation; it may have many
protocol VLANs, VLAN names and protocol identities, which are kept in the order of the wire.
-/

namespace Lldpdu

namespace Bridging

/-! ## Records -/

/-- A port and protocol VLAN. -/
structure ProtocolVlan where
  supported : Bool
  enabled : Bool
  id : UInt16
  deriving DecidableEq, Repr

/-- The name of a VLAN. -/
structure VlanName where
  id : UInt16
  name : String
  deriving DecidableEq, Repr

/-- The aggregation of a link. -/
structure LinkAggregation where
  supported : Bool := false
  enabled : Bool := false
  portId : UInt32 := 0
  deriving DecidableEq, Repr

end Bridging

/-- What the TLVs of the bridging extension say. -/
structure Bridging where
  portVlanId : UInt16 := 0
  protocolVlans : List Bridging.ProtocolVlan := []
  vlanNames : List Bridging.VlanName := []
  protocolIdentities : List Octets := []
  vidUsageDigest : UInt32 := 0
  managementVid : UInt16 := 0
  linkAggregation : Bridging.LinkAggregation := {}
  deriving DecidableEq, Repr

namespace Bridging

/-! ## Subtypes -/

/-- The subtypes of the extension. -/
def subtypes : Registry UInt8 where
  assignments :=
    [ (1, "Port VLAN ID"), (2, "Port and Protocol VLAN ID"), (3, "VLAN Name"),
      (4, "Protocol Identity"), (5, "VID Usage Digest"), (6, "Management VID"),
      (7, "Link Aggregation") ]

/-- What a single TLV of the extension says. -/
inductive Item where
  | portVlanId (id : UInt16)
  | protocolVlan (vlan : ProtocolVlan)
  | vlanName (name : VlanName)
  | protocolIdentity (identity : Octets)
  | vidUsageDigest (digest : UInt32)
  | managementVid (id : UInt16)
  | linkAggregation (aggregation : LinkAggregation)
  deriving DecidableEq, Repr

/-- The layout of a port and protocol VLAN: flags, then the VLAN. -/
def protocolVlanLayout : Layout ProtocolVlan :=
  .atLeast 3 fun v => { supported := v.bit 0 0, enabled := v.bit 0 1, id := v.u16 1 }

/-- The layout of a VLAN name: the VLAN, an octet of length, and the name, which goes on to the end
of the payload whatever the length says. -/
def vlanNameLayout : Layout VlanName :=
  .atLeast 2 fun v => { id := v.u16 0, name := Text.lossy (v.drop 3) }

/-- The layout of a protocol identity: an octet of length, then so many octets. -/
def protocolIdentityLayout : Layout Octets where
  demands v := [1, 1 + (v.octet 0).toNat]
  read v := v.slice 1 (v.octet 0).toNat

/-- The layout of a link aggregation: flags, then the port. -/
def linkAggregationLayout : Layout LinkAggregation :=
  .atLeast 5 fun v => { supported := v.bit 0 0, enabled := v.bit 0 1, portId := v.u32 1 }

/-- The layout of the payloads of a subtype. -/
def layout? : UInt8 → Option (Layout Item)
  | 1 => some (.atLeast 2 fun v => .portVlanId (v.u16 0))
  | 2 => some (protocolVlanLayout.map .protocolVlan)
  | 3 => some (vlanNameLayout.map .vlanName)
  | 4 => some (protocolIdentityLayout.map .protocolIdentity)
  | 5 => some (.atLeast 4 fun v => .vidUsageDigest (v.u32 0))
  | 6 => some (.atLeast 2 fun v => .managementVid (v.u16 0))
  | 7 => some (linkAggregationLayout.map .linkAggregation)
  | _ => none

/-- The record with one more item.  An identity of no octets names no protocol and is not kept. -/
def add (r : Bridging) : Item → Bridging
  | .portVlanId portVlanId => { r with portVlanId }
  | .protocolVlan vlan => { r with protocolVlans := r.protocolVlans ++ [vlan] }
  | .vlanName name => { r with vlanNames := r.vlanNames ++ [name] }
  | .protocolIdentity [] => r
  | .protocolIdentity identity =>
      { r with protocolIdentities := r.protocolIdentities ++ [identity] }
  | .vidUsageDigest vidUsageDigest => { r with vidUsageDigest }
  | .managementVid managementVid => { r with managementVid }
  | .linkAggregation linkAggregation => { r with linkAggregation }

/-- The bridging extension. -/
def extension : Extension Item Bridging where
  oui := .ieee8021
  layout?
  empty := {}
  add

end Bridging

end Lldpdu
