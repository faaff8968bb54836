import Lldpdu.Extension.Basic
import Lldpdu.Extension.Ethernet.Autonegotiation
import Lldpdu.Extension.Ethernet.MauType
import Lldpdu.Extension.Ethernet.Power

/-!
# The Ethernet extension, IEEE 802.3

An Ethernet port tells its physical layer, its power, its link aggregation and its greatest
frame.  Each record replaces an earlier one of its subtype whole.
-/

namespace Lldpdu

namespace Ethernet

/-! ## Records -/

/-- The configuration of the physical layer. -/
structure MacPhy where
  autonegotiationSupported : Bool := false
  autonegotiationEnabled : Bool := false
  advertised : FlagSet PhysicalMode := default
  mauType : MauType := default
  deriving DecidableEq, Repr

/-- The aggregation of a link. -/
structure LinkAggregation where
  /-- The status octet, reserved bits included. -/
  status : UInt8 := 0
  portId : UInt32 := 0
  deriving DecidableEq, Repr

/-- Whether the link can be aggregated. -/
def LinkAggregation.supported (aggregation : LinkAggregation) : Bool :=
  aggregation.status.toNat.testBit 0

/-- Whether the link is aggregated. -/
def LinkAggregation.enabled (aggregation : LinkAggregation) : Bool :=
  aggregation.status.toNat.testBit 1

end Ethernet

/-- What the TLVs of the Ethernet extension say. -/
structure Ethernet where
  macPhy : Ethernet.MacPhy := {}
  power : PowerViaMdi := {}
  linkAggregation : Ethernet.LinkAggregation := {}
  maxFrameSize : UInt16 := 0
  deriving DecidableEq, Repr

namespace Ethernet

/-! ## Subtypes -/

/-- The subtypes of the extension. -/
def subtypes : Registry UInt8 where
  assignments :=
    [ (1, "MAC/PHY Configuration/Status"), (2, "Power via MDI"), (3, "Link Aggregation"),
      (4, "Maximum Frame Size") ]

/-- What a single TLV of the extension says. -/
inductive Item where
  | macPhy (macPhy : MacPhy)
  | power (power : PowerViaMdi)
  | linkAggregation (aggregation : LinkAggregation)
  | maxFrameSize (size : UInt16)
  deriving DecidableEq, Repr

/-- The layout of a physical layer: flags, the modes advertised, the attachment unit. -/
def macPhyLayout : Layout MacPhy :=
  .atLeast 5 fun v =>
    { autonegotiationSupported := v.bit 0 0
      autonegotiationEnabled := v.bit 0 1
      advertised := .ofWord (v.u16 1)
      mauType := ⟨v.u16 3⟩ }

/-- The layout of a link aggregation: the status octet, then the port. -/
def linkAggregationLayout : Layout LinkAggregation :=
  .atLeast 5 fun v => { status := v.octet 0, portId := v.u32 1 }

/-- The layout of the payloads of a subtype. -/
def layout? : UInt8 → Option (Layout Item)
  | 1 => some (macPhyLayout.map .macPhy)
  | 2 => some (PowerViaMdi.layout.map .power)
  | 3 => some (linkAggregationLayout.map .linkAggregation)
  | 4 => some (.atLeast 2 fun v => .maxFrameSize (v.u16 0))
  | _ => none

/-- The record with one more item. -/
def add (r : Ethernet) : Item → Ethernet
  | .macPhy macPhy => { r with macPhy }
  | .power power => { r with power }
  | .linkAggregation linkAggregation => { r with linkAggregation }
  | .maxFrameSize maxFrameSize => { r with maxFrameSize }

/-- The Ethernet extension. -/
def extension : Extension Item Ethernet where
  oui := .ieee8023
  layout?
  empty := {}
  add

end Ethernet

end Lldpdu
