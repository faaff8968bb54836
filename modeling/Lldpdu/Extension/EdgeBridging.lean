import Lldpdu.Extension.Basic
import Lldpdu.FlagSet

/-!
# The edge virtual bridging extension, IEEE 802.1Qbg

A station with virtual interfaces and the bridge it hangs on settle how they forward between
them.  Of the subtypes only the settings themselves have a layout; the channel and discovery
protocols are passed over.
-/

namespace Lldpdu

/-- Something that an edge bridge or station can do. -/
inductive EdgeCapability where
  | standardBridging
  | reflectiveRelay
  | retransmissionTimerExponent
  | edgeControlProtocol
  | vsiDiscoveryProtocol
  deriving DecidableEq, Repr

instance : Flag EdgeCapability where
  width := 5
  bit
    | .standardBridging => 0
    | .reflectiveRelay => 1
    | .retransmissionTimerExponent => 2
    | .edgeControlProtocol => 3
    | .vsiDiscoveryProtocol => 4

namespace EdgeBridging

/-- The settings of edge virtual bridging. -/
structure Settings where
  supported : FlagSet EdgeCapability := default
  enabled : FlagSet EdgeCapability := default
  supportedInterfaces : UInt16 := 0
  configuredInterfaces : UInt16 := 0
  timerExponent : UInt8 := 0
  deriving DecidableEq, Repr

end EdgeBridging

/-- What the TLVs of the edge virtual bridging extension say. -/
structure EdgeBridging where
  settings : EdgeBridging.Settings := {}
  deriving DecidableEq, Repr

namespace EdgeBridging

/-- The subtypes of the extension. -/
def subtypes : Registry UInt8 where
  assignments := [(0, "EVB"), (1, "CDCP"), (2, "VDP")]

/-- The layout of the settings. -/
def settingsLayout : Layout Settings :=
  .atLeast 9 fun v =>
    { supported := .ofWord (v.u16 0)
      enabled := .ofWord (v.u16 2)
      supportedInterfaces := v.u16 4
      configuredInterfaces := v.u16 6
      timerExponent := v.octet 8 }

/-- The layout of the payloads of a subtype. -/
def layout? : UInt8 → Option (Layout Settings)
  | 0 => some settingsLayout
  | _ => none

/-- The edge virtual bridging extension.  Settings replace earlier ones whole. -/
def extension : Extension Settings EdgeBridging where
  oui := .ieee8021Qbg
  layout?
  empty := {}
  add _ settings := { settings }

end EdgeBridging

end Lldpdu
