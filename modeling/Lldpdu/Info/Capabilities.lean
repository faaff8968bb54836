import Lldpdu.FlagSet
import Lldpdu.Layout

/-!
# System capabilities

A system says what it can do, and which of that is switched on.
-/

namespace Lldpdu

/-- Something that a system can do. -/
inductive Capability where
  | other
  | repeater
  | bridge
  | wlanAccessPoint
  | router
  | telephone
  | docsis
  | stationOnly
  | customerVlan
  | serviceVlan
  | twoPortRelay
  deriving DecidableEq, Repr

instance : Flag Capability where
  width := 11
  bit
    | .other => 0
    | .repeater => 1
    | .bridge => 2
    | .wlanAccessPoint => 3
    | .router => 4
    | .telephone => 5
    | .docsis => 6
    | .stationOnly => 7
    | .customerVlan => 8
    | .serviceVlan => 9
    | .twoPortRelay => 10

/-- What a system can do and what it does. -/
structure SystemCapabilities where
  supported : FlagSet Capability := default
  enabled : FlagSet Capability := default
  deriving DecidableEq, Repr

/-- The layout of the capabilities: a word for those supported, then a word for those enabled. -/
def SystemCapabilities.layout : Layout SystemCapabilities :=
  .atLeast 4 fun value =>
    { supported := .ofWord (value.u16 0), enabled := .ofWord (value.u16 2) }

end Lldpdu
