import Lldpdu.Code
import Lldpdu.Layout

/-!
# Power over the medium

A port that feeds or draws power describes itself in three octets.  Five more add the type of
device, the source and priority of the power and the power requested, and one more number the
power allocated.

The source takes two bits whose meaning depends on the type of device beside them.  The codes of
powered devices are therefore moved up, so that a source code alone tells which side it belongs
to.
-/

namespace Lldpdu

/-! ## Codes -/

/-- The types of device. -/
def powerTypes : Registry UInt8 where
  assignments :=
    [ (0, "Type 2 PSE Device"), (1, "Type 2 PD Device"), (2, "Type 1 PSE Device"),
      (3, "Type 1 PD Device") ]

/-- The type of a device. -/
abbrev PowerType := Code powerTypes

/-- Whether the device feeds power: the odd types draw it. -/
def PowerType.isSourcing (type : PowerType) : Bool :=
  ! type.raw.toNat.testBit 0

/-- The sources of power, those of powered devices moved up. -/
def powerSources : Registry UInt8 where
  assignments :=
    [ (0, "Unknown"), (1, "PSE"), (2, "Local"), (3, "PSE and Local"), (128, "Unknown"),
      (129, "Primary Power Source"), (130, "Backup Power Source") ]

/-- The source of the power. -/
abbrev PowerSource := Code powerSources

/-- The distance by which the codes of powered devices are moved up. -/
def PowerSource.poweredOffset : UInt8 := 128

/-- The source that two bits stand for at a device of the given type. -/
def PowerSource.ofBits (type : PowerType) (bits : UInt8) : PowerSource :=
  if type.isSourcing then ⟨bits⟩ else ⟨bits + PowerSource.poweredOffset⟩

/-- The priorities of a request for power. -/
def powerPriorities : Registry UInt8 where
  assignments := [(0, "Unknown"), (1, "Critical"), (2, "High"), (3, "Low")]

/-- The priority of a request for power. -/
abbrev PowerPriority := Code powerPriorities

/-! ## Record -/

/-- What a port says about power. -/
structure PowerViaMdi where
  /-- Whether the port is of the class that feeds power. -/
  isSourcingPort : Bool := false
  supported : Bool := false
  enabled : Bool := false
  pairsControllable : Bool := false
  pair : UInt8 := 0
  powerClass : UInt8 := 0
  type : PowerType := default
  source : PowerSource := default
  priority : PowerPriority := default
  requested : UInt16 := 0
  allocated : UInt16 := 0
  deriving DecidableEq, Repr

namespace PowerViaMdi

/-- The part of a payload that every length holds. -/
def basic (v : Octets) : PowerViaMdi where
  isSourcingPort := v.bit 0 0
  supported := v.bit 0 1
  enabled := v.bit 0 2
  pairsControllable := v.bit 0 3
  pair := v.octet 1
  powerClass := v.octet 2

/-- The record with the extended part of a payload added.  A payload of eight octets leaves the
power allocated at zero. -/
def extend (power : PowerViaMdi) (v : Octets) : PowerViaMdi :=
  let type : PowerType := ⟨v.octet 3 >>> 6⟩
  { power with
    type
    source := .ofBits type ((v.octet 3 >>> 4) &&& 3)
    priority := ⟨v.octet 4 &&& 15⟩
    requested := v.u16 5
    allocated := if 9 ≤ v.length then v.u16 7 else 0 }

/-- The layout of the record. -/
def layout : Layout PowerViaMdi :=
  .atLeast 3 fun v => if 8 ≤ v.length then (basic v).extend v else basic v

end PowerViaMdi

end Lldpdu
