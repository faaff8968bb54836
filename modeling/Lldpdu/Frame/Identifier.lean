import Lldpdu.Code
import Lldpdu.Text.Utf8

/-!
# Chassis and port identifiers

Both identifiers have the same form, a subtype and the octets of the identifier, and differ in the
registry of their subtypes.
-/

namespace Lldpdu

/-- An identifier whose subtype is drawn from the given registry. -/
structure Identifier (subtypes : Registry UInt8) where
  subtype : Code subtypes
  id : Octets
  deriving DecidableEq, Repr

namespace Identifier

variable {subtypes : Registry UInt8}

/-- The identifier that a value holds: an octet of subtype, then the identifier. -/
def ofValue (value : Octets) : Identifier subtypes where
  subtype := ⟨value.octet 0⟩
  id := value.drop 1

/-- Whether the subtype is the reserved one, which identifies nothing. -/
def isReserved (i : Identifier subtypes) : Bool :=
  i.subtype.raw == 0

/-- The identifier as text. -/
def text (i : Identifier subtypes) : String :=
  Text.lossy i.id

/-- The identifier as a MAC address: six octets under the given subtype. -/
def addressUnder? (mac : Code subtypes) (i : Identifier subtypes) : Option Octets :=
  if i.subtype = mac ∧ i.id.length = 6 then some i.id else none

end Identifier

/-! ## Chassis -/

/-- The kinds of chassis identifier. -/
def chassisIdSubtypes : Registry UInt8 where
  assignments :=
    [ (0, "Reserved"), (1, "Chassis Component"), (2, "Interface Alias"), (3, "Port Component"),
      (4, "MAC Address"), (5, "Network Address"), (6, "Interface Name"), (7, "Local") ]

/-- The identifier of a chassis. -/
abbrev ChassisId := Identifier chassisIdSubtypes

/-- The subtype of chassis identifiers that are MAC addresses. -/
def ChassisId.macSubtype : Code chassisIdSubtypes := ⟨4⟩

/-- The MAC address that identifies a chassis. -/
def ChassisId.macAddress? (i : ChassisId) : Option Octets :=
  i.addressUnder? macSubtype

/-! ## Port -/

/-- The kinds of port identifier. -/
def portIdSubtypes : Registry UInt8 where
  assignments :=
    [ (0, "Reserved"), (1, "Interface Alias"), (2, "Port Component"), (3, "MAC Address"),
      (4, "Network Address"), (5, "Interface Name"), (6, "Agent Circuit ID"), (7, "Local") ]

/-- The identifier of a port. -/
abbrev PortId := Identifier portIdSubtypes

/-- The subtype of port identifiers that are MAC addresses. -/
def PortId.macSubtype : Code portIdSubtypes := ⟨3⟩

/-- The MAC address that identifies a port. -/
def PortId.macAddress? (i : PortId) : Option Octets :=
  i.addressUnder? macSubtype

end Lldpdu
