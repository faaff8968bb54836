import Lldpdu.Code
import Lldpdu.Layout
import Lldpdu.Text.Utf8

/-!
# Management addresses

A management address describes its own layout.  Its first octet, `n`, counts the address subtype
and the address; the interface follows, and after it an octet `m` that counts the object
identifier.  The identifier itself starts three octets beyond its length octet.

The length of the identifier is checked twice: against the octets right behind its length octet,
and then against those that are read.
-/

namespace Lldpdu

/-- The families of management addresses. -/
def managementAddressSubtypes : Registry UInt8 where
  assignments := [(1, "IPv4"), (2, "IPv6")]

/-- The ways to number an interface. -/
def interfaceSubtypes : Registry UInt8 where
  assignments := [(1, "Unknown"), (2, "IfIndex"), (3, "System Port Number")]

/-- An address under which a system is managed. -/
structure ManagementAddress where
  subtype : Code managementAddressSubtypes := default
  address : Octets := []
  interfaceSubtype : Code interfaceSubtypes := default
  interfaceNumber : UInt32 := 0
  objectIdentifier : String := ""
  deriving DecidableEq, Repr

namespace ManagementAddress

/-- The family of IPv4 addresses. -/
def ipv4 : Code managementAddressSubtypes := ⟨1⟩

/-- The family of IPv6 addresses. -/
def ipv6 : Code managementAddressSubtypes := ⟨2⟩

/-- The address as an IP address: four octets of IPv4, or sixteen of IPv6. -/
def ipAddress? (m : ManagementAddress) : Option Octets :=
  if m.subtype = ipv4 ∧ m.address.length = 4 ∨ m.subtype = ipv6 ∧ m.address.length = 16 then
    some m.address
  else none

/-- The length that a value declares for the address and its subtype. -/
def addressLength (value : Octets) : Nat :=
  (value.octet 0).toNat

/-- The length that a value declares for the object identifier. -/
def identifierLength (value : Octets) : Nat :=
  (value.octet (addressLength value + 6)).toNat

/-- The lengths that a value has to reach. -/
def demands (value : Octets) : List Nat :=
  let n := addressLength value
  let m := identifierLength value
  [9, n + 7] ++ if m = 0 then [] else [n + 6 + m, n + 9 + m]

/-- The management address in a value.  An address length of zero leaves no room even for the
subtype; the address is then empty, and the subtype doubles as that of the interface. -/
def ofValue (value : Octets) : ManagementAddress :=
  let n := addressLength value
  { subtype := ⟨value.octet 1⟩
    address := value.slice 2 (n - 1)
    interfaceSubtype := ⟨value.octet (n + 1)⟩
    interfaceNumber := value.u32 (n + 2)
    objectIdentifier := Text.lossy (value.slice (n + 9) (identifierLength value)) }

/-- The layout of a management address. -/
def layout : Layout ManagementAddress where
  demands
  read := ofValue

end ManagementAddress

end Lldpdu
