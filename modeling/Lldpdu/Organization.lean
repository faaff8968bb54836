import Lldpdu.Code
import Lldpdu.Layout

/-!
# Organizationally specific TLVs

A TLV of the organizationally specific type names its organization by an OUI and leaves the rest of
the value to it: a subtype of the organization's own, and a payload.
-/

namespace Lldpdu

/-- Organizations with LLDP TLVs of their own. -/
def organizations : Registry UInt32 where
  assignments :=
    [ (0x0080c2, "IEEE 802.1"), (0x00120f, "IEEE 802.3"), (0x0013bf, "IEEE 802.1Qbg"),
      (0x000142, "Cisco"), (0x0012bb, "TIA TR-41"), (0x000ecf, "PROFINET") ]

/-- The identifier of an organization: 24 bits on the wire, in a 32-bit word. -/
abbrev Oui := Code organizations

namespace Oui

def ieee8021 : Oui := ⟨0x0080c2⟩
def ieee8023 : Oui := ⟨0x00120f⟩
def ieee8021Qbg : Oui := ⟨0x0013bf⟩

end Oui

/-- A TLV of an organization, its payload not yet interpreted. -/
structure OrganizationTlv where
  oui : Oui
  /-- The subtype, whose meaning is the organization's. -/
  subtype : UInt8
  payload : Octets
  deriving DecidableEq, Repr

namespace OrganizationTlv

/-- The number of octets in front of the payload: the OUI and the subtype. -/
def headerLength : Nat := 4

/-- The layout of a TLV of an organization: its header, then the payload. -/
def layout : Layout OrganizationTlv :=
  .atLeast headerLength fun value =>
    { oui := ⟨value.u24 0⟩
      subtype := value.octet 3
      payload := value.drop headerLength }

/-- The value that carries a TLV of an organization whose OUI has 24 bits. -/
def value (t : OrganizationTlv) : Octets :=
  Octets.ofNumber 3 t.oui.raw.toNat ++ t.subtype :: t.payload

end OrganizationTlv

end Lldpdu
