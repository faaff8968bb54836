import Lldpdu.Octets.Basic

/-!
# LLDP on the link

How an LLDPDU is recognised on an Ethernet link.
-/

namespace Lldpdu

/-- The EtherType of LLDP. -/
def etherType : UInt16 := 0x88cc

/-- The group address that LLDPDUs are sent to.  Bridges do not forward it. -/
def multicastAddress : Octets := [0x01, 0x80, 0xc2, 0x00, 0x00, 0x0e]

end Lldpdu
