import Lldpdu.Code
import Lldpdu.Octets.Basic

/-!
# Type, length, value

An LLDPDU is a sequence of TLVs.  Each starts with a 16-bit header whose upper seven bits give the
type and whose lower nine bits give the length of the value that follows.
-/

namespace Lldpdu

/-- The assigned TLV types. -/
def tlvTypes : Registry UInt8 where
  assignments :=
    [ (0, "TLV End"), (1, "Chassis ID"), (2, "Port ID"), (3, "TTL"), (4, "Port Description"),
      (5, "System Name"), (6, "System Description"), (7, "System Capabilities"),
      (8, "Management Address"), (127, "Organisation Specific") ]

/-- The type of a TLV. -/
abbrev TlvType := Code tlvTypes

namespace TlvType

@[match_pattern] def endOfPdu : TlvType := ⟨0⟩
@[match_pattern] def chassisId : TlvType := ⟨1⟩
@[match_pattern] def portId : TlvType := ⟨2⟩
@[match_pattern] def timeToLive : TlvType := ⟨3⟩
@[match_pattern] def portDescription : TlvType := ⟨4⟩
@[match_pattern] def systemName : TlvType := ⟨5⟩
@[match_pattern] def systemDescription : TlvType := ⟨6⟩
@[match_pattern] def systemCapabilities : TlvType := ⟨7⟩
@[match_pattern] def managementAddress : TlvType := ⟨8⟩
@[match_pattern] def organizationSpecific : TlvType := ⟨127⟩

end TlvType

/-- A TLV whose value has not been interpreted. -/
structure Tlv where
  kind : TlvType
  /-- The length that the header declares.  It is carried along; the value speaks for itself. -/
  length : UInt16
  value : Octets
  deriving DecidableEq, Repr

namespace Tlv

/-- The number of octets in a header. -/
def headerLength : Nat := 2

/-- The greatest length that a header can declare. -/
def maxLength : Nat := 511

/-- The TLV that declares the length of its value, as far as the field holds it. -/
def ofValue (kind : TlvType) (value : Octets) : Tlv :=
  { kind, length := UInt16.ofNat value.length, value }

/-- The header of a value of the given type and length. -/
def header (kind : TlvType) (length : Nat) : Octets :=
  Octets.ofNumber headerLength (kind.raw.toNat * (maxLength + 1) + length)

/-- The TLV as it is written: its header, which counts the octets of the value, then the value. -/
def encode (t : Tlv) : Octets :=
  header t.kind t.value.length ++ t.value

end Tlv

end Lldpdu
