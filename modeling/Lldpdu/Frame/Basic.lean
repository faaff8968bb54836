import Lldpdu.Error
import Lldpdu.Frame.Identifier

/-!
# Frames

A frame is the mandatory part of an LLDPDU, a chassis identifier, a port identifier and a time
to live, together with the TLVs that are not mandatory, which stay uninterpreted.

Mandatory TLVs may come in any order and more than once; the last of a type counts.  What is
missing is looked for only in a buffer whose TLVs are all complete.
-/

namespace Lldpdu

/-- The mandatory part of an LLDPDU and the TLVs beside it. -/
structure Frame where
  chassisId : ChassisId
  portId : PortId
  /-- For how many seconds the information holds. -/
  timeToLive : UInt16
  /-- The TLVs that are not mandatory, in the order of the wire. -/
  values : List Tlv
  /-- The whole buffer, with whatever follows the End TLV. -/
  buffer : Octets
  deriving DecidableEq, Repr

/-- The types that every frame holds, in the order in which a short sequence is searched for
them. -/
def mandatoryTypes : List TlvType :=
  [.chassisId, .portId, .timeToLive, .endOfPdu]

/-- Whether the TLV has a mandatory type but not the two octets that every such value holds.  The
End TLV has no value to look at. -/
def Tlv.isStunted (t : Tlv) : Bool :=
  (t.kind = .chassisId || t.kind = .portId || t.kind = .timeToLive) && t.value.length < 2

namespace Frame

/-- The value of the last TLV of a type. -/
def lastValue? (kind : TlvType) (tlvs : List Tlv) : Option Octets :=
  ((tlvs.filter fun t => t.kind = kind).getLast?).map (·.value)

/-- The identifier in the last TLV of a type, unless it is reserved. -/
def identifier? {subtypes : Registry UInt8} (kind : TlvType) (tlvs : List Tlv) :
    Option (Identifier subtypes) :=
  ((lastValue? kind tlvs).map Identifier.ofValue).filter (! ·.isReserved)

/-- What was found, or the error that the type is missing. -/
def require {α : Type} (kind : TlvType) : Option α → Except FrameError α
  | some found => .ok found
  | none => .error (.missing kind)

/-- The first mandatory type that does not occur. -/
def absentType (tlvs : List Tlv) : TlvType :=
  (mandatoryTypes.find? fun kind => tlvs.all (·.kind ≠ kind)).getD .endOfPdu

/-- The frame that the TLVs of a buffer make up. -/
def ofTlvs (buffer : Octets) (tlvs : List Tlv) : Except FrameError Frame :=
  if tlvs.length < mandatoryTypes.length then
    .error (.missing (absentType tlvs))
  else
    match tlvs.find? Tlv.isStunted with
    | some t => .error (.missing t.kind)
    | none => do
        let ttl ← require .timeToLive (lastValue? .timeToLive tlvs)
        let chassisId ← require .chassisId (identifier? .chassisId tlvs)
        let portId ← require .portId (identifier? .portId tlvs)
        let _ ← require .endOfPdu (lastValue? .endOfPdu tlvs)
        return {
          chassisId
          portId
          timeToLive := ttl.u16 0
          values := tlvs.filter fun t => t.kind ∉ mandatoryTypes
          buffer }

/-- The frame that a buffer holds. -/
def decode (buffer : Octets) : Except FrameError Frame :=
  match Tlv.ofOctets buffer with
  | .error cause => .error (.truncated cause)
  | .ok tlvs => ofTlvs buffer tlvs

/-- Whether two buffers decode alike: to equal frames, or to equal errors. -/
def sameOutcome : Except FrameError Frame → Except FrameError Frame → Bool
  | .ok a, .ok b => a = b
  | .error a, .error b => a = b
  | _, _ => false

end Frame

end Lldpdu
