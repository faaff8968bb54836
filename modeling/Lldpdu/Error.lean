import Lldpdu.Organization
import Lldpdu.Tlv.Walk

/-!
# What can be wrong with an LLDPDU

There are two tiers.  A `FrameError` means that there is no frame at all.  A `FieldError` means
that one TLV of a frame is shorter than its layout demands; the rest of the frame is unaffected.
-/

namespace Lldpdu

/-- Why a buffer holds no frame. -/
inductive FrameError where
  | truncated (cause : Truncation)
  | missing (kind : TlvType)
  deriving DecidableEq, Repr

/-- Why a TLV of a frame was left out. -/
inductive FieldError where
  | tlv (kind : TlvType) (length wanted : Nat)
  | organizationTlv (oui : Oui) (subtype : UInt8) (length wanted : Nat)
  deriving DecidableEq, Repr

/-- An error of either tier. -/
inductive DecodeError where
  | frame (cause : FrameError)
  /-- There is a frame, and one of its TLVs was left out. -/
  | field (cause : FieldError)
  deriving DecidableEq, Repr

/-- The text of a frame error. -/
def FrameError.message : FrameError → String
  | .truncated ⟨offset, needed, remaining⟩ =>
      s!"malformed LLDP TLV at offset {offset}: needs {needed} bytes, {remaining} remaining"
  | .missing kind => s!"missing mandatory LLDP TLV: {kind}"

/-- The text of a field error. -/
def FieldError.message : FieldError → String
  | .tlv kind length wanted => s!"invalid TLV {kind} length {length} (wanted minimum {wanted})"
  | .organizationTlv oui subtype length wanted =>
      s!"invalid org specific TLV {oui} subtype {subtype} length {length} (wanted minimum {wanted})"

/-- The text of an error is that of its cause. -/
def DecodeError.message : DecodeError → String
  | .frame cause => cause.message
  | .field cause => cause.message

end Lldpdu
