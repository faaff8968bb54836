import Lldpdu.Decoded

/-!
# Extensions

An organization extends LLDP by giving subtypes of its own a layout.  An `Extension` says which
organization that is, how its subtypes are laid out, and how the items read from them make up a
record.

TLVs of other organizations and subtypes without a layout are passed over: they add no item and
cause no error.
-/

namespace Lldpdu

/-- The TLVs of an organization, in their order.  All 32 bits of the OUI have to agree. -/
def organizationTlvsOf (oui : Oui) (tlvs : List OrganizationTlv) : List OrganizationTlv :=
  tlvs.filter fun t => t.oui = oui

/-- The TLVs that an organization defines, each read as an item of type `ι`, and the record of type
`σ` that the items make up. -/
structure Extension (ι σ : Type) where
  oui : Oui
  /-- The layout of the payloads of a subtype, for the subtypes that have one. -/
  layout? : UInt8 → Option (Layout ι)
  empty : σ
  add : σ → ι → σ

namespace Extension

variable {ι σ : Type}

/-- What a TLV of the organization says, or why its payload is too short to say it; nothing for a
subtype that has no layout. -/
def read? (x : Extension ι σ) (t : OrganizationTlv) : Option (Except FieldError ι) :=
  (x.layout? t.subtype).map fun layout =>
    (layout.decode t.payload).mapError (.organizationTlv t.oui t.subtype t.payload.length)

/-- The record of the extension in a list of TLVs of any organizations. -/
def decode (x : Extension ι σ) (tlvs : List OrganizationTlv) : Decoded σ :=
  .gather x.add x.empty ((organizationTlvsOf x.oui tlvs).filterMap x.read?)

end Extension

end Lldpdu
