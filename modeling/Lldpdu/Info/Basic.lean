import Lldpdu.Decoded
import Lldpdu.Frame.Basic
import Lldpdu.Info.Capabilities
import Lldpdu.Info.ManagementAddress

/-!
# The optional part of an LLDPDU

Each TLV is read as an `Info.Item`, and the items are gathered into an `Info`.  An item that
describes the system replaces an earlier one of its kind; TLVs of organizations and TLVs of
unknown type are collected in order.
-/

namespace Lldpdu

/-- What the optional TLVs of an LLDPDU say. -/
structure Info where
  portDescription : String := ""
  systemName : String := ""
  systemDescription : String := ""
  capabilities : SystemCapabilities := {}
  managementAddress : ManagementAddress := {}
  organizationTlvs : List OrganizationTlv := []
  /-- The TLVs of a type that has no layout here. -/
  unknown : List Tlv := []
  deriving DecidableEq, Repr

namespace Info

/-- What a single TLV says. -/
inductive Item where
  | portDescription (text : String)
  | systemName (text : String)
  | systemDescription (text : String)
  | capabilities (capabilities : SystemCapabilities)
  | managementAddress (address : ManagementAddress)
  | organizationTlv (tlv : OrganizationTlv)
  | unknown (tlv : Tlv)
  deriving DecidableEq, Repr

/-- The layout of a value that is text from its first octet to its last. -/
def textLayout : Layout String :=
  .anyLength Text.lossy

/-- The layout of the values of a type, for the types that have one. -/
def layout? : TlvType → Option (Layout Item)
  | .portDescription => some (textLayout.map .portDescription)
  | .systemName => some (textLayout.map .systemName)
  | .systemDescription => some (textLayout.map .systemDescription)
  | .systemCapabilities => some (SystemCapabilities.layout.map .capabilities)
  | .managementAddress => some (ManagementAddress.layout.map .managementAddress)
  | .organizationSpecific => some (OrganizationTlv.layout.map .organizationTlv)
  | _ => none

/-- What a TLV says, or why its value is too short to say it. -/
def read (t : Tlv) : Except FieldError Item :=
  match layout? t.kind with
  | none => .ok (.unknown t)
  | some layout => (layout.decode t.value).mapError (.tlv t.kind t.value.length)

/-- The record with one more item. -/
def add (info : Info) : Item → Info
  | .portDescription text => { info with portDescription := text }
  | .systemName text => { info with systemName := text }
  | .systemDescription text => { info with systemDescription := text }
  | .capabilities capabilities => { info with capabilities }
  | .managementAddress managementAddress => { info with managementAddress }
  | .organizationTlv t => { info with organizationTlvs := info.organizationTlvs ++ [t] }
  | .unknown t => { info with unknown := info.unknown ++ [t] }

/-- What a sequence of TLVs says. -/
def ofTlvs (tlvs : List Tlv) : Decoded Info :=
  .gather add {} (tlvs.map read)

end Info

/-- What the optional TLVs of a frame say. -/
def Frame.info (frame : Frame) : Decoded Info :=
  Info.ofTlvs frame.values

end Lldpdu
