import Lldpdu.Extension.Bridging
import Lldpdu.Extension.EdgeBridging
import Lldpdu.Extension.Ethernet.Basic
import Lldpdu.Info.Basic

/-!
# The known extensions

The extensions that have a decoder, chosen by name.
-/

namespace Lldpdu

/-- An extension with a decoder. -/
inductive KnownExtension where
  | bridging
  | ethernet
  | edgeBridging
  deriving DecidableEq, Repr

/-- The record of some extension. -/
inductive ExtensionReport where
  | bridging (report : Decoded Bridging)
  | ethernet (report : Decoded Ethernet)
  | edgeBridging (report : Decoded EdgeBridging)
  deriving DecidableEq, Repr

namespace Info

/-- The bridging extension of an info. -/
def bridging (info : Info) : Decoded Bridging :=
  Bridging.extension.decode info.organizationTlvs

/-- The Ethernet extension of an info. -/
def ethernet (info : Info) : Decoded Ethernet :=
  Ethernet.extension.decode info.organizationTlvs

/-- The edge virtual bridging extension of an info. -/
def edgeBridging (info : Info) : Decoded EdgeBridging :=
  EdgeBridging.extension.decode info.organizationTlvs

/-- The record of a known extension in an info. -/
def extension (info : Info) : KnownExtension → ExtensionReport
  | .bridging => .bridging info.bridging
  | .ethernet => .ethernet info.ethernet
  | .edgeBridging => .edgeBridging info.edgeBridging

end Info

end Lldpdu
