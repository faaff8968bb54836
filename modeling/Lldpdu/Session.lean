import Lldpdu.Extension.Report
import Lldpdu.Layer

/-!
# Inspection sessions

A session holds at most one frame and one info, and the layers delivered so far.  Commands
decode buffers into it, edit what it holds, and ask for it.  Frame and info are values of their
own: editing the frame leaves the info as it was until it is decoded again.

A command that needs a frame or an info while there is none changes nothing.
-/

namespace Lldpdu

/-- What a session holds. -/
structure Session where
  frame? : Option Frame := none
  info? : Option Info := none
  layers : List Layer := []
  deriving DecidableEq, Repr

namespace Session

/-- What a session can be asked to do. -/
inductive Command where
  | decodeFrame (buffer : Octets)
  | deliver (buffer : Octets)
  | load (index : Nat)
  | showFrame
  | showInfo
  | pushValue (tlv : Tlv)
  | removeValue (index : Nat)
  | reverseValues
  | decodeInfo
  /-- Decode the TLVs of unknown type again, by themselves. -/
  | decodeUnknown
  | pushOrganizationTlv (tlv : OrganizationTlv)
  | reverseOrganizationTlvs
  | clearOrganizationTlvs
  | organizationTlvsOf (oui : Oui)
  | decodeExtension (extension : KnownExtension)
  | isInfoFresh
  deriving DecidableEq, Repr

/-- What a session answers. -/
inductive Reply where
  | noFrame
  | noInfo
  | done
  | frame (frame : Frame)
  | frameError (cause : FrameError)
  | info (info : Info)
  | decodedInfo (decoded : Decoded Info)
  /-- What was wrong with a delivery, and the number of layers after it. -/
  | delivered (error? : Option DecodeError) (count : Nat)
  /-- A layer, unless there is none of that index. -/
  | layer (layer? : Option Layer)
  /-- A TLV, unless there is none of that index. -/
  | value (tlv? : Option Tlv)
  | count (count : Nat)
  | organizationTlvs (tlvs : List OrganizationTlv)
  | extension (report : ExtensionReport)
  | verdict (holds : Bool)
  deriving DecidableEq, Repr

/-- Go on with the frame, if there is one. -/
def withFrame (s : Session) (k : Frame → Reply × Session) : Reply × Session :=
  match s.frame? with
  | some frame => k frame
  | none => (.noFrame, s)

/-- Go on with the info, if there is one. -/
def withInfo (s : Session) (k : Info → Reply × Session) : Reply × Session :=
  match s.info? with
  | some info => k info
  | none => (.noInfo, s)

/-- The session with other TLVs in its frame; the answer is their number. -/
def setValues (s : Session) (frame : Frame) (values : List Tlv) : Reply × Session :=
  (.count values.length, { s with frame? := some { frame with values } })

/-- The session with other TLVs of organizations in its info; the answer is their number. -/
def setOrganizationTlvs (s : Session) (info : Info) (organizationTlvs : List OrganizationTlv) :
    Reply × Session :=
  (.count organizationTlvs.length, { s with info? := some { info with organizationTlvs } })

/-- The session after a command, and its answer. -/
def run (s : Session) : Command → Reply × Session
  | .decodeFrame buffer =>
      match Frame.decode buffer with
      | .ok frame => (.frame frame, { s with frame? := some frame })
      | .error cause => (.frameError cause, s)
  | .deliver buffer =>
      let (layers, error?) := Delivery.deliver s.layers buffer
      (.delivered error? layers.length, { s with layers })
  | .load index =>
      match s.layers[index]? with
      | some (.frame frame) => (.layer (some (.frame frame)), { s with frame? := some frame })
      | some (.info info) => (.layer (some (.info info)), { s with info? := some info })
      | none => (.layer none, s)
  | .showFrame => s.withFrame fun frame => (.frame frame, s)
  | .showInfo => s.withInfo fun info => (.info info, s)
  | .pushValue tlv => s.withFrame fun frame => s.setValues frame (frame.values ++ [tlv])
  | .removeValue index => s.withFrame fun frame =>
      (.value frame.values[index]?, (s.setValues frame (frame.values.eraseIdx index)).2)
  | .reverseValues => s.withFrame fun frame => s.setValues frame frame.values.reverse
  | .decodeInfo => s.withFrame fun frame =>
      (.decodedInfo frame.info, { s with info? := some frame.info.value })
  | .decodeUnknown => s.withInfo fun info => (.decodedInfo (Info.ofTlvs info.unknown), s)
  | .pushOrganizationTlv tlv => s.withInfo fun info =>
      s.setOrganizationTlvs info (info.organizationTlvs ++ [tlv])
  | .reverseOrganizationTlvs => s.withInfo fun info =>
      s.setOrganizationTlvs info info.organizationTlvs.reverse
  | .clearOrganizationTlvs => s.withInfo fun info => (.done, (s.setOrganizationTlvs info []).2)
  | .organizationTlvsOf oui => s.withInfo fun info =>
      (.organizationTlvs (Lldpdu.organizationTlvsOf oui info.organizationTlvs), s)
  | .decodeExtension extension => s.withInfo fun info => (.extension (info.extension extension), s)
  | .isInfoFresh => s.withInfo fun info => s.withFrame fun frame =>
      (.verdict (frame.info.value = info), s)

end Session

end Lldpdu
