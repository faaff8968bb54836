import Lldpdu.Info.Basic

/-!
# Layers

A receiver hands on what it decodes as layers: the frame, then the info.  A buffer without a
frame delivers nothing.  A frame with a TLV that was left out delivers both layers, and the
first error is reported beside them.
-/

namespace Lldpdu

/-- A decoded layer. -/
inductive Layer where
  | frame (frame : Frame)
  | info (info : Info)
  deriving DecidableEq, Repr

/-- What a buffer delivers. -/
structure Delivery where
  layers : List Layer
  error? : Option DecodeError
  deriving DecidableEq, Repr

namespace Delivery

/-- What a frame delivers. -/
def ofFrame (frame : Frame) : Delivery where
  layers := [.frame frame, .info frame.info.value]
  error? := frame.info.firstError?.map .field

/-- What a buffer delivers. -/
def ofOctets (buffer : Octets) : Delivery :=
  match Frame.decode buffer with
  | .error cause => { layers := [], error? := some (.frame cause) }
  | .ok frame => ofFrame frame

/-- The layers delivered so far with those of one more buffer, and what was wrong with it. -/
def deliver (layers : List Layer) (buffer : Octets) : List Layer × Option DecodeError :=
  (layers ++ (ofOctets buffer).layers, (ofOctets buffer).error?)

end Delivery

end Lldpdu
