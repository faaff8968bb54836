import Lldpdu.Layer
import Mathlib.Data.List.Flatten

/-!
# Deliveries one after another

Buffers are delivered one after another, each behind the layers that the ones before it have left.
A run only appends: a buffer without a frame adds nothing, and a buffer with a frame adds the
frame and its info, whether or not some TLV was left out.

What is reported of a buffer is a matter of that buffer alone.  It is the same as for a delivery
of the buffer by itself.
-/

namespace Lldpdu.Delivery

/-- Deliver buffers one after another: the layers after the last one, and what was wrong with
each. -/
def deliverAll (layers : List Layer) : List Octets → List Layer × List (Option DecodeError)
  | [] => (layers, [])
  | buffer :: buffers =>
      let step := deliver layers buffer
      let run := deliverAll step.1 buffers
      (run.1, step.2 :: run.2)

/-- The layers of the frame that a buffer holds, if it holds one. -/
def layersOf (buffer : Octets) : List Layer :=
  match Frame.decode buffer with
  | .error _ => []
  | .ok frame => [.frame frame, .info (Info.ofTlvs frame.values).value]

/-- What becomes of the layers when a buffer is delivered, and what is reported of the buffer. -/
structure Delivers (layers : List Layer) (buffer : Octets) (after : List Layer)
    (error? : Option DecodeError) : Prop where
  /-- A frame error is reported exactly if there is no frame, and then nothing is added. -/
  refused : ∀ cause, error? = some (.frame cause) ↔
    Frame.decode buffer = .error cause ∧ after = layers
  /-- A field error is reported exactly if it is the first one of a frame, and then both layers
  are added all the same. -/
  flawed : ∀ cause, error? = some (.field cause) ↔ ∃ frame, Frame.decode buffer = .ok frame ∧
    frame.info.errors.head? = some cause ∧ after = layers ++ [.frame frame, .info frame.info.value]
  /-- Nothing is reported exactly of a frame of which no TLV was left out. -/
  clean : error? = none ↔ ∃ frame, Frame.decode buffer = .ok frame ∧
    frame.info.errors = [] ∧ after = layers ++ [.frame frame, .info frame.info.value]

/-! ## One buffer -/

theorem layers_ofOctets (buffer : Octets) : (ofOctets buffer).layers = layersOf buffer := by
  rw [ofOctets, layersOf]
  cases Frame.decode buffer with
  | error cause => rfl
  | ok frame => rfl

theorem deliver_of_decode_error {buffer : Octets} {cause : FrameError}
    (failed : Frame.decode buffer = .error cause) (layers : List Layer) :
    deliver layers buffer = (layers, some (.frame cause)) := by
  rw [deliver, ofOctets, failed]
  exact congrArg (·, _) (List.append_nil layers)

theorem deliver_of_decode_ok {buffer : Octets} {frame : Frame}
    (decoded : Frame.decode buffer = .ok frame) (layers : List Layer) :
    deliver layers buffer = (layers ++ [.frame frame, .info frame.info.value],
      frame.info.errors.head?.map .field) := by
  rw [deliver, ofOctets, decoded]
  rfl

theorem delivers (layers : List Layer) (buffer : Octets) :
    Delivers layers buffer (deliver layers buffer).1 (deliver layers buffer).2 := by
  cases decoded : Frame.decode buffer with
  | error cause =>
      rw [deliver_of_decode_error decoded]
      constructor <;> simp [decoded]
  | ok frame =>
      rw [deliver_of_decode_ok decoded]
      constructor <;> simp [decoded]

/-! ## Runs -/

theorem fst_deliverAll (layers : List Layer) (buffers : List Octets) :
    (deliverAll layers buffers).1 = layers ++ buffers.flatMap layersOf := by
  induction buffers generalizing layers with
  | nil => exact (List.append_nil layers).symm
  | cons buffer buffers ih =>
      rw [deliverAll, ih, deliver, layers_ofOctets, List.flatMap_cons, List.append_assoc]

theorem snd_deliverAll (layers : List Layer) (buffers : List Octets) :
    (deliverAll layers buffers).2 = buffers.map fun buffer => (deliver [] buffer).2 := by
  induction buffers generalizing layers with
  | nil => rfl
  | cons buffer buffers ih =>
      rw [deliverAll, ih, List.map_cons]
      rfl

/-- A run appends, buffer by buffer and in order, what each buffer holds, so the layers at any
time in the run stay in front of all later ones.  It reports of each buffer what a delivery of
that buffer alone reports, and what a delivery does to the layers goes with what it reports. -/
theorem deliverAll_append_only (layers : List Layer) (buffers : List Octets) :
    (deliverAll layers buffers).1 = layers ++ buffers.flatMap layersOf ∧
      (∀ count, (deliverAll layers (buffers.take count)).1 <+: (deliverAll layers buffers).1) ∧
      (deliverAll layers buffers).2 = (buffers.map fun buffer => (deliver [] buffer).2) ∧
      ∀ before buffer,
        Delivers before buffer (deliver before buffer).1 (deliver before buffer).2 := by
  refine ⟨fst_deliverAll layers buffers, ?_, snd_deliverAll layers buffers, delivers⟩
  intro count
  have split : buffers.flatMap layersOf =
      (buffers.take count).flatMap layersOf ++ (buffers.drop count).flatMap layersOf := by
    rw [← List.flatMap_append, List.take_append_drop]
  rw [fst_deliverAll, fst_deliverAll, split, ← List.append_assoc]
  exact List.prefix_append _ _

end Lldpdu.Delivery
