import Lldpdu.Octets.Basic

/-!
# Reading a buffer from front to back

A `Reader` is a buffer with a position.  Every operation either consumes exactly the octets that it
was asked for and moves the position past them, or refuses and leaves the reader as it was.

Counts are 64-bit words, up to the largest one, so the end of a slice may not be a 64-bit word.
`Reader.stop?` therefore has no value for such an end, and a slice that would need it is refused
like any other that runs past the buffer.
-/

namespace Lldpdu

/-- A buffer together with the position of the first octet not yet consumed. -/
structure Reader where
  buffer : Octets
  /-- The number of octets consumed. -/
  position : Nat := 0
  deriving DecidableEq, Repr

namespace Reader

/-- The reader at the start of a buffer. -/
def ofOctets (buffer : Octets) : Reader :=
  { buffer }

/-- The octets not yet consumed. -/
def rest (r : Reader) : Octets :=
  r.buffer.drop r.position

/-- The number of octets not yet consumed. -/
def remaining (r : Reader) : Nat :=
  r.buffer.length - r.position

/-- Whether an octet is left. -/
def hasRemaining (r : Reader) : Bool :=
  0 < r.remaining

/-- The reader moved `count` octets on. -/
def moved (r : Reader) (count : Nat) : Reader :=
  { r with position := r.position + count }

/-- The position `count` octets on, if it is a 64-bit word. -/
def stop? (r : Reader) (count : UInt64) : Option Nat :=
  if r.position + count.toNat < UInt64.size then some (r.position + count.toNat) else none

/-- The next `count` octets, if there are so many. -/
def take? (r : Reader) (count : UInt64) : Option (Octets × Reader) :=
  match r.stop? count with
  | none => none
  | some stop =>
      if stop ≤ r.buffer.length then
        some (r.buffer.slice r.position count.toNat, r.moved count.toNat)
      else none

/-- The reader past the next `count` octets, if there are so many. -/
def skip? (r : Reader) (count : UInt64) : Option Reader :=
  if count.toNat ≤ r.remaining then some (r.moved count.toNat) else none

/-- The big-endian number spelt by the next `width` octets, if there are so many. -/
def number? (r : Reader) (width : Nat) : Option (Nat × Reader) :=
  if width ≤ r.remaining then some (Octets.number (r.rest.take width), r.moved width) else none

/-- The next octet. -/
def u8? (r : Reader) : Option (UInt8 × Reader) :=
  (r.number? 1).map fun (n, r) => (UInt8.ofNat n, r)

/-- The 16-bit number spelt by the next two octets. -/
def u16? (r : Reader) : Option (UInt16 × Reader) :=
  (r.number? 2).map fun (n, r) => (UInt16.ofNat n, r)

/-- The 32-bit number spelt by the next four octets. -/
def u32? (r : Reader) : Option (UInt32 × Reader) :=
  (r.number? 4).map fun (n, r) => (UInt32.ofNat n, r)

/-! ## Operations as data -/

/-- An operation that consumes octets. -/
inductive Op where
  | take (count : UInt64)
  | skip (count : UInt64)
  | u8
  | u16
  | u32
  deriving DecidableEq, Repr

/-- What an operation hands out when it succeeds. -/
inductive Yield where
  | octets (bs : Octets)
  | skipped
  | u8 (value : UInt8)
  | u16 (value : UInt16)
  | u32 (value : UInt32)
  deriving DecidableEq, Repr

/-- Carry out an operation, or refuse it. -/
def step? (r : Reader) : Op → Option (Yield × Reader)
  | .take count => (r.take? count).map fun (bs, r) => (.octets bs, r)
  | .skip count => (r.skip? count).map fun r => (.skipped, r)
  | .u8 => r.u8?.map fun (value, r) => (.u8 value, r)
  | .u16 => r.u16?.map fun (value, r) => (.u16 value, r)
  | .u32 => r.u32?.map fun (value, r) => (.u32 value, r)

end Reader

end Lldpdu
