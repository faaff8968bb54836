/-!
# Octet strings

Octets, the big-endian numbers that they spell, and the total reads by which the fields of a value
are picked out.  A read beyond the end gives zeros; every layout that uses one asks for the octets
first, so the zeros never reach a decoded record.
-/

namespace Lldpdu

/-- A string of octets, in the order of the wire. -/
abbrev Octets := List UInt8

namespace Octets

/-! ## Numbers -/

/-- The number that the octets spell in base 256, the most significant octet first. -/
def number (bs : Octets) : Nat :=
  bs.foldl (fun n b => n * 256 + b.toNat) 0

/-- The `width` octets that spell `n` modulo `256 ^ width`, the most significant octet first. -/
def ofNumber : (width : Nat) → (n : Nat) → Octets
  | 0, _ => []
  | width + 1, n => ofNumber width (n / 256) ++ [UInt8.ofNat n]

@[simp]
theorem number_nil : number [] = 0 :=
  rfl

theorem number_concat (bs : Octets) (b : UInt8) :
    number (bs ++ [b]) = number bs * 256 + b.toNat := by
  simp [number]

@[simp]
theorem length_ofNumber (width n : Nat) : (ofNumber width n).length = width := by
  induction width generalizing n with
  | zero => rfl
  | succ width ih => simp [ofNumber, ih]

/-! ## Reads -/

/-- The octet at an offset, zero beyond the end. -/
def octet (bs : Octets) (offset : Nat) : UInt8 :=
  bs.getD offset 0

/-- At most `count` octets from an offset on. -/
def slice (bs : Octets) (offset count : Nat) : Octets :=
  (bs.drop offset).take count

/-- The 16-bit number at an offset. -/
def u16 (bs : Octets) (offset : Nat) : UInt16 :=
  UInt16.ofNat (bs.slice offset 2).number

/-- The 24-bit number at an offset, in a 32-bit word. -/
def u24 (bs : Octets) (offset : Nat) : UInt32 :=
  UInt32.ofNat (bs.slice offset 3).number

/-- The 32-bit number at an offset. -/
def u32 (bs : Octets) (offset : Nat) : UInt32 :=
  UInt32.ofNat (bs.slice offset 4).number

/-- Whether a bit of the octet at an offset is set, bit 0 being the least significant. -/
def bit (bs : Octets) (offset index : Nat) : Bool :=
  (bs.octet offset).toNat.testBit index

end Octets

end Lldpdu
