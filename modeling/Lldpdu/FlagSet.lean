/-!
# Words of flags

A capability word gives each of a few flags a bit of its own.  `FlagSet ι` is the set of flags of
type `ι` that a word raises; bits that belong to no flag are dropped when the word is read.
-/

namespace Lldpdu

/-- Flags that stand for the low bits of a word. -/
class Flag (ι : Type) where
  width : Nat
  /-- The bit of a flag, bit 0 being the least significant. -/
  bit : ι → Nat

/-- A set of flags, kept as the bits of the word that raises them. -/
structure FlagSet (ι : Type) [Flag ι] where
  bits : BitVec (Flag.width ι)
  deriving DecidableEq, Repr

/-- The word that raises a single flag. -/
def Flag.mask {ι : Type} [Flag ι] (flag : ι) : Nat :=
  1 <<< Flag.bit flag

namespace FlagSet

variable {ι : Type} [Flag ι]

/-- The set of no flags. -/
instance : Inhabited (FlagSet ι) where
  default := ⟨0⟩

/-- The flags that a 16-bit word raises. -/
def ofWord (word : UInt16) : FlagSet ι :=
  ⟨word.toBitVec.setWidth (Flag.width ι)⟩

/-- Whether a flag is in the set. -/
def has (flags : FlagSet ι) (flag : ι) : Bool :=
  flags.bits.getLsbD (Flag.bit flag)

/-- Whether every bit of a mask is raised. -/
def contains (flags : FlagSet ι) (mask : BitVec (Flag.width ι)) : Bool :=
  flags.bits &&& mask == mask

/-- The set with its bits in the opposite order, the most significant one first. -/
def reversed (flags : FlagSet ι) : FlagSet ι :=
  ⟨flags.bits.reverse⟩

end FlagSet

end Lldpdu
