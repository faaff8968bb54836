/-!
# Assigned codes

A numeric field of a TLV usually draws its values from a registry that names some of them.  Every
value that fits the field is a `Code` of its registry, named or not, so a code that a newer edition
assigns is carried like any other.
-/

namespace Lldpdu

/-- The assigned values of a field of type `Word`, each with its name. -/
structure Registry (Word : Type) where
  assignments : List (Word × String)

/-- A value of a field whose names are kept in the given registry. -/
structure Code {Word : Type} (registry : Registry Word) where
  raw : Word
  deriving DecidableEq, Repr

variable {Word : Type}

/-- The name of a value, `Unknown` where none is assigned. -/
def Registry.name [BEq Word] (registry : Registry Word) (raw : Word) : String :=
  (registry.assignments.lookup raw).getD "Unknown"

namespace Code

variable {registry : Registry Word}

/-- The name that the registry gives the code. -/
def name [BEq Word] (code : Code registry) : String :=
  registry.name code.raw

instance [BEq Word] : ToString (Code registry) where
  toString code := code.name

/-- Codes are ordered by their numbers. -/
instance [Ord Word] : Ord (Code registry) where
  compare a b := compare a.raw b.raw

/-- The code zero stands for a field that was never set. -/
instance [OfNat Word 0] : Inhabited (Code registry) where
  default := ⟨0⟩

end Code

end Lldpdu
