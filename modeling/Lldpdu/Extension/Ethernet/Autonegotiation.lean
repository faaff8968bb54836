import Lldpdu.FlagSet

/-!
# Capabilities advertised in autonegotiation

A physical layer advertises the modes that it can run in a 16-bit word, the first mode of the
list in the most significant bit.  Some agents number the bits from the other end;
`FlagSet.reversed` reads a word that they sent.
-/

namespace Lldpdu

/-- A mode that a physical layer advertises, or a kind of pause that it supports. -/
inductive PhysicalMode where
  | other
  | base10T
  | base10TFullDuplex
  | base100T4
  | base100TX
  | base100TXFullDuplex
  | base100T2
  | base100T2FullDuplex
  | pause
  | asymmetricPause
  | symmetricPause
  | bothPauses
  | base1000X
  | base1000XFullDuplex
  | base1000T
  | base1000TFullDuplex
  deriving DecidableEq, Repr

instance : Flag PhysicalMode where
  width := 16
  bit
    | .other => 15
    | .base10T => 14
    | .base10TFullDuplex => 13
    | .base100T4 => 12
    | .base100TX => 11
    | .base100TXFullDuplex => 10
    | .base100T2 => 9
    | .base100T2FullDuplex => 8
    | .pause => 7
    | .asymmetricPause => 6
    | .symmetricPause => 5
    | .bothPauses => 4
    | .base1000X => 3
    | .base1000XFullDuplex => 2
    | .base1000T => 1
    | .base1000TFullDuplex => 0

end Lldpdu
