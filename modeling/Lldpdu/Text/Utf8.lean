import Lldpdu.Octets.Basic

/-!
# Text from octets

Descriptions and names are meant to be UTF-8, but nothing on the wire enforces it.  `Text.lossy`
reads any octet string: well-formed sequences give their characters, and each maximal subpart of
an ill-formed sequence gives one replacement character.

The reading is a machine that sees one octet at a time.  Between characters it holds nothing;
inside a character it holds the bits collected so far and what the next octet may be.  An octet
that does not continue the character ends a maximal subpart, and is then looked at afresh.
-/

namespace Lldpdu.Text

/-- The character that stands for an ill-formed sequence. -/
def replacement : Char :=
  Char.ofNat 0xFFFD

/-- A row of the table of well-formed sequences of more than one octet: lead octets that are
continued alike. -/
structure LeadClass where
  first : UInt8
  last : UInt8
  /-- The number of values of the payload bits in the lead octet. -/
  payload : Nat
  low : UInt8
  high : UInt8
  /-- The number of octets that come after that one. -/
  more : Nat

/-- The lead octets of well-formed sequences.  Overlong forms, surrogates and numbers beyond the
last code point are ruled out by the range of the second octet. -/
def leadClasses : List LeadClass :=
  [ ⟨0xC2, 0xDF, 32, 0x80, 0xBF, 0⟩,
    ⟨0xE0, 0xE0, 16, 0xA0, 0xBF, 1⟩,
    ⟨0xE1, 0xEC, 16, 0x80, 0xBF, 1⟩,
    ⟨0xED, 0xED, 16, 0x80, 0x9F, 1⟩,
    ⟨0xEE, 0xEF, 16, 0x80, 0xBF, 1⟩,
    ⟨0xF0, 0xF0, 8, 0x90, 0xBF, 2⟩,
    ⟨0xF1, 0xF3, 8, 0x80, 0xBF, 2⟩,
    ⟨0xF4, 0xF4, 8, 0x80, 0x8F, 2⟩ ]

/-- A character of which some octets have been seen. -/
structure Pending where
  bits : Nat
  low : UInt8
  high : UInt8
  /-- The number of octets needed after the next one. -/
  more : Nat
  deriving DecidableEq, Repr

/-- Look at an octet between characters: the characters it completes, and the one it begins. -/
def enter (b : UInt8) : List Char × Option Pending :=
  if b < 0x80 then
    ([Char.ofNat b.toNat], none)
  else
    match leadClasses.find? fun row => row.first ≤ b && b ≤ row.last with
    | some row => ([], some ⟨b.toNat % row.payload, row.low, row.high, row.more⟩)
    | none => ([replacement], none)

/-- Look at an octet inside a character. -/
def Pending.continue (p : Pending) (b : UInt8) : List Char × Option Pending :=
  if p.low ≤ b && b ≤ p.high then
    let bits := p.bits * 64 + b.toNat % 64
    match p.more with
    | 0 => ([Char.ofNat bits], none)
    | more + 1 => ([], some ⟨bits, 0x80, 0xBF, more⟩)
  else
    (replacement :: (enter b).1, (enter b).2)

/-- Look at an octet, in whichever state. -/
def step : Option Pending → UInt8 → List Char × Option Pending
  | none, b => enter b
  | some p, b => p.continue b

/-- The characters that the machine gives from a state on.  A character cut off by the end is
ill-formed like any other. -/
def run : Option Pending → Octets → List Char
  | none, [] => []
  | some _, [] => [replacement]
  | state, b :: bs => (step state b).1 ++ run (step state b).2 bs

/-- The text of an octet string, with a replacement character for each ill-formed part. -/
def lossy (bs : Octets) : String :=
  String.ofList (run none bs)

/-- The UTF-8 octets of a text. -/
def encode (s : String) : Octets :=
  s.toList.flatMap String.utf8EncodeChar

end Lldpdu.Text
