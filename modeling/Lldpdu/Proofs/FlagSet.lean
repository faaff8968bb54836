import Lldpdu.FlagSet
import Mathlib.Algebra.Group.Nat.Defs

/-!
# Words that raise a set of flags

A set of flags is raised by many words, because the bits that belong to no flag are free.  Where
every bit of the set belongs to a flag, each of those words gives the set back.  Such a word can
be written down, with any number in the bits above those of the set.
-/

namespace Lldpdu.FlagSet

variable {ι : Type} [Flag ι]

@[simp]
theorem has_default (flag : ι) : (default : FlagSet ι).has flag = false :=
  BitVec.getLsbD_zero

/-- A flag of a set that was read from a word is its bit of the word. -/
theorem has_ofWord {flag : ι} (inside : Flag.bit flag < Flag.width ι) (word : UInt16) :
    (ofWord word : FlagSet ι).has flag = word.toNat.testBit (Flag.bit flag) := by
  rw [has, ofWord, BitVec.getLsbD_setWidth, decide_eq_true inside, Bool.true_and]
  rfl

/-- The bits of a list, the least significant one first, are those of the word made of it. -/
theorem getLsbD_ofBoolListLE (bits : List Bool) (i : Nat) :
    (BitVec.ofBoolListLE bits).getLsbD i = bits.getD i false := by
  induction bits generalizing i with
  | nil => simp [BitVec.ofBoolListLE]
  | cons bit bits ih =>
      rw [BitVec.ofBoolListLE, BitVec.getLsbD_concat]
      cases i with
      | zero => rfl
      | succ i => exact ih i

/-- A word that raises exactly the flags of a set, whatever its other bits are. -/
def RaisedBy (flags : FlagSet ι) (word : UInt16) : Prop :=
  ∀ flag, word.toNat.testBit (Flag.bit flag) = flags.has flag

/-- A set is read from every word that raises it. -/
theorem ofWord_of_raisedBy (covers : ∀ i < Flag.width ι, ∃ flag : ι, Flag.bit flag = i)
    {flags : FlagSet ι} {word : UInt16} (raised : flags.RaisedBy word) : ofWord word = flags := by
  cases flags with
  | mk bits =>
      rw [ofWord, mk.injEq]
      apply BitVec.eq_of_getLsbD_eq
      intro i inside
      rcases covers i inside with ⟨flag, rfl⟩
      rw [BitVec.getLsbD_setWidth, decide_eq_true inside, Bool.true_and]
      exact raised flag

/-- The word that raises the flags of a set, with the given number above them. -/
def word (flags : FlagSet ι) (above : Nat) : UInt16 :=
  UInt16.ofNat (flags.bits.toNat + 2 ^ Flag.width ι * above)

theorem ofWord_word (fits : Flag.width ι ≤ 16) (flags : FlagSet ι) (above : Nat) :
    ofWord (flags.word above) = flags := by
  have bound := flags.bits.isLt
  cases flags with
  | mk bits =>
      rw [ofWord, mk.injEq]
      apply BitVec.eq_of_toNat_eq
      rw [BitVec.toNat_setWidth, word]
      change (bits.toNat + 2 ^ Flag.width ι * above) % 2 ^ 16 % 2 ^ Flag.width ι = _
      rw [Nat.mod_mod_of_dvd _ (Nat.pow_dvd_pow 2 fits), Nat.add_mul_mod_self_left,
        Nat.mod_eq_of_lt bound]

end Lldpdu.FlagSet
