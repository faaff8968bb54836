import Lldpdu.Octets.Basic
import Mathlib.Algebra.Group.Nat.Defs
import Mathlib.Data.List.Induction

/-!
# Numbers and slices of octet strings

Writing a number and reading it are inverse in both directions, `Octets.number_ofNumber` and
`Octets.ofNumber_number`.  The rest says what a read finds in a string that was put
together from parts, when its offset is where a part begins, and in an octet that was put together
from flags.
-/

namespace Lldpdu.Octets

/-! ## Numbers -/

@[simp]
theorem number_pair (high low : UInt8) : number [high, low] = high.toNat * 256 + low.toNat := by
  simp [number]

/-- Two octets are the digits of the number that they spell. -/
theorem pair_eq {high low high' low' : UInt8}
    (same : high.toNat * 256 + low.toNat = high'.toNat * 256 + low'.toNat) :
    high = high' ∧ low = low' := by
  have digit : low.toNat < 256 := low.toNat_lt
  have digit' : low'.toNat < 256 := low'.toNat_lt
  constructor
  · apply UInt8.toNat_inj.mp
    omega
  · apply UInt8.toNat_inj.mp
    omega

/-- A string of `k` octets spells a number with at most `k` digits in base 256. -/
theorem number_lt (bs : Octets) : number bs < 256 ^ bs.length := by
  induction bs using List.reverseRecOn with
  | nil => simp
  | append_singleton bs b ih =>
      have digit : b.toNat < 256 := b.toNat_lt
      rw [number_concat, List.length_append, List.length_singleton, Nat.pow_succ]
      omega

/-- Reading back what was written loses only what did not fit. -/
theorem number_ofNumber (width n : Nat) : number (ofNumber width n) = n % 256 ^ width := by
  induction width generalizing n with
  | zero => simp [ofNumber, Nat.mod_one]
  | succ width ih =>
      have split : n % 256 ^ (width + 1) = n % 256 + 256 * (n / 256 % 256 ^ width) := by
        rw [Nat.pow_succ, Nat.mul_comm, Nat.mod_mul]
      rw [ofNumber, number_concat, ih, UInt8.toNat_ofNat', split]
      omega

/-- Writing back what was read restores the octets, leading zeros included. -/
theorem ofNumber_number (bs : Octets) : ofNumber bs.length (number bs) = bs := by
  induction bs using List.reverseRecOn with
  | nil => rfl
  | append_singleton bs b ih =>
      have digit : b.toNat < 256 := b.toNat_lt
      have high : (number bs * 256 + b.toNat) / 256 = number bs := by omega
      have low : UInt8.ofNat (number bs * 256 + b.toNat) = b := by
        apply UInt8.toNat_inj.mp
        rw [UInt8.toNat_ofNat']
        omega
      rw [List.length_append, List.length_singleton, number_concat, ofNumber, high, low, ih]

/-! ## Octets and slices -/

theorem getElem?_eq_octet {bs : Octets} {offset : Nat} (inside : offset < bs.length) :
    bs[offset]? = some (bs.octet offset) := by
  rw [octet, List.getD_eq_getElem?_getD, List.getElem?_eq_getElem inside, Option.getD_some]

theorem octet_eq_of_getElem? {bs : Octets} {offset : Nat} {b : UInt8}
    (found : bs[offset]? = some b) : bs.octet offset = b := by
  rw [octet, List.getD_eq_getElem?_getD, found, Option.getD_some]

theorem octet_eq_getElem {bs : Octets} {offset : Nat} (inside : offset < bs.length) :
    bs.octet offset = bs[offset] :=
  octet_eq_of_getElem? (List.getElem?_eq_getElem inside)

theorem octet_append_of_lt {bs : Octets} {offset : Nat} (inside : offset < bs.length)
    (more : Octets) : (bs ++ more).octet offset = bs.octet offset := by
  apply octet_eq_of_getElem?
  rw [List.getElem?_append_left inside, getElem?_eq_octet inside]

theorem length_slice (bs : Octets) (offset count : Nat) :
    (bs.slice offset count).length = min count (bs.length - offset) := by
  rw [slice, List.length_take, List.length_drop]

/-- A slice that is there in full stays the same if octets are put behind the string. -/
theorem slice_append_of_length {bs : Octets} {offset count : Nat}
    (whole : (bs.slice offset count).length = count) (more : Octets) :
    (bs ++ more).slice offset count = bs.slice offset count := by
  rw [length_slice] at whole
  cases count with
  | zero => simp [slice]
  | succ count =>
      rw [slice, List.drop_append_of_le_length (by omega),
        List.take_append_of_le_length (by rw [List.length_drop]; omega), slice]

/-! ## Reads from strings put together -/

/-- The part that begins at an offset. -/
theorem slice_append (front part back : Octets) {offset count : Nat}
    (starts : offset = front.length) (covers : count = part.length) :
    (front ++ (part ++ back)).slice offset count = part := by
  subst starts covers
  simp [slice]

/-- The octet behind a first part. -/
theorem octet_append (front : Octets) (b : UInt8) (back : Octets) {offset : Nat}
    (starts : offset = front.length) : (front ++ b :: back).octet offset = b := by
  subst starts
  simp [octet]

/-- A 16-bit number written behind a first part is read back. -/
theorem u16_append (front : Octets) (n : UInt16) (back : Octets) {offset : Nat}
    (starts : offset = front.length) :
    (front ++ (ofNumber 2 n.toNat ++ back)).u16 offset = n := by
  have bound : n.toNat < 256 ^ 2 := n.toNat_lt
  rw [u16, slice_append _ _ _ starts (length_ofNumber 2 n.toNat).symm, number_ofNumber,
    Nat.mod_eq_of_lt bound, UInt16.ofNat_toNat]

/-- A 24-bit number written behind a first part is read back. -/
theorem u24_append (front : Octets) (n : UInt32) (back : Octets) {offset : Nat}
    (starts : offset = front.length) (bound : n.toNat < 256 ^ 3) :
    (front ++ (ofNumber 3 n.toNat ++ back)).u24 offset = n := by
  rw [u24, slice_append _ _ _ starts (length_ofNumber 3 n.toNat).symm, number_ofNumber,
    Nat.mod_eq_of_lt bound, UInt32.ofNat_toNat]

/-- A 32-bit number written behind a first part is read back. -/
theorem u32_append (front : Octets) (n : UInt32) (back : Octets) {offset : Nat}
    (starts : offset = front.length) :
    (front ++ (ofNumber 4 n.toNat ++ back)).u32 offset = n := by
  have bound : n.toNat < 256 ^ 4 := n.toNat_lt
  rw [u32, slice_append _ _ _ starts (length_ofNumber 4 n.toNat).symm, number_ofNumber,
    Nat.mod_eq_of_lt bound, UInt32.ofNat_toNat]

/-- A 16-bit number that is read is the number that its octets spell. -/
theorem toNat_u16 (bs : Octets) (offset : Nat) :
    (bs.u16 offset).toNat = (bs.slice offset 2).number := by
  have bound := number_lt (bs.slice offset 2)
  have short : (bs.slice offset 2).length ≤ 2 := List.length_take_le 2 _
  have fits : 256 ^ (bs.slice offset 2).length ≤ 256 ^ 2 := Nat.pow_le_pow_right (by decide) short
  rw [u16, UInt16.toNat_ofNat']
  exact Nat.mod_eq_of_lt (Nat.lt_of_lt_of_le bound fits)

/-- A 16-bit number of which both octets are there. -/
theorem toNat_u16_eq_getElem {bs : Octets} {offset : Nat} (inside : offset + 1 < bs.length) :
    (bs.u16 offset).toNat = bs[offset].toNat * 256 + bs[offset + 1].toNat := by
  have both : bs.slice offset 2 = [bs[offset], bs[offset + 1]] := by
    rw [slice, List.drop_eq_getElem_cons (by omega), List.drop_eq_getElem_cons inside]
    rfl
  rw [toNat_u16, both, number_pair]

/-- A 32-bit number that is read is the number that its octets spell. -/
theorem toNat_u32 (bs : Octets) (offset : Nat) :
    (bs.u32 offset).toNat = (bs.slice offset 4).number := by
  have bound := number_lt (bs.slice offset 4)
  have short : (bs.slice offset 4).length ≤ 4 := List.length_take_le 4 _
  have fits : 256 ^ (bs.slice offset 4).length ≤ 256 ^ 4 := Nat.pow_le_pow_right (by decide) short
  rw [u32, UInt32.toNat_ofNat']
  exact Nat.mod_eq_of_lt (Nat.lt_of_lt_of_le bound fits)

/-! ## Flags -/

/-- The number with the given low bits, the least significant first, and the given number above
them. -/
def packed (above : Nat) : List Bool → Nat
  | [] => above
  | flag :: flags => flag.toNat + 2 * packed above flags

/-- The octet with the given low bits. -/
def flags (bits : List Bool) (above : Nat) : UInt8 :=
  UInt8.ofNat (packed above bits)

theorem testBit_packed (above : Nat) {bits : List Bool} {i : Nat} {flag : Bool}
    (found : bits[i]? = some flag) : (packed above bits).testBit i = flag := by
  induction bits generalizing i with
  | nil => simp at found
  | cons first bits ih =>
      cases i with
      | zero =>
          simp only [List.getElem?_cons_zero, Option.some.injEq] at found
          subst found
          rw [packed, Nat.testBit_zero]
          cases first <;> simp [Nat.add_mod]
      | succ i =>
          have half : packed above (first :: bits) / 2 = packed above bits := by
            have digit := first.toNat_lt
            rw [packed]
            omega
          rw [Nat.testBit_succ, half]
          exact ih (by simpa using found)

/-- A flag is read from the octet that it was written to. -/
theorem bit_flags (above : Nat) {bits : List Bool} {i : Nat} {flag : Bool}
    (found : bits[i]? = some flag) (within : i < 8) (more : Octets) :
    bit (flags bits above :: more) 0 i = flag := by
  have octet : octet (flags bits above :: more) 0 = flags bits above := rfl
  rw [bit, octet, flags, UInt8.toNat_ofNat', Nat.testBit_mod_two_pow, decide_eq_true within,
    Bool.true_and, testBit_packed above found]

/-- The low bits of two numbers are the same if they are so one by one. -/
theorem mod_two_pow_eq_of_testBit {a b width : Nat}
    (same : ∀ i < width, a.testBit i = b.testBit i) : a % 2 ^ width = b % 2 ^ width := by
  apply Nat.eq_of_testBit_eq
  intro i
  rw [Nat.testBit_mod_two_pow, Nat.testBit_mod_two_pow]
  by_cases low : i < width
  · rw [same i low]
  · rw [decide_eq_false low, Bool.false_and, Bool.false_and]

/-- A low bit is one of the number that the low bits make up. -/
theorem testBit_eq_of_mod_two_pow {a b width i : Nat} (same : a % 2 ^ width = b % 2 ^ width)
    (low : i < width) : a.testBit i = b.testBit i := by
  have bits : (a % 2 ^ width).testBit i = (b % 2 ^ width).testBit i := by rw [same]
  rwa [Nat.testBit_mod_two_pow, Nat.testBit_mod_two_pow, decide_eq_true low, Bool.true_and,
    Bool.true_and] at bits

end Lldpdu.Octets
