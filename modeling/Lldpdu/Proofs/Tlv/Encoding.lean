import Lldpdu.Proofs.Octets
import Lldpdu.Tlv.Basic
import Mathlib.Data.List.Basic

/-!
# The written form of TLVs

A header packs a type of seven bits and a length of nine bits into two octets.  Nothing is lost
in either direction: every type and length that fit are read back, and any two octets are the
header of what they give.

Every octet string begins with the written form of some TLVs and goes on with a residue at which
no further TLV can be taken off: it is empty, it is an End header, or it is a TLV of which a
part is missing.
-/

namespace Lldpdu.Tlv

/-! ## Headers -/

/-- The type in the upper seven bits of a header. -/
def headerKind (high low : UInt8) : TlvType :=
  ⟨UInt8.ofNat (Octets.number [high, low] / (maxLength + 1))⟩

/-- The length in the lower nine bits of a header. -/
def headerSize (high low : UInt8) : Nat :=
  Octets.number [high, low] % (maxLength + 1)

theorem headerSize_le (high low : UInt8) : headerSize high low ≤ maxLength :=
  Nat.le_of_lt_succ (Nat.mod_lt _ (Nat.succ_pos maxLength))

theorem toNat_headerKind (high low : UInt8) :
    (headerKind high low).raw.toNat = (high.toNat * 256 + low.toNat) / 512 := by
  have highBound : high.toNat < 256 := high.toNat_lt
  have lowBound : low.toNat < 256 := low.toNat_lt
  simp only [headerKind, Octets.number_pair, maxLength, UInt8.toNat_ofNat']
  omega

theorem headerSize_eq (high low : UInt8) :
    headerSize high low = (high.toNat * 256 + low.toNat) % 512 := by
  simp [headerSize, maxLength]

/-- A header has no room for a type of more than seven bits. -/
theorem headerKind_le (high low : UInt8) : (headerKind high low).raw.toNat ≤ 127 := by
  have highBound : high.toNat < 256 := high.toNat_lt
  have lowBound : low.toNat < 256 := low.toNat_lt
  rw [toNat_headerKind]
  omega

/-- The End header is the one whose first octet has at most its lowest bit set, the ninth bit of
the length. -/
theorem headerKind_eq_endOfPdu_iff (high low : UInt8) :
    headerKind high low = .endOfPdu ↔ high ≤ 1 := by
  have lowBound : low.toNat < 256 := low.toNat_lt
  have raw : headerKind high low = .endOfPdu ↔ (headerKind high low).raw.toNat = 0 := by
    rw [TlvType.endOfPdu, Code.mk.injEq, ← UInt8.toNat_inj]
    rfl
  have one : (1 : UInt8).toNat = 1 := rfl
  rw [raw, toNat_headerKind, UInt8.le_iff_toNat_le, one]
  omega

@[simp]
theorem length_header (kind : TlvType) (size : Nat) : (header kind size).length = 2 := by
  simp [header, headerLength]

/-- Any two octets are the header of the type and the length that they give. -/
theorem header_headerKind (high low : UInt8) :
    header (headerKind high low) (headerSize high low) = [high, low] := by
  have word : (headerKind high low).raw.toNat * (maxLength + 1) + headerSize high low =
      Octets.number [high, low] := by
    rw [toNat_headerKind, headerSize_eq, Octets.number_pair, maxLength]
    omega
  rw [header, word]
  exact Octets.ofNumber_number [high, low]

/-- A type and a length that fit are read back from their header. -/
theorem exists_header_eq {kind : TlvType} {size : Nat} (sevenBits : kind.raw.toNat ≤ 127)
    (nineBits : size ≤ maxLength) :
    ∃ high low, header kind size = [high, low] ∧ headerKind high low = kind ∧
      headerSize high low = size := by
  rcases List.length_eq_two.mp (length_header kind size) with ⟨high, low, written⟩
  have word : high.toNat * 256 + low.toNat = kind.raw.toNat * 512 + size := by
    have read := congrArg Octets.number written
    rw [header, Octets.number_ofNumber, Octets.number_pair, headerLength, maxLength,
      Nat.mod_eq_of_lt (by rw [maxLength] at nineBits; omega)] at read
    exact read.symm
  refine ⟨high, low, written, ?_, ?_⟩
  · rw [maxLength] at nineBits
    have raw : (headerKind high low).raw.toNat = kind.raw.toNat := by
      rw [toNat_headerKind, word]
      omega
    cases kind
    exact congrArg Code.mk (UInt8.toNat_inj.mp raw)
  · rw [maxLength] at nineBits
    rw [headerSize_eq, word]
    omega

/-! ## TLVs in front of the End TLV -/

/-- A TLV that can stand in front of the End TLV: it has another type, of seven bits, and its
length field, of nine bits, counts the octets of its value. -/
structure WellFormed (t : Tlv) : Prop where
  positive : 1 ≤ t.kind.raw.toNat
  sevenBits : t.kind.raw.toNat ≤ 127
  nineBits : t.value.length ≤ maxLength
  counted : t.length.toNat = t.value.length

instance (t : Tlv) : Decidable t.WellFormed :=
  decidable_of_iff (1 ≤ t.kind.raw.toNat ∧ t.kind.raw.toNat ≤ 127 ∧ t.value.length ≤ maxLength ∧
    t.length.toNat = t.value.length)
    ⟨fun ⟨positive, sevenBits, nineBits, counted⟩ => ⟨positive, sevenBits, nineBits, counted⟩,
      fun ⟨positive, sevenBits, nineBits, counted⟩ => ⟨positive, sevenBits, nineBits, counted⟩⟩

theorem wellFormed_ofValue {kind : TlvType} {value : Octets} (positive : 1 ≤ kind.raw.toNat)
    (sevenBits : kind.raw.toNat ≤ 127) (nineBits : value.length ≤ maxLength) :
    (ofValue kind value).WellFormed := by
  have bound : value.length < 65536 := Nat.lt_of_le_of_lt nineBits (by decide)
  have counted : (UInt16.ofNat value.length).toNat = value.length := by
    rw [UInt16.toNat_ofNat']
    exact Nat.mod_eq_of_lt bound
  exact ⟨positive, sevenBits, nineBits, counted⟩

theorem WellFormed.kind_ne {t : Tlv} (wellFormed : t.WellFormed) : t.kind ≠ .endOfPdu := by
  intro isEnd
  have positive := wellFormed.positive
  rw [isEnd] at positive
  exact absurd positive (by decide)

theorem WellFormed.length_eq {t : Tlv} (wellFormed : t.WellFormed) :
    UInt16.ofNat t.value.length = t.length := by
  rw [← wellFormed.counted, UInt16.ofNat_toNat]

/-- The written forms of TLVs, one after the other. -/
def encodeAll (ts : List Tlv) : Octets :=
  ts.flatMap encode

@[simp]
theorem encodeAll_nil : encodeAll [] = [] :=
  rfl

@[simp]
theorem encodeAll_cons (t : Tlv) (ts : List Tlv) :
    encodeAll (t :: ts) = t.encode ++ encodeAll ts :=
  List.flatMap_cons

@[simp]
theorem encodeAll_append (front behind : List Tlv) :
    encodeAll (front ++ behind) = encodeAll front ++ encodeAll behind :=
  List.flatMap_append

@[simp]
theorem length_encode (t : Tlv) : t.encode.length = 2 + t.value.length := by
  simp [encode]

/-- Two octets and a value are the written form of a TLV, unless they give the End header. -/
theorem exists_encode_eq {high low : UInt8} {value : Octets}
    (other : headerKind high low ≠ .endOfPdu) (size : value.length = headerSize high low) :
    ∃ t : Tlv, t.WellFormed ∧ t.encode = high :: low :: value := by
  refine ⟨ofValue (headerKind high low) value, ?_, ?_⟩
  · have nonzero : (headerKind high low).raw.toNat ≠ 0 := fun zero =>
      other (congrArg Code.mk (UInt8.toNat_inj.mp zero))
    exact wellFormed_ofValue (Nat.one_le_iff_ne_zero.mpr nonzero) (headerKind_le high low)
      (size ▸ headerSize_le high low)
  · change header (headerKind high low) value.length ++ value = _
    rw [size, header_headerKind]
    rfl

/-! ## Residues -/

/-- The beginning of a TLV in front of the End TLV, a part of which is missing. -/
inductive Cut : Octets → Prop where
  /-- An octet of the header is missing. -/
  | header (octet : UInt8) : Cut [octet]
  /-- Some of the declared octets are missing. -/
  | value {high low : UInt8} {body : Octets} (other : headerKind high low ≠ .endOfPdu)
      (short : body.length < headerSize high low) : Cut (high :: low :: body)

/-- The number of octets that a TLV needs, header included, as far as its first octets tell. -/
def needed : Octets → Nat
  | high :: low :: _ => headerLength + headerSize high low
  | _ => headerLength

theorem Cut.length_pos {tail : Octets} (cut : Cut tail) : 0 < tail.length := by
  cases cut <;> exact Nat.succ_pos _

theorem Cut.length_lt_needed {tail : Octets} (cut : Cut tail) : tail.length < needed tail := by
  cases cut with
  | header octet => exact Nat.one_lt_two
  | value other short =>
      rw [needed, headerLength, List.length_cons, List.length_cons]
      omega

/-- Octets from which no complete TLV in front of an End TLV can be taken off. -/
inductive Residue : Octets → Prop where
  | nothing : Residue []
  | ended {high low : UInt8} (isEnd : headerKind high low = .endOfPdu) (body : Octets) :
      Residue (high :: low :: body)
  | cut {tail : Octets} (cut : Cut tail) : Residue tail

/-- Octets are a residue, or a TLV can be taken off. -/
theorem residue_or_encode (bs : Octets) :
    Residue bs ∨ ∃ t : Tlv, t.WellFormed ∧ ∃ rest, bs = t.encode ++ rest := by
  match bs with
  | [] => exact .inl .nothing
  | [octet] => exact .inl (.cut (.header octet))
  | high :: low :: body =>
      by_cases isEnd : headerKind high low = .endOfPdu
      · exact .inl (.ended isEnd body)
      by_cases short : body.length < headerSize high low
      · exact .inl (.cut (.value isEnd short))
      right
      have size : (body.take (headerSize high low)).length = headerSize high low := by
        rw [List.length_take]
        omega
      rcases exists_encode_eq isEnd size with ⟨t, wellFormed, written⟩
      refine ⟨t, wellFormed, body.drop (headerSize high low), ?_⟩
      rw [written, List.cons_append, List.cons_append, List.take_append_drop]

/-- Every octet string is the written form of some TLVs followed by a residue. -/
theorem exists_encodeAll_append (bs : Octets) :
    ∃ ts residue, bs = encodeAll ts ++ residue ∧ (∀ t ∈ ts, t.WellFormed) ∧ Residue residue := by
  induction size : bs.length using Nat.strongRecOn generalizing bs with
  | ind n ih =>
      rcases residue_or_encode bs with residue | ⟨t, wellFormed, rest, rfl⟩
      · exact ⟨[], bs, rfl, by simp, residue⟩
      -- A header takes two octets, so what follows the TLV is shorter.
      have shorter : rest.length < n := by
        rw [← size, List.length_append, length_encode]
        omega
      rcases ih rest.length shorter rest rfl with ⟨ts, residue, rfl, allWellFormed, isResidue⟩
      exact ⟨t :: ts, residue, by simp, List.forall_mem_cons.mpr ⟨wellFormed, allWellFormed⟩,
        isResidue⟩

end Lldpdu.Tlv
