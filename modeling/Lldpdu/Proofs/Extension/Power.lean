import Lldpdu.Proofs.Checked.Extension
import Lldpdu.Proofs.Extension.Records

/-!
# What a payload says of power

The fields of a power record are bits and octets at fixed places of a payload.  The source shares an
octet with the type of device, which decides whether its code is moved up; so a source code tells
the side that it belongs to, in every record that is decoded.  Nothing that is read gets lost: equal
records come from payloads with equal bits at the places that are read.
-/

namespace Lldpdu.PowerViaMdi

/-! ## Fields -/

/-- What the first three octets of a payload say. -/
structure MatchesBasic (power : PowerViaMdi) (v : Octets) (basic : 3 ≤ v.length) : Prop where
  isSourcingPort : power.isSourcingPort = v[0].toNat.testBit 0
  supported : power.supported = v[0].toNat.testBit 1
  enabled : power.enabled = v[0].toNat.testBit 2
  pairsControllable : power.pairsControllable = v[0].toNat.testBit 3
  pair : power.pair = v[1]
  powerClass : power.powerClass = v[2]

/-- What the octets behind them say.  The source is moved up by 128 for the odd types; the sum is
one of numbers, so it is not one that wraps around. -/
structure MatchesExtended (power : PowerViaMdi) (v : Octets) (extended : 8 ≤ v.length) : Prop where
  type : power.type.raw.toNat = v[3].toNat / 64
  source : power.source.raw.toNat =
    v[3].toNat / 16 % 4 + if power.type.raw.toNat % 2 = 1 then 128 else 0
  priority : power.priority.raw.toNat = v[4].toNat % 16
  requested : power.requested.toNat = v[5].toNat * 256 + v[6].toNat
  allocated : ∀ whole : 9 ≤ v.length, power.allocated.toNat = v[7].toNat * 256 + v[8].toNat
  unallocated : v.length < 9 → power.allocated = 0

theorem matchesBasic_basic {v : Octets} (long : 3 ≤ v.length) : (basic v).MatchesBasic v long := by
  have flags : v.octet 0 = v[0] := Octets.octet_eq_getElem _
  constructor
  case pair => exact Octets.octet_eq_getElem _
  case powerClass => exact Octets.octet_eq_getElem _
  all_goals rw [← flags]; rfl

/-- The octets behind the first three change none of their fields. -/
theorem MatchesBasic.extend {power : PowerViaMdi} {v : Octets} {long : 3 ≤ v.length}
    (same : power.MatchesBasic v long) (w : Octets) : (power.extend w).MatchesBasic v long :=
  ⟨same.isSourcingPort, same.supported, same.enabled, same.pairsControllable, same.pair,
    same.powerClass⟩

/-- The code of a source is moved up by 128 for the odd types, and then still fits an octet. -/
theorem toNat_ofBits (type bits : UInt8) (two : bits.toNat < 4) :
    (PowerSource.ofBits ⟨type⟩ bits).raw.toNat =
      bits.toNat + if type.toNat % 2 = 1 then 128 else 0 := by
  rw [PowerSource.ofBits, PowerType.isSourcing, Nat.testBit_zero]
  by_cases odd : type.toNat % 2 = 1
  · have offset : PowerSource.poweredOffset.toNat = 128 := rfl
    rw [decide_eq_true odd, if_pos odd]
    change (bits + PowerSource.poweredOffset).toNat = _
    rw [UInt8.toNat_add, offset]
    omega
  · rw [decide_eq_false odd, if_neg odd]
    rfl

theorem matchesExtended_extend (power : PowerViaMdi) {v : Octets} (long : 8 ≤ v.length) :
    (power.extend v).MatchesExtended v long := by
  have codes : v.octet 3 = v[3] := Octets.octet_eq_getElem _
  have low : v.octet 4 = v[4] := Octets.octet_eq_getElem _
  have type : (v.octet 3 >>> 6).toNat = v[3].toNat / 64 := by
    rw [type_eq, codes, UInt8.toNat_div]
    rfl
  have source : ((v.octet 3 >>> 4) &&& 3).toNat = v[3].toNat / 16 % 4 := by
    rw [source_eq, codes, UInt8.toNat_mod, UInt8.toNat_div]
    rfl
  constructor
  case type => exact type
  case source =>
    change (PowerSource.ofBits ⟨v.octet 3 >>> 6⟩ ((v.octet 3 >>> 4) &&& 3)).raw.toNat =
      v[3].toNat / 16 % 4 + if (v.octet 3 >>> 6).toNat % 2 = 1 then 128 else 0
    rw [toNat_ofBits _ _ (by omega), source]
  case priority =>
    change (v.octet 4 &&& 15).toNat = v[4].toNat % 16
    rw [priority_eq, low, UInt8.toNat_mod]
    rfl
  case requested => exact Octets.toNat_u16_eq_getElem _
  case allocated =>
    intro whole
    change (if 9 ≤ v.length then v.u16 7 else 0).toNat = _
    rw [if_pos whole]
    exact Octets.toNat_u16_eq_getElem _
  case unallocated => exact fun eight => if_neg (Nat.not_le.mpr eight)

/-- A payload of three octets or more is read, and the record says what its octets do. -/
theorem exists_decode_eq {v : Octets} (long : 3 ≤ v.length) :
    ∃ power, layout.decode v = .ok power ∧ Checked.readPower v = .ok power ∧
      power.MatchesBasic v long ∧ (v.length < 8 → power.Short) ∧
      ∀ extended : 8 ≤ v.length, power.MatchesExtended v extended := by
  refine ⟨layout.read v, Layout.decode_atLeast_of_le long _, Checked.readPower_eq_ok long, ?_⟩
  by_cases extended : 8 ≤ v.length
  · rw [read_layout extended]
    exact ⟨(matchesBasic_basic long).extend v, fun short => absurd extended (Nat.not_le.mpr short),
      fun _ => matchesExtended_extend _ _⟩
  · have short : layout.read v = basic v := if_neg extended
    rw [short]
    exact ⟨matchesBasic_basic long, fun _ => ⟨rfl, rfl, rfl, rfl, rfl⟩,
      fun extended' => absurd extended' extended⟩

/-! ## Codes -/

/-- The codes are as wide as their bits, and the source is on the side of the type. -/
structure CodesInRange (power : PowerViaMdi) : Prop where
  type : power.type.raw ≤ 3
  priority : power.priority.raw ≤ 15
  sourcing : power.type.isSourcing = true → power.source.raw ≤ 3
  powered : power.type.isSourcing = false → 128 ≤ power.source.raw ∧ power.source.raw ≤ 131

/-- A type feeds power if it is even. -/
theorem isSourcing_eq (type : PowerType) : type.isSourcing = ! decide (type.raw.toNat % 2 = 1) := by
  rw [PowerType.isSourcing, Nat.testBit_zero]

theorem MatchesExtended.codesInRange {power : PowerViaMdi} {v : Octets} {long : 8 ≤ v.length}
    (same : power.MatchesExtended v long) : power.CodesInRange := by
  have octet : v[3].toNat < 256 := v[3].toNat_lt
  have type := same.type
  have source := same.source
  have priority := same.priority
  constructor
  case type =>
    have low : power.type.raw.toNat ≤ 3 := by omega
    exact UInt8.le_iff_toNat_le.mpr low
  case priority =>
    have low : power.priority.raw.toNat ≤ 15 := by omega
    exact UInt8.le_iff_toNat_le.mpr low
  case sourcing =>
    intro feeds
    have even : ¬ power.type.raw.toNat % 2 = 1 := by simpa [isSourcing_eq] using feeds
    rw [if_neg even] at source
    have low : power.source.raw.toNat ≤ 3 := by omega
    exact UInt8.le_iff_toNat_le.mpr low
  case powered =>
    intro draws
    have odd : power.type.raw.toNat % 2 = 1 := by simpa [isSourcing_eq] using draws
    rw [if_pos odd] at source
    have moved : 128 ≤ power.source.raw.toNat ∧ power.source.raw.toNat ≤ 131 := by omega
    exact ⟨UInt8.le_iff_toNat_le.mpr moved.1, UInt8.le_iff_toNat_le.mpr moved.2⟩

/-- Codes that are all zero are in range: the type zero feeds power. -/
theorem Short.codesInRange {power : PowerViaMdi} (short : power.Short) : power.CodesInRange := by
  have feeds : power.type.isSourcing = true := by
    rw [PowerType.isSourcing, short.type]
    rfl
  constructor
  case type =>
    rw [short.type]
    decide
  case priority =>
    rw [short.priority]
    decide
  case sourcing =>
    intro _
    rw [short.source]
    decide
  case powered =>
    intro draws
    rw [feeds] at draws
    contradiction

theorem three_le_length_of_decode {v : Octets} {power : PowerViaMdi}
    (decoded : layout.decode v = .ok power) : 3 ≤ v.length := by
  by_contra short
  rw [layout, Layout.decode_atLeast, if_pos (Nat.not_le.mp short)] at decoded
  contradiction

theorem codesInRange_of_decode {v : Octets} {power : PowerViaMdi}
    (decoded : layout.decode v = .ok power) : power.CodesInRange := by
  obtain ⟨power', decoded', -, -, short, extended⟩ :=
    exists_decode_eq (three_le_length_of_decode decoded)
  obtain rfl : power' = power := Except.ok.inj (decoded'.symm.trans decoded)
  by_cases eight : 8 ≤ v.length
  · exact (extended eight).codesInRange
  · exact (short (Nat.not_le.mp eight)).codesInRange

theorem decode_of_of? {payload : Octets} {power : PowerViaMdi} (tells : of? payload = some power) :
    layout.decode payload = .ok power := by
  rw [← Ethernet.tells_powerLayout, Layout.decode_map] at tells
  cases decoded : layout.decode payload with
  | error wanted =>
      rw [decoded] at tells
      contradiction
  | ok power' =>
      rw [decoded] at tells
      exact congrArg Except.ok (Option.some.inj tells)

/-- What is told of power by TLVs is decoded from the payload of one of them. -/
theorem codesInRange_of_mem_told {oui : UInt32} {subtype : UInt8} {tlvs : List OrganizationTlv}
    {power : PowerViaMdi} (member : power ∈ OrganizationTlv.told oui subtype of? tlvs) :
    power.CodesInRange := by
  obtain ⟨t, -, tells⟩ := List.mem_filterMap.mp member
  rw [OrganizationTlv.told?, Option.ite_none_right_eq_some] at tells
  exact codesInRange_of_decode (decode_of_of? tells.2)

/-- Whatever the TLVs of an LLDPDU are, the codes of the power are in range. -/
theorem codesInRange_ethernet (info : Info) : info.ethernet.value.power.CodesInRange := by
  have holds : info.ethernet.value.power = _ := (Ethernet.holds_decode info.organizationTlvs).power
  rw [holds]
  cases last : (OrganizationTlv.told 0x00120f 2 of? info.organizationTlvs).getLast? with
  | none => exact Short.codesInRange ⟨rfl, rfl, rfl, rfl, rfl⟩
  | some power => exact codesInRange_of_mem_told (List.mem_of_getLast? last)

/-! ## Bits -/

/-- Two payloads have the same bits at the places that are read. -/
structure SameBits (v w : Octets) (vWhole : 9 ≤ v.length) (wWhole : 9 ≤ w.length) : Prop where
  flags : v[0].toNat % 16 = w[0].toNat % 16
  pair : v[1] = w[1]
  powerClass : v[2] = w[2]
  codes : v[3].toNat / 16 = w[3].toNat / 16
  priority : v[4].toNat % 16 = w[4].toNat % 16
  numbers : ∀ i, (inside : i < 9) → 5 ≤ i → v[i] = w[i]

attribute [ext] PowerViaMdi

theorem code_eq_of_toNat {registry : Registry UInt8} {a b : Code registry}
    (same : a.raw.toNat = b.raw.toNat) : a = b := by
  cases a
  exact congrArg Code.mk (UInt8.toNat_inj.mp same)

section

variable {p q : PowerViaMdi} {v w : Octets}
variable {vLong : 3 ≤ v.length} {wLong : 3 ≤ w.length}

theorem MatchesBasic.flags_eq (ofV : p.MatchesBasic v vLong) (ofW : p.MatchesBasic w wLong) :
    v[0].toNat % 16 = w[0].toNat % 16 := by
  change v[0].toNat % 2 ^ 4 = w[0].toNat % 2 ^ 4
  apply Octets.mod_two_pow_eq_of_testBit
  intro i low
  obtain rfl | rfl | rfl | rfl : i = 0 ∨ i = 1 ∨ i = 2 ∨ i = 3 := by omega
  · exact ofV.isSourcingPort.symm.trans ofW.isSourcingPort
  · exact ofV.supported.symm.trans ofW.supported
  · exact ofV.enabled.symm.trans ofW.enabled
  · exact ofV.pairsControllable.symm.trans ofW.pairsControllable

variable {vExtended : 8 ≤ v.length} {wExtended : 8 ≤ w.length}

/-- The type and the source make up the high half of the octet that they are read from. -/
theorem MatchesExtended.codes_eq (ofV : p.MatchesExtended v vExtended)
    (ofW : p.MatchesExtended w wExtended) : v[3].toNat / 16 = w[3].toNat / 16 := by
  have type := ofV.type.symm.trans ofW.type
  have source := Nat.add_right_cancel (ofV.source.symm.trans ofW.source)
  omega

variable {vWhole : 9 ≤ v.length} {wWhole : 9 ≤ w.length}

/-- A record that two payloads have was read from the same bits. -/
theorem sameBits_of_matches (basicV : p.MatchesBasic v vLong) (basicW : p.MatchesBasic w wLong)
    (extendedV : p.MatchesExtended v vExtended) (extendedW : p.MatchesExtended w wExtended) :
    SameBits v w vWhole wWhole where
  flags := basicV.flags_eq basicW
  pair := basicV.pair.symm.trans basicW.pair
  powerClass := basicV.powerClass.symm.trans basicW.powerClass
  codes := extendedV.codes_eq extendedW
  priority := extendedV.priority.symm.trans extendedW.priority
  numbers := by
    have requested := Octets.pair_eq (extendedV.requested.symm.trans extendedW.requested)
    have allocated :=
      Octets.pair_eq ((extendedV.allocated vWhole).symm.trans (extendedW.allocated wWhole))
    intro i inside behind
    obtain rfl | rfl | rfl | rfl : i = 5 ∨ i = 6 ∨ i = 7 ∨ i = 8 := by omega
    · exact requested.1
    · exact requested.2
    · exact allocated.1
    · exact allocated.2

/-- The same bits make the same record. -/
theorem eq_of_sameBits (same : SameBits v w vWhole wWhole) (basicV : p.MatchesBasic v vLong)
    (basicW : q.MatchesBasic w wLong) (extendedV : p.MatchesExtended v vExtended)
    (extendedW : q.MatchesExtended w wExtended) : p = q := by
  have flag {i : Nat} (low : i < 4) : v[0].toNat.testBit i = w[0].toNat.testBit i :=
    Octets.testBit_eq_of_mod_two_pow same.flags low
  have codes := same.codes
  have type : p.type.raw.toNat = q.type.raw.toNat := by
    rw [extendedV.type, extendedW.type]
    omega
  have source : v[3].toNat / 16 % 4 = w[3].toNat / 16 % 4 := congrArg (· % 4) codes
  apply PowerViaMdi.ext
  case isSourcingPort => rw [basicV.isSourcingPort, basicW.isSourcingPort, flag (by decide)]
  case supported => rw [basicV.supported, basicW.supported, flag (by decide)]
  case enabled => rw [basicV.enabled, basicW.enabled, flag (by decide)]
  case pairsControllable =>
    rw [basicV.pairsControllable, basicW.pairsControllable, flag (by decide)]
  case pair => rw [basicV.pair, basicW.pair, same.pair]
  case powerClass => rw [basicV.powerClass, basicW.powerClass, same.powerClass]
  case type => exact code_eq_of_toNat type
  case source =>
    apply code_eq_of_toNat
    rw [extendedV.source, extendedW.source, type, source]
  case priority =>
    apply code_eq_of_toNat
    rw [extendedV.priority, extendedW.priority, same.priority]
  case requested =>
    apply UInt16.toNat_inj.mp
    rw [extendedV.requested, extendedW.requested, same.numbers 5 (by decide) (by decide),
      same.numbers 6 (by decide) (by decide)]
  case allocated =>
    apply UInt16.toNat_inj.mp
    rw [extendedV.allocated vWhole, extendedW.allocated wWhole,
      same.numbers 7 (by decide) (by decide), same.numbers 8 (by decide) (by decide)]

end

/-- Payloads that hold every field decode to the same record just if they have the same bits at the
places that are read. -/
theorem decode_eq_decode_iff {v w : Octets} (vWhole : 9 ≤ v.length) (wWhole : 9 ≤ w.length) :
    layout.decode v = layout.decode w ↔ SameBits v w vWhole wWhole := by
  obtain ⟨p, decodedV, -, basicV, -, extendedV⟩ :=
    exists_decode_eq (Nat.le_trans (by decide) vWhole)
  obtain ⟨q, decodedW, -, basicW, -, extendedW⟩ :=
    exists_decode_eq (Nat.le_trans (by decide) wWhole)
  have vExtended : 8 ≤ v.length := Nat.le_of_succ_le vWhole
  have wExtended : 8 ≤ w.length := Nat.le_of_succ_le wWhole
  rw [decodedV, decodedW, Except.ok.injEq]
  constructor
  · rintro rfl
    exact sameBits_of_matches basicV basicW (extendedV vExtended) (extendedW wExtended)
  · intro same
    exact eq_of_sameBits same basicV basicW (extendedV vExtended) (extendedW wExtended)

/-! ## The power of a port -/

/-- A payload of three octets or more is decoded without a fault.  The record has the bits and
octets of the payload in its fields; those of the long form are zero for a payload of less than
eight octets, and the power allocated is zero for one of less than nine.  Hence the codes in the
record of every LLDPDU are in range, no source of a device that feeds power is one of a device that
draws it, and payloads of nine octets or more decode to the same record just if they have the same
bits at the places that are read. -/
theorem fields_exact_and_codes_in_range :
    (∀ (v : Octets) (long : 3 ≤ v.length),
      ∃ power, layout.decode v = .ok power ∧ Checked.readPower v = .ok power ∧
        power.MatchesBasic v long ∧ (v.length < 8 → power.Short) ∧
        ∀ extended : 8 ≤ v.length, power.MatchesExtended v extended) ∧
    (∀ info : Info, info.ethernet.value.power.CodesInRange) ∧
    (∀ feeding drawing : Info,
      feeding.ethernet.value.power.type.isSourcing = true →
      drawing.ethernet.value.power.type.isSourcing = false →
      feeding.ethernet.value.power.source ≠ drawing.ethernet.value.power.source) ∧
    ∀ (v w : Octets) (vWhole : 9 ≤ v.length) (wWhole : 9 ≤ w.length),
      layout.decode v = layout.decode w ↔ SameBits v w vWhole wWhole := by
  refine ⟨fun v long => exists_decode_eq long, codesInRange_ethernet, ?_,
    fun v w vWhole wWhole => decode_eq_decode_iff vWhole wWhole⟩
  intro feeding drawing feeds draws same
  have low := (codesInRange_ethernet feeding).sourcing feeds
  have high := ((codesInRange_ethernet drawing).powered draws).1
  rw [same] at low
  exact absurd (UInt8.le_trans high low) (by decide)

/-- A device that draws power and one that feeds it, with the same two bits for the source, and two
payloads that differ only where nothing is read. -/
theorem fields_exact_on_both_sides :
    let drawing : Octets := [15, 1, 2, 0x50, 3, 0, 100, 0, 90]
    let feeding : Octets := [15, 1, 2, 0x90, 3, 0, 100, 0, 90]
    let padded : Octets := [0xff, 1, 2, 0x5f, 0xf3, 0, 100, 0, 90, 7]
    let powerOf (payload : Octets) : PowerViaMdi :=
      ({ organizationTlvs := [⟨.ieee8023, 2, payload⟩] } : Info).ethernet.value.power
    3 ≤ drawing.length ∧ 8 ≤ drawing.length ∧ 9 ≤ drawing.length ∧ 9 ≤ feeding.length ∧
      9 ≤ padded.length ∧
      (∃ power, layout.decode drawing = .ok power ∧ power.source.raw.toNat = 1 + 128) ∧
      (powerOf feeding).type.isSourcing = true ∧ (powerOf drawing).type.isSourcing = false ∧
      (powerOf feeding).source ≠ (powerOf drawing).source ∧
      layout.decode drawing = layout.decode padded ∧
      layout.decode drawing ≠ layout.decode feeding := by
  intro drawing feeding padded powerOf
  have feeds : (powerOf feeding).type.isSourcing = true := by decide
  have draws : (powerOf drawing).type.isSourcing = false := by decide
  obtain ⟨power, decoded, -, -, -, extended⟩ :=
    fields_exact_and_codes_in_range.1 drawing (by decide)
  refine ⟨by decide, by decide, by decide, by decide, by decide, ⟨power, decoded, ?_⟩, feeds, draws,
    fields_exact_and_codes_in_range.2.2.1 _ _ feeds draws, ?_, ?_⟩
  · have octet : drawing[3] = 0x50 := rfl
    rw [(extended (by decide)).source, (extended (by decide)).type, octet]
    decide
  · apply (fields_exact_and_codes_in_range.2.2.2 drawing padded (by decide) (by decide)).mpr
    exact ⟨by decide, rfl, rfl, by decide, by decide, by decide⟩
  · intro same
    have bits :=
      (fields_exact_and_codes_in_range.2.2.2 drawing feeding (by decide) (by decide)).mp same
    exact absurd bits.codes (by decide)

end Lldpdu.PowerViaMdi
