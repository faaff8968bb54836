import Lldpdu.Proofs.Info.Insertion

/-!
# Management addresses, whole or not at all

A management address is read from octets at offsets that two octets of the value itself count out.
A value that is long enough spells exactly one address, and spells the same one whatever octets come
behind it.  A value that is not long enough costs one error, and nothing of it is seen in the
record, not even the parts in front of the object identifier when only that is cut short.
-/

namespace Lldpdu

namespace ManagementAddress

/-- The value spells the management address `a`, where its first octet counts `n` octets of subtype
and address, and a later one `m` octets of object identifier.  All octets that are spoken of are
there. -/
structure Spells (value : Octets) (n m : Nat) (a : ManagementAddress) : Prop where
  addressCount : value[0]?.map UInt8.toNat = some n
  subtype : value[1]? = some a.subtype.raw
  address : a.address = (value.take (n + 1)).drop 2
  /-- If nothing is counted, this is the octet of the subtype. -/
  interfaceSubtype : value[n + 1]? = some a.interfaceSubtype.raw
  interfaceNumber : a.interfaceNumber.toNat = (value.slice (n + 2) 4).number
  identifierCount : value[n + 6]?.map UInt8.toNat = some m
  identifier : (value.slice (n + 9) m).length = m
  objectIdentifier : a.objectIdentifier = Text.lossy (value.slice (n + 9) m)

variable {value : Octets} {n m : Nat} {a : ManagementAddress}

/-- The octets from the third one to the end of the address. -/
theorem drop_take_address (value : Octets) (n : Nat) :
    (value.take (n + 1)).drop 2 = value.slice 2 (n - 1) := by
  have count : n + 1 - 2 = n - 1 := by omega
  rw [List.drop_take, count, Octets.slice]

/-- A value that is long enough spells the address that is read from it. -/
theorem Complete.spells (complete : Complete value) :
    Spells value (addressLength value) (identifierLength value) (ofValue value) := by
  have least := complete.least
  have address := complete.address
  constructor
  case addressCount => rw [Octets.getElem?_eq_octet (by omega), Option.map_some, addressLength]
  case subtype => exact Octets.getElem?_eq_octet (by omega)
  case address => exact (drop_take_address value _).symm
  case interfaceSubtype => exact Octets.getElem?_eq_octet (by omega)
  case interfaceNumber => exact Octets.toNat_u32 value _
  case identifierCount =>
    rw [Octets.getElem?_eq_octet (by omega), Option.map_some, identifierLength]
  case identifier =>
    rw [Octets.length_slice]
    rcases complete.identifier with absent | inside <;> omega
  case objectIdentifier => rfl

namespace Spells

theorem addressLength_eq (spells : Spells value n m a) : addressLength value = n := by
  obtain ⟨b, found, rfl⟩ := Option.map_eq_some_iff.mp spells.addressCount
  rw [addressLength, Octets.octet_eq_of_getElem? found]

theorem identifierLength_eq (spells : Spells value n m a) : identifierLength value = m := by
  obtain ⟨b, found, rfl⟩ := Option.map_eq_some_iff.mp spells.identifierCount
  rw [identifierLength, spells.addressLength_eq, Octets.octet_eq_of_getElem? found]

theorem lt_length (spells : Spells value n m a) : n + 6 < value.length := by
  obtain ⟨b, found, -⟩ := Option.map_eq_some_iff.mp spells.identifierCount
  exact (List.getElem?_eq_some_iff.mp found).1

theorem complete (spells : Spells value n m a) (least : 9 ≤ value.length) : Complete value := by
  have inside := spells.lt_length
  have identifier := spells.identifier
  refine ⟨least, ?_, ?_⟩
  · rw [spells.addressLength_eq]
    omega
  · rw [spells.addressLength_eq, spells.identifierLength_eq]
    rw [Octets.length_slice] at identifier
    omega

/-- A value spells one address only, the one that is read from it. -/
theorem eq_ofValue (spells : Spells value n m a) : a = ofValue value := by
  rcases a with ⟨⟨subtype⟩, address, ⟨interfaceSubtype⟩, interfaceNumber, objectIdentifier⟩
  have number : interfaceNumber = value.u32 (n + 2) := by
    rw [← UInt32.toNat_inj, Octets.toNat_u32]
    exact spells.interfaceNumber
  rw [ofValue, spells.addressLength_eq, spells.identifierLength_eq, mk.injEq]
  exact ⟨congrArg Code.mk (Octets.octet_eq_of_getElem? spells.subtype).symm,
    spells.address.trans (drop_take_address value n),
    congrArg Code.mk (Octets.octet_eq_of_getElem? spells.interfaceSubtype).symm, number,
    spells.objectIdentifier⟩

/-- Octets behind the value make no difference. -/
theorem append (spells : Spells value n m a) (more : Octets) : Spells (value ++ more) n m a := by
  have inside := spells.lt_length
  have kept {offset : Nat} (within : offset < value.length) :
      (value ++ more)[offset]? = value[offset]? := List.getElem?_append_left within
  constructor
  case addressCount => rw [kept (by omega), spells.addressCount]
  case subtype => rw [kept (by omega), spells.subtype]
  case address => rw [List.take_append_of_le_length (by omega), spells.address]
  case interfaceSubtype => rw [kept (by omega), spells.interfaceSubtype]
  case interfaceNumber =>
    have whole : (value.slice (n + 2) 4).length = 4 := by
      rw [Octets.length_slice]
      omega
    rw [Octets.slice_append_of_length whole, spells.interfaceNumber]
  case identifierCount => rw [kept (by omega), spells.identifierCount]
  case identifier =>
    rw [Octets.slice_append_of_length spells.identifier, spells.identifier]
  case objectIdentifier =>
    rw [Octets.slice_append_of_length spells.identifier, spells.objectIdentifier]

/-- Where the octets counted leave room for the subtype only, or not even for that, the address is
empty. -/
theorem address_eq_nil (spells : Spells value n m a) (small : n ≤ 1) : a.address = [] := by
  rw [spells.address, drop_take_address, Nat.sub_eq_zero_of_le small, Octets.slice, List.take_zero]

theorem interfaceSubtype_eq (spells : Spells value n m a) (zero : n = 0) :
    a.interfaceSubtype.raw = a.subtype.raw := by
  subst zero
  exact Option.some.inj (spells.interfaceSubtype.symm.trans spells.subtype)

theorem objectIdentifier_eq (spells : Spells value n m a) (zero : m = 0) :
    a.objectIdentifier = "" := by
  subst zero
  exact spells.objectIdentifier

end Spells

/-- Of the lengths that are asked for, the first one that a rejected value falls short of. -/
theorem find?_eq_shortfall? (rejected : ¬ Complete value) :
    [9, addressLength value + 7, addressLength value + 6 + identifierLength value,
      addressLength value + 9 + identifierLength value].find?
        (fun wanted => value.length < wanted) = shortfall? value := by
  rw [complete_iff] at rejected
  simp only [shortfall?]
  by_cases header : value.length < 9
  · simp [header]
  by_cases address : value.length < addressLength value + 7
  · simp [header, address]
  -- An identifier of no octets has nothing to fall short of.
  have present : identifierLength value ≠ 0 := by
    intro absent
    exact rejected ⟨Nat.le_of_not_lt header, Nat.le_of_not_lt address, .inl absent⟩
  by_cases counted : value.length < addressLength value + 6 + identifierLength value
  · simp [header, address, present, counted]
  by_cases placed : value.length < addressLength value + 9 + identifierLength value
  · simp [header, address, present, counted, placed]
  · simp [header, address, present, counted, placed]

end ManagementAddress

namespace Info

open ManagementAddress (Complete Spells addressLength identifierLength)

variable {value : Octets}

theorem errors_managementAddress_eq_nil_iff (length : UInt16) (value : Octets) :
    (ofTlvs [⟨.managementAddress, length, value⟩]).errors = [] ↔ Complete value := by
  rw [errors_singleton, Option.toList_eq_nil_iff, Tlv.rejection?_eq_none_iff,
    accepted_iff_of_managementAddress rfl]

/-- An accepted value costs no error, and its address is that of the record until another value is
accepted. -/
theorem ofTlvs_of_complete (complete : Complete value) (length : UInt16)
    (before behind : List Tlv) :
    (ofTlvs (before ++ ⟨.managementAddress, length, value⟩ :: behind)).errors =
        (ofTlvs (before ++ behind)).errors ∧
      ((∀ u ∈ behind, u.kind = .managementAddress → ¬ Complete u.value) →
        (ofTlvs (before ++ ⟨.managementAddress, length, value⟩ :: behind)).value =
          { (ofTlvs (before ++ behind)).value with managementAddress := .ofValue value }) := by
  let t : Tlv := ⟨.managementAddress, length, value⟩
  have accepted : t.Accepted := (accepted_iff_of_managementAddress rfl).mpr complete
  refine ⟨errors_insert_of_accepted before behind accepted, ?_⟩
  intro last
  have describes : t.kind ∈ describingTypes :=
    show TlvType.managementAddress ∈ describingTypes by decide
  apply value_insert_of_last before behind describes accepted
  intro u member same
  exact (accepted_iff_of_managementAddress same).not.mpr (last u member same)

/-- A rejected value costs one error, and leaves the record as it is. -/
theorem ofTlvs_of_not_complete (rejected : ¬ Complete value) :
    ∃ wanted, ManagementAddress.shortfall? value = some wanted ∧
      ∀ (length : UInt16) (before behind : List Tlv),
        ofTlvs (before ++ ⟨.managementAddress, length, value⟩ :: behind) =
          ⟨(ofTlvs (before ++ behind)).value, (ofTlvs before).errors ++
            .tlv .managementAddress value.length wanted :: (ofTlvs behind).errors⟩ := by
  obtain ⟨wanted, short⟩ := Option.ne_none_iff_exists'.mp
    ((ManagementAddress.shortfall?_eq_none_iff value).not.mpr rejected)
  refine ⟨wanted, short, ?_⟩
  intro length before behind
  let t : Tlv := ⟨.managementAddress, length, value⟩
  obtain ⟨least, shortfall, decoded⟩ :=
    rejected_insert (t := t) before behind (.inr ⟨rfl, rejected⟩)
  obtain rfl : least = wanted := Option.some.inj (shortfall.symm.trans short)
  exact decoded

/-- A management address is taken whole or not at all.  It is accepted if and only if its value is
long enough for the address, and for the object identifier unless none is counted.  Then it costs
no error, and the address of the record is the one that the value spells, with or without octets
behind it.  Otherwise it costs one error, which asks for the first length that is not reached, and
the record is the one that there is without it. -/
theorem managementAddress_whole_or_not_at_all (value : Octets) :
    let n := addressLength value
    let m := identifierLength value
    (∀ length : UInt16, (ofTlvs [⟨.managementAddress, length, value⟩]).errors = [] ↔
      9 ≤ value.length ∧ n + 7 ≤ value.length ∧ (m = 0 ∨ n + 9 + m ≤ value.length)) ∧
      (Complete value → ∃ a, Spells value n m a ∧ (n ≤ 1 → a.address = []) ∧
        (n = 0 → a.interfaceSubtype.raw = a.subtype.raw) ∧ (m = 0 → a.objectIdentifier = "") ∧
        ∀ (more : Octets) (length : UInt16) (before behind : List Tlv),
          let t : Tlv := ⟨.managementAddress, length, value ++ more⟩
          Spells t.value n m a ∧
            (ofTlvs (before ++ t :: behind)).errors = (ofTlvs (before ++ behind)).errors ∧
            ((∀ u ∈ behind, u.kind = .managementAddress → ¬ Complete u.value) →
              (ofTlvs (before ++ t :: behind)).value =
                { (ofTlvs (before ++ behind)).value with managementAddress := a })) ∧
      (¬ Complete value → ∃ wanted,
        [9, n + 7, n + 6 + m, n + 9 + m].find? (fun wanted => value.length < wanted) =
            some wanted ∧
          ∀ (length : UInt16) (before behind : List Tlv),
            ofTlvs (before ++ ⟨.managementAddress, length, value⟩ :: behind) =
              ⟨(ofTlvs (before ++ behind)).value, (ofTlvs before).errors ++
                .tlv .managementAddress value.length wanted :: (ofTlvs behind).errors⟩) := by
  intro n m
  refine ⟨?_, ?_, ?_⟩
  · intro length
    rw [errors_managementAddress_eq_nil_iff, ManagementAddress.complete_iff]
  · intro complete
    have spells := complete.spells
    refine ⟨_, spells, spells.address_eq_nil, spells.interfaceSubtype_eq,
      spells.objectIdentifier_eq, ?_⟩
    intro more length before behind t
    have longer : Complete (value ++ more) :=
      (spells.append more).complete (Nat.le_trans complete.least (by simp))
    obtain ⟨errors, record⟩ := ofTlvs_of_complete longer length before behind
    rw [← (spells.append more).eq_ofValue] at record
    exact ⟨spells.append more, errors, record⟩
  · intro rejected
    obtain ⟨wanted, short, decoded⟩ := ofTlvs_of_not_complete rejected
    exact ⟨wanted, (ManagementAddress.find?_eq_shortfall? rejected).trans short, decoded⟩

/-- An IPv4 address with an object identifier of two octets, and behind it another address of which
the last octet is missing, so that it is the check of the place that fails. -/
theorem managementAddress_cut_identifier :
    let whole : Octets := [5, 1, 10, 0, 0, 1, 2, 0, 0, 0, 7, 2, 0xaa, 0xbb, 49, 46]
    let cut : Octets := [5, 1, 10, 0, 0, 2, 3, 0, 0, 0, 9, 2, 0xaa, 0xbb, 50]
    let good : Tlv := .ofValue .managementAddress whole
    let bad : Tlv := .ofValue .managementAddress cut
    Complete whole ∧ ¬ Complete cut ∧
      (ofTlvs [good]).value = { managementAddress := ⟨⟨1⟩, [10, 0, 0, 1], ⟨2⟩, 7, "1."⟩ } ∧
      ofTlvs ([good] ++ [bad]) = ⟨(ofTlvs [good]).value, [.tlv .managementAddress 15 16]⟩ := by
  intro whole cut good bad
  have complete : Complete whole := by decide
  have rejected : ¬ Complete cut := by decide
  obtain ⟨a, spells, -, -, -, taken⟩ := (managementAddress_whole_or_not_at_all whole).2.1 complete
  obtain ⟨wanted, first, refused⟩ := (managementAddress_whole_or_not_at_all cut).2.2 rejected
  have record := (taken [] 16 [] []).2.2 (by simp)
  have isSixteen : wanted = 16 := Option.some.inj (first.symm.trans (by decide))
  subst isSixteen
  refine ⟨complete, rejected, ?_, ?_⟩
  · rw [spells.eq_ofValue] at record
    exact record.trans (by decide +kernel)
  · exact (refused 15 [good] []).trans (by decide +kernel)

end Info

end Lldpdu
