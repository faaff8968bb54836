import Lldpdu.Info.Basic
import Lldpdu.Proofs.FlagSet
import Lldpdu.Proofs.Octets
import Lldpdu.Proofs.Text.Utf8
import Lldpdu.Proofs.Tlv.Encoding
import Mathlib.Tactic.IntervalCases

/-!
# Optional TLVs as they are written

For each kind of optional TLV this file says which values carry a given content, and that the
content is read back from each of them.  The values leave some octets and bits free: those of a
capability word that belong to no capability, and the two octets in front of the object
identifier of a management address.
-/

namespace Lldpdu

/-! ## Capabilities -/

/-- Every bit of a set of capabilities belongs to a capability. -/
theorem Capability.exists_bit_eq (i : Nat) (inside : i < Flag.width Capability) :
    ∃ capability : Capability, Flag.bit capability = i := by
  change i < 11 at inside
  interval_cases i
  · exact ⟨.other, rfl⟩
  · exact ⟨.repeater, rfl⟩
  · exact ⟨.bridge, rfl⟩
  · exact ⟨.wlanAccessPoint, rfl⟩
  · exact ⟨.router, rfl⟩
  · exact ⟨.telephone, rfl⟩
  · exact ⟨.docsis, rfl⟩
  · exact ⟨.stationOnly, rfl⟩
  · exact ⟨.customerVlan, rfl⟩
  · exact ⟨.serviceVlan, rfl⟩
  · exact ⟨.twoPortRelay, rfl⟩

namespace SystemCapabilities

/-- The value that carries two words of capabilities. -/
def value (supported enabled : UInt16) : Octets :=
  Octets.ofNumber 2 supported.toNat ++ Octets.ofNumber 2 enabled.toNat

theorem length_value (supported enabled : UInt16) : (value supported enabled).length = 4 := by
  simp [value]

theorem decode_value {capabilities : SystemCapabilities} {supported enabled : UInt16}
    (raisesSupported : capabilities.supported.RaisedBy supported)
    (raisesEnabled : capabilities.enabled.RaisedBy enabled) :
    layout.decode (value supported enabled) = .ok capabilities := by
  have first : (value supported enabled).u16 0 = supported :=
    Octets.u16_append [] supported (Octets.ofNumber 2 enabled.toNat) rfl
  have second : (value supported enabled).u16 2 = enabled := by
    have read :
        (Octets.ofNumber 2 supported.toNat ++ (Octets.ofNumber 2 enabled.toNat ++ [])).u16 2 =
          enabled := Octets.u16_append _ enabled [] (by simp)
    rwa [List.append_nil] at read
  rw [layout, Layout.decode_atLeast, length_value, if_neg (by decide), first, second,
    FlagSet.ofWord_of_raisedBy Capability.exists_bit_eq raisesSupported,
    FlagSet.ofWord_of_raisedBy Capability.exists_bit_eq raisesEnabled]

end SystemCapabilities

/-! ## TLVs of organizations -/

namespace OrganizationTlv

theorem length_value (t : OrganizationTlv) : t.value.length = 4 + t.payload.length := by
  simp [value]
  omega

theorem decode_value {t : OrganizationTlv} (bound : t.oui.raw.toNat < 2 ^ 24) :
    layout.decode t.value = .ok t := by
  have oui : t.value.u24 0 = t.oui.raw :=
    Octets.u24_append [] t.oui.raw (t.subtype :: t.payload) rfl bound
  have subtype : t.value.octet 3 = t.subtype :=
    Octets.octet_append (Octets.ofNumber 3 t.oui.raw.toNat) t.subtype t.payload (by simp)
  have payload : t.value.drop headerLength = t.payload := by
    have split : t.value = (Octets.ofNumber 3 t.oui.raw.toNat ++ [t.subtype]) ++ t.payload := by
      simp [value]
    rw [split, List.drop_left' (by simp [headerLength])]
  have long : ¬ t.value.length < headerLength := by
    rw [length_value, headerLength]
    omega
  rw [layout, Layout.decode_atLeast, if_neg long, oui, subtype, payload]

end OrganizationTlv

/-! ## Management addresses -/

namespace ManagementAddress

/-- The octets behind the one that counts the object identifier: two free octets and the
identifier, or nothing if there is no identifier. -/
def identifierPart (identifier : Octets) (first second : UInt8) : Octets :=
  if identifier = [] then [] else first :: second :: identifier

/-- The value that carries a management address. -/
def value (m : ManagementAddress) (first second : UInt8) : Octets :=
  let identifier := Text.encode m.objectIdentifier
  UInt8.ofNat (1 + m.address.length) :: m.subtype.raw :: m.address ++ m.interfaceSubtype.raw ::
    Octets.ofNumber 4 m.interfaceNumber.toNat ++ UInt8.ofNat identifier.length ::
      identifierPart identifier first second

/-- A management address whose parts can be counted by an octet each, and its value by a TLV. -/
structure Fits (m : ManagementAddress) : Prop where
  some : 1 ≤ m.address.length
  counted : m.address.length ≤ 254
  identified : (Text.encode m.objectIdentifier).length ≤ 255
  whole : ∀ first second, (m.value first second).length ≤ Tlv.maxLength

variable {m : ManagementAddress}

theorem length_value (m : ManagementAddress) (first second : UInt8) :
    (m.value first second).length = 8 + m.address.length +
      (identifierPart (Text.encode m.objectIdentifier) first second).length := by
  simp [value]
  omega

theorem addressLength_value (fits : m.Fits) (first second : UInt8) :
    addressLength (m.value first second) = 1 + m.address.length := by
  have counted := fits.counted
  change (UInt8.ofNat (1 + m.address.length)).toNat = _
  rw [UInt8.toNat_ofNat']
  omega

theorem identifierLength_value (fits : m.Fits) (first second : UInt8) :
    identifierLength (m.value first second) = (Text.encode m.objectIdentifier).length := by
  have identified := fits.identified
  have octet : (m.value first second).octet (addressLength (m.value first second) + 6) =
      UInt8.ofNat (Text.encode m.objectIdentifier).length := by
    rw [addressLength_value fits, value]
    apply Octets.octet_append
    simp
    omega
  rw [identifierLength, octet, UInt8.toNat_ofNat']
  omega

/-- The object identifier is where its length says, two octets on. -/
theorem slice_identifier (fits : m.Fits) (first second : UInt8) :
    (m.value first second).slice (addressLength (m.value first second) + 9)
      (identifierLength (m.value first second)) = Text.encode m.objectIdentifier := by
  rw [addressLength_value fits, identifierLength_value fits]
  by_cases absent : Text.encode m.objectIdentifier = []
  · simp [absent, Octets.slice]
  · have split : m.value first second =
        (UInt8.ofNat (1 + m.address.length) :: m.subtype.raw :: m.address ++
          m.interfaceSubtype.raw :: Octets.ofNumber 4 m.interfaceNumber.toNat ++
          [UInt8.ofNat (Text.encode m.objectIdentifier).length, first, second]) ++
          (Text.encode m.objectIdentifier ++ []) := by
      simp [value, identifierPart, absent]
    rw [split]
    apply Octets.slice_append _ _ _ _ rfl
    simp
    omega

/-- The fields of a management address are where they are looked for. -/
theorem ofValue_value (fits : m.Fits) (first second : UInt8) :
    ofValue (m.value first second) = m := by
  let front := UInt8.ofNat (1 + m.address.length) :: m.subtype.raw :: m.address
  let back := UInt8.ofNat (Text.encode m.objectIdentifier).length ::
    identifierPart (Text.encode m.objectIdentifier) first second
  have n := addressLength_value fits first second
  have address : (m.value first second).slice 2 (addressLength (m.value first second) - 1) =
      m.address := by
    rw [n, Nat.add_sub_cancel_left, value, List.append_assoc]
    exact Octets.slice_append [_, _] m.address _ rfl rfl
  have interfaceSubtype :
      (m.value first second).octet (addressLength (m.value first second) + 1) =
        m.interfaceSubtype.raw := by
    have split : m.value first second = front ++ m.interfaceSubtype.raw ::
        (Octets.ofNumber 4 m.interfaceNumber.toNat ++ back) := List.append_assoc front _ back
    rw [n, split]
    apply Octets.octet_append
    simp [front]
    omega
  have interfaceNumber :
      (m.value first second).u32 (addressLength (m.value first second) + 2) =
        m.interfaceNumber := by
    have split : m.value first second = (front ++ [m.interfaceSubtype.raw]) ++
        (Octets.ofNumber 4 m.interfaceNumber.toNat ++ back) := by simp [value, front, back]
    rw [n, split]
    apply Octets.u32_append
    simp [front]
    omega
  rw [ofValue, address, interfaceSubtype, interfaceNumber, slice_identifier fits,
    Text.lossy_encode]
  rfl

/-- A value that carries a management address meets every demand. -/
theorem unmet?_value (fits : m.Fits) (first second : UInt8) :
    layout.unmet? (m.value first second) = none := by
  have some := fits.some
  have size := length_value m first second
  rw [Layout.unmet?, List.find?_eq_none]
  intro wanted demanded
  rw [decide_eq_true_eq, size]
  simp only [layout, demands, addressLength_value fits, identifierLength_value fits,
    List.length_eq_zero_iff, List.mem_append] at demanded
  rcases demanded with demanded | demanded
  · simp only [List.mem_cons, List.not_mem_nil, or_false] at demanded
    omega
  · by_cases absent : Text.encode m.objectIdentifier = []
    · simp [absent] at demanded
    · simp only [if_neg absent, List.mem_cons, List.not_mem_nil, or_false] at demanded
      simp only [identifierPart, if_neg absent, List.length_cons]
      omega

theorem decode_value (fits : m.Fits) (first second : UInt8) :
    layout.decode (m.value first second) = .ok m := by
  rw [Layout.decode, unmet?_value fits]
  exact congrArg Except.ok (ofValue_value fits first second)

end ManagementAddress

end Lldpdu
