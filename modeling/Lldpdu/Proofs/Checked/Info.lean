import Lldpdu.Info.Basic
import Lldpdu.Proofs.Checked.Layout
import Mathlib.Data.Option.Basic

/-!
# The optional TLVs, operation by operation

The fields of a management address stand at offsets that its own octets declare, up to 519 octets
from the start, so each of them is a sum that has to fit and a place that has to be there.  The
lengths that the decoder asks for one after the other cover all of them.
-/

namespace Lldpdu.Checked

/-- The octets copied into an address of exactly so many. -/
def address (width : Nat) (bs : Octets) : Checked Octets :=
  if bs.length = width then .ok bs else .error .width

/-! ## Addresses -/

/-- The identifier as a MAC address. -/
def macAddress? {subtypes : Registry UInt8} (mac : Code subtypes) (i : Identifier subtypes) :
    Checked (Option Octets) := do
  if i.subtype = mac ∧ i.id.length = 6 then
    return some (← address 6 i.id)
  return none

/-- The management address as an IP address. -/
def ipAddress? (m : ManagementAddress) : Checked (Option Octets) := do
  if m.subtype = ManagementAddress.ipv4 ∧ m.address.length = 4 then
    return some (← address 4 m.address)
  if m.subtype = ManagementAddress.ipv6 ∧ m.address.length = 16 then
    return some (← address 16 m.address)
  return none

theorem address_eq_ok {width : Nat} {bs : Octets} (exact : bs.length = width) :
    address width bs = .ok bs :=
  if_pos exact

/-- An identifier is copied into a MAC address only if it is as long as one. -/
theorem macAddress?_eq_ok {subtypes : Registry UInt8} (mac : Code subtypes)
    (i : Identifier subtypes) : macAddress? mac i = .ok (i.addressUnder? mac) := by
  rw [macAddress?, Identifier.addressUnder?]
  by_cases isMac : i.subtype = mac ∧ i.id.length = 6
  · rw [if_pos isMac, if_pos isMac, address_eq_ok isMac.2]
    rfl
  · rw [if_neg isMac, if_neg isMac]
    rfl

/-- A management address is copied into an IP address only if it is as long as one of its
family. -/
theorem ipAddress?_eq_ok (m : ManagementAddress) : ipAddress? m = .ok m.ipAddress? := by
  rw [ipAddress?, ManagementAddress.ipAddress?]
  by_cases v4 : m.subtype = ManagementAddress.ipv4 ∧ m.address.length = 4
  · rw [if_pos v4, if_pos (.inl v4), address_eq_ok v4.2]
    rfl
  by_cases v6 : m.subtype = ManagementAddress.ipv6 ∧ m.address.length = 16
  · rw [if_neg v4, if_pos v6, if_pos (.inr v6), address_eq_ok v6.2]
    rfl
  · rw [if_neg v4, if_neg v6, if_neg (not_or.mpr ⟨v4, v6⟩)]
    rfl

/-! ## Decoders -/

/-- The decoder of text, which fits every value. -/
def text : Decoder String := fun value =>
  return (some (Text.lossy value), [])

/-- The decoder of the capabilities. -/
def capabilities : Decoder SystemCapabilities :=
  atLeast 4 fun v => do
    let supported ← u16 (← range v 0 2)
    let enabled ← u16 (← range v 2 4)
    return { supported := .ofWord supported, enabled := .ofWord enabled }

/-- The decoder of the object identifier behind an address of `n` octets, which adds it to what
was found in front of it. -/
def identified (n : Nat) (found : ManagementAddress) : Decoder ManagementAddress := fun v => do
  let m := (← octet v (← addWord n 6)).toNat
  if m = 0 then
    return (some found, [])
  let wanted ← addWord (← addWord n 6) m
  if v.length < wanted then
    return (none, [wanted])
  match get? v (← addWord n 9) (← addWord (← addWord n 9) m) with
  | some identifier => return (some { found with objectIdentifier := Text.lossy identifier }, [])
  | none =>
      let wanted ← addWord (← addWord n 9) m
      return (none, if v.length < wanted then [wanted] else [])

/-- The decoder of a management address in a value of nine octets or more. -/
def declaredAddress : Decoder ManagementAddress := fun v => do
  let n := (← octet v 0).toNat
  let wanted ← addWord n 7
  if v.length < wanted then
    return (none, [wanted])
  let subtype ← octet v 1
  -- For `n = 0` this range is out of order, and no range is taken.
  let address := (get? v 2 (← addWord n 1)).getD []
  let interfaceSubtype ← octet v (← addWord n 1)
  let interfaceNumber ← u32 (← range v (← addWord n 2) (← addWord n 6))
  let found : ManagementAddress :=
    { subtype := ⟨subtype⟩, address, interfaceSubtype := ⟨interfaceSubtype⟩, interfaceNumber }
  identified n found v

/-- The decoder of a management address. -/
def managementAddress : Decoder ManagementAddress := fun v =>
  if v.length < 9 then return (none, [9]) else declaredAddress v

/-- The decoder of a TLV of an organization. -/
def organizationTlv : Decoder OrganizationTlv :=
  atLeast OrganizationTlv.headerLength fun v => do
    let oui ← u24 (← range v 0 3)
    let subtype ← octet v 3
    let payload ← rangeFrom v OrganizationTlv.headerLength
    return { oui := ⟨oui⟩, subtype, payload }

/-- The decoder of the values of a type, for the types that have one. -/
def decoder? : TlvType → Option (Decoder Info.Item)
  | .portDescription => some (mapItem .portDescription text)
  | .systemName => some (mapItem .systemName text)
  | .systemDescription => some (mapItem .systemDescription text)
  | .systemCapabilities => some (mapItem .capabilities capabilities)
  | .managementAddress => some (mapItem .managementAddress managementAddress)
  | .organizationSpecific => some (mapItem .organizationTlv organizationTlv)
  | _ => none

/-- What a sequence of TLVs says. -/
def info (tlvs : List Tlv) : Checked (Decoded Info) :=
  tlvs.foldlM (fun d t => do
    match decoder? t.kind with
    | some decoder =>
        return record .add (.tlv t.kind t.value.length) d (← decoder t.value)
    | none => return { d with value := d.value.add (.unknown t) }) ⟨{}, []⟩

/-! ## What the decoders make of a value -/

theorem decodes_text : Decodes text Info.textLayout :=
  fun _ => rfl

theorem decodes_capabilities : Decodes capabilities SystemCapabilities.layout := by
  apply decodes_atLeast
  intro v long
  simp (disch := omega) only [range_eq_ok, ok_bind, Nat.reduceSub, u16_slice, pure_eq_ok]

theorem decodes_organizationTlv : Decodes organizationTlv OrganizationTlv.layout := by
  apply decodes_atLeast
  intro v long
  rw [OrganizationTlv.headerLength] at long
  simp (disch := omega) only [range_eq_ok, ok_bind, Nat.reduceSub, u24_slice, octet_eq_ok,
    rangeFrom_eq_ok, OrganizationTlv.headerLength, pure_eq_ok]

theorem identified_eq_ok {v : Octets} {n : Nat} (small : n < 256) (long : n + 7 ≤ v.length)
    (found : ManagementAddress) :
    identified n found v =
      .ok (let m := (v.octet (n + 6)).toNat
        if m = 0 then (some found, [])
        else if v.length < n + 6 + m then (none, [n + 6 + m])
        else if v.length < n + 9 + m then (none, [n + 9 + m])
        else (some { found with objectIdentifier := Text.lossy (v.slice (n + 9) m) }, [])) := by
  have octetBound := (v.octet (n + 6)).toNat_lt
  have six : addWord n 6 = .ok (n + 6) := addWord_eq_ok (by omega)
  have nine : addWord n 9 = .ok (n + 9) := addWord_eq_ok (by omega)
  rw [identified, six, ok_bind, octet_eq_ok (by omega), ok_bind]
  generalize (v.octet (n + 6)).toNat = m at octetBound ⊢
  have sixMore : addWord (n + 6) m = .ok (n + 6 + m) := addWord_eq_ok (by omega)
  have nineMore : addWord (n + 9) m = .ok (n + 9 + m) := addWord_eq_ok (by omega)
  simp only [ok_bind, sixMore, nine, nineMore]
  by_cases absent : m = 0
  · simp only [if_pos absent, pure_eq_ok]
  by_cases behind : v.length < n + 6 + m
  · simp only [if_neg absent, if_pos behind, pure_eq_ok]
  simp only [if_neg absent, if_neg behind]
  by_cases beyond : v.length < n + 9 + m
  · simp only [get?_eq_none beyond, if_pos beyond, pure_eq_ok]
  · simp only [get?_eq_some (Nat.le_add_right _ m) (Nat.not_lt.mp beyond), if_neg beyond,
      Nat.add_sub_cancel_left, pure_eq_ok]

/-- The first demand of a management address that a value does not meet. -/
theorem decode_managementAddress (v : Octets) :
    ManagementAddress.layout.decode v =
      let n := (v.octet 0).toNat
      let m := (v.octet (n + 6)).toNat
      if v.length < 9 then .error 9
      else if v.length < n + 7 then .error (n + 7)
      else if m = 0 then .ok (.ofValue v)
      else if v.length < n + 6 + m then .error (n + 6 + m)
      else if v.length < n + 9 + m then .error (n + 9 + m)
      else .ok (.ofValue v) := by
  simp only [Layout.decode, Layout.unmet?, ManagementAddress.layout, ManagementAddress.demands,
    ManagementAddress.identifierLength, ManagementAddress.addressLength]
  by_cases floor : v.length < 9
  · simp [floor]
  by_cases short : v.length < (v.octet 0).toNat + 7
  · simp [floor, short]
  by_cases absent : (v.octet ((v.octet 0).toNat + 6)).toNat = 0
  · simp [floor, short, absent]
  by_cases behind :
      v.length < (v.octet 0).toNat + 6 + (v.octet ((v.octet 0).toNat + 6)).toNat
  · simp [floor, short, absent, behind]
  by_cases beyond :
      v.length < (v.octet 0).toNat + 9 + (v.octet ((v.octet 0).toNat + 6)).toNat
  · simp [floor, short, absent, behind, beyond]
  · simp [floor, short, absent, behind, beyond]

/-- The address and its subtype are counted together, and the address is empty if even the subtype
is not counted. -/
theorem getD_get?_address {v : Octets} {n : Nat} (long : n + 7 ≤ v.length) :
    (get? v 2 (n + 1)).getD [] = v.slice 2 (n - 1) := by
  by_cases counted : 2 ≤ n + 1
  · rw [get?_eq_some counted (by omega)]
    rfl
  · obtain rfl : n = 0 := by omega
    rfl

theorem decodes_managementAddress : Decodes managementAddress ManagementAddress.layout := by
  intro v
  have octetBound := (v.octet 0).toNat_lt
  rw [outcome, decode_managementAddress v, managementAddress]
  by_cases floor : v.length < 9
  · simp only [if_pos floor, pure_eq_ok]
  rw [if_neg floor, declaredAddress, octet_eq_ok (by omega), ok_bind]
  simp only [if_neg floor]
  obtain ⟨n, declared⟩ : ∃ n, (v.octet 0).toNat = n := ⟨_, rfl⟩
  rw [declared] at octetBound ⊢
  have seven : addWord n 7 = .ok (n + 7) := addWord_eq_ok (by omega)
  rw [seven, ok_bind]
  by_cases short : v.length < n + 7
  · simp only [if_pos short, pure_eq_ok]
  have long := Nat.not_lt.mp short
  have one : addWord n 1 = .ok (n + 1) := addWord_eq_ok (by omega)
  have two : addWord n 2 = .ok (n + 2) := addWord_eq_ok (by omega)
  have six : addWord n 6 = .ok (n + 6) := addWord_eq_ok (by omega)
  simp only [if_neg short, one, two, six, ok_bind, octet_eq_ok (show 1 < v.length by omega),
    octet_eq_ok (show n + 1 < v.length by omega), identified_eq_ok octetBound long,
    range_eq_ok (show n + 2 ≤ n + 6 by omega) (show n + 6 ≤ v.length by omega),
    getD_get?_address long, Nat.add_sub_add_left, Nat.reduceSub,
    u32_slice (show n + 2 + 4 ≤ v.length by omega)]
  have value : ManagementAddress.ofValue v =
      { subtype := ⟨v.octet 1⟩
        address := v.slice 2 (n - 1)
        interfaceSubtype := ⟨v.octet (n + 1)⟩
        interfaceNumber := v.u32 (n + 2)
        objectIdentifier := Text.lossy (v.slice (n + 9) (v.octet (n + 6)).toNat) } := by
    subst declared
    rfl
  generalize (v.octet (n + 6)).toNat = m at value ⊢
  by_cases absent : m = 0
  · subst absent
    simp only [value, if_true]
    rfl
  by_cases behind : v.length < n + 6 + m
  · simp only [if_neg absent, if_pos behind]
  by_cases beyond : v.length < n + 9 + m
  · simp only [if_neg absent, if_neg behind, if_pos beyond]
  · simp only [if_neg absent, if_neg behind, if_neg beyond, value]

theorem decoder?_agrees (kind : TlvType) :
    Option.Rel Decodes (decoder? kind) (Info.layout? kind) := by
  unfold decoder?
  split
  · exact .some (decodes_text.map _)
  · exact .some (decodes_text.map _)
  · exact .some (decodes_text.map _)
  · exact .some (decodes_capabilities.map _)
  · exact .some (decodes_managementAddress.map _)
  · exact .some (decodes_organizationTlv.map _)
  · rw [Info.layout?]
    exact .none
    all_goals assumption

/-- No list of TLVs makes the decoder of the optional part fault, whatever their values are and
whatever lengths they declare. -/
theorem info_eq_ok (tlvs : List Tlv) : info tlvs = .ok (Info.ofTlvs tlvs) := by
  rw [info, Info.ofTlvs, ← Decoded.foldl_push, List.foldl_map]
  apply foldlM_eq_ok
  intro d t
  have agrees := decoder?_agrees t.kind
  rw [Info.read]
  generalize decoder? t.kind = own, Info.layout? t.kind = layout at agrees ⊢
  cases agrees with
  | none => rfl
  | some decodes =>
      simp only [decodes t.value, ok_bind, pure_eq_ok, record_outcome]

end Lldpdu.Checked
