import Lldpdu.Proofs.Info.Items

/-!
# TLVs that are accepted and TLVs that are rejected

A TLV is rejected if its value is shorter than its type demands, and then it costs exactly one
error.  Otherwise it is accepted, and what it says is a matter of its type and its value.

Either way it is one or the other: the record is made up of what the accepted TLVs say, and the
errors are those of the rejected ones, both in order.
-/

namespace Lldpdu

namespace ManagementAddress

/-- The value is long enough for the address, and for the object identifier if there is one. -/
structure Complete (v : Octets) : Prop where
  least : 9 ≤ v.length
  address : addressLength v + 7 ≤ v.length
  identifier : identifierLength v = 0 ∨ addressLength v + 9 + identifierLength v ≤ v.length

theorem complete_iff (v : Octets) :
    Complete v ↔ 9 ≤ v.length ∧ addressLength v + 7 ≤ v.length ∧
      (identifierLength v = 0 ∨ addressLength v + 9 + identifierLength v ≤ v.length) :=
  ⟨fun ⟨least, address, identifier⟩ => ⟨least, address, identifier⟩,
    fun ⟨least, address, identifier⟩ => ⟨least, address, identifier⟩⟩

instance (v : Octets) : Decidable (Complete v) :=
  decidable_of_iff' _ (complete_iff v)

/-- The first length that a value falls short of.  The length of the object identifier is counted
first from its length octet, and then from where the identifier starts. -/
def shortfall? (v : Octets) : Option Nat :=
  let n := addressLength v
  let m := identifierLength v
  if v.length < 9 then some 9
  else if v.length < n + 7 then some (n + 7)
  else if m = 0 then none
  else if v.length < n + 6 + m then some (n + 6 + m)
  else if v.length < n + 9 + m then some (n + 9 + m)
  else none

theorem unmet?_layout (v : Octets) : layout.unmet? v = shortfall? v := by
  simp only [Layout.unmet?, layout, demands, shortfall?]
  by_cases header : v.length < 9
  · simp [header]
  by_cases address : v.length < addressLength v + 7
  · simp [header, address]
  by_cases absent : identifierLength v = 0
  · simp [header, address, absent]
  by_cases counted : v.length < addressLength v + 6 + identifierLength v
  · simp [header, address, absent, counted]
  by_cases placed : v.length < addressLength v + 9 + identifierLength v
  · simp [header, address, absent, counted, placed]
  · simp [header, address, absent, counted, placed]

theorem shortfall?_eq_none_iff (v : Octets) : shortfall? v = none ↔ Complete v := by
  rw [complete_iff, shortfall?]
  grind

end ManagementAddress

/-! ## One TLV -/

/-- The first length that the value of a TLV falls short of.  A TLV that falls short of nothing is
accepted; the text of a description has no length to reach, nor has a type without a layout. -/
def Tlv.shortfall? (t : Tlv) : Option Nat :=
  match t.kind with
  | .systemCapabilities => if t.value.length < 4 then some 4 else none
  | .managementAddress => ManagementAddress.shortfall? t.value
  | .organizationSpecific => if t.value.length < 4 then some 4 else none
  | _ => none

/-- The TLV is taken up. -/
def Tlv.Accepted (t : Tlv) : Prop :=
  t.shortfall? = none

instance (t : Tlv) : Decidable t.Accepted :=
  inferInstanceAs (Decidable (t.shortfall? = none))

/-- The error that a TLV costs, if it is rejected. -/
def Tlv.rejection? (t : Tlv) : Option FieldError :=
  t.shortfall?.map fun wanted => .tlv t.kind t.value.length wanted

theorem Tlv.rejection?_eq_none_iff (t : Tlv) : t.rejection? = none ↔ t.Accepted :=
  Option.map_eq_none_iff

/-- The type of a TLV, if it is among the given ones. -/
def Tlv.typeAmong? (types : List TlvType) (t : Tlv) : Option TlvType :=
  types.find? fun kind => t.kind = kind

theorem Tlv.kind_eq_of_typeAmong? {types : List TlvType} {t : Tlv} {kind : TlvType}
    (found : t.typeAmong? types = some kind) : t.kind = kind := by
  have isKind := List.find?_some found
  exact of_decide_eq_true isKind

theorem Tlv.typeAmong?_eq_none_iff (types : List TlvType) (t : Tlv) :
    t.typeAmong? types = none ↔ t.kind ∉ types := by
  rw [typeAmong?, List.find?_eq_none]
  constructor
  · intro others member
    exact others t.kind member (decide_eq_true rfl)
  · intro other kind member isKind
    exact other (of_decide_eq_true isKind ▸ member)

theorem Tlv.typeAmong?_eq_some_iff (types : List TlvType) (t : Tlv) (kind : TlvType) :
    t.typeAmong? types = some kind ↔ kind ∈ types ∧ t.kind = kind := by
  constructor
  · intro found
    exact ⟨List.mem_of_find?_eq_some found, kind_eq_of_typeAmong? found⟩
  · rintro ⟨member, rfl⟩
    have occurs : t.typeAmong? types ≠ none := by
      rw [ne_eq, typeAmong?_eq_none_iff, not_not]
      exact member
    obtain ⟨kind, found⟩ := Option.ne_none_iff_exists'.mp occurs
    rw [found, kind_eq_of_typeAmong? found]

namespace Info

/-- The types that have a layout. -/
def layoutTypes : List TlvType :=
  [.portDescription, .systemName, .systemDescription, .systemCapabilities, .managementAddress,
    .organizationSpecific]

/-- The type of a TLV, if it has a layout. -/
def layoutType? (t : Tlv) : Option TlvType :=
  t.typeAmong? layoutTypes

/-- What a TLV says, if its value is long enough. -/
def itemOf (t : Tlv) : Item :=
  match t.kind with
  | .portDescription => .portDescription (Text.lossy t.value)
  | .systemName => .systemName (Text.lossy t.value)
  | .systemDescription => .systemDescription (Text.lossy t.value)
  | .systemCapabilities => .capabilities ⟨.ofWord (t.value.u16 0), .ofWord (t.value.u16 2)⟩
  | .managementAddress => .managementAddress (.ofValue t.value)
  | .organizationSpecific =>
      .organizationTlv ⟨⟨t.value.u24 0⟩, t.value.octet 3, t.value.drop 4⟩
  | _ => .unknown t

theorem mem_layoutTypes (kind : TlvType) :
    kind ∈ layoutTypes ↔ kind = .portDescription ∨ kind = .systemName ∨
      kind = .systemDescription ∨ kind = .systemCapabilities ∨ kind = .managementAddress ∨
        kind = .organizationSpecific := by
  simp [layoutTypes]

theorem layoutType?_eq_some_iff (t : Tlv) (kind : TlvType) :
    layoutType? t = some kind ↔ kind ∈ layoutTypes ∧ t.kind = kind :=
  t.typeAmong?_eq_some_iff layoutTypes kind

theorem layoutType?_eq_none_iff (t : Tlv) : layoutType? t = none ↔ t.kind ∉ layoutTypes :=
  t.typeAmong?_eq_none_iff layoutTypes

theorem layout?_of_notMem {kind : TlvType} (other : kind ∉ layoutTypes) : layout? kind = none := by
  unfold layout?
  split <;> first | rfl | exact absurd (by decide) other

theorem shortfall?_of_notMem {t : Tlv} (other : t.kind ∉ layoutTypes) : t.shortfall? = none := by
  rcases t with ⟨kind, length, value⟩
  change kind ∉ layoutTypes at other
  simp only [Tlv.shortfall?]
  split
  case h_4 => rfl
  all_goals exact absurd (by decide) other

theorem itemOf_of_notMem {t : Tlv} (other : t.kind ∉ layoutTypes) : itemOf t = .unknown t := by
  rcases t with ⟨kind, length, value⟩
  change kind ∉ layoutTypes at other
  simp only [itemOf]
  split
  case h_7 => rfl
  all_goals exact absurd (by decide) other

theorem kind?_itemOf (t : Tlv) : (itemOf t).kind? = layoutType? t := by
  by_cases known : t.kind ∈ layoutTypes
  · rw [(layoutType?_eq_some_iff t t.kind).mpr ⟨known, rfl⟩]
    rcases t with ⟨kind, length, value⟩
    rcases (mem_layoutTypes kind).mp known with rfl | rfl | rfl | rfl | rfl | rfl <;> rfl
  · rw [(layoutType?_eq_none_iff t).mpr known, itemOf_of_notMem known]
    rfl

/-- A TLV that falls short of a length is rejected with one error, and any other one is accepted
without an error. -/
theorem read_eq (t : Tlv) : read t = match t.shortfall? with
    | some wanted => .error (.tlv t.kind t.value.length wanted)
    | none => .ok (itemOf t) := by
  by_cases known : t.kind ∈ layoutTypes
  · rcases t with ⟨kind, length, value⟩
    rcases (mem_layoutTypes kind).mp known with rfl | rfl | rfl | rfl | rfl | rfl
    · rfl
    · rfl
    · rfl
    · change ((SystemCapabilities.layout.map _).decode value).mapError _ =
        match if value.length < 4 then some 4 else none with | some wanted => _ | none => _
      rw [Layout.decode_map, SystemCapabilities.layout, Layout.decode_atLeast]
      split <;> rfl
    · change ((ManagementAddress.layout.map _).decode value).mapError _ =
        match ManagementAddress.shortfall? value with | some wanted => _ | none => _
      rw [Layout.decode_map, Layout.decode, ManagementAddress.unmet?_layout]
      cases ManagementAddress.shortfall? value <;> rfl
    · change ((OrganizationTlv.layout.map _).decode value).mapError _ =
        match if value.length < 4 then some 4 else none with | some wanted => _ | none => _
      rw [Layout.decode_map, OrganizationTlv.layout, Layout.decode_atLeast]
      change (Except.map _ (if value.length < 4 then _ else _)).mapError _ = _
      split <;> rfl
  · rw [read, layout?_of_notMem known, shortfall?_of_notMem known, itemOf_of_notMem known]

theorem item?_read (t : Tlv) :
    Decoded.item? (read t) = if t.Accepted then some (itemOf t) else none := by
  rw [read_eq]
  by_cases accepted : t.Accepted
  · rw [if_pos accepted, show t.shortfall? = none from accepted]
    rfl
  · rw [if_neg accepted]
    cases short : t.shortfall? with
    | none => exact absurd short accepted
    | some wanted => rfl

theorem error?_read (t : Tlv) : Decoded.error? (read t) = t.rejection? := by
  rw [read_eq, Tlv.rejection?]
  cases t.shortfall? <;> rfl

/-! ## Lists of TLVs -/

/-- What TLVs say is what the accepted ones say. -/
theorem items_eq (tlvs : List Tlv) : items tlvs = (tlvs.filter fun t => t.Accepted).map itemOf := by
  rw [items, List.filterMap_map]
  induction tlvs with
  | nil => rfl
  | cons t tlvs ih =>
      rw [Decoded.filterMap_cons_eq, ih, List.filter_cons]
      simp only [Function.comp_apply, item?_read, decide_eq_true_eq]
      split <;> rfl

/-- The errors are those of the rejected TLVs. -/
theorem errors_ofTlvs (tlvs : List Tlv) : (ofTlvs tlvs).errors = tlvs.filterMap Tlv.rejection? := by
  change (tlvs.map read).filterMap Decoded.error? = _
  rw [List.filterMap_map]
  exact List.filterMap_congr fun t _ => error?_read t

theorem errors_singleton (t : Tlv) : (ofTlvs [t]).errors = t.rejection?.toList := by
  rw [errors_ofTlvs, Decoded.filterMap_cons_eq, List.filterMap_nil, List.append_nil]

end Info

end Lldpdu
