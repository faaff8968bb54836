import Lldpdu.Proofs.FlagSet
import Lldpdu.Proofs.Frame.Acceptance
import Lldpdu.Proofs.Info.Rejection
import Lldpdu.Proofs.Octets

/-!
# What a record holds of the TLVs it is decoded from

A description, the capabilities and the management address are those of the last TLV of their
type that was accepted, each taken whole from one TLV.  The two lists hold every accepted TLV of
their types, in order.  A rejected TLV leaves no trace in the record, and of the length that a TLV
declares nothing is seen but the copies among the unknown TLVs.
-/

namespace Lldpdu

theorem Capability.bit_lt_width (capability : Capability) :
    Flag.bit capability < Flag.width Capability := by
  cases capability <;> decide

/-- What a TLV holds beside the length that it declares. -/
def Tlv.content (t : Tlv) : TlvType × Octets :=
  (t.kind, t.value)

namespace Info

open Lldpdu.Frame (lastValue?)

/-- What a record holds of the TLVs that it is decoded from. -/
structure Holds (info : Info) (tlvs : List Tlv) : Prop where
  portDescription :
    info.portDescription = ((lastValue? .portDescription tlvs).map Text.lossy).getD ""
  systemName : info.systemName = ((lastValue? .systemName tlvs).map Text.lossy).getD ""
  systemDescription :
    info.systemDescription = ((lastValue? .systemDescription tlvs).map Text.lossy).getD ""
  /-- The first two octets of the last value of at least four raise what is supported. -/
  supported : ∀ capability, info.capabilities.supported.has capability =
    (lastValue? .systemCapabilities (tlvs.filter fun t => 4 ≤ t.value.length)).any fun value =>
      (Octets.number (value.take 2)).testBit (Flag.bit capability)
  /-- The next two octets raise what is enabled. -/
  enabled : ∀ capability, info.capabilities.enabled.has capability =
    (lastValue? .systemCapabilities (tlvs.filter fun t => 4 ≤ t.value.length)).any fun value =>
      (Octets.number ((value.drop 2).take 2)).testBit (Flag.bit capability)
  managementAddress : info.managementAddress =
    ((lastValue? .managementAddress
      (tlvs.filter fun t => ManagementAddress.Complete t.value)).map .ofValue).getD {}
  organizationTlvs : info.organizationTlvs =
    (tlvs.filter fun t => t.kind = .organizationSpecific ∧ 4 ≤ t.value.length).map fun t =>
      ⟨⟨t.value.u24 0⟩, t.value.octet 3, t.value.drop 4⟩
  unknown : info.unknown = tlvs.filter fun t => t.kind ∉ layoutTypes

/-! ## What is picked from the items of TLVs -/

/-- What is picked at one type only is picked from the accepted TLVs of that type. -/
theorem filterMap_items {α : Type} {pick : Item → Option α} {type : Option TlvType} {f : Tlv → α}
    (only : ∀ i a, pick i = some a → i.kind? = type)
    (own : ∀ t, layoutType? t = type → pick (itemOf t) = some (f t)) (tlvs : List Tlv) :
    (items tlvs).filterMap pick =
      (tlvs.filter fun t => layoutType? t = type ∧ t.Accepted).map f := by
  have picked (t : Tlv) :
      pick (itemOf t) = if layoutType? t = type then some (f t) else none := by
    by_cases is : layoutType? t = type
    · rw [if_pos is, own t is]
    · rw [if_neg is]
      cases said : pick (itemOf t) with
      | none => rfl
      | some a => exact absurd (kind?_itemOf t ▸ only _ a said) is
  rw [items_eq, List.filterMap_map, ← List.filterMap_eq_map, List.filterMap_filter,
    List.filterMap_filter]
  apply List.filterMap_congr
  intro t _
  by_cases is : layoutType? t = type <;> by_cases accepted : t.Accepted <;>
    simp [picked, is, accepted]

/-- A field that the last item of one type fills holds what the last accepted TLV of that type
says. -/
theorem getLast?_filterMap_items {α : Type} {pick : Item → Option α} {kind : TlvType}
    {f : Octets → α} (known : kind ∈ layoutTypes)
    (only : ∀ i a, pick i = some a → i.kind? = some kind)
    (own : ∀ t, t.kind = kind → pick (itemOf t) = some (f t.value)) (tlvs : List Tlv) :
    ((items tlvs).filterMap pick).getLast? =
      (lastValue? kind (tlvs.filter fun t => t.Accepted)).map f := by
  have isKind (t : Tlv) : layoutType? t = some kind ↔ t.kind = kind := by
    rw [layoutType?_eq_some_iff, and_iff_right known]
  have accepted := filterMap_items only (fun t is => own t ((isKind t).mp is)) tlvs
  simp only [isKind, Bool.decide_and] at accepted
  rw [accepted, List.getLast?_map, lastValue?, List.filter_filter, Option.map_map]
  rfl

theorem lastValue?_filter_congr {p q : Tlv → Prop} [DecidablePred p] [DecidablePred q]
    {kind : TlvType} (same : ∀ t, t.kind = kind → (p t ↔ q t)) (tlvs : List Tlv) :
    lastValue? kind (tlvs.filter fun t => p t) = lastValue? kind (tlvs.filter fun t => q t) := by
  rw [lastValue?, lastValue?, List.filter_filter, List.filter_filter]
  congr 2
  apply List.filter_congr
  intro t _
  by_cases is : t.kind = kind
  · simp [is, same t is]
  · simp [is]

theorem accepted_of_description {t : Tlv}
    (description : t.kind ∈ [TlvType.portDescription, .systemName, .systemDescription]) :
    t.Accepted := by
  rcases t with ⟨kind, length, value⟩
  simp only [List.mem_cons, List.not_mem_nil, or_false] at description
  rcases description with rfl | rfl | rfl <;> rfl

theorem accepted_iff_of_four {t : Tlv}
    (four : t.kind = .systemCapabilities ∨ t.kind = .organizationSpecific) :
    t.Accepted ↔ 4 ≤ t.value.length := by
  rcases t with ⟨kind, length, value⟩
  rcases four with rfl | rfl
  · change (if value.length < 4 then some 4 else none) = none ↔ 4 ≤ value.length
    simp
  · change (if value.length < 4 then some 4 else none) = none ↔ 4 ≤ value.length
    simp

theorem accepted_iff_of_managementAddress {t : Tlv} (is : t.kind = .managementAddress) :
    t.Accepted ↔ ManagementAddress.Complete t.value := by
  rcases t with ⟨kind, length, value⟩
  subst is
  exact ManagementAddress.shortfall?_eq_none_iff value

theorem accepted_of_notMem {t : Tlv} (other : t.kind ∉ layoutTypes) : t.Accepted :=
  shortfall?_of_notMem other

/-! ## The fields -/

/-- A text is that of the last TLV of its type: no such TLV is ever rejected. -/
theorem text_ofItems {pick : Item → Option String} {kind : TlvType}
    (description : kind ∈ [TlvType.portDescription, .systemName, .systemDescription])
    (only : ∀ i a, pick i = some a → i.kind? = some kind)
    (own : ∀ t, t.kind = kind → pick (itemOf t) = some (Text.lossy t.value)) (tlvs : List Tlv) :
    ((items tlvs).filterMap pick).getLast?.getD "" =
      ((lastValue? kind tlvs).map Text.lossy).getD "" := by
  have all : lastValue? kind (tlvs.filter fun t => t.Accepted) =
      lastValue? kind (tlvs.filter fun _ => True) := by
    apply lastValue?_filter_congr
    rintro t rfl
    exact iff_true_intro (accepted_of_description description)
  have known : kind ∈ layoutTypes := List.mem_append_left _ description
  rw [getLast?_filterMap_items known only own, all]
  simp

theorem capabilities_ofItems (tlvs : List Tlv) :
    (ofItems (items tlvs)).capabilities =
      ((lastValue? .systemCapabilities (tlvs.filter fun t => 4 ≤ t.value.length)).map fun value =>
        ⟨.ofWord (value.u16 0), .ofWord (value.u16 2)⟩).getD {} := by
  have long : lastValue? .systemCapabilities (tlvs.filter fun t => t.Accepted) =
      lastValue? .systemCapabilities (tlvs.filter fun t => 4 ≤ t.value.length) :=
    lastValue?_filter_congr (fun t is => accepted_iff_of_four (.inl is)) tlvs
  rw [← long, ofItems,
    getLast?_filterMap_items (by decide) (fun _ _ => Item.kind?_of_capabilities?)]
  rintro ⟨kind, length, value⟩ rfl
  rfl

theorem managementAddress_ofItems (tlvs : List Tlv) :
    (ofItems (items tlvs)).managementAddress =
      ((lastValue? .managementAddress
        (tlvs.filter fun t => ManagementAddress.Complete t.value)).map .ofValue).getD {} := by
  have complete : lastValue? .managementAddress (tlvs.filter fun t => t.Accepted) =
      lastValue? .managementAddress (tlvs.filter fun t => ManagementAddress.Complete t.value) :=
    lastValue?_filter_congr (fun t is => accepted_iff_of_managementAddress is) tlvs
  rw [← complete, ofItems,
    getLast?_filterMap_items (by decide) (fun _ _ => Item.kind?_of_managementAddress?)]
  rintro ⟨kind, length, value⟩ rfl
  rfl

theorem organizationTlvs_ofItems (tlvs : List Tlv) :
    (ofItems (items tlvs)).organizationTlvs =
      (tlvs.filter fun t => t.kind = .organizationSpecific ∧ 4 ≤ t.value.length).map fun t =>
        ⟨⟨t.value.u24 0⟩, t.value.octet 3, t.value.drop 4⟩ := by
  have accepted (t : Tlv) : layoutType? t = some .organizationSpecific ∧ t.Accepted ↔
      t.kind = .organizationSpecific ∧ 4 ≤ t.value.length := by
    have known : TlvType.organizationSpecific ∈ layoutTypes := by decide
    rw [layoutType?_eq_some_iff, and_iff_right known]
    exact and_congr_right fun is => accepted_iff_of_four (.inr is)
  change (items tlvs).filterMap Item.organizationTlv? = _
  simp only [← accepted]
  apply filterMap_items fun _ _ => Item.kind?_of_organizationTlv?
  rintro ⟨kind, length, value⟩ is
  obtain rfl := ((layoutType?_eq_some_iff _ _).mp is).2
  rfl

theorem unknown_ofItems (tlvs : List Tlv) :
    (ofItems (items tlvs)).unknown = tlvs.filter fun t => t.kind ∉ layoutTypes := by
  have accepted (t : Tlv) : layoutType? t = none ∧ t.Accepted ↔ t.kind ∉ layoutTypes := by
    rw [layoutType?_eq_none_iff]
    exact and_iff_left_of_imp accepted_of_notMem
  have verbatim := filterMap_items (f := id) (fun _ _ => Item.kind?_of_unknown?)
    (fun t is => by rw [itemOf_of_notMem ((layoutType?_eq_none_iff t).mp is)]; rfl) tlvs
  simp only [accepted, List.map_id] at verbatim
  exact verbatim

theorem holds_ofTlvs (tlvs : List Tlv) : (ofTlvs tlvs).value.Holds tlvs := by
  rw [value_ofTlvs]
  constructor
  case portDescription =>
    apply text_ofItems (by decide) fun _ _ => Item.kind?_of_portDescription?
    rintro ⟨kind, length, value⟩ rfl
    rfl
  case systemName =>
    apply text_ofItems (by decide) fun _ _ => Item.kind?_of_systemName?
    rintro ⟨kind, length, value⟩ rfl
    rfl
  case systemDescription =>
    apply text_ofItems (by decide) fun _ _ => Item.kind?_of_systemDescription?
    rintro ⟨kind, length, value⟩ rfl
    rfl
  case supported =>
    intro capability
    rw [capabilities_ofItems]
    cases lastValue? .systemCapabilities (tlvs.filter fun t => 4 ≤ t.value.length) with
    | none => exact FlagSet.has_default capability
    | some value =>
        change (FlagSet.ofWord (value.u16 0)).has capability = _
        rw [FlagSet.has_ofWord (Capability.bit_lt_width capability), Octets.toNat_u16]
        rfl
  case enabled =>
    intro capability
    rw [capabilities_ofItems]
    cases lastValue? .systemCapabilities (tlvs.filter fun t => 4 ≤ t.value.length) with
    | none => exact FlagSet.has_default capability
    | some value =>
        change (FlagSet.ofWord (value.u16 2)).has capability = _
        rw [FlagSet.has_ofWord (Capability.bit_lt_width capability), Octets.toNat_u16]
        rfl
  case managementAddress => exact managementAddress_ofItems tlvs
  case organizationTlvs => exact organizationTlvs_ofItems tlvs
  case unknown => exact unknown_ofItems tlvs

/-! ## What leaves no trace -/

/-- A rejected TLV neither sets a field nor disturbs what another one sets. -/
theorem value_ofTlvs_of_rejected {t : Tlv} (rejected : ¬ t.Accepted) (before behind : List Tlv) :
    (ofTlvs (before ++ t :: behind)).value = (ofTlvs (before ++ behind)).value := by
  rw [value_ofTlvs, value_ofTlvs, items_eq, items_eq, List.filter_append, List.filter_append,
    List.filter_cons_of_neg (by simpa using rejected)]

/-- What a function finds in TLVs is the same in TLVs that declare other lengths, if it does not
look at them. -/
theorem filterMap_eq_of_content {α : Type} {f : Tlv → Option α}
    (blind : ∀ t u : Tlv, t.content = u.content → f t = f u) {tlvs others : List Tlv}
    (same : others.map Tlv.content = tlvs.map Tlv.content) :
    others.filterMap f = tlvs.filterMap f := by
  have through (ts : List Tlv) :
      ts.filterMap f = (ts.map Tlv.content).filterMap fun (kind, value) => f ⟨kind, 0, value⟩ := by
    rw [List.filterMap_map]
    exact List.filterMap_congr fun t _ => blind _ _ rfl
  rw [through, through, same]

theorem errors_eq_of_content {tlvs others : List Tlv}
    (same : others.map Tlv.content = tlvs.map Tlv.content) :
    (ofTlvs others).errors = (ofTlvs tlvs).errors := by
  rw [errors_ofTlvs, errors_ofTlvs]
  apply filterMap_eq_of_content _ same
  rintro ⟨kind, first, value⟩ ⟨_, second, _⟩ ⟨⟩
  rfl

/-- The declared lengths are seen in the unknown TLVs only. -/
theorem value_eq_of_content {tlvs others : List Tlv}
    (same : others.map Tlv.content = tlvs.map Tlv.content) :
    { (ofTlvs others).value with unknown := (ofTlvs tlvs).value.unknown } =
      (ofTlvs tlvs).value := by
  have picked {α : Type} (pick : Item → Option α) (unseen : ∀ t, pick (.unknown t) = none) :
      (items others).filterMap pick = (items tlvs).filterMap pick := by
    rw [items, items, List.filterMap_filterMap, List.filterMap_filterMap, List.filterMap_map,
      List.filterMap_map]
    apply filterMap_eq_of_content _ same
    rintro ⟨kind, first, value⟩ ⟨_, second, _⟩ ⟨⟩
    simp only [Function.comp_apply, read]
    cases layout? kind with
    | none => exact (unseen _).trans (unseen _).symm
    | some layout => rfl
  rw [value_ofTlvs, value_ofTlvs]
  simp only [ofItems, picked Item.portDescription? fun _ => rfl,
    picked Item.systemName? fun _ => rfl, picked Item.systemDescription? fun _ => rfl,
    picked Item.capabilities? fun _ => rfl, picked Item.managementAddress? fun _ => rfl,
    picked Item.organizationTlv? fun _ => rfl]

theorem unknown_eq_of_content {tlvs others : List Tlv}
    (same : others.map Tlv.content = tlvs.map Tlv.content) :
    (ofTlvs others).value.unknown.map Tlv.content =
      (ofTlvs tlvs).value.unknown.map Tlv.content := by
  have through (ts : List Tlv) : (ofTlvs ts).value.unknown.map Tlv.content =
      (ts.map Tlv.content).filter fun content => content.1 ∉ layoutTypes := by
    rw [(holds_ofTlvs ts).unknown, List.filter_map]
    rfl
  rw [through, through, same]

/-- TLVs of types without a layout are kept as they are, and nothing else becomes of them. -/
theorem ofTlvs_of_notMem {tlvs : List Tlv} (others : ∀ t ∈ tlvs, t.kind ∉ layoutTypes) :
    ofTlvs tlvs = ⟨{ unknown := tlvs }, []⟩ := by
  have said : tlvs.map read = (tlvs.map Item.unknown).map .ok := by
    rw [List.map_map]
    apply List.map_congr_left
    intro t member
    rw [read, layout?_of_notMem (others t member)]
    rfl
  rw [ofTlvs, said, Decoded.gather_map_ok, foldl_add]
  simp [ofItems, List.filterMap_map, Function.comp_def, Item.portDescription?, Item.systemName?,
    Item.systemDescription?, Item.capabilities?, Item.managementAddress?, Item.organizationTlv?,
    Item.unknown?, List.filterMap_none]

/-- The record of any TLVs holds, field by field, what the last accepted TLV of a type says, or
what all of them say.  A rejected TLV may be left out without a change to the record.  The
lengths that the TLVs declare make no difference but to the copies among the unknown TLVs.  Those,
decoded again, are again unknown, without an error. -/
theorem ofTlvs_field_by_field (tlvs : List Tlv) :
    (ofTlvs tlvs).value.Holds tlvs ∧
      (∀ before t behind, tlvs = before ++ t :: behind → ¬ t.Accepted →
        (ofTlvs tlvs).value = (ofTlvs (before ++ behind)).value) ∧
      (∀ others : List Tlv, others.map Tlv.content = tlvs.map Tlv.content →
        (ofTlvs others).errors = (ofTlvs tlvs).errors ∧
          { (ofTlvs others).value with unknown := (ofTlvs tlvs).value.unknown } =
            (ofTlvs tlvs).value ∧
          (ofTlvs others).value.unknown.map Tlv.content =
            (ofTlvs tlvs).value.unknown.map Tlv.content) ∧
      ofTlvs (ofTlvs tlvs).value.unknown = ⟨{ unknown := (ofTlvs tlvs).value.unknown }, []⟩ := by
  refine ⟨holds_ofTlvs tlvs, ?_, ?_, ?_⟩
  · rintro before t behind rfl rejected
    exact value_ofTlvs_of_rejected rejected before behind
  · intro others same
    exact ⟨errors_eq_of_content same, value_eq_of_content same, unknown_eq_of_content same⟩
  · apply ofTlvs_of_notMem
    intro t member
    rw [(holds_ofTlvs tlvs).unknown, List.mem_filter] at member
    exact of_decide_eq_true member.2

/-- Capabilities that are cut short come after good ones, and a type of eight bits declares a length
that it does not have. -/
theorem ofTlvs_field_by_field_cut_short :
    let good : Tlv := .ofValue .systemCapabilities [0, 4, 0, 4]
    let cutShort : Tlv := .ofValue .systemCapabilities [0]
    let odd : Tlv := ⟨⟨200⟩, 9, [1]⟩
    let tlvs := [good] ++ cutShort :: [odd]
    let others := [good, cutShort, .ofValue ⟨200⟩ [1]]
    ¬ cutShort.Accepted ∧ others.map Tlv.content = tlvs.map Tlv.content ∧
      (ofTlvs tlvs).value = (ofTlvs [good, odd]).value ∧
      (ofTlvs others).errors = (ofTlvs tlvs).errors ∧
      ofTlvs (ofTlvs tlvs).value.unknown = ⟨{ unknown := (ofTlvs tlvs).value.unknown }, []⟩ := by
  intro good cutShort odd tlvs others
  have rejected : ¬ cutShort.Accepted := by decide
  have same : others.map Tlv.content = tlvs.map Tlv.content := by decide
  obtain ⟨-, leftOut, blind, again⟩ := ofTlvs_field_by_field tlvs
  exact ⟨rejected, same, leftOut [good] cutShort [odd] rfl rejected, (blind others same).1, again⟩

end Info

end Lldpdu
