import Lldpdu.Proofs.Extension.Rejection
import Lldpdu.Proofs.Info.Fields

/-!
# Every TLV is accounted for

No TLV is lost and none counts twice.  It is taken into a field, it is an entry of one of the two
lists, or it is rejected, and then it costs exactly one error.  So the errors are those of the
rejected TLVs, one each and in order, and the numbers add up.

The extensions keep to the same rule for the TLVs of their organizations.  What they have no layout
for, and a protocol identity of no octets, costs nothing and may as well be left out.
-/

namespace Lldpdu

namespace Info

/-! ## TLVs by type -/

/-- An item has one type and no other. -/
theorem length_eq_countP_kind? (items : List Item) :
    items.length = items.countP (fun i => i.kind? = some .portDescription) +
      items.countP (fun i => i.kind? = some .systemName) +
      items.countP (fun i => i.kind? = some .systemDescription) +
      items.countP (fun i => i.kind? = some .systemCapabilities) +
      items.countP (fun i => i.kind? = some .managementAddress) +
      items.countP (fun i => i.kind? = some .organizationSpecific) +
      items.countP (fun i => i.kind? = none) := by
  induction items with
  | nil => rfl
  | cons i items ih =>
      simp only [List.countP_cons, List.length_cons, ih]
      cases i <;> simp +decide [Item.kind?] <;> omega

theorem countP_items (type : Option TlvType) (tlvs : List Tlv) :
    (items tlvs).countP (fun i => i.kind? = type) =
      tlvs.countP fun t => layoutType? t = type ∧ t.Accepted := by
  rw [items_eq, List.countP_map, List.countP_filter]
  apply List.countP_congr
  intro t _
  simp [kind?_itemOf]

theorem countP_layoutType? {kind : TlvType} {p : Tlv → Prop} [DecidablePred p]
    (known : kind ∈ layoutTypes) (accepted : ∀ t : Tlv, t.kind = kind → (t.Accepted ↔ p t))
    (tlvs : List Tlv) :
    (tlvs.countP fun t => layoutType? t = some kind ∧ t.Accepted) =
      tlvs.countP fun t => t.kind = kind ∧ p t := by
  apply List.countP_congr
  intro t _
  rw [decide_eq_true_eq, decide_eq_true_eq, layoutType?_eq_some_iff, and_iff_right known]
  exact and_congr_right (accepted t)

theorem countP_text {kind : TlvType}
    (description : kind ∈ [TlvType.portDescription, .systemName, .systemDescription])
    (tlvs : List Tlv) :
    (tlvs.countP fun t => layoutType? t = some kind ∧ t.Accepted) =
      tlvs.countP fun t => t.kind = kind := by
  have known : kind ∈ layoutTypes := List.mem_append_left _ description
  rw [countP_layoutType? (p := fun _ => True) known]
  · simp only [and_true]
  · rintro t rfl
    exact iff_true_intro (accepted_of_description description)

/-! ## Accepted and rejected -/

theorem isSome_rejection? (t : Tlv) : t.rejection?.isSome = ! decide t.Accepted := by
  by_cases accepted : t.Accepted
  · rw [decide_eq_true accepted, t.rejection?_eq_none_iff.mpr accepted]
    rfl
  · rw [decide_eq_false accepted]
    exact Option.isSome_iff_ne_none.mpr (t.rejection?_eq_none_iff.not.mpr accepted)

/-- There are as many errors as rejected TLVs. -/
theorem length_errors (tlvs : List Tlv) :
    (ofTlvs tlvs).errors.length = tlvs.countP fun t => ¬ t.Accepted := by
  rw [errors_ofTlvs, List.length_filterMap_eq_countP]
  simp only [isSome_rejection?, decide_not]

theorem length_items (tlvs : List Tlv) :
    (items tlvs).length = tlvs.countP fun t => t.Accepted := by
  rw [items_eq, List.length_map, List.countP_eq_length_filter]

/-- The accepted TLVs alone give the whole record, and no error. -/
theorem ofTlvs_filter_accepted (tlvs : List Tlv) :
    ofTlvs (tlvs.filter fun t => t.Accepted) = ⟨(ofTlvs tlvs).value, []⟩ := by
  have value : (ofTlvs (tlvs.filter fun t => t.Accepted)).value = (ofTlvs tlvs).value := by
    rw [value_ofTlvs, value_ofTlvs, items_eq, items_eq, List.filter_filter]
    simp only [Bool.and_self]
  have errors : (ofTlvs (tlvs.filter fun t => t.Accepted)).errors = [] := by
    rw [← List.length_eq_zero_iff, length_errors, List.countP_eq_zero]
    intro t member
    simpa using (List.mem_filter.mp member).2
  rw [← value, ← errors]

/-- The rejected TLVs alone give all of the errors, and nothing else. -/
theorem ofTlvs_filter_rejected (tlvs : List Tlv) :
    ofTlvs (tlvs.filter fun t => ¬ t.Accepted) = ⟨{}, (ofTlvs tlvs).errors⟩ := by
  have value : (ofTlvs (tlvs.filter fun t => ¬ t.Accepted)).value = {} := by
    rw [value_ofTlvs, items_eq, List.filter_filter]
    simp only [decide_not, Bool.and_not_self, List.filter_false]
    rfl
  have errors : (ofTlvs (tlvs.filter fun t => ¬ t.Accepted)).errors = (ofTlvs tlvs).errors := by
    rw [errors_ofTlvs, errors_ofTlvs, List.filterMap_filter]
    apply List.filterMap_congr
    intro t _
    by_cases accepted : t.Accepted
    · simp [accepted, t.rejection?_eq_none_iff.mpr accepted]
    · simp [accepted]
  rw [← value, ← errors]

/-- The numbers of the TLVs that go each way add up. -/
theorem length_eq_ways (tlvs : List Tlv) :
    tlvs.length = tlvs.countP (fun t => t.kind = .portDescription) +
      tlvs.countP (fun t => t.kind = .systemName) +
      tlvs.countP (fun t => t.kind = .systemDescription) +
      tlvs.countP (fun t => t.kind = .systemCapabilities ∧ 4 ≤ t.value.length) +
      tlvs.countP (fun t => t.kind = .managementAddress ∧ ManagementAddress.Complete t.value) +
      (ofTlvs tlvs).value.organizationTlvs.length + (ofTlvs tlvs).value.unknown.length +
      (ofTlvs tlvs).errors.length := by
  have holds := holds_ofTlvs tlvs
  have unknown : (tlvs.countP fun t => layoutType? t = none ∧ t.Accepted) =
      tlvs.countP fun t => t.kind ∉ layoutTypes := by
    apply List.countP_congr
    intro t _
    rw [decide_eq_true_eq, decide_eq_true_eq, layoutType?_eq_none_iff]
    exact and_iff_left_of_imp accepted_of_notMem
  have ways := length_eq_countP_kind? (items tlvs)
  simp only [countP_items, length_items] at ways
  rw [countP_text (by decide), countP_text (by decide), countP_text (by decide),
    countP_layoutType? (by decide) (fun t is => accepted_iff_of_four (.inl is)),
    countP_layoutType? (by decide) (fun t is => accepted_iff_of_managementAddress is),
    countP_layoutType? (by decide) (fun t is => accepted_iff_of_four (.inr is)), unknown] at ways
  rw [holds.organizationTlvs, holds.unknown, List.length_map, ← List.countP_eq_length_filter,
    ← List.countP_eq_length_filter, length_errors, ← ways]
  simpa using List.length_eq_countP_add_countP fun t : Tlv => decide t.Accepted

/-- Every TLV is accounted for exactly once.  The errors of a list of TLVs are those of the rejected
ones, one each and in order.  Without the rejected ones there is the same record and no error, and
with nothing but them there is no record and every error.  The numbers add up.  In the same way the
errors of an extension are those of its own TLVs with too short a payload, one each and in order,
and a TLV that an extension disregards makes no difference at all. -/
theorem errors_account_for_rejections :
    (∀ tlvs : List Tlv,
      (ofTlvs tlvs).errors = tlvs.filterMap Tlv.rejection? ∧
        ofTlvs (tlvs.filter fun t => t.Accepted) = ⟨(ofTlvs tlvs).value, []⟩ ∧
        ofTlvs (tlvs.filter fun t => ¬ t.Accepted) = ⟨{}, (ofTlvs tlvs).errors⟩ ∧
        (ofTlvs tlvs).errors.length = tlvs.countP (fun t => ¬ t.Accepted) ∧
        tlvs.length = tlvs.countP (fun t => t.kind = .portDescription) +
          tlvs.countP (fun t => t.kind = .systemName) +
          tlvs.countP (fun t => t.kind = .systemDescription) +
          tlvs.countP (fun t => t.kind = .systemCapabilities ∧ 4 ≤ t.value.length) +
          tlvs.countP (fun t => t.kind = .managementAddress ∧
            ManagementAddress.Complete t.value) +
          (ofTlvs tlvs).value.organizationTlvs.length + (ofTlvs tlvs).value.unknown.length +
          (ofTlvs tlvs).errors.length) ∧
      ∀ (known : KnownExtension) (info : Info),
        (info.extension known).errors =
            info.organizationTlvs.filterMap
              (OrganizationTlv.rejection? known.oui known.least?) ∧
          ∀ before t behind, info.organizationTlvs = before ++ t :: behind →
            known.Disregards t →
            info.extension known =
              { info with organizationTlvs := before ++ behind }.extension known := by
  constructor
  · intro tlvs
    exact ⟨errors_ofTlvs tlvs, ofTlvs_filter_accepted tlvs, ofTlvs_filter_rejected tlvs,
      length_errors tlvs, length_eq_ways tlvs⟩
  · intro known info
    refine ⟨known.errors_extension info, ?_⟩
    intro before t behind split disregarded
    rw [← KnownExtension.extension_of_disregards disregarded, ← split]

/-- A protocol identity of no octets between two payloads that are too short. -/
theorem errors_account_for_short_payloads :
    let short : OrganizationTlv := ⟨.ieee8021, 4, [2, 1]⟩
    let empty : OrganizationTlv := ⟨.ieee8021, 4, [0, 9]⟩
    let last : OrganizationTlv := ⟨.ieee8021, 1, [0]⟩
    let info : Info := { organizationTlvs := [short] ++ empty :: [last] }
    KnownExtension.bridging.Disregards empty ∧
      (info.extension .bridging).errors =
        [.organizationTlv .ieee8021 4 2 3, .organizationTlv .ieee8021 1 1 2] ∧
      info.extension .bridging =
        { info with organizationTlvs := [short] ++ [last] }.extension .bridging := by
  intro short empty last info
  have disregarded : KnownExtension.bridging.Disregards empty := .inr ⟨rfl, rfl, rfl⟩
  obtain ⟨errors, leftOut⟩ := errors_account_for_rejections.2 .bridging info
  exact ⟨disregarded, errors.trans (by decide), leftOut [short] empty [last] rfl disregarded⟩

end Info

end Lldpdu
