import Lldpdu.Proofs.Extension.Rejection
import Lldpdu.Proofs.Info.Fields
import Lldpdu.Proofs.Info.Order

/-!
# One more TLV

A TLV that is put among others affects nothing but what TLVs of its type speak of.  A rejected one
adds its error in its place.  An accepted one adds no error; it is a further entry of its list, or
it fills its field, unless a later TLV overwrites that.
-/

namespace Lldpdu

/-- The value is shorter than the type demands: than four octets, or than a management address says
that it is. -/
def Tlv.CutShort (t : Tlv) : Prop :=
  (t.kind = .systemCapabilities ∨ t.kind = .organizationSpecific) ∧ t.value.length < 4 ∨
    t.kind = .managementAddress ∧ ¬ ManagementAddress.Complete t.value

instance (t : Tlv) : Decidable t.CutShort :=
  inferInstanceAs (Decidable ((_ ∨ _) ∧ _ ∨ _ ∧ ¬ _))

namespace Info

/-- The types that describe the system, each by a field of its own. -/
def describingTypes : List TlvType :=
  [.portDescription, .systemName, .systemDescription, .systemCapabilities, .managementAddress]

/-- The record without what the TLVs of a type speak of.  The types without a layout share the list
of unknown TLVs. -/
def without (type : Option TlvType) (info : Info) : Info :=
  match type with
  | none => { info with unknown := [] }
  | some .portDescription => { info with portDescription := "" }
  | some .systemName => { info with systemName := "" }
  | some .systemDescription => { info with systemDescription := "" }
  | some .systemCapabilities => { info with capabilities := {} }
  | some .managementAddress => { info with managementAddress := {} }
  | some .organizationSpecific => { info with organizationTlvs := [] }
  | some _ => info

/-- What the TLV `t` makes of a record, put between the TLVs `before` and `behind`: `old` is decoded
without it, and `new` with it. -/
structure Confined (before : List Tlv) (t : Tlv) (behind : List Tlv) (old new : Decoded Info) :
    Prop where
  /-- Whatever TLVs of other types speak of is the same. -/
  elsewhere : new.value.without (layoutType? t) = old.value.without (layoutType? t)
  /-- A TLV without a layout is unknown, and nothing else. -/
  unknown : t.kind ∉ layoutTypes →
    old.value.unknown = (ofTlvs before).value.unknown ++ (ofTlvs behind).value.unknown ∧
      new = ⟨{ old.value with
        unknown := (ofTlvs before).value.unknown ++ t :: (ofTlvs behind).value.unknown },
        old.errors⟩
  /-- A TLV of an organization is a further entry of the list, and nothing else. -/
  organization : t.kind = .organizationSpecific → 4 ≤ t.value.length →
    old.value.organizationTlvs =
        (ofTlvs before).value.organizationTlvs ++ (ofTlvs behind).value.organizationTlvs ∧
      new = ⟨{ old.value with
        organizationTlvs := (ofTlvs before).value.organizationTlvs ++
          ⟨⟨t.value.u24 0⟩, t.value.octet 3, t.value.drop 4⟩ ::
            (ofTlvs behind).value.organizationTlvs },
        old.errors⟩
  /-- The extensions of other organizations are the same. -/
  extension : ∀ known : KnownExtension,
    (t.kind = .organizationSpecific → 4 ≤ t.value.length → ⟨t.value.u24 0⟩ ≠ known.oui) →
      new.value.extension known = old.value.extension known
  /-- A TLV that is cut short adds one error, and nothing else. -/
  rejected : t.CutShort →
    ∃ wanted, t.shortfall? = some wanted ∧
      old.errors = (ofTlvs before).errors ++ (ofTlvs behind).errors ∧
      new = ⟨old.value, (ofTlvs before).errors ++
        .tlv t.kind t.value.length wanted :: (ofTlvs behind).errors⟩
  /-- Any other TLV of the system fills its field, unless it is overwritten. -/
  described : t.kind ∈ describingTypes → ¬ t.CutShort →
    new.errors = old.errors ∧
      ((∃ u ∈ behind, u.kind = t.kind ∧ ¬ u.CutShort) → new.value = old.value) ∧
      ((∀ u ∈ behind, u.kind = t.kind → u.CutShort) → new.value = old.value.add (itemOf t))

/-! ## One more item -/

/-- A record is made up again of all the rest and the list of unknown TLVs. -/
theorem eq_of_without_none {info info' : Info} (same : info.without none = info'.without none) :
    info = { info' with unknown := info.unknown } :=
  congrArg (fun rest : Info => { rest with unknown := info.unknown }) same

/-- A record is made up again of all the rest and the list of organizations' TLVs. -/
theorem eq_of_without_organizationSpecific {info info' : Info}
    (same : info.without (some .organizationSpecific) =
      info'.without (some .organizationSpecific)) :
    info = { info' with organizationTlvs := info.organizationTlvs } :=
  congrArg (fun rest : Info => { rest with organizationTlvs := info.organizationTlvs }) same

/-- An item says nothing about what items of other types speak of. -/
theorem without_ofItems_insert (front : List Item) (i : Item) (rear : List Item) :
    (ofItems (front ++ i :: rear)).without i.kind? = (ofItems (front ++ rear)).without i.kind? := by
  cases i <;> simp only [ofItems, List.filterMap_append, List.filterMap_cons,
    Item.portDescription?, Item.systemName?, Item.systemDescription?, Item.capabilities?,
    Item.managementAddress?, Item.organizationTlv?, Item.unknown?] <;> rfl

/-- An item that fills a field does so whatever the field holds. -/
theorem add_without {i : Item} (describes : i.kind? ∈ describingTypes.map some) (info : Info) :
    (info.without i.kind?).add i = info.add i := by
  cases i with
  | organizationTlv t =>
      exact absurd describes
        (show some TlvType.organizationSpecific ∉ describingTypes.map some by decide)
  | unknown t => exact absurd describes (show none ∉ describingTypes.map some by decide)
  | _ => rfl

/-- What a later item overwrites leaves no trace. -/
theorem ofItems_insert_of_later {i : Item} (describes : i.kind? ∈ describingTypes.map some)
    (front : List Item) {rear : List Item} (later : ∃ j ∈ rear, j.kind? = i.kind?) :
    ofItems (front ++ i :: rear) = ofItems (front ++ rear) := by
  induction rear using List.reverseRecOn with
  | nil =>
      rcases later with ⟨j, member, -⟩
      contradiction
  | append_singleton rear last ih =>
      rw [← List.cons_append, ← List.append_assoc, ← List.append_assoc, ofItems_concat,
        ofItems_concat]
      by_cases overwrites : last.kind? = i.kind?
      · have filled := add_without (i := last) (overwrites ▸ describes)
        rw [← filled (ofItems (front ++ i :: rear)), ← filled (ofItems (front ++ rear)), overwrites,
          without_ofItems_insert]
      · have earlier : ∃ j ∈ rear, j.kind? = i.kind? := by
          rcases later with ⟨j, member, same⟩
          rcases List.mem_append.mp member with member | member
          · exact ⟨j, member, same⟩
          · exact absurd (List.mem_singleton.mp member ▸ same) overwrites
        rw [ih earlier]

/-- What no later item overwrites might as well be said in the end. -/
theorem ofItems_insert_of_last {i : Item} (front : List Item) {rear : List Item}
    (last : ∀ j ∈ rear, j.kind? ≠ i.kind?) :
    ofItems (front ++ i :: rear) = add (ofItems (front ++ rear)) i := by
  rw [← ofItems_concat]
  exact ofItems_eq_of_sameByKey (SameByKey.move_to_end last front)

/-! ## TLVs around one more -/

/-- The TLVs that are cut short are those that are rejected. -/
theorem cutShort_iff (t : Tlv) : t.CutShort ↔ ¬ t.Accepted := by
  constructor
  · rintro (⟨four, short⟩ | ⟨address, incomplete⟩)
    · rw [accepted_iff_of_four four]
      exact Nat.not_le.mpr short
    · rwa [accepted_iff_of_managementAddress address]
  · intro rejected
    have known : t.kind ∈ layoutTypes := by
      by_contra other
      exact rejected (accepted_of_notMem other)
    rcases List.mem_append.mp
      (show t.kind ∈ [.portDescription, .systemName, .systemDescription] ++
        [.systemCapabilities, .managementAddress, .organizationSpecific] from known)
      with description | other
    · exact absurd (accepted_of_description description) rejected
    · simp only [List.mem_cons, List.not_mem_nil, or_false] at other
      rcases other with capabilities | address | organization
      · have four := accepted_iff_of_four (.inl capabilities)
        exact .inl ⟨.inl capabilities, Nat.lt_of_not_le (four.not.mp rejected)⟩
      · exact .inr ⟨address, (accepted_iff_of_managementAddress address).not.mp rejected⟩
      · have four := accepted_iff_of_four (.inr organization)
        exact .inl ⟨.inr organization, Nat.lt_of_not_le (four.not.mp rejected)⟩

variable (before : List Tlv) {t : Tlv} (behind : List Tlv)

theorem mem_items {i : Item} {tlvs : List Tlv} :
    i ∈ items tlvs ↔ ∃ u ∈ tlvs, u.Accepted ∧ itemOf u = i := by
  simp [items_eq, and_assoc]

theorem items_append : items (before ++ behind) = items before ++ items behind := by
  rw [items_eq, List.filter_append, List.map_append, ← items_eq, ← items_eq]

theorem errors_append :
    (ofTlvs (before ++ behind)).errors = (ofTlvs before).errors ++ (ofTlvs behind).errors := by
  rw [errors_ofTlvs, errors_ofTlvs, errors_ofTlvs, List.filterMap_append]

theorem unknown_append : (ofTlvs (before ++ behind)).value.unknown =
    (ofTlvs before).value.unknown ++ (ofTlvs behind).value.unknown := by
  rw [(holds_ofTlvs _).unknown, (holds_ofTlvs _).unknown, (holds_ofTlvs _).unknown,
    List.filter_append]

theorem organizationTlvs_append : (ofTlvs (before ++ behind)).value.organizationTlvs =
    (ofTlvs before).value.organizationTlvs ++ (ofTlvs behind).value.organizationTlvs := by
  rw [(holds_ofTlvs _).organizationTlvs, (holds_ofTlvs _).organizationTlvs,
    (holds_ofTlvs _).organizationTlvs, List.filter_append, List.map_append]

/-! ## One more TLV -/

theorem items_insert (accepted : t.Accepted) :
    items (before ++ t :: behind) = items before ++ itemOf t :: items behind := by
  rw [items_append, items_eq (t :: behind), List.filter_cons_of_pos (by simpa using accepted),
    List.map_cons, ← items_eq]

theorem errors_insert_of_accepted (accepted : t.Accepted) :
    (ofTlvs (before ++ t :: behind)).errors = (ofTlvs (before ++ behind)).errors := by
  rw [errors_append, errors_append, errors_ofTlvs (t :: behind),
    List.filterMap_cons_none (t.rejection?_eq_none_iff.mpr accepted), ← errors_ofTlvs]

theorem without_ofTlvs_insert (t : Tlv) :
    (ofTlvs (before ++ t :: behind)).value.without (layoutType? t) =
      (ofTlvs (before ++ behind)).value.without (layoutType? t) := by
  by_cases accepted : t.Accepted
  · rw [value_ofTlvs, value_ofTlvs, items_insert _ _ accepted, items_append, ← kind?_itemOf,
      without_ofItems_insert]
  · rw [value_ofTlvs_of_rejected accepted]

theorem unknown_insert (other : t.kind ∉ layoutTypes) :
    ofTlvs (before ++ t :: behind) = ⟨{ (ofTlvs (before ++ behind)).value with
      unknown := (ofTlvs before).value.unknown ++ t :: (ofTlvs behind).value.unknown },
      (ofTlvs (before ++ behind)).errors⟩ := by
  have beside := without_ofTlvs_insert before behind t
  rw [(layoutType?_eq_none_iff t).mpr other] at beside
  have unknown : (ofTlvs (before ++ t :: behind)).value.unknown =
      (ofTlvs before).value.unknown ++ t :: (ofTlvs behind).value.unknown := by
    rw [unknown_append, (holds_ofTlvs (t :: behind)).unknown,
      List.filter_cons_of_pos (by simpa using other), ← (holds_ofTlvs behind).unknown]
  rw [← unknown, ← eq_of_without_none beside,
    ← errors_insert_of_accepted _ _ (accepted_of_notMem other)]

theorem organizationTlvs_insert (is : t.kind = .organizationSpecific)
    (long : 4 ≤ t.value.length) :
    ofTlvs (before ++ t :: behind) = ⟨{ (ofTlvs (before ++ behind)).value with
      organizationTlvs := (ofTlvs before).value.organizationTlvs ++
        ⟨⟨t.value.u24 0⟩, t.value.octet 3, t.value.drop 4⟩ ::
          (ofTlvs behind).value.organizationTlvs },
      (ofTlvs (before ++ behind)).errors⟩ := by
  have known : layoutType? t = some .organizationSpecific :=
    (layoutType?_eq_some_iff t _).mpr ⟨by decide, is⟩
  have beside := without_ofTlvs_insert before behind t
  rw [known] at beside
  have listed : (ofTlvs (before ++ t :: behind)).value.organizationTlvs =
      (ofTlvs before).value.organizationTlvs ++
        ⟨⟨t.value.u24 0⟩, t.value.octet 3, t.value.drop 4⟩ ::
          (ofTlvs behind).value.organizationTlvs := by
    rw [organizationTlvs_append, (holds_ofTlvs (t :: behind)).organizationTlvs,
      List.filter_cons_of_pos (by simpa using ⟨is, long⟩), List.map_cons,
      ← (holds_ofTlvs behind).organizationTlvs]
  rw [← listed, ← eq_of_without_organizationSpecific beside,
    ← errors_insert_of_accepted _ _ ((accepted_iff_of_four (.inr is)).mpr long)]

/-- What an extension tells is a matter of the list of organizations' TLVs. -/
theorem extension_congr {info info' : Info}
    (same : info.organizationTlvs = info'.organizationTlvs) (known : KnownExtension) :
    info.extension known = info'.extension known := by
  have through (said : Info) : said.extension known =
      ({ organizationTlvs := said.organizationTlvs } : Info).extension known := by
    cases known <;> rfl
  rw [through info, through info', same]

theorem extension_insert {known : KnownExtension}
    (apart : t.kind = .organizationSpecific → 4 ≤ t.value.length →
      ⟨t.value.u24 0⟩ ≠ known.oui) :
    (ofTlvs (before ++ t :: behind)).value.extension known =
      (ofTlvs (before ++ behind)).value.extension known := by
  by_cases listed : t.kind = .organizationSpecific ∧ 4 ≤ t.value.length
  · rw [organizationTlvs_insert before behind listed.1 listed.2]
    have foreign : known.Disregards ⟨⟨t.value.u24 0⟩, t.value.octet 3, t.value.drop 4⟩ :=
      .inl (.inl (apart listed.1 listed.2))
    rw [KnownExtension.extension_of_disregards foreign, ← organizationTlvs_append]
  · apply extension_congr
    rw [organizationTlvs_append, organizationTlvs_append,
      (holds_ofTlvs (t :: behind)).organizationTlvs,
      List.filter_cons_of_neg (by simpa using listed), ← (holds_ofTlvs behind).organizationTlvs]

theorem rejected_insert (cutShort : t.CutShort) :
    ∃ wanted, t.shortfall? = some wanted ∧
      ofTlvs (before ++ t :: behind) = ⟨(ofTlvs (before ++ behind)).value,
        (ofTlvs before).errors ++
          .tlv t.kind t.value.length wanted :: (ofTlvs behind).errors⟩ := by
  have rejected := (cutShort_iff t).mp cutShort
  obtain ⟨wanted, short⟩ := Option.ne_none_iff_exists'.mp rejected
  have costs : t.rejection? = some (.tlv t.kind t.value.length wanted) := by
    rw [Tlv.rejection?, short, Option.map_some]
  refine ⟨wanted, short, ?_⟩
  rw [← value_ofTlvs_of_rejected rejected, errors_ofTlvs behind,
    ← List.filterMap_cons_some costs, ← errors_ofTlvs, ← errors_append]

theorem kind?_itemOf_of_describing (describes : t.kind ∈ describingTypes) :
    (itemOf t).kind? = some t.kind := by
  have known : t.kind ∈ layoutTypes :=
    List.mem_append_left [TlvType.organizationSpecific] describes
  rw [kind?_itemOf, (layoutType?_eq_some_iff t t.kind).mpr ⟨known, rfl⟩]

theorem value_insert_of_later (describes : t.kind ∈ describingTypes) (accepted : t.Accepted)
    (later : ∃ u ∈ behind, u.kind = t.kind ∧ u.Accepted) :
    (ofTlvs (before ++ t :: behind)).value = (ofTlvs (before ++ behind)).value := by
  rw [value_ofTlvs, value_ofTlvs, items_insert before behind accepted, items_append]
  apply ofItems_insert_of_later
  · rw [kind?_itemOf_of_describing describes]
    exact List.mem_map_of_mem describes
  · rcases later with ⟨u, member, same, isAccepted⟩
    refine ⟨itemOf u, mem_items.mpr ⟨u, member, isAccepted, rfl⟩, ?_⟩
    rw [kind?_itemOf_of_describing (same ▸ describes), kind?_itemOf_of_describing describes, same]

theorem value_insert_of_last (describes : t.kind ∈ describingTypes) (accepted : t.Accepted)
    (last : ∀ u ∈ behind, u.kind = t.kind → ¬ u.Accepted) :
    (ofTlvs (before ++ t :: behind)).value = (ofTlvs (before ++ behind)).value.add (itemOf t) := by
  rw [value_ofTlvs, value_ofTlvs, items_insert before behind accepted, items_append]
  apply ofItems_insert_of_last
  intro j member same
  rcases mem_items.mp member with ⟨u, occurs, isAccepted, rfl⟩
  rw [kind?_itemOf_of_describing describes, kind?_itemOf, layoutType?_eq_some_iff] at same
  exact last u occurs same.2 isAccepted

/-- One more TLV affects nothing but its own. -/
theorem confined (before : List Tlv) (t : Tlv) (behind : List Tlv) :
    Confined before t behind (ofTlvs (before ++ behind)) (ofTlvs (before ++ t :: behind)) where
  elsewhere := without_ofTlvs_insert before behind t
  unknown other := ⟨unknown_append before behind, unknown_insert before behind other⟩
  organization is long :=
    ⟨organizationTlvs_append before behind, organizationTlvs_insert before behind is long⟩
  extension _ apart := extension_insert before behind apart
  rejected cutShort := by
    obtain ⟨wanted, short, new⟩ := rejected_insert before behind cutShort
    exact ⟨wanted, short, errors_append before behind, new⟩
  described describes whole := by
    simp only [cutShort_iff, not_not] at whole ⊢
    exact ⟨errors_insert_of_accepted before behind whole,
      value_insert_of_later before behind describes whole,
      value_insert_of_last before behind describes whole⟩

end Info

end Lldpdu
