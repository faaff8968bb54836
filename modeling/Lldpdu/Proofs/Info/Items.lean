import Lldpdu.Info.Basic
import Lldpdu.Proofs.Decoded

/-!
# The optional part, field by field

Which fields of an `Info` an item changes depends on the item alone, so the record can be put
together field by field: the texts, the capabilities and the management address are those of the
last item of their kind, and the two lists hold the items of theirs in order.

The order of items of different kinds is lost on the record.  Items that describe a record, each
field once, give that record in every order that keeps the two lists.
-/

namespace Lldpdu.Info

/-! ## What an item says about a field -/

namespace Item

/-- The description of the port in an item. -/
def portDescription? : Item → Option String
  | .portDescription text => some text
  | _ => none

/-- The name of the system in an item. -/
def systemName? : Item → Option String
  | .systemName text => some text
  | _ => none

/-- The description of the system in an item. -/
def systemDescription? : Item → Option String
  | .systemDescription text => some text
  | _ => none

/-- The capabilities in an item. -/
def capabilities? : Item → Option SystemCapabilities
  | .capabilities said => some said
  | _ => none

/-- The management address in an item. -/
def managementAddress? : Item → Option ManagementAddress
  | .managementAddress said => some said
  | _ => none

/-- The TLV of an organization in an item. -/
def organizationTlv? : Item → Option OrganizationTlv
  | .organizationTlv t => some t
  | _ => none

/-- The TLV of unknown type in an item. -/
def unknown? : Item → Option Tlv
  | .unknown t => some t
  | _ => none

/-- The type of the TLVs that say such an item, if the type has a layout. -/
def kind? : Item → Option TlvType
  | .portDescription _ => some .portDescription
  | .systemName _ => some .systemName
  | .systemDescription _ => some .systemDescription
  | .capabilities _ => some .systemCapabilities
  | .managementAddress _ => some .managementAddress
  | .organizationTlv _ => some .organizationSpecific
  | .unknown _ => none

theorem kind?_of_portDescription? : ∀ {i : Item} {text : String},
    i.portDescription? = some text → i.kind? = some .portDescription
  | .portDescription _, _, _ => rfl

theorem kind?_of_systemName? : ∀ {i : Item} {text : String},
    i.systemName? = some text → i.kind? = some .systemName
  | .systemName _, _, _ => rfl

theorem kind?_of_systemDescription? : ∀ {i : Item} {text : String},
    i.systemDescription? = some text → i.kind? = some .systemDescription
  | .systemDescription _, _, _ => rfl

theorem kind?_of_capabilities? : ∀ {i : Item} {said : SystemCapabilities},
    i.capabilities? = some said → i.kind? = some .systemCapabilities
  | .capabilities _, _, _ => rfl

theorem kind?_of_managementAddress? : ∀ {i : Item} {said : ManagementAddress},
    i.managementAddress? = some said → i.kind? = some .managementAddress
  | .managementAddress _, _, _ => rfl

theorem kind?_of_organizationTlv? : ∀ {i : Item} {t : OrganizationTlv},
    i.organizationTlv? = some t → i.kind? = some .organizationSpecific
  | .organizationTlv _, _, _ => rfl

theorem kind?_of_unknown? : ∀ {i : Item} {t : Tlv}, i.unknown? = some t → i.kind? = none
  | .unknown _, _, _ => rfl

end Item

/-! ## Records from items -/

/-- The record that items make up, each field from the items that say something about it. -/
def ofItems (items : List Item) : Info where
  portDescription := (items.filterMap Item.portDescription?).getLast?.getD ""
  systemName := (items.filterMap Item.systemName?).getLast?.getD ""
  systemDescription := (items.filterMap Item.systemDescription?).getLast?.getD ""
  capabilities := (items.filterMap Item.capabilities?).getLast?.getD {}
  managementAddress := (items.filterMap Item.managementAddress?).getLast?.getD {}
  organizationTlvs := items.filterMap Item.organizationTlv?
  unknown := items.filterMap Item.unknown?

/-- A further item changes the fields that it says something about, and no others. -/
theorem ofItems_concat (items : List Item) (i : Item) :
    ofItems (items ++ [i]) = add (ofItems items) i := by
  simp only [ofItems, Decoded.getLast?_filterMap_concat]
  rw [Decoded.filterMap_concat, Decoded.filterMap_concat]
  cases i <;> simp [add, Item.portDescription?, Item.systemName?, Item.systemDescription?,
    Item.capabilities?, Item.managementAddress?, Item.organizationTlv?, Item.unknown?]

/-- Adding items one after the other comes to the same. -/
theorem foldl_add (items : List Item) : items.foldl add {} = ofItems items := by
  induction items using List.reverseRecOn with
  | nil => rfl
  | append_singleton items i ih =>
      rw [List.foldl_append, ih, ofItems_concat]
      rfl

/-- What the TLVs say that are not rejected. -/
def items (tlvs : List Tlv) : List Item :=
  (tlvs.map read).filterMap Decoded.item?

theorem value_ofTlvs (tlvs : List Tlv) : (ofTlvs tlvs).value = ofItems (items tlvs) :=
  foldl_add (items tlvs)

/-! ## Records back from their items -/

/-- The items for the fields of a record that are not lists. -/
def fieldItems (info : Info) : List Item :=
  [ .portDescription info.portDescription, .systemName info.systemName,
    .systemDescription info.systemDescription, .capabilities info.capabilities,
    .managementAddress info.managementAddress ]

/-- The items that describe a record. -/
def describing (info : Info) : List Item :=
  fieldItems info ++ info.organizationTlvs.map .organizationTlv ++ info.unknown.map .unknown

/-- What is picked from the items that describe a record, one item after the other. -/
theorem filterMap_describing {α : Type} (pick : Item → Option α) (info : Info) :
    (describing info).filterMap pick =
      (pick (.portDescription info.portDescription)).toList ++
        (pick (.systemName info.systemName)).toList ++
        (pick (.systemDescription info.systemDescription)).toList ++
        (pick (.capabilities info.capabilities)).toList ++
        (pick (.managementAddress info.managementAddress)).toList ++
        info.organizationTlvs.filterMap (fun t => pick (.organizationTlv t)) ++
        info.unknown.filterMap (fun t => pick (.unknown t)) := by
  simp only [describing, List.filterMap_append, List.filterMap_map]
  congr 2
  simp only [fieldItems, Decoded.filterMap_cons_eq, List.filterMap_nil, List.append_nil,
    List.append_assoc]

/-- The items that describe a record make it up in every order that keeps the two lists. -/
theorem ofItems_of_perm {info : Info} {items : List Item} (perm : items.Perm (describing info))
    (organizations : (info.organizationTlvs.map .organizationTlv).Sublist items)
    (unknown : (info.unknown.map .unknown).Sublist items) : ofItems items = info := by
  have field {α : Type} (pick : Item → Option α) (default a : α)
      (single : (describing info).filterMap pick = [a]) :
      (items.filterMap pick).getLast?.getD default = a :=
    Decoded.getLast?_filterMap_of_perm perm single default
  have organizationTlvs : items.filterMap Item.organizationTlv? = info.organizationTlvs := by
    apply Decoded.filterMap_of_perm perm _ Item.organizationTlv (fun _ _ => rfl) _ organizations
    simp [filterMap_describing, Item.organizationTlv?, List.filterMap_none]
  have unknowns : items.filterMap Item.unknown? = info.unknown := by
    apply Decoded.filterMap_of_perm perm _ Item.unknown (fun _ _ => rfl) _ unknown
    simp [filterMap_describing, Item.unknown?, List.filterMap_none]
  have portDescription := field Item.portDescription? "" info.portDescription
    (by simp [filterMap_describing, Item.portDescription?, List.filterMap_none])
  have systemName := field Item.systemName? "" info.systemName
    (by simp [filterMap_describing, Item.systemName?, List.filterMap_none])
  have systemDescription := field Item.systemDescription? "" info.systemDescription
    (by simp [filterMap_describing, Item.systemDescription?, List.filterMap_none])
  have capabilities := field Item.capabilities? {} info.capabilities
    (by simp [filterMap_describing, Item.capabilities?, List.filterMap_none])
  have managementAddress := field Item.managementAddress? {} info.managementAddress
    (by simp [filterMap_describing, Item.managementAddress?, List.filterMap_none])
  rw [ofItems, portDescription, systemName, systemDescription, capabilities, managementAddress,
    organizationTlvs, unknowns]

end Lldpdu.Info
