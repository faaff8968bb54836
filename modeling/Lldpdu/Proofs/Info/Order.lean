import Lldpdu.Proofs.Info.Rejection
import Lldpdu.Proofs.Keyed

/-!
# The order of TLVs of different types

What a record holds under a type is a matter of the TLVs of that type.  So TLVs of different types
may change places: the record stays as it is, and so do the errors of each type among themselves.
The TLVs without a layout count as one type, for they share a list.
-/

namespace Lldpdu

/-- The type of the TLV that an error is about, unless it is a subtype of an organization. -/
def FieldError.kind? : FieldError → Option TlvType
  | .tlv kind _ _ => some kind
  | .organizationTlv _ _ _ _ => none

namespace Info

/-- Items of different types may change places. -/
theorem ofItems_eq_of_sameByKey {items others : List Item}
    (same : SameByKey Item.kind? items others) : ofItems items = ofItems others := by
  rw [ofItems, same.filterMap_eq fun _ _ => Item.kind?_of_portDescription?,
    same.filterMap_eq fun _ _ => Item.kind?_of_systemName?,
    same.filterMap_eq fun _ _ => Item.kind?_of_systemDescription?,
    same.filterMap_eq fun _ _ => Item.kind?_of_capabilities?,
    same.filterMap_eq fun _ _ => Item.kind?_of_managementAddress?,
    same.filterMap_eq fun _ _ => Item.kind?_of_organizationTlv?,
    same.filterMap_eq fun _ _ => Item.kind?_of_unknown?, ofItems]

theorem kind?_of_rejection? {t : Tlv} {e : FieldError} (rejected : t.rejection? = some e) :
    layoutType? t = e.kind? := by
  rw [Tlv.rejection?, Option.map_eq_some_iff] at rejected
  rcases rejected with ⟨wanted, short, rfl⟩
  refine (layoutType?_eq_some_iff t t.kind).mpr ⟨?_, rfl⟩
  by_contra other
  rw [shortfall?_of_notMem other] at short
  contradiction

variable {tlvs others : List Tlv}

theorem sameByKey_items (same : SameByKey layoutType? tlvs others) :
    SameByKey Item.kind? (items tlvs) (items others) := by
  rw [items, items, List.filterMap_map, List.filterMap_map]
  apply same.filterMap id
  intro t i said
  rw [Function.comp_apply, item?_read, Option.ite_none_right_eq_some] at said
  rw [← Option.some.inj said.2, kind?_itemOf, id]

theorem value_eq_of_sameByKey (same : SameByKey layoutType? tlvs others) :
    (ofTlvs tlvs).value = (ofTlvs others).value := by
  rw [value_ofTlvs, value_ofTlvs, ofItems_eq_of_sameByKey (sameByKey_items same)]

theorem sameByKey_errors (same : SameByKey layoutType? tlvs others) :
    SameByKey FieldError.kind? (ofTlvs tlvs).errors (ofTlvs others).errors := by
  rw [errors_ofTlvs, errors_ofTlvs]
  exact same.filterMap id fun _ _ => kind?_of_rejection?

/-- TLVs of different types may change places. -/
theorem alike_of_sameByKey (same : SameByKey layoutType? tlvs others) :
    (ofTlvs tlvs).Alike (ofTlvs others) :=
  ⟨value_eq_of_sameByKey same, (sameByKey_errors same).perm⟩

end Info

end Lldpdu
