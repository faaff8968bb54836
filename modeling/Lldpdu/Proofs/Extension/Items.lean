import Lldpdu.Extension.Bridging
import Lldpdu.Extension.Ethernet.Basic
import Lldpdu.Proofs.Decoded

/-!
# Records of bridging and Ethernet, field by field

Each field of an extension's record is a matter of the items of one kind.  A field that a port
has once is what the last item of its kind says, and a field that it may have many times lists
all of them in order.

So the items that describe a record make it up again in every order that keeps its lists.
-/

namespace Lldpdu

/-! ## Bridging -/

namespace Bridging

namespace Item

/-- The VLAN of the port in an item. -/
def portVlanId? : Item → Option UInt16
  | .portVlanId id => some id
  | _ => none

/-- The protocol VLAN in an item. -/
def protocolVlan? : Item → Option ProtocolVlan
  | .protocolVlan vlan => some vlan
  | _ => none

/-- The VLAN name in an item. -/
def vlanName? : Item → Option VlanName
  | .vlanName name => some name
  | _ => none

/-- The protocol identity in an item, if it names a protocol. -/
def protocolIdentity? : Item → Option Octets
  | .protocolIdentity [] => none
  | .protocolIdentity identity => some identity
  | _ => none

/-- The usage digest in an item. -/
def vidUsageDigest? : Item → Option UInt32
  | .vidUsageDigest digest => some digest
  | _ => none

/-- The management VLAN in an item. -/
def managementVid? : Item → Option UInt16
  | .managementVid id => some id
  | _ => none

/-- The link aggregation in an item. -/
def linkAggregation? : Item → Option LinkAggregation
  | .linkAggregation aggregation => some aggregation
  | _ => none

end Item

/-- The record that items make up, each field from the items that say something about it. -/
def ofItems (items : List Item) : Bridging where
  portVlanId := (items.filterMap Item.portVlanId?).getLast?.getD 0
  protocolVlans := items.filterMap Item.protocolVlan?
  vlanNames := items.filterMap Item.vlanName?
  protocolIdentities := items.filterMap Item.protocolIdentity?
  vidUsageDigest := (items.filterMap Item.vidUsageDigest?).getLast?.getD 0
  managementVid := (items.filterMap Item.managementVid?).getLast?.getD 0
  linkAggregation := (items.filterMap Item.linkAggregation?).getLast?.getD {}

/-- A further item changes the field that it says something about, and no other. -/
theorem ofItems_concat (items : List Item) (i : Item) :
    ofItems (items ++ [i]) = add (ofItems items) i := by
  simp only [ofItems, Decoded.filterMap_concat]
  cases i with
  | protocolIdentity identity =>
      cases identity <;> simp [add, Item.portVlanId?, Item.protocolVlan?, Item.vlanName?,
        Item.protocolIdentity?, Item.vidUsageDigest?, Item.managementVid?, Item.linkAggregation?]
  | _ => simp [add, Item.portVlanId?, Item.protocolVlan?, Item.vlanName?,
      Item.protocolIdentity?, Item.vidUsageDigest?, Item.managementVid?, Item.linkAggregation?]

/-- Adding items one after the other comes to the same. -/
theorem foldl_add (items : List Item) : items.foldl add {} = ofItems items := by
  induction items using List.reverseRecOn with
  | nil => rfl
  | append_singleton items i ih =>
      rw [List.foldl_append, ih, ofItems_concat]
      rfl

/-- The items that describe a record. -/
def describing (r : Bridging) : List Item :=
  [ .portVlanId r.portVlanId, .vidUsageDigest r.vidUsageDigest, .managementVid r.managementVid,
    .linkAggregation r.linkAggregation ] ++
    r.protocolVlans.map .protocolVlan ++ r.vlanNames.map .vlanName ++
    r.protocolIdentities.map .protocolIdentity

/-- What is picked from the items that describe a record, one item after the other. -/
theorem filterMap_describing {α : Type} (pick : Item → Option α) (r : Bridging) :
    (describing r).filterMap pick =
      (pick (.portVlanId r.portVlanId)).toList ++
        (pick (.vidUsageDigest r.vidUsageDigest)).toList ++
        (pick (.managementVid r.managementVid)).toList ++
        (pick (.linkAggregation r.linkAggregation)).toList ++
        r.protocolVlans.filterMap (fun vlan => pick (.protocolVlan vlan)) ++
        r.vlanNames.filterMap (fun name => pick (.vlanName name)) ++
        r.protocolIdentities.filterMap (fun identity => pick (.protocolIdentity identity)) := by
  simp only [describing, List.filterMap_append, List.filterMap_map, Decoded.filterMap_cons_eq,
    List.filterMap_nil, List.append_nil, List.append_assoc]
  rfl

/-- The items that describe a record make it up in every order that keeps the three lists. -/
theorem ofItems_of_perm {r : Bridging} (named : ∀ identity ∈ r.protocolIdentities, identity ≠ [])
    {items : List Item} (perm : items.Perm (describing r))
    (protocolVlans : (r.protocolVlans.map .protocolVlan).Sublist items)
    (vlanNames : (r.vlanNames.map .vlanName).Sublist items)
    (protocolIdentities : (r.protocolIdentities.map .protocolIdentity).Sublist items) :
    ofItems items = r := by
  have identity? : ∀ identity ∈ r.protocolIdentities,
      Item.protocolIdentity? (.protocolIdentity identity) = some identity := by
    intro identity member
    cases identity with
    | nil => exact absurd rfl (named [] member)
    | cons octet octets => rfl
  have identities : (r.protocolIdentities.filterMap fun identity =>
      Item.protocolIdentity? (.protocolIdentity identity)) = r.protocolIdentities := by
    rw [← Function.comp_def, ← List.filterMap_map]
    exact Decoded.filterMap_map_eq _ _ identity?
  have field {α : Type} (pick : Item → Option α) (default a : α)
      (single : (describing r).filterMap pick = [a]) :
      (items.filterMap pick).getLast?.getD default = a :=
    Decoded.getLast?_filterMap_of_perm perm single default
  have vlans : items.filterMap Item.protocolVlan? = r.protocolVlans := by
    apply Decoded.filterMap_of_perm perm _ Item.protocolVlan (fun _ _ => rfl) _ protocolVlans
    simp [filterMap_describing, Item.protocolVlan?, List.filterMap_none]
  have names : items.filterMap Item.vlanName? = r.vlanNames := by
    apply Decoded.filterMap_of_perm perm _ Item.vlanName (fun _ _ => rfl) _ vlanNames
    simp [filterMap_describing, Item.vlanName?, List.filterMap_none]
  have named : items.filterMap Item.protocolIdentity? = r.protocolIdentities := by
    apply Decoded.filterMap_of_perm perm _ Item.protocolIdentity identity? _ protocolIdentities
    rw [filterMap_describing, identities]
    simp [Item.protocolIdentity?, List.filterMap_none]
  have portVlanId := field Item.portVlanId? 0 r.portVlanId
    (by simp [filterMap_describing, Item.portVlanId?, List.filterMap_none])
  have vidUsageDigest := field Item.vidUsageDigest? 0 r.vidUsageDigest
    (by simp [filterMap_describing, Item.vidUsageDigest?, List.filterMap_none])
  have managementVid := field Item.managementVid? 0 r.managementVid
    (by simp [filterMap_describing, Item.managementVid?, List.filterMap_none])
  have linkAggregation := field Item.linkAggregation? {} r.linkAggregation
    (by simp [filterMap_describing, Item.linkAggregation?, List.filterMap_none])
  rw [ofItems, portVlanId, vlans, names, named, vidUsageDigest, managementVid, linkAggregation]

end Bridging

/-! ## Ethernet -/

namespace Ethernet

namespace Item

/-- The physical layer in an item. -/
def macPhy? : Item → Option MacPhy
  | .macPhy said => some said
  | _ => none

/-- The power in an item. -/
def power? : Item → Option PowerViaMdi
  | .power said => some said
  | _ => none

/-- The link aggregation in an item. -/
def linkAggregation? : Item → Option LinkAggregation
  | .linkAggregation aggregation => some aggregation
  | _ => none

/-- The greatest frame in an item. -/
def maxFrameSize? : Item → Option UInt16
  | .maxFrameSize size => some size
  | _ => none

end Item

/-- The record that items make up, each field from the last item of its kind. -/
def ofItems (items : List Item) : Ethernet where
  macPhy := (items.filterMap Item.macPhy?).getLast?.getD {}
  power := (items.filterMap Item.power?).getLast?.getD {}
  linkAggregation := (items.filterMap Item.linkAggregation?).getLast?.getD {}
  maxFrameSize := (items.filterMap Item.maxFrameSize?).getLast?.getD 0

/-- A further item changes the field that it says something about, and no other. -/
theorem ofItems_concat (items : List Item) (i : Item) :
    ofItems (items ++ [i]) = add (ofItems items) i := by
  simp only [ofItems, Decoded.getLast?_filterMap_concat]
  cases i <;> simp [add, Item.macPhy?, Item.power?, Item.linkAggregation?, Item.maxFrameSize?]

/-- Adding items one after the other comes to the same. -/
theorem foldl_add (items : List Item) : items.foldl add {} = ofItems items := by
  induction items using List.reverseRecOn with
  | nil => rfl
  | append_singleton items i ih =>
      rw [List.foldl_append, ih, ofItems_concat]
      rfl

/-- The items that describe a record. -/
def describing (r : Ethernet) : List Item :=
  [ .macPhy r.macPhy, .power r.power, .linkAggregation r.linkAggregation,
    .maxFrameSize r.maxFrameSize ]

/-- The items that describe a record make it up in every order. -/
theorem ofItems_of_perm {r : Ethernet} {items : List Item} (perm : items.Perm (describing r)) :
    ofItems items = r := by
  have field {α : Type} (pick : Item → Option α) (default a : α)
      (single : (describing r).filterMap pick = [a]) :
      (items.filterMap pick).getLast?.getD default = a :=
    Decoded.getLast?_filterMap_of_perm perm single default
  rw [ofItems, field Item.macPhy? {} r.macPhy rfl, field Item.power? {} r.power rfl,
    field Item.linkAggregation? {} r.linkAggregation rfl,
    field Item.maxFrameSize? 0 r.maxFrameSize rfl]

end Ethernet

end Lldpdu
