import Lldpdu.Proofs.Extension.Order
import Lldpdu.Proofs.Octets

/-!
# What the bridging extension holds of a list of TLVs

Each field of the record is told by the TLVs of one subtype, if they are of the organization and
their payload is long enough.  A field that a port has once holds what the last of them tells, and a
list holds what all of them tell, in order.  A TLV that tells nothing leaves no trace in the record.

What a payload tells is written down here from its octets alone.  That the layouts read the same is
`Layout.Tells`, for each of them.
-/

namespace Lldpdu

/-! ## Octets in front -/

namespace Octets

/-- The 16-bit number of two octets, the most significant one first. -/
def word16 (high low : UInt8) : UInt16 :=
  .ofNat (256 * high.toNat + low.toNat)

/-- The 32-bit number of four octets, the most significant one first. -/
def word32 (a b c d : UInt8) : UInt32 :=
  .ofNat (256 * (256 * (256 * a.toNat + b.toNat) + c.toNat) + d.toNat)

/-- The 16-bit number that a string begins with. -/
def leading16? : Octets → Option UInt16
  | high :: low :: _ => some (word16 high low)
  | _ => none

/-- The 32-bit number that a string begins with. -/
def leading32? : Octets → Option UInt32
  | a :: b :: c :: d :: _ => some (word32 a b c d)
  | _ => none

theorem u16_cons_cons (high low : UInt8) (more : Octets) :
    u16 (high :: low :: more) 0 = word16 high low := by
  have slice : slice (high :: low :: more) 0 2 = [high, low] := rfl
  rw [u16, slice, number_pair, Nat.mul_comm, word16]

theorem u32_cons_cons_cons_cons (a b c d : UInt8) (more : Octets) :
    u32 (a :: b :: c :: d :: more) 0 = word32 a b c d := by
  have slice : slice (a :: b :: c :: d :: more) 0 4 = [a, b] ++ [c] ++ [d] := rfl
  rw [u32, slice, number_concat, number_concat, number_pair, word32]
  congr 1
  omega

end Octets

/-! ## What TLVs tell -/

namespace OrganizationTlv

variable {α : Type}

/-- What a TLV tells if it is of the given organization and subtype.  All 32 bits of the OUI
count. -/
def told? (oui : UInt32) (subtype : UInt8) (tell? : Octets → Option α) (t : OrganizationTlv) :
    Option α :=
  if t.oui.raw = oui ∧ t.subtype = subtype then tell? t.payload else none

/-- What the TLVs of an organization and a subtype tell, in their order. -/
def told (oui : UInt32) (subtype : UInt8) (tell? : Octets → Option α)
    (tlvs : List OrganizationTlv) : List α :=
  tlvs.filterMap (told? oui subtype tell?)

end OrganizationTlv

namespace Layout

variable {ι α : Type}

/-- What is picked from the meaning of a value is just what the given function tells of it, and
nothing for a value that is too short. -/
def Tells (layout : Layout ι) (pick : ι → Option α) (tell? : Octets → Option α) : Prop :=
  ∀ value, (layout.decode value).toOption.bind pick = tell? value

theorem toOption_decode_atLeast {length : Nat} {value : Octets} (long : length ≤ value.length)
    (read : Octets → ι) : ((atLeast length read).decode value).toOption = some (read value) := by
  rw [decode_atLeast_of_le long]
  rfl

theorem tells_leading16 {wrap : UInt16 → ι} {pick : ι → Option UInt16}
    (picked : ∀ n, pick (wrap n) = some n) :
    (atLeast 2 fun value => wrap (value.u16 0)).Tells pick Octets.leading16? := by
  intro value
  match value with
  | [] | [_] => rfl
  | high :: low :: more =>
      rw [toOption_decode_atLeast (by simp), Octets.u16_cons_cons]
      exact picked _

theorem tells_leading32 {wrap : UInt32 → ι} {pick : ι → Option UInt32}
    (picked : ∀ n, pick (wrap n) = some n) :
    (atLeast 4 fun value => wrap (value.u32 0)).Tells pick Octets.leading32? := by
  intro value
  match value with
  | [] | [_] | [_, _] | [_, _, _] => rfl
  | a :: b :: c :: d :: more =>
      rw [toOption_decode_atLeast (by simp), Octets.u32_cons_cons_cons_cons]
      exact picked _

end Layout

namespace Extension

variable {ι σ α : Type} {x : Extension ι σ}

theorem said?_eq_toOption {t : OrganizationTlv} {layout : Layout ι} (own : t.oui = x.oui)
    (known : x.layout? t.subtype = some layout) :
    x.said? t = (layout.decode t.payload).toOption := by
  rw [said?, reading?_eq_read? own, read?, known, Option.map_some, Option.bind_some]
  cases layout.decode t.payload <;> rfl

/-- What is picked at one subtype only is what the TLVs of that subtype tell. -/
theorem Keyed.filterMap_said? {subtype : ι → UInt8} (keyed : x.Keyed subtype)
    {pick : ι → Option α} {s : UInt8} (only : ∀ item a, pick item = some a → subtype item = s)
    {layout : Layout ι} (known : x.layout? s = some layout) {tell? : Octets → Option α}
    (tells : layout.Tells pick tell?) (tlvs : List OrganizationTlv) :
    (tlvs.filterMap x.said?).filterMap pick =
      OrganizationTlv.told x.oui.raw s tell? tlvs := by
  rw [List.filterMap_filterMap]
  apply List.filterMap_congr
  rintro ⟨⟨raw⟩, subtype', payload⟩ -
  by_cases source : raw = x.oui.raw ∧ subtype' = s
  · rw [OrganizationTlv.told?, if_pos source, ← tells payload]
    rcases source with ⟨rfl, rfl⟩
    rw [said?_eq_toOption rfl known]
  · rw [OrganizationTlv.told?, if_neg source, Option.bind_eq_none_iff]
    intro item said
    obtain ⟨isOwn, layout', known', rfl⟩ := said?_eq_some said
    rw [Option.eq_none_iff_forall_ne_some]
    intro a picked
    exact source ⟨congrArg Code.raw isOwn, (keyed _ _ known' payload).symm.trans (only _ a picked)⟩

end Extension

/-! ## TLVs that tell nothing -/

namespace KnownExtension

/-- The extension takes nothing from a TLV: it disregards it, or the payload is too short for its
subtype. -/
def TakesNothing (known : KnownExtension) (t : OrganizationTlv) : Prop :=
  known.Disregards t ∨
    ∃ least, known.least? t.subtype t.payload = some least ∧ t.payload.length < least

end KnownExtension

namespace Extension

variable {ι σ : Type} {x : Extension ι σ} {least? : UInt8 → Octets → Option Nat}
  {t : OrganizationTlv}

/-- A payload that is shorter than its subtype asks says nothing. -/
theorem said?_eq_none_of_short (asks : x.Asks least?) {least : Nat}
    (asked : least? t.subtype t.payload = some least) (short : t.payload.length < least) :
    x.said? t = none := by
  by_cases own : t.oui = x.oui
  · have demand := asks t.subtype t.payload
    rw [asked, Option.map_some, if_pos short, Option.map_eq_some_iff] at demand
    rcases demand with ⟨layout, known, unmet⟩
    rw [said?_eq_toOption own known, Layout.decode, unmet]
    rfl
  · rw [said?, reading?_eq_none (passesOver_of_ne own)]
    rfl

/-- The record stays as it is if a TLV is left out that is passed over, or too short. -/
theorem value_decode_insert (asks : x.Asks least?)
    (nothing : (t.oui ≠ x.oui ∨ least? t.subtype t.payload = none) ∨
      ∃ least, least? t.subtype t.payload = some least ∧ t.payload.length < least)
    (before behind : List OrganizationTlv) :
    (x.decode (before ++ t :: behind)).value = (x.decode (before ++ behind)).value := by
  rcases nothing with unasked | ⟨least, asked, short⟩
  · rw [decode_of_passesOver (passesOver_of_least? asks unasked)]
  · rw [value_decode, value_decode, List.filterMap_append,
      List.filterMap_cons_none (said?_eq_none_of_short asks asked short), List.filterMap_append]

end Extension

/-! ## Bridging -/

namespace Bridging

/-- The protocol VLAN in a payload: flags, of which the lowest two count, then the VLAN. -/
def protocolVlanOf? : Octets → Option ProtocolVlan
  | flags :: high :: low :: _ => some
      { supported := flags.toNat.testBit 0
        enabled := flags.toNat.testBit 1
        id := Octets.word16 high low }
  | _ => none

/-- The VLAN name in a payload: the VLAN, an octet of length that is not looked at, and the name, to
the end. -/
def vlanNameOf? : Octets → Option VlanName
  | high :: low :: rest => some
      { id := Octets.word16 high low
        name := Text.lossy (rest.drop 1) }
  | _ => none

/-- The protocol identity in a payload: an octet that counts it, then the identity.  It has to be
there in full, and an identity of no octets is none. -/
def protocolIdentityOf? : Octets → Option Octets
  | count :: rest =>
      if 0 < count.toNat ∧ count.toNat ≤ rest.length then some (rest.take count.toNat) else none
  | [] => none

/-- The link aggregation in a payload: flags, of which the lowest two count, then the port. -/
def linkAggregationOf? : Octets → Option LinkAggregation
  | flags :: a :: b :: c :: d :: _ => some
      { supported := flags.toNat.testBit 0
        enabled := flags.toNat.testBit 1
        portId := Octets.word32 a b c d }
  | _ => none

open OrganizationTlv (told)

/-- What a record holds of the TLVs that it is decoded from. -/
structure Holds (r : Bridging) (tlvs : List OrganizationTlv) : Prop where
  portVlanId : r.portVlanId = (told 0x0080c2 1 Octets.leading16? tlvs).getLast?.getD 0
  protocolVlans : r.protocolVlans = told 0x0080c2 2 protocolVlanOf? tlvs
  vlanNames : r.vlanNames = told 0x0080c2 3 vlanNameOf? tlvs
  protocolIdentities : r.protocolIdentities = told 0x0080c2 4 protocolIdentityOf? tlvs
  vidUsageDigest : r.vidUsageDigest = (told 0x0080c2 5 Octets.leading32? tlvs).getLast?.getD 0
  managementVid : r.managementVid = (told 0x0080c2 6 Octets.leading16? tlvs).getLast?.getD 0
  linkAggregation :
    r.linkAggregation = (told 0x0080c2 7 linkAggregationOf? tlvs).getLast?.getD {}

theorem tells_protocolVlanLayout :
    (protocolVlanLayout.map .protocolVlan).Tells Item.protocolVlan? protocolVlanOf? := by
  intro value
  match value with
  | [] | [_] | [_, _] => rfl
  | flags :: high :: low :: more =>
      change ((Layout.atLeast 3 _).decode _).toOption.bind _ = _
      rw [Layout.toOption_decode_atLeast (by simp), protocolVlanOf?, ← Octets.u16_cons_cons]
      rfl

theorem tells_vlanNameLayout :
    (vlanNameLayout.map .vlanName).Tells Item.vlanName? vlanNameOf? := by
  intro value
  match value with
  | [] | [_] => rfl
  | high :: low :: rest =>
      change ((Layout.atLeast 2 _).decode _).toOption.bind _ = _
      rw [Layout.toOption_decode_atLeast (by simp), vlanNameOf?,
        ← Octets.u16_cons_cons high low rest]
      cases rest <;> rfl

/-- A payload has the octets that its first one counts, or is too short. -/
theorem tells_protocolIdentityLayout :
    (protocolIdentityLayout.map .protocolIdentity).Tells Item.protocolIdentity?
      protocolIdentityOf? := by
  intro value
  cases value with
  | nil => rfl
  | cons count rest =>
      have unmet := needs_protocolIdentityLayout (count :: rest)
      change _ = if rest.length + 1 < 1 + count.toNat then _ else _ at unmet
      rw [Layout.decode_map, Layout.decode, unmet, protocolIdentityOf?]
      by_cases short : rest.length + 1 < 1 + count.toNat
      · rw [if_pos short, if_neg (by omega)]
        rfl
      · rw [if_neg short]
        change Item.protocolIdentity? (.protocolIdentity (rest.take count.toNat)) = _
        cases identity : rest.take count.toNat with
        | nil =>
            have length := congrArg List.length identity
            rw [List.length_take, List.length_nil] at length
            rw [if_neg (by omega)]
            rfl
        | cons octet octets =>
            have length := congrArg List.length identity
            rw [List.length_take, List.length_cons] at length
            rw [if_pos (by omega)]
            rfl

theorem tells_linkAggregationLayout :
    (linkAggregationLayout.map .linkAggregation).Tells Item.linkAggregation?
      linkAggregationOf? := by
  intro value
  match value with
  | [] | [_] | [_, _] | [_, _, _] | [_, _, _, _] => rfl
  | flags :: a :: b :: c :: d :: more =>
      change ((Layout.atLeast 5 _).decode _).toOption.bind _ = _
      rw [Layout.toOption_decode_atLeast (by simp), linkAggregationOf?,
        ← Octets.u32_cons_cons_cons_cons]
      rfl

theorem holds_decode (tlvs : List OrganizationTlv) : Holds (extension.decode tlvs).value tlvs := by
  have value : (extension.decode tlvs).value = ofItems (tlvs.filterMap extension.said?) :=
    (Extension.value_decode extension tlvs).trans (foldl_add _)
  rw [value]
  exact
    { portVlanId := congrArg (fun said => said.getLast?.getD 0)
        (keyed.filterMap_said? (fun _ _ => Item.subtype_of_portVlanId?) rfl
          (Layout.tells_leading16 fun _ => rfl) tlvs)
      protocolVlans :=
        keyed.filterMap_said? (fun _ _ => Item.subtype_of_protocolVlan?) rfl
          tells_protocolVlanLayout tlvs
      vlanNames :=
        keyed.filterMap_said? (fun _ _ => Item.subtype_of_vlanName?) rfl tells_vlanNameLayout tlvs
      protocolIdentities :=
        keyed.filterMap_said? (fun _ _ => Item.subtype_of_protocolIdentity?) rfl
          tells_protocolIdentityLayout tlvs
      vidUsageDigest := congrArg (fun said => said.getLast?.getD 0)
        (keyed.filterMap_said? (fun _ _ => Item.subtype_of_vidUsageDigest?) rfl
          (Layout.tells_leading32 fun _ => rfl) tlvs)
      managementVid := congrArg (fun said => said.getLast?.getD 0)
        (keyed.filterMap_said? (fun _ _ => Item.subtype_of_managementVid?) rfl
          (Layout.tells_leading16 fun _ => rfl) tlvs)
      linkAggregation := congrArg (fun said => said.getLast?.getD {})
        (keyed.filterMap_said? (fun _ _ => Item.subtype_of_linkAggregation?) rfl
          tells_linkAggregationLayout tlvs) }

theorem value_decode_of_takesNothing {t : OrganizationTlv}
    (nothing : KnownExtension.bridging.TakesNothing t) (before behind : List OrganizationTlv) :
    (extension.decode (before ++ t :: behind)).value =
      (extension.decode (before ++ behind)).value := by
  rcases nothing with disregarded | short
  · have same := KnownExtension.extension_of_disregards disregarded {} before behind
    exact congrArg Decoded.value (ExtensionReport.bridging.inj same)
  · exact Extension.value_decode_insert asks (.inr short) before behind

/-- The record of the bridging extension holds, field by field, what the TLVs of its organization
tell.  A scalar field is that of the last TLV of its subtype that is long enough, or as at first if
there is none; the lists have an entry for each TLV of their subtype that tells one, in order.  TLVs
that are too short, of another organization or of another subtype, and protocol identities of no
octets, may be left out without a change to any field. -/
theorem record_field_by_field :
    (∀ info : Info, Holds info.bridging.value info.organizationTlvs) ∧
      ∀ t, KnownExtension.bridging.TakesNothing t →
        ∀ (info : Info) (before behind : List OrganizationTlv),
          ({ info with organizationTlvs := before ++ t :: behind } : Info).bridging.value =
            ({ info with organizationTlvs := before ++ behind } : Info).bridging.value := by
  constructor
  · intro info
    exact holds_decode info.organizationTlvs
  · intro t nothing info before behind
    exact value_decode_of_takesNothing nothing before behind

/-- A digest that is cut short leaves the earlier one in place, whatever TLVs stand around it. -/
theorem record_with_short_digest :
    let short : OrganizationTlv := ⟨.ieee8021, 5, [9, 9, 9]⟩
    let before : List OrganizationTlv :=
      [ ⟨.ieee8021, 1, [0, 1]⟩, ⟨.ieee8021, 5, [0, 0, 1, 2]⟩, ⟨⟨0x010080c2⟩, 1, [0, 9]⟩ ]
    let behind : List OrganizationTlv :=
      [ ⟨.ieee8021, 3, [0, 7, 200, 108, 97, 98]⟩, ⟨.ieee8021, 4, [2, 8, 9, 10]⟩,
        ⟨.ieee8021, 4, [0, 1]⟩, ⟨.ieee8021, 1, [2, 0, 255]⟩ ]
    KnownExtension.bridging.TakesNothing short ∧
      ({ organizationTlvs := before ++ short :: behind } : Info).bridging.value =
        { portVlanId := 512
          vlanNames := [⟨7, "lab"⟩]
          protocolIdentities := [[8, 9]]
          vidUsageDigest := 258 } := by
  intro short before behind
  have nothing : KnownExtension.bridging.TakesNothing short := .inr ⟨4, rfl, by decide⟩
  refine ⟨nothing, ?_⟩
  rw [record_field_by_field.2 short nothing {} before behind]
  decide +kernel

end Bridging

end Lldpdu
