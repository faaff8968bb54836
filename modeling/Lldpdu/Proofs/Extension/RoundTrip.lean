import Lldpdu.Extension.Report
import Lldpdu.Proofs.Extension.Encoding
import Lldpdu.Proofs.Extension.Items

/-!
# Extensions through a list of TLVs

The records of the three extensions are written as TLVs, one for each scalar field and one for
each entry of a list, and the TLVs are put into one list.  Each extension reads its own record
back from that list, without an error, in every order that keeps the entries of each list in
theirs.  The extensions use the same subtypes, but each looks at the TLVs of its organization
only; and TLVs that no extension reads may stand anywhere in between.
-/

namespace Lldpdu

/-! ## TLVs read by an extension -/

namespace Extension

variable {ι σ : Type}

/-- The extension passes over a TLV: it is of another organization, or of a subtype without a
layout. -/
def PassesOver (x : Extension ι σ) (t : OrganizationTlv) : Prop :=
  t.oui = x.oui → x.layout? t.subtype = none

/-- What the extension makes of a TLV of any organization. -/
def reading? (x : Extension ι σ) (t : OrganizationTlv) : Option (Except FieldError ι) :=
  if t.oui = x.oui then x.read? t else none

theorem reading?_eq_read? {x : Extension ι σ} {t : OrganizationTlv} (own : t.oui = x.oui) :
    x.reading? t = x.read? t :=
  if_pos own

theorem reading?_eq_none {x : Extension ι σ} {t : OrganizationTlv} (passed : x.PassesOver t) :
    x.reading? t = none := by
  rw [reading?]
  split
  next own => rw [read?, passed own, Option.map_none]
  · rfl

theorem passesOver_of_ne {x : Extension ι σ} {t : OrganizationTlv} (foreign : t.oui ≠ x.oui) :
    x.PassesOver t :=
  fun own => absurd own foreign

/-- The record is gathered from the readings of all TLVs, those passed over giving none. -/
theorem decode_eq_gather (x : Extension ι σ) (tlvs : List OrganizationTlv) :
    x.decode tlvs = .gather x.add x.empty (tlvs.filterMap x.reading?) := by
  rw [decode, organizationTlvsOf, List.filterMap_filter]
  simp only [decide_eq_true_eq]
  rfl

/-- TLVs that are read as items, or passed over, give the record of those items. -/
theorem decode_map {α : Type} {x : Extension ι σ} {tlv : α → OrganizationTlv}
    {pick : α → Option ι} {entries : List α}
    (reads : ∀ a ∈ entries, x.reading? (tlv a) = (pick a).map .ok) :
    x.decode (entries.map tlv) = ⟨(entries.filterMap pick).foldl x.add x.empty, []⟩ := by
  have readings : (entries.map tlv).filterMap x.reading? =
      (entries.filterMap pick).map .ok := by
    rw [List.filterMap_map, List.map_filterMap]
    exact List.filterMap_congr reads
  rw [decode_eq_gather, readings, Decoded.gather_map_ok]

end Extension

/-! ## Scripts -/

/-- What a TLV of an organization says in the known extensions. -/
inductive Said where
  | bridging (item : Bridging.Item)
  | ethernet (item : Ethernet.Item)
  | edgeBridging (settings : EdgeBridging.Settings)
  /-- Nothing: it is some TLV that is passed over. -/
  | nothing (tlv : OrganizationTlv)
  deriving DecidableEq, Repr

namespace Said

/-- The TLV that says it. -/
def tlv (filler : Filler) : Said → OrganizationTlv
  | .bridging item => item.tlv filler
  | .ethernet item => item.tlv filler
  | .edgeBridging settings => settings.tlv filler
  | .nothing tlv => tlv

/-- What can be said: each number has room where it is written, and what says nothing is passed
over by each of the extensions. -/
def Fits : Said → Prop
  | .bridging item => item.Fits
  | .ethernet item => item.Fits
  | .edgeBridging _ => True
  | .nothing tlv => Bridging.extension.PassesOver tlv ∧ Ethernet.extension.PassesOver tlv ∧
      EdgeBridging.extension.PassesOver tlv

/-- What is said in the bridging extension. -/
def bridging? : Said → Option Bridging.Item
  | .bridging item => some item
  | _ => none

/-- What is said in the Ethernet extension. -/
def ethernet? : Said → Option Ethernet.Item
  | .ethernet item => some item
  | _ => none

/-- What is said in the edge virtual bridging extension. -/
def edgeBridging? : Said → Option EdgeBridging.Settings
  | .edgeBridging settings => some settings
  | _ => none

variable {said : Said}

theorem reading?_bridging (fits : said.Fits) (filler : Filler) :
    Bridging.extension.reading? (said.tlv filler) = said.bridging?.map .ok := by
  cases said with
  | bridging item =>
      exact (Extension.reading?_eq_read? rfl).trans (Bridging.read?_tlv fits filler)
  | ethernet item =>
      exact Extension.reading?_eq_none (Extension.passesOver_of_ne (by decide : Oui.ieee8023 ≠ _))
  | edgeBridging settings =>
      exact Extension.reading?_eq_none
        (Extension.passesOver_of_ne (by decide : Oui.ieee8021Qbg ≠ _))
  | nothing tlv => exact Extension.reading?_eq_none fits.1

theorem reading?_ethernet (fits : said.Fits) (filler : Filler) :
    Ethernet.extension.reading? (said.tlv filler) = said.ethernet?.map .ok := by
  cases said with
  | bridging item =>
      exact Extension.reading?_eq_none (Extension.passesOver_of_ne (by decide : Oui.ieee8021 ≠ _))
  | ethernet item =>
      exact (Extension.reading?_eq_read? rfl).trans (Ethernet.read?_tlv fits filler)
  | edgeBridging settings =>
      exact Extension.reading?_eq_none
        (Extension.passesOver_of_ne (by decide : Oui.ieee8021Qbg ≠ _))
  | nothing tlv => exact Extension.reading?_eq_none fits.2.1

theorem reading?_edgeBridging (fits : said.Fits) (filler : Filler) :
    EdgeBridging.extension.reading? (said.tlv filler) = said.edgeBridging?.map .ok := by
  cases said with
  | bridging item =>
      exact Extension.reading?_eq_none (Extension.passesOver_of_ne (by decide : Oui.ieee8021 ≠ _))
  | ethernet item =>
      exact Extension.reading?_eq_none (Extension.passesOver_of_ne (by decide : Oui.ieee8023 ≠ _))
  | edgeBridging settings =>
      exact (Extension.reading?_eq_read? rfl).trans (EdgeBridging.read?_tlv settings filler)
  | nothing tlv => exact Extension.reading?_eq_none fits.2.2

end Said

/-- What is said, in its order, each with a filler for what the layout leaves open. -/
abbrev Script := List (Said × Filler)

namespace Script

/-- What a script says. -/
def said (script : Script) : List Said :=
  script.map Prod.fst

/-- The TLVs that a script is written as. -/
def tlvs (script : Script) : List OrganizationTlv :=
  script.map fun (said, filler) => said.tlv filler

/-- An extension reads from the TLVs of a script what the script says in it. -/
theorem decode_tlvs {ι σ : Type} {x : Extension ι σ} {pick : Said → Option ι}
    (reads : ∀ {said : Said}, said.Fits → ∀ filler, x.reading? (said.tlv filler) =
      (pick said).map .ok) {script : Script} (fits : ∀ said ∈ script.said, said.Fits) :
    x.decode script.tlvs = ⟨(script.said.filterMap pick).foldl x.add x.empty, []⟩ := by
  rw [said, List.filterMap_map]
  apply Extension.decode_map
  intro entry member
  exact reads (fits entry.1 (List.mem_map_of_mem member)) entry.2

end Script

/-! ## Records -/

/-- A record that can be written: its protocol identities name a protocol, and an octet can count
each of them. -/
def Bridging.Fits (r : Bridging) : Prop :=
  ∀ identity ∈ r.protocolIdentities, 1 ≤ identity.length ∧ identity.length ≤ 255

/-- What the three records say, and the TLVs that say nothing. -/
def saidBy (bridging : Bridging) (ethernet : Ethernet) (edgeBridging : EdgeBridging)
    (others : List OrganizationTlv) : List Said :=
  bridging.describing.map .bridging ++ ethernet.describing.map .ethernet ++
    [.edgeBridging edgeBridging.settings] ++ others.map .nothing

theorem Bridging.fits_of_mem_describing {r : Bridging} (fits : r.Fits) {item : Bridging.Item}
    (member : item ∈ r.describing) : item.Fits := by
  cases item with
  | protocolIdentity identity =>
      have listed : identity ∈ r.protocolIdentities := by
        simpa [describing] using member
      exact (fits identity listed).2
  | _ => trivial

theorem Ethernet.fits_of_mem_describing {r : Ethernet} (fits : r.power.Fits)
    {item : Ethernet.Item} (member : item ∈ r.describing) : item.Fits := by
  cases item with
  | power said =>
      have same : said = r.power := by
        simpa [describing] using member
      exact same ▸ fits
  | _ => trivial

variable {bridging : Bridging} {ethernet : Ethernet} {edgeBridging : EdgeBridging}
  {others : List OrganizationTlv}

theorem fits_of_mem_saidBy (bridgingFits : bridging.Fits) (powerFits : ethernet.power.Fits)
    (passed : ∀ tlv ∈ others, (Said.nothing tlv).Fits) :
    ∀ said ∈ saidBy bridging ethernet edgeBridging others, said.Fits := by
  intro said member
  simp only [saidBy, List.mem_append, List.mem_map, List.mem_singleton] at member
  rcases member with ((⟨item, member, rfl⟩ | ⟨item, member, rfl⟩) | rfl) | ⟨tlv, member, rfl⟩
  · exact Bridging.fits_of_mem_describing bridgingFits member
  · exact Ethernet.fits_of_mem_describing powerFits member
  · trivial
  · exact passed tlv member

/-- What is picked from everything that is said, one extension after the other. -/
theorem filterMap_saidBy {α : Type} (pick : Said → Option α) :
    (saidBy bridging ethernet edgeBridging others).filterMap pick =
      bridging.describing.filterMap (fun item => pick (.bridging item)) ++
        ethernet.describing.filterMap (fun item => pick (.ethernet item)) ++
        (pick (.edgeBridging edgeBridging.settings)).toList ++
        others.filterMap (fun tlv => pick (.nothing tlv)) := by
  simp only [saidBy, List.filterMap_append, List.filterMap_map, Decoded.filterMap_cons_eq,
    List.filterMap_nil, List.append_nil]
  rfl

/-- Entries of a list of the bridging record keep their order among what is said in bridging. -/
theorem sublist_filterMap_bridging? {α : Type} {as : List α} {wrap : α → Bridging.Item}
    {said : List Said} (ordered : (as.map fun a => Said.bridging (wrap a)).Sublist said) :
    (as.map wrap).Sublist (said.filterMap Said.bridging?) := by
  have picked := ordered.filterMap Said.bridging?
  have wrapped : (as.map fun a => Said.bridging (wrap a)) = (as.map wrap).map .bridging := by
    rw [List.map_map]
    rfl
  rwa [wrapped, Decoded.filterMap_map_eq _ Said.bridging fun _ _ => rfl] at picked

namespace Info

/-- Decoding undoes encoding for the three extensions at once.  Records that fit are written as
TLVs, whatever fills what the layouts leave open, and the TLVs are put into the list of an info in
any order that keeps each list of the bridging record, with any TLVs in between that are passed
over.  Each extension then gives its record back, without an error. -/
theorem extensions_eq_of_perm (bridgingFits : bridging.Fits) (powerFits : ethernet.power.Fits)
    (passed : ∀ tlv ∈ others, (Said.nothing tlv).Fits) {script : Script}
    (perm : script.said.Perm (saidBy bridging ethernet edgeBridging others))
    (protocolVlans :
      (bridging.protocolVlans.map fun vlan => Said.bridging (.protocolVlan vlan)).Sublist
        script.said)
    (vlanNames :
      (bridging.vlanNames.map fun name => Said.bridging (.vlanName name)).Sublist script.said)
    (protocolIdentities :
      (bridging.protocolIdentities.map fun identity =>
        Said.bridging (.protocolIdentity identity)).Sublist script.said)
    {info : Info} (written : info.organizationTlvs = script.tlvs) :
    info.bridging = ⟨bridging, []⟩ ∧ info.ethernet = ⟨ethernet, []⟩ ∧
      info.edgeBridging = ⟨edgeBridging, []⟩ := by
  have fits : ∀ said ∈ script.said, said.Fits := fun said member =>
    fits_of_mem_saidBy bridgingFits powerFits passed said (perm.subset member)
  refine ⟨?_, ?_, ?_⟩
  · have items := perm.filterMap Said.bridging?
    have described : (saidBy bridging ethernet edgeBridging others).filterMap Said.bridging? =
        bridging.describing := by
      simp [filterMap_saidBy, Said.bridging?, List.filterMap_none]
    rw [described] at items
    have named : ∀ identity ∈ bridging.protocolIdentities, identity ≠ [] := fun identity member =>
      List.length_pos_iff.mp (bridgingFits identity member).1
    have record : Bridging.ofItems (script.said.filterMap Said.bridging?) = bridging :=
      Bridging.ofItems_of_perm named items (sublist_filterMap_bridging? protocolVlans)
        (sublist_filterMap_bridging? vlanNames) (sublist_filterMap_bridging? protocolIdentities)
    rw [Info.bridging, written, Script.decode_tlvs Said.reading?_bridging fits, ← record,
      ← Bridging.foldl_add]
    rfl
  · have items := perm.filterMap Said.ethernet?
    have described : (saidBy bridging ethernet edgeBridging others).filterMap Said.ethernet? =
        ethernet.describing := by
      simp [filterMap_saidBy, Said.ethernet?, List.filterMap_none]
    rw [described] at items
    have record : Ethernet.ofItems (script.said.filterMap Said.ethernet?) = ethernet :=
      Ethernet.ofItems_of_perm items
    rw [Info.ethernet, written, Script.decode_tlvs Said.reading?_ethernet fits, ← record,
      ← Ethernet.foldl_add]
    rfl
  · have items := perm.filterMap Said.edgeBridging?
    have described : (saidBy bridging ethernet edgeBridging others).filterMap Said.edgeBridging? =
        [edgeBridging.settings] := by
      simp [filterMap_saidBy, Said.edgeBridging?, List.filterMap_none]
    rw [described, List.perm_singleton] at items
    rw [Info.edgeBridging, written, Script.decode_tlvs Said.reading?_edgeBridging fits,
      items]
    rfl

/-- A bridging record with something in each of its parts. -/
def sampleBridging : Bridging where
  portVlanId := 1
  protocolVlans := [⟨true, false, 5⟩, ⟨false, true, 6⟩]
  vlanNames := [⟨2, "é"⟩]
  protocolIdentities := [[0x42, 0x42, 3]]
  vidUsageDigest := 7
  managementVid := 8
  linkAggregation := ⟨true, true, 9⟩

/-- An Ethernet record of a powered device. -/
def sampleEthernet : Ethernet where
  macPhy := ⟨true, false, ⟨0x6c01⟩, ⟨30⟩⟩
  power := ⟨true, true, false, true, 1, 2, ⟨3⟩, ⟨129⟩, ⟨2⟩, 130, 125⟩
  linkAggregation := ⟨0xff, 4⟩
  maxFrameSize := 1522

/-- An edge virtual bridging record. -/
def sampleEdgeBridging : EdgeBridging where
  settings := ⟨⟨3⟩, ⟨2⟩, 16, 4, 9⟩

/-- TLVs of a subtype without a layout, and of another organization. -/
def sampleOthers : List OrganizationTlv :=
  [⟨.ieee8021, 9, [1]⟩, ⟨⟨0x000142⟩, 1, [0]⟩, ⟨.ieee8021Qbg, 1, []⟩]

/-- A filler with nothing left at zero. -/
def sampleFiller : Filler where
  bits offset := offset + 5
  length := 200
  more := [0xaa, 0xbb]

/-- A script for the records in which nothing but the list of protocol VLANs is in order. -/
def sampleScript : Script :=
  [ (.edgeBridging sampleEdgeBridging.settings, sampleFiller),
    (.bridging (.protocolVlan ⟨true, false, 5⟩), {}),
    (.nothing ⟨⟨0x000142⟩, 1, [0]⟩, {}),
    (.ethernet (.linkAggregation ⟨0xff, 4⟩), {}),
    (.bridging (.linkAggregation ⟨true, true, 9⟩), sampleFiller),
    (.bridging (.protocolIdentity [0x42, 0x42, 3]), sampleFiller),
    (.ethernet (.power sampleEthernet.power), sampleFiller),
    (.bridging (.managementVid 8), {}),
    (.nothing ⟨.ieee8021, 9, [1]⟩, {}),
    (.bridging (.vlanName ⟨2, "é"⟩), sampleFiller),
    (.bridging (.portVlanId 1), sampleFiller),
    (.ethernet (.maxFrameSize 1522), {}),
    (.bridging (.protocolVlan ⟨false, true, 6⟩), sampleFiller),
    (.ethernet (.macPhy sampleEthernet.macPhy), {}),
    (.nothing ⟨.ieee8021Qbg, 1, []⟩, {}),
    (.bridging (.vidUsageDigest 7), {}) ]

theorem passed_sampleOthers : ∀ tlv ∈ sampleOthers, (Said.nothing tlv).Fits := by
  intro tlv member
  simp only [sampleOthers, List.mem_cons, List.not_mem_nil, or_false] at member
  rcases member with rfl | rfl | rfl
  · exact ⟨fun _ => rfl, Extension.passesOver_of_ne (by decide),
      Extension.passesOver_of_ne (by decide)⟩
  · exact ⟨Extension.passesOver_of_ne (by decide), Extension.passesOver_of_ne (by decide),
      Extension.passesOver_of_ne (by decide)⟩
  · exact ⟨Extension.passesOver_of_ne (by decide), Extension.passesOver_of_ne (by decide),
      fun _ => rfl⟩

theorem fits_sampleEthernet : sampleEthernet.power.Fits where
  type := by decide
  sourcing := by decide
  powered := by decide
  priority := by decide

theorem extensions_eq_sample :
    let info : Info := { organizationTlvs := sampleScript.tlvs }
    sampleBridging.Fits ∧ sampleEthernet.power.Fits ∧
      sampleScript.said.Perm
        (saidBy sampleBridging sampleEthernet sampleEdgeBridging sampleOthers) ∧
      info.bridging = ⟨sampleBridging, []⟩ ∧ info.ethernet = ⟨sampleEthernet, []⟩ ∧
      info.edgeBridging = ⟨sampleEdgeBridging, []⟩ := by
  intro info
  have bridgingFits : sampleBridging.Fits := by
    rw [Bridging.Fits]
    decide
  have perm : sampleScript.said.Perm
      (saidBy sampleBridging sampleEthernet sampleEdgeBridging sampleOthers) := by decide +kernel
  exact ⟨bridgingFits, fits_sampleEthernet, perm,
    extensions_eq_of_perm bridgingFits fits_sampleEthernet passed_sampleOthers perm
      (by decide +kernel) (by decide +kernel) (by decide +kernel) rfl⟩

end Info

end Lldpdu
