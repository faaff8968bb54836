import Lldpdu.Proofs.Extension.RoundTrip

/-!
# TLVs that an extension rejects

Each subtype of an extension asks for a least length of the payload.  A TLV of the organization
whose payload is shorter is rejected, and costs exactly one error; TLVs of other organizations and
of other subtypes cost none.  Nor does a protocol identity of no octets, which is passed over like
them.
-/

namespace Lldpdu

/-! ## Least lengths -/

/-- The least length of a payload, for each subtype with a layout.  A protocol identity has to have
the octets that its first octet counts. -/
def Bridging.least? : UInt8 → Octets → Option Nat
  | 1, _ => some 2
  | 2, _ => some 3
  | 3, _ => some 2
  | 4, payload => some (1 + (payload.octet 0).toNat)
  | 5, _ => some 4
  | 6, _ => some 2
  | 7, _ => some 5
  | _, _ => none

/-- The least length of a payload, for each subtype with a layout. -/
def Ethernet.least? : UInt8 → Octets → Option Nat
  | 1, _ => some 5
  | 2, _ => some 3
  | 3, _ => some 5
  | 4, _ => some 2
  | _, _ => none

/-- The least length of a payload, for each subtype with a layout. -/
def EdgeBridging.least? : UInt8 → Octets → Option Nat
  | 0, _ => some 9
  | _, _ => none

namespace KnownExtension

/-- The organization that defines the extension. -/
def oui : KnownExtension → Oui
  | .bridging => .ieee8021
  | .ethernet => .ieee8023
  | .edgeBridging => .ieee8021Qbg

/-- The least length of a payload, for the subtypes that have a layout. -/
def least? : KnownExtension → UInt8 → Octets → Option Nat
  | .bridging => Bridging.least?
  | .ethernet => Ethernet.least?
  | .edgeBridging => EdgeBridging.least?

/-- The extension takes nothing from a TLV and has nothing against it: it is of another organization
or of a subtype without a layout, or it is a protocol identity of no octets. -/
def Disregards (known : KnownExtension) (t : OrganizationTlv) : Prop :=
  (t.oui ≠ known.oui ∨ known.least? t.subtype t.payload = none) ∨
    known = .bridging ∧ t.subtype = 4 ∧ t.payload.head? = some 0

end KnownExtension

/-- The error that a TLV costs at an extension that asks for the given least lengths. -/
def OrganizationTlv.rejection? (oui : Oui) (least? : UInt8 → Octets → Option Nat)
    (t : OrganizationTlv) : Option FieldError :=
  if t.oui = oui then
    (least? t.subtype t.payload).bind fun least =>
      if t.payload.length < least then
        some (.organizationTlv t.oui t.subtype t.payload.length least)
      else none
  else none

/-- The errors of a report. -/
def ExtensionReport.errors : ExtensionReport → List FieldError
  | .bridging report => report.errors
  | .ethernet report => report.errors
  | .edgeBridging report => report.errors

namespace Layout

variable {α : Type}

/-- The demands of the layout come to the given least length. -/
def Needs (layout : Layout α) (least : Octets → Nat) : Prop :=
  ∀ value, layout.unmet? value = if value.length < least value then some (least value) else none

theorem needs_atLeast (length : Nat) (read : Octets → α) :
    (atLeast length read).Needs fun _ => length := by
  intro value
  by_cases short : value.length < length <;> simp [unmet?, atLeast, short]

theorem Needs.map {β : Type} {layout : Layout α} {least : Octets → Nat} (needs : layout.Needs least)
    (f : α → β) : (layout.map f).Needs least :=
  needs

end Layout

theorem Bridging.needs_protocolIdentityLayout :
    protocolIdentityLayout.Needs fun payload => 1 + (payload.octet 0).toNat := by
  intro payload
  cases payload with
  | nil => rfl
  | cons count octets =>
      let payload : Octets := count :: octets
      have some : ¬ payload.length < 1 := by simp [payload]
      change [1, 1 + (payload.octet 0).toNat].find? (fun wanted => payload.length < wanted) = _
      by_cases short : payload.length < 1 + (payload.octet 0).toNat
      · rw [List.find?_cons_of_neg (by simp [payload]),
          List.find?_cons_of_pos (by simpa using short), if_pos short]
      · rw [List.find?_cons_of_neg (by simp [payload]),
          List.find?_cons_of_neg (by simpa using short), if_neg short]
        rfl

/-! ## Readings -/

namespace Extension

variable {ι σ : Type}

/-- The payloads of a subtype have the given least length, and there is a layout for exactly the
subtypes that have one. -/
def Asks (x : Extension ι σ) (least? : UInt8 → Octets → Option Nat) : Prop :=
  ∀ subtype payload, (x.layout? subtype).map (fun layout => layout.unmet? payload) =
    (least? subtype payload).map fun least => if payload.length < least then some least else none

variable {x : Extension ι σ} {least? : UInt8 → Octets → Option Nat}

/-- A TLV costs an error exactly if its payload is shorter than its subtype asks. -/
theorem error?_reading? (asks : x.Asks least?) (t : OrganizationTlv) :
    (x.reading? t).bind Decoded.error? = t.rejection? x.oui least? := by
  rw [OrganizationTlv.rejection?]
  by_cases own : t.oui = x.oui
  · rw [reading?_eq_read? own, if_pos own, read?]
    have demand := asks t.subtype t.payload
    cases known : x.layout? t.subtype with
    | none =>
        rw [known, Option.map_none, eq_comm, Option.map_eq_none_iff] at demand
        rw [demand]
        rfl
    | some layout =>
        rw [known, Option.map_some, eq_comm, Option.map_eq_some_iff] at demand
        rcases demand with ⟨least, asked, unmet⟩
        rw [asked, Option.map_some, Option.bind_some, Option.bind_some, Layout.decode, ← unmet]
        by_cases short : t.payload.length < least
        · rw [if_pos short, if_pos short]
          rfl
        · rw [if_neg short, if_neg short]
          rfl
  · rw [if_neg own, reading?_eq_none (passesOver_of_ne own)]
    rfl

/-- The errors are those of the rejected TLVs, in order. -/
theorem errors_decode (asks : x.Asks least?) (tlvs : List OrganizationTlv) :
    (x.decode tlvs).errors = tlvs.filterMap (OrganizationTlv.rejection? x.oui least?) := by
  rw [decode_eq_gather]
  change (tlvs.filterMap x.reading?).filterMap Decoded.error? = _
  rw [List.filterMap_filterMap]
  exact List.filterMap_congr fun t _ => error?_reading? asks t

theorem passesOver_of_least? (asks : x.Asks least?) {t : OrganizationTlv}
    (unasked : t.oui ≠ x.oui ∨ least? t.subtype t.payload = none) : x.PassesOver t := by
  rcases unasked with foreign | without
  · exact passesOver_of_ne foreign
  · have demand := asks t.subtype t.payload
    rw [without, Option.map_none, Option.map_eq_none_iff] at demand
    exact fun _ => demand

/-- A TLV that is passed over may be left out. -/
theorem decode_of_passesOver {t : OrganizationTlv} (passed : x.PassesOver t)
    (before behind : List OrganizationTlv) :
    x.decode (before ++ t :: behind) = x.decode (before ++ behind) := by
  rw [decode_eq_gather, decode_eq_gather, List.filterMap_append, List.filterMap_append,
    List.filterMap_cons_none (reading?_eq_none passed)]

/-- A TLV whose item leaves every record as it is may be left out. -/
theorem decode_of_idle {t : OrganizationTlv} {item : ι} (said : x.reading? t = some (.ok item))
    (idle : ∀ r, x.add r item = r) (before behind : List OrganizationTlv) :
    x.decode (before ++ t :: behind) = x.decode (before ++ behind) := by
  rw [decode_eq_gather, decode_eq_gather, List.filterMap_append, List.filterMap_append,
    List.filterMap_cons_some said]
  simp [Decoded.gather, List.filterMap_cons, Decoded.item?, Decoded.error?, idle]

end Extension

theorem Bridging.asks : Bridging.extension.Asks Bridging.least? := by
  intro subtype payload
  change (layout? subtype).map _ = _
  unfold layout?
  split
  · exact congrArg some (Layout.needs_atLeast 2 _ payload)
  · exact congrArg some ((Layout.needs_atLeast 3 _).map _ payload)
  · exact congrArg some ((Layout.needs_atLeast 2 _).map _ payload)
  · exact congrArg some (needs_protocolIdentityLayout.map _ payload)
  · exact congrArg some (Layout.needs_atLeast 4 _ payload)
  · exact congrArg some (Layout.needs_atLeast 2 _ payload)
  · exact congrArg some ((Layout.needs_atLeast 5 _).map _ payload)
  · unfold least?
    split
    case h_8 => rfl
    all_goals contradiction

theorem Ethernet.asks : Ethernet.extension.Asks Ethernet.least? := by
  intro subtype payload
  change (layout? subtype).map _ = _
  unfold layout?
  split
  · exact congrArg some ((Layout.needs_atLeast 5 _).map _ payload)
  · exact congrArg some ((Layout.needs_atLeast 3 _).map _ payload)
  · exact congrArg some ((Layout.needs_atLeast 5 _).map _ payload)
  · exact congrArg some (Layout.needs_atLeast 2 _ payload)
  · unfold least?
    split
    case h_5 => rfl
    all_goals contradiction

theorem EdgeBridging.asks : EdgeBridging.extension.Asks EdgeBridging.least? := by
  intro subtype payload
  change (layout? subtype).map _ = _
  unfold layout?
  split
  · exact congrArg some (Layout.needs_atLeast 9 _ payload)
  · unfold least?
    split
    · contradiction
    · rfl

/-- A protocol identity of no octets is read as such, whatever follows its length octet. -/
theorem Bridging.reading?_of_empty {t : OrganizationTlv} (own : t.oui = extension.oui)
    (isIdentity : t.subtype = 4) (empty : t.payload.head? = some 0) :
    extension.reading? t = some (.ok (.protocolIdentity [])) := by
  rcases t with ⟨oui, subtype, payload⟩
  subst isIdentity
  rcases List.head?_eq_some_iff.mp empty with ⟨more, rfl⟩
  rw [Extension.reading?_eq_read? own]
  apply Extension.read?_eq_ok rfl
  rw [Layout.decode_map, Layout.decode, needs_protocolIdentityLayout,
    if_neg (by simp [Octets.octet])]
  rfl

/-! ## The known extensions -/

namespace KnownExtension

/-- The errors of an extension are those of its rejected TLVs, in order. -/
theorem errors_extension (known : KnownExtension) (info : Info) :
    (info.extension known).errors =
      info.organizationTlvs.filterMap (OrganizationTlv.rejection? known.oui known.least?) := by
  cases known with
  | bridging => exact Extension.errors_decode Bridging.asks _
  | ethernet => exact Extension.errors_decode Ethernet.asks _
  | edgeBridging => exact Extension.errors_decode EdgeBridging.asks _

/-- A TLV that an extension disregards may be left out. -/
theorem extension_of_disregards {known : KnownExtension} {t : OrganizationTlv}
    (disregarded : known.Disregards t) (info : Info) (before behind : List OrganizationTlv) :
    { info with organizationTlvs := before ++ t :: behind }.extension known =
      { info with organizationTlvs := before ++ behind }.extension known := by
  rcases disregarded with unasked | ⟨rfl, isIdentity, empty⟩
  · cases known with
    | bridging =>
        exact congrArg ExtensionReport.bridging (Extension.decode_of_passesOver
          (Extension.passesOver_of_least? Bridging.asks unasked) before behind)
    | ethernet =>
        exact congrArg ExtensionReport.ethernet (Extension.decode_of_passesOver
          (Extension.passesOver_of_least? Ethernet.asks unasked) before behind)
    | edgeBridging =>
        exact congrArg ExtensionReport.edgeBridging (Extension.decode_of_passesOver
          (Extension.passesOver_of_least? EdgeBridging.asks unasked) before behind)
  · apply congrArg ExtensionReport.bridging
    by_cases own : t.oui = Bridging.extension.oui
    · exact Extension.decode_of_idle (Bridging.reading?_of_empty own isIdentity empty)
        (fun _ => rfl) before behind
    · exact Extension.decode_of_passesOver (Extension.passesOver_of_ne own) before behind

end KnownExtension

end Lldpdu
