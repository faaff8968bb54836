import Lldpdu.Proofs.Extension.Rejection
import Lldpdu.Proofs.Info.Rejection
import Lldpdu.Proofs.Layout
import Mathlib.Data.Nat.Find

/-!
# Rejected values that are lengthened

An error about a value says how long the value is and what length was wanted of it.  That length is
honest: the value is shorter, and every longer value that does not reach it is rejected as well.
And to follow it leads somewhere: a value that is lengthened to just what its error wants, with
whatever octets, over and over, is accepted after a few steps, as many as its place makes demands.
-/

namespace Lldpdu

/-! ## Layouts that read their own length -/

/-- Once the octet that counts the address is there it stays the same, and so does the one that
counts the identifier. -/
theorem ManagementAddress.gradual_layout : layout.Gradual 4 where
  few value := by
    change (demands value).length ≤ 4
    rw [demands]
    split <;> simp
  settled {value wanted} short more := by
    obtain ⟨behind, split⟩ := Layout.exists_demands_eq short
    have reached {length : Nat} (member : length ∈ layout.met value) : length ≤ value.length :=
      Layout.le_of_mem_met member
    change demands value = _ at split
    -- The cases are how many demands are met: none, that of the header, or that of the address too.
    cases met : layout.met value with
    | nil =>
        rw [met] at split
        obtain rfl := (List.cons.inj split).1
        exact List.prefix_append [9] _
    | cons header others =>
        rw [met] at split
        obtain ⟨rfl, tails⟩ := List.cons.inj split
        have inside := reached (met ▸ List.mem_cons_self)
        have n : addressLength (value ++ more) = addressLength value := by
          rw [addressLength, Octets.octet_append_of_lt (by omega), addressLength]
        cases others with
        | nil =>
            obtain rfl := (List.cons.inj tails).1
            change [9, _] <+: 9 :: (addressLength (value ++ more) + 7) :: _
            rw [n]
            exact List.prefix_append [9, _] _
        | cons address others =>
            obtain rfl := (List.cons.inj tails).1
            have inside := reached (met ▸ List.mem_cons_of_mem _ List.mem_cons_self)
            have m : identifierLength (value ++ more) = identifierLength value := by
              rw [identifierLength, n, Octets.octet_append_of_lt (by omega), identifierLength]
            rw [← met]
            apply Layout.met_append_prefix_of_eq short
            change demands (value ++ more) = demands value
            rw [demands, n, m, demands]

/-- Once the octet that counts the identity is there it stays the same. -/
theorem Bridging.gradual_protocolIdentityLayout : protocolIdentityLayout.Gradual 2 where
  few _ := Nat.le_refl 2
  settled {value wanted} short more := by
    obtain ⟨behind, split⟩ := Layout.exists_demands_eq short
    change [1, 1 + (value.octet 0).toNat] = _ at split
    cases met : protocolIdentityLayout.met value with
    | nil =>
        rw [met] at split
        obtain rfl := (List.cons.inj split).1
        exact List.prefix_append [1] _
    | cons header others =>
        rw [met] at split
        obtain ⟨rfl, -⟩ := List.cons.inj split
        have inside : 1 ≤ value.length := Layout.le_of_mem_met (met ▸ List.mem_cons_self)
        rw [← met]
        apply Layout.met_append_prefix_of_eq short
        change [1, 1 + ((value ++ more).octet 0).toNat] = [1, 1 + (value.octet 0).toNat]
        rw [Octets.octet_append_of_lt inside]

/-! ## Places of values -/

/-- Where a value stands: in a TLV of a type, or in one of a subtype of a known extension. -/
inductive Place where
  | tlv (kind : TlvType)
  | extension (known : KnownExtension) (subtype : UInt8)
  deriving DecidableEq, Repr

/-- What a layout asks for, whatever the value means; nothing if there is no layout. -/
def Layout.lengths {α : Type} : Option (Layout α) → Layout Unit
  | none => .anyLength fun _ => ()
  | some layout => layout.map fun _ => ()

theorem Layout.Gradual.lengths {α : Type} {layout : Layout α} {steps : Nat}
    (gradual : layout.Gradual steps) : (Layout.lengths (some layout)).Gradual steps :=
  gradual.map fun _ => ()

theorem Layout.unmet?_lengths {α : Type} (layout? : Option (Layout α)) (value : Octets) :
    (lengths layout?).unmet? value = layout?.bind fun layout => layout.unmet? value := by
  cases layout? <;> rfl

namespace Place

/-- What is asked for at a place. -/
def lengths : Place → Layout Unit
  | .tlv kind => .lengths (Info.layout? kind)
  | .extension .bridging subtype => .lengths (Bridging.layout? subtype)
  | .extension .ethernet subtype => .lengths (Ethernet.layout? subtype)
  | .extension .edgeBridging subtype => .lengths (EdgeBridging.layout? subtype)

/-- The errors that a value costs at a place. -/
def errors (place : Place) (value : Octets) : List FieldError :=
  match place with
  | .tlv kind => (Info.ofTlvs [.ofValue kind value]).errors
  | .extension known subtype =>
      (({ organizationTlvs := [⟨known.oui, subtype, value⟩] } : Info).extension known).errors

/-- The error about a value of the given length, of which another length is wanted. -/
def error (place : Place) (length wanted : Nat) : FieldError :=
  match place with
  | .tlv kind => .tlv kind length wanted
  | .extension known subtype => .organizationTlv known.oui subtype length wanted

/-- The number of times that a value may have to be lengthened. -/
def steps : Place → Nat
  | .tlv .managementAddress => 4
  | .extension .bridging 4 => 2
  | _ => 1

/-- Each value that costs an error is followed by one that begins with it and has just the length
that the error wants. -/
def Lengthening (place : Place) (values : Nat → Octets) : Prop :=
  ∀ i length wanted, place.error length wanted ∈ place.errors (values i) →
    values i <+: values (i + 1) ∧ (values (i + 1)).length = wanted

end Place

/-! ## The errors of a place -/

theorem Layout.error?_decode {α : Type} (layout : Layout α) (value : Octets)
    (error : Nat → FieldError) :
    Decoded.error? ((layout.decode value).mapError error) = (layout.unmet? value).map error := by
  rw [decode]
  cases layout.unmet? value <;> rfl

theorem Info.error?_read_eq_map (t : Tlv) :
    Decoded.error? (read t) = ((layout? t.kind).bind fun layout => layout.unmet? t.value).map
      (.tlv t.kind t.value.length) := by
  rw [read]
  cases layout? t.kind with
  | none => rfl
  | some layout => exact layout.error?_decode t.value _

theorem Extension.errors_decode_singleton {ι σ : Type} (x : Extension ι σ) (subtype : UInt8)
    (value : Octets) :
    (x.decode [⟨x.oui, subtype, value⟩]).errors =
      (((Layout.lengths (x.layout? subtype)).unmet? value).map
        (.organizationTlv x.oui subtype value.length)).toList := by
  let t : OrganizationTlv := ⟨x.oui, subtype, value⟩
  have read : x.reading? t = (x.layout? subtype).map fun layout =>
      (layout.decode value).mapError (.organizationTlv x.oui subtype value.length) :=
    reading?_eq_read? rfl
  rw [decode_eq_gather, Decoded.filterMap_cons_eq, read, Layout.unmet?_lengths]
  cases x.layout? subtype with
  | none => rfl
  | some layout =>
      change ([_].filterMap Decoded.error?) = _
      rw [Decoded.filterMap_cons_eq, Layout.error?_decode]
      exact List.append_nil _

namespace Place

/-- A value costs an error exactly if it falls short of a length that is asked for at its place. -/
theorem errors_eq (place : Place) (value : Octets) :
    place.errors value =
      ((place.lengths.unmet? value).map (place.error value.length)).toList := by
  cases place with
  | tlv kind =>
      change ([Info.read (.ofValue kind value)].filterMap Decoded.error?) = _
      rw [Decoded.filterMap_cons_eq, List.filterMap_nil, List.append_nil, Info.error?_read_eq_map,
        lengths, Layout.unmet?_lengths]
      rfl
  | extension known subtype =>
      cases known with
      | bridging => exact Bridging.extension.errors_decode_singleton subtype value
      | ethernet => exact Ethernet.extension.errors_decode_singleton subtype value
      | edgeBridging => exact EdgeBridging.extension.errors_decode_singleton subtype value

/-- Every place makes its demands gradually, and only so many of them. -/
theorem gradual_lengths : (place : Place) → place.lengths.Gradual place.steps
  | .tlv kind => by
      rw [lengths]
      unfold Info.layout?
      split
      · exact ((Layout.gradual_anyLength _ _).map _).lengths
      · exact ((Layout.gradual_anyLength _ _).map _).lengths
      · exact ((Layout.gradual_anyLength _ _).map _).lengths
      · exact ((Layout.gradual_atLeast 4 _).map _).lengths
      · exact (ManagementAddress.gradual_layout.map _).lengths
      · exact ((Layout.gradual_atLeast 4 _).map _).lengths
      · exact Layout.gradual_anyLength _ _
  | .extension .bridging subtype => by
      rw [lengths]
      unfold Bridging.layout?
      split
      · exact (Layout.gradual_atLeast 2 _).lengths
      · exact ((Layout.gradual_atLeast 3 _).map _).lengths
      · exact ((Layout.gradual_atLeast 2 _).map _).lengths
      · exact (Bridging.gradual_protocolIdentityLayout.map _).lengths
      · exact (Layout.gradual_atLeast 4 _).lengths
      · exact (Layout.gradual_atLeast 2 _).lengths
      · exact ((Layout.gradual_atLeast 5 _).map _).lengths
      · exact Layout.gradual_anyLength _ _
  | .extension .ethernet subtype => by
      rw [lengths]
      unfold Ethernet.layout?
      split
      · exact ((Layout.gradual_atLeast 5 _).map _).lengths
      · exact ((Layout.gradual_atLeast 3 _).map _).lengths
      · exact ((Layout.gradual_atLeast 5 _).map _).lengths
      · exact (Layout.gradual_atLeast 2 _).lengths
      · exact Layout.gradual_anyLength _ _
  | .extension .edgeBridging subtype => by
      rw [lengths]
      unfold EdgeBridging.layout?
      split
      · exact (Layout.gradual_atLeast 9 _).lengths
      · exact Layout.gradual_anyLength _ _

variable {place : Place} {value : Octets} {wanted : Nat}

theorem errors_of_unmet? (short : place.lengths.unmet? value = some wanted) :
    place.errors value = [place.error value.length wanted] := by
  rw [errors_eq, short]
  rfl

theorem errors_eq_nil_iff : place.errors value = [] ↔ place.lengths.unmet? value = none := by
  rw [errors_eq, Option.toList_eq_nil_iff, Option.map_eq_none_iff]

/-- The length that is wanted of a rejected value is more than the value has, and is wanted of every
longer value that does not reach it either. -/
theorem errors_eq_nil_or (place : Place) (value : Octets) :
    place.errors value = [] ∨ ∃ wanted, value.length < wanted ∧
      place.errors value = [place.error value.length wanted] ∧
      ∀ longer, value <+: longer → longer.length < wanted →
        place.errors longer = [place.error longer.length wanted] := by
  cases short : place.lengths.unmet? value with
  | none => exact .inl (errors_eq_nil_iff.mpr short)
  | some wanted =>
      refine .inr ⟨wanted, Layout.lt_of_unmet?_eq_some short, errors_of_unmet? short, ?_⟩
      rintro longer ⟨more, rfl⟩ still
      exact errors_of_unmet? (place.gradual_lengths.unmet?_append short still)

/-- A value that is lengthened over and over costs no error in the end. -/
theorem Lengthening.exists_errors_eq_nil {values : Nat → Octets}
    (lengthening : place.Lengthening values) : ∃ i ≤ place.steps, place.errors (values i) = [] := by
  have follows : ∀ i wanted, place.lengths.unmet? (values i) = some wanted →
      values i <+: values (i + 1) ∧ (values (i + 1)).length = wanted := by
    intro i wanted short
    apply lengthening i (values i).length wanted
    rw [errors_of_unmet? short]
    exact List.mem_singleton_self _
  obtain ⟨i, le, met⟩ := place.gradual_lengths.exists_unmet?_eq_none follows
  exact ⟨i, le, errors_eq_nil_iff.mpr met⟩

end Place

/-! ## The errors of a list -/

/-- The errors about TLVs are those of their values, each at its place. -/
theorem Info.errors_ofTlvs_eq_flatMap (tlvs : List Tlv) :
    (ofTlvs tlvs).errors = tlvs.flatMap fun t => (Place.tlv t.kind).errors t.value := by
  have alone (t : Tlv) : (Place.tlv t.kind).errors t.value = t.rejection?.toList :=
    errors_singleton (.ofValue t.kind t.value)
  simp only [alone, errors_ofTlvs, List.filterMap_eq_flatMap_toList]

/-- The errors of an extension are those of the payloads of its organization. -/
theorem KnownExtension.errors_eq_flatMap (known : KnownExtension) (info : Info) :
    (info.extension known).errors = (organizationTlvsOf known.oui info.organizationTlvs).flatMap
      fun t => (Place.extension known t.subtype).errors t.payload := by
  have alone (t : OrganizationTlv) (own : t.oui = known.oui) :
      (Place.extension known t.subtype).errors t.payload =
        (t.rejection? known.oui known.least?).toList := by
    rw [Place.errors, errors_extension, Decoded.filterMap_cons_eq, List.filterMap_nil,
      List.append_nil, ← own]
  rw [errors_extension, organizationTlvsOf]
  induction info.organizationTlvs with
  | nil => rfl
  | cons t tlvs ih =>
      rw [Decoded.filterMap_cons_eq, ih]
      by_cases own : t.oui = known.oui
      · rw [List.filter_cons_of_pos (by simpa using own), List.flatMap_cons, alone t own]
      · rw [List.filter_cons_of_neg (by simpa using own), OrganizationTlv.rejection?, if_neg own,
          Option.toList_none, List.nil_append]

/-! ## Lengths that are wanted -/

/-- The lengths that errors ask for are honest, and lead to a value that is accepted.  Every error
of a list of TLVs, or of an extension, is the error of one value at its place.  There a value costs
no error, or just one, which tells how long the value is and wants more than that, and which all
longer values cost too that do not reach what is wanted.  And a value that is lengthened to what its
error wants, with whatever octets and over and over, costs no error after the steps that its place
takes at the most: four for a management address, two for a protocol identity, and one anywhere
else. -/
theorem wanted_lengths_honest_and_reached :
    (∀ tlvs : List Tlv,
      (Info.ofTlvs tlvs).errors = tlvs.flatMap fun t => (Place.tlv t.kind).errors t.value) ∧
      (∀ (known : KnownExtension) (info : Info),
        (info.extension known).errors =
          (organizationTlvsOf known.oui info.organizationTlvs).flatMap
            fun t => (Place.extension known t.subtype).errors t.payload) ∧
      ∀ place : Place,
        (∀ value, place.errors value = [] ∨ ∃ wanted, value.length < wanted ∧
          place.errors value = [place.error value.length wanted] ∧
          ∀ longer, value <+: longer → longer.length < wanted →
            place.errors longer = [place.error longer.length wanted]) ∧
        ∀ values : Nat → Octets, place.Lengthening values →
          ∃ i ≤ place.steps, place.errors (values i) = [] ∧
            ∀ j < i, place.errors (values j) ≠ [] := by
  refine ⟨Info.errors_ofTlvs_eq_flatMap, KnownExtension.errors_eq_flatMap, ?_⟩
  intro place
  refine ⟨place.errors_eq_nil_or, ?_⟩
  intro values lengthening
  obtain ⟨bound, le, accepted⟩ := lengthening.exists_errors_eq_nil
  -- The first value that is accepted is not behind the one that the bound speaks of.
  have some : ∃ i, place.errors (values i) = [] := ⟨bound, accepted⟩
  exact ⟨Nat.find some, Nat.le_trans (Nat.find_min' some accepted) le, Nat.find_spec some,
    fun j earlier => Nat.find_min some earlier⟩

/-- A management address that takes all four steps: one to its header, one to where its address
ends, and two to its object identifier, of which two octets are counted. -/
theorem wanted_lengths_of_managementAddress :
    let place : Place := .tlv .managementAddress
    let whole : Octets := [5, 1, 10, 0, 0, 1, 2, 0, 0, 0, 7, 2, 0xaa, 0xbb, 49, 46]
    let lengths : Nat → Nat := fun i => [0, 9, 12, 13].getD i 16
    let values : Nat → Octets := fun i => whole.take (lengths i)
    place.Lengthening values ∧
      (∀ j < 4, place.errors (values j) = [.tlv .managementAddress (lengths j) (lengths (j + 1))]) ∧
      ∃ i ≤ 4, place.errors (values i) = [] ∧ ∀ j < i, place.errors (values j) ≠ [] := by
  intro place whole lengths values
  have rejected : ∀ j < 4,
      place.errors (values j) = [place.error (lengths j) (lengths (j + 1))] := by decide +kernel
  have lengthening : place.Lengthening values := by
    intro i length wanted costs
    rcases Nat.lt_or_ge i 4 with early | late
    · rw [rejected i early, List.mem_singleton] at costs
      obtain rfl : wanted = lengths (i + 1) := (FieldError.tlv.inj costs).2.2
      have extended : ∀ j < 4, values j <+: values (j + 1) ∧
          (values (j + 1)).length = lengths (j + 1) := by decide +kernel
      exact extended i early
    · have isWhole : lengths i = 16 := by
        rw [show lengths i = [0, 9, 12, 13].getD i 16 from rfl, List.getD_eq_getElem?_getD,
          List.getElem?_eq_none late, Option.getD_none]
      have accepted : place.errors (values i) = [] := by
        simp only [values, isWhole]
        decide +kernel
      rw [accepted] at costs
      contradiction
  exact ⟨lengthening, rejected, (wanted_lengths_honest_and_reached.2.2 place).2 values lengthening⟩

end Lldpdu
