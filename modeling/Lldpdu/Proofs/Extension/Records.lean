import Lldpdu.Proofs.Extension.Fields

/-!
# What the Ethernet extensions hold of a list of TLVs

The records of the Ethernet extension and of edge virtual bridging are told by one TLV each, the
last one of the organization and of the record's subtype that is long enough, and replace each other
whole.  So a short form of the power leaves nothing of a long form before it, while a TLV that tells
nothing leaves all records as they are.
-/

namespace Lldpdu

open OrganizationTlv (told)

/-! ## The last word -/

/-- The last TLV that tells something has the last word. -/
theorem OrganizationTlv.getLast?_told {α : Type} {oui : UInt32} {subtype : UInt8}
    {tell? : Octets → Option α} {t : OrganizationTlv} {a : α}
    (tells : told? oui subtype tell? t = some a) (before : List OrganizationTlv)
    {behind : List OrganizationTlv}
    (silent : ∀ later ∈ behind, told? oui subtype tell? later = none) :
    (told oui subtype tell? (before ++ t :: behind)).getLast? = some a := by
  rw [told, List.filterMap_append, List.filterMap_cons_some tells,
    List.filterMap_eq_nil_iff.mpr silent, List.getLast?_append, List.getLast?_singleton,
    Option.some_or]

/-! ## Power -/

namespace PowerViaMdi

/-- The power that the first three octets of a payload tell. -/
def ofBasic (flags pair powerClass : UInt8) : PowerViaMdi where
  isSourcingPort := flags.toNat.testBit 0
  supported := flags.toNat.testBit 1
  enabled := flags.toNat.testBit 2
  pairsControllable := flags.toNat.testBit 3
  pair
  powerClass

/-- The power allocated, of which the first octet is given; none if the second one is missing. -/
def allocatedOf (high : UInt8) : Octets → UInt16
  | [] => 0
  | low :: _ => Octets.word16 high low

/-- The power with what the octets behind tell: the type and the source in the high half of one, the
priority in the low half of the next, the power requested, and the power allocated. -/
def withExtended (power : PowerViaMdi) (kind priority a b c : UInt8) (more : Octets) :
    PowerViaMdi :=
  { power with
    type := ⟨kind / 64⟩
    source := ⟨if kind / 64 % 2 = 1 then kind / 16 % 4 + 128 else kind / 16 % 4⟩
    priority := ⟨priority % 16⟩
    requested := Octets.word16 a b
    allocated := allocatedOf c more }

/-- The power in a payload, which has a short form and a long one. -/
def of? : Octets → Option PowerViaMdi
  | flags :: pair :: powerClass :: kind :: priority :: a :: b :: c :: more =>
      some ((ofBasic flags pair powerClass).withExtended kind priority a b c more)
  | flags :: pair :: powerClass :: _ => some (ofBasic flags pair powerClass)
  | _ => none

/-- The fields of the long form are zero. -/
structure Short (power : PowerViaMdi) : Prop where
  type : power.type.raw = 0
  source : power.source.raw = 0
  priority : power.priority.raw = 0
  requested : power.requested = 0
  allocated : power.allocated = 0

theorem of?_eq_some_of_short {payload : Octets} (basic : 3 ≤ payload.length)
    (short : payload.length < 8) : ∃ power, of? payload = some power ∧ power.Short := by
  match payload with
  | [] | [_] | [_, _] => simp at basic
  | [flags, pair, powerClass] | [flags, pair, powerClass, _] | [flags, pair, powerClass, _, _]
  | [flags, pair, powerClass, _, _, _] | [flags, pair, powerClass, _, _, _, _] =>
      exact ⟨ofBasic flags pair powerClass, rfl, rfl, rfl, rfl, rfl, rfl⟩
  | _ :: _ :: _ :: _ :: _ :: _ :: _ :: _ :: _ =>
      simp only [List.length_cons] at short
      omega

theorem of?_eq_none {payload : Octets} (short : payload.length < 3) : of? payload = none := by
  match payload with
  | [] | [_] | [_, _] => rfl
  | _ :: _ :: _ :: _ =>
      simp only [List.length_cons] at short
      omega

theorem type_eq (kind : UInt8) : kind >>> 6 = kind / 64 := by
  apply UInt8.toNat_inj.mp
  rw [UInt8.toNat_shiftRight, UInt8.toNat_div]
  exact Nat.shiftRight_eq_div_pow _ 6

theorem source_eq (kind : UInt8) : (kind >>> 4) &&& 3 = kind / 16 % 4 := by
  apply UInt8.toNat_inj.mp
  rw [UInt8.toNat_and, UInt8.toNat_shiftRight, UInt8.toNat_mod, UInt8.toNat_div]
  change kind.toNat >>> 4 &&& 2 ^ 2 - 1 = kind.toNat / 2 ^ 4 % 2 ^ 2
  rw [Nat.and_two_pow_sub_one_eq_mod, Nat.shiftRight_eq_div_pow]

theorem priority_eq (priority : UInt8) : priority &&& 15 = priority % 16 := by
  apply UInt8.toNat_inj.mp
  rw [UInt8.toNat_and, UInt8.toNat_mod]
  exact Nat.and_two_pow_sub_one_eq_mod _ 4

/-- The odd types draw power, and their sources are moved up. -/
theorem ofBits_eq (kind bits : UInt8) :
    PowerSource.ofBits ⟨kind⟩ bits = ⟨if kind % 2 = 1 then bits + 128 else bits⟩ := by
  have odd : kind % 2 = 1 ↔ kind.toNat % 2 = 1 := by
    rw [← UInt8.toNat_inj, UInt8.toNat_mod]
    rfl
  rw [PowerSource.ofBits, PowerType.isSourcing, Nat.testBit_zero]
  by_cases isOdd : kind.toNat % 2 = 1
  · rw [if_pos (odd.mpr isOdd), decide_eq_true isOdd]
    rfl
  · rw [if_neg (odd.not.mpr isOdd), decide_eq_false isOdd]
    rfl

theorem extend_basic (flags pair powerClass kind priority a b c : UInt8) (more : Octets) :
    let payload : Octets := flags :: pair :: powerClass :: kind :: priority :: a :: b :: c :: more
    (basic payload).extend payload =
      (ofBasic flags pair powerClass).withExtended kind priority a b c more := by
  intro payload
  have allocated : (if 9 ≤ payload.length then payload.u16 7 else 0) = allocatedOf c more := by
    cases more with
    | nil => rfl
    | cons d more =>
        rw [if_pos (by simp [payload]), allocatedOf, ← Octets.u16_cons_cons c d more]
        rfl
  rw [extend, allocated, withExtended, ← type_eq, ← source_eq, ← priority_eq, ← ofBits_eq,
    ← Octets.u16_cons_cons a b (c :: more)]
  rfl

theorem read_layout {payload : Octets} (long : 8 ≤ payload.length) :
    layout.read payload = (basic payload).extend payload :=
  if_pos long

end PowerViaMdi

/-! ## Ethernet -/

namespace Ethernet

/-- The physical layer in a payload: flags, of which the lowest two count, the modes advertised, and
the attachment unit. -/
def macPhyOf? : Octets → Option MacPhy
  | flags :: a :: b :: c :: d :: _ => some
      { autonegotiationSupported := flags.toNat.testBit 0
        autonegotiationEnabled := flags.toNat.testBit 1
        advertised := ⟨(Octets.word16 a b).toBitVec⟩
        mauType := ⟨Octets.word16 c d⟩ }
  | _ => none

/-- The link aggregation in a payload: the status, then the port. -/
def linkAggregationOf? : Octets → Option LinkAggregation
  | status :: a :: b :: c :: d :: _ => some { status, portId := Octets.word32 a b c d }
  | _ => none

/-- What a record holds of the TLVs that it is decoded from. -/
structure Holds (r : Ethernet) (tlvs : List OrganizationTlv) : Prop where
  macPhy : r.macPhy = (told 0x00120f 1 macPhyOf? tlvs).getLast?.getD {}
  power : r.power = (told 0x00120f 2 PowerViaMdi.of? tlvs).getLast?.getD {}
  linkAggregation :
    r.linkAggregation = (told 0x00120f 3 linkAggregationOf? tlvs).getLast?.getD {}
  maxFrameSize : r.maxFrameSize = (told 0x00120f 4 Octets.leading16? tlvs).getLast?.getD 0

theorem tells_macPhyLayout : (macPhyLayout.map .macPhy).Tells Item.macPhy? macPhyOf? := by
  intro value
  match value with
  | [] | [_] | [_, _] | [_, _, _] | [_, _, _, _] => rfl
  | flags :: a :: b :: c :: d :: more =>
      change ((Layout.atLeast 5 _).decode _).toOption.bind _ = _
      rw [Layout.toOption_decode_atLeast (by simp), macPhyOf?,
        ← Octets.u16_cons_cons a b (c :: d :: more), ← Octets.u16_cons_cons c d more]
      rfl

theorem tells_powerLayout :
    (PowerViaMdi.layout.map .power).Tells Item.power? PowerViaMdi.of? := by
  intro value
  match value with
  | [] | [_] | [_, _] | [_, _, _] | [_, _, _, _] | [_, _, _, _, _] | [_, _, _, _, _, _]
  | [_, _, _, _, _, _, _] => rfl
  | flags :: pair :: powerClass :: kind :: priority :: a :: b :: c :: more =>
      change ((Layout.atLeast 3 _).decode _).toOption.bind _ = _
      rw [Layout.toOption_decode_atLeast (by simp), PowerViaMdi.of?, ← PowerViaMdi.extend_basic,
        ← PowerViaMdi.read_layout (by simp)]
      rfl

theorem tells_linkAggregationLayout :
    (linkAggregationLayout.map .linkAggregation).Tells Item.linkAggregation?
      linkAggregationOf? := by
  intro value
  match value with
  | [] | [_] | [_, _] | [_, _, _] | [_, _, _, _] => rfl
  | status :: a :: b :: c :: d :: more =>
      change ((Layout.atLeast 5 _).decode _).toOption.bind _ = _
      rw [Layout.toOption_decode_atLeast (by simp), linkAggregationOf?,
        ← Octets.u32_cons_cons_cons_cons a b c d more]
      rfl

theorem holds_decode (tlvs : List OrganizationTlv) : Holds (extension.decode tlvs).value tlvs := by
  have value : (extension.decode tlvs).value = ofItems (tlvs.filterMap extension.said?) :=
    (Extension.value_decode extension tlvs).trans (foldl_add _)
  rw [value]
  exact
    { macPhy := congrArg (fun said => said.getLast?.getD {})
        (keyed.filterMap_said? (fun _ _ => Item.subtype_of_macPhy?) rfl tells_macPhyLayout tlvs)
      power := congrArg (fun said => said.getLast?.getD {})
        (keyed.filterMap_said? (fun _ _ => Item.subtype_of_power?) rfl tells_powerLayout tlvs)
      linkAggregation := congrArg (fun said => said.getLast?.getD {})
        (keyed.filterMap_said? (fun _ _ => Item.subtype_of_linkAggregation?) rfl
          tells_linkAggregationLayout tlvs)
      maxFrameSize := congrArg (fun said => said.getLast?.getD 0)
        (keyed.filterMap_said? (fun _ _ => Item.subtype_of_maxFrameSize?) rfl
          (Layout.tells_leading16 fun _ => rfl) tlvs) }

/-- A short form of the power puts the fields of the long form back, if no later TLV tells the power
again. -/
theorem short_power_decode {t : OrganizationTlv} (own : t.oui.raw = 0x00120f)
    (isPower : t.subtype = 2) (basic : 3 ≤ t.payload.length) (short : t.payload.length < 8)
    (before : List OrganizationTlv) {behind : List OrganizationTlv}
    (last : ∀ later ∈ behind,
      later.oui.raw = 0x00120f → later.subtype = 2 → later.payload.length < 3) :
    (extension.decode (before ++ t :: behind)).value.power.Short := by
  obtain ⟨power, isShortForm, isShort⟩ := PowerViaMdi.of?_eq_some_of_short basic short
  have tells : OrganizationTlv.told? 0x00120f 2 PowerViaMdi.of? t = some power := by
    rw [OrganizationTlv.told?, if_pos ⟨own, isPower⟩, isShortForm]
  have silent : ∀ later ∈ behind,
      OrganizationTlv.told? 0x00120f 2 PowerViaMdi.of? later = none := by
    intro later member
    rw [OrganizationTlv.told?, ite_eq_right_iff]
    rintro ⟨isOwn, isPower⟩
    exact PowerViaMdi.of?_eq_none (last later member isOwn isPower)
  rw [(holds_decode _).power, OrganizationTlv.getLast?_told tells before silent]
  exact isShort

theorem value_decode_of_takesNothing {t : OrganizationTlv}
    (nothing : KnownExtension.ethernet.TakesNothing t) (before behind : List OrganizationTlv) :
    (extension.decode (before ++ t :: behind)).value =
      (extension.decode (before ++ behind)).value := by
  apply Extension.value_decode_insert asks _ before behind
  exact nothing.imp_left fun disregarded => disregarded.resolve_right (by simp)

end Ethernet

/-! ## Edge bridging -/

namespace EdgeBridging

/-- The capabilities in a word: its five low bits, the lowest one first. -/
def capabilitiesOf (word : UInt16) : FlagSet EdgeCapability :=
  ⟨.ofBoolListLE [word.toNat.testBit 0, word.toNat.testBit 1, word.toNat.testBit 2,
    word.toNat.testBit 3, word.toNat.testBit 4]⟩

/-- The settings in a payload: the capabilities supported and those enabled, the numbers of
interfaces supported and configured, and the exponent of the timer. -/
def settingsOf? : Octets → Option Settings
  | a :: b :: c :: d :: e :: f :: g :: h :: timerExponent :: _ => some
      { supported := capabilitiesOf (Octets.word16 a b)
        enabled := capabilitiesOf (Octets.word16 c d)
        supportedInterfaces := Octets.word16 e f
        configuredInterfaces := Octets.word16 g h
        timerExponent }
  | _ => none

/-- What a record holds of the TLVs that it is decoded from. -/
structure Holds (r : EdgeBridging) (tlvs : List OrganizationTlv) : Prop where
  settings : r.settings = (told 0x0013bf 0 settingsOf? tlvs).getLast?.getD {}

theorem capabilitiesOf_eq (word : UInt16) : capabilitiesOf word = .ofWord word := by
  rw [capabilitiesOf, FlagSet.ofWord, FlagSet.mk.injEq]
  apply BitVec.eq_of_getLsbD_eq
  intro i inside
  change i < 5 at inside
  change _ = (BitVec.setWidth 5 word.toBitVec).getLsbD i
  rw [BitVec.getLsbD_setWidth, decide_eq_true inside, Bool.true_and,
    FlagSet.getLsbD_ofBoolListLE]
  obtain rfl | rfl | rfl | rfl | rfl : i = 0 ∨ i = 1 ∨ i = 2 ∨ i = 3 ∨ i = 4 := by omega
  all_goals rfl

theorem tells_settingsLayout : settingsLayout.Tells some settingsOf? := by
  intro value
  match value with
  | [] | [_] | [_, _] | [_, _, _] | [_, _, _, _] | [_, _, _, _, _] | [_, _, _, _, _, _]
  | [_, _, _, _, _, _, _] | [_, _, _, _, _, _, _, _] => rfl
  | a :: b :: c :: d :: e :: f :: g :: h :: timerExponent :: more =>
      rw [settingsLayout, Layout.toOption_decode_atLeast (by simp), settingsOf?,
        capabilitiesOf_eq, capabilitiesOf_eq,
        ← Octets.u16_cons_cons a b (c :: d :: e :: f :: g :: h :: timerExponent :: more),
        ← Octets.u16_cons_cons c d (e :: f :: g :: h :: timerExponent :: more),
        ← Octets.u16_cons_cons e f (g :: h :: timerExponent :: more),
        ← Octets.u16_cons_cons g h (timerExponent :: more)]
      rfl

/-- Adding settings one after the other leaves the last of them. -/
theorem foldl_add (items : List Settings) :
    items.foldl extension.add {} = { settings := items.getLast?.getD {} } := by
  induction items using List.reverseRecOn with
  | nil => rfl
  | append_singleton items settings _ =>
      rw [List.foldl_append, List.getLast?_concat, Option.getD_some]
      rfl

theorem filterMap_said? (tlvs : List OrganizationTlv) :
    tlvs.filterMap extension.said? = told 0x0013bf 0 settingsOf? tlvs := by
  have said : (tlvs.filterMap extension.said?).filterMap some = told 0x0013bf 0 settingsOf? tlvs :=
    keyed.filterMap_said? (fun _ _ _ => rfl) rfl tells_settingsLayout tlvs
  rw [List.filterMap_some] at said
  exact said

theorem holds_decode (tlvs : List OrganizationTlv) : Holds (extension.decode tlvs).value tlvs where
  settings := by
    rw [Extension.value_decode, filterMap_said?]
    exact congrArg EdgeBridging.settings (foldl_add _)

theorem value_decode_of_takesNothing {t : OrganizationTlv}
    (nothing : KnownExtension.edgeBridging.TakesNothing t) (before behind : List OrganizationTlv) :
    (extension.decode (before ++ t :: behind)).value =
      (extension.decode (before ++ behind)).value := by
  apply Extension.value_decode_insert asks _ before behind
  exact nothing.imp_left fun disregarded => disregarded.resolve_right (by simp)

end EdgeBridging

/-! ## The records of a list -/

/-- Each record of the Ethernet extension and of edge virtual bridging is what the last TLV tells of
it, taken whole from that TLV, or as at first if no TLV tells it.  A power of three to seven octets
therefore puts the fields of the long form back, while a TLV that is too short, of another
organization or of another subtype may be left out without a change to any record. -/
theorem Info.records_told_by_last :
    (∀ info : Info, Ethernet.Holds info.ethernet.value info.organizationTlvs ∧
      EdgeBridging.Holds info.edgeBridging.value info.organizationTlvs) ∧
    (∀ (info : Info) (t : OrganizationTlv) (before behind : List OrganizationTlv),
      t.oui.raw = 0x00120f → t.subtype = 2 → 3 ≤ t.payload.length → t.payload.length ≤ 7 →
      (∀ later ∈ behind,
        later.oui.raw = 0x00120f → later.subtype = 2 → later.payload.length < 3) →
      ({ info with organizationTlvs := before ++ t :: behind } : Info).ethernet.value.power.Short) ∧
    (∀ (info : Info) (t : OrganizationTlv) (before behind : List OrganizationTlv),
      let whole : Info := { info with organizationTlvs := before ++ t :: behind }
      let without : Info := { info with organizationTlvs := before ++ behind }
      (KnownExtension.ethernet.TakesNothing t → whole.ethernet.value = without.ethernet.value) ∧
        (KnownExtension.edgeBridging.TakesNothing t →
          whole.edgeBridging.value = without.edgeBridging.value)) := by
  refine ⟨?holds, ?short, ?nothing⟩
  case holds =>
    intro info
    exact ⟨Ethernet.holds_decode _, EdgeBridging.holds_decode _⟩
  case short =>
    intro info t before behind own isPower basic short last
    exact Ethernet.short_power_decode own isPower basic (Nat.lt_succ_of_le short) before last
  case nothing =>
    intro info t before behind whole without
    exact ⟨fun nothing => Ethernet.value_decode_of_takesNothing nothing before behind,
      fun nothing => EdgeBridging.value_decode_of_takesNothing nothing before behind⟩

/-- A long form of the power that a short form replaces, behind which a payload that is cut short, a
TLV of another organization and one of another subtype change nothing more. -/
theorem Info.records_after_short_power :
    let long : OrganizationTlv := ⟨.ieee8023, 2, [15, 1, 2, 0xd0, 3, 0, 100, 0, 90]⟩
    let short : OrganizationTlv := ⟨.ieee8023, 2, [3, 1, 5]⟩
    let cut : OrganizationTlv := ⟨.ieee8023, 2, [9, 9]⟩
    let foreign : OrganizationTlv := ⟨⟨0x0100120f⟩, 2, [15, 1, 2, 0xd0, 3, 0, 100, 0, 90]⟩
    let channels : OrganizationTlv := ⟨.ieee8021Qbg, 1, [0, 1, 0, 1, 0, 1, 0, 1, 1]⟩
    let behind : List OrganizationTlv := [cut, foreign, channels]
    let info : Info := { organizationTlvs := [long] ++ short :: behind }
    (∀ later ∈ behind,
        later.oui.raw = 0x00120f → later.subtype = 2 → later.payload.length < 3) ∧
      info.ethernet.value.power.Short ∧
      KnownExtension.ethernet.TakesNothing cut ∧
      info.ethernet.value =
        ({ organizationTlvs := [long, short, foreign, channels] } : Info).ethernet.value ∧
      KnownExtension.edgeBridging.TakesNothing channels ∧
      info.edgeBridging.value =
        ({ organizationTlvs := [long, short, cut, foreign] } : Info).edgeBridging.value := by
  intro long short cut foreign channels behind info
  have last : ∀ later ∈ behind,
      later.oui.raw = 0x00120f → later.subtype = 2 → later.payload.length < 3 := by decide
  have isCut : KnownExtension.ethernet.TakesNothing cut := .inr ⟨3, rfl, by decide⟩
  have isChannels : KnownExtension.edgeBridging.TakesNothing channels := .inl (.inl (.inr rfl))
  exact ⟨last,
    records_told_by_last.2.1 {} short [long] behind rfl rfl (by decide) (by decide) last,
    isCut, (records_told_by_last.2.2 {} cut [long, short] [foreign, channels]).1 isCut,
    isChannels, (records_told_by_last.2.2 {} channels [long, short, cut, foreign] []).2 isChannels⟩

end Lldpdu
