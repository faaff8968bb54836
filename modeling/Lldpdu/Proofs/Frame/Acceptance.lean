import Lldpdu.Frame.Basic
import Lldpdu.Proofs.Tlv.Walk
import Mathlib.Data.List.Perm.Subperm

/-!
# The buffers that hold a frame

A frame is decoded from exactly the buffers that a `Pdu` describes: TLVs, an End header and
whatever follows it, where the chassis, the port and the time to live all occur, no value of
theirs is too short, and the last identifier of either kind is not reserved.  A buffer has at
most one such description, and the frame can be read off it.

The number of TLVs is checked before anything else, but no acceptable buffer fails that check:
it holds four TLVs of different types.
-/

namespace Lldpdu

/-! ## LLDPDUs as they are written -/

/-- A buffer as the TLVs in front of its End header, that header, and the octets behind it. -/
structure Pdu where
  tlvs : List Tlv
  high : UInt8
  low : UInt8
  rest : Octets
  wellFormed : ∀ t ∈ tlvs, t.WellFormed
  isEnd : high ≤ 1

namespace Pdu

/-- The octets of the buffer. -/
def octets (pdu : Pdu) : Octets :=
  Tlv.encodeAll pdu.tlvs ++ pdu.high :: pdu.low :: pdu.rest

theorem meetsEnd (pdu : Pdu) : Walk.MeetsEnd pdu.octets pdu.tlvs :=
  Walk.meetsEnd_encodeAll_append pdu.wellFormed
    ((Tlv.headerKind_eq_endOfPdu_iff pdu.high pdu.low).mpr pdu.isEnd) pdu.rest

/-- The End TLV of the buffer. -/
def endTlv (pdu : Pdu) : Tlv :=
  Tlv.atEnd pdu.high pdu.low pdu.rest

theorem items_octets (pdu : Pdu) :
    (Walk.ofOctets pdu.octets).items = (pdu.tlvs ++ [pdu.endTlv]).map .ok := by
  have isEnd := (Tlv.headerKind_eq_endOfPdu_iff pdu.high pdu.low).mpr pdu.isEnd
  have items := (Walk.items_and_stop_of_residue pdu.wellFormed
    (Walk.next?_underway_ended isEnd (Tlv.encodeAll pdu.tlvs).length pdu.rest) (by simp)).1
  rw [List.map_append]
  exact items

/-- The octets determine the description. -/
theorem octets_injective {first second : Pdu} (same : first.octets = second.octets) :
    first = second := by
  have firstTlvs := Walk.plainTlvs_eq first.wellFormed (.inr (.inl first.meetsEnd))
  have secondTlvs := Walk.plainTlvs_eq second.wellFormed (.inr (.inl second.meetsEnd))
  have tlvs : first.tlvs = second.tlvs := by
    rw [← firstTlvs, ← secondTlvs, same]
  rcases first with ⟨tlvs₁, high₁, low₁, rest₁, _, _⟩
  rcases second with ⟨tlvs₂, high₂, low₂, rest₂, _, _⟩
  change tlvs₁ = tlvs₂ at tlvs
  subst tlvs
  have tails := List.append_cancel_left same
  simp only [List.cons.injEq] at tails
  rcases tails with ⟨rfl, rfl, rfl⟩
  rfl

/-- A buffer whose walk meets the End TLV has a description. -/
theorem exists_octets_eq {buffer : Octets} {ts : List Tlv} (wellFormed : ∀ t ∈ ts, t.WellFormed)
    (ended : Walk.MeetsEnd buffer ts) : ∃ pdu : Pdu, pdu.octets = buffer ∧ pdu.tlvs = ts := by
  rcases ended with ⟨high, low, body, split, isEnd, -⟩
  exact ⟨⟨ts, high, low, body, wellFormed, (Tlv.headerKind_eq_endOfPdu_iff high low).mp isEnd⟩,
    split.symm, rfl⟩

end Pdu

/-! ## The last TLV of a type -/

/-- `t` is the last TLV of the given type. -/
def Tlv.IsLast (kind : TlvType) (ts : List Tlv) (t : Tlv) : Prop :=
  ∃ before behind, ts = before ++ t :: behind ∧ t.kind = kind ∧ ∀ u ∈ behind, u.kind ≠ kind

theorem Tlv.getLast?_filter_eq_some_iff (kind : TlvType) (ts : List Tlv) (t : Tlv) :
    (ts.filter fun u => u.kind = kind).getLast? = some t ↔ Tlv.IsLast kind ts t := by
  rw [List.getLast?_filter, List.find?_eq_some_iff_append]
  constructor
  · rintro ⟨isKind, behind, before, split, others⟩
    refine ⟨before.reverse, behind.reverse, ?_, of_decide_eq_true isKind, ?_⟩
    · rw [← List.reverse_reverse ts, split]
      simp
    · intro u member
      simpa using others u (List.mem_reverse.mp member)
  · rintro ⟨before, behind, rfl, isKind, others⟩
    refine ⟨decide_eq_true isKind, behind.reverse, before.reverse, by simp, ?_⟩
    intro u member
    simpa using others u (List.mem_reverse.mp member)

theorem Tlv.IsLast.mem {kind : TlvType} {ts : List Tlv} {t : Tlv} (last : Tlv.IsLast kind ts t) :
    t ∈ ts := by
  rcases last with ⟨before, behind, rfl, -, -⟩
  exact List.mem_append_right before List.mem_cons_self

theorem Tlv.IsLast.kind_eq {kind : TlvType} {ts : List Tlv} {t : Tlv}
    (last : Tlv.IsLast kind ts t) : t.kind = kind := by
  rcases last with ⟨-, -, -, isKind, -⟩
  exact isKind

theorem Tlv.IsLast.unique {kind : TlvType} {ts : List Tlv} {first second : Tlv}
    (firstLast : Tlv.IsLast kind ts first) (secondLast : Tlv.IsLast kind ts second) :
    first = second := by
  rw [← Tlv.getLast?_filter_eq_some_iff] at firstLast secondLast
  exact Option.some.inj (firstLast.symm.trans secondLast)

theorem Tlv.exists_isLast {kind : TlvType} {ts : List Tlv} (occurs : ∃ t ∈ ts, t.kind = kind) :
    ∃ t, Tlv.IsLast kind ts t := by
  rcases occurs with ⟨t, member, isKind⟩
  have found : t ∈ ts.filter fun u => u.kind = kind :=
    List.mem_filter.mpr ⟨member, decide_eq_true isKind⟩
  obtain ⟨last, isLast⟩ := Option.isSome_iff_exists.mp
    (List.getLast?_isSome.mpr (List.ne_nil_of_mem found))
  exact ⟨last, (Tlv.getLast?_filter_eq_some_iff kind ts last).mp isLast⟩

namespace Frame

theorem lastValue?_eq_some_iff (kind : TlvType) (ts : List Tlv) (value : Octets) :
    lastValue? kind ts = some value ↔ ∃ t, Tlv.IsLast kind ts t ∧ t.value = value := by
  simp only [lastValue?, Option.map_eq_some_iff, Tlv.getLast?_filter_eq_some_iff]

theorem lastValue?_eq_none_iff (kind : TlvType) (ts : List Tlv) :
    lastValue? kind ts = none ↔ ∀ t ∈ ts, t.kind ≠ kind := by
  simp [lastValue?]

/-- The value of the last TLV of a type is that of a further TLV, if it has the type. -/
theorem lastValue?_append_singleton (kind : TlvType) (ts : List Tlv) (t : Tlv) :
    lastValue? kind (ts ++ [t]) =
      if t.kind = kind then some t.value else lastValue? kind ts := by
  by_cases same : t.kind = kind <;> simp [lastValue?, same]

/-- An identifier is found in the last TLV of its type, unless that one is reserved.  An earlier
one does not stand in for it. -/
theorem identifier?_eq_some_iff {subtypes : Registry UInt8} (kind : TlvType) (ts : List Tlv)
    (i : Identifier subtypes) :
    identifier? kind ts = some i ↔
      ∃ t, Tlv.IsLast kind ts t ∧ i = Identifier.ofValue t.value ∧ t.value.octet 0 ≠ 0 := by
  simp only [identifier?, Option.filter_eq_some_iff, Option.map_eq_some_iff,
    lastValue?_eq_some_iff]
  constructor
  · rintro ⟨⟨value, ⟨t, last, rfl⟩, rfl⟩, usable⟩
    exact ⟨t, last, rfl, by simpa [Identifier.isReserved, Identifier.ofValue] using usable⟩
  · rintro ⟨t, last, rfl, usable⟩
    exact ⟨⟨t.value, ⟨t, last, rfl⟩, rfl⟩, by
      simpa [Identifier.isReserved, Identifier.ofValue] using usable⟩

/-! ## Decoding the TLVs that were walked over -/

theorem ofOctets_of_items {buffer : Octets} {walked : List Tlv}
    (items : (Walk.ofOctets buffer).items = walked.map .ok) :
    Tlv.ofOctets buffer = .ok walked := by
  rw [Tlv.ofOctets, items]
  clear items
  induction walked with
  | nil => rfl
  | cons t walked ih =>
      rw [List.map_cons, List.mapM_cons, ih]
      rfl

theorem decode_of_items {buffer : Octets} {walked : List Tlv}
    (items : (Walk.ofOctets buffer).items = walked.map .ok) :
    decode buffer = ofTlvs buffer walked := by
  rw [decode, ofOctets_of_items items]

theorem ofOctets_of_items_error {buffer : Octets} {ts : List Tlv} {cause : Truncation}
    (items : (Walk.ofOctets buffer).items = ts.map .ok ++ [.error cause]) :
    Tlv.ofOctets buffer = .error cause := by
  rw [Tlv.ofOctets, items]
  clear items
  induction ts with
  | nil => rfl
  | cons t ts ih =>
      rw [List.map_cons, List.cons_append, List.mapM_cons, ih]
      rfl

theorem decode_of_items_error {buffer : Octets} {ts : List Tlv} {cause : Truncation}
    (items : (Walk.ofOctets buffer).items = ts.map .ok ++ [.error cause]) :
    decode buffer = .error (.truncated cause) := by
  rw [decode, ofOctets_of_items_error items]

theorem require_bind_eq_ok_iff {α β : Type} (kind : TlvType) (found : Option α)
    (next : α → Except FrameError β) (b : β) :
    (require kind found >>= next) = .ok b ↔ ∃ a, found = some a ∧ next a = .ok b := by
  cases found with
  | none => simp [require, bind, Except.bind]
  | some a => simp [require, bind, Except.bind]

/-- TLVs that hold each of the four mandatory types are at least four. -/
theorem length_le_of_covers {ts : List Tlv}
    (covers : ∀ kind ∈ mandatoryTypes, ∃ t ∈ ts, t.kind = kind) :
    mandatoryTypes.length ≤ ts.length := by
  have distinct : mandatoryTypes.Nodup := by decide
  have contained : mandatoryTypes ⊆ ts.map (·.kind) := by
    intro kind member
    rcases covers kind member with ⟨t, found, rfl⟩
    exact List.mem_map_of_mem found
  have bound := (distinct.subperm contained).length_le
  rwa [List.length_map] at bound

/-- The checks on the TLVs that were walked over, and the frame if they all pass. -/
theorem ofTlvs_eq_ok_iff (buffer : Octets) (walked : List Tlv) (frame : Frame) :
    ofTlvs buffer walked = .ok frame ↔
      mandatoryTypes.length ≤ walked.length ∧ (∀ t ∈ walked, t.isStunted = false) ∧
        ∃ ttl chassisId portId last, lastValue? .timeToLive walked = some ttl ∧
          identifier? .chassisId walked = some chassisId ∧
          identifier? .portId walked = some portId ∧ lastValue? .endOfPdu walked = some last ∧
          frame = {
            chassisId
            portId
            timeToLive := ttl.u16 0
            values := walked.filter fun t => t.kind ∉ mandatoryTypes
            buffer } := by
  rw [ofTlvs]
  by_cases few : walked.length < mandatoryTypes.length
  · rw [if_pos few]
    simp only [reduceCtorEq, false_iff]
    rintro ⟨enough, -⟩
    exact Nat.not_lt.mpr enough few
  rw [if_neg few]
  cases stunted : walked.find? Tlv.isStunted with
  | some t =>
      have found := List.find?_some stunted
      have member := List.mem_of_find?_eq_some stunted
      simp only [reduceCtorEq, false_iff]
      rintro ⟨-, long, -⟩
      rw [long t member] at found
      contradiction
  | none =>
      have long : ∀ t ∈ walked, t.isStunted = false := by
        simpa using List.find?_eq_none.mp stunted
      simp only [require_bind_eq_ok_iff, pure, Except.pure, Except.ok.injEq]
      constructor
      · rintro ⟨ttl, foundTtl, chassisId, foundChassis, portId, foundPort, last, foundLast, rfl⟩
        exact ⟨Nat.not_lt.mp few, long, ttl, chassisId, portId, last, foundTtl, foundChassis,
          foundPort, foundLast, rfl⟩
      · rintro ⟨-, -, ttl, chassisId, portId, last, foundTtl, foundChassis, foundPort, foundLast,
          rfl⟩
        exact ⟨ttl, foundTtl, chassisId, foundChassis, portId, foundPort, last, foundLast, rfl⟩

/-! ## Acceptable TLVs -/

/-- The types whose values are fields of a frame. -/
def fieldTypes : List TlvType :=
  [.chassisId, .portId, .timeToLive]

theorem notMem_fieldTypes {kind : TlvType} (least : 4 ≤ kind.raw.toNat) : kind ∉ fieldTypes := by
  intro field
  simp only [fieldTypes, List.mem_cons, List.not_mem_nil, or_false] at field
  rcases field with rfl | rfl | rfl
  · contradiction
  · contradiction
  · contradiction

/-- The TLVs in front of an End TLV that make up a frame together with it. -/
structure Acceptable (ts : List Tlv) : Prop where
  occurs : ∀ kind ∈ fieldTypes, ∃ t ∈ ts, t.kind = kind
  long : ∀ t ∈ ts, t.kind ∈ fieldTypes → 2 ≤ t.value.length
  usable : ∀ kind ∈ [TlvType.chassisId, .portId], ∀ t, Tlv.IsLast kind ts t →
    t.value.head? ≠ some 0

/-- What a frame holds of the TLVs in front of an End TLV. -/
structure Holds (frame : Frame) (ts : List Tlv) : Prop where
  chassisId : ∃ t, Tlv.IsLast .chassisId ts t ∧
    t.value = frame.chassisId.subtype.raw :: frame.chassisId.id
  portId : ∃ t, Tlv.IsLast .portId ts t ∧ t.value = frame.portId.subtype.raw :: frame.portId.id
  timeToLive : ∃ t high low more, Tlv.IsLast .timeToLive ts t ∧ t.value = high :: low :: more ∧
    frame.timeToLive.toNat = high.toNat * 256 + low.toNat
  values : frame.values = ts.filter fun t => t.kind ∉ fieldTypes

theorem isStunted_eq_false_iff (t : Tlv) :
    t.isStunted = false ↔ (t.kind ∈ fieldTypes → 2 ≤ t.value.length) := by
  have field : t.kind ∈ fieldTypes ↔
      (t.kind = .chassisId || t.kind = .portId || t.kind = .timeToLive) = true := by
    simp [fieldTypes, or_assoc]
  rw [field, Tlv.isStunted, Bool.and_eq_false_imp]
  simp only [decide_eq_false_iff_not, Nat.not_lt]

/-- The End TLV is not the last one of another type. -/
theorem lastValue?_concat {kind : TlvType} {last : Tlv} (isEnd : last.kind = .endOfPdu)
    (other : kind ≠ .endOfPdu) (ts : List Tlv) :
    lastValue? kind (ts ++ [last]) = lastValue? kind ts := by
  rw [lastValue?_append_singleton, isEnd, if_neg other.symm]

theorem identifier?_concat {subtypes : Registry UInt8} {kind : TlvType} {last : Tlv}
    (isEnd : last.kind = .endOfPdu) (other : kind ≠ .endOfPdu) (ts : List Tlv) :
    (identifier? kind (ts ++ [last]) : Option (Identifier subtypes)) = identifier? kind ts := by
  rw [identifier?, lastValue?_concat isEnd other, identifier?]

theorem filter_values_concat {last : Tlv} (isEnd : last.kind = .endOfPdu) {ts : List Tlv}
    (wellFormed : ∀ t ∈ ts, t.WellFormed) :
    ((ts ++ [last]).filter fun t => t.kind ∉ mandatoryTypes) =
      ts.filter fun t => t.kind ∉ fieldTypes := by
  have dropped : [last].filter (fun t => t.kind ∉ mandatoryTypes) = [] := by
    simp [mandatoryTypes, isEnd]
  rw [List.filter_append, dropped, List.append_nil]
  apply List.filter_congr
  intro t member
  simp [mandatoryTypes, fieldTypes, (wellFormed t member).kind_ne]

/-- A value that begins with two octets gives the 16-bit number they spell. -/
theorem u16_zero_eq_iff (high low : UInt8) (more : Octets) (n : UInt16) :
    Octets.u16 (high :: low :: more) 0 = n ↔ n.toNat = high.toNat * 256 + low.toNat := by
  have highBound : high.toNat < 256 := high.toNat_lt
  have lowBound : low.toNat < 256 := low.toNat_lt
  have read : (Octets.u16 (high :: low :: more) 0).toNat = high.toNat * 256 + low.toNat := by
    simp only [Octets.u16, Octets.slice, List.drop_zero, List.take_succ_cons, List.take_zero,
      Octets.number_pair, UInt16.toNat_ofNat']
    omega
  rw [← read, ← UInt16.toNat_inj]
  exact eq_comm

/-- In TLVs of sufficient length, an identifier is the value of the last TLV of its type. -/
theorem identifier?_eq_some_iff_value {subtypes : Registry UInt8} {kind : TlvType} {ts : List Tlv}
    (long : ∀ t ∈ ts, t.kind = kind → 2 ≤ t.value.length) (i : Identifier subtypes) :
    identifier? kind ts = some i ↔
      (∃ t, Tlv.IsLast kind ts t ∧ t.value = i.subtype.raw :: i.id) ∧ i.subtype.raw ≠ 0 := by
  rw [identifier?_eq_some_iff]
  constructor
  · rintro ⟨t, last, rfl, usable⟩
    refine ⟨⟨t, last, ?_⟩, usable⟩
    cases value : t.value with
    | nil =>
        have size := long t last.mem last.kind_eq
        rw [value] at size
        contradiction
    | cons subtype id => rfl
  · rintro ⟨⟨t, last, value⟩, usable⟩
    exact ⟨t, last, by rw [value]; rfl, by rw [value]; exact usable⟩

/-- In TLVs of sufficient length, the time to live is spelt by the first two octets of the last
TLV of its type. -/
theorem exists_lastValue?_u16_iff {kind : TlvType} {ts : List Tlv}
    (long : ∀ t ∈ ts, t.kind = kind → 2 ≤ t.value.length) (n : UInt16) :
    (∃ value, lastValue? kind ts = some value ∧ n = value.u16 0) ↔
      ∃ t high low more, Tlv.IsLast kind ts t ∧ t.value = high :: low :: more ∧
        n.toNat = high.toNat * 256 + low.toNat := by
  constructor
  · rintro ⟨value, found, spelt⟩
    rcases (lastValue?_eq_some_iff kind ts value).mp found with ⟨t, last, rfl⟩
    have size := long t last.mem last.kind_eq
    match octets : t.value, size with
    | high :: low :: more, _ =>
        rw [octets] at spelt
        exact ⟨t, high, low, more, last, octets, (u16_zero_eq_iff high low more n).mp spelt.symm⟩
  · rintro ⟨t, high, low, more, last, octets, spelt⟩
    refine ⟨t.value, (lastValue?_eq_some_iff kind ts t.value).mpr ⟨t, last, rfl⟩, ?_⟩
    rw [octets]
    exact ((u16_zero_eq_iff high low more n).mpr spelt).symm

theorem Acceptable.length_le {ts : List Tlv} (acceptable : Acceptable ts) {last : Tlv}
    (isEnd : last.kind = .endOfPdu) : mandatoryTypes.length ≤ (ts ++ [last]).length := by
  apply length_le_of_covers
  intro kind member
  rcases List.mem_append.mp (show kind ∈ fieldTypes ++ [.endOfPdu] from member) with field | ending
  · rcases acceptable.occurs kind field with ⟨t, found, isKind⟩
    exact ⟨t, List.mem_append_left [last] found, isKind⟩
  · refine ⟨last, List.mem_append_right ts List.mem_cons_self, ?_⟩
    rw [isEnd, List.mem_singleton.mp ending]

theorem Acceptable.long_of {ts : List Tlv} (acceptable : Acceptable ts) {kind : TlvType}
    (field : kind ∈ fieldTypes) : ∀ t ∈ ts, t.kind = kind → 2 ≤ t.value.length := by
  rintro t member rfl
  exact acceptable.long t member field

/-- TLVs in which a usable identifier of either kind and a time to live are found are
acceptable. -/
theorem acceptable_of_isLast {ts : List Tlv} {c p t : Tlv}
    (long : ∀ t ∈ ts, t.kind ∈ fieldTypes → 2 ≤ t.value.length)
    (lastChassis : Tlv.IsLast .chassisId ts c) (chassisUsable : c.value.head? ≠ some 0)
    (lastPort : Tlv.IsLast .portId ts p) (portUsable : p.value.head? ≠ some 0)
    (lastTtl : Tlv.IsLast .timeToLive ts t) : Acceptable ts := by
  refine ⟨?_, long, ?_⟩
  · intro kind field
    simp only [fieldTypes, List.mem_cons, List.not_mem_nil, or_false] at field
    rcases field with rfl | rfl | rfl
    · exact ⟨c, lastChassis.mem, lastChassis.kind_eq⟩
    · exact ⟨p, lastPort.mem, lastPort.kind_eq⟩
    · exact ⟨t, lastTtl.mem, lastTtl.kind_eq⟩
  · intro kind identifier u last
    simp only [List.mem_cons, List.not_mem_nil, or_false] at identifier
    rcases identifier with rfl | rfl
    · rwa [last.unique lastChassis]
    · rwa [last.unique lastPort]

/-- The checks behind the walk, on TLVs that an End TLV closes. -/
theorem decode_octets_eq_ok_iff_found (pdu : Pdu) (frame : Frame) :
    decode pdu.octets = .ok frame ↔
      mandatoryTypes.length ≤ (pdu.tlvs ++ [pdu.endTlv]).length ∧
        (∀ t ∈ pdu.tlvs, t.kind ∈ fieldTypes → 2 ≤ t.value.length) ∧
        (∃ value, lastValue? .timeToLive pdu.tlvs = some value ∧ frame.timeToLive = value.u16 0) ∧
        identifier? .chassisId pdu.tlvs = some frame.chassisId ∧
        identifier? .portId pdu.tlvs = some frame.portId ∧
        frame.values = (pdu.tlvs.filter fun t => t.kind ∉ fieldTypes) ∧
        frame.buffer = pdu.octets := by
  rw [decode_of_items pdu.items_octets, ofTlvs_eq_ok_iff,
    lastValue?_concat rfl (by decide), identifier?_concat rfl (by decide),
    identifier?_concat rfl (by decide), filter_values_concat rfl pdu.wellFormed]
  constructor
  · rintro ⟨enough, unstunted, ttl, chassisId, portId, last, foundTtl, foundChassis, foundPort, -,
      rfl⟩
    exact ⟨enough, fun t member =>
      (isStunted_eq_false_iff t).mp (unstunted t (List.mem_append_left _ member)),
      ⟨ttl, foundTtl, rfl⟩, foundChassis, foundPort, rfl, rfl⟩
  · rintro ⟨enough, long, ⟨ttl, foundTtl, spelt⟩, foundChassis, foundPort, values, buffer⟩
    have foundEnd : lastValue? .endOfPdu (pdu.tlvs ++ [pdu.endTlv]) = some pdu.endTlv.value := by
      rw [lastValue?_eq_some_iff]
      exact ⟨pdu.endTlv, ⟨pdu.tlvs, [], rfl, rfl, by simp⟩, rfl⟩
    refine ⟨enough, ?_, ttl, _, _, _, foundTtl, foundChassis, foundPort, foundEnd, ?_⟩
    · intro t member
      rw [isStunted_eq_false_iff]
      rcases List.mem_append.mp member with member | last
      · exact long t member
      · rw [List.mem_singleton.mp last]
        intro field
        exact absurd field (show TlvType.endOfPdu ∉ fieldTypes by decide)
    · rw [← spelt, ← values, ← buffer]

/-- A buffer decodes to a frame exactly if its TLVs are acceptable and the frame holds what they
say. -/
theorem decode_octets_eq_ok_iff (pdu : Pdu) (frame : Frame) :
    decode pdu.octets = .ok frame ↔
      Acceptable pdu.tlvs ∧ frame.Holds pdu.tlvs ∧ frame.buffer = pdu.octets := by
  rw [decode_octets_eq_ok_iff_found]
  constructor
  · rintro ⟨-, long, ttl, foundChassis, foundPort, values, buffer⟩
    have longOf (kind : TlvType) (field : kind ∈ fieldTypes) :
        ∀ t ∈ pdu.tlvs, t.kind = kind → 2 ≤ t.value.length := by
      rintro t member rfl
      exact long t member field
    obtain ⟨⟨c, lastChassis, chassisValue⟩, chassisUsable⟩ :=
      (identifier?_eq_some_iff_value (longOf _ (by decide)) _).mp foundChassis
    obtain ⟨⟨p, lastPort, portValue⟩, portUsable⟩ :=
      (identifier?_eq_some_iff_value (longOf _ (by decide)) _).mp foundPort
    obtain ⟨t, high, low, more, lastTtl, ttlValue, spelt⟩ :=
      (exists_lastValue?_u16_iff (longOf _ (by decide)) _).mp ttl
    refine ⟨acceptable_of_isLast long lastChassis ?_ lastPort ?_ lastTtl,
      ⟨⟨c, lastChassis, chassisValue⟩, ⟨p, lastPort, portValue⟩,
        ⟨t, high, low, more, lastTtl, ttlValue, spelt⟩, values⟩, buffer⟩
    · simpa [chassisValue] using chassisUsable
    · simpa [portValue] using portUsable
  · rintro ⟨acceptable, ⟨⟨c, lastChassis, chassisValue⟩, ⟨p, lastPort, portValue⟩, ttl, values⟩,
      buffer⟩
    have chassisUsable := acceptable.usable .chassisId (by decide) c lastChassis
    have portUsable := acceptable.usable .portId (by decide) p lastPort
    refine ⟨acceptable.length_le rfl, acceptable.long,
      (exists_lastValue?_u16_iff (acceptable.long_of (by decide)) _).mpr ttl,
      (identifier?_eq_some_iff_value (acceptable.long_of (by decide)) _).mpr
        ⟨⟨c, lastChassis, chassisValue⟩, ?_⟩,
      (identifier?_eq_some_iff_value (acceptable.long_of (by decide)) _).mpr
        ⟨⟨p, lastPort, portValue⟩, ?_⟩, values, buffer⟩
    · simpa [chassisValue] using chassisUsable
    · simpa [portValue] using portUsable

/-- Only a buffer with an End header decodes to a frame. -/
theorem exists_octets_eq_of_decode {buffer : Octets} {frame : Frame}
    (decoded : decode buffer = .ok frame) : ∃ pdu : Pdu, pdu.octets = buffer := by
  rcases Walk.exists_ending buffer with
    ⟨ts, wellFormed, -, out | ended | ⟨tail, -, -, -, items, -⟩⟩
  · -- Without an End TLV the last of the checks fails.
    rw [decode_of_items out.items, ofTlvs_eq_ok_iff] at decoded
    rcases decoded with ⟨-, -, ttl, chassisId, portId, last, -, -, -, foundEnd, -⟩
    rcases (lastValue?_eq_some_iff _ _ _).mp foundEnd with ⟨t, isLast, -⟩
    exact absurd isLast.kind_eq (wellFormed t isLast.mem).kind_ne
  · rcases Pdu.exists_octets_eq wellFormed ended with ⟨pdu, octets, -⟩
    exact ⟨pdu, octets⟩
  · rw [decode_of_items_error items] at decoded
    contradiction

theorem Acceptable.exists_value_eq_cons {ts : List Tlv} (acceptable : Acceptable ts)
    {kind : TlvType} (field : kind ∈ fieldTypes) :
    ∃ t high low more, Tlv.IsLast kind ts t ∧ t.value = high :: low :: more := by
  rcases Tlv.exists_isLast (acceptable.occurs kind field) with ⟨t, last⟩
  have size := acceptable.long_of field t last.mem last.kind_eq
  match octets : t.value, size with
  | high :: low :: more, _ => exact ⟨t, high, low, more, last, octets⟩

/-- Acceptable TLVs make up a frame. -/
theorem Acceptable.exists_holds {ts : List Tlv} (acceptable : Acceptable ts) (buffer : Octets) :
    ∃ frame : Frame, frame.Holds ts ∧ frame.buffer = buffer := by
  obtain ⟨c, chassisSubtype, c₁, c₂, lastChassis, chassisValue⟩ :=
    acceptable.exists_value_eq_cons (show TlvType.chassisId ∈ fieldTypes by decide)
  obtain ⟨p, portSubtype, p₁, p₂, lastPort, portValue⟩ :=
    acceptable.exists_value_eq_cons (show TlvType.portId ∈ fieldTypes by decide)
  obtain ⟨t, high, low, more, lastTtl, ttlValue⟩ :=
    acceptable.exists_value_eq_cons (show TlvType.timeToLive ∈ fieldTypes by decide)
  refine ⟨{
    chassisId := ⟨⟨chassisSubtype⟩, c₁ :: c₂⟩
    portId := ⟨⟨portSubtype⟩, p₁ :: p₂⟩
    timeToLive := Octets.u16 (high :: low :: more) 0
    values := ts.filter fun t => t.kind ∉ fieldTypes
    buffer }, ⟨⟨c, lastChassis, chassisValue⟩, ⟨p, lastPort, portValue⟩, ?_, rfl⟩, rfl⟩
  exact ⟨t, high, low, more, lastTtl, ttlValue, (u16_zero_eq_iff high low more _).mp rfl⟩

/-- The buffers that decode to a frame are those of acceptable TLVs, and the frame holds what
the TLVs say.  Every buffer has at most one description as TLVs, End header and rest. -/
theorem decode_eq_ok_iff (buffer : Octets) :
    ((∃ frame, decode buffer = .ok frame) ↔
        ∃ pdu : Pdu, pdu.octets = buffer ∧ Acceptable pdu.tlvs) ∧
      (∀ frame, decode buffer = .ok frame ↔
        ∃ pdu : Pdu, pdu.octets = buffer ∧ Acceptable pdu.tlvs ∧ frame.Holds pdu.tlvs ∧
          frame.buffer = buffer) ∧
      ∀ first second : Pdu, first.octets = buffer → second.octets = buffer → first = second := by
  have exact (frame : Frame) : decode buffer = .ok frame ↔
      ∃ pdu : Pdu, pdu.octets = buffer ∧ Acceptable pdu.tlvs ∧ frame.Holds pdu.tlvs ∧
        frame.buffer = buffer := by
    constructor
    · intro decoded
      rcases exists_octets_eq_of_decode decoded with ⟨pdu, rfl⟩
      exact ⟨pdu, rfl, (decode_octets_eq_ok_iff pdu frame).mp decoded⟩
    · rintro ⟨pdu, rfl, accepted⟩
      exact (decode_octets_eq_ok_iff pdu frame).mpr accepted
  refine ⟨?_, exact, ?_⟩
  · constructor
    · rintro ⟨frame, decoded⟩
      rcases (exact frame).mp decoded with ⟨pdu, octets, acceptable, -⟩
      exact ⟨pdu, octets, acceptable⟩
    · rintro ⟨pdu, octets, acceptable⟩
      rcases acceptable.exists_holds buffer with ⟨frame, holds, whole⟩
      exact ⟨frame, (exact frame).mpr ⟨pdu, octets, acceptable, holds, whole⟩⟩
  · intro first second firstOctets secondOctets
    exact Pdu.octets_injective (firstOctets.trans secondOctets.symm)

/-- An identifier may be reserved if another one follows, and the End TLV may be cut short. -/
theorem exists_pdu_overwritten :
    ∃ pdu : Pdu, pdu.octets = [6, 2, 0, 120, 4, 2, 0, 65, 4, 3, 5, 66, 67, 2, 2, 4, 1, 1, 255, 9] ∧
      Acceptable pdu.tlvs :=
  (decode_eq_ok_iff _).1.mp ⟨{
    chassisId := ⟨⟨4⟩, [1]⟩
    portId := ⟨⟨5⟩, [66, 67]⟩
    timeToLive := 120
    values := []
    buffer := [6, 2, 0, 120, 4, 2, 0, 65, 4, 3, 5, 66, 67, 2, 2, 4, 1, 1, 255, 9] },
    by decide +kernel⟩

end Frame

end Lldpdu
