import Lldpdu.Proofs.Frame.Acceptance

/-!
# Why a buffer holds no frame

A buffer without a frame is refused for the first of four reasons.  A cut TLV comes before
everything else.  A walk over fewer than four TLVs is looked through for a type that it lacks,
and it always lacks one.  Then come values that are too short, in the order of the wire, and
last the types themselves, in an order that is not the one of the second reason: the time to
live comes before the chassis and the port.
-/

namespace Lldpdu

/-- `a` is the first of the `as` with a property. -/
def FirstOf {α : Type} (p : α → Prop) (as : List α) (a : α) : Prop :=
  ∃ before behind, as = before ++ a :: behind ∧ p a ∧ ∀ b ∈ before, ¬ p b

theorem FirstOf.mem {α : Type} {p : α → Prop} {as : List α} {a : α} (first : FirstOf p as a) :
    a ∈ as := by
  rcases first with ⟨before, behind, rfl, -, -⟩
  exact List.mem_append_right before List.mem_cons_self

theorem FirstOf.holds {α : Type} {p : α → Prop} {as : List α} {a : α} (first : FirstOf p as a) :
    p a := by
  rcases first with ⟨before, behind, -, holds, -⟩
  exact holds

theorem find?_eq_some_iff_firstOf {α : Type} (p : α → Bool) (as : List α) (a : α) :
    as.find? p = some a ↔ FirstOf (fun b => p b = true) as a := by
  rw [List.find?_eq_some_iff_append]
  constructor
  · rintro ⟨holds, before, behind, split, others⟩
    exact ⟨before, behind, split, holds, by simpa using others⟩
  · rintro ⟨before, behind, split, holds, others⟩
    exact ⟨holds, before, behind, split, by simpa using others⟩

/-- A list whose first element has the property. -/
theorem firstOf_cons_iff {α : Type} {p : α → Prop} {a b : α} {as : List α} :
    FirstOf p (a :: as) b ↔ p a ∧ b = a ∨ ¬ p a ∧ FirstOf p as b := by
  constructor
  · rintro ⟨before, behind, split, holds, others⟩
    cases before with
    | nil =>
        simp only [List.nil_append, List.cons.injEq] at split
        rcases split with ⟨rfl, -⟩
        exact .inl ⟨holds, rfl⟩
    | cons c before =>
        simp only [List.cons_append, List.cons.injEq] at split
        rcases split with ⟨rfl, rfl⟩
        rcases List.forall_mem_cons.mp others with ⟨fails, others⟩
        exact .inr ⟨fails, before, behind, rfl, holds, others⟩
  · rintro (⟨holds, rfl⟩ | ⟨fails, before, behind, rfl, holds, others⟩)
    · exact ⟨[], as, rfl, holds, by simp⟩
    · exact ⟨a :: before, behind, rfl, holds, List.forall_mem_cons.mpr ⟨fails, others⟩⟩

namespace Frame

/-- No TLV has the type. -/
def Absent (walked : List Tlv) (kind : TlvType) : Prop :=
  ∀ t ∈ walked, t.kind ≠ kind

/-- A TLV whose value should be a field of a frame and is too short for it. -/
def TooShort (t : Tlv) : Prop :=
  t.kind ∈ fieldTypes ∧ t.value.length < 2

/-- No TLV has the type, or it is the type of an identifier and the last one is reserved. -/
def Unusable (walked : List Tlv) (kind : TlvType) : Prop :=
  Absent walked kind ∨
    kind ∈ [TlvType.chassisId, .portId] ∧ ∃ t, Tlv.IsLast kind walked t ∧ t.value.head? = some 0

/-- The mandatory types in the order in which they are looked up. -/
def lookupOrder : List TlvType :=
  [.timeToLive, .chassisId, .portId, .endOfPdu]

/-- The reasons to refuse TLVs that are all complete, each with the type that is reported. -/
inductive Refused (walked : List Tlv) : TlvType → Prop where
  /-- There are fewer than four TLVs, and this type is the first one absent. -/
  | few {kind : TlvType} (few : walked.length < 4)
      (absent : FirstOf (Absent walked) [.chassisId, .portId, .timeToLive, .endOfPdu] kind) :
      Refused walked kind
  /-- A value is too short, and no earlier one is. -/
  | short {t : Tlv} (enough : 4 ≤ walked.length) (short : FirstOf TooShort walked t) :
      Refused walked t.kind
  /-- A type is unusable, and no other one that is looked at earlier is. -/
  | unusable {kind : TlvType} (enough : 4 ≤ walked.length) (long : ∀ t ∈ walked, ¬ TooShort t)
      (unusable : FirstOf (Unusable walked) lookupOrder kind) :
      Refused walked kind

/-- The reasons to refuse a buffer, each with the error that is reported. -/
inductive Refusal (buffer : Octets) : FrameError → Prop where
  /-- The walk meets a cut TLV behind complete ones, none of which is the End TLV. -/
  | truncated {ts : List Tlv} {tail : Octets} (wellFormed : ∀ t ∈ ts, t.WellFormed)
      (split : buffer = Tlv.encodeAll ts ++ tail) (cut : Tlv.Cut tail) :
      Refusal buffer (.truncated ⟨(Tlv.encodeAll ts).length, Tlv.needed tail, tail.length⟩)
  /-- The walk goes over complete TLVs, which are refused. -/
  | missing {walked : List Tlv} {kind : TlvType}
      (items : (Walk.ofOctets buffer).items = walked.map .ok) (refused : Refused walked kind) :
      Refusal buffer (.missing kind)

theorem tooShort_iff (t : Tlv) : TooShort t ↔ t.isStunted = true := by
  rw [← Bool.not_eq_false, isStunted_eq_false_iff, TooShort]
  simp

theorem find?_isStunted_eq_some_iff (walked : List Tlv) (t : Tlv) :
    walked.find? Tlv.isStunted = some t ↔ FirstOf TooShort walked t := by
  rw [find?_eq_some_iff_firstOf]
  simp only [FirstOf, tooShort_iff]

/-- Fewer TLVs than mandatory types leave a type out. -/
theorem exists_absent {walked : List Tlv} (few : walked.length < mandatoryTypes.length) :
    ∃ kind ∈ mandatoryTypes, Absent walked kind := by
  by_contra none
  simp only [Absent, not_exists, not_and, not_forall, not_not] at none
  apply Nat.not_le.mpr few
  apply length_le_of_covers
  intro kind member
  rcases none kind member with ⟨t, found, isKind⟩
  exact ⟨t, found, isKind⟩

/-- The type reported of too few TLVs is the first one absent.  The type to fall back on where
none is absent is never needed. -/
theorem firstOf_absent_iff {walked : List Tlv} (few : walked.length < mandatoryTypes.length)
    (kind : TlvType) : FirstOf (Absent walked) mandatoryTypes kind ↔ kind = absentType walked := by
  have search (sought : TlvType) :
      (mandatoryTypes.find? fun kind => walked.all (·.kind ≠ kind)) = some sought ↔
        FirstOf (Absent walked) mandatoryTypes sought := by
    rw [find?_eq_some_iff_firstOf]
    simp only [List.all_eq_true, decide_eq_true_eq]
    rfl
  rcases exists_absent few with ⟨absent, member, isAbsent⟩
  have found : (mandatoryTypes.find? fun kind => walked.all (·.kind ≠ kind)).isSome := by
    rw [List.find?_isSome]
    exact ⟨absent, member, by simpa [Absent] using isAbsent⟩
  rcases Option.isSome_iff_exists.mp found with ⟨first, isFirst⟩
  rw [← search, absentType, isFirst, Option.some.injEq, Option.getD_some]
  exact eq_comm

theorem lastValue?_eq_none_iff_unusable {walked : List Tlv} {kind : TlvType}
    (plain : kind ∉ [TlvType.chassisId, .portId]) :
    lastValue? kind walked = none ↔ Unusable walked kind := by
  rw [lastValue?_eq_none_iff, Unusable, Absent]
  constructor
  · exact .inl
  · rintro (absent | ⟨identifier, -⟩)
    · exact absent
    · exact absurd identifier plain

theorem identifier?_eq_none_iff_unusable {subtypes : Registry UInt8} {walked : List Tlv}
    (long : ∀ t ∈ walked, ¬ TooShort t) {kind : TlvType}
    (identifies : kind ∈ [TlvType.chassisId, .portId]) :
    (identifier? kind walked : Option (Identifier subtypes)) = none ↔ Unusable walked kind := by
  have field : kind ∈ fieldTypes := List.mem_append_left [TlvType.timeToLive] identifies
  constructor
  · intro none
    by_cases absent : Absent walked kind
    · exact .inl absent
    simp only [Absent, not_forall, not_not] at absent
    rcases absent with ⟨u, member, isKind⟩
    rcases Tlv.exists_isLast ⟨u, member, isKind⟩ with ⟨t, last⟩
    refine .inr ⟨identifies, t, last, ?_⟩
    by_contra usable
    cases value : t.value with
    | nil => exact long t last.mem ⟨last.kind_eq ▸ field, by simp [value]⟩
    | cons subtype id =>
        have found := (identifier?_eq_some_iff kind walked
          (Identifier.ofValue t.value : Identifier subtypes)).mpr
            ⟨t, last, rfl, by simpa [value, Octets.octet] using usable⟩
        rw [none] at found
        contradiction
  · intro unusable
    cases found : (identifier? kind walked : Option (Identifier subtypes)) with
    | none => rfl
    | some i =>
        rcases (identifier?_eq_some_iff kind walked i).mp found with ⟨t, last, -, usable⟩
        rcases unusable with absent | ⟨-, u, lastU, reserved⟩
        · exact absurd last.kind_eq (absent t last.mem)
        · obtain rfl := last.unique lastU
          rcases List.head?_eq_some_iff.mp reserved with ⟨id, value⟩
          exact absurd (by rw [value]; rfl) usable

/-- What the checks on the types come to, one after the other. -/
theorem firstOf_unusable_iff (walked : List Tlv) (kind : TlvType) :
    FirstOf (Unusable walked) lookupOrder kind ↔
      Unusable walked .timeToLive ∧ kind = .timeToLive ∨ ¬ Unusable walked .timeToLive ∧
        (Unusable walked .chassisId ∧ kind = .chassisId ∨ ¬ Unusable walked .chassisId ∧
          (Unusable walked .portId ∧ kind = .portId ∨ ¬ Unusable walked .portId ∧
            Unusable walked .endOfPdu ∧ kind = .endOfPdu)) := by
  have nothing : ¬ FirstOf (Unusable walked) [] kind := by
    intro first
    exact absurd first.mem List.not_mem_nil
  simp only [lookupOrder, firstOf_cons_iff, nothing, and_false, or_false]

theorem refused_iff_unusable {walked : List Tlv} (enough : 4 ≤ walked.length)
    (long : ∀ t ∈ walked, ¬ TooShort t) (kind : TlvType) :
    Refused walked kind ↔
      FirstOf (Unusable walked) lookupOrder kind := by
  constructor
  · intro refused
    cases refused with
    | few few _ => exact absurd few (Nat.not_lt.mpr enough)
    | short _ short => exact absurd short.holds (long _ short.mem)
    | unusable _ _ unusable => exact unusable
  · exact .unusable enough long

theorem require_bind_eq_error_iff {α β : Type} (kind : TlvType) (found : Option α)
    (next : α → Except FrameError β) (e : FrameError) :
    (require kind found >>= next) = .error e ↔
      found = none ∧ e = .missing kind ∨ ∃ a, found = some a ∧ next a = .error e := by
  cases found with
  | none => simp [require, bind, Except.bind, eq_comm]
  | some a => simp [require, bind, Except.bind]

/-- Where there are enough TLVs and none is too short, the first unusable type is reported. -/
theorem ofTlvs_eq_error_iff_unusable (buffer : Octets) {walked : List Tlv}
    (enough : 4 ≤ walked.length) (long : ∀ t ∈ walked, ¬ TooShort t) (e : FrameError) :
    ofTlvs buffer walked = .error e ↔ ∃ kind, e = .missing kind ∧
      FirstOf (Unusable walked) lookupOrder kind := by
  have unstunted : walked.find? Tlv.isStunted = none := by
    rw [List.find?_eq_none]
    intro t member
    rw [← tooShort_iff]
    exact long t member
  have noTtl : lastValue? .timeToLive walked = none ↔ Unusable walked .timeToLive :=
    lastValue?_eq_none_iff_unusable (by decide)
  have noChassis {subtypes : Registry UInt8} :
      (identifier? .chassisId walked : Option (Identifier subtypes)) = none ↔
        Unusable walked .chassisId :=
    identifier?_eq_none_iff_unusable long (by decide)
  have noPort {subtypes : Registry UInt8} :
      (identifier? .portId walked : Option (Identifier subtypes)) = none ↔
        Unusable walked .portId :=
    identifier?_eq_none_iff_unusable long (by decide)
  have noEnd : lastValue? .endOfPdu walked = none ↔ Unusable walked .endOfPdu :=
    lastValue?_eq_none_iff_unusable (by decide)
  have reached : ¬ walked.length < mandatoryTypes.length := Nat.not_lt.mpr enough
  rw [ofTlvs, if_neg reached, unstunted]
  simp only [require_bind_eq_error_iff, pure, Except.pure, reduceCtorEq, and_false,
    exists_false, or_false, exists_and_right, ← Option.ne_none_iff_exists', ne_eq, noTtl, noChassis,
    noPort, noEnd, firstOf_unusable_iff]
  constructor
  · rintro (⟨ttl, rfl⟩ | ⟨ttl, ⟨chassis, rfl⟩ | ⟨chassis, ⟨port, rfl⟩ | ⟨port, ending, rfl⟩⟩⟩)
    · exact ⟨.timeToLive, rfl, .inl ⟨ttl, rfl⟩⟩
    · exact ⟨.chassisId, rfl, .inr ⟨ttl, .inl ⟨chassis, rfl⟩⟩⟩
    · exact ⟨.portId, rfl, .inr ⟨ttl, .inr ⟨chassis, .inl ⟨port, rfl⟩⟩⟩⟩
    · exact ⟨.endOfPdu, rfl, .inr ⟨ttl, .inr ⟨chassis, .inr ⟨port, ending, rfl⟩⟩⟩⟩
  · rintro ⟨kind, rfl, ⟨ttl, rfl⟩ | ⟨ttl, ⟨chassis, rfl⟩ | ⟨chassis, ⟨port, rfl⟩ |
      ⟨port, ending, rfl⟩⟩⟩⟩
    · exact .inl ⟨ttl, rfl⟩
    · exact .inr ⟨ttl, .inl ⟨chassis, rfl⟩⟩
    · exact .inr ⟨ttl, .inr ⟨chassis, .inl ⟨port, rfl⟩⟩⟩
    · exact .inr ⟨ttl, .inr ⟨chassis, .inr ⟨port, ending, rfl⟩⟩⟩

/-- The reasons are exactly those for which decoding fails behind the walk. -/
theorem ofTlvs_eq_error_iff (buffer : Octets) (walked : List Tlv) (e : FrameError) :
    ofTlvs buffer walked = .error e ↔ ∃ kind, e = .missing kind ∧ Refused walked kind := by
  by_cases few : walked.length < mandatoryTypes.length
  · rw [ofTlvs, if_pos few, Except.error.injEq]
    constructor
    · rintro rfl
      exact ⟨absentType walked, rfl, .few few ((firstOf_absent_iff few _).mpr rfl)⟩
    · rintro ⟨kind, rfl, refused⟩
      cases refused with
      | few _ absent => rw [(firstOf_absent_iff few kind).mp absent]
      | short enough _ => exact absurd few (Nat.not_lt.mpr enough)
      | unusable enough _ _ => exact absurd few (Nat.not_lt.mpr enough)
  have enough : 4 ≤ walked.length := Nat.not_lt.mp few
  cases stunted : walked.find? Tlv.isStunted with
  | some t =>
      have first := (find?_isStunted_eq_some_iff walked t).mp stunted
      rw [ofTlvs, if_neg few, stunted, Except.error.injEq]
      constructor
      · rintro rfl
        exact ⟨t.kind, rfl, .short enough first⟩
      · rintro ⟨kind, rfl, refused⟩
        cases refused with
        | few few _ => exact absurd few (Nat.not_lt.mpr enough)
        | @short u _ short =>
            rw [← find?_isStunted_eq_some_iff, stunted, Option.some.injEq] at short
            rw [short]
        | unusable _ long _ => exact absurd first.holds (long t first.mem)
  | none =>
      have long : ∀ t ∈ walked, ¬ TooShort t := by
        intro t member
        rw [tooShort_iff]
        exact List.find?_eq_none.mp stunted t member
      rw [ofTlvs_eq_error_iff_unusable buffer enough long]
      simp only [refused_iff_unusable enough long]

/-- The TLVs that a walk goes over determine the error. -/
theorem decode_eq_error_iff_refused {buffer : Octets} {walked : List Tlv}
    (items : (Walk.ofOctets buffer).items = walked.map .ok) (e : FrameError) :
    decode buffer = .error e ↔ ∃ kind, e = .missing kind ∧ Refused walked kind := by
  rw [decode_of_items items, ofTlvs_eq_error_iff]

/-- What is not decoded is refused for one of the reasons. -/
theorem refusal_of_decode {buffer : Octets} {e : FrameError} (failed : decode buffer = .error e) :
    Refusal buffer e := by
  have missing {walked : List Tlv} (items : (Walk.ofOctets buffer).items = walked.map .ok) :
      Refusal buffer e := by
    rcases (decode_eq_error_iff_refused items e).mp failed with ⟨kind, rfl, refused⟩
    exact .missing items refused
  rcases Walk.exists_ending buffer with
    ⟨ts, wellFormed, -, out | ⟨high, low, body, -, -, items, -⟩ |
      ⟨tail, split, cut, -, items, -⟩⟩
  · exact missing out.items
  · have joined : (Walk.ofOctets buffer).items = (ts ++ [Tlv.atEnd high low body]).map .ok := by
      rw [items, List.map_append]
      rfl
    exact missing joined
  · rw [decode_of_items_error items, Except.error.injEq] at failed
    rw [← failed]
    exact .truncated wellFormed split cut

theorem decode_of_refusal {buffer : Octets} {e : FrameError} (refusal : Refusal buffer e) :
    decode buffer = .error e := by
  cases refusal with
  | truncated wellFormed split cut =>
      subst split
      rcases Walk.next?_underway_cut cut _ with ⟨w, next, status, -⟩
      exact decode_of_items_error
        (Walk.items_and_stop_of_residue wellFormed next (by simp [status])).1
  | @missing walked kind items refused =>
      exact (decode_eq_error_iff_refused items _).mpr ⟨kind, rfl, refused⟩

/-- Decoding fails for exactly the reasons of a `Refusal`, with the error that goes with it.
Too few TLVs always leave out a type to report, and of a cut TLV fewer octets are there than it
needs. -/
theorem decode_eq_error_iff (buffer : Octets) :
    (∀ e, decode buffer = .error e ↔ Refusal buffer e) ∧
      (∀ walked : List Tlv, walked.length < 4 →
        ∃ kind, FirstOf (Absent walked) [.chassisId, .portId, .timeToLive, .endOfPdu] kind) ∧
      ∀ cause, decode buffer = .error (.truncated cause) → cause.remaining < cause.needed := by
  refine ⟨fun e => ⟨refusal_of_decode, decode_of_refusal⟩, ?_, ?_⟩
  · intro walked few
    exact ⟨absentType walked, (firstOf_absent_iff few _).mpr rfl⟩
  · intro cause failed
    cases refusal_of_decode failed with
    | truncated wellFormed split cut => exact cut.length_lt_needed

/-- Without a chassis and a time to live, one TLV more or less decides which of them is
reported. -/
theorem refusal_without_chassisId_and_timeToLive :
    Refusal [4, 2, 5, 65, 10, 0, 0, 0] (.missing .chassisId) ∧
      Refusal [4, 2, 5, 65, 10, 0, 10, 0, 0, 0] (.missing .timeToLive) :=
  ⟨((decode_eq_error_iff _).1 _).mp (by decide +kernel),
    ((decode_eq_error_iff _).1 _).mp (by decide +kernel)⟩

end Frame

end Lldpdu
