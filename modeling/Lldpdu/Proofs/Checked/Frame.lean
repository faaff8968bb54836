import Lldpdu.Proofs.Checked.Walk
import Lldpdu.Proofs.Frame.Acceptance

/-!
# The frame, operation by operation

The TLVs of a buffer are gone through once, and what is found is kept in `Fields` on the way: a
later TLV of a mandatory type replaces an earlier one, and a value that is too short ends the loop.
What is missing is looked for behind the loop.

None of the lookups and reads faults, since each stands behind a check of the length, and the room
for the TLVs that are not mandatory is computed only where there are four TLVs.  The loop finds
what `Frame.ofTlvs` picks out of the list of TLVs.
-/

namespace Lldpdu.Checked

/-- The identifier in a value of the given type. -/
def identifier {subtypes : Registry UInt8} (kind : TlvType) (value : Octets) :
    Checked (Except FrameError (Identifier subtypes)) := do
  if value.length < 2 then
    return .error (.missing kind)
  let subtype ← octet value 0
  let id ← rangeFrom value 1
  return .ok { subtype := ⟨subtype⟩, id }

/-- What the TLVs so far have told about a frame.  An identifier not yet found counts as
reserved. -/
structure Fields where
  chassisId : ChassisId := ⟨default, []⟩
  portId : PortId := ⟨default, []⟩
  timeToLive? : Option UInt16 := none
  values : List Tlv := []
  deriving DecidableEq, Repr

namespace Fields

/-- The fields after one more TLV. -/
def add (fields : Fields) (t : Tlv) : Checked (Except FrameError Fields) := do
  match t.kind with
  | .endOfPdu => return .ok fields
  | .chassisId =>
      return (← identifier .chassisId t.value).map fun chassisId => { fields with chassisId }
  | .portId => return (← identifier .portId t.value).map fun portId => { fields with portId }
  | .timeToLive =>
      if t.value.length < 2 then
        return .error (.missing .timeToLive)
      let timeToLive ← u16 (← range t.value 0 2)
      return .ok { fields with timeToLive? := some timeToLive }
  | _ => return .ok { fields with values := fields.values ++ [t] }

/-- The fields after some more TLVs. -/
def addAll (fields : Fields) : List Tlv → Checked (Except FrameError Fields)
  | [] => return .ok fields
  | t :: ts => do
      match ← fields.add t with
      | .error cause => return .error cause
      | .ok fields => fields.addAll ts

/-- The frame, unless something is missing. -/
def finish (fields : Fields) (buffer : Octets) (endSeen : Bool) : Except FrameError Frame :=
  match fields.timeToLive? with
  | none => .error (.missing .timeToLive)
  | some timeToLive =>
      if fields.chassisId.isReserved then .error (.missing .chassisId)
      else if fields.portId.isReserved then .error (.missing .portId)
      else if endSeen then
        .ok {
          chassisId := fields.chassisId
          portId := fields.portId
          timeToLive
          values := fields.values
          buffer }
      else .error (.missing .endOfPdu)

end Fields

/-- The frame that a buffer holds. -/
def frame (buffer : Octets) : Checked (Except FrameError Frame) := do
  let (collected, walker) ← (Walker.ofOctets buffer).collect
  match collected with
  | .error cause => return .error (.truncated cause)
  | .ok tlvs =>
      if tlvs.length < mandatoryTypes.length then
        return .error (.missing (Frame.absentType tlvs))
      -- The difference is the room for the TLVs that are not mandatory; the list needs none.
      let _room ← subWord tlvs.length mandatoryTypes.length
      match ← ({} : Fields).addAll tlvs with
      | .error cause => return .error cause
      | .ok fields => return fields.finish buffer walker.endSeen

/-! ## What the fields are -/

theorem identifier_eq_ok {subtypes : Registry UInt8} (kind : TlvType) (value : Octets) :
    (identifier kind value : Checked (Except FrameError (Identifier subtypes))) =
      .ok (if value.length < 2 then .error (.missing kind) else .ok (.ofValue value)) := by
  rw [identifier]
  by_cases short : value.length < 2
  · rw [if_pos short, if_pos short]
    rfl
  · rw [if_neg short, if_neg short, octet_eq_ok (by omega), ok_bind, rangeFrom_eq_ok (by omega)]
    rfl

namespace Fields

/-- The identifier in the value of a TLV, or a reserved one. -/
def identifierOf {subtypes : Registry UInt8} (value? : Option Octets) : Identifier subtypes :=
  (value?.map Identifier.ofValue).getD ⟨default, []⟩

/-- The fields that some TLVs tell. -/
def ofTlvs (ts : List Tlv) : Fields where
  chassisId := identifierOf (Frame.lastValue? .chassisId ts)
  portId := identifierOf (Frame.lastValue? .portId ts)
  timeToLive? := (Frame.lastValue? .timeToLive ts).map (·.u16 0)
  values := ts.filter fun t => ! mandatoryTypes.contains t.kind

/-- A further TLV changes the field of its type. -/
theorem ofTlvs_append_singleton (ts : List Tlv) (t : Tlv) :
    ofTlvs (ts ++ [t]) =
      { chassisId := if t.kind = .chassisId then .ofValue t.value else (ofTlvs ts).chassisId
        portId := if t.kind = .portId then .ofValue t.value else (ofTlvs ts).portId
        timeToLive? :=
          if t.kind = .timeToLive then some (t.value.u16 0) else (ofTlvs ts).timeToLive?
        values := (ofTlvs ts).values ++ if t.kind ∈ mandatoryTypes then [] else [t] } := by
  simp only [ofTlvs, Frame.lastValue?_append_singleton, List.filter_append]
  congr 1
  · by_cases chassisId : t.kind = .chassisId <;> simp [chassisId, identifierOf]
  · by_cases portId : t.kind = .portId <;> simp [portId, identifierOf]
  · by_cases timeToLive : t.kind = .timeToLive <;> simp [timeToLive]
  · by_cases mandatory : t.kind ∈ mandatoryTypes <;> simp [mandatory]

/-- One round of the loop: a TLV that is too short ends it, and any other is taken up. -/
theorem add_ofTlvs (ts : List Tlv) (t : Tlv) :
    (ofTlvs ts).add t =
      .ok (if t.isStunted then .error (.missing t.kind) else .ok (ofTlvs (ts ++ [t]))) := by
  rw [add, identifier_eq_ok, identifier_eq_ok, ofTlvs_append_singleton]
  split
  next kind => simp +decide [Tlv.isStunted, kind]
  next kind =>
    by_cases short : t.value.length < 2 <;> simp +decide [Tlv.isStunted, kind, short, Except.map]
  next kind =>
    by_cases short : t.value.length < 2 <;> simp +decide [Tlv.isStunted, kind, short, Except.map]
  next kind =>
    by_cases short : t.value.length < 2
    · simp +decide [Tlv.isStunted, kind, short]
    · have two : 0 + 2 ≤ t.value.length := by omega
      rw [range_eq_ok (Nat.zero_le 2) two, ok_bind, u16_slice two, ok_bind]
      simp +decide [Tlv.isStunted, kind, short]
  next notEnd notChassis notPort notTime =>
    have endOfPdu : t.kind ≠ .endOfPdu := notEnd
    have chassisId : t.kind ≠ .chassisId := notChassis
    have portId : t.kind ≠ .portId := notPort
    have timeToLive : t.kind ≠ .timeToLive := notTime
    simp [Tlv.isStunted, mandatoryTypes, endOfPdu, chassisId, portId, timeToLive]

/-- The loop stops at the first TLV that is too short, or takes up all of them. -/
theorem addAll_ofTlvs (before ts : List Tlv) :
    (ofTlvs before).addAll ts =
      .ok (match ts.find? Tlv.isStunted with
        | some t => .error (.missing t.kind)
        | none => .ok (ofTlvs (before ++ ts))) := by
  induction ts generalizing before with
  | nil => rw [List.append_nil]; rfl
  | cons t ts ih =>
      rw [addAll, add_ofTlvs, ok_bind]
      cases stunted : t.isStunted with
      | true => simp [stunted]
      | false => simp [stunted, ih]

/-- An identifier is found exactly if it is not reserved. -/
theorem identifier?_eq {subtypes : Registry UInt8} (kind : TlvType) (ts : List Tlv) :
    (Frame.identifier? kind ts : Option (Identifier subtypes)) =
      if (identifierOf (Frame.lastValue? kind ts) : Identifier subtypes).isReserved then none
      else some (identifierOf (Frame.lastValue? kind ts)) := by
  rw [Frame.identifier?]
  cases Frame.lastValue? kind ts with
  | none => rfl
  | some value =>
      cases reserved : (Identifier.ofValue value : Identifier subtypes).isReserved <;>
        simp [identifierOf, reserved]

/-- What is missing behind the loop is what the list of TLVs lacks. -/
theorem finish_ofTlvs (buffer : Octets) {ts : List Tlv}
    (enough : ¬ ts.length < mandatoryTypes.length) (long : ts.find? Tlv.isStunted = none) :
    (ofTlvs ts).finish buffer (Frame.lastValue? .endOfPdu ts).isSome = Frame.ofTlvs buffer ts := by
  have values : (ts.filter fun t => ! mandatoryTypes.contains t.kind) =
      ts.filter fun t => t.kind ∉ mandatoryTypes :=
    List.filter_congr fun t _ => by simp
  rw [Frame.ofTlvs, if_neg enough, long, finish, ofTlvs, values]
  simp only [identifier?_eq]
  cases Frame.lastValue? .timeToLive ts with
  | none => rfl
  | some timeToLive =>
      cases (identifierOf (Frame.lastValue? .chassisId ts) : ChassisId).isReserved with
      | true => rfl
      | false =>
          cases (identifierOf (Frame.lastValue? .portId ts) : PortId).isReserved with
          | true => rfl
          | false => cases Frame.lastValue? .endOfPdu ts <;> rfl

end Fields

/-! ## The frame -/

/-- The walk has seen the End TLV exactly if it is among the TLVs. -/
theorem endSeen_stop {buffer : Octets} {ts : List Tlv} (whole : Tlv.ofOctets buffer = .ok ts) :
    (Walk.ofOctets buffer).stop.endSeen = (Frame.lastValue? .endOfPdu ts).isSome := by
  obtain ⟨front, wellFormed, -, ending⟩ := Walk.exists_ending buffer
  rcases ending with out | ⟨high, low, body, -, -, items, seen, -⟩ | ⟨tail, -, -, -, items, -⟩
  · have walked := whole.symm.trans (Frame.ofOctets_of_items out.items)
    obtain rfl := Except.ok.inj walked
    have none := (Frame.lastValue?_eq_none_iff .endOfPdu ts).mpr fun t member =>
      (wellFormed t member).kind_ne
    rw [out.endSeen, none]
    rfl
  · have split : (Walk.ofOctets buffer).items = (front ++ [Tlv.atEnd high low body]).map .ok := by
      rw [items, List.map_append]
      rfl
    have walked := whole.symm.trans (Frame.ofOctets_of_items split)
    obtain rfl := Except.ok.inj walked
    rw [seen, Frame.lastValue?_append_singleton, Tlv.atEnd, if_pos rfl]
    rfl
  · have walked := whole.symm.trans (Frame.ofOctets_of_items_error items)
    contradiction

/-- No buffer makes the decoder fault, and its frame or its error is that of the buffer. -/
theorem frame_eq_ok {buffer : Octets} (small : buffer.length < 2 ^ 63) :
    frame buffer = .ok (Frame.decode buffer) := by
  have inside : Inside (Walker.ofOctets buffer).reader := ⟨Nat.zero_le _, small⟩
  obtain ⟨w, collected, view⟩ := Walker.collect_eq_ok inside
  rw [Walker.view_ofOctets] at collected view
  rw [frame, collected, ok_bind, Frame.decode]
  cases whole : Tlv.ofOctets buffer with
  | error cause =>
      rw [Tlv.ofOctets] at whole
      rw [whole]
      rfl
  | ok ts =>
      have endSeen : w.endSeen = (Frame.lastValue? .endOfPdu ts).isSome := by
        rw [← Walker.endSeen_view, view, endSeen_stop whole]
      rw [Tlv.ofOctets] at whole
      rw [whole]
      simp only [endSeen]
      by_cases few : ts.length < mandatoryTypes.length
      · rw [if_pos few, Frame.ofTlvs, if_pos few]
        rfl
      · have empty : ({} : Fields) = .ofTlvs [] := rfl
        rw [if_neg few, subWord_eq_ok (Nat.not_lt.mp few), ok_bind, empty, Fields.addAll_ofTlvs,
          List.nil_append, ok_bind]
        cases stunted : ts.find? Tlv.isStunted with
        | some t =>
            rw [Frame.ofTlvs, if_neg few, stunted]
            rfl
        | none =>
            simp only [pure_eq_ok, Fields.finish_ofTlvs buffer few stunted]

end Lldpdu.Checked
