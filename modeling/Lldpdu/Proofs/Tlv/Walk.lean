import Lldpdu.Proofs.Tlv.Encoding
import Lldpdu.Tlv.Walk

/-!
# Walks over written TLVs

A walk takes the TLVs off a buffer in the order in which they were written.  Behind the last of
them it meets a residue, and what it does there depends on the residue alone: it runs out of
octets, it meets the End TLV, or it meets a TLV that is cut off.

Since every buffer is written TLVs and a residue, these facts describe the walk over every
buffer, and the buffer determines its TLVs and its residue.
-/

namespace Lldpdu

/-- The End TLV at the given header.  Its value is empty if the octets that it declares are not all
there. -/
def Tlv.atEnd (high low : UInt8) (body : Octets) : Tlv where
  kind := .endOfPdu
  length := UInt16.ofNat (headerSize high low)
  value := if headerSize high low ≤ body.length then body.take (headerSize high low) else []

namespace Walk

/-! ## Calls -/

/-- A walk in the middle of a buffer. -/
def underway (consumed : Nat) (rest : Octets) : Walk :=
  { consumed, rest, status := .running }

theorem ofOctets_eq_underway (buffer : Octets) : ofOctets buffer = underway 0 buffer :=
  rfl

/-- The walk past its next item.  A walk without one stays where it is. -/
def past (w : Walk) : Walk :=
  match w.next? with
  | some (_, w') => w'
  | none => w

/-- The walk after some calls for the next item. -/
def after (w : Walk) : Nat → Walk
  | 0 => w
  | n + 1 => w.past.after n

/-- Where the walk stops: the walk past its last item. -/
def stop (w : Walk) : Walk :=
  w.after w.items.length

theorem past_of_next?_eq_some {w w' : Walk} {x : Except Truncation Tlv}
    (h : w.next? = some (x, w')) : w.past = w' := by
  simp [past, h]

theorem stop_of_next?_eq_none {w : Walk} (h : w.next? = none) : w.stop = w := by
  rw [stop, items_of_next?_eq_none h]
  rfl

theorem stop_of_next?_eq_some {w w' : Walk} {x : Except Truncation Tlv}
    (h : w.next? = some (x, w')) : w.stop = w'.stop := by
  rw [stop, items_of_next?_eq_some h, List.length_cons, after, past_of_next?_eq_some h]
  rfl

/-- There is no item where a walk stops. -/
theorem next?_stop (w : Walk) : w.stop.next? = none := by
  induction w using items.induct with
  | case1 w none => rwa [stop_of_next?_eq_none none]
  | case2 w x w' some ih => rwa [stop_of_next?_eq_some some]

/-! ## One call -/

theorem next?_underway_nil (p : Nat) : (underway p []).next? = none :=
  rfl

/-- What is behind a header decides what the item is. -/
theorem next?_underway_header (p : Nat) (high low : UInt8) (body : Octets) :
    (underway p (high :: low :: body)).next? =
      some ((underway p (high :: low :: body)).item (Tlv.headerKind high low)
        (Tlv.headerSize high low) body) :=
  rfl

/-- A written TLV is the next item, and the walk goes on behind it. -/
theorem next?_underway_encode {t : Tlv} (wellFormed : t.WellFormed) (p : Nat) (rest : Octets) :
    (underway p (t.encode ++ rest)).next? =
      some (.ok t, underway (p + t.encode.length) rest) := by
  obtain ⟨high, low, written, kind, size⟩ :=
    Tlv.exists_header_eq wellFormed.sevenBits wellFormed.nineBits
  have octets : t.encode ++ rest = high :: low :: (t.value ++ rest) := by
    rw [Tlv.encode, written]
    rfl
  have fits : t.value.length ≤ (t.value ++ rest).length := by
    rw [List.length_append]
    exact Nat.le_add_right _ _
  rw [octets, next?_underway_header, kind, size, item, if_pos fits, if_neg wellFormed.kind_ne,
    Tlv.length_encode]
  simp [underway, advance, wellFormed.length_eq, Tlv.headerLength, Nat.add_comm 2]

/-- At an End header the End TLV is the next item, whatever length it declares. -/
theorem next?_underway_ended {high low : UInt8} (isEnd : Tlv.headerKind high low = .endOfPdu)
    (p : Nat) (body : Octets) :
    (underway p (high :: low :: body)).next? =
      some (.ok (Tlv.atEnd high low body),
        { consumed := p + 2 + (Tlv.atEnd high low body).value.length
          rest := body.drop (Tlv.atEnd high low body).value.length
          status := .ended }) := by
  rw [next?_underway_header, isEnd, item, Tlv.atEnd]
  by_cases fits : Tlv.headerSize high low ≤ body.length
  · simp [fits, advance, underway, Tlv.headerLength, Nat.add_assoc, Nat.add_comm 2]
  · simp [fits, advance, underway, Tlv.headerLength]

/-- A cut TLV is reported.  Its header is consumed if both octets are there. -/
theorem next?_underway_cut {tail : Octets} (cut : Tlv.Cut tail) (p : Nat) :
    ∃ w, (underway p tail).next? = some (.error ⟨p, Tlv.needed tail, tail.length⟩, w) ∧
      w.status = .cut ∧ w.consumed = if tail.length = 1 then p else p + 2 := by
  cases cut with
  | header octet => exact ⟨_, rfl, rfl, rfl⟩
  | @value high low body other short =>
      refine ⟨{ consumed := p + 2, rest := body, status := .cut }, ?_, rfl, by simp⟩
      rw [next?_underway_header, item, if_neg (Nat.not_le.mpr short), if_neg other]
      rfl

theorem next?_of_status_ne_running {w : Walk} (finished : w.status ≠ .running) :
    w.next? = none := by
  unfold next?
  split <;> simp_all

/-- A TLV that is cut off is the last item. -/
theorem status_of_next?_eq_error {w w' : Walk} {cause : Truncation}
    (h : w.next? = some (.error cause, w')) : w'.status = .cut := by
  unfold next? at h
  split at h
  · simp only [item, Option.some.injEq] at h
    split at h
    · simp at h
    · split at h
      · simp at h
      · simp only [Prod.mk.injEq] at h
        rw [← h.2]
        rfl
  · simp only [Option.some.injEq, Prod.mk.injEq] at h
    rw [← h.2]
    rfl
  · contradiction

/-! ## Whole walks -/

theorem items_underway_encodeAll_append {ts : List Tlv} (wellFormed : ∀ t ∈ ts, t.WellFormed)
    (p : Nat) (rest : Octets) :
    (underway p (Tlv.encodeAll ts ++ rest)).items =
      ts.map .ok ++ (underway (p + (Tlv.encodeAll ts).length) rest).items := by
  induction ts generalizing p with
  | nil => rfl
  | cons t ts ih =>
      rcases List.forall_mem_cons.mp wellFormed with ⟨first, others⟩
      rw [Tlv.encodeAll_cons, List.append_assoc,
        items_of_next?_eq_some (next?_underway_encode first p _), ih others,
        List.length_append, Nat.add_assoc]
      rfl

theorem stop_underway_encodeAll_append {ts : List Tlv} (wellFormed : ∀ t ∈ ts, t.WellFormed)
    (p : Nat) (rest : Octets) :
    (underway p (Tlv.encodeAll ts ++ rest)).stop =
      (underway (p + (Tlv.encodeAll ts).length) rest).stop := by
  induction ts generalizing p with
  | nil => rfl
  | cons t ts ih =>
      rcases List.forall_mem_cons.mp wellFormed with ⟨first, others⟩
      rw [Tlv.encodeAll_cons, List.append_assoc,
        stop_of_next?_eq_some (next?_underway_encode first p _), ih others,
        List.length_append, Nat.add_assoc]

/-- An item with which the walk is over is the only one. -/
theorem items_eq_singleton {w w' : Walk} {x : Except Truncation Tlv} (h : w.next? = some (x, w'))
    (finished : w'.status ≠ .running) : w.items = [x] ∧ w.stop = w' := by
  have none : w'.next? = none := next?_of_status_ne_running finished
  constructor
  · rw [items_of_next?_eq_some h, items_of_next?_eq_none none]
  · rw [stop_of_next?_eq_some h, stop_of_next?_eq_none none]

/-! ## Where a walk stops -/

/-- Behind `ts` the walk runs out of octets. -/
structure RunsOut (buffer : Octets) (ts : List Tlv) : Prop where
  whole : (Tlv.encodeAll ts).length = buffer.length
  items : (ofOctets buffer).items = ts.map .ok
  endSeen : (ofOctets buffer).stop.endSeen = false
  consumed : (ofOctets buffer).stop.consumed = buffer.length

/-- Behind `ts` the walk meets the End TLV. -/
def MeetsEnd (buffer : Octets) (ts : List Tlv) : Prop :=
  ∃ high low body, buffer = Tlv.encodeAll ts ++ high :: low :: body ∧
    Tlv.headerKind high low = .endOfPdu ∧
    (ofOctets buffer).items = ts.map .ok ++ [.ok (Tlv.atEnd high low body)] ∧
    (ofOctets buffer).stop.endSeen = true ∧
    (ofOctets buffer).stop.consumed =
      if Tlv.headerSize high low ≤ body.length then
        (Tlv.encodeAll ts).length + 2 + Tlv.headerSize high low
      else (Tlv.encodeAll ts).length + 2

/-- Behind `ts` the walk meets a TLV that is cut off. -/
def MeetsCut (buffer : Octets) (ts : List Tlv) : Prop :=
  ∃ tail, buffer = Tlv.encodeAll ts ++ tail ∧ Tlv.Cut tail ∧ tail.length < Tlv.needed tail ∧
    (ofOctets buffer).items =
      ts.map .ok ++ [.error ⟨(Tlv.encodeAll ts).length, Tlv.needed tail, tail.length⟩] ∧
    (ofOctets buffer).stop.endSeen = false ∧
    (ofOctets buffer).stop.consumed =
      if tail.length = 1 then (Tlv.encodeAll ts).length else (Tlv.encodeAll ts).length + 2

theorem runsOut_encodeAll {ts : List Tlv} (wellFormed : ∀ t ∈ ts, t.WellFormed) :
    RunsOut (Tlv.encodeAll ts) ts := by
  have items := items_underway_encodeAll_append wellFormed 0 []
  have stop := stop_underway_encodeAll_append wellFormed 0 []
  rw [items_of_next?_eq_none (next?_underway_nil _), List.append_nil, List.append_nil] at items
  rw [stop_of_next?_eq_none (next?_underway_nil _), List.append_nil, Nat.zero_add] at stop
  constructor
  · rfl
  · exact items
  · rw [ofOctets_eq_underway, stop]
    rfl
  · rw [ofOctets_eq_underway, stop]
    rfl

/-- The walk over written TLVs and a residue with which it is over after one item. -/
theorem items_and_stop_of_residue {ts : List Tlv} (wellFormed : ∀ t ∈ ts, t.WellFormed)
    {residue : Octets} {x : Except Truncation Tlv} {w : Walk}
    (h : (underway (Tlv.encodeAll ts).length residue).next? = some (x, w))
    (finished : w.status ≠ .running) :
    (ofOctets (Tlv.encodeAll ts ++ residue)).items = ts.map .ok ++ [x] ∧
      (ofOctets (Tlv.encodeAll ts ++ residue)).stop = w := by
  rcases items_eq_singleton h finished with ⟨items, stop⟩
  constructor
  · rw [ofOctets_eq_underway, items_underway_encodeAll_append wellFormed, Nat.zero_add, items]
  · rw [ofOctets_eq_underway, stop_underway_encodeAll_append wellFormed, Nat.zero_add, stop]

theorem meetsEnd_encodeAll_append {ts : List Tlv} (wellFormed : ∀ t ∈ ts, t.WellFormed)
    {high low : UInt8} (isEnd : Tlv.headerKind high low = .endOfPdu) (body : Octets) :
    MeetsEnd (Tlv.encodeAll ts ++ high :: low :: body) ts := by
  obtain ⟨items, stop⟩ := items_and_stop_of_residue wellFormed
    (next?_underway_ended isEnd (Tlv.encodeAll ts).length body) (by simp)
  refine ⟨high, low, body, rfl, isEnd, items, by rw [stop]; rfl, ?_⟩
  rw [stop]
  by_cases fits : Tlv.headerSize high low ≤ body.length
  · simp [Tlv.atEnd, fits]
  · simp [Tlv.atEnd, fits]

theorem meetsCut_encodeAll_append {ts : List Tlv} (wellFormed : ∀ t ∈ ts, t.WellFormed)
    {tail : Octets} (cut : Tlv.Cut tail) : MeetsCut (Tlv.encodeAll ts ++ tail) ts := by
  rcases next?_underway_cut cut (Tlv.encodeAll ts).length with ⟨w, next, status, consumed⟩
  rcases items_and_stop_of_residue wellFormed next (by simp [status]) with ⟨items, stop⟩
  refine ⟨tail, rfl, cut, cut.length_lt_needed, items, ?_, ?_⟩
  · rw [stop, endSeen, status]
    rfl
  · rw [stop, consumed]

/-- A residue is what the walk stops at. -/
theorem ending_of_residue {ts : List Tlv} (wellFormed : ∀ t ∈ ts, t.WellFormed) {residue : Octets}
    (h : Tlv.Residue residue) :
    RunsOut (Tlv.encodeAll ts ++ residue) ts ∨ MeetsEnd (Tlv.encodeAll ts ++ residue) ts ∨
      MeetsCut (Tlv.encodeAll ts ++ residue) ts := by
  cases h with
  | nothing => exact .inl (by simpa using runsOut_encodeAll wellFormed)
  | ended isEnd body => exact .inr (.inl (meetsEnd_encodeAll_append wellFormed isEnd body))
  | cut cut => exact .inr (.inr (meetsCut_encodeAll_append wellFormed cut))

/-- Behind written TLVs a walk stops in one of the three ways, whatever the buffer is. -/
theorem exists_ending (buffer : Octets) :
    ∃ ts : List Tlv, (∀ t ∈ ts, t.WellFormed) ∧ Tlv.encodeAll ts <+: buffer ∧
      (RunsOut buffer ts ∨ MeetsEnd buffer ts ∨ MeetsCut buffer ts) := by
  rcases Tlv.exists_encodeAll_append buffer with ⟨ts, residue, rfl, wellFormed, isResidue⟩
  exact ⟨ts, wellFormed, List.prefix_append _ _, ending_of_residue wellFormed isResidue⟩

theorem RunsOut.not_meetsEnd {buffer : Octets} {ts : List Tlv} (out : RunsOut buffer ts) :
    ¬ MeetsEnd buffer ts := by
  rintro ⟨high, low, body, split, -⟩
  have whole := out.whole
  rw [split, List.length_append, List.length_cons] at whole
  omega

theorem RunsOut.not_meetsCut {buffer : Octets} {ts : List Tlv} (out : RunsOut buffer ts) :
    ¬ MeetsCut buffer ts := by
  rintro ⟨tail, split, cut, -⟩
  have whole := out.whole
  have left : 0 < tail.length := cut.length_pos
  rw [split, List.length_append] at whole
  omega

theorem MeetsEnd.not_meetsCut {buffer : Octets} {ts : List Tlv} (ended : MeetsEnd buffer ts) :
    ¬ MeetsCut buffer ts := by
  rcases ended with ⟨high, low, body, -, -, -, seen, -⟩
  rintro ⟨tail, -, -, -, -, unseen, -⟩
  rw [seen] at unseen
  contradiction

/-! ## The TLVs in front of the End TLV -/

/-- The TLV of an item, unless it is the End TLV. -/
def plain? : Except Truncation Tlv → Option Tlv
  | .ok t => if t.kind = .endOfPdu then none else some t
  | .error _ => none

/-- The TLVs of a walk in front of the End TLV. -/
def plainTlvs (w : Walk) : List Tlv :=
  w.items.filterMap plain?

theorem filterMap_plain? {ts : List Tlv} (wellFormed : ∀ t ∈ ts, t.WellFormed) :
    (ts.map .ok).filterMap plain? = ts := by
  induction ts with
  | nil => rfl
  | cons t ts ih =>
      rcases List.forall_mem_cons.mp wellFormed with ⟨first, others⟩
      have kept : plain? (.ok t) = some t := if_neg first.kind_ne
      rw [List.map_cons, List.filterMap_cons_some kept, ih others]

/-- However it stops, a walk has gone over the TLVs behind which it stops. -/
theorem plainTlvs_eq {buffer : Octets} {ts : List Tlv} (wellFormed : ∀ t ∈ ts, t.WellFormed)
    (ending : RunsOut buffer ts ∨ MeetsEnd buffer ts ∨ MeetsCut buffer ts) :
    (ofOctets buffer).plainTlvs = ts := by
  rcases ending with out | ⟨high, low, body, -, -, items, -⟩ | ⟨tail, -, -, -, items, -⟩
  · rw [plainTlvs, out.items, filterMap_plain? wellFormed]
  · rw [plainTlvs, items, List.filterMap_append, filterMap_plain? wellFormed]
    exact List.append_nil ts
  · rw [plainTlvs, items, List.filterMap_append, filterMap_plain? wellFormed]
    exact List.append_nil ts

/-- Walking and writing are inverse to each other.  The walk over written TLVs and an End header
yields the TLVs and then the End TLV, whatever comes behind.  Conversely the TLVs in front of
the End TLV that the walk over any buffer yields are written at its start, and behind them it
stops in exactly one way. -/
theorem items_inverse_encodeAll :
    (∀ (ts : List Tlv) (high low : UInt8) (rest : Octets), (∀ t ∈ ts, t.WellFormed) → high ≤ 1 →
      (ofOctets (Tlv.encodeAll ts ++ high :: low :: rest)).items =
        ts.map .ok ++ [.ok (Tlv.atEnd high low rest)]) ∧
    ∀ buffer : Octets,
      let ts := (ofOctets buffer).plainTlvs
      (∀ t ∈ ts, t.WellFormed) ∧ Tlv.encodeAll ts <+: buffer ∧
        (ofOctets buffer).stop.next? = none ∧
        (RunsOut buffer ts ∧ ¬ MeetsEnd buffer ts ∧ ¬ MeetsCut buffer ts ∨
          ¬ RunsOut buffer ts ∧ MeetsEnd buffer ts ∧ ¬ MeetsCut buffer ts ∨
          ¬ RunsOut buffer ts ∧ ¬ MeetsEnd buffer ts ∧ MeetsCut buffer ts) := by
  constructor
  · intro ts high low rest wellFormed isEnd
    exact (items_and_stop_of_residue wellFormed (next?_underway_ended
      ((Tlv.headerKind_eq_endOfPdu_iff high low).mpr isEnd) _ rest) (by simp)).1
  · intro buffer
    rcases exists_ending buffer with ⟨ts, wellFormed, written, ending⟩
    rw [plainTlvs_eq wellFormed ending]
    refine ⟨wellFormed, written, next?_stop _, ?_⟩
    rcases ending with out | ended | cut
    · exact .inl ⟨out, out.not_meetsEnd, out.not_meetsCut⟩
    · exact .inr (.inl ⟨fun out => out.not_meetsEnd ended, ended, ended.not_meetsCut⟩)
    · exact .inr (.inr ⟨fun out => out.not_meetsCut cut, fun ended => ended.not_meetsCut cut, cut⟩)

/-- An End header that declares more octets than there are closes a walk like any other. -/
theorem items_encodeAll_overlong :
    let ts : List Tlv := [.ofValue ⟨9⟩ [], .ofValue .timeToLive [0, 120]]
    (∀ t ∈ ts, t.WellFormed) ∧ (1 : UInt8) ≤ 1 ∧
      (ofOctets (Tlv.encodeAll ts ++ [1, 2, 6])).items =
        ts.map .ok ++ [.ok (Tlv.atEnd 1 2 [6])] := by
  intro ts
  have wellFormed : ∀ t ∈ ts, t.WellFormed := by decide
  exact ⟨wellFormed, by decide, items_inverse_encodeAll.1 ts 1 2 [6] wellFormed (by decide)⟩

end Walk

end Lldpdu
