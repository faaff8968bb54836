import Lldpdu.Proofs.Checked.Reader
import Lldpdu.Proofs.Tlv.Walk

/-!
# The walk, operation by operation

A `Walker` goes through a buffer by means of a reader.  As long as the reader is inside its buffer
no operation faults, and a call for the next item does to the walker what it does to the `Walk`
that the walker carries out.  So it is for any number of calls, and for the calls by which all
TLVs are collected.
-/

namespace Lldpdu.Checked

/-! ## One call -/

/-- A reader on its way through the TLVs of a buffer. -/
structure Walker where
  reader : Reader
  endSeen : Bool := false
  failed : Bool := false
  deriving DecidableEq, Repr

namespace Walker

/-- The walker at the start of a buffer. -/
def ofOctets (buffer : Octets) : Walker :=
  { reader := .ofOctets buffer }

/-- The item behind a header of the given type and length, which began at `offset` with so many
octets left. -/
def item (w : Walker) (offset left : Nat) (kind : TlvType) (length : UInt16) :
    Checked (Except Truncation Tlv × Walker) := do
  if kind = .endOfPdu then
    let taken ← takeSlice w.reader length.toUInt64
    let (value, reader) := taken.getD ([], w.reader)
    return (.ok { kind, length, value }, { w with reader, endSeen := true })
  match ← takeSlice w.reader length.toUInt64 with
  | some (value, reader) => return (.ok { kind, length, value }, { w with reader })
  | none =>
      let needed ← addWord Tlv.headerLength length.toNat
      return (.error ⟨offset, needed, left⟩, { w with failed := true })

/-- The next item, if there is one, and the walker past it. -/
def next (w : Walker) : Checked (Option (Except Truncation Tlv) × Walker) := do
  if w.endSeen || w.failed then
    return (none, w)
  if (← remaining w.reader) = 0 then
    return (none, w)
  let left ← remaining w.reader
  if left < Tlv.headerLength then
    return (some (.error ⟨w.reader.position, Tlv.headerLength, left⟩), { w with failed := true })
  let (header, reader) ← getU16 w.reader
  let kind := ⟨(header >>> 9).toUInt8⟩
  let length := header &&& UInt16.ofNat Tlv.maxLength
  let (x, w') ← item { w with reader } w.reader.position left kind length
  return (some x, w')

/-- The walk that a walker carries out. -/
def view (w : Walker) : Walk where
  consumed := w.reader.position
  rest := w.reader.rest
  status := if w.endSeen then .ended else if w.failed then .cut else .running

theorem view_ofOctets (buffer : Octets) : (ofOctets buffer).view = .ofOctets buffer :=
  rfl

theorem endSeen_view (w : Walker) : w.view.endSeen = w.endSeen := by
  cases endSeen : w.endSeen <;> cases failed : w.failed <;>
    simp [Walk.endSeen, view, endSeen, failed]

theorem view_eq_underway {w : Walker} (running : (w.endSeen || w.failed) = false) :
    w.view = .underway w.reader.position w.reader.rest := by
  rcases Bool.or_eq_false_iff.mp running with ⟨endSeen, failed⟩
  simp [view, endSeen, failed, Walk.underway]

theorem status_view_ne {w : Walker} (finished : (w.endSeen || w.failed) = true) :
    w.view.status ≠ .running := by
  rcases Bool.or_eq_true_iff.mp finished with endSeen | failed
  · simp [view, endSeen]
  · by_cases endSeen : w.endSeen <;> simp [view, endSeen, failed]

theorem headerKind_word (high low : UInt8) :
    (⟨(UInt16.ofNat (Octets.number [high, low]) >>> 9).toUInt8⟩ : TlvType) =
      Tlv.headerKind high low := by
  have raw : (UInt16.ofNat (Octets.number [high, low]) >>> 9).toUInt8 =
      (Tlv.headerKind high low).raw := by
    have highBound := high.toNat_lt
    have lowBound := low.toNat_lt
    apply UInt8.toNat_inj.mp
    rw [Tlv.toNat_headerKind]
    simp [Nat.shiftRight_eq_div_pow]
    omega
  rw [raw]

theorem headerSize_word (high low : UInt8) :
    UInt16.ofNat (Octets.number [high, low]) &&& UInt16.ofNat Tlv.maxLength =
      UInt16.ofNat (Tlv.headerSize high low) := by
  have highBound := high.toNat_lt
  have lowBound := low.toNat_lt
  apply UInt16.toNat_inj.mp
  have mask := Nat.and_two_pow_sub_one_eq_mod ((high.toNat * 256 + low.toNat) % 65536) 9
  rw [Tlv.headerSize_eq]
  simp [Tlv.maxLength] at mask ⊢
  omega

/-- The walk moves on as the reader does. -/
theorem advance_underway (r : Reader) (count : Nat) (status : Walk.Status) :
    (Walk.underway r.position r.rest).advance count status =
      ⟨(r.moved count).position, (r.moved count).rest, status⟩ := by
  rw [rest_moved]
  rfl

/-- A header moves the reader to what is behind it. -/
theorem behind_header {r : Reader} (inside : Inside r) {high low : UInt8} {body : Octets}
    (ahead : r.rest = high :: low :: body) :
    Inside (r.moved 2) ∧ (r.moved 2).rest = body ∧ (r.moved 2).remaining = body.length := by
  have two : 2 ≤ r.remaining := by
    rw [← length_rest, ahead]
    simp
  have behind : (r.moved 2).rest = body := by
    rw [rest_moved, ahead]
    rfl
  exact ⟨inside.moved two, behind, by rw [← length_rest, behind]⟩

/-- The item behind a header is the one at which the walk arrives. -/
theorem item_eq_ok {r : Reader} (inside : Inside r) {high low : UInt8} {body : Octets}
    (ahead : r.rest = high :: low :: body) (kind : TlvType) {size : Nat} (small : size < 2 ^ 16) :
    ∃ w, item { reader := r.moved 2 } r.position r.remaining kind (UInt16.ofNat size) =
        .ok (((Walk.underway r.position r.rest).item kind size body).1, w) ∧
      w.view = ((Walk.underway r.position r.rest).item kind size body).2 ∧ Inside w.reader := by
  obtain ⟨insideBehind, behind, left⟩ := behind_header inside ahead
  have length : (UInt16.ofNat size).toNat = size := Nat.mod_eq_of_lt small
  have count : (UInt16.ofNat size).toUInt64.toNat = size := length
  rw [item, Walk.item, takeSlice_eq_ok]
  by_cases fits : size ≤ body.length
  · have insideTaken : Inside ((r.moved 2).moved size) := insideBehind.moved (by rwa [left])
    have moved : (r.moved 2).moved size = r.moved (2 + size) :=
      congrArg (Reader.mk r.buffer) (Nat.add_assoc _ _ _)
    rw [take?_eq_some insideBehind (by rwa [count, left]), count, behind, moved, if_pos fits]
    rw [moved] at insideTaken
    by_cases isEnd : kind = .endOfPdu
    · rw [if_pos isEnd, if_pos isEnd]
      exact ⟨{ reader := r.moved (2 + size), endSeen := true }, rfl,
        (advance_underway r _ _).symm, insideTaken⟩
    · rw [if_neg isEnd, if_neg isEnd]
      exact ⟨{ reader := r.moved (2 + size) }, rfl, (advance_underway r _ _).symm, insideTaken⟩
  · rw [take?_eq_none insideBehind (by rw [count, left]; omega), if_neg fits]
    by_cases isEnd : kind = .endOfPdu
    · rw [if_pos isEnd, if_pos isEnd]
      exact ⟨{ reader := r.moved 2, endSeen := true }, rfl, (advance_underway r _ _).symm,
        insideBehind⟩
    · have needed : addWord Tlv.headerLength size = .ok (Tlv.headerLength + size) :=
        addWord_eq_ok (by rw [Tlv.headerLength]; omega)
      rw [if_neg isEnd, if_neg isEnd, length, needed, ← length_rest]
      exact ⟨{ reader := r.moved 2, failed := true }, rfl, (advance_underway r _ _).symm,
        insideBehind⟩

/-- Without an octet left there is no item, and the walker stays where it is. -/
theorem next_of_finished {w : Walker} (inside : Inside w.reader)
    (finished : (w.endSeen || w.failed) = true ∨ w.reader.rest = []) :
    w.next = .ok (none, w) ∧ w.view.next? = none := by
  rcases finished with finished | nothing
  · exact ⟨if_pos finished, Walk.next?_of_status_ne_running (status_view_ne finished)⟩
  · have left : w.reader.remaining = 0 := by rw [← length_rest, nothing, List.length_nil]
    cases finished : w.endSeen || w.failed with
    | true => exact ⟨if_pos finished, Walk.next?_of_status_ne_running (status_view_ne finished)⟩
    | false =>
        constructor
        · simp [next, finished, remaining_eq_ok inside, left]
        · rw [view_eq_underway finished, nothing, Walk.next?_underway_nil]

/-- A single octet is too short for a header. -/
theorem next_of_single {w : Walker} (inside : Inside w.reader)
    (running : (w.endSeen || w.failed) = false) {high : UInt8} (ahead : w.reader.rest = [high]) :
    w.next = .ok (some (.error ⟨w.reader.position, Tlv.headerLength, 1⟩),
      { w with failed := true }) := by
  have left : w.reader.remaining = 1 := by rw [← length_rest, ahead, List.length_singleton]
  simp [next, running, remaining_eq_ok inside, left, Tlv.headerLength]

/-- Two octets are read as a header. -/
theorem next_of_header {w : Walker} (inside : Inside w.reader)
    (running : (w.endSeen || w.failed) = false) {high low : UInt8} {body : Octets}
    (ahead : w.reader.rest = high :: low :: body) :
    w.next = item { reader := w.reader.moved 2 } w.reader.position w.reader.remaining
        (Tlv.headerKind high low) (UInt16.ofNat (Tlv.headerSize high low)) >>=
      fun (x, w') => .ok (some x, w') := by
  have two : ¬ w.reader.remaining < Tlv.headerLength := by
    rw [← length_rest, ahead, List.length_cons, List.length_cons, Tlv.headerLength]
    omega
  have some : ¬ w.reader.remaining = 0 := fun zero => two (zero ▸ Nat.two_pos)
  rcases Bool.or_eq_false_iff.mp running with ⟨endSeen, failed⟩
  rw [next, if_neg (Bool.eq_false_iff.mp running), remaining_eq_ok inside, ok_bind, if_neg some,
    ok_bind, if_neg two, getU16_eq_ok inside ahead, ok_bind, endSeen, failed]
  simp only [headerKind_word, headerSize_word, pure_eq_ok]

/-- A call never faults inside the buffer.  It hands out the item of the walk, moves on as the
walk does, and stays inside. -/
theorem next_eq_ok {w : Walker} (inside : Inside w.reader) :
    ∃ w', w.next = .ok (w.view.next?.map Prod.fst, w') ∧ w'.view = w.view.past ∧
      Inside w'.reader := by
  by_cases finished : (w.endSeen || w.failed) = true ∨ w.reader.rest = []
  · obtain ⟨next, none⟩ := next_of_finished inside finished
    refine ⟨w, ?_, ?_, inside⟩
    · rw [next, none, Option.map_none]
    · rw [Walk.past, none]
  · obtain ⟨notFinished, nonempty⟩ := not_or.mp finished
    have running := Bool.eq_false_iff.mpr notFinished
    obtain ⟨high, tail, ahead⟩ := List.exists_cons_of_ne_nil nonempty
    cases tail with
    | nil =>
        refine ⟨{ w with failed := true }, ?_, ?_, inside⟩
        · rw [next_of_single inside running ahead, view_eq_underway running, ahead]
          rfl
        · rcases Bool.or_eq_false_iff.mp running with ⟨endSeen, -⟩
          rw [view_eq_underway running, ahead, view, endSeen, ahead]
          rfl
    | cons low body =>
        have small : Tlv.headerSize high low < 2 ^ 16 :=
          Nat.lt_of_le_of_lt (Tlv.headerSize_le high low) (by decide)
        obtain ⟨w', found, view, inside'⟩ :=
          item_eq_ok inside ahead (Tlv.headerKind high low) small
        have some : w.view.next? = some ((Walk.underway w.reader.position w.reader.rest).item
            (Tlv.headerKind high low) (Tlv.headerSize high low) body) := by
          rw [view_eq_underway running, ahead, Walk.next?_underway_header]
        refine ⟨w', ?_, ?_, inside'⟩
        · rw [next_of_header inside running ahead, found, ok_bind, some, Option.map_some]
        · rw [view, Walk.past, some]

/-! ## Any number of calls -/

/-- What so many calls hand out, and the walker after them. -/
def calls (w : Walker) : Nat → Checked (List (Option (Except Truncation Tlv)) × Walker)
  | 0 => .ok ([], w)
  | n + 1 => do
      let (x, w') ← w.next
      let (xs, w'') ← w'.calls n
      return (x :: xs, w'')

/-- No number of calls faults.  They hand out the items of the walk, and then nothing. -/
theorem calls_eq_ok {w : Walker} (inside : Inside w.reader) (n : Nat) :
    ∃ w', w.calls n =
        .ok ((List.range n).map fun i => (w.view.after i).next?.map Prod.fst, w') ∧
      w'.view = w.view.after n := by
  induction n generalizing w with
  | zero => exact ⟨w, rfl, rfl⟩
  | succ n ih =>
      obtain ⟨w₁, next, view, inside₁⟩ := next_eq_ok inside
      obtain ⟨w₂, calls, view'⟩ := ih inside₁
      refine ⟨w₂, ?_, ?_⟩
      · rw [Walker.calls, next, ok_bind]
        simp only [calls, ok_bind, pure_eq_ok, List.range_succ_eq_map, List.map_cons, List.map_map,
          view]
        rfl
      · rw [view', view]
        rfl

/-! ## All calls -/

/-- An item consumes what it holds, and gives nothing back. -/
theorem remaining_of_item {w w' : Walker} {offset left : Nat} {kind : TlvType} {length : UInt16}
    {x : Except Truncation Tlv} (h : w.item offset left kind length = .ok (x, w')) :
    w'.reader.remaining ≤ w.reader.remaining := by
  cases taken : w.reader.take? length.toUInt64 with
  | none =>
      have same : w'.reader = w.reader := by
        by_cases isEnd : kind = .endOfPdu
        · simp only [item, isEnd, takeSlice_eq_ok, taken, ok_bind, pure_eq_ok, if_true,
            Option.getD_none, Except.ok.injEq, Prod.mk.injEq] at h
          rw [← h.2]
        · simp only [item, isEnd, takeSlice_eq_ok, taken, ok_bind, pure_eq_ok, if_false,
            bind_eq_ok_iff, Except.ok.injEq, Prod.mk.injEq] at h
          obtain ⟨_, -, -, rfl⟩ := h
          rfl
      exact Nat.le_of_eq (congrArg Reader.remaining same)
  | some taken =>
      have moved : w'.reader = w.reader.moved length.toUInt64.toNat := by
        rw [← reader_of_take? taken]
        by_cases isEnd : kind = .endOfPdu
        · simp only [item, isEnd, takeSlice_eq_ok, taken, ok_bind, pure_eq_ok, if_true,
            Option.getD_some, Except.ok.injEq, Prod.mk.injEq] at h
          rw [← h.2]
        · simp only [item, isEnd, takeSlice_eq_ok, taken, ok_bind, pure_eq_ok, if_false,
            Except.ok.injEq, Prod.mk.injEq] at h
          rw [← h.2]
      rw [moved]
      exact Nat.sub_le_sub_left (Nat.le_add_right _ _) _

theorem budget_view_le (w : Walker) : w.view.budget ≤ w.reader.remaining + 1 := by
  rw [Walk.budget]
  split
  · exact Nat.le_of_eq (congrArg (· + 1) (length_rest w.reader))
  · exact Nat.zero_le _

theorem budget_view_of_running {w : Walker} (running : (w.endSeen || w.failed) = false) :
    w.view.budget = w.reader.remaining + 1 := by
  rw [view_eq_underway running, ← length_rest]
  rfl

/-- Every item costs, whether or not the walker is inside its buffer. -/
theorem budget_next_lt {w w' : Walker} {x : Except Truncation Tlv}
    (h : w.next = .ok (some x, w')) : w'.view.budget < w.view.budget := by
  -- The position may be anywhere here, so the steps that returned are taken apart one by one.
  rw [next] at h
  split at h
  · simp at h
  next notFinished =>
    have running := Bool.eq_false_iff.mpr notFinished
    obtain ⟨_, -, h⟩ := (bind_eq_ok_iff _ _ _).mp h
    split at h
    · simp at h
    obtain ⟨left, -, h⟩ := (bind_eq_ok_iff _ _ _).mp h
    rw [budget_view_of_running running]
    split at h
    · simp only [pure_eq_ok, Except.ok.injEq, Prod.mk.injEq] at h
      rcases Bool.or_eq_false_iff.mp running with ⟨endSeen, -⟩
      rw [← h.2]
      simp [Walk.budget, view, endSeen]
    · obtain ⟨⟨header, reader⟩, read, h⟩ := (bind_eq_ok_iff _ _ _).mp h
      obtain ⟨⟨_, w''⟩, found, h⟩ := (bind_eq_ok_iff _ _ _).mp h
      simp only [pure_eq_ok, Except.ok.injEq, Prod.mk.injEq] at h
      obtain ⟨-, rfl⟩ := h
      have header := remaining_of_getU16 read
      have item := remaining_of_item found
      have bound := budget_view_le w''
      simp only at header item
      omega

/-- The TLVs still to come, unless one of them is cut off, and the walker past them. -/
def collect (w : Walker) : Checked (Except Truncation (List Tlv) × Walker) :=
  match _next : w.next with
  | .error fault => .error fault
  | .ok (none, w') => .ok (.ok [], w')
  | .ok (some (.error cause), w') => .ok (.error cause, w')
  | .ok (some (.ok t), w') => do
      let (ts, w'') ← w'.collect
      return (ts.map (t :: ·), w'')
termination_by w.view.budget
decreasing_by exact budget_next_lt _next

theorem collect_of_next_none {w w' : Walker} (h : w.next = .ok (none, w')) :
    w.collect = .ok (.ok [], w') := by
  rw [collect]
  split <;> simp_all

theorem collect_of_next_error {w w' : Walker} {cause : Truncation}
    (h : w.next = .ok (some (.error cause), w')) : w.collect = .ok (.error cause, w') := by
  rw [collect]
  split <;> simp_all

theorem collect_of_next_ok {w w' : Walker} {t : Tlv} (h : w.next = .ok (some (.ok t), w')) :
    w.collect = w'.collect >>= fun (ts, w'') => .ok (ts.map (t :: ·), w'') := by
  rw [collect]
  split <;> simp_all

/-- Collecting never faults inside the buffer.  It has the TLVs of the walk or the first that is
cut off, and it leaves the walker where the walk stops. -/
theorem collect_eq_ok {w : Walker} (inside : Inside w.reader) :
    ∃ w', w.collect = .ok (w.view.items.mapM id, w') ∧ w'.view = w.view.stop := by
  -- The induction follows the walk that is carried out; the walker has no items of its own.
  generalize viewed : w.view = v
  induction v using Walk.items.induct generalizing w with
  | case1 v none =>
      obtain ⟨w', next, view, -⟩ := next_eq_ok inside
      rw [viewed, none] at next
      refine ⟨w', ?_, ?_⟩
      · rw [collect_of_next_none next, Walk.items_of_next?_eq_none none]
        rfl
      · rw [view, viewed, Walk.past, none, Walk.stop_of_next?_eq_none none]
  | case2 v x v' some ih =>
      obtain ⟨w₁, next, view, inside₁⟩ := next_eq_ok inside
      rw [viewed, some] at next
      rw [viewed, Walk.past_of_next?_eq_some some] at view
      obtain ⟨w₂, collected, view₂⟩ := ih inside₁ view
      rw [Walk.items_of_next?_eq_some some, Walk.stop_of_next?_eq_some some]
      cases x with
      | error cause =>
          refine ⟨w₁, collect_of_next_error next, ?_⟩
          have cut := Walk.status_of_next?_eq_error some
          rw [view, Walk.stop_of_next?_eq_none (Walk.next?_of_status_ne_running (by simp [cut]))]
      | ok t =>
          refine ⟨w₂, ?_, view₂⟩
          rw [collect_of_next_ok next, collected, ok_bind, List.mapM_cons]
          cases v'.items.mapM id <;> rfl

end Walker

end Lldpdu.Checked
