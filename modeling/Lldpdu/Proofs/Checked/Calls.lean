import Lldpdu.Proofs.Checked.Walk
import Lldpdu.Proofs.Tlv.Shift

/-!
# Calls to a walker

A walker keeps its two flags and its position apart, where the walk that it carries out has a status
and the octets ahead.  At most one flag is set after any number of calls, so the flags are those of
the walk.  What calls do to the walk they thus do to the walker: they come to an end in good order,
and from the middle of a buffer they go on as from the start of the octets ahead.
-/

namespace Lldpdu.Checked

namespace Walker

/-! ## Flags -/

/-- At most one of the flags is set. -/
def OneFlag (w : Walker) : Prop :=
  ¬ (w.endSeen = true ∧ w.failed = true)

theorem failed_view {w : Walker} (one : OneFlag w) : w.view.failed = w.failed := by
  rw [Walk.failed, view]
  cases endSeen : w.endSeen with
  | true =>
      have unset : w.failed = false := Bool.eq_false_iff.mpr fun failed => one ⟨endSeen, failed⟩
      rw [unset]
      rfl
  | false => cases w.failed <;> rfl

/-- An item sets at most one flag. -/
theorem oneFlag_of_item {w w' : Walker} {offset left : Nat} {kind : TlvType} {length : UInt16}
    {x : Except Truncation Tlv} (endSeen : w.endSeen = false) (failed : w.failed = false)
    (h : w.item offset left kind length = .ok (x, w')) : OneFlag w' := by
  by_cases isEnd : kind = .endOfPdu
  · simp only [item, isEnd, takeSlice_eq_ok, ok_bind, pure_eq_ok, if_true, Except.ok.injEq,
      Prod.mk.injEq] at h
    rw [← h.2]
    simp [OneFlag, failed]
  · simp only [item, isEnd, takeSlice_eq_ok, ok_bind, pure_eq_ok, if_false] at h
    split at h
    · simp only [Except.ok.injEq, Prod.mk.injEq] at h
      rw [← h.2]
      simp [OneFlag, failed]
    · simp only [bind_eq_ok_iff, Except.ok.injEq, Prod.mk.injEq] at h
      obtain ⟨_, -, -, rfl⟩ := h
      simp [OneFlag, endSeen]

theorem oneFlag_of_next {w w' : Walker} {x : Option (Except Truncation Tlv)} (one : OneFlag w)
    (h : w.next = .ok (x, w')) : OneFlag w' := by
  rw [next] at h
  split at h
  · simp only [pure_eq_ok, Except.ok.injEq, Prod.mk.injEq] at h
    rwa [← h.2]
  next notFinished =>
    obtain ⟨endSeen, failed⟩ := Bool.or_eq_false_iff.mp (Bool.eq_false_iff.mpr notFinished)
    obtain ⟨_, -, h⟩ := (bind_eq_ok_iff _ _ _).mp h
    split at h
    · simp only [pure_eq_ok, Except.ok.injEq, Prod.mk.injEq] at h
      rwa [← h.2]
    obtain ⟨left, -, h⟩ := (bind_eq_ok_iff _ _ _).mp h
    split at h
    · simp only [pure_eq_ok, Except.ok.injEq, Prod.mk.injEq] at h
      rw [← h.2]
      simp [OneFlag, endSeen]
    · obtain ⟨⟨header, reader⟩, -, h⟩ := (bind_eq_ok_iff _ _ _).mp h
      obtain ⟨⟨_, w''⟩, found, h⟩ := (bind_eq_ok_iff _ _ _).mp h
      simp only [pure_eq_ok, Except.ok.injEq, Prod.mk.injEq] at h
      obtain ⟨-, rfl⟩ := h
      exact oneFlag_of_item (w := { w with reader }) endSeen failed found

/-! ## Any number of calls -/

/-- What every call keeps is kept by any number of calls. -/
theorem calls_induction {p : Walker → Prop}
    (step : ∀ w x w', p w → w.next = .ok (x, w') → p w') {n : Nat} {w w' : Walker}
    {xs : List (Option (Except Truncation Tlv))} (start : p w) (h : w.calls n = .ok (xs, w')) :
    p w' := by
  induction n generalizing w xs with
  | zero =>
      obtain ⟨-, rfl⟩ := Prod.mk.inj (Except.ok.inj h)
      exact start
  | succ n ih =>
      obtain ⟨⟨x, w₁⟩, next, h⟩ := (bind_eq_ok_iff _ _ _).mp h
      obtain ⟨⟨ys, w₂⟩, calls, h⟩ := (bind_eq_ok_iff _ _ _).mp h
      obtain ⟨-, rfl⟩ := Prod.mk.inj (Except.ok.inj h)
      exact ih (step w x w₁ start next) calls

theorem inside_of_next {w w' : Walker} {x : Option (Except Truncation Tlv)}
    (inside : Inside w.reader) (h : w.next = .ok (x, w')) : Inside w'.reader := by
  obtain ⟨w₁, next, -, inside₁⟩ := next_eq_ok inside
  obtain ⟨-, rfl⟩ := Prod.mk.inj (Except.ok.inj (next.symm.trans h))
  exact inside₁

/-- A walker over a buffer after some calls. -/
structure Reached (buffer : Octets) (n : Nat) (w : Walker) : Prop where
  calls : (ofOctets buffer).calls n =
    .ok ((List.range n).map (Walk.ofOctets buffer).handedOut, w)
  inside : Inside w.reader
  oneFlag : w.OneFlag
  endSeen : w.endSeen = ((Walk.ofOctets buffer).after n).endSeen
  failed : w.failed = ((Walk.ofOctets buffer).after n).failed
  position : w.reader.position = ((Walk.ofOctets buffer).after n).consumed

theorem exists_reached {buffer : Octets} (small : buffer.length < 2 ^ 63) (n : Nat) :
    ∃ w, Reached buffer n w ∧ w.view = (Walk.ofOctets buffer).after n := by
  have start : Inside (ofOctets buffer).reader := ⟨Nat.zero_le _, small⟩
  obtain ⟨w, calls, view⟩ := calls_eq_ok start n
  have oneFlag : w.OneFlag := by
    apply calls_induction (fun _ _ _ => oneFlag_of_next) _ calls
    exact nofun
  refine ⟨w, ⟨calls, ?_, oneFlag, ?_, ?_, ?_⟩, view⟩
  · exact calls_induction (p := fun w => Inside w.reader) (fun _ _ _ => inside_of_next) start calls
  · rw [← endSeen_view, view]
    rfl
  · rw [← failed_view oneFlag, view]
    rfl
  · exact congrArg Walk.consumed view

/-- From where a walker has come to, without the End TLV and without a cut, calls do as calls to
the walker over the octets ahead do, with offsets and position shifted. -/
theorem calls_shift {buffer : Octets} (small : buffer.length < 2 ^ 63) {n : Nat}
    {xs : List (Option (Except Truncation Tlv))} {w : Walker}
    (reached : (ofOctets buffer).calls n = .ok (xs, w)) (unseen : w.endSeen = false)
    (whole : w.failed = false) (k : Nat) :
    ∃ ys later fresh,
      (ofOctets (buffer.drop w.reader.position)).calls k = .ok (ys, fresh) ∧
      w.calls k = .ok (ys.map (Option.map (Walk.shiftItem w.reader.position)), later) ∧
      later.endSeen = fresh.endSeen ∧
      later.reader.position = fresh.reader.position + w.reader.position := by
  obtain ⟨w', isReached, view⟩ := exists_reached small n
  obtain rfl : w' = w := (Prod.mk.inj (Except.ok.inj (isReached.calls.symm.trans reached))).2
  have running : w'.view.status = .running := by
    apply Walk.status_eq_running
    · rw [endSeen_view, unseen]
    · rw [failed_view isReached.oneFlag, whole]
  have tracks : Walk.Tracks buffer w'.view := view ▸ Walk.tracks_after buffer n
  have ahead : w'.view =
      (Walk.ofOctets (buffer.drop w'.reader.position)).shift w'.reader.position :=
    tracks.eq_shift running
  have smaller : (buffer.drop w'.reader.position).length < 2 ^ 63 := by
    rw [List.length_drop]
    exact Nat.lt_of_le_of_lt (Nat.sub_le _ _) small
  obtain ⟨fresh, fromStart, -⟩ := exists_reached smaller k
  obtain ⟨later, calls, viewLater⟩ := calls_eq_ok isReached.inside k
  rw [ahead, Walk.after_shift] at viewLater
  refine ⟨_, later, fresh, fromStart.calls, ?_, ?_, ?_⟩
  · have handedOut : (fun i => (w'.view.after i).next?.map Prod.fst) =
        Option.map (Walk.shiftItem w'.reader.position) ∘
          (Walk.ofOctets (buffer.drop w'.reader.position)).handedOut := by
      funext i
      change w'.view.handedOut i = _
      rw [ahead, Walk.handedOut_shift]
      rfl
    rw [calls, handedOut, List.map_map]
  · rw [← endSeen_view, viewLater, fromStart.endSeen]
    rfl
  · rw [fromStart.position]
    exact congrArg Walk.consumed viewLater

end Walker

end Lldpdu.Checked

namespace Lldpdu.Walk

open Checked (Walker)

/-- The calls for the items of a buffer come to an end in good order: what is consumed grows up to
the length of the buffer at most, at most one of the flags is set and none is taken back, there are
at most half as many items as octets, rounded up, of which only the last one can be the End TLV or a
cut, and behind them calls change nothing.  So a loop over the items ends, and so does the one that
collects the TLVs.  A walker with two flags and a position of its own does the same. -/
theorem calls_end_in_order :
    (∀ buffer : Octets, Orderly buffer) ∧
    ∀ buffer : Octets, buffer.length < 2 ^ 63 →
      (∀ n, ∃ w, Walker.Reached buffer n w) ∧
        ∃ w, (Walker.ofOctets buffer).collect = .ok (Tlv.ofOctets buffer, w) := by
  refine ⟨orderly, fun buffer small => ⟨?_, ?_⟩⟩
  · intro n
    obtain ⟨w, reached, -⟩ := Walker.exists_reached small n
    exact ⟨w, reached⟩
  · have start : Checked.Inside (Walker.ofOctets buffer).reader := ⟨Nat.zero_le _, small⟩
    obtain ⟨w, collected, -⟩ := Walker.collect_eq_ok start
    exact ⟨w, collected⟩

/-- A buffer of five octets with three items, the last of which is a single octet that is reported
without being consumed. -/
theorem calls_end_in_order_at_single_octet :
    ([10, 0, 12, 0, 6] : Octets).length < 2 ^ 63 ∧
      (ofOctets [10, 0, 12, 0, 6]).handedOut 2 = some (.error ⟨4, 2, 1⟩) ∧
      (ofOctets [10, 0, 12, 0, 6]).handedOut 3 = none ∧
      ((ofOctets [10, 0, 12, 0, 6]).itemsWithin 9).length ≤ 3 ∧
      ∃ w, (Walker.ofOctets [10, 0, 12, 0, 6]).calls 3 =
          .ok ((List.range 3).map (ofOctets [10, 0, 12, 0, 6]).handedOut, w) ∧
        w.failed = true ∧ w.reader.position = 4 := by
  have small : ([10, 0, 12, 0, 6] : Octets).length < 2 ^ 63 := by decide
  have orderly := calls_end_in_order.1 [10, 0, 12, 0, 6]
  have cut : (ofOctets [10, 0, 12, 0, 6]).handedOut 2 = some (.error ⟨4, 2, 1⟩) := rfl
  obtain ⟨w, reached⟩ := (calls_end_in_order.2 [10, 0, 12, 0, 6] small).1 3
  exact ⟨small, cut, orderly.closing_last 2 _ cut (.cut _) 3 (by decide), orderly.few 9, w,
    reached.calls, reached.failed, reached.position⟩

/-- A walk is position independent.  From where it has come to, without the End TLV and without a
cut, it goes on call by call as a walk over the octets ahead does from its start, with the offset of
a cut and what is consumed shifted by the octets consumed so far; behind octets that it goes over
without the End TLV and without a cut it yields the items of what follows, shifted by their number.
A walker goes on so too, although its reader keeps the whole buffer. -/
theorem position_irrelevant :
    (∀ (buffer : Octets) (n : Nat),
      let w := (ofOctets buffer).after n
      let fresh := ofOctets (buffer.drop w.consumed)
      w.endSeen = false → w.failed = false → ∀ k,
        w.handedOut k = (fresh.handedOut k).map (shiftItem w.consumed) ∧
          (w.after k).endSeen = (fresh.after k).endSeen ∧
          (w.after k).failed = (fresh.after k).failed ∧
          (w.after k).consumed = (fresh.after k).consumed + w.consumed) ∧
    (∀ front behind : Octets,
      (∀ x ∈ (ofOctets front).items, ∃ t, x = .ok t ∧ t.kind ≠ .endOfPdu) →
      (ofOctets front).stop.consumed = front.length ∧
        (ofOctets (front ++ behind)).items =
          (ofOctets front).items ++ (ofOctets behind).items.map (shiftItem front.length)) ∧
    ∀ buffer : Octets, buffer.length < 2 ^ 63 → ∀ n xs w,
      (Walker.ofOctets buffer).calls n = .ok (xs, w) → w.endSeen = false → w.failed = false →
      ∀ k, ∃ ys later fresh,
        (Walker.ofOctets (buffer.drop w.reader.position)).calls k = .ok (ys, fresh) ∧
        w.calls k = .ok (ys.map (Option.map (shiftItem w.reader.position)), later) ∧
        later.endSeen = fresh.endSeen ∧
        later.reader.position = fresh.reader.position + w.reader.position := by
  refine ⟨?_, fun front behind plain => items_append_of_plain plain behind, ?_⟩
  · intro buffer n w fresh unseen whole k
    have ahead : w = fresh.shift w.consumed :=
      (tracks_after buffer n).eq_shift (status_eq_running unseen whole)
    have later : w.after k = (fresh.after k).shift w.consumed := by
      rw [← after_shift, ← ahead]
    refine ⟨?_, ?_, ?_, ?_⟩
    · rw [← handedOut_shift, ← ahead]
    · rw [later]
      rfl
    · rw [later]
      rfl
    · exact congrArg consumed later
  · intro buffer small n xs w reached unseen whole k
    exact Walker.calls_shift small reached unseen whole k

/-- Behind a system name a chassis identifier is cut off.  It is reported at offset 3 of the whole
and at offset 0 of what is behind the name. -/
theorem position_irrelevant_at_cut :
    let front : Octets := Tlv.encodeAll [.ofValue .systemName [97]]
    let behind : Octets := [2, 7, 4]
    let w := (ofOctets (front ++ behind)).after 1
    w.endSeen = false ∧ w.failed = false ∧ w.consumed = 3 ∧
      w.handedOut 0 = some (.error ⟨3, 9, 3⟩) ∧
      w.handedOut 0 = ((ofOctets behind).handedOut 0).map (shiftItem 3) ∧
      (∀ x ∈ (ofOctets front).items, ∃ t, x = .ok t ∧ t.kind ≠ .endOfPdu) ∧
      (ofOctets (front ++ behind)).items =
        (ofOctets front).items ++ (ofOctets behind).items.map (shiftItem 3) ∧
      (front ++ behind).length < 2 ^ 63 ∧
      ∃ xs walker, (Walker.ofOctets (front ++ behind)).calls 1 = .ok (xs, walker) ∧
        walker.endSeen = false ∧ walker.failed = false ∧
        ∃ ys later fresh,
          (Walker.ofOctets ((front ++ behind).drop walker.reader.position)).calls 1 =
            .ok (ys, fresh) ∧
          walker.calls 1 =
            .ok (ys.map (Option.map (shiftItem walker.reader.position)), later) := by
  intro front behind w
  have small : (front ++ behind).length < 2 ^ 63 := by decide
  have shifted := position_irrelevant.1 (front ++ behind) 1 rfl rfl 0
  have plain : ∀ x ∈ (ofOctets front).items, ∃ t, x = .ok t ∧ t.kind ≠ .endOfPdu := by
    have wellFormed : ∀ t ∈ [Tlv.ofValue .systemName [97]], t.WellFormed := by decide
    rw [(runsOut_encodeAll wellFormed).items]
    intro x member
    obtain rfl := List.mem_singleton.mp member
    exact ⟨_, rfl, by decide⟩
  obtain ⟨walker, reached, -⟩ := Walker.exists_reached small 1
  have unseen : walker.endSeen = false := reached.endSeen
  have whole : walker.failed = false := reached.failed
  obtain ⟨ys, later, fresh, calls, goesOn, -⟩ :=
    position_irrelevant.2.2 _ small 1 _ walker reached.calls unseen whole 1
  exact ⟨rfl, rfl, rfl, rfl, shifted.1, plain, (position_irrelevant.2.1 front behind plain).2, small,
    _, walker, reached.calls, unseen, whole, ys, later, fresh, calls, goesOn⟩

end Lldpdu.Walk
