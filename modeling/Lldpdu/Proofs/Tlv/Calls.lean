import Lldpdu.Proofs.Tlv.Walk

/-!
# Calls for the items of a walk

A call that hands out an item moves the walk on over octets that are left.  It consumes a whole
header unless the item is the last one, so a buffer has at most one item for every two octets and
one for an octet left over.  Behind the last item calls hand out nothing and change nothing, so a
loop over the items of a buffer ends whatever the buffer is.

The status alone does not fall on every call, and neither do the octets left: a single octet is
reported without being consumed.  An item that leaves the octets as they are ends the walk, and the
bound on the items counts with that.
-/

namespace Lldpdu.Walk

/-- Whether a TLV was cut off. -/
def failed (w : Walk) : Bool :=
  w.status == .cut

/-- What a call for an item hands out after `n` calls before it. -/
def handedOut (w : Walk) (n : Nat) : Option (Except Truncation Tlv) :=
  (w.after n).next?.map Prod.fst

/-- The items that the first `n` calls hand out. -/
def itemsWithin (w : Walk) (n : Nat) : List (Except Truncation Tlv) :=
  (List.range n).filterMap w.handedOut

/-- An item with which a walk is over: a TLV that is cut off, or the End TLV. -/
inductive IsClosing : Except Truncation Tlv → Prop where
  | cut (cause : Truncation) : IsClosing (.error cause)
  | ended {t : Tlv} (isEnd : t.kind = .endOfPdu) : IsClosing (.ok t)

/-! ## One call -/

/-- The status in which an item leaves the walk. -/
def statusBehind : Except Truncation Tlv → Status
  | .ok t => if t.kind = .endOfPdu then .ended else .running
  | .error _ => .cut

theorem IsClosing.statusBehind_ne {x : Except Truncation Tlv} (closing : IsClosing x) :
    statusBehind x ≠ .running := by
  cases closing with
  | cut cause => exact nofun
  | ended isEnd =>
      rw [statusBehind, if_pos isEnd]
      exact nofun

/-- A walk whose item consumed octets that were left, a whole header at least if it goes on. -/
structure Advanced (w : Walk) (x : Except Truncation Tlv) (w' : Walk) (count : Nat) : Prop where
  running : w.status = .running
  nonempty : 0 < w.rest.length
  count_le : count ≤ w.rest.length
  two_le : statusBehind x = .running → 2 ≤ count
  eq_advance : w' = w.advance count (statusBehind x)

theorem exists_item_eq_advance (w : Walk) (kind : TlvType) (length : Nat) {body : Octets}
    (ahead : w.rest.length = body.length + 2) :
    ∃ count, 2 ≤ count ∧ count ≤ w.rest.length ∧
      (w.item kind length body).2 =
        w.advance count (statusBehind (w.item kind length body).1) := by
  by_cases fits : length ≤ body.length
  · refine ⟨Tlv.headerLength + length, Nat.le_add_right _ _, ?_, ?_⟩
    · rw [Tlv.headerLength]
      omega
    · rw [item, if_pos fits]
      rfl
  · refine ⟨Tlv.headerLength, Nat.le_refl _, by rw [ahead]; exact Nat.le_add_left _ _, ?_⟩
    rw [item, if_neg fits]
    by_cases isEnd : kind = .endOfPdu
    · rw [if_pos isEnd, statusBehind, if_pos isEnd]
    · rw [if_neg isEnd]
      rfl

theorem exists_advanced {w w' : Walk} {x : Except Truncation Tlv} (h : w.next? = some (x, w')) :
    ∃ count, w.Advanced x w' count := by
  unfold next? at h
  split at h
  next high low body running rest =>
      have ahead : w.rest.length = body.length + 2 := by rw [rest]; rfl
      obtain ⟨count, two, le, advanced⟩ := exists_item_eq_advance w (Tlv.headerKind high low)
        (Tlv.headerSize high low) ahead
      have found : w.item (Tlv.headerKind high low) (Tlv.headerSize high low) body = (x, w') :=
        Option.some.inj h
      rw [found] at advanced
      exact ⟨count, running, by omega, le, fun _ => two, advanced⟩
  next octet running rest =>
      obtain ⟨rfl, rfl⟩ := Prod.mk.inj (Option.some.inj h)
      exact ⟨0, running, by rw [rest]; exact Nat.one_pos, Nat.zero_le _, nofun, rfl⟩
  · contradiction

theorem Advanced.status_eq {w w' : Walk} {x : Except Truncation Tlv} {count : Nat}
    (advanced : w.Advanced x w' count) : w'.status = statusBehind x := by
  rw [advanced.eq_advance]
  rfl

theorem Advanced.consumed_eq {w w' : Walk} {x : Except Truncation Tlv} {count : Nat}
    (advanced : w.Advanced x w' count) : w'.consumed = w.consumed + count := by
  rw [advanced.eq_advance]
  rfl

theorem Advanced.rest_eq {w w' : Walk} {x : Except Truncation Tlv} {count : Nat}
    (advanced : w.Advanced x w' count) : w'.rest = w.rest.drop count := by
  rw [advanced.eq_advance]
  rfl

/-! ## Any number of calls -/

theorem past_of_next?_eq_none {w : Walk} (none : w.next? = none) : w.past = w := by
  rw [past, none]

/-- Without an item a walk stays where it is. -/
theorem after_of_next?_eq_none {w : Walk} (none : w.next? = none) (n : Nat) : w.after n = w := by
  induction n with
  | zero => rfl
  | succ n ih => rw [after, past_of_next?_eq_none none, ih]

theorem after_add (w : Walk) (m n : Nat) : w.after (m + n) = (w.after m).after n := by
  induction m generalizing w with
  | zero => rw [Nat.zero_add, after]
  | succ m ih => rw [Nat.succ_add, after, ih, after]

/-- What every item keeps is kept by any number of calls. -/
theorem after_induction {p : Walk → Prop}
    (step : ∀ w x w', p w → w.next? = some (x, w') → p w') {w : Walk} (start : p w) (n : Nat) :
    p (w.after n) := by
  induction n generalizing w with
  | zero => exact start
  | succ n ih =>
      apply ih
      cases next : w.next? with
      | none => rwa [past_of_next?_eq_none next]
      | some found =>
          rw [past_of_next?_eq_some next]
          exact step w found.1 found.2 start next

theorem consumed_le_after (w : Walk) (n : Nat) : w.consumed ≤ (w.after n).consumed := by
  apply after_induction (p := fun v => w.consumed ≤ v.consumed)
  · intro v x v' le next
    obtain ⟨count, advanced⟩ := exists_advanced next
    rw [advanced.consumed_eq]
    exact Nat.le_add_right_of_le le
  · exact Nat.le_refl _

/-- A walk of which the octets consumed are the first of a buffer and the octets ahead the others. -/
structure Tracks (buffer : Octets) (w : Walk) : Prop where
  consumed_le : w.consumed ≤ buffer.length
  rest_eq : w.rest = buffer.drop w.consumed

theorem tracks_after (buffer : Octets) (n : Nat) : Tracks buffer ((ofOctets buffer).after n) := by
  apply after_induction
  · intro w x w' tracks next
    obtain ⟨count, advanced⟩ := exists_advanced next
    have left := advanced.count_le
    rw [tracks.rest_eq, List.length_drop] at left
    have le := tracks.consumed_le
    constructor
    · rw [advanced.consumed_eq]
      omega
    · rw [advanced.rest_eq, advanced.consumed_eq, tracks.rest_eq, List.drop_drop]
  · exact ⟨Nat.zero_le _, rfl⟩

/-! ## Items -/

/-- Calls hand the items out one by one, and then nothing. -/
theorem handedOut_eq_getElem? (w : Walk) (n : Nat) : w.handedOut n = w.items[n]? := by
  induction n generalizing w with
  | zero =>
      cases next : w.next? with
      | none => rw [handedOut, after, next, items_of_next?_eq_none next]; rfl
      | some found => rw [handedOut, after, next, items_of_next?_eq_some next]; rfl
  | succ n ih =>
      have later : w.handedOut (n + 1) = w.past.handedOut n := rfl
      rw [later, ih]
      cases next : w.next? with
      | none =>
          rw [past_of_next?_eq_none next, items_of_next?_eq_none next]
          rfl
      | some found =>
          rw [past_of_next?_eq_some next, items_of_next?_eq_some next, List.getElem?_cons_succ]

theorem itemsWithin_eq_take (w : Walk) (n : Nat) : w.itemsWithin n = w.items.take n := by
  induction n with
  | zero => rfl
  | succ n ih =>
      rw [itemsWithin] at ih
      rw [itemsWithin, List.range_succ, List.filterMap_append, ih, List.take_add_one,
        List.filterMap_cons, handedOut_eq_getElem?]
      cases w.items[n]? <;> rfl

/-- There is at most one item for every two octets, and one for an octet left over. -/
theorem length_items_le (w : Walk) : w.items.length ≤ (w.rest.length + 1) / 2 := by
  induction w using items.induct with
  | case1 w none =>
      rw [items_of_next?_eq_none none]
      exact Nat.zero_le _
  | case2 w x w' some ih =>
      obtain ⟨count, advanced⟩ := exists_advanced some
      have nonempty := advanced.nonempty
      rw [items_of_next?_eq_some some, List.length_cons]
      by_cases goesOn : statusBehind x = .running
      · have two := advanced.two_le goesOn
        rw [advanced.rest_eq, List.length_drop] at ih
        omega
      · have none : w'.next? = none :=
          next?_of_status_ne_running (advanced.status_eq ▸ goesOn)
        rw [items_of_next?_eq_none none, List.length_nil]
        omega

/-- An item with which the walk is over is the last one. -/
theorem length_items_of_isClosing {w : Walk} {n : Nat} {x : Except Truncation Tlv}
    (found : w.items[n]? = some x) (closing : IsClosing x) : w.items.length = n + 1 := by
  induction w using items.induct generalizing n with
  | case1 w none =>
      rw [items_of_next?_eq_none none] at found
      contradiction
  | case2 w y w' some ih =>
      rw [items_of_next?_eq_some some] at found ⊢
      cases n with
      | zero =>
          obtain rfl : y = x := Option.some.inj found
          obtain ⟨count, advanced⟩ := exists_advanced some
          have none : w'.next? = none :=
            next?_of_status_ne_running (advanced.status_eq ▸ closing.statusBehind_ne)
          rw [items_of_next?_eq_none none]
          rfl
      | succ n =>
          rw [List.getElem?_cons_succ] at found
          rw [List.length_cons, ih found]

/-! ## Loops -/

/-- The TLVs of the items, unless one is cut off, collected by so many calls at most.  There is no
outcome if the calls run out first. -/
def collectWithin : Nat → Walk → Option (Except Truncation (List Tlv))
  | 0, _ => none
  | calls + 1, w =>
      match w.next? with
      | none => some (.ok [])
      | some (.error cause, _) => some (.error cause)
      | some (.ok t, w') => (collectWithin calls w').map (·.map (t :: ·))

/-- One call more than there are items is enough. -/
theorem collectWithin_eq_some {w : Walk} {calls : Nat} (enough : w.items.length < calls) :
    collectWithin calls w = some (w.items.mapM id) := by
  induction calls generalizing w with
  | zero => contradiction
  | succ calls ih =>
      rw [collectWithin]
      cases next : w.next? with
      | none =>
          rw [items_of_next?_eq_none next]
          rfl
      | some found =>
          rcases found with ⟨x, w'⟩
          rw [items_of_next?_eq_some next] at enough ⊢
          rw [List.mapM_cons]
          cases x with
          | error cause => rfl
          | ok t =>
              change (collectWithin calls w').map _ = _
              rw [ih (Nat.lt_of_succ_lt_succ enough)]
              cases w'.items.mapM id <;> rfl

/-! ## The calls over a buffer -/

/-- The calls for the items of a buffer come to an end in good order. -/
structure Orderly (buffer : Octets) : Prop where
  consumed_mono : ∀ m n, m ≤ n →
    ((ofOctets buffer).after m).consumed ≤ ((ofOctets buffer).after n).consumed
  consumed_le : ∀ n, ((ofOctets buffer).after n).consumed ≤ buffer.length
  one_flag : ∀ n, ¬ (((ofOctets buffer).after n).endSeen = true ∧
    ((ofOctets buffer).after n).failed = true)
  endSeen_kept : ∀ m n, m ≤ n → ((ofOctets buffer).after m).endSeen = true →
    ((ofOctets buffer).after n).endSeen = true
  failed_kept : ∀ m n, m ≤ n → ((ofOctets buffer).after m).failed = true →
    ((ofOctets buffer).after n).failed = true
  few : ∀ n, ((ofOctets buffer).itemsWithin n).length ≤ (buffer.length + 1) / 2
  closing_last : ∀ m x, (ofOctets buffer).handedOut m = some x → IsClosing x →
    ∀ n, m < n → (ofOctets buffer).handedOut n = none
  closing_unique : ∀ m n x y, (ofOctets buffer).handedOut m = some x →
    (ofOctets buffer).handedOut n = some y → IsClosing x → IsClosing y → m = n
  none_kept : ∀ m n, m ≤ n → (ofOctets buffer).handedOut m = none →
    (ofOctets buffer).handedOut n = none ∧ (ofOctets buffer).after n = (ofOctets buffer).after m
  drained : ∀ n, (buffer.length + 1) / 2 ≤ n →
    (ofOctets buffer).handedOut n = none ∧
      (ofOctets buffer).itemsWithin n = (ofOctets buffer).items
  collected : ∀ n, (buffer.length + 1) / 2 < n →
    collectWithin n (ofOctets buffer) = some (Tlv.ofOctets buffer)

theorem status_of_endSeen {w : Walk} (seen : w.endSeen = true) : w.status = .ended :=
  eq_of_beq seen

theorem status_of_failed {w : Walk} (failed : w.failed = true) : w.status = .cut :=
  eq_of_beq failed

/-- A walk that is over stays as it is. -/
theorem after_eq_after {w : Walk} {m n : Nat} (le : m ≤ n)
    (finished : (w.after m).next? = none) : w.after n = w.after m := by
  obtain ⟨k, rfl⟩ := Nat.exists_eq_add_of_le le
  rw [after_add, after_of_next?_eq_none finished]

theorem after_eq_after_of_endSeen {w : Walk} {m n : Nat} (le : m ≤ n)
    (seen : (w.after m).endSeen = true) : w.after n = w.after m := by
  apply after_eq_after le
  apply next?_of_status_ne_running
  rw [status_of_endSeen seen]
  exact nofun

theorem after_eq_after_of_failed {w : Walk} {m n : Nat} (le : m ≤ n)
    (failed : (w.after m).failed = true) : w.after n = w.after m := by
  apply after_eq_after le
  apply next?_of_status_ne_running
  rw [status_of_failed failed]
  exact nofun

theorem orderly (buffer : Octets) : Orderly buffer := by
  have bound : (ofOctets buffer).items.length ≤ (buffer.length + 1) / 2 := length_items_le _
  constructor
  case consumed_mono =>
    intro m n le
    obtain ⟨k, rfl⟩ := Nat.exists_eq_add_of_le le
    rw [after_add]
    exact consumed_le_after _ _
  case consumed_le => exact fun n => (tracks_after buffer n).consumed_le
  case one_flag =>
    rintro n ⟨seen, failed⟩
    exact absurd ((status_of_endSeen seen).symm.trans (status_of_failed failed)) nofun
  case endSeen_kept =>
    intro m n le seen
    rwa [after_eq_after_of_endSeen le seen]
  case failed_kept =>
    intro m n le failed
    rwa [after_eq_after_of_failed le failed]
  case few =>
    intro n
    rw [itemsWithin_eq_take]
    exact Nat.le_trans (List.length_take_le' _ _) bound
  case closing_last =>
    intro m x found closing n later
    rw [handedOut_eq_getElem?] at found ⊢
    have length := length_items_of_isClosing found closing
    exact List.getElem?_eq_none (by omega)
  case closing_unique =>
    intro m n x y foundX foundY closingX closingY
    rw [handedOut_eq_getElem?] at foundX foundY
    have lengthX := length_items_of_isClosing foundX closingX
    have lengthY := length_items_of_isClosing foundY closingY
    omega
  case none_kept =>
    intro m n le none
    have finished : ((ofOctets buffer).after m).next? = .none := Option.map_eq_none_iff.mp none
    have same := after_eq_after le finished
    exact ⟨by rw [handedOut, same]; exact none, same⟩
  case drained =>
    intro n enough
    constructor
    · rw [handedOut_eq_getElem?]
      exact List.getElem?_eq_none (by omega)
    · rw [itemsWithin_eq_take]
      exact List.take_of_length_le (by omega)
  case collected => exact fun n enough => collectWithin_eq_some (by omega)

end Lldpdu.Walk
