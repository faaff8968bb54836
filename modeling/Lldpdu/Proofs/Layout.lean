import Lldpdu.Layout
import Mathlib.Data.List.TakeWhile
import Mathlib.Order.Basic

/-!
# Values that grow to the length that is asked for

A layout may ask for a length that it has read in the value itself.  What it has read is then among
the octets that its earlier demands have secured, so octets behind the value change neither the
demands that it meets nor the first one that it does not: the layout is gradual.

A value that is given the length it falls short of meets one more demand.  There are only so many
of them, so after as many steps it falls short of nothing.
-/

namespace Lldpdu.Layout

variable {α β : Type} {layout : Layout α} {value : Octets} {wanted : Nat}

/-- The demands that a value meets before it fails to meet one. -/
def met (layout : Layout α) (value : Octets) : List Nat :=
  (layout.demands value).takeWhile fun wanted => wanted ≤ value.length

/-- The layout makes at most `steps` demands, and octets behind a value leave alone those that it
meets and the first one that it does not. -/
structure Gradual (layout : Layout α) (steps : Nat) : Prop where
  few : ∀ value, (layout.demands value).length ≤ steps
  settled : ∀ {value wanted}, layout.unmet? value = some wanted → ∀ more,
    layout.met value ++ [wanted] <+: layout.demands (value ++ more)

/-! ## Demands that are met -/

theorem lt_of_unmet?_eq_some (short : layout.unmet? value = some wanted) :
    value.length < wanted := by
  have found := List.find?_some short
  exact of_decide_eq_true found

theorem le_of_mem_met {reached : Nat} (member : reached ∈ layout.met value) :
    reached ≤ value.length := by
  have found := List.mem_takeWhile_imp member
  exact of_decide_eq_true found

/-- Behind the demands that are met comes the one that is not. -/
theorem exists_demands_eq (short : layout.unmet? value = some wanted) :
    ∃ behind, layout.demands value = layout.met value ++ wanted :: behind := by
  have beyond := lt_of_unmet?_eq_some short
  rw [unmet?, List.find?_eq_some_iff_append] at short
  obtain ⟨-, front, behind, split, others⟩ := short
  refine ⟨behind, ?_⟩
  rw [met, split, List.takeWhile_append_of_pos, List.takeWhile_cons_of_neg (by simpa using beyond),
    List.append_nil]
  intro reached member
  simpa using others reached member

/-- A value that falls short has met fewer demands than there are. -/
theorem length_met_lt (short : layout.unmet? value = some wanted) :
    (layout.met value).length < (layout.demands value).length := by
  obtain ⟨behind, split⟩ := exists_demands_eq short
  rw [split, List.length_append, List.length_cons]
  omega

/-! ## Gradual layouts -/

/-- Where the demands stay the same, those that are met do, and so does the first one that is
not. -/
theorem met_append_prefix_of_eq {longer : Octets} (short : layout.unmet? value = some wanted)
    (same : layout.demands longer = layout.demands value) :
    layout.met value ++ [wanted] <+: layout.demands longer := by
  obtain ⟨behind, split⟩ := exists_demands_eq short
  exact ⟨behind, by rw [same, split, List.append_assoc, List.singleton_append]⟩

theorem gradual_anyLength (steps : Nat) (read : Octets → α) : (anyLength read).Gradual steps where
  few _ := Nat.zero_le steps
  settled short := by contradiction

theorem gradual_atLeast (length : Nat) (read : Octets → α) : (atLeast length read).Gradual 1 where
  few _ := Nat.le_refl 1
  settled short _ := met_append_prefix_of_eq short rfl

theorem Gradual.map {steps : Nat} (gradual : layout.Gradual steps) (f : α → β) :
    (layout.map f).Gradual steps where
  few := gradual.few
  settled := gradual.settled

namespace Gradual

variable {steps : Nat} (gradual : layout.Gradual steps)

include gradual

/-- A value that is still too short falls short of the same length. -/
theorem unmet?_append (short : layout.unmet? value = some wanted) {more : Octets}
    (still : (value ++ more).length < wanted) : layout.unmet? (value ++ more) = some wanted := by
  obtain ⟨behind, split⟩ := gradual.settled short more
  have reached : (layout.met value).find? (fun wanted => (value ++ more).length < wanted) =
      none := by
    rw [List.find?_eq_none]
    intro reached member
    have le := le_of_mem_met member
    rw [decide_eq_true_eq, List.length_append]
    omega
  rw [unmet?, ← split, List.append_assoc, List.find?_append, reached, Option.none_or,
    List.singleton_append, List.find?_cons_of_pos (by simpa using still)]

/-- A value that is given the length it falls short of meets one more demand. -/
theorem length_met_lt_append (short : layout.unmet? value = some wanted) {more : Octets}
    (exact : (value ++ more).length = wanted) :
    (layout.met value).length < (layout.met (value ++ more)).length := by
  obtain ⟨behind, split⟩ := gradual.settled short more
  have reached : layout.met (value ++ more) = (layout.met value ++ [wanted]) ++
      behind.takeWhile fun wanted => wanted ≤ (value ++ more).length := by
    rw [met, ← split, List.takeWhile_append_of_pos]
    intro demand member
    rw [decide_eq_true_eq]
    rcases List.mem_append.mp member with member | member
    · have le := le_of_mem_met member
      rw [List.length_append]
      omega
    · rw [List.mem_singleton.mp member, exact]
  rw [reached, List.length_append, List.length_append, List.length_singleton]
  omega

/-- Values of which each one that falls short of a length is followed by one that reaches just that
length: as long as they fall short they meet more and more demands, so one of the first few falls
short of nothing. -/
theorem exists_unmet?_eq_none {values : Nat → Octets}
    (follows : ∀ i wanted, layout.unmet? (values i) = some wanted →
      values i <+: values (i + 1) ∧ (values (i + 1)).length = wanted) :
    ∃ i ≤ steps, layout.unmet? (values i) = none := by
  by_contra never
  have short : ∀ i ≤ steps, ∃ wanted, layout.unmet? (values i) = some wanted := by
    intro i le
    exact Option.ne_none_iff_exists'.mp fun none => never ⟨i, le, none⟩
  have progress : ∀ i ≤ steps, i ≤ (layout.met (values i)).length := by
    intro i
    induction i with
    | zero => exact fun _ => Nat.zero_le _
    | succ i ih =>
        intro le
        obtain ⟨wanted, short⟩ := short i (Nat.le_of_succ_le le)
        obtain ⟨⟨more, extended⟩, exact⟩ := follows i wanted short
        rw [← extended] at exact ⊢
        exact Nat.lt_of_le_of_lt (ih (Nat.le_of_succ_le le))
          (gradual.length_met_lt_append short exact)
  obtain ⟨wanted, last⟩ := short steps (Nat.le_refl steps)
  have all := progress steps (Nat.le_refl steps)
  have fewer := length_met_lt last
  have few := gradual.few (values steps)
  omega

end Gradual

end Lldpdu.Layout
