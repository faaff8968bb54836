import Mathlib.Data.List.Basic
import Mathlib.Data.List.Perm.Basic

/-!
# Lists that agree key by key

Two lists agree key by key if, under each key, they hold the same elements in the same order.  The
elements of different keys may be mixed in any way.

Such lists are permutations of each other.  Whatever is picked from the elements of a single key is
the same in both of them, and a list that is computed element by element agrees again, if the keys
of the results tell those of their origins.
-/

namespace Lldpdu

variable {α β κ μ : Type} [DecidableEq κ] [DecidableEq μ]

/-- Under each key the two lists hold the same elements in the same order. -/
def SameByKey (key : α → κ) (as bs : List α) : Prop :=
  ∀ k, (as.filter fun a => key a = k) = bs.filter fun a => key a = k

namespace SameByKey

variable {key : α → κ} {as bs : List α}

/-- It is enough to look at the keys that occur. -/
theorem iff_occurring : SameByKey key as bs ↔ ∀ c ∈ as ++ bs,
    (as.filter fun a => key a = key c) = bs.filter fun b => key b = key c := by
  constructor
  · intro same c _
    exact same (key c)
  · intro same k
    by_cases occurs : ∃ c ∈ as ++ bs, key c = k
    · rcases occurs with ⟨c, member, rfl⟩
      exact same c member
    · have none (cs : List α) (part : cs ⊆ as ++ bs) : (cs.filter fun c => key c = k) = [] := by
        rw [List.filter_eq_nil_iff]
        intro c member isKey
        exact occurs ⟨c, part member, of_decide_eq_true isKey⟩
      rw [none as (List.subset_append_left as bs), none bs (List.subset_append_right as bs)]

instance [DecidableEq α] : Decidable (SameByKey key as bs) :=
  decidable_of_iff' _ iff_occurring

/-- No element is lost or gained: each occurs as often as it does under its key. -/
theorem perm [DecidableEq α] (same : SameByKey key as bs) : as.Perm bs := by
  rw [List.perm_iff_count]
  intro a
  have under (cs : List α) : (cs.filter fun c => key c = key a).count a = cs.count a :=
    List.count_filter (by simp)
  rw [← under as, same (key a), under bs]

/-- What is picked under one key only is picked alike. -/
theorem filterMap_eq (same : SameByKey key as bs) {f : α → Option β} {k : κ}
    (only : ∀ a b, f a = some b → key a = k) : as.filterMap f = bs.filterMap f := by
  have picked (cs : List α) : cs.filterMap f = (cs.filter fun c => key c = k).filterMap f := by
    rw [List.filterMap_filter]
    apply List.filterMap_congr
    intro c _
    by_cases own : key c = k
    · rw [if_pos (decide_eq_true own)]
    · rw [if_neg (by simpa using own)]
      cases said : f c with
      | none => rfl
      | some b => exact absurd (only c b said) own
  rw [picked, same k, ← picked]

/-- Results whose keys tell the keys that they come from agree key by key. -/
theorem filterMap (same : SameByKey key as bs) {f : α → Option β} {resultKey : β → μ}
    (origin : μ → κ) (tells : ∀ a b, f a = some b → key a = origin (resultKey b)) :
    SameByKey resultKey (as.filterMap f) (bs.filterMap f) := by
  intro m
  rw [List.filter_filterMap, List.filter_filterMap]
  apply same.filterMap_eq (k := origin m)
  intro a b kept
  rw [Option.filter_eq_some_iff, decide_eq_true_eq] at kept
  rw [tells a b kept.1, kept.2]

theorem filter (same : SameByKey key as bs) (p : α → Bool) :
    SameByKey key (as.filter p) (bs.filter p) := by
  intro k
  rw [List.filter_comm, same k, List.filter_comm]

/-- Keys may be changed for others that are the same on the elements that occur. -/
theorem congr (same : SameByKey key as bs) {other : α → κ} (left : ∀ a ∈ as, other a = key a)
    (right : ∀ b ∈ bs, other b = key b) : SameByKey other as bs := by
  intro k
  calc as.filter (fun a => other a = k)
      = as.filter (fun a => key a = k) := List.filter_congr fun a member => by rw [left a member]
    _ = bs.filter (fun b => key b = k) := same k
    _ = bs.filter (fun b => other b = k) :=
        List.filter_congr fun b member => by rw [right b member]

/-- An element may be moved to the end, past elements of other keys. -/
theorem move_to_end {a : α} (others : ∀ b ∈ bs, key b ≠ key a) (as : List α) :
    SameByKey key (as ++ a :: bs) (as ++ bs ++ [a]) := by
  intro k
  simp only [List.filter_append, List.append_assoc]
  by_cases own : key a = k
  · have none : (bs.filter fun b => key b = k) = [] := by
      rw [List.filter_eq_nil_iff]
      intro b member
      simpa [own] using others b member
    rw [List.filter_cons_of_pos (by simpa using own), none,
      List.filter_cons_of_pos (by simpa using own)]
    rfl
  · rw [List.filter_cons_of_neg (by simpa using own), List.filter_cons_of_neg (by simpa using own),
      List.filter_nil, List.append_nil]

end SameByKey

end Lldpdu
