import Lldpdu.Decoded
import Mathlib.Data.List.Basic
import Mathlib.Data.List.Induction

/-!
# Records gathered from items

A record is gathered by adding items one after the other.  Where each field is a matter of the
items of one kind, it is the last of them or the list of all of them, and this file says what
becomes of the field when an item is added and when the items change places.
-/

namespace Lldpdu.Decoded

variable {ι α σ : Type}

/-! ## Readings without an error -/

theorem filterMap_item?_ok (items : List ι) :
    (items.map Except.ok).filterMap item? = items := by
  rw [List.filterMap_map]
  exact List.filterMap_some

theorem filterMap_error?_ok (items : List ι) :
    (items.map Except.ok).filterMap (error? : Except FieldError ι → _) = [] := by
  rw [List.filterMap_map]
  exact List.filterMap_none items

/-- Readings that all make it leave no error. -/
theorem gather_map_ok (add : σ → ι → σ) (start : σ) (items : List ι) :
    gather add start (items.map .ok) = ⟨items.foldl add start, []⟩ := by
  rw [gather, filterMap_item?_ok, filterMap_error?_ok]

/-! ## One reading after the other -/

/-- The record with one more reading. -/
def push (add : σ → ι → σ) (d : Decoded σ) : Except FieldError ι → Decoded σ
  | .ok item => { d with value := add d.value item }
  | .error e => { d with errors := d.errors ++ [e] }

/-- Gathering is taking up one reading after the other. -/
theorem foldl_push (add : σ → ι → σ) (start : σ) (readings : List (Except FieldError ι)) :
    readings.foldl (push add) ⟨start, []⟩ = gather add start readings := by
  induction readings using List.reverseRecOn with
  | nil => rfl
  | append_singleton readings reading ih =>
      rw [List.foldl_append, ih, gather_append]
      cases reading with
      | ok item => exact congrArg (mk _) (List.append_nil _).symm
      | error e => rfl

/-! ## Fields under a further item -/

theorem filterMap_cons_eq (pick : ι → Option α) (i : ι) (items : List ι) :
    (i :: items).filterMap pick = (pick i).toList ++ items.filterMap pick := by
  rw [List.filterMap_cons]
  cases pick i <;> rfl

theorem filterMap_concat (pick : ι → Option α) (items : List ι) (i : ι) :
    (items ++ [i]).filterMap pick = items.filterMap pick ++ (pick i).toList := by
  cases said : pick i with
  | none => simp [List.filterMap_append, said]
  | some a => simp [List.filterMap_append, said]

/-- The last element that says something is the new one, if it does. -/
theorem getLast?_filterMap_concat (pick : ι → Option α) (items : List ι) (i : ι) (default : α) :
    ((items ++ [i]).filterMap pick).getLast?.getD default =
      (pick i).getD ((items.filterMap pick).getLast?.getD default) := by
  cases said : pick i with
  | none => simp [List.filterMap_append, said]
  | some a => simp [List.filterMap_append, said]

/-! ## Fields under another order -/

/-- A field about which a single item says something holds what it says, wherever the item is. -/
theorem getLast?_filterMap_of_perm {items describing : List ι} (perm : items.Perm describing)
    {pick : ι → Option α} {a : α} (single : describing.filterMap pick = [a]) (default : α) :
    (items.filterMap pick).getLast?.getD default = a := by
  have picked := perm.filterMap pick
  rw [single, List.perm_singleton] at picked
  rw [picked]
  rfl

/-- Wrapped elements are picked again. -/
theorem filterMap_map_eq (pick : ι → Option α) (wrap : α → ι) {as : List α}
    (unwrap : ∀ a ∈ as, pick (wrap a) = some a) : (as.map wrap).filterMap pick = as := by
  induction as with
  | nil => rfl
  | cons a as ih =>
      rcases List.forall_mem_cons.mp unwrap with ⟨first, others⟩
      rw [List.map_cons, List.filterMap_cons_some first, ih others]

/-- A list keeps its order if its items do. -/
theorem filterMap_of_perm {items describing : List ι} (perm : items.Perm describing)
    (pick : ι → Option α) (wrap : α → ι) {as : List α} (unwrap : ∀ a ∈ as, pick (wrap a) = some a)
    (all : describing.filterMap pick = as) (ordered : (as.map wrap).Sublist items) :
    items.filterMap pick = as := by
  have kept : as.Sublist (items.filterMap pick) := by
    have picked := ordered.filterMap pick
    rwa [filterMap_map_eq pick wrap unwrap] at picked
  have length := (perm.filterMap pick).length_eq
  rw [all] at length
  exact (kept.eq_of_length length.symm).symm

/-! ## Errors under another order -/

/-- The records are equal, and so are the errors beside them up to their order. -/
structure Alike (d d' : Decoded σ) : Prop where
  value : d.value = d'.value
  errors : d.errors.Perm d'.errors

end Lldpdu.Decoded
