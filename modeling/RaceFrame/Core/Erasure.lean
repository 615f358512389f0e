import RaceFrame.Core.Table

/-!
# Erasing rows

`Erased related rows rows'` says that the related rows are gone and that every
other row is still there, unchanged and in its place. The rules say when a
filter and a `DELETE` erase a relation.
-/

namespace RaceFrame.Core

variable {α : Type}

/-- A `DELETE` that selects no row. -/
theorem Table.deleteWhere_of_none {κ : Type} {key : α → κ} {t : Table α key} {p : α → Bool}
    (h : ∀ r ∈ t.rows, p r = false) : t.deleteWhere p = t := by
  have hrows : (t.deleteWhere p).rows = t.rows := by
    refine List.filter_eq_self.mpr fun r hr => ?_
    rw [h r hr]
    rfl
  cases t
  unfold deleteWhere at hrows ⊢
  congr

/-- A `DELETE` of the rows with one of no keys. -/
theorem Table.deleteWhere_contains_nil {κ β : Type} [BEq β] {key : α → κ} (t : Table α key)
    (f : α → β) : (t.deleteWhere fun r => [].contains (f r)) = t :=
  deleteWhere_of_none fun _ _ => rfl

open Classical in
/-- `rows'` are those of `rows` that are not `related`. -/
def Erased (related : α → Prop) (rows rows' : List α) : Prop :=
  rows' = rows.filter fun r => ¬ related r

namespace Erased

variable {related : α → Prop} {rows rows' : List α}

/-- A row is left exactly when it was there and is not related. -/
theorem mem_iff (h : Erased related rows rows') {r : α} :
    r ∈ rows' ↔ r ∈ rows ∧ ¬ related r := by
  classical
  rw [h, List.mem_filter, decide_eq_true_eq]

/-- A filter erases what it does not let through. -/
theorem of_filter {p : α → Bool} (h : ∀ r ∈ rows, p r = true ↔ ¬ related r) :
    Erased related rows (rows.filter p) := by
  classical
  refine List.filter_congr fun r hr => ?_
  rw [Bool.eq_iff_iff, decide_eq_true_eq]
  exact h r hr

/-- Nothing is erased where nothing is related. -/
theorem of_none (h : ∀ r ∈ rows, ¬ related r) : Erased related rows rows := by
  have hall := of_filter (p := fun _ => true) fun r hr => iff_of_true rfl (h r hr)
  rwa [List.filter_true] at hall

/-- Where nothing is related, the rows are the same. -/
theorem eq_of_none (h : Erased related rows rows') (hnone : ∀ r ∈ rows, ¬ related r) :
    rows' = rows := by
  classical
  rw [h]
  refine List.filter_eq_self.mpr fun r hr => ?_
  rw [decide_eq_true_eq]
  exact hnone r hr

end Erased

end RaceFrame.Core
