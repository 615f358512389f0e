import RaceFrame.Core.Table

/-!
# What holds of every row

`Table.All` says that every row of a table has a property. Each operation keeps
it when the rows that it writes have the property too.
-/

namespace RaceFrame.Core.Table

variable {α κ : Type} {key : α → κ} {P : α → Prop}

/-- Every row of the table has the property. -/
def All (P : α → Prop) (t : Table α key) : Prop := ∀ r ∈ t.rows, P r

theorem all_empty : (empty : Table α key).All P := fun _ hr => absurd hr List.not_mem_nil

theorem All.imp {t : Table α key} {Q : α → Prop} (h : t.All P) (hPQ : ∀ r, P r → Q r) :
    t.All Q :=
  fun r hr => hPQ r (h r hr)

theorem All.deleteWhere {t : Table α key} (h : t.All P) (p : α → Bool) :
    (t.deleteWhere p).All P :=
  fun r hr => h r (mem_deleteWhere.mp hr).1

variable [DecidableEq κ]

theorem All.get? {t : Table α key} (h : t.All P) {k : κ} {r : α} (hr : t.get? k = some r) : P r :=
  h r (mem_of_get? hr)

theorem All.insert? {t t' : Table α key} (h : t.All P) {r : α} (hr : P r)
    (hinsert : t.insert? r = some t') : t'.All P := by
  intro x hx
  rw [rows_of_insert? hinsert, List.mem_append, List.mem_singleton] at hx
  rcases hx with hx | rfl
  · exact h x hx
  · exact hr

theorem All.insertAll? {t t' : Table α key} (h : t.All P) {rs : List α} (hrs : ∀ r ∈ rs, P r)
    (hinsert : t.insertAll? rs = some t') : t'.All P := by
  intro x hx
  rw [rows_of_insertAll? hinsert, List.mem_append] at hx
  exact hx.elim (h x) (hrs x)

theorem All.put {t : Table α key} (h : t.All P) {r : α} (hr : P r) : (t.put r).All P := by
  intro x hx
  rcases mem_put.mp hx with ⟨rfl, -⟩ | ⟨hx, -⟩
  · exact hr
  · exact h x hx

theorem All.update {t : Table α key} (h : t.All P) (k : κ) {f : α → α}
    (hf : ∀ r, P r → P (f r)) : (t.update k f).All P := by
  unfold Table.update
  cases hget : t.get? k with
  | none => exact h
  | some r => exact h.put (hf r (h.get? hget))

/-- An upsert writes the new row, or merges it into one with its key. -/
theorem All.upsert {t : Table α key} (h : t.All P) {merge : α → α → α} {r : α} (hr : P r)
    (hmerge : ∀ old, P old → key old = key r → P (merge old r)) : (t.upsert merge r).All P := by
  unfold Table.upsert
  cases hget : t.get? (key r) with
  | none =>
    cases hinsert : t.insert? r with
    | none => exact h
    | some t' => exact h.insert? hr hinsert
  | some old => exact h.put (hmerge old (h.get? hget) (get?_key hget))

end RaceFrame.Core.Table
