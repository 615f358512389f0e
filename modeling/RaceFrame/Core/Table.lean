import Mathlib.Algebra.Ring.Nat
import Mathlib.Data.List.Nodup

/-!
# Tables with a unique key

A `Table` is the rows of a database table in some order, together with the fact
that its unique index holds: no two rows share a key. The operations are the
ones SQL offers on such a table (`INSERT`, `UPDATE` by key, `DELETE`, `INSERT …
ON CONFLICT DO UPDATE`), each keeping the index, and the lemmas say what a
lookup or a membership test sees after each of them.
-/

namespace RaceFrame.Core

/-- Rows of type `α` under a unique index on `key`. -/
structure Table (α : Type) {κ : Type} (key : α → κ) where
  /-- The rows, in storage order. -/
  rows : List α
  /-- The unique index. -/
  nodup : (rows.map key).Nodup

/-- A condition that one element of a list without duplicates satisfies selects that element. -/
theorem filter_eq_singleton {α : Type} {xs : List α} (hnodup : xs.Nodup) {selects : α → Bool}
    {x : α} (hx : x ∈ xs) (hselects : selects x = true)
    (honly : ∀ y ∈ xs, selects y = true → y = x) : xs.filter selects = [x] := by
  rw [← List.perm_singleton, List.perm_ext_iff_of_nodup (hnodup.filter _) (List.nodup_singleton x)]
  intro y
  rw [List.mem_filter, List.mem_singleton]
  constructor
  · intro hy
    exact honly y hy.1 hy.2
  · rintro rfl
    exact ⟨hx, hselects⟩

namespace Table

variable {α κ : Type} {key : α → κ}

theorem rows_nodup (t : Table α key) : t.rows.Nodup := List.Nodup.of_map key t.nodup

/-- The table without rows. -/
def empty : Table α key := ⟨[], List.nodup_nil⟩

/-- `DELETE … WHERE p`. -/
def deleteWhere (t : Table α key) (p : α → Bool) : Table α key where
  rows := t.rows.filter fun r => !p r
  nodup := t.nodup.sublist (List.Sublist.map key List.filter_sublist)

@[simp] theorem mem_deleteWhere {t : Table α key} {p : α → Bool} {r : α} :
    r ∈ (t.deleteWhere p).rows ↔ r ∈ t.rows ∧ p r = false := by
  simp [deleteWhere]

/-- `UPDATE … SET f` on every row, which keeps the keys. -/
def mapRows (t : Table α key) (f : α → α) (hf : ∀ r, key (f r) = key r) : Table α key where
  rows := t.rows.map f
  nodup := by
    have hkeys : (t.rows.map f).map key = t.rows.map key := by
      rw [List.map_map]
      exact List.map_congr_left fun r _ => hf r
    rw [hkeys]
    exact t.nodup

/-- Two rows of a table with the same key are the same row. -/
theorem eq_of_key_eq {t : Table α key} {r s : α} (hr : r ∈ t.rows) (hs : s ∈ t.rows)
    (h : key r = key s) : r = s :=
  List.inj_on_of_nodup_map t.nodup hr hs h

variable [DecidableEq κ]

/-- The row stored under a key. -/
def get? (t : Table α key) (k : κ) : Option α := t.rows.find? fun r => key r = k

/-- Replace the row that has the key of `r`, if there is one. -/
def put (t : Table α key) (r : α) : Table α key where
  rows := t.rows.map fun x => if key x = key r then r else x
  nodup := by
    have h : (t.rows.map fun x => if key x = key r then r else x).map key = t.rows.map key := by
      rw [List.map_map]
      refine List.map_congr_left fun x _ => ?_
      by_cases hx : key x = key r <;> simp [hx]
    rw [h]
    exact t.nodup

/-- `UPDATE … SET f WHERE key = k`. -/
def update (t : Table α key) (k : κ) (f : α → α) : Table α key :=
  match t.get? k with
  | none => t
  | some r => t.put (f r)

/-- `INSERT`, refused when the key is taken. -/
def insert? (t : Table α key) (r : α) : Option (Table α key) :=
  if h : key r ∈ t.rows.map key then none
  else some ⟨t.rows ++ [r], by
    rw [List.map_append, List.map_singleton, List.nodup_append]
    refine ⟨t.nodup, List.nodup_singleton _, ?_⟩
    intro a ha b hb
    rw [List.mem_singleton.mp hb]
    exact fun he => h (he ▸ ha)⟩

/-- Insert several rows, all or none. -/
def insertAll? (t : Table α key) : List α → Option (Table α key)
  | [] => some t
  | r :: rs => (t.insert? r).bind fun t' => t'.insertAll? rs

/-- `INSERT … ON CONFLICT (key) DO UPDATE`: `merge old new` is the updated row. -/
def upsert (t : Table α key) (merge : α → α → α) (r : α) : Table α key :=
  match t.get? (key r) with
  | none => (t.insert? r).getD t
  | some old => t.put (merge old r)

theorem mem_iff_get? {t : Table α key} {r : α} : r ∈ t.rows ↔ t.get? (key r) = some r := by
  constructor
  · intro hr
    cases h : t.get? (key r) with
    | none =>
      have hn := List.find?_eq_none.mp h r hr
      simp at hn
    | some s =>
      have hs : s ∈ t.rows := List.mem_of_find?_eq_some h
      have hk : key s = key r := by simpa using List.find?_some h
      rw [eq_of_key_eq hs hr hk]
  · exact List.mem_of_find?_eq_some

theorem get?_key {t : Table α key} {k : κ} {r : α} (h : t.get? k = some r) : key r = k := by
  simpa using List.find?_some h

theorem mem_of_get? {t : Table α key} {k : κ} {r : α} (h : t.get? k = some r) : r ∈ t.rows :=
  List.mem_of_find?_eq_some h

/-- A lookup finds `r` exactly when `r` is a row with that key. -/
theorem get?_eq_some_iff {t : Table α key} {k : κ} {r : α} :
    t.get? k = some r ↔ r ∈ t.rows ∧ key r = k := by
  constructor
  · intro h
    exact ⟨mem_of_get? h, get?_key h⟩
  · rintro ⟨hr, rfl⟩
    exact mem_iff_get?.mp hr

/-- What a lookup leads to does not change where the row that it finds is kept. -/
theorem map_get?_of_mem {β : Type} {t t' : Table α key} {g : α → β} {k : κ} {y : β}
    (h : (t.get? k).map g = some y) (hkept : ∀ r ∈ t.rows, key r = k → r ∈ t'.rows) :
    (t'.get? k).map g = some y := by
  obtain ⟨r, hr, hry⟩ := Option.map_eq_some_iff.mp h
  obtain ⟨hmem, hkey⟩ := get?_eq_some_iff.mp hr
  exact Option.map_eq_some_iff.mpr ⟨r, get?_eq_some_iff.mpr ⟨hkept r hmem hkey, hkey⟩, hry⟩

@[simp] theorem get?_mapRows (t : Table α key) (f : α → α) (hf : ∀ r, key (f r) = key r) (k : κ) :
    (t.mapRows f hf).get? k = (t.get? k).map f := by
  have hsame : (fun r => decide (key r = k)) ∘ f = fun r => decide (key r = k) := by
    funext r
    rw [Function.comp_apply, hf]
  rw [get?, mapRows, List.find?_map, hsame, get?]

theorem get?_eq_none_iff {t : Table α key} {k : κ} :
    t.get? k = none ↔ ∀ r ∈ t.rows, key r ≠ k := by
  simp [get?]

@[simp] theorem get?_empty (k : κ) : (empty : Table α key).get? k = none := rfl

/-- An insertion appends the row. -/
theorem rows_of_insert? {t t' : Table α key} {r : α} (h : t.insert? r = some t') :
    t'.rows = t.rows ++ [r] := by
  unfold insert? at h
  split at h
  · cases h
  · rw [← Option.some.inj h]

/-- Several insertions append the rows. -/
theorem rows_of_insertAll? {t t' : Table α key} {rs : List α} (h : t.insertAll? rs = some t') :
    t'.rows = t.rows ++ rs := by
  induction rs generalizing t with
  | nil => rw [← Option.some.inj h, List.append_nil]
  | cons r rs ih =>
    obtain ⟨u, hu, hrest⟩ := Option.bind_eq_some_iff.mp h
    rw [ih hrest, rows_of_insert? hu, List.append_assoc, List.singleton_append]

theorem mem_of_insert? {t t' : Table α key} {r : α} (h : t.insert? r = some t') :
    r ∈ t'.rows := by
  rw [rows_of_insert? h]
  exact List.mem_append_right _ List.mem_cons_self

theorem subset_of_insert? {t t' : Table α key} {r : α} (h : t.insert? r = some t') :
    t.rows ⊆ t'.rows := by
  rw [rows_of_insert? h]
  exact List.subset_append_left _ _

theorem subset_of_insertAll? {t t' : Table α key} {rs : List α} (h : t.insertAll? rs = some t') :
    t.rows ⊆ t'.rows := by
  rw [rows_of_insertAll? h]
  exact List.subset_append_left _ _

/-- An insertion keeps the rows that are there. -/
theorem get?_of_insert? {t t' : Table α key} {r x : α} {k : κ} (h : t.insert? r = some t')
    (hx : t.get? k = some x) : t'.get? k = some x := by
  rw [get?_eq_some_iff] at hx ⊢
  rw [rows_of_insert? h]
  exact ⟨List.mem_append_left _ hx.1, hx.2⟩

/-- A replacement changes only the row that carries its key. -/
theorem mem_put {t : Table α key} {r x : α} :
    x ∈ (t.put r).rows ↔ (x = r ∧ ∃ y ∈ t.rows, key y = key r) ∨ (x ∈ t.rows ∧ key x ≠ key r) := by
  simp only [put, List.mem_map]
  constructor
  · rintro ⟨y, hy, rfl⟩
    by_cases h : key y = key r
    · exact Or.inl ⟨by simp [h], y, hy, h⟩
    · exact Or.inr (by simpa [h] using hy)
  · rintro (⟨rfl, y, hy, h⟩ | ⟨hx, h⟩)
    · exact ⟨y, hy, by simp [h]⟩
    · exact ⟨x, hx, by simp [h]⟩

theorem get?_put (t : Table α key) (r : α) (k : κ) :
    (t.put r).get? k = if k = key r then (t.get? k).map fun _ => r else t.get? k := by
  have hput : ∀ l : List α, (l.map fun x => if key x = key r then r else x).find?
      (fun x => key x = k) =
        if k = key r then (l.find? fun x => key x = k).map fun _ => r
        else l.find? fun x => key x = k := by
    intro l
    induction l with
    | nil => by_cases hk : k = key r <;> simp [hk]
    | cons x l ih =>
      simp only [List.map_cons, List.find?_cons, ih]
      by_cases hx : key x = key r
      · by_cases hk : k = key r
        · simp [hx, hk]
        · have hk' : key r ≠ k := fun he => hk he.symm
          simp [hx, hk, hk']
      · by_cases hk : k = key r
        · subst hk
          simp [hx]
        · by_cases hxk : key x = k <;> simp [hx, hxk, hk]
  exact hput t.rows

@[simp] theorem get?_put_self {t : Table α key} {r s : α} (h : t.get? (key r) = some s) :
    (t.put r).get? (key r) = some r := by
  simp [get?_put, h]

theorem get?_put_ne {t : Table α key} {r : α} {k : κ} (h : k ≠ key r) :
    (t.put r).get? k = t.get? k := by
  simp [get?_put, h]

/-- A replacement keeps the keys. -/
@[simp] theorem map_key_put (t : Table α key) (r : α) :
    (t.put r).rows.map key = t.rows.map key := by
  rw [put, List.map_map]
  refine List.map_congr_left fun x _ => ?_
  by_cases hx : key x = key r <;> simp [hx]

/-- Replacing several rows keeps the keys. -/
@[simp] theorem map_key_foldl_put (rows : List α) (t : Table α key) :
    (rows.foldl put t).rows.map key = t.rows.map key := by
  induction rows generalizing t with
  | nil => rfl
  | cons r rows ih => rw [List.foldl_cons, ih, map_key_put]

/-- A replacement takes out the old row and puts in the new one. -/
theorem exists_perm_put {t : Table α key} {old r : α} (hold : old ∈ t.rows)
    (hkey : key r = key old) :
    ∃ rest, t.rows.Perm (old :: rest) ∧ (t.put r).rows.Perm (r :: rest) := by
  obtain ⟨front, back, hrows⟩ := List.append_of_mem hold
  have hnodup := t.nodup
  rw [hrows, List.map_append, List.map_cons, List.nodup_append, List.nodup_cons] at hnodup
  have hother : ∀ x ∈ front ++ back, key x ≠ key r := by
    intro x hx heq
    rw [hkey] at heq
    rcases List.mem_append.mp hx with hx | hx
    · exact hnodup.2.2 _ (List.mem_map_of_mem hx) _ List.mem_cons_self heq
    · exact hnodup.2.1.1 (heq ▸ List.mem_map_of_mem hx)
  have hsame : ∀ xs : List α, xs ⊆ front ++ back →
      xs.map (fun x => if key x = key r then r else x) = xs := by
    intro xs hxs
    conv_rhs => rw [← List.map_id xs]
    exact List.map_congr_left fun x hx => if_neg (hother x (hxs hx))
  refine ⟨front ++ back, hrows ▸ List.perm_middle, ?_⟩
  change (t.rows.map fun x => if key x = key r then r else x).Perm _
  rw [hrows, List.map_append, List.map_cons, if_pos hkey.symm,
    hsame front (List.subset_append_left _ _), hsame back (List.subset_append_right _ _)]
  exact List.perm_middle

/-- A key without a row is not among the keys. -/
theorem get?_eq_none_iff_map {t : Table α key} {k : κ} :
    t.get? k = none ↔ k ∉ t.rows.map key := by
  simp [get?]

/-- The later of two replacements of one row wins. -/
theorem put_put {t : Table α key} {r r' : α} (h : key r = key r') :
    (t.put r).put r' = t.put r' := by
  unfold put
  congr 1
  rw [List.map_map]
  refine List.map_congr_left fun x _ => ?_
  by_cases hx : key x = key r'
  · simp [h, hx]
  · simp [h, hx]

/-- Writing a row that is there changes nothing. -/
theorem put_of_mem {t : Table α key} {r : α} (h : r ∈ t.rows) : t.put r = t := by
  have hrows : (t.put r).rows = t.rows := by
    rw [put]
    conv_rhs => rw [← List.map_id t.rows]
    refine List.map_congr_left fun x hx => ?_
    by_cases hk : key x = key r
    · simp [eq_of_key_eq hx h hk]
    · simp [hk]
  cases t
  unfold put at hrows ⊢
  congr

/-- An update that changes nothing in its row changes nothing. -/
theorem update_of_eq {t : Table α key} {k : κ} {f : α → α} {r : α} (h : t.get? k = some r)
    (hf : f r = r) : t.update k f = t := by
  rw [update, h]
  dsimp only
  rw [hf, put_of_mem (mem_of_get? h)]

/-- An update that keeps the key changes only the row under the given key. -/
theorem get?_update {f : α → α} (hf : ∀ r, key (f r) = key r) (t : Table α key) (k k' : κ) :
    (t.update k f).get? k' = if k' = k then (t.get? k').map f else t.get? k' := by
  unfold update
  cases h : t.get? k with
  | none =>
    by_cases hk : k' = k
    · simp [hk, h]
    · simp [hk]
  | some r =>
    have hr : key r = k := get?_key h
    by_cases hk : k' = k
    · subst hk
      simp [get?_put, hf, hr, h]
    · simp [get?_put, hf, hr, hk]

theorem get?_update_self {t : Table α key} {k : κ} {f : α → α} {r : α} (h : t.get? k = some r)
    (hf : ∀ r, key (f r) = key r) : (t.update k f).get? k = some (f r) := by
  rw [get?_update hf, if_pos rfl, h, Option.map_some]

/-- The rows after an update: the updated one and those under other keys. -/
theorem mem_of_mem_update {f : α → α} {t : Table α key} {k : κ} {x : α}
    (h : x ∈ (t.update k f).rows) (hf : ∀ r, key (f r) = key r) :
    (x ∈ t.rows ∧ key x ≠ k) ∨ ∃ r, t.get? k = some r ∧ x = f r := by
  unfold update at h
  cases hr : t.get? k with
  | none =>
    rw [hr] at h
    exact Or.inl ⟨h, get?_eq_none_iff.mp hr x h⟩
  | some r =>
    rw [hr] at h
    rcases mem_put.mp h with ⟨hx, -⟩ | ⟨hx, hne⟩
    · exact Or.inr ⟨r, rfl, hx⟩
    · rw [hf, get?_key hr] at hne
      exact Or.inl ⟨hx, hne⟩

/-- Replacing rows leaves the other keys alone. -/
theorem get?_foldl_put_of_ne {rows : List α} {k : κ} (h : ∀ r ∈ rows, key r ≠ k)
    (t : Table α key) : (rows.foldl put t).get? k = t.get? k := by
  induction rows generalizing t with
  | nil => rfl
  | cons r rows ih =>
    rw [List.foldl_cons, ih fun r' hr' => h r' (List.mem_cons_of_mem r hr')]
    exact get?_put_ne fun he => h r List.mem_cons_self he.symm

/-- Replacing rows with distinct keys stores each of them. -/
theorem get?_foldl_put_of_mem {rows : List α} {r : α} (hr : r ∈ rows)
    (hnodup : (rows.map key).Nodup) {t : Table α key} {old : α}
    (hold : t.get? (key r) = some old) : (rows.foldl put t).get? (key r) = some r := by
  induction rows generalizing t old with
  | nil => cases hr
  | cons r' rows ih =>
    rw [List.map_cons, List.nodup_cons] at hnodup
    rw [List.foldl_cons]
    rcases List.mem_cons.mp hr with rfl | hr
    · have hne : ∀ r' ∈ rows, key r' ≠ key r := fun r' hr' he =>
        hnodup.1 (List.mem_map.mpr ⟨r', hr', he⟩)
      rw [get?_foldl_put_of_ne hne]
      exact get?_put_self hold
    · have hne : key r ≠ key r' := fun he => hnodup.1 (he ▸ List.mem_map_of_mem hr)
      exact ih hr hnodup.2 ((get?_put_ne hne).trans hold)

/-- A sum over the rows is one over the keys. -/
theorem sum_map_rows (t : Table α key) (w : α → Nat) :
    (t.rows.map w).sum = ((t.rows.map key).map fun k => ((t.get? k).map w).getD 0).sum := by
  rw [List.map_map]
  congr 1
  refine List.map_congr_left fun r hr => ?_
  rw [Function.comp_apply, mem_iff_get?.mp hr]
  rfl

end Table

end RaceFrame.Core
