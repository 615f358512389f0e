import RaceFrame.Core.Table

/-!
# Sequences of upserts

Rows upserted one after the other are merged key by key: what a table holds
under a key afterwards depends only on what it held there before and on the rows
that came for that key, in order. With a merge that keeps the new row, a table
built this way is a dictionary in which the last entry for a key wins.
-/

namespace RaceFrame.Core

variable {α β κ : Type} {key : α → κ}

/-- What is stored under a key after a row has come for it. -/
def mergeInto (merge : α → α → α) (stored : Option α) (r : α) : Option α :=
  some (match stored with
    | none => r
    | some old => merge old r)

namespace Table

variable [DecidableEq κ]

/-- A deletion by a condition leaves the other rows where they are. -/
theorem get?_deleteWhere (t : Table α key) (p : α → Bool) (k : κ) :
    (t.deleteWhere p).get? k = (t.get? k).filter fun r => !p r := by
  cases h : (t.get? k).filter fun r => !p r with
  | some r =>
    obtain ⟨hr, hp⟩ := Option.filter_eq_some_iff.mp h
    obtain ⟨hmem, hk⟩ := get?_eq_some_iff.mp hr
    rw [get?_eq_some_iff, mem_deleteWhere]
    exact ⟨⟨hmem, by simpa using hp⟩, hk⟩
  | none =>
    rw [get?_eq_none_iff]
    intro r hr hk
    obtain ⟨hmem, hp⟩ := mem_deleteWhere.mp hr
    have hget : t.get? k = some r := get?_eq_some_iff.mpr ⟨hmem, hk⟩
    rw [hget, Option.filter_some, hp] at h
    cases h

variable {merge : α → α → α}

/-- An upsert merges the row into the one under its key. -/
theorem get?_upsert (hmerge : ∀ old r, key old = key r → key (merge old r) = key old)
    (t : Table α key) (r : α) (k : κ) :
    (t.upsert merge r).get? k =
      if key r = k then mergeInto merge (t.get? k) r else t.get? k := by
  unfold upsert
  cases h : t.get? (key r) with
  | none =>
    have hfree : key r ∉ t.rows.map key := get?_eq_none_iff_map.mp h
    have hrows : ((t.insert? r).getD t).rows = t.rows ++ [r] := by
      simp only [insert?, dif_neg hfree, Option.getD_some]
    simp only [get?, hrows, List.find?_append]
    by_cases hk : key r = k
    · subst hk
      change t.rows.find? _ = none at h
      rw [h]
      simp [mergeInto]
    · simp [hk]
  | some old =>
    have hold : key old = key r := get?_key h
    have hkey : key (merge old r) = key r := (hmerge old r hold).trans hold
    dsimp only
    rw [get?_put, hkey]
    by_cases hk : key r = k
    · subst hk
      simp [h, mergeInto]
    · rw [if_neg hk, if_neg (Ne.symm hk)]

/-- After a sequence of upserts a key holds the merge of the rows that came for it. -/
theorem get?_foldl_upsert (hmerge : ∀ old r, key old = key r → key (merge old r) = key old)
    (rs : List α) (t : Table α key) (k : κ) :
    (rs.foldl (fun t r => t.upsert merge r) t).get? k =
      (rs.filter fun r => key r = k).foldl (mergeInto merge) (t.get? k) := by
  induction rs generalizing t with
  | nil => rfl
  | cons r rs ih =>
    rw [List.foldl_cons, ih, get?_upsert hmerge]
    by_cases hk : key r = k
    · simp [hk]
    · simp [hk]

end Table

/-- A merge that keeps the new row leaves the last one. -/
theorem foldl_mergeInto_replace (rs : List α) (stored : Option α) :
    rs.foldl (mergeInto fun _ r => r) stored = rs.getLast?.or stored := by
  induction rs generalizing stored with
  | nil => rfl
  | cons r rs ih =>
    have hr : mergeInto (fun _ r => r) stored r = some r := by
      cases stored <;> rfl
    rw [List.foldl_cons, ih, hr, List.getLast?_cons]
    cases rs.getLast? <;> rfl

/-- A dictionary: items under different keys, in the order in which the keys came. -/
abbrev Dict (κ α : Type) : Type := Table (κ × α) Prod.fst

/-- Assign the items one after the other. -/
def Dict.ofItems [DecidableEq κ] (items : List (κ × α)) : Dict κ α :=
  items.foldl (fun dict item => dict.upsert (fun _ new => new) item) .empty

/-- The value under a key. -/
def Dict.value? [DecidableEq κ] (dict : Dict κ α) (k : κ) : Option α :=
  (dict.get? k).map Prod.snd

/-- The last item of a key wins. -/
theorem Dict.value?_ofItems [DecidableEq κ] (items : List (κ × α)) (k : κ) :
    (Dict.ofItems items).value? k =
      ((items.filter fun item => item.1 = k).getLast?).map Prod.snd := by
  rw [Dict.value?, Dict.ofItems, Table.get?_foldl_upsert fun _ _ h => h.symm,
    foldl_mergeInto_replace, Table.get?_empty, Option.or_none]

/-- A value comes from an item. -/
theorem Dict.mem_of_value?_ofItems [DecidableEq κ] {items : List (κ × α)} {k : κ} {a : α}
    (h : (Dict.ofItems items).value? k = some a) : (k, a) ∈ items := by
  rw [Dict.value?_ofItems, Option.map_eq_some_iff] at h
  obtain ⟨item, hitem, rfl⟩ := h
  obtain ⟨hmem, hkey⟩ := List.mem_filter.mp (List.mem_of_getLast? hitem)
  rw [← of_decide_eq_true hkey]
  exact hmem

/-- A key with one value has it. -/
theorem Dict.value?_ofItems_of_only [DecidableEq κ] {items : List (κ × α)} {k : κ} {a : α}
    (h : (k, a) ∈ items) (honly : ∀ b, (k, b) ∈ items → b = a) :
    (Dict.ofItems items).value? k = some a := by
  cases hvalue : (Dict.ofItems items).value? k with
  | none =>
    rw [Dict.value?_ofItems, Option.map_eq_none_iff, List.getLast?_eq_none_iff,
      List.filter_eq_nil_iff] at hvalue
    exact absurd (decide_eq_true rfl) (hvalue (k, a) h)
  | some b => rw [honly b (Dict.mem_of_value?_ofItems hvalue)]

/-- The items of a dictionary. -/
theorem Dict.mem_rows_iff [DecidableEq κ] {dict : Dict κ α} {k : κ} {a : α} :
    (k, a) ∈ dict.rows ↔ dict.value? k = some a := by
  rw [Dict.value?, Option.map_eq_some_iff, Table.mem_iff_get?]
  constructor
  · exact fun h => ⟨(k, a), h, rfl⟩
  · rintro ⟨item, hitem, rfl⟩
    have hkey : item.1 = k := Table.get?_key hitem
    rwa [← hkey] at hitem ⊢

/-- A stored row takes up the rows that come for it one after the other. -/
theorem foldl_mergeInto_some (merge : α → α → α) (rs : List α) (old : α) :
    rs.foldl (mergeInto merge) (some old) = some (rs.foldl merge old) := by
  induction rs generalizing old with
  | nil => rfl
  | cons r rs ih => exact ih (merge old r)

/-- A projection that the merge combines is combined over the whole sequence. -/
theorem map_foldl_mergeInto {merge : α → α → α} {combine : β → β → β} {π : α → β}
    (h : ∀ old r, π (merge old r) = combine (π old) (π r)) (rs : List α) (stored : Option α) :
    (rs.foldl (mergeInto merge) stored).map π =
      (rs.map π).foldl (mergeInto combine) (stored.map π) := by
  induction rs generalizing stored with
  | nil => rfl
  | cons r rs ih =>
    rw [List.foldl_cons, ih, List.map_cons, List.foldl_cons]
    congr 1
    cases stored with
    | none => rfl
    | some old => exact congrArg some (h old r)

end RaceFrame.Core
