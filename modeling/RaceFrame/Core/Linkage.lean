import Mathlib.Data.List.Basic
import Mathlib.Data.List.Zip
import Mathlib.Order.Basic

/-!
# Greedy clustering by linkage

Items come one after the other. An item joins a cluster with a member that is
similar enough, or opens a new cluster when nothing before it is. However a
cluster is chosen among several, the clusters partition the items in their order,
and their first items are the ones that resemble nothing before them.
-/

namespace RaceFrame.Core

variable {α β : Type}

/-- The items with a label, in order. -/
def labelled (items : List α) (labels : List Nat) (k : Nat) : List α :=
  ((items.zip labels).filter fun entry => entry.2 == k).map (·.1)

theorem mem_labelled_iff {items : List α} {labels : List Nat} {k : Nat} {x : α} :
    x ∈ labelled items labels k ↔ ∃ i : Nat, items[i]? = some x ∧ labels[i]? = some k := by
  rw [labelled, List.mem_map]
  constructor
  · rintro ⟨entry, hentry, rfl⟩
    obtain ⟨hzip, hlabel⟩ := List.mem_filter.mp hentry
    obtain ⟨i, hi⟩ := List.mem_iff_getElem?.mp hzip
    rw [List.getElem?_zip_eq_some, beq_iff_eq.mp hlabel] at hi
    exact ⟨i, hi⟩
  · rintro ⟨i, hitem, hlabel⟩
    refine ⟨(x, k), List.mem_filter.mpr ⟨?_, beq_self_eq_true k⟩, rfl⟩
    exact List.mem_iff_getElem?.mpr ⟨i, List.getElem?_zip_eq_some.mpr ⟨hitem, hlabel⟩⟩

/-- A further item is added to the items with its label. -/
theorem labelled_concat {items : List α} {labels : List Nat} (h : labels.length = items.length)
    (x : α) (label k : Nat) :
    labelled (items ++ [x]) (labels ++ [label]) k =
      labelled items labels k ++ if label = k then [x] else [] := by
  rw [labelled, List.zip_append h.symm, List.filter_append, List.map_append]
  refine congrArg (labelled items labels k ++ ·) ?_
  by_cases hlabel : label = k
  · rw [if_pos hlabel, List.zip_cons_cons, List.zip_nil_right,
      List.filter_cons_of_pos (by rw [beq_iff_eq]; exact hlabel)]
    rfl
  · rw [if_neg hlabel, List.zip_cons_cons, List.zip_nil_right,
      List.filter_cons_of_neg (by rw [beq_iff_eq]; exact hlabel)]
    rfl

private theorem getElem?_concat_eq_some {xs : List α} {x y : α} {i : Nat} :
    (xs ++ [x])[i]? = some y ↔ xs[i]? = some y ∨ i = xs.length ∧ x = y := by
  rcases lt_trichotomy i xs.length with hlt | rfl | hgt
  · rw [List.getElem?_append_left hlt]
    exact (or_iff_left fun h => hlt.ne h.1).symm
  · rw [List.getElem?_concat_length, List.getElem?_eq_none (le_refl _), Option.some.injEq]
    simp only [reduceCtorEq, false_or, true_and]
  · have hlength : (xs ++ [x]).length ≤ i := by
      rw [List.length_append, List.length_singleton]
      exact hgt
    rw [List.getElem?_eq_none hlength, List.getElem?_eq_none hgt.le]
    simp only [reduceCtorEq, hgt.ne', false_and, or_self]

/-- The clusters partition the items by their labels. An item that is not the first of its cluster
is linked to an earlier item of it, and the first one is linked to no earlier item at all. -/
structure LinkagePartition [Preorder β] (similarity : α → α → β) (threshold : β) (items : List α)
    (clusters : List (List α)) (labels : List Nat) : Prop where
  length : labels.length = items.length
  label_lt : ∀ k ∈ labels, k < clusters.length
  members : ∀ k < clusters.length, clusters[k]? = some (labelled items labels k)
  nonempty : ∀ cluster ∈ clusters, cluster ≠ []
  linked : ∀ (i : Nat) item k, items[i]? = some item → labels[i]? = some k →
    (∃ j < i, labels[j]? = some k) →
    ∃ j < i, ∃ earlier, items[j]? = some earlier ∧ labels[j]? = some k ∧
      threshold ≤ similarity item earlier
  separate : ∀ (i : Nat) item k, items[i]? = some item → labels[i]? = some k →
    (∀ j < i, labels[j]? ≠ some k) →
    ∀ j < i, ∀ earlier, items[j]? = some earlier → similarity item earlier < threshold

namespace LinkagePartition

variable [Preorder β] {similarity : α → α → β} {threshold : β} {items : List α}
  {clusters : List (List α)} {labels : List Nat}

theorem nil : LinkagePartition similarity threshold [] [] [] where
  length := rfl
  label_lt _ h := absurd h List.not_mem_nil
  members _ h := absurd h (Nat.not_lt_zero _)
  nonempty _ h := absurd h List.not_mem_nil
  linked _ _ _ h := by cases h
  separate _ _ _ h := by cases h

/-- A label of an item is in front of the end. -/
theorem lt_length_of_label (h : LinkagePartition similarity threshold items clusters labels)
    {i k : Nat} (hlabel : labels[i]? = some k) : i < items.length := by
  rw [← h.length]
  exact (List.getElem?_eq_some_iff.mp hlabel).1

/-- Every item is in a cluster. -/
theorem exists_cluster (h : LinkagePartition similarity threshold items clusters labels) {x : α}
    (hx : x ∈ items) : ∃ cluster ∈ clusters, x ∈ cluster := by
  obtain ⟨i, hi⟩ := List.mem_iff_getElem?.mp hx
  have hlt : i < labels.length := by
    rw [h.length]
    exact (List.getElem?_eq_some_iff.mp hi).1
  have hlabel : labels[i]? = some labels[i] := List.getElem?_eq_getElem hlt
  have hcluster := h.members labels[i] (h.label_lt _ (List.getElem_mem hlt))
  exact ⟨_, List.mem_of_getElem? hcluster, mem_labelled_iff.mpr ⟨i, hi, hlabel⟩⟩

/-- A further item takes a label: it is linked to an earlier item with the label, or the label is
new and nothing before it is linked to it. -/
private theorem concat (h : LinkagePartition similarity threshold items clusters labels) {x : α}
    {k : Nat} {clusters' : List (List α)}
    (hlabels : ∀ label ∈ labels ++ [k], label < clusters'.length)
    (hmembers : ∀ k' < clusters'.length,
      clusters'[k']? = some (labelled (items ++ [x]) (labels ++ [k]) k'))
    (hnonempty : ∀ cluster ∈ clusters', cluster ≠ [])
    (hplace : (∃ (j : Nat) (earlier : α), items[j]? = some earlier ∧ labels[j]? = some k ∧
        threshold ≤ similarity x earlier) ∨
      k ∉ labels ∧ ∀ earlier ∈ items, similarity x earlier < threshold) :
    LinkagePartition similarity threshold (items ++ [x]) clusters' (labels ++ [k]) := by
  have hnew {i : Nat} {item : α} (hitem : (items ++ [x])[i]? = some item)
      (hi : i = labels.length) : item = x := by
    rw [hi, h.length, List.getElem?_concat_length, Option.some.injEq] at hitem
    exact hitem.symm
  refine ⟨?_, hlabels, hmembers, hnonempty, ?_, ?_⟩
  · rw [List.length_append, List.length_append, h.length]
    rfl
  · intro i item label hitem hlabel hexists
    obtain ⟨j, hj, hjlabel⟩ := hexists
    rcases getElem?_concat_eq_some.mp hlabel with hlabel | ⟨hi, rfl⟩
    · have hi := h.lt_length_of_label hlabel
      rw [List.getElem?_append_left hi] at hitem
      rw [List.getElem?_append_left (by rw [h.length]; omega)] at hjlabel
      obtain ⟨j', hj', earlier, hearlier, hlabel', hsimilar⟩ :=
        h.linked i item label hitem hlabel ⟨j, hj, hjlabel⟩
      exact ⟨j', hj', earlier, getElem?_concat_eq_some.mpr (Or.inl hearlier),
        getElem?_concat_eq_some.mpr (Or.inl hlabel'), hsimilar⟩
    · rw [List.getElem?_append_left (by omega)] at hjlabel
      rcases hplace with ⟨j', earlier, hearlier, hlabel', hsimilar⟩ | ⟨hfresh, -⟩
      · have hj' := h.lt_length_of_label hlabel'
        have hlength := h.length
        refine ⟨j', by omega, earlier, getElem?_concat_eq_some.mpr (Or.inl hearlier),
          getElem?_concat_eq_some.mpr (Or.inl hlabel'), ?_⟩
        rwa [hnew hitem hi]
      · exact absurd (List.mem_of_getElem? hjlabel) hfresh
  · intro i item label hitem hlabel hfirst j hj earlier hearlier
    rcases getElem?_concat_eq_some.mp hlabel with hlabel | ⟨hi, rfl⟩
    · have hi := h.lt_length_of_label hlabel
      rw [List.getElem?_append_left hi] at hitem
      rw [List.getElem?_append_left (by omega)] at hearlier
      refine h.separate i item label hitem hlabel (fun j' hj' hlabel' => ?_) j hj earlier hearlier
      exact hfirst j' hj' (getElem?_concat_eq_some.mpr (Or.inl hlabel'))
    · have hlength := h.length
      rcases hplace with ⟨j', other, -, hlabel', -⟩ | ⟨-, hseparate⟩
      · have hj' := h.lt_length_of_label hlabel'
        exact absurd (getElem?_concat_eq_some.mpr (Or.inl hlabel')) (hfirst j' (by omega))
      · rw [List.getElem?_append_left (by omega)] at hearlier
        rw [hnew hitem hi]
        exact hseparate earlier (List.mem_of_getElem? hearlier)

/-- An item joins a cluster that it is linked to. -/
theorem join (h : LinkagePartition similarity threshold items clusters labels) {x other : α}
    {k : Nat} {cluster : List α} (hcluster : clusters[k]? = some cluster) (hother : other ∈ cluster)
    (hlink : threshold ≤ similarity x other) :
    LinkagePartition similarity threshold (items ++ [x]) (clusters.modify k (· ++ [x]))
      (labels ++ [k]) := by
  have hk : k < clusters.length := (List.getElem?_eq_some_iff.mp hcluster).1
  have hmembers := h.members k hk
  rw [hcluster, Option.some.injEq] at hmembers
  rw [hmembers] at hother
  obtain ⟨j, hj, hjlabel⟩ := mem_labelled_iff.mp hother
  refine h.concat ?_ ?_ ?_ (Or.inl ⟨j, other, hj, hjlabel, hlink⟩)
  · intro label hlabel
    rw [List.length_modify]
    rcases List.mem_append.mp hlabel with hlabel | hlabel
    · exact h.label_lt label hlabel
    · rwa [List.mem_singleton.mp hlabel]
  · intro k' hk'
    rw [List.length_modify] at hk'
    rw [List.getElem?_modify, h.members k' hk', labelled_concat h.length, Option.map_eq_map,
      Option.map_some]
    by_cases hsame : k = k'
    · rw [if_pos hsame, if_pos hsame]
    · rw [if_neg hsame, if_neg hsame, List.append_nil]
  · intro cluster' hcluster'
    obtain ⟨k', hk'⟩ := List.mem_iff_getElem?.mp hcluster'
    rw [List.getElem?_modify, Option.map_eq_map, Option.map_eq_some_iff] at hk'
    obtain ⟨old, hold, rfl⟩ := hk'
    split
    · exact List.append_ne_nil_of_right_ne_nil _ (List.cons_ne_nil x [])
    · exact h.nonempty old (List.mem_of_getElem? hold)

/-- An item that is linked to nothing before it opens a cluster. -/
theorem start (h : LinkagePartition similarity threshold items clusters labels) {x : α}
    (hseparate : ∀ earlier ∈ items, similarity x earlier < threshold) :
    LinkagePartition similarity threshold (items ++ [x]) (clusters ++ [[x]])
      (labels ++ [clusters.length]) := by
  have hfresh : clusters.length ∉ labels := fun hmem => lt_irrefl _ (h.label_lt _ hmem)
  refine h.concat ?_ ?_ ?_ (Or.inr ⟨hfresh, hseparate⟩)
  · intro label hlabel
    rw [List.length_append, List.length_singleton]
    rcases List.mem_append.mp hlabel with hlabel | hlabel
    · exact Nat.lt_succ_of_lt (h.label_lt label hlabel)
    · rw [List.mem_singleton.mp hlabel]
      exact Nat.lt_succ_self _
  · intro k hk
    rw [List.length_append, List.length_singleton] at hk
    rw [labelled_concat h.length]
    rcases Nat.lt_succ_iff_lt_or_eq.mp hk with hk | rfl
    · rw [List.getElem?_append_left hk, h.members k hk, if_neg hk.ne', List.append_nil]
    · have hnone : labelled items labels clusters.length = [] := by
        rw [List.eq_nil_iff_forall_not_mem]
        intro y hy
        obtain ⟨i, -, hi⟩ := mem_labelled_iff.mp hy
        exact hfresh (List.mem_of_getElem? hi)
      rw [List.getElem?_concat_length, if_pos rfl, hnone, List.nil_append]
  · intro cluster hcluster
    rcases List.mem_append.mp hcluster with hcluster | hcluster
    · exact h.nonempty cluster hcluster
    · rw [List.mem_singleton.mp hcluster]
      exact List.cons_ne_nil x []

end LinkagePartition

end RaceFrame.Core
