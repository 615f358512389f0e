import Mathlib.Data.List.Sort

/-!
# Keeping the strongest

A bounded selection from a stream: some entries are kept, the others dropped, and
no dropped entry is stronger than a kept one. Whatever order the stream comes in
and however ties are broken, the strengths that are kept are the largest ones.
-/

namespace RaceFrame.Core

variable {α β : Type} [LinearOrder β] {strength : α → β} {size : Nat}

/-- The largest values of a list, in descending order. -/
def largest (size : Nat) (values : List β) : List β :=
  (values.insertionSort (· ≥ ·)).take size

/-- The value in place `size` of the descending order. -/
def ranked (size : Nat) (values : List β) : Option β :=
  (values.insertionSort (· ≥ ·))[size - 1]?

theorem length_largest (size : Nat) (values : List β) :
    (largest size values).length = min size values.length := by
  rw [largest, List.length_take, List.length_insertionSort]

private theorem sorted_eq_of_perm {values values' : List β} (h : values.Perm values') :
    values.insertionSort (· ≥ ·) = values'.insertionSort (· ≥ ·) := by
  apply List.Perm.eq_of_pairwise' (r := (· ≥ ·)) (List.pairwise_insertionSort _ _)
    (List.pairwise_insertionSort _ _)
  exact (List.perm_insertionSort _ _).trans (h.trans (List.perm_insertionSort _ _).symm)

/-- The largest values do not depend on the order of the list. -/
theorem largest_eq_of_perm {values values' : List β} (h : values.Perm values') (size : Nat) :
    largest size values = largest size values' := by
  rw [largest, largest, sorted_eq_of_perm h]

theorem ranked_eq_of_perm {values values' : List β} (h : values.Perm values') (size : Nat) :
    ranked size values = ranked size values' := by
  rw [ranked, ranked, sorted_eq_of_perm h]

/-- `kept` is a strongest part of `seen`, of at most `size` entries. -/
structure Strongest (strength : α → β) (size : Nat) (seen kept : List α) : Prop where
  split : ∃ dropped, seen.Perm (kept ++ dropped) ∧
    ∀ weak ∈ dropped, ∀ strong ∈ kept, strength weak ≤ strength strong
  length : kept.length = min size seen.length

namespace Strongest

variable {seen kept kept' : List α} {entry least : α}

theorem nil : Strongest strength size [] [] where
  split := ⟨[], List.Perm.refl _, fun weak hweak => absurd hweak List.not_mem_nil⟩
  length := by rw [List.length_nil, Nat.min_zero]

/-- While there is room an entry is kept. -/
theorem push (h : Strongest strength size seen kept) (hroom : kept.length < size)
    (hkept : kept'.Perm (entry :: kept)) : Strongest strength size (entry :: seen) kept' := by
  obtain ⟨dropped, hsplit, -⟩ := h.split
  have hlength := h.length
  have hnone : dropped = [] := by
    rw [← List.length_eq_zero_iff]
    have htotal := hsplit.length_eq
    rw [List.length_append] at htotal
    omega
  subst hnone
  rw [List.append_nil] at hsplit
  refine ⟨⟨[], ?_, fun weak hweak => absurd hweak List.not_mem_nil⟩, ?_⟩
  · rw [List.append_nil]
    exact (hsplit.cons entry).trans hkept.symm
  · rw [hkept.length_eq, List.length_cons, List.length_cons]
    have htotal := hsplit.length_eq
    omega

/-- A stronger entry takes the place of a least one. -/
theorem replace {rest : List α} (h : Strongest strength size seen (least :: rest))
    (hleast : ∀ strong ∈ rest, strength least ≤ strength strong)
    (hfull : size ≤ (least :: rest).length) (hstronger : strength least ≤ strength entry)
    (hkept : kept'.Perm (entry :: rest)) : Strongest strength size (entry :: seen) kept' := by
  obtain ⟨dropped, hsplit, hweaker⟩ := h.split
  refine ⟨⟨least :: dropped, ?_, ?_⟩, ?_⟩
  · calc entry :: seen
      List.Perm _ (entry :: (least :: rest ++ dropped)) := hsplit.cons entry
      List.Perm _ (entry :: (rest ++ least :: dropped)) := List.perm_middle.symm.cons entry
      List.Perm _ (kept' ++ least :: dropped) := (hkept.append_right _).symm
  · have hbound : ∀ strong ∈ kept', strength least ≤ strength strong := by
      intro strong hstrong
      rcases List.mem_cons.mp (hkept.subset hstrong) with rfl | hstrong
      · exact hstronger
      · exact hleast strong hstrong
    intro weak hweak strong hstrong
    rcases List.mem_cons.mp hweak with rfl | hweak
    · exact hbound strong hstrong
    · exact (hweaker weak hweak least List.mem_cons_self).trans (hbound strong hstrong)
  · have hlength := h.length
    rw [hkept.length_eq, List.length_cons]
    rw [List.length_cons] at hlength hfull ⊢
    omega

/-- An entry that is not stronger than any kept one is dropped when there is no room. -/
theorem skip (h : Strongest strength size seen kept) (hfull : size ≤ kept.length)
    (hweak : ∀ strong ∈ kept, strength entry ≤ strength strong) :
    Strongest strength size (entry :: seen) kept := by
  obtain ⟨dropped, hsplit, hweaker⟩ := h.split
  refine ⟨⟨entry :: dropped, ?_, ?_⟩, ?_⟩
  · exact (hsplit.cons entry).trans List.perm_middle.symm
  · intro weak hmem strong hstrong
    rcases List.mem_cons.mp hmem with rfl | hmem
    · exact hweak strong hstrong
    · exact hweaker weak hmem strong hstrong
  · have hlength := h.length
    rw [List.length_cons]
    omega

theorem subset (h : Strongest strength size seen kept) : kept ⊆ seen := by
  obtain ⟨dropped, hsplit, -⟩ := h.split
  exact fun entry hentry => hsplit.symm.subset (List.mem_append_left _ hentry)

theorem nodup_map {γ : Type} {name : α → γ} (h : Strongest strength size seen kept)
    (hnodup : (seen.map name).Nodup) : (kept.map name).Nodup := by
  obtain ⟨dropped, hsplit, -⟩ := h.split
  have hperm := (hsplit.map name).nodup_iff.mp hnodup
  rw [List.map_append] at hperm
  exact hperm.of_append_left

private theorem sorted_split (h : Strongest strength size seen kept) :
    ∃ weaker, (seen.map strength).insertionSort (· ≥ ·) =
      (kept.map strength).insertionSort (· ≥ ·) ++ weaker := by
  obtain ⟨dropped, hsplit, hweaker⟩ := h.split
  refine ⟨(dropped.map strength).insertionSort (· ≥ ·), ?_⟩
  apply List.Perm.eq_of_pairwise' (r := (· ≥ ·)) (List.pairwise_insertionSort _ _)
  · rw [List.pairwise_append]
    refine ⟨List.pairwise_insertionSort _ _, List.pairwise_insertionSort _ _, ?_⟩
    intro value hvalue weak hweak
    rw [List.mem_insertionSort, List.mem_map] at hvalue hweak
    obtain ⟨strong, hstrong, rfl⟩ := hvalue
    obtain ⟨weak, hweak, rfl⟩ := hweak
    exact hweaker weak hweak strong hstrong
  · have hvalues := hsplit.map strength
    rw [List.map_append] at hvalues
    exact (List.perm_insertionSort _ _).trans (hvalues.trans
      ((List.perm_insertionSort _ _).append (List.perm_insertionSort _ _)).symm)

/-- The strengths that are kept are the largest ones. -/
theorem map_perm (h : Strongest strength size seen kept) :
    (kept.map strength).Perm (largest size (seen.map strength)) := by
  obtain ⟨weaker, hsplit⟩ := h.sorted_split
  have hlength := h.length
  have hsorted : ((kept.map strength).insertionSort (· ≥ ·)).length = kept.length := by
    rw [List.length_insertionSort, List.length_map]
  rw [largest]
  by_cases hroom : seen.length ≤ size
  · have htake : ((seen.map strength).insertionSort (· ≥ ·)).take size =
        (seen.map strength).insertionSort (· ≥ ·) := by
      apply List.take_of_length_le
      rw [List.length_insertionSort, List.length_map]
      exact hroom
    have hnone : weaker = [] := by
      rw [← List.length_eq_zero_iff]
      have htotal := congrArg List.length hsplit
      rw [List.length_append, hsorted, List.length_insertionSort, List.length_map] at htotal
      omega
    rw [htake, hsplit, hnone, List.append_nil]
    exact (List.perm_insertionSort _ _).symm
  · rw [hsplit, List.take_left' (by omega)]
    exact (List.perm_insertionSort _ _).symm

/-- What is stronger than the value in place `size` is kept. -/
theorem mem_of_lt (h : Strongest strength size seen kept) (hsize : 1 ≤ size) (hentry : entry ∈ seen)
    (hlt : ∀ value ∈ ranked size (seen.map strength), value < strength entry) : entry ∈ kept := by
  obtain ⟨dropped, hsplit, hweaker⟩ := h.split
  have hlength := h.length
  rcases List.mem_append.mp (hsplit.subset hentry) with hkept | hdropped
  · exact hkept
  · have htotal := hsplit.length_eq
    have hpos := List.length_pos_of_mem hdropped
    rw [List.length_append] at htotal
    have hin : size - 1 < (largest size (seen.map strength)).length := by
      rw [length_largest, List.length_map]
      omega
    have hmem : (largest size (seen.map strength))[size - 1] ∈ kept.map strength :=
      h.map_perm.symm.subset (List.getElem_mem hin)
    obtain ⟨strong, hstrong, hvalue⟩ := List.mem_map.mp hmem
    have hranked : ranked size (seen.map strength) = some (strength strong) := by
      rw [hvalue, ranked, ← List.getElem?_eq_getElem hin, largest,
        List.getElem?_take_of_lt (by omega)]
    have hbelow := hlt _ hranked
    exact absurd (hweaker entry hdropped strong hstrong) (not_le_of_gt hbelow)

/-- Fewer than `size` entries are stronger than one that is kept. -/
theorem countP_lt_of_mem (h : Strongest strength size seen kept) (hentry : entry ∈ kept) :
    seen.countP (fun other => strength entry < strength other) < size := by
  obtain ⟨dropped, hsplit, hweaker⟩ := h.split
  have hdropped : dropped.countP (fun other => strength entry < strength other) = 0 := by
    rw [List.countP_eq_zero]
    intro weak hweak hlt
    exact absurd (hweaker weak hweak entry hentry) (not_le_of_gt (of_decide_eq_true hlt))
  have hkept : kept.countP (fun other => strength entry < strength other) < kept.length := by
    refine lt_of_le_of_ne List.countP_le_length fun hall => ?_
    exact lt_irrefl _ (of_decide_eq_true (List.countP_eq_length.mp hall entry hentry))
  have hlength := h.length
  rw [hsplit.countP_eq, List.countP_append, hdropped]
  omega

/-- An entry that fewer than `size` are stronger than is kept, unless it ties for the last place. -/
theorem mem_of_countP_lt (h : Strongest strength size seen kept) (hentry : entry ∈ seen)
    (hcount : seen.countP (fun other => strength entry < strength other) < size)
    (htie : size ≤ seen.countP (fun other => strength entry ≤ strength other) →
      ∀ other ∈ seen, strength other = strength entry → other = entry) : entry ∈ kept := by
  obtain ⟨dropped, hsplit, hweaker⟩ := h.split
  by_contra hout
  have hdropped : entry ∈ dropped :=
    (List.mem_append.mp (hsplit.subset hentry)).resolve_left hout
  have hfull : kept.length = size := by
    have htotal := hsplit.length_eq
    have hlength := h.length
    have hpos := List.length_pos_of_mem hdropped
    rw [List.length_append] at htotal
    omega
  have hatLeast : kept.countP (fun other => strength entry ≤ strength other) = kept.length :=
    List.countP_eq_length.mpr fun strong hstrong =>
      decide_eq_true (hweaker entry hdropped strong hstrong)
  have hcut : size ≤ seen.countP (fun other => strength entry ≤ strength other) := by
    rw [hsplit.countP_eq, List.countP_append]
    omega
  have hsome : ∃ strong ∈ kept, ¬ strength entry < strength strong := by
    by_contra hnone
    have hall : kept.countP (fun other => strength entry < strength other) = kept.length := by
      refine List.countP_eq_length.mpr fun strong hstrong => decide_eq_true ?_
      by_contra hnot
      exact hnone ⟨strong, hstrong, hnot⟩
    rw [hsplit.countP_eq, List.countP_append] at hcount
    omega
  obtain ⟨strong, hstrong, hnot⟩ := hsome
  have hsame : strength strong = strength entry :=
    le_antisymm (not_lt.mp hnot) (hweaker entry hdropped strong hstrong)
  have hmem : strong ∈ seen := hsplit.symm.subset (List.mem_append_left _ hstrong)
  exact hout (htie hcut strong hmem hsame ▸ hstrong)

end Strongest

end RaceFrame.Core
