import Mathlib.Data.List.Basic
import Mathlib.Data.List.TakeWhile

/-!
# Maximal runs

`maximalRuns p xs` lists the maximal non-empty blocks of consecutive elements of
`xs` that satisfy `p`, from left to right: what `re.findall("[…]+", …)` returns
for a character class, and what `str.split` returns for the class of
non-separators.
-/

namespace RaceFrame.Core

variable {α : Type}

/-- The maximal non-empty blocks of elements satisfying `p`, from left to right. -/
def maximalRuns (p : α → Bool) (xs : List α) : List (List α) :=
  (xs.splitOnP fun x => !p x).filter fun r => !r.isEmpty

private theorem all_of_mem_splitOnP {p : α → Bool} {xs r : List α}
    (h : r ∈ xs.splitOnP fun x => !p x) : ∀ x ∈ r, p x = true := by
  induction xs generalizing r with
  | nil =>
    rw [List.splitOnP_nil, List.mem_singleton] at h
    simp [h]
  | cons a xs ih =>
    rw [List.splitOnP_cons_eq_if_modifyHead] at h
    cases ha : p a with
    | false =>
      simp only [ha, Bool.not_false, ite_true, List.mem_cons] at h
      rcases h with rfl | h
      · simp
      · exact ih h
    | true =>
      simp only [ha, Bool.not_true, Bool.false_eq_true, ite_false] at h
      cases hs : xs.splitOnP fun x => !p x with
      | nil => simp [hs] at h
      | cons s ss =>
        rw [hs, List.modifyHead_cons, List.mem_cons] at h
        rcases h with rfl | h
        · intro x hx
          rcases List.mem_cons.mp hx with rfl | hx
          · exact ha
          · exact ih (hs ▸ List.mem_cons_self) x hx
        · exact ih (hs ▸ List.mem_cons_of_mem s h)

/-- Every element of a run satisfies the predicate. -/
theorem all_of_mem_maximalRuns {p : α → Bool} {xs r : List α} (h : r ∈ maximalRuns p xs) :
    ∀ x ∈ r, p x = true :=
  all_of_mem_splitOnP (List.mem_of_mem_filter h)

/-- A run has at least one element. -/
theorem ne_nil_of_mem_maximalRuns {p : α → Bool} {xs r : List α} (h : r ∈ maximalRuns p xs) :
    r ≠ [] := by
  have hr := (List.mem_filter.mp h).2
  simpa using hr

/-- A block of consecutive elements satisfying `p` that cannot be extended to either side. -/
structure IsMaximalRun (p : α → Bool) (run xs : List α) : Prop where
  ne_nil : run ≠ []
  all : ∀ x ∈ run, p x = true
  occurs : ∃ before after, xs = before ++ (run ++ after) ∧
    (∀ x ∈ before.getLast?, p x = false) ∧ ∀ x ∈ after.head?, p x = false

/-- A separator splits the runs. -/
theorem maximalRuns_append_cons {p : α → Bool} (xs ys : List α) {separator : α}
    (h : p separator = false) :
    maximalRuns p (xs ++ separator :: ys) = maximalRuns p xs ++ maximalRuns p ys := by
  have hsplit : (!p separator) = true := by rw [h, Bool.not_false]
  rw [maximalRuns, List.splitOnP_append_cons xs ys hsplit, List.filter_append]
  rfl

/-- A block without separators is its own run, unless it is empty. -/
theorem maximalRuns_of_all {p : α → Bool} {xs : List α} (h : ∀ x ∈ xs, p x = true) :
    maximalRuns p xs = if xs.isEmpty then [] else [xs] := by
  have hsingle : (xs.splitOnP fun x => !p x) = [xs] := by
    refine List.splitOnP_eq_singleton fun x hx => ?_
    rw [h x hx, Bool.not_true]
  rw [maximalRuns, hsingle, List.filter_singleton]
  cases xs <;> rfl

private theorem isMaximalRun_of_mem {p : α → Bool} {xs run : List α}
    (h : run ∈ maximalRuns p xs) : IsMaximalRun p run xs := by
  induction hn : xs.length using Nat.strongRecOn generalizing xs with
  | ind n ih =>
    subst hn
    refine ⟨ne_nil_of_mem_maximalRuns h, all_of_mem_maximalRuns h, ?_⟩
    have hsplit := List.takeWhile_append_dropWhile (p := p) (l := xs)
    have hblock : ∀ x ∈ xs.takeWhile p, p x = true := fun x hx => List.mem_takeWhile_imp hx
    cases hrest : xs.dropWhile p with
    | nil =>
      rw [hrest, List.append_nil] at hsplit
      rw [hsplit] at hblock
      rw [maximalRuns_of_all hblock] at h
      split at h
      · cases h
      · refine ⟨[], [], ?_, ?_, ?_⟩
        · rw [List.mem_singleton.mp h]
          simp
        · simp
        · simp
    | cons separator ys =>
      have hseparator : p separator = false := by
        have hhead := List.head?_dropWhile_not p xs
        rw [hrest] at hhead
        simpa using hhead
      rw [hrest] at hsplit
      rw [← hsplit, maximalRuns_append_cons _ _ hseparator, List.mem_append] at h
      rcases h with h | h
      · rw [maximalRuns_of_all hblock] at h
        split at h
        · cases h
        · refine ⟨[], separator :: ys, ?_, ?_, ?_⟩
          · rw [List.mem_singleton.mp h, List.nil_append, hsplit]
          · simp
          · simpa using hseparator
      · have hshorter : ys.length < xs.length := by
          rw [← hsplit, List.length_append, List.length_cons]
          omega
        obtain ⟨before, after, hys, hbefore, hafter⟩ := (ih ys.length hshorter h rfl).occurs
        refine ⟨xs.takeWhile p ++ separator :: before, after, ?_, ?_, hafter⟩
        · rw [List.append_assoc, List.cons_append, ← hys, hsplit]
        · intro x hx
          rw [List.getLast?_append_cons] at hx
          cases before with
          | nil =>
            rw [← Option.some.inj hx]
            exact hseparator
          | cons first before => exact hbefore x hx

/-- The runs are the blocks that cannot be extended. -/
theorem mem_maximalRuns_iff {p : α → Bool} {xs run : List α} :
    run ∈ maximalRuns p xs ↔ IsMaximalRun p run xs := by
  refine ⟨isMaximalRun_of_mem, fun ⟨hne, hall, before, after, hxs, hbefore, hafter⟩ => ?_⟩
  have hself : run ∈ maximalRuns p run := by
    rw [maximalRuns_of_all hall, if_neg (by simpa using hne)]
    exact List.mem_singleton_self run
  have htail : run ∈ maximalRuns p (run ++ after) := by
    cases after with
    | nil => rwa [List.append_nil]
    | cons separator after =>
      rw [maximalRuns_append_cons run after (hafter separator rfl)]
      exact List.mem_append_left _ hself
  rw [hxs]
  rcases List.eq_nil_or_concat before with rfl | ⟨before, separator, rfl⟩
  · exact htail
  · have hseparator : p separator = false := hbefore separator (by simp)
    rw [List.concat_eq_append, List.append_assoc, List.singleton_append,
      maximalRuns_append_cons _ _ hseparator]
    exact List.mem_append_right _ htail

/-- A maximal run of a class is one of each smaller class that still has all its elements. -/
theorem IsMaximalRun.imp {p q : α → Bool} {run xs : List α} (h : IsMaximalRun p run xs)
    (hall : ∀ x ∈ run, q x = true) (hq : ∀ x, q x = true → p x = true) :
    IsMaximalRun q run xs := by
  obtain ⟨before, after, hxs, hbefore, hafter⟩ := h.occurs
  have hfalse : ∀ x, p x = false → q x = false := by
    intro x hx
    cases hqx : q x with
    | false => rfl
    | true => rw [hq x hqx] at hx; cases hx
  exact ⟨h.ne_nil, hall, before, after, hxs, fun x hx => hfalse x (hbefore x hx),
    fun x hx => hfalse x (hafter x hx)⟩

end RaceFrame.Core
