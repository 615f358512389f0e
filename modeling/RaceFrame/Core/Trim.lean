import Mathlib.Data.List.Basic
import Mathlib.Data.List.TakeWhile

/-!
# Trimming and collapsing

`trim p` drops the elements of a class from both ends, as `str.strip` does, and
`collapse p r` puts one `r` in the place of each maximal block of the class, as
`re.sub("[…]+", r, …)` does. What is left of a list after both is known by its
ends and by its elements.
-/

namespace RaceFrame.Core

variable {α : Type}

/-- Drop the elements satisfying `p` from both ends. -/
def trim (p : α → Bool) (xs : List α) : List α := ((xs.dropWhile p).reverse.dropWhile p).reverse

/-- Only elements are dropped. -/
theorem mem_of_mem_trim {p : α → Bool} {xs : List α} {x : α} (h : x ∈ trim p xs) : x ∈ xs := by
  rw [trim, List.mem_reverse] at h
  exact (List.dropWhile_suffix p).subset
    (List.mem_reverse.mp ((List.dropWhile_suffix p).subset h))

/-- The last element of what is left is not in the class. -/
theorem getLast?_trim {p : α → Bool} {xs : List α} {x : α} (h : (trim p xs).getLast? = some x) :
    p x = false := by
  have hhead := List.head?_dropWhile_not p (xs.dropWhile p).reverse
  rw [trim, List.getLast?_reverse] at h
  rw [h] at hhead
  simpa using hhead

/-- The first element of what is left is not in the class. -/
theorem head?_trim {p : α → Bool} {xs : List α} {x : α} (h : (trim p xs).head? = some x) :
    p x = false := by
  have hhead := List.head?_dropWhile_not p xs
  obtain ⟨dropped, hdropped⟩ := List.dropWhile_suffix (l := (xs.dropWhile p).reverse) p
  have hsplit : trim p xs ++ dropped.reverse = xs.dropWhile p := by
    rw [trim, ← List.reverse_append, hdropped, List.reverse_reverse]
  cases hleft : trim p xs with
  | nil =>
    rw [hleft] at h
    cases h
  | cons a left =>
    rw [hleft] at h
    rw [← hsplit, hleft, List.cons_append, List.head?_cons] at hhead
    rw [← Option.some.inj h]
    simpa using hhead

/-- Nothing is dropped from a list that has no element of the class at its ends. -/
theorem trim_of_ends {p : α → Bool} {xs : List α} (hhead : ∀ x, xs.head? = some x → p x = false)
    (hlast : ∀ x, xs.getLast? = some x → p x = false) : trim p xs = xs := by
  have hfront : xs.dropWhile p = xs := by
    cases xs with
    | nil => rfl
    | cons a xs => exact List.dropWhile_cons_of_neg (by simp [hhead a rfl])
  have hback : xs.reverse.dropWhile p = xs.reverse := by
    cases hreverse : xs.reverse with
    | nil => rfl
    | cons a ys =>
      have ha : xs.getLast? = some a := by
        rw [← List.head?_reverse, hreverse, List.head?_cons]
      exact List.dropWhile_cons_of_neg (by simp [hlast a ha])
  rw [trim, hfront, hback, List.reverse_reverse]

/-- An element of the class in front is dropped. -/
theorem trim_cons {p : α → Bool} {x : α} (h : p x = true) (xs : List α) :
    trim p (x :: xs) = trim p xs := by
  rw [trim, List.dropWhile_cons_of_pos h, ← trim]

/-- An element of the class at the end is dropped. -/
theorem trim_concat {p : α → Bool} {x : α} (h : p x = true) (xs : List α) :
    trim p (xs ++ [x]) = trim p xs := by
  rw [trim, trim, List.dropWhile_append]
  cases hfront : xs.dropWhile p with
  | nil =>
    rw [List.isEmpty_nil, if_pos rfl, List.dropWhile_cons_of_pos h]
    rfl
  | cons a rest =>
    rw [List.isEmpty_cons, if_neg Bool.false_ne_true, List.reverse_append, List.reverse_singleton,
      List.singleton_append, List.dropWhile_cons_of_pos h]

/-- Collapse the blocks, where `inside` says that a block has been begun. -/
def collapseFrom (p : α → Bool) (r : α) : Bool → List α → List α
  | _, [] => []
  | inside, x :: xs =>
    if p x then
      if inside then collapseFrom p r true xs else r :: collapseFrom p r true xs
    else x :: collapseFrom p r false xs

/-- Put one `r` in the place of each maximal block of elements satisfying `p`. -/
def collapse (p : α → Bool) (r : α) (xs : List α) : List α := collapseFrom p r false xs

private theorem mem_collapseFrom {p : α → Bool} {r : α} {inside : Bool} {xs : List α} {x : α}
    (h : x ∈ collapseFrom p r inside xs) : x = r ∨ x ∈ xs ∧ p x = false := by
  induction xs generalizing inside with
  | nil => cases h
  | cons a xs ih =>
    rw [collapseFrom] at h
    split at h
    · split at h
      · exact (ih h).imp_right fun ⟨hx, hp⟩ => ⟨List.mem_cons_of_mem a hx, hp⟩
      · rcases List.mem_cons.mp h with rfl | h
        · exact Or.inl rfl
        · exact (ih h).imp_right fun ⟨hx, hp⟩ => ⟨List.mem_cons_of_mem a hx, hp⟩
    · rename_i hp
      rcases List.mem_cons.mp h with rfl | h
      · exact Or.inr ⟨List.mem_cons_self, Bool.eq_false_iff.mpr hp⟩
      · exact (ih h).imp_right fun ⟨hx, hp⟩ => ⟨List.mem_cons_of_mem a hx, hp⟩

/-- What is left are replacements and elements outside the class. -/
theorem mem_collapse {p : α → Bool} {r : α} {xs : List α} {x : α} (h : x ∈ collapse p r xs) :
    x = r ∨ x ∈ xs ∧ p x = false :=
  mem_collapseFrom h

end RaceFrame.Core
