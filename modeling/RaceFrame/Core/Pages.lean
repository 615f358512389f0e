import Mathlib.Data.List.Basic

/-!
# Pages

`page size items k` is the page of number `k`, counted from zero, of a list cut
into pages of one size.
-/

namespace RaceFrame.Core

variable {α : Type}

/-- The page of number `k`. -/
def page (size : Nat) (items : List α) (k : Nat) : List α := (items.drop (k * size)).take size

/-- The first pages, one after the other. -/
theorem flatMap_page (size : Nat) (items : List α) (n : Nat) :
    (List.range n).flatMap (page size items) = items.take (n * size) := by
  induction n with
  | zero => rw [Nat.zero_mul, List.range_zero, List.take_zero, List.flatMap_nil]
  | succ n ih =>
    rw [List.range_succ, List.flatMap_append, ih, List.flatMap_singleton, page, Nat.succ_mul,
      List.take_add]

/-- The pages that hold a list are the list. -/
theorem flatMap_page_of_le {size : Nat} {items : List α} {n : Nat}
    (h : items.length ≤ n * size) : (List.range n).flatMap (page size items) = items := by
  rw [flatMap_page, List.take_of_length_le h]

theorem page_ne_nil_iff {size : Nat} (hsize : 0 < size) {items : List α} {k : Nat} :
    page size items k ≠ [] ↔ k * size < items.length := by
  rw [page, ← List.length_pos_iff, List.length_take, List.length_drop]
  omega

/-- Where a place of a page is in the list. -/
theorem getElem?_page {size : Nat} {items : List α} {k j : Nat} (h : j < size) :
    (page size items k)[j]? = items[k * size + j]? := by
  rw [page, List.getElem?_take_of_lt h, List.getElem?_drop]

/-- A page is not longer than its size. -/
theorem length_page_le (size : Nat) (items : List α) (k : Nat) :
    (page size items k).length ≤ size := by
  rw [page, List.length_take]
  exact Nat.min_le_left _ _

end RaceFrame.Core
