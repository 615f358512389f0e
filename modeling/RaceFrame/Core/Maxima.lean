import Mathlib.Data.List.ReduceOption
import Mathlib.Order.MinMax
import RaceFrame.Core.Upserts

/-!
# Maxima of sequences

A value that is only ever raised ends as the maximum of everything that came for
it, and a maximum depends on the members of a sequence alone: neither on their
order nor on repetitions. A missing value counts as less than every other one.
-/

namespace RaceFrame.Core

variable {α : Type} [LinearOrder α]

/-- A stored value that is raised by a sequence ends as the maximum of all of them. -/
theorem foldl_mergeInto_max (values : List α) (stored : Option α) :
    values.foldl (mergeInto max) stored = (stored.toList ++ values).max? := by
  induction values generalizing stored with
  | nil => cases stored <;> rfl
  | cons value values ih =>
    rw [List.foldl_cons, ih]
    cases stored <;> rfl

/-- The maximum depends on the members only. -/
theorem max?_congr {values values' : List α} (h : ∀ value, value ∈ values ↔ value ∈ values') :
    values.max? = values'.max? := by
  apply Option.ext
  intro greatest
  rw [List.max?_eq_some_iff, List.max?_eq_some_iff, h]
  exact and_congr_right fun _ => forall_congr' fun value => by rw [h]

/-- The larger of two values of which each may be missing. -/
def larger? : Option α → Option α → Option α
  | none, value => value
  | some value, none => some value
  | some value, some value' => some (max value value')

/-- A sequence of values that may be missing ends as the maximum of those that are there. -/
theorem foldl_larger? (first : Option α) (rest : List (Option α)) :
    rest.foldl larger? first = (first :: rest).reduceOption.max? := by
  induction rest generalizing first with
  | nil => cases first <;> rfl
  | cons second rest ih =>
    rw [List.foldl_cons, ih]
    cases first <;> cases second <;> rfl

end RaceFrame.Core
