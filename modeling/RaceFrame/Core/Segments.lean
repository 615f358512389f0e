import Mathlib.Data.List.Infix

/-!
# Segments between separators

A path is a first segment and, for each further segment, a separator with the
segment behind it. When no segment contains the separator, a marker that has a
separator on either side of it occurs in the path exactly when it is one of the
segments that are neither the first nor the last.
-/

namespace RaceFrame.Core

variable {α : Type} {sep : α} {marker segment tail : List α}

/-- A marker with a separator on either side. -/
def delimited (sep : α) (marker : List α) : List α := sep :: (marker ++ [sep])

/-- The segments after the first, each behind a separator. -/
def behind (sep : α) (segments : List (List α)) : List α := segments.flatMap (sep :: ·)

@[simp] theorem behind_nil : behind sep [] = [] := rfl

@[simp] theorem behind_cons (segments : List (List α)) :
    behind sep (segment :: segments) = sep :: (segment ++ behind sep segments) := rfl

/-- A segment that does not contain the separator holds no part of a marker. -/
theorem delimited_infix_append (h : sep ∉ segment) :
    delimited sep marker <:+: segment ++ tail ↔ delimited sep marker <:+: tail := by
  induction segment with
  | nil => exact Iff.rfl
  | cons a segment ih =>
    rw [List.mem_cons, not_or] at h
    rw [List.cons_append, List.infix_cons_iff, ih h.2, or_iff_right]
    exact fun hprefix => h.1 (List.cons_prefix_cons.mp hprefix).1

/-- Two texts without the separator that a separator follows are the same when one begins the
other. -/
theorem append_singleton_prefix_append (hmarker : sep ∉ marker) (hsegment : sep ∉ segment) :
    marker ++ [sep] <+: segment ++ sep :: tail ↔ marker = segment := by
  induction marker generalizing segment with
  | nil =>
    cases segment with
    | nil => exact iff_of_true (List.cons_prefix_cons.mpr ⟨rfl, List.nil_prefix⟩) rfl
    | cons b segment =>
      refine iff_of_false (fun h => hsegment ?_) (List.cons_ne_nil b segment).symm
      exact List.mem_cons.mpr (Or.inl (List.cons_prefix_cons.mp h).1)
  | cons a marker ih =>
    rw [List.mem_cons, not_or] at hmarker
    cases segment with
    | nil =>
      refine iff_of_false (fun h => hmarker.1 ?_) (List.cons_ne_nil a marker)
      exact (List.cons_prefix_cons.mp h).1.symm
    | cons b segment =>
      rw [List.mem_cons, not_or] at hsegment
      rw [List.cons_append, List.cons_append, List.cons_prefix_cons, ih hmarker.2 hsegment.2,
        List.cons.injEq]

/-- The marker at the first separator is the segment behind it. -/
theorem delimited_infix_cons (hmarker : sep ∉ marker) (hsegment : sep ∉ segment) :
    delimited sep marker <:+: sep :: (segment ++ sep :: tail) ↔
      marker = segment ∨ delimited sep marker <:+: sep :: tail := by
  rw [List.infix_cons_iff, delimited_infix_append hsegment, delimited, List.cons_prefix_cons,
    append_singleton_prefix_append hmarker hsegment, and_iff_right rfl]

/-- Behind the last separator there is no room for a marker. -/
theorem not_delimited_infix_last (hsegment : sep ∉ segment) :
    ¬delimited sep marker <:+: sep :: segment := by
  rw [List.infix_cons_iff, ← List.append_nil segment, delimited_infix_append hsegment]
  rintro (h | h)
  · have hlast := (List.cons_prefix_cons.mp h).2.subset (List.mem_append_right marker
      (List.mem_singleton.mpr rfl))
    rw [List.append_nil] at hlast
    exact hsegment hlast
  · exact List.cons_ne_nil _ _ (List.infix_nil.mp h)

/-- A marker occurs in a path exactly when it is an inner segment. -/
theorem delimited_infix_path {first last : List α} {inner : List (List α)} (hmarker : sep ∉ marker)
    (hfirst : sep ∉ first) (hinner : ∀ segment ∈ inner, sep ∉ segment) (hlast : sep ∉ last) :
    delimited sep marker <:+: first ++ behind sep (inner ++ [last]) ↔ marker ∈ inner := by
  rw [delimited_infix_append hfirst]
  clear hfirst
  induction inner with
  | nil =>
    refine iff_of_false ?_ List.not_mem_nil
    rw [List.nil_append, behind_cons, behind_nil, List.append_nil]
    exact not_delimited_infix_last hlast
  | cons segment inner ih =>
    have ih := ih fun segment' hmem => hinner segment' (List.mem_cons_of_mem segment hmem)
    obtain ⟨tail, htail⟩ : ∃ tail, behind sep (inner ++ [last]) = sep :: tail := by
      cases inner with
      | nil => exact ⟨last ++ [], rfl⟩
      | cons next inner => exact ⟨_, rfl⟩
    rw [List.cons_append, behind_cons, htail, delimited_infix_cons hmarker
      (hinner segment List.mem_cons_self), ← htail, ih, List.mem_cons]

end RaceFrame.Core
