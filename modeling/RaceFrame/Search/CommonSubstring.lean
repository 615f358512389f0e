import Mathlib.Order.Bounds.Defs
import RaceFrame.Core.CommonInfixes
import RaceFrame.Search.BibEvidence

/-!
# Common substrings of bibs

`longest_common_substring_length` keeps one row of a table and the greatest entry
so far. The row holds the longest common suffixes of what has been read on the
left and every prefix of the right string, so the greatest entry is the length of
the longest common substring. On it rests the partial match of a bib.
-/

namespace RaceFrame

open Core

/-- What the outer loop holds when it has read `left`: the common substrings so far are not longer
than the best length, and the row is the one of `left`. -/
structure SubstringScan (left right : Text) (state : Nat × List Nat) : Prop where
  best : ∀ n, n ≤ state.1 ↔ HasCommonInfix n left right
  row : state.2 = commonSuffixLengths left right

theorem substringScan_nil (right : Text) :
    SubstringScan [] right (0, List.replicate (right.length + 1) 0) where
  best n := by
    rw [Nat.le_zero]
    constructor
    · rintro rfl
      exact ⟨[], rfl, List.infix_rfl, (List.nil_prefix).isInfix⟩
    · rintro ⟨w, rfl, hw, -⟩
      rw [List.infix_nil.mp hw, List.length_nil]
  row := (commonSuffixLengths_nil right).symm

/-- One turn of the outer loop: a new common substring ends at the new character. -/
theorem SubstringScan.concat {left right : Text} {state : Nat × List Nat}
    (h : SubstringScan left right state) (leftChar : Char) :
    SubstringScan (left ++ [leftChar]) right
      ((longestCommonSubstringRow leftChar right state.2).foldl max state.1,
        longestCommonSubstringRow leftChar right state.2) := by
  have hrow : longestCommonSubstringRow leftChar right state.2 =
      commonSuffixLengths (left ++ [leftChar]) right := by
    rw [h.row, commonSuffixLengths_concat]
    rfl
  refine ⟨fun n => ?_, hrow⟩
  rw [hrow, le_foldl_max_iff, h.best, hasCommonInfix_iff, hasCommonInfix_iff]
  constructor
  · rintro (⟨front, hfront, hends⟩ | ⟨length, hlength, hle⟩)
    · exact ⟨front, List.prefix_concat_iff.mpr (Or.inr hfront), hends⟩
    · obtain ⟨front', hfront', rfl⟩ := mem_commonSuffixLengths.mp hlength
      exact ⟨left ++ [leftChar], List.prefix_rfl, front', hfront', hle⟩
  · rintro ⟨front, hfront, front', hfront', hle⟩
    rcases List.prefix_concat_iff.mp hfront with rfl | hfront
    · exact Or.inr ⟨_, mem_commonSuffixLengths.mpr ⟨front', hfront', rfl⟩, hle⟩
    · exact Or.inl ⟨front, hfront, front', hfront', hle⟩

/-- The whole loop. -/
theorem substringScan_foldl (left right : Text) :
    SubstringScan left right
      (left.foldl (fun (state : Nat × List Nat) leftChar =>
        let current := longestCommonSubstringRow leftChar right state.2
        (current.foldl max state.1, current)) (0, List.replicate (right.length + 1) 0)) := by
  induction left using List.reverseRecOn with
  | nil => exact substringScan_nil right
  | append_singleton left leftChar ih =>
    rw [List.foldl_append]
    exact ih.concat leftChar

/-- The common substrings are those that are not longer than the computed length. -/
theorem le_longestCommonSubstringLength_iff {n : Nat} {left right : Text} :
    n ≤ longestCommonSubstringLength left right ↔ HasCommonInfix n left right :=
  (substringScan_foldl left right).best n

theorem isGreatest_longestCommonSubstringLength (left right : Text) :
    IsGreatest {n | HasCommonInfix n left right} (longestCommonSubstringLength left right) :=
  ⟨le_longestCommonSubstringLength_iff.mp le_rfl,
    fun _ hn => le_longestCommonSubstringLength_iff.mpr hn⟩

theorem longestCommonSubstringLength_comm (left right : Text) :
    longestCommonSubstringLength left right = longestCommonSubstringLength right left := by
  refine eq_of_forall_le_iff fun n => ?_
  rw [le_longestCommonSubstringLength_iff, le_longestCommonSubstringLength_iff]
  exact ⟨HasCommonInfix.symm, HasCommonInfix.symm⟩

/-! ## Partial matches -/

theorem isIn_iff {candidate target : Text} :
    Text.isIn candidate target = true ↔ candidate <:+: target := by
  rw [Text.isIn, List.any_eq_true, List.infix_iff_prefix_suffix]
  refine exists_congr fun rest => ?_
  rw [List.mem_tails, List.isPrefixOf_iff_prefix, and_comm]

/-- A partial match is a part of the bib that misses one character at most, or has a common
substring with it that misses one at most and has three. -/
theorem isPartialBibMatch_iff {candidate target : Text} :
    isPartialBibMatch candidate target = true ↔
      3 ≤ target.length ∧ 2 ≤ candidate.length ∧ candidate.length ≤ target.length ∧
        ((candidate <:+: target ∧ target.length - 1 ≤ candidate.length) ∨
          HasCommonInfix (max 3 (target.length - 1)) candidate target) := by
  unfold isPartialBibMatch
  by_cases hshort : target.length < 3 ∨ candidate.length < 2
  · rw [if_pos (by simpa using hshort)]
    exact iff_of_false Bool.false_ne_true fun h => by omega
  · rw [if_neg (by simpa using hshort)]
    by_cases hlong : target.length < candidate.length
    · rw [if_pos hlong]
      exact iff_of_false Bool.false_ne_true fun h => by omega
    · have hlengths : 3 ≤ target.length ∧ 2 ≤ candidate.length ∧
          candidate.length ≤ target.length := by omega
      have hbound : max 2 (target.length - 1) = target.length - 1 := by omega
      rw [if_neg hlong, hbound, ← le_longestCommonSubstringLength_iff]
      split
      · rename_i hpart
        rw [Bool.and_eq_true, decide_eq_true_eq, isIn_iff] at hpart
        exact iff_of_true rfl ⟨hlengths.1, hlengths.2.1, hlengths.2.2, Or.inl hpart⟩
      · rename_i hpart
        rw [Bool.and_eq_true, decide_eq_true_eq, isIn_iff] at hpart
        rw [decide_eq_true_eq, or_iff_right hpart]
        exact ⟨fun h => ⟨hlengths.1, hlengths.2.1, hlengths.2.2, h⟩, fun h => h.2.2.2⟩

/-- The computed length is that of the longest common substring, in either order of the strings, and
a partial match is what the thresholds say of the bib and its common substrings. -/
theorem partialBibScoring_correct (candidate target : Text) :
    IsGreatest {n | ∃ part : Text, part.length = n ∧ part <:+: candidate ∧ part <:+: target}
        (longestCommonSubstringLength candidate target) ∧
      longestCommonSubstringLength candidate target =
        longestCommonSubstringLength target candidate ∧
      (isPartialBibMatch candidate target = true ↔
        3 ≤ target.length ∧ 2 ≤ candidate.length ∧ candidate.length ≤ target.length ∧
          ((candidate <:+: target ∧ target.length - 1 ≤ candidate.length) ∨
            ∃ part : Text, max 3 (target.length - 1) ≤ part.length ∧ part <:+: candidate ∧
              part <:+: target)) := by
  refine ⟨isGreatest_longestCommonSubstringLength candidate target,
    longestCommonSubstringLength_comm candidate target, ?_⟩
  rw [isPartialBibMatch_iff]
  have hpart : HasCommonInfix (max 3 (target.length - 1)) candidate target ↔
      ∃ part : Text, max 3 (target.length - 1) ≤ part.length ∧ part <:+: candidate ∧
        part <:+: target := by
    constructor
    · rintro ⟨part, hlength, hcandidate, htarget⟩
      exact ⟨part, hlength.ge, hcandidate, htarget⟩
    · rintro ⟨part, hlength, hcandidate, htarget⟩
      exact HasCommonInfix.of_le ⟨part, rfl, hcandidate, htarget⟩ hlength
  rw [hpart]

/-- A text with three of the digits of `1042` is weak evidence for it. -/
example : isPartialBibMatch "104".toList "1042".toList = true := by decide

end RaceFrame
