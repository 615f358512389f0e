import Mathlib.Data.List.Infix
import Mathlib.Order.MinMax

/-!
# Common infixes

A common infix of two lists is a common suffix of a prefix of the one and a
prefix of the other. The lengths of the longest common suffixes obey a recurrence
in the last elements, so one row of them, over all prefixes of the second list,
determines the row for a first list that is longer by one element.
-/

namespace RaceFrame.Core

variable {α : Type}

/-- A sequence of maxima reaches a bound with its start or with one of its members. -/
theorem le_foldl_max_iff {β : Type} [LinearOrder β] {n start : β} {values : List β} :
    n ≤ values.foldl max start ↔ n ≤ start ∨ ∃ value ∈ values, n ≤ value := by
  induction values generalizing start with
  | nil => simp
  | cons value values ih => rw [List.foldl_cons, ih, le_max_iff, or_assoc, List.exists_mem_cons_iff]

variable [DecidableEq α]

/-! ## Common prefixes and suffixes -/

/-- The length of the longest common prefix. -/
def commonPrefixLength : List α → List α → Nat
  | a :: as, b :: bs => if a = b then commonPrefixLength as bs + 1 else 0
  | [], _ => 0
  | _ :: _, [] => 0

@[simp] theorem commonPrefixLength_nil_left (bs : List α) : commonPrefixLength [] bs = 0 := rfl

@[simp] theorem commonPrefixLength_nil_right (as : List α) : commonPrefixLength as [] = 0 := by
  cases as <;> rfl

theorem commonPrefixLength_cons (a b : α) (as bs : List α) :
    commonPrefixLength (a :: as) (b :: bs) =
      if a = b then commonPrefixLength as bs + 1 else 0 := rfl

/-- The common prefixes are those that are not longer than the longest one. -/
theorem le_commonPrefixLength_iff {n : Nat} {as bs : List α} :
    n ≤ commonPrefixLength as bs ↔ ∃ w, w.length = n ∧ w <+: as ∧ w <+: bs := by
  induction as generalizing bs n with
  | nil =>
    rw [commonPrefixLength_nil_left, Nat.le_zero]
    constructor
    · rintro rfl
      exact ⟨[], rfl, List.nil_prefix, List.nil_prefix⟩
    · rintro ⟨w, rfl, hw, -⟩
      rw [List.prefix_nil.mp hw, List.length_nil]
  | cons a as ih =>
    cases n with
    | zero =>
      exact iff_of_true (Nat.zero_le _) ⟨[], rfl, List.nil_prefix, List.nil_prefix⟩
    | succ n =>
      cases bs with
      | nil =>
        refine iff_of_false (Nat.not_succ_le_zero n) ?_
        rintro ⟨w, hlength, -, hw⟩
        rw [List.prefix_nil.mp hw] at hlength
        cases hlength
      | cons b bs =>
        rw [commonPrefixLength_cons]
        by_cases hab : a = b
        · rw [if_pos hab, Nat.succ_le_succ_iff, ih, ← hab]
          constructor
          · rintro ⟨w, rfl, has, hbs⟩
            exact ⟨a :: w, rfl, List.cons_prefix_cons.mpr ⟨rfl, has⟩,
              List.cons_prefix_cons.mpr ⟨rfl, hbs⟩⟩
          · rintro ⟨w, hlength, has, hbs⟩
            cases w with
            | nil => cases hlength
            | cons c w =>
              exact ⟨w, Nat.succ.inj hlength, (List.cons_prefix_cons.mp has).2,
                (List.cons_prefix_cons.mp hbs).2⟩
        · rw [if_neg hab]
          refine iff_of_false (Nat.not_succ_le_zero n) ?_
          rintro ⟨w, hlength, has, hbs⟩
          cases w with
          | nil => cases hlength
          | cons c w =>
            exact hab ((List.cons_prefix_cons.mp has).1.symm.trans (List.cons_prefix_cons.mp hbs).1)

/-- The length of the longest common suffix. -/
def commonSuffixLength (as bs : List α) : Nat := commonPrefixLength as.reverse bs.reverse

@[simp] theorem commonSuffixLength_nil_left (bs : List α) : commonSuffixLength [] bs = 0 := rfl

@[simp] theorem commonSuffixLength_nil_right (as : List α) : commonSuffixLength as [] = 0 :=
  commonPrefixLength_nil_right _

/-- The recurrence in the last elements. -/
theorem commonSuffixLength_concat (a b : α) (as bs : List α) :
    commonSuffixLength (as ++ [a]) (bs ++ [b]) =
      if a = b then commonSuffixLength as bs + 1 else 0 := by
  rw [commonSuffixLength, List.reverse_concat, List.reverse_concat, commonPrefixLength_cons]
  rfl

theorem le_commonSuffixLength_iff {n : Nat} {as bs : List α} :
    n ≤ commonSuffixLength as bs ↔ ∃ w, w.length = n ∧ w <:+ as ∧ w <:+ bs := by
  rw [commonSuffixLength, le_commonPrefixLength_iff]
  constructor
  · rintro ⟨w, rfl, has, hbs⟩
    exact ⟨w.reverse, List.length_reverse, List.reverse_prefix.mp (by rwa [List.reverse_reverse]),
      List.reverse_prefix.mp (by rwa [List.reverse_reverse])⟩
  · rintro ⟨w, rfl, has, hbs⟩
    exact ⟨w.reverse, List.length_reverse, List.reverse_prefix.mpr has,
      List.reverse_prefix.mpr hbs⟩

/-! ## Common infixes -/

/-- A list of a length that occurs in both lists. -/
def HasCommonInfix (n : Nat) (as bs : List α) : Prop := ∃ w, w.length = n ∧ w <:+: as ∧ w <:+: bs

omit [DecidableEq α] in
theorem HasCommonInfix.symm {n : Nat} {as bs : List α} (h : HasCommonInfix n as bs) :
    HasCommonInfix n bs as := by
  obtain ⟨w, hlength, has, hbs⟩ := h
  exact ⟨w, hlength, hbs, has⟩

omit [DecidableEq α] in
/-- A part of a common infix is a common infix. -/
theorem HasCommonInfix.of_le {m n : Nat} {as bs : List α} (h : HasCommonInfix n as bs)
    (hmn : m ≤ n) : HasCommonInfix m as bs := by
  obtain ⟨w, rfl, has, hbs⟩ := h
  have htake : w.take m <:+: w := (List.take_prefix m w).isInfix
  exact ⟨w.take m, List.length_take_of_le hmn, htake.trans has, htake.trans hbs⟩

/-- A common infix ends somewhere in both lists. -/
theorem hasCommonInfix_iff {n : Nat} {as bs : List α} :
    HasCommonInfix n as bs ↔
      ∃ front, front <+: as ∧ ∃ front', front' <+: bs ∧ n ≤ commonSuffixLength front front' := by
  constructor
  · rintro ⟨w, hlength, has, hbs⟩
    obtain ⟨front, hfront, hprefix⟩ := List.infix_iff_suffix_prefix.mp has
    obtain ⟨front', hfront', hprefix'⟩ := List.infix_iff_suffix_prefix.mp hbs
    exact ⟨front, hprefix, front', hprefix',
      le_commonSuffixLength_iff.mpr ⟨w, hlength, hfront, hfront'⟩⟩
  · rintro ⟨front, hprefix, front', hprefix', hle⟩
    obtain ⟨w, hlength, hfront, hfront'⟩ := le_commonSuffixLength_iff.mp hle
    exact ⟨w, hlength, List.infix_iff_suffix_prefix.mpr ⟨front, hfront, hprefix⟩,
      List.infix_iff_suffix_prefix.mpr ⟨front', hfront', hprefix'⟩⟩

/-! ## Rows -/

/-- The lengths of the longest common suffixes with every prefix of the second list. -/
def commonSuffixLengths (as bs : List α) : List Nat := bs.inits.map (commonSuffixLength as)

theorem mem_commonSuffixLengths {n : Nat} {as bs : List α} :
    n ∈ commonSuffixLengths as bs ↔ ∃ front, front <+: bs ∧ commonSuffixLength as front = n := by
  simp only [commonSuffixLengths, List.mem_map, List.mem_inits]

theorem commonSuffixLengths_nil (bs : List α) :
    commonSuffixLengths [] bs = List.replicate (bs.length + 1) 0 := by
  rw [List.eq_replicate_iff]
  refine ⟨by rw [commonSuffixLengths, List.length_map, List.length_inits], fun n hn => ?_⟩
  obtain ⟨front, -, rfl⟩ := mem_commonSuffixLengths.mp hn
  exact commonSuffixLength_nil_left front

/-- The row for one more element of the first list: nothing in the first place, and elsewhere one
more than the entry diagonally before it, if the elements agree. -/
theorem commonSuffixLengths_concat (a : α) (as bs : List α) :
    commonSuffixLengths (as ++ [a]) bs =
      0 :: List.zipWith (fun b diagonal => if a = b then diagonal + 1 else 0) bs
        (commonSuffixLengths as bs) := by
  refine List.ext_getElem (by simp [commonSuffixLengths]) fun i hi hi' => ?_
  cases i with
  | zero => simp [commonSuffixLengths]
  | succ i =>
    have hlength : i < bs.length := by
      simpa [commonSuffixLengths] using hi
    have hfront : bs.take (i + 1) = bs.take i ++ [bs[i]] := (List.take_append_getElem hlength).symm
    rw [List.getElem_cons_succ, List.getElem_zipWith]
    simp only [commonSuffixLengths, List.getElem_map, List.getElem_inits]
    rw [hfront, commonSuffixLength_concat]

end RaceFrame.Core
