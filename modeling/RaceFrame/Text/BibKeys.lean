import Mathlib.Data.List.TakeDrop
import RaceFrame.Text.Candidates

/-!
# Two keys of one bib

`normalize_bib_lookup` upper-cases first and keeps `[A-Z0-9]` afterwards;
`face.normalize_match_token` keeps `[A-Za-z0-9]` first and upper-cases
afterwards. The two differ on the code points outside `[A-Za-z0-9]` whose upper
case has a letter of `[A-Z]`, such as `ß` or `ı`, and only there.
-/

namespace RaceFrame

/-- A code point that the lookup key sees and the match token drops. -/
def isLossy (c : Char) : Bool := !c.isAlphanum && (upperChar c).any isToken

/-- What holds of the 128 ASCII code points holds of every character below 128. -/
theorem forall_ascii {p : Char → Prop} (h : ∀ n < 128, p (Char.ofNat n)) {c : Char}
    (hc : c.toNat < 128) : p c := by
  have hp := h c.toNat hc
  rwa [Char.ofNat_toNat] at hp

/-- An ASCII letter or digit is ASCII. -/
theorem toNat_lt_of_isAlphanum {c : Char} (h : c.isAlphanum = true) : c.toNat < 128 := by
  change ((decide ('A'.val ≤ c.val ∧ c.val ≤ 'Z'.val) ||
    (decide ('a'.val ≤ c.val) && decide (c.val ≤ 'z'.val))) ||
    (decide ('0'.val ≤ c.val) && decide (c.val ≤ '9'.val))) = true at h
  simp only [Bool.or_eq_true, Bool.and_eq_true, decide_eq_true_eq, UInt32.le_iff_toNat_le] at h
  have hupper : 'Z'.val.toNat = 90 := rfl
  have hlower : 'z'.val.toNat = 122 := rfl
  have hdigit : '9'.val.toNat = 57 := rfl
  change c.val.toNat < 128
  omega

private theorem le_of_mem_upperSpecials : ∀ entry ∈ upperSpecials, 128 ≤ entry.1 := by
  decide +kernel

private theorem upperRanges_spec :
    upperRanges.head? = some ⟨97, 122, 1, -32⟩ ∧ ∀ r ∈ upperRanges.tail, 128 ≤ r.first := by
  decide +kernel

private theorem lookup_upperSpecials {n : Nat} (h : n < 128) : upperSpecials.lookup n = none := by
  rw [List.lookup_eq_none_iff]
  intro entry hentry
  have hlarge := le_of_mem_upperSpecials entry hentry
  simp only [bne_iff_ne, ne_eq]
  omega

private theorem find?_upperRanges {n : Nat} (h : n < 128) :
    upperRanges.find? (·.covers n) =
      if 97 ≤ n ∧ n ≤ 122 then some ⟨97, 122, 1, -32⟩ else none := by
  obtain ⟨hhead, htail⟩ := upperRanges_spec
  have hnone : upperRanges.tail.find? (·.covers n) = none := by
    rw [List.find?_eq_none]
    intro r hr hcovers
    have hfirst := htail r hr
    simp only [CaseRange.covers, Bool.and_eq_true, decide_eq_true_eq] at hcovers
    omega
  have hcovers : CaseRange.covers ⟨97, 122, 1, -32⟩ n = decide (97 ≤ n ∧ n ≤ 122) := by
    simp [CaseRange.covers, Nat.mod_one]
  rw [← List.cons_head?_tail (Option.mem_def.mpr hhead), List.find?_cons, hnone, hcovers]
  by_cases hlower : 97 ≤ n ∧ n ≤ 122
  · rw [decide_eq_true hlower, if_pos hlower]
  · rw [decide_eq_false hlower, if_neg hlower]

/-- What `Char.toUpper` does below 128. -/
private structure UpperCased (c : Char) : Prop where
  toUpper : c.toUpper = if 97 ≤ c.toNat ∧ c.toNat ≤ 122 then Char.ofNat (c.toNat - 32) else c
  isDigit : c.toUpper.isDigit = c.isDigit
  isToken : isToken c.toUpper = c.isAlphanum
  eq_self : RaceFrame.isToken c = true → c.toUpper = c

private theorem upperCased {c : Char} (h : c.toNat < 128) : UpperCased c := by
  have htable : ∀ n < 128, (Char.ofNat n).toUpper =
        (if 97 ≤ (Char.ofNat n).toNat ∧ (Char.ofNat n).toNat ≤ 122 then
          Char.ofNat ((Char.ofNat n).toNat - 32) else Char.ofNat n) ∧
      (Char.ofNat n).toUpper.isDigit = (Char.ofNat n).isDigit ∧
      isToken (Char.ofNat n).toUpper = (Char.ofNat n).isAlphanum ∧
      (isToken (Char.ofNat n) = true → (Char.ofNat n).toUpper = Char.ofNat n) := by
    decide +kernel
  exact forall_ascii (fun n hn => ⟨(htable n hn).1, (htable n hn).2.1, (htable n hn).2.2.1,
    (htable n hn).2.2.2⟩) h

private theorem toUpper_ascii {c : Char} (h : c.toNat < 128) :
    c.toUpper = if 97 ≤ c.toNat ∧ c.toNat ≤ 122 then Char.ofNat (c.toNat - 32) else c :=
  (upperCased h).toUpper

/-- The ASCII code points have the upper case of the ASCII alphabet. -/
theorem upperChar_of_ascii {c : Char} (h : c.toNat < 128) : upperChar c = [c.toUpper] := by
  rw [upperChar, lookup_upperSpecials h, toUpper_ascii h]
  dsimp only
  rw [find?_upperRanges h]
  by_cases hlower : 97 ≤ c.toNat ∧ c.toNat ≤ 122
  · rw [if_pos hlower, if_pos hlower]
    dsimp only
    congr 2
    omega
  · rw [if_neg hlower, if_neg hlower]

/-- Upper-casing neither makes nor unmakes a digit. -/
theorem isDigit_toUpper {c : Char} (h : c.toNat < 128) : c.toUpper.isDigit = c.isDigit :=
  (upperCased h).isDigit

theorem isToken_toUpper {c : Char} (h : c.toNat < 128) : isToken c.toUpper = c.isAlphanum :=
  (upperCased h).isToken

/-- Upper-case letters and digits are their own upper case. -/
theorem toUpper_of_isToken {c : Char} (hascii : c.toNat < 128) (h : isToken c = true) :
    c.toUpper = c :=
  (upperCased hascii).eq_self h

/-- An ASCII letter or digit has one upper-case letter or digit. -/
theorem upperChar_of_isAlphanum {c : Char} (h : c.isAlphanum = true) :
    (upperChar c).length = 1 ∧ (upperChar c).filter isToken = upperChar c := by
  rw [upperChar_of_ascii (toNat_lt_of_isAlphanum h)]
  refine ⟨rfl, List.filter_eq_self.mpr fun d hd => ?_⟩
  rw [List.mem_singleton.mp hd, isToken_toUpper (toNat_lt_of_isAlphanum h), h]

/-- No ASCII code point is lossy. -/
theorem isLossy_of_ascii {c : Char} (h : c.toNat < 128) : isLossy c = false := by
  rw [isLossy, upperChar_of_ascii h, List.any_cons, List.any_nil, Bool.or_false,
    isToken_toUpper h, Bool.not_and_self]

theorem filter_isToken_upper (s : Text) :
    (upper s).filter isToken = s.flatMap fun c => (upperChar c).filter isToken := by
  rw [upper, List.filter_flatMap]

private theorem filter_isToken_of_not_isAlphanum {c : Char} (h : c.isAlphanum = false)
    (hlossy : isLossy c = false) : (upperChar c).filter isToken = [] := by
  rw [List.filter_eq_nil_iff]
  intro d hd htoken
  have hany : (upperChar c).any isToken = true := List.any_eq_true.mpr ⟨d, hd, htoken⟩
  simp [isLossy, h, hany] at hlossy

/-- Without lossy code points the match token is the lookup key before truncation. -/
theorem normalizeMatchToken_eq_filter {s : Text} (h : ∀ c ∈ s, isLossy c = false) :
    Face.normalizeMatchToken s = (upper s).filter isToken := by
  rw [filter_isToken_upper, Face.normalizeMatchToken, upper]
  induction s with
  | nil => rfl
  | cons c s ih =>
    have hs := ih fun d hd => h d (List.mem_cons_of_mem c hd)
    rw [List.flatMap_cons, ← hs]
    cases hc : c.isAlphanum with
    | true =>
      rw [List.filter_cons_of_pos hc, List.flatMap_cons, (upperChar_of_isAlphanum hc).2]
    | false =>
      rw [List.filter_cons_of_neg (by simp [hc]),
        filter_isToken_of_not_isAlphanum hc (h c List.mem_cons_self), List.nil_append]

/-- The match token has one code point for each letter or digit. -/
theorem length_normalizeMatchToken (s : Text) :
    (Face.normalizeMatchToken s).length = s.countP Char.isAlphanum := by
  rw [Face.normalizeMatchToken, upper]
  induction s with
  | nil => rfl
  | cons c s ih =>
    cases hc : c.isAlphanum with
    | true =>
      rw [List.filter_cons_of_pos hc, List.flatMap_cons, List.length_append, ih,
        (upperChar_of_isAlphanum hc).1, List.countP_cons_of_pos hc, Nat.add_comm]
    | false =>
      rw [List.filter_cons_of_neg (by simp [hc]), ih, List.countP_cons_of_neg (by simp [hc])]

/-- Letters, digits and lossy code points are different code points of the bib. -/
theorem countP_isAlphanum_add_isLossy_le (s : Text) :
    s.countP Char.isAlphanum + s.countP isLossy ≤ s.length := by
  induction s with
  | nil => exact Nat.le_refl 0
  | cons c s ih =>
    have hdisjoint : c.isAlphanum = true → isLossy c = false := by
      intro hc
      simp [isLossy, hc]
    rw [List.countP_cons, List.countP_cons, List.length_cons]
    cases hc : c.isAlphanum with
    | true =>
      have hlossy := hdisjoint hc
      simp only [hlossy, ite_true, Bool.false_eq_true, ite_false]
      omega
    | false =>
      simp only [Bool.false_eq_true, ite_false]
      split <;> omega

/-- Every lossy code point lengthens the lookup key beyond the match token. -/
theorem countP_add_le_length_filter (s : Text) :
    s.countP Char.isAlphanum + s.countP isLossy ≤ ((upper s).filter isToken).length := by
  rw [filter_isToken_upper]
  induction s with
  | nil => exact Nat.le_refl 0
  | cons c s ih =>
    rw [List.countP_cons, List.countP_cons, List.flatMap_cons, List.length_append]
    have hc : (if c.isAlphanum = true then 1 else 0) + (if isLossy c = true then 1 else 0) ≤
        ((upperChar c).filter isToken).length := by
      cases halnum : c.isAlphanum with
      | true =>
        obtain ⟨hlength, hfilter⟩ := upperChar_of_isAlphanum halnum
        have hlossy : isLossy c = false := by simp [isLossy, halnum]
        rw [hfilter, hlength, hlossy]
        exact Nat.le_refl 1
      | false =>
        cases hlossy : isLossy c with
        | false => exact Nat.zero_le _
        | true =>
          have hany : (upperChar c).any isToken = true := by
            simpa [isLossy, halnum] using hlossy
          obtain ⟨d, hd, htoken⟩ := List.any_eq_true.mp hany
          exact List.length_pos_of_mem (List.mem_filter.mpr ⟨hd, htoken⟩)
    omega

/-- For a bib that fits its column, the match token is the lookup key exactly when no code point
is lossy. -/
theorem normalizeMatchToken_eq_lookup_iff {s : Text} (hlength : s.length ≤ 64) :
    Face.normalizeMatchToken s = normalizeBibLookup s ↔ ∀ c ∈ s, isLossy c = false := by
  have hdisjoint := countP_isAlphanum_add_isLossy_le s
  constructor
  · intro h c hc
    by_contra hlossy
    have hcount : 0 < s.countP isLossy := List.countP_pos_iff.mpr ⟨c, hc, by simpa using hlossy⟩
    have hlonger := countP_add_le_length_filter s
    have heq := congrArg List.length h
    rw [length_normalizeMatchToken, normalizeBibLookup, List.length_take] at heq
    omega
  · intro h
    have hfilter := normalizeMatchToken_eq_filter h
    have hshort : ((upper s).filter isToken).length ≤ 64 := by
      rw [← hfilter, length_normalizeMatchToken]
      omega
    rw [normalizeBibLookup, List.take_of_length_le hshort, hfilter]

end RaceFrame
