import RaceFrame.Text.BibKeys

/-!
# The keys that a text is read as

For a bib key, membership in the candidates of either extractor is spelled out
in terms of the text. Both extractors read a key that is a whole token of the
text, or the whole text without separators. Only `face` reads the digits of a
token, and only `photographer` cuts longer tokens to the length of a key.
-/

namespace RaceFrame

open Core

/-- The shape of a `bib_lookup`. -/
structure IsBibKey (k : Text) : Prop where
  ne_nil : k ≠ []
  length : k.length ≤ 64
  token : ∀ c ∈ k, isToken c = true

/-- A lookup key has the shape of one, unless it is empty. -/
theorem isBibKey_normalizeBibLookup {s : Text} (h : normalizeBibLookup s ≠ []) :
    IsBibKey (normalizeBibLookup s) where
  ne_nil := h
  length := by
    rw [normalizeBibLookup, List.length_take]
    exact Nat.min_le_left 64 _
  token c hc := (List.mem_filter.mp (List.mem_of_mem_take hc)).2

/-- Both extractors read the key in the text. -/
def ReadByBoth (k t : Text) : Prop :=
  k ∈ maximalRuns isToken (upper t) ∨
    (k = Face.normalizeMatchToken t ∧ ∀ c ∈ t, isLossy c = false)

/-- `face` reads the key in the text, on its own grounds: it is a run of digits, or what is left of
a text when lossy code points are dropped. -/
def ReadOnCompletion (k t : Text) : Prop :=
  k ∈ maximalRuns Char.isDigit (upper t) ∨
    (k = Face.normalizeMatchToken t ∧ ∃ c ∈ t, isLossy c = true)

/-- `photographer` reads the key in the text, on its own grounds: it is cut from a longer token, or
from a text that is longer or has lossy code points. -/
def ReadOnRebuild (k t : Text) : Prop :=
  (∃ run ∈ maximalRuns isToken (upper t), 64 < run.length ∧ k = run.take 64) ∨
    (k = normalizeBibLookup t ∧
      ((∃ c ∈ t, isLossy c = true) ∨ 64 < ((upper t).filter isToken).length))

private theorem isAlphanum_of_isToken {c : Char} (h : isToken c = true) : c.isAlphanum = true := by
  change ((c.isUpper || c.isLower) || c.isDigit) = true
  rcases Bool.or_eq_true_iff.mp h with h | h
  · rw [h, Bool.true_or, Bool.true_or]
  · rw [h, Bool.or_true]

private theorem upperChar_of_isToken {c : Char} (h : isToken c = true) : upperChar c = [c] := by
  have hascii : c.toNat < 128 := toNat_lt_of_isAlphanum (isAlphanum_of_isToken h)
  rw [upperChar_of_ascii hascii, toUpper_of_isToken hascii h]

/-- Upper-case letters and digits are their own upper case. -/
theorem upper_of_isToken {s : Text} (h : ∀ c ∈ s, isToken c = true) : upper s = s := by
  unfold upper
  induction s with
  | nil => rfl
  | cons c s ih =>
    rw [List.flatMap_cons, upperChar_of_isToken (h c List.mem_cons_self),
      ih fun d hd => h d (List.mem_cons_of_mem c hd), List.singleton_append]

/-- A token is its own match token. -/
theorem normalizeMatchToken_of_isToken {s : Text} (h : ∀ c ∈ s, isToken c = true) :
    Face.normalizeMatchToken s = s := by
  have hfilter : s.filter Char.isAlphanum = s :=
    List.filter_eq_self.mpr fun c hc => isAlphanum_of_isToken (h c hc)
  rw [Face.normalizeMatchToken, hfilter, upper_of_isToken h]

/-- The lookup key of a token is its beginning. -/
theorem normalizeBibLookup_of_isToken {s : Text} (h : ∀ c ∈ s, isToken c = true) :
    normalizeBibLookup s = s.take 64 := by
  rw [normalizeBibLookup, upper_of_isToken h, List.filter_eq_self.mpr h]

/-- A match token consists of upper-case letters and digits. -/
theorem isToken_of_mem_normalizeMatchToken {s : Text} {c : Char}
    (h : c ∈ Face.normalizeMatchToken s) : isToken c = true := by
  obtain ⟨d, hd, hc⟩ := List.mem_flatMap.mp h
  rw [← (upperChar_of_isAlphanum (List.mem_filter.mp hd).2).2] at hc
  exact (List.mem_filter.mp hc).2

/-- A lookup key consists of upper-case letters and digits. -/
theorem isToken_of_mem_normalizeBibLookup {s : Text} {c : Char}
    (h : c ∈ normalizeBibLookup s) : isToken c = true :=
  (List.mem_filter.mp (List.mem_of_mem_take h)).2

/-- The candidates of `face`: the whole text, its tokens, its runs of digits. -/
theorem mem_faceCandidates {k t : Text} :
    k ∈ Face.extractMatchCandidates t ↔ k ≠ [] ∧ (k = Face.normalizeMatchToken t ∨
      k ∈ maximalRuns isToken (upper t) ∨ k ∈ maximalRuns Char.isDigit (upper t)) := by
  have hraw : Face.normalizeMatchToken (Face.normalizeMatchToken t) = Face.normalizeMatchToken t :=
    normalizeMatchToken_of_isToken fun c hc => isToken_of_mem_normalizeMatchToken hc
  have hrun : ∀ r ∈ maximalRuns isToken (upper t), Face.normalizeMatchToken r = r :=
    fun r hr => normalizeMatchToken_of_isToken (all_of_mem_maximalRuns hr)
  have hdigits : ∀ r ∈ maximalRuns Char.isDigit (upper t), Face.normalizeMatchToken r = r := by
    intro r hr
    refine normalizeMatchToken_of_isToken fun c hc => ?_
    rw [isToken, all_of_mem_maximalRuns hr c hc, Bool.or_true]
  rw [Face.extractMatchCandidates, mem_collectCandidates]
  refine and_congr_right fun hk => ?_
  constructor
  · rintro ⟨r, hr, rfl⟩
    rcases List.mem_append.mp hr with hr | hr
    · split at hr
      · rw [hrun r hr]
        exact Or.inr (Or.inl hr)
      · rcases List.mem_cons.mp hr with rfl | hr
        · exact Or.inl hraw
        · rw [hrun r hr]
          exact Or.inr (Or.inl hr)
    · rw [hdigits r hr]
      exact Or.inr (Or.inr hr)
  · rintro (rfl | hr | hr)
    · refine ⟨_, List.mem_append_left _ ?_, hraw⟩
      rw [if_neg (by simpa using hk)]
      exact List.mem_cons_self
    · refine ⟨k, List.mem_append_left _ ?_, hrun k hr⟩
      split
      · exact hr
      · exact List.mem_cons_of_mem _ hr
    · exact ⟨k, List.mem_append_right _ hr, hdigits k hr⟩

/-- The candidates of `photographer`: the lookup keys of the whole text and of its tokens. -/
theorem mem_photographerCandidates {k t : Text} :
    k ∈ Photographer.extractMatchCandidates t ↔ k ≠ [] ∧ (k = normalizeBibLookup t ∨
      ∃ run ∈ maximalRuns isToken (upper t), k = run.take 64) := by
  have hraw : normalizeBibLookup (normalizeBibLookup t) = normalizeBibLookup t := by
    rw [normalizeBibLookup_of_isToken fun c hc => isToken_of_mem_normalizeBibLookup hc]
    exact List.take_of_length_le (by rw [normalizeBibLookup, List.length_take]; omega)
  have hrun : ∀ r ∈ maximalRuns isToken (upper t), normalizeBibLookup r = r.take 64 :=
    fun r hr => normalizeBibLookup_of_isToken (all_of_mem_maximalRuns hr)
  rw [Photographer.extractMatchCandidates, mem_collectCandidates]
  unfold Photographer.normalizeMatchToken
  refine and_congr_right fun hk => ?_
  constructor
  · rintro ⟨r, hr, rfl⟩
    split at hr
    · exact Or.inr ⟨r, hr, hrun r hr⟩
    · rcases List.mem_cons.mp hr with rfl | hr
      · exact Or.inl hraw
      · exact Or.inr ⟨r, hr, hrun r hr⟩
  · rintro (rfl | ⟨r, hr, rfl⟩)
    · refine ⟨normalizeBibLookup t, ?_, hraw⟩
      rw [if_neg (by simpa using hk)]
      exact List.mem_cons_self
    · refine ⟨r, ?_, hrun r hr⟩
      split
      · exact hr
      · exact List.mem_cons_of_mem _ hr

private theorem exists_isLossy_or (t : Text) :
    (∃ c ∈ t, isLossy c = true) ∨ ∀ c ∈ t, isLossy c = false := by
  by_cases h : ∃ c ∈ t, isLossy c = true
  · exact Or.inl h
  · refine Or.inr fun c hc => ?_
    simpa using fun hlossy => h ⟨c, hc, hlossy⟩

/-- `face` reads a bib key together with `photographer` or on its own grounds. -/
theorem mem_faceCandidates_iff_read {k t : Text} (hk : IsBibKey k) :
    k ∈ Face.extractMatchCandidates t ↔ ReadByBoth k t ∨ ReadOnCompletion k t := by
  rw [mem_faceCandidates]
  constructor
  · rintro ⟨-, hraw | hrun | hdigits⟩
    · rcases exists_isLossy_or t with hlossy | hlossless
      · exact Or.inr (Or.inr ⟨hraw, hlossy⟩)
      · exact Or.inl (Or.inr ⟨hraw, hlossless⟩)
    · exact Or.inl (Or.inl hrun)
    · exact Or.inr (Or.inl hdigits)
  · rintro ((hrun | ⟨hraw, -⟩) | hdigits | ⟨hraw, -⟩)
    · exact ⟨hk.ne_nil, Or.inr (Or.inl hrun)⟩
    · exact ⟨hk.ne_nil, Or.inl hraw⟩
    · exact ⟨hk.ne_nil, Or.inr (Or.inr hdigits)⟩
    · exact ⟨hk.ne_nil, Or.inl hraw⟩

/-- `photographer` reads a bib key together with `face` or on its own grounds. -/
theorem mem_photographerCandidates_iff_read {k t : Text} (hk : IsBibKey k) :
    k ∈ Photographer.extractMatchCandidates t ↔ ReadByBoth k t ∨ ReadOnRebuild k t := by
  rw [mem_photographerCandidates]
  constructor
  · rintro ⟨-, hraw | ⟨run, hrun, hcut⟩⟩
    · rcases exists_isLossy_or t with hlossy | hlossless
      · exact Or.inr (Or.inr ⟨hraw, Or.inl hlossy⟩)
      · by_cases hlong : 64 < ((upper t).filter isToken).length
        · exact Or.inr (Or.inr ⟨hraw, Or.inr hlong⟩)
        · refine Or.inl (Or.inr ⟨?_, hlossless⟩)
          rw [hraw, normalizeBibLookup, List.take_of_length_le (Nat.not_lt.mp hlong),
            normalizeMatchToken_eq_filter hlossless]
    · by_cases hlong : 64 < run.length
      · exact Or.inr (Or.inl ⟨run, hrun, hlong, hcut⟩)
      · rw [List.take_of_length_le (Nat.not_lt.mp hlong)] at hcut
        exact Or.inl (Or.inl (hcut ▸ hrun))
  · rintro ((hrun | ⟨hraw, hlossless⟩) | ⟨run, hrun, -, hcut⟩ | ⟨hraw, -⟩)
    · exact ⟨hk.ne_nil, Or.inr ⟨k, hrun, (List.take_of_length_le hk.length).symm⟩⟩
    · refine ⟨hk.ne_nil, Or.inl ?_⟩
      rw [normalizeMatchToken_eq_filter hlossless] at hraw
      rw [normalizeBibLookup, ← hraw, List.take_of_length_le hk.length]
    · exact ⟨hk.ne_nil, Or.inr ⟨run, hrun, hcut⟩⟩
    · exact ⟨hk.ne_nil, Or.inl hraw⟩

end RaceFrame
