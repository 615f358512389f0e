import RaceFrame.Core.Runs
import RaceFrame.Text.Upper

/-!
# Bib keys and match candidates

`participant_lookup` holds the canonical bib key. `face` and `photographer` each
have their own `normalize_match_token` and `extract_match_candidates`; both are
modelled as written, and the membership lemmas say which strings each extractor
returns.
-/

namespace RaceFrame

open Core

/-- `normalize_bib_lookup`. -/
def normalizeBibLookup (value : Text) : Text := ((upper value).filter isToken).take 64

/-- `normalize_name_lookup`, over `str.lower`. -/
def normalizeNameLookup (lower : Text → Text) (value : Text) : Text :=
  ((List.intersperse [' '] (maximalRuns (fun c => !isSpace c) (lower value))).flatten).take 255

/-- The loop that both extractors end with: normalise, skip what is empty or seen. -/
def collectCandidates (normalize : Text → Text) (tokens : List Text) : List Text :=
  tokens.foldl (fun seen token =>
    let normalized := normalize token
    if normalized.isEmpty || seen.contains normalized then seen else seen ++ [normalized]) []

namespace Face

/-- `face.normalize_match_token`. -/
def normalizeMatchToken (value : Text) : Text := upper (value.filter Char.isAlphanum)

/-- `face.extract_match_candidates`. -/
def extractMatchCandidates (value : Text) : List Text :=
  let normalizedValue := upper value
  let tokens := maximalRuns isToken normalizedValue
  let rawCandidate := normalizeMatchToken value
  let tokens := if rawCandidate.isEmpty then tokens else rawCandidate :: tokens
  let tokens := tokens ++ maximalRuns Char.isDigit normalizedValue
  collectCandidates normalizeMatchToken tokens

end Face

namespace Photographer

/-- `photographer.normalize_match_token`. -/
def normalizeMatchToken (value : Text) : Text := normalizeBibLookup value

/-- `photographer.extract_match_candidates`. -/
def extractMatchCandidates (value : Text) : List Text :=
  let tokens := maximalRuns isToken (upper value)
  let rawCandidate := normalizeMatchToken value
  let tokens := if rawCandidate.isEmpty then tokens else rawCandidate :: tokens
  collectCandidates normalizeMatchToken tokens

end Photographer

/-- The collected candidates are the non-empty normalised tokens. -/
theorem mem_collectCandidates {normalize : Text → Text} {tokens : List Text} {k : Text} :
    k ∈ collectCandidates normalize tokens ↔ k ≠ [] ∧ ∃ t ∈ tokens, normalize t = k := by
  have hloop : ∀ (seen : List Text), k ∈ tokens.foldl (fun seen token =>
      let normalized := normalize token
      if normalized.isEmpty || seen.contains normalized then seen else seen ++ [normalized]) seen ↔
        k ∈ seen ∨ (k ≠ [] ∧ ∃ t ∈ tokens, normalize t = k) := by
    induction tokens with
    | nil => simp
    | cons token tokens ih =>
      intro seen
      simp only [List.foldl_cons, ih]
      by_cases hn : normalize token = []
      · have hk : k ≠ [] → normalize token ≠ k := fun hk he => hk (he.symm.trans hn)
        simp only [hn, List.isEmpty_nil, Bool.true_or, ite_true, List.mem_cons, exists_eq_or_imp]
        grind
      · by_cases hs : normalize token ∈ seen
        · simp only [List.contains_iff_mem.mpr hs, Bool.or_true, ite_true, List.mem_cons,
            exists_eq_or_imp]
          grind
        · have hc : seen.contains (normalize token) = false := by simpa using hs
          have he : (normalize token).isEmpty = false := by simpa using hn
          simp only [he, hc, Bool.or_self, Bool.false_eq_true, ite_false, List.mem_append,
            List.mem_cons, exists_eq_or_imp]
          grind
  simpa [collectCandidates] using hloop []

end RaceFrame
