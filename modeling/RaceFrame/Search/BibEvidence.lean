import RaceFrame.Schema.Rows
import RaceFrame.Text.Candidates

/-!
# Bib evidence

How `face.py` reads the bib of a participant off the text detections of a photo:
exact candidates are strong evidence, candidates that share a long enough
substring with the bib are weak evidence.
-/

namespace RaceFrame

variable {F : Type}

/-- The row of `longest_common_substring_length` for one character of the left string: entry
`i + 1` is the length of the common suffix that ends at this character and at position `i`. -/
def longestCommonSubstringRow (leftChar : Char) (right : Text) (previous : List Nat) : List Nat :=
  0 :: List.zipWith (fun rightChar diagonal => if leftChar = rightChar then diagonal + 1 else 0)
    right previous

/-- `longest_common_substring_length`. -/
def longestCommonSubstringLength (left right : Text) : Nat :=
  (left.foldl (fun (state : Nat × List Nat) leftChar =>
    let current := longestCommonSubstringRow leftChar right state.2
    (current.foldl max state.1, current)) (0, List.replicate (right.length + 1) 0)).1

/-- `candidate in target` for strings. -/
def Text.isIn (candidate target : Text) : Bool := target.tails.any candidate.isPrefixOf

/-- `is_partial_bib_match`. -/
def isPartialBibMatch (candidate target : Text) : Bool :=
  if target.length < 3 || candidate.length < 2 then false
  else if target.length < candidate.length then false
  else if Text.isIn candidate target && decide (max 2 (target.length - 1) ≤ candidate.length) then
    true
  else decide (max 3 (target.length - 1) ≤ longestCommonSubstringLength candidate target)

/-- The strengths of `BibEvidence`. -/
inductive BibStrength
  | none | weak | strong
  deriving DecidableEq, Repr

/-- `BibEvidence`. -/
structure BibEvidence where
  strength : BibStrength
  matchedValues : List Text
  deriving DecidableEq

/-- The candidates of all detections, each with the text it was extracted from. -/
def detectedCandidates (detections : List (PhotoTextDetection F)) : List (Text × Text) :=
  detections.flatMap fun detection =>
    (Face.extractMatchCandidates detection.detectedText).map fun c => (c, detection.detectedText)

/-- `score_bib_evidence`. -/
def scoreBibEvidence (detections : List (PhotoTextDetection F)) (bibNumber : Text) : BibEvidence :=
  let target := Face.normalizeMatchToken bibNumber
  if target.isEmpty then ⟨.none, []⟩
  else
    match (detectedCandidates detections).find? fun c => c.1 == target with
    | some exact => ⟨.strong, [exact.2]⟩
    | none =>
      let weakMatches := ((detectedCandidates detections).filter fun c =>
        isPartialBibMatch c.1 target).map Prod.snd
      if weakMatches.isEmpty then ⟨.none, []⟩ else ⟨.weak, weakMatches.take 3⟩

/-- `exact_bib_match_values`. -/
def exactBibMatchValues (detections : List (PhotoTextDetection F)) (bibNumber : Text) :
    List Text :=
  let target := Face.normalizeMatchToken bibNumber
  if target.isEmpty then []
  else
    let matchedValues := (detectedCandidates detections).foldl (fun seen c =>
      if c.1 != target || seen.contains c.2 then seen else seen ++ [c.2]) []
    matchedValues.take 3

/-- `has_exact_bib_match`. -/
def hasExactBibMatch (detections : List (PhotoTextDetection F)) (bibNumber : Text) : Bool :=
  !(exactBibMatchValues detections bibNumber).isEmpty

end RaceFrame
