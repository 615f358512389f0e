import RaceFrame.Worker.Vision

/-!
# The words of a Vision response

`extract_google_ocr_detections` neither loses nor repeats a word: its detections
are sorted, their keys are the keys of the texts that it reads, each of them
once, and it reads the flat annotations exactly when every word is blank.
-/

namespace RaceFrame

open Core

variable {F : Type}

/-- The pair of a detection: its normalised text and its vertices. -/
def OCRDetectionPayload.pair (detection : OCRDetectionPayload F) : Text × List (Int × Int) :=
  (detection.normalizedText, verticesKeyFromBox detection.boundingBoxJson)

/-- The detections represent the texts that are not blank: they are sorted, no pair is repeated and
none is lost or made up. -/
structure Represents (raws : List (RawText F)) (detections : List (OCRDetectionPayload F)) :
    Prop where
  sorted : detections.Pairwise fun a b => detectionKey a ≤ detectionKey b
  unrepeated : (detections.map (·.pair)).Nodup
  complete : ∀ raw ∈ raws, ∀ pair, textKey raw = some pair →
    ∃ detection ∈ detections, detection.pair = pair
  sound : ∀ detection ∈ detections, ∃ raw ∈ raws, textKey raw = some detection.pair ∧
    detection = detectionOf raw

/-- A turn of the loop keeps the seen keys and the pairs of the detections the same. -/
theorem map_pair_collectText {state : Extraction F}
    (h : state.detections.map (·.pair) = state.seenKeys.reverse) (raw : RawText F) :
    (collectText state raw).detections.map (·.pair) = (collectText state raw).seenKeys.reverse := by
  rw [collectText]
  split
  · exact h
  · dsimp only
    split
    · exact h
    · rw [List.map_append, h, List.reverse_cons]
      rfl

/-- Along the loop the seen keys are the pairs of the detections. -/
theorem map_pair_foldl_collectText (raws : List (RawText F)) {state : Extraction F}
    (h : state.detections.map (·.pair) = state.seenKeys.reverse) :
    (raws.foldl collectText state).detections.map (·.pair) =
      (raws.foldl collectText state).seenKeys.reverse := by
  induction raws generalizing state with
  | nil => exact h
  | cons raw raws ih => exact ih (map_pair_collectText h raw)

/-- The pair of the detection that a text makes is the key of the text. -/
theorem textKey_eq_some_pair {raw : RawText F} (hmetadata : raw.metadata.lookup "vertices" = none)
    (hkey : (textKey raw).isSome) : textKey raw = some (detectionOf raw).pair := by
  rw [OCRDetectionPayload.pair, detectionOf, verticesKeyFromBox_boundingPolyToJson _ hmetadata]
  rw [textKey] at hkey ⊢
  split at hkey
  · cases hkey
  next hfull => rw [if_neg hfull]

/-- The extraction represents the texts that it reads. -/
theorem represents_texts (response : VisionResponse F) :
    Represents response.texts (extractGoogleOcrDetections response) := by
  have htexts := extractedFrom_texts response
  have hpairs := @map_pair_foldl_collectText F response.texts ⟨[], []⟩ rfl
  rw [extractGoogleOcrDetections_eq, sortOcrDetections]
  generalize response.texts.foldl collectText ⟨[], []⟩ = state at htexts hpairs
  have hperm := (List.perm_insertionSort (fun a b => detectionKey a ≤ detectionKey b)
    state.detections).map (·.pair)
  constructor
  case sorted => exact List.pairwise_insertionSort _ _
  case unrepeated =>
    rw [hperm.nodup_iff, hpairs, List.nodup_reverse]
    exact htexts.nodup
  case complete =>
    intro raw hraw pair hkey
    have hmem : pair ∈ state.detections.map (·.pair) := by
      rw [hpairs, List.mem_reverse, htexts.mem, List.mem_filterMap]
      exact ⟨raw, hraw, hkey⟩
    exact List.mem_map.mp (hperm.mem_iff.mpr hmem)
  case sound =>
    intro detection hdetection
    obtain ⟨raw, hraw, hkey, rfl⟩ := htexts.read detection
      ((List.mem_insertionSort _).mp hdetection)
    exact ⟨raw, hraw,
      textKey_eq_some_pair (place_of_mem_texts hraw).lookup_vertices hkey, rfl⟩

/-- The extraction represents the words of the full text when one of them is not blank, and the flat
annotations when every one is. -/
theorem extraction_represents_response (response : VisionResponse F) :
    ((∃ raw ∈ response.words, (textKey raw).isSome) ∧
        Represents response.words (extractGoogleOcrDetections response)) ∨
      ((∀ raw ∈ response.words, textKey raw = none) ∧
        Represents response.annotations (extractGoogleOcrDetections response)) := by
  have hrepresents := represents_texts response
  rw [VisionResponse.texts] at hrepresents
  split at hrepresents
  next hblank =>
    rw [List.isEmpty_iff, List.filterMap_eq_nil_iff] at hblank
    exact Or.inr ⟨hblank, hrepresents⟩
  next hwords =>
    refine Or.inl ⟨?_, hrepresents⟩
    rw [List.isEmpty_iff] at hwords
    obtain ⟨pair, hpair⟩ := List.exists_mem_of_ne_nil _ hwords
    obtain ⟨raw, hraw, hkey⟩ := List.mem_filterMap.mp hpair
    exact ⟨raw, hraw, Option.isSome_iff_exists.mpr ⟨pair, hkey⟩⟩

end RaceFrame
