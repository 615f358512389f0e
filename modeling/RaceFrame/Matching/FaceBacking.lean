import Mathlib.Order.Bounds.Basic
import RaceFrame.Matching.Evidence

/-!
# Matches backed by faces

`photo_participant_matches` keeps one confidence for both sources, while
`face_participant_matches` keeps the similarities of the faces alone. The upserts
keep the two tables together: a match has face evidence exactly when a similarity
is recorded for its photo and participant, no recorded similarity exceeds its
confidence, and the confidence of a match without OCR evidence is recorded.
-/

namespace RaceFrame

open Core

variable {F : Type}

/-- A similarity that `face_participant_matches` records for a photo and a participant. -/
def FaceEvidence (faces : Table (FaceParticipantMatch F) FaceParticipantMatch.key)
    (key : Uuid × Uuid) (similarity : F) : Prop :=
  ∃ row ∈ faces.rows, (row.photoId, row.participantId) = key ∧ row.similarityScore = similarity

/-- Every recorded similarity belongs to the photo of its detection. -/
def FacesDetected (faces : Table (FaceParticipantMatch F) FaceParticipantMatch.key)
    (detection : PhotoFaceDetection F) : Prop :=
  ∀ row ∈ faces.rows, row.photoFaceDetectionId = detection.id → row.photoId = detection.photoId

theorem mergedSource_eq_face_iff {stored excluded : MatchSource} :
    mergedSource stored excluded = .face ↔ stored = .face ∧ excluded = .face := by
  cases stored <;> cases excluded <;> decide

theorem mergedSource_ne_ocr_iff {stored excluded : MatchSource} :
    mergedSource stored excluded ≠ .ocr ↔ stored ≠ .ocr ∨ excluded ≠ .ocr := by
  cases stored <;> cases excluded <;> decide

variable [Scalar F]

/-- A merge never lowers a confidence. -/
theorem exists_mergedConfidence (c : F) (excluded : Option F) :
    ∃ c', mergedConfidence (some c) excluded = some c' ∧ c ≤ c' := by
  rw [mergedConfidence_eq_larger?]
  cases excluded with
  | none => exact ⟨c, rfl, le_rfl⟩
  | some d => exact ⟨max c d, rfl, le_max_left c d⟩

/-- The match under a key after an upsert. -/
theorem get?_upsert_mergeMatch
    (table : Table (PhotoParticipantMatch F) PhotoParticipantMatch.key)
    (row : PhotoParticipantMatch F) (key : Uuid × Uuid) :
    (table.upsert mergeMatch row).get? key =
      if row.key = key then mergeInto mergeMatch (table.get? key) row else table.get? key := by
  have hmerge : ∀ old row : PhotoParticipantMatch F, old.key = row.key →
      (mergeMatch old row).key = old.key := fun _ _ _ => rfl
  exact Table.get?_upsert hmerge table row key

/-! ## The similarities -/

section Similarities

private theorem get?_upsert_faceMatch
    (faces : Table (FaceParticipantMatch F) FaceParticipantMatch.key)
    (detection : PhotoFaceDetection F) (participantId : Uuid) (score : F) (key : Uuid × Uuid) :
    (faces.upsert mergeFaceMatch (faceMatch detection participantId score)).get? key =
      if (detection.id, participantId) = key then
        mergeInto mergeFaceMatch (faces.get? key) (faceMatch detection participantId score)
      else faces.get? key := by
  have hmerge : ∀ old row : FaceParticipantMatch F, old.key = row.key →
      (mergeFaceMatch old row).key = old.key := fun _ _ _ => rfl
  exact Table.get?_upsert hmerge faces (faceMatch detection participantId score) key

variable {faces : Table (FaceParticipantMatch F) FaceParticipantMatch.key}
  {detection : PhotoFaceDetection F} {participantId : Uuid} {score : F}

private theorem le_mergeFaceMatch (stored excluded : FaceParticipantMatch F) :
    stored.similarityScore ≤ (mergeFaceMatch stored excluded).similarityScore ∧
      excluded.similarityScore ≤ (mergeFaceMatch stored excluded).similarityScore := by
  change _ ≤ (if _ then _ else _) ∧ _ ≤ (if _ then _ else _)
  split
  next hle => exact ⟨le_rfl, hle⟩
  next hlt => exact ⟨(not_le.mp hlt).le, le_rfl⟩

omit [Scalar F] in
private theorem faceKey_of_get? (hdetected : FacesDetected faces detection)
    {row : FaceParticipantMatch F} (h : faces.get? (detection.id, participantId) = some row) :
    (row.photoId, row.participantId) = (detection.photoId, participantId) := by
  obtain ⟨hmem, hkey⟩ := Table.get?_eq_some_iff.mp h
  obtain ⟨hid, hparticipant⟩ := Prod.ext_iff.mp hkey
  exact Prod.ext (hdetected row hmem hid) hparticipant

/-- An upsert records nothing but its score. -/
theorem FaceEvidence.of_upsert (hdetected : FacesDetected faces detection) {key : Uuid × Uuid}
    {similarity : F} (h : FaceEvidence
      (faces.upsert mergeFaceMatch (faceMatch detection participantId score)) key similarity) :
    FaceEvidence faces key similarity ∨
      key = (detection.photoId, participantId) ∧ similarity = score := by
  obtain ⟨row, hmem, hkey, hscore⟩ := h
  have hget := Table.mem_iff_get?.mp hmem
  rw [get?_upsert_faceMatch] at hget
  split at hget
  next hhere =>
    rw [← hhere] at hget
    cases hstored : faces.get? (detection.id, participantId) with
    | none =>
      rw [hstored] at hget
      rw [← Option.some.inj hget] at hkey hscore
      exact Or.inr ⟨hkey.symm, hscore.symm⟩
    | some stored =>
      have hkey' := faceKey_of_get? hdetected hstored
      rw [hstored] at hget
      rw [← Option.some.inj hget] at hkey hscore
      change (if score ≤ stored.similarityScore then stored.similarityScore else score) =
        similarity at hscore
      split at hscore
      next => exact Or.inl ⟨stored, Table.mem_of_get? hstored, hkey, hscore⟩
      next => exact Or.inr ⟨hkey.symm.trans hkey', hscore.symm⟩
  next => exact Or.inl ⟨row, Table.mem_of_get? hget, hkey, hscore⟩

/-- An upsert lowers no recorded similarity. -/
theorem FaceEvidence.upsert {key : Uuid × Uuid} {similarity : F}
    (h : FaceEvidence faces key similarity) :
    ∃ similarity' ≥ similarity, FaceEvidence
      (faces.upsert mergeFaceMatch (faceMatch detection participantId score)) key similarity' := by
  obtain ⟨row, hmem, hkey, rfl⟩ := h
  have hget := get?_upsert_faceMatch faces detection participantId score row.key
  rw [Table.mem_iff_get?.mp hmem] at hget
  split at hget
  next =>
    exact ⟨_, (le_mergeFaceMatch row _).1, _, Table.mem_of_get? hget, hkey, rfl⟩
  next => exact ⟨_, le_rfl, row, Table.mem_of_get? hget, hkey, rfl⟩

/-- An upsert records a similarity that reaches its score. -/
theorem faceEvidence_upsert (hdetected : FacesDetected faces detection) (participantId : Uuid)
    (score : F) : ∃ similarity ≥ score, FaceEvidence
      (faces.upsert mergeFaceMatch (faceMatch detection participantId score))
        (detection.photoId, participantId) similarity := by
  have hget := get?_upsert_faceMatch faces detection participantId score
    (detection.id, participantId)
  rw [if_pos rfl] at hget
  cases hstored : faces.get? (detection.id, participantId) with
  | none =>
    rw [hstored] at hget
    exact ⟨score, le_rfl, _, Table.mem_of_get? hget, rfl, rfl⟩
  | some stored =>
    have hkey := faceKey_of_get? hdetected hstored
    have hle := (le_mergeFaceMatch stored (faceMatch detection participantId score)).2
    rw [hstored] at hget
    exact ⟨_, hle, _, Table.mem_of_get? hget, hkey, rfl⟩

/-- An upsert keeps the similarities at the photos of their detections. -/
theorem FacesDetected.upsert (hdetected : FacesDetected faces detection)
    {other : PhotoFaceDetection F} (hother : FacesDetected faces other)
    (hsame : detection.id = other.id → detection.photoId = other.photoId) :
    FacesDetected (faces.upsert mergeFaceMatch (faceMatch detection participantId score))
      other := by
  intro row hmem hid
  have hget := Table.mem_iff_get?.mp hmem
  rw [get?_upsert_faceMatch] at hget
  split at hget
  next hhere =>
    have hid' : detection.id = other.id := (congrArg Prod.fst hhere).trans hid
    rw [← hhere] at hget
    cases hstored : faces.get? (detection.id, participantId) with
    | none =>
      rw [hstored] at hget
      rw [← Option.some.inj hget]
      exact hsame hid'
    | some stored =>
      rw [hstored] at hget
      rw [← Option.some.inj hget]
      exact (congrArg Prod.fst (faceKey_of_get? hdetected hstored)).trans (hsame hid')
  next => exact hother row (Table.mem_of_get? hget) hid

end Similarities

/-! ## The invariant -/

/-- Matches with face evidence are those with a recorded similarity, and no recorded similarity
exceeds the confidence of its match. -/
structure FaceBacked (table : Table (PhotoParticipantMatch F) PhotoParticipantMatch.key)
    (faces : Table (FaceParticipantMatch F) FaceParticipantMatch.key) : Prop where
  recorded : ∀ key similarity, FaceEvidence faces key similarity →
    ∃ row c, table.get? key = some row ∧ row.matchSource ≠ .ocr ∧ row.confidence = some c ∧
      similarity ≤ c
  backed : ∀ key row, table.get? key = some row → row.matchSource ≠ .ocr →
    ∃ similarity, FaceEvidence faces key similarity

/-- The confidence of a match without OCR evidence is recorded. -/
def FaceExact (table : Table (PhotoParticipantMatch F) PhotoParticipantMatch.key)
    (faces : Table (FaceParticipantMatch F) FaceParticipantMatch.key) : Prop :=
  ∀ key row, table.get? key = some row → row.matchSource = .face →
    ∃ c, row.confidence = some c ∧ FaceEvidence faces key c

section Invariant

variable {table : Table (PhotoParticipantMatch F) PhotoParticipantMatch.key}
  {faces : Table (FaceParticipantMatch F) FaceParticipantMatch.key}
  {row : PhotoParticipantMatch F}

/-- OCR evidence keeps the matches backed. -/
theorem FaceBacked.upsertOcr (h : FaceBacked table faces) (hsource : row.matchSource = .ocr) :
    FaceBacked (table.upsert mergeMatch row) faces where
  recorded key similarity hsimilarity := by
    obtain ⟨stored, c, hstored, hface, hconfidence, hle⟩ := h.recorded key similarity hsimilarity
    rw [get?_upsert_mergeMatch, hstored]
    split
    · obtain ⟨c', hc', hlarger⟩ := exists_mergedConfidence c row.confidence
      refine ⟨mergeMatch stored row, c', rfl, mergedSource_ne_ocr_iff.mpr (Or.inl hface), ?_,
        hle.trans hlarger⟩
      rw [← hconfidence] at hc'
      exact hc'
    · exact ⟨stored, c, rfl, hface, hconfidence, hle⟩
  backed key merged hmerged hface := by
    rw [get?_upsert_mergeMatch] at hmerged
    split at hmerged
    · cases hstored : table.get? key with
      | none =>
        rw [hstored] at hmerged
        rw [← Option.some.inj hmerged] at hface
        exact absurd hsource hface
      | some stored =>
        rw [hstored] at hmerged
        rw [← Option.some.inj hmerged] at hface
        rcases mergedSource_ne_ocr_iff.mp hface with hface | hface
        · exact h.backed key stored hstored hface
        · exact absurd hsource hface
    · exact h.backed key merged hmerged hface

/-- OCR evidence leaves matches without it as they are. -/
theorem get?_of_upsertOcr (hsource : row.matchSource = .ocr) {key : Uuid × Uuid}
    {merged : PhotoParticipantMatch F} (h : (table.upsert mergeMatch row).get? key = some merged)
    (hface : merged.matchSource = .face) :
    table.get? key = some merged := by
  rw [get?_upsert_mergeMatch] at h
  split at h
  · cases hstored : table.get? key with
    | none =>
      rw [hstored] at h
      rw [← Option.some.inj h, hsource] at hface
      cases hface
    | some stored =>
      rw [hstored] at h
      rw [← Option.some.inj h] at hface
      have hocr := (mergedSource_eq_face_iff.mp hface).2
      rw [hsource] at hocr
      cases hocr
  · exact h

/-- OCR matches keep the matches backed. -/
theorem FaceBacked.upsertedOcr (h : FaceBacked table faces)
    {rows : List (PhotoParticipantMatch F)} (hrows : ∀ row ∈ rows, row.matchSource = .ocr) :
    FaceBacked (upsertedMatches table rows) faces := by
  induction rows generalizing table with
  | nil => exact h
  | cons first rows ih =>
    have hfirst : first.clamped.matchSource = .ocr := hrows first List.mem_cons_self
    exact ih (h.upsertOcr hfirst) fun row hrow => hrows row (List.mem_cons_of_mem first hrow)

/-- OCR matches leave matches without OCR evidence as they are. -/
theorem get?_of_upsertedOcr {rows : List (PhotoParticipantMatch F)}
    (hrows : ∀ row ∈ rows, row.matchSource = .ocr) {key : Uuid × Uuid}
    (h : (upsertedMatches table rows).get? key = some row) (hface : row.matchSource = .face) :
    table.get? key = some row := by
  induction rows generalizing table with
  | nil => exact h
  | cons first rows ih =>
    have hfirst : first.clamped.matchSource = .ocr := hrows first List.mem_cons_self
    exact get?_of_upsertOcr hfirst (ih (fun r hr => hrows r (List.mem_cons_of_mem first hr)) h)
      hface

variable {detection : PhotoFaceDetection F} {participantId : Uuid} {score : F}

/-- A recorded face keeps the matches backed. -/
theorem FaceBacked.upsertFace (h : FaceBacked table faces)
    (hdetected : FacesDetected faces detection)
    (hkey : row.key = (detection.photoId, participantId)) (hsource : row.matchSource = .face)
    (hconfidence : row.confidence = some score) :
    FaceBacked (table.upsert mergeMatch row)
      (faces.upsert mergeFaceMatch (faceMatch detection participantId score)) where
  recorded key similarity hsimilarity := by
    rw [get?_upsert_mergeMatch]
    rcases hsimilarity.of_upsert hdetected with hold | ⟨rfl, rfl⟩
    · obtain ⟨stored, c, hstored, hface, hc, hle⟩ := h.recorded key similarity hold
      rw [hstored]
      split
      · obtain ⟨c', hc', hlarger⟩ := exists_mergedConfidence c row.confidence
        refine ⟨mergeMatch stored row, c', rfl, mergedSource_ne_ocr_iff.mpr (Or.inl hface), ?_,
          hle.trans hlarger⟩
        rw [← hc] at hc'
        exact hc'
      · exact ⟨stored, c, rfl, hface, hc, hle⟩
    · rw [if_pos hkey]
      have hface : row.matchSource ≠ .ocr := by
        rw [hsource]
        exact MatchSource.noConfusion
      cases hstored : table.get? (detection.photoId, participantId) with
      | none => exact ⟨row, similarity, rfl, hface, hconfidence, le_rfl⟩
      | some stored =>
        refine ⟨mergeMatch stored row, ?_⟩
        have hmerged : (mergeMatch stored row).confidence =
            larger? stored.confidence (some similarity) := by
          rw [← hconfidence, ← mergedConfidence_eq_larger?]
          rfl
        cases hold : stored.confidence with
        | none =>
          rw [hold] at hmerged
          exact ⟨similarity, rfl, mergedSource_ne_ocr_iff.mpr (Or.inr hface), hmerged, le_rfl⟩
        | some c =>
          rw [hold] at hmerged
          exact ⟨max c similarity, rfl, mergedSource_ne_ocr_iff.mpr (Or.inr hface), hmerged,
            le_max_right _ _⟩
  backed key merged hmerged hface := by
    rw [get?_upsert_mergeMatch] at hmerged
    split at hmerged
    next hhere =>
      obtain ⟨similarity, -, hsimilarity⟩ := faceEvidence_upsert hdetected participantId score
      rw [← hkey, hhere] at hsimilarity
      exact ⟨similarity, hsimilarity⟩
    next =>
      obtain ⟨similarity, hsimilarity⟩ := h.backed key merged hmerged hface
      obtain ⟨similarity', -, hsimilarity'⟩ := hsimilarity.upsert
      exact ⟨similarity', hsimilarity'⟩

/-- No recorded similarity exceeds the confidence of the match. -/
theorem FaceBacked.le_confidence (h : FaceBacked table faces) {key : Uuid × Uuid}
    (hrow : table.get? key = some row) {c similarity : F} (hc : row.confidence = some c)
    (hsimilarity : FaceEvidence faces key similarity) : similarity ≤ c := by
  obtain ⟨row', c', hrow', -, hc', hle⟩ := h.recorded key similarity hsimilarity
  have hsame : row' = row := Option.some.inj (hrow'.symm.trans hrow)
  rw [hsame, hc] at hc'
  rw [Option.some.inj hc']
  exact hle

omit row in
private theorem faceEvidence_upsert_greatest (hdetected : FacesDetected faces detection)
    {key : Uuid × Uuid} {c : F} (hgreatest : ∀ similarity, FaceEvidence faces key similarity →
      similarity ≤ c) (hscore : key = (detection.photoId, participantId) → score ≤ c)
    (h : ∃ similarity ≥ c, FaceEvidence
      (faces.upsert mergeFaceMatch (faceMatch detection participantId score)) key similarity) :
    FaceEvidence (faces.upsert mergeFaceMatch (faceMatch detection participantId score)) key c := by
  obtain ⟨similarity, hge, hsimilarity⟩ := h
  have hle : similarity ≤ c := by
    rcases hsimilarity.of_upsert hdetected with hold | ⟨hkey, rfl⟩
    · exact hgreatest similarity hold
    · exact hscore hkey
  rw [le_antisymm hge hle]
  exact hsimilarity

/-- A recorded face keeps the confidences recorded. -/
theorem FaceExact.upsertFace (hexact : FaceExact table faces) (h : FaceBacked table faces)
    (hdetected : FacesDetected faces detection)
    (hkey : row.key = (detection.photoId, participantId))
    (hconfidence : row.confidence = some score) :
    FaceExact (table.upsert mergeMatch row)
      (faces.upsert mergeFaceMatch (faceMatch detection participantId score)) := by
  intro key merged hmerged hface
  rw [get?_upsert_mergeMatch] at hmerged
  split at hmerged
  next hhere =>
    have hphoto := hhere.symm.trans hkey
    have hadded := faceEvidence_upsert hdetected participantId score
    rw [← hphoto] at hadded
    cases hstored : table.get? key with
    | none =>
      rw [hstored] at hmerged
      rw [← Option.some.inj hmerged]
      refine ⟨score, hconfidence,
        faceEvidence_upsert_greatest hdetected ?_ (fun _ => le_rfl) hadded⟩
      intro similarity hsimilarity
      obtain ⟨row', c, hrow', -⟩ := h.recorded key similarity hsimilarity
      rw [hstored] at hrow'
      cases hrow'
    | some stored =>
      rw [hstored] at hmerged
      rw [← Option.some.inj hmerged] at hface ⊢
      obtain ⟨c, hc, hrecorded⟩ := hexact key stored hstored (mergedSource_eq_face_iff.mp hface).1
      have hmax : (mergeMatch stored row).confidence = some (max c score) := by
        change mergedConfidence stored.confidence row.confidence = _
        rw [mergedConfidence_eq_larger?, hc, hconfidence]
        rfl
      have hgreatest : ∀ similarity, FaceEvidence faces key similarity → similarity ≤ max c score :=
        fun similarity hsimilarity =>
          (h.le_confidence hstored hc hsimilarity).trans (le_max_left c score)
      refine ⟨max c score, hmax, faceEvidence_upsert_greatest hdetected hgreatest
        (fun _ => le_max_right c score) ?_⟩
      rcases le_total c score with hle | hle
      · rw [max_eq_right hle]
        exact hadded
      · rw [max_eq_left hle]
        exact hrecorded.upsert
  next hother =>
    obtain ⟨c, hc, hrecorded⟩ := hexact key merged hmerged hface
    refine ⟨c, hc, faceEvidence_upsert_greatest hdetected ?_ (fun hphoto => ?_) hrecorded.upsert⟩
    · exact fun similarity hsimilarity => h.le_confidence hmerged hc hsimilarity
    · exact absurd (hkey.trans hphoto.symm) hother

end Invariant

end RaceFrame
