import RaceFrame.Matching.Embedding
import RaceFrame.Orm.Session
import RaceFrame.Text.Candidates

/-!
# Match evidence

The functions of `face.py` and `photographer.py` that turn detections into rows
of `photo_participant_matches` and `face_participant_matches`. Every write is an
upsert that merges the new evidence into the stored row.
-/

namespace RaceFrame

open Core

variable {F : Type} [Scalar F]

/-- `clamp_match_value`. -/
def clampMatchValue (value : Text) : Text :=
  let normalized := strip value
  if normalized.isEmpty then "matched".toList else normalized.take 255

/-- `merged_confidence`: the larger one of the two confidences that are not null. -/
def mergedConfidence (stored excluded : Option F) : Option F :=
  match stored, excluded with
  | none, c => c
  | some c, none => some c
  | some c, some d => if d ≤ c then some c else some d

/-- `merged_source`. -/
def mergedSource (stored excluded : MatchSource) : MatchSource :=
  if stored = excluded then stored else if stored = .ocrFace then stored else .ocrFace

/-- `merged_value`. -/
def mergedValue (stored excluded : PhotoParticipantMatch F) : Text :=
  if stored.matchSource = excluded.matchSource then excluded.matchedValue
  else (stored.matchedValue ++ " | ".toList ++ excluded.matchSource.toText ++ ":".toList ++
    excluded.matchedValue).take 255

/-- The `ON CONFLICT DO UPDATE` clause of the final match upsert. -/
def mergeMatch (stored excluded : PhotoParticipantMatch F) : PhotoParticipantMatch F :=
  { stored with
    matchSource := mergedSource stored.matchSource excluded.matchSource
    matchedValue := mergedValue stored excluded
    confidence := mergedConfidence stored.confidence excluded.confidence }

/-- The statement of `upsert_final_photo_participant_match`. -/
def Database.upsertMatch (db : Database F) (row : PhotoParticipantMatch F) : Database F :=
  { db with
    photoParticipantMatches := db.photoParticipantMatches.upsert mergeMatch
      { row with matchedValue := clampMatchValue row.matchedValue } }

/-- `upsert_final_photo_participant_match`, its arguments collected in a row. -/
def upsertFinalPhotoParticipantMatch (row : PhotoParticipantMatch F) : Request F Unit :=
  .execute fun db => db.upsertMatch row

/-- `participants_by_bib`: a later participant replaces an earlier one under the same key. -/
def participantsByBib (normalizeMatchToken : Text → Text) (participants : List Participant) :
    Table (Text × Participant) Prod.fst :=
  participants.foldl (fun index participant =>
    let key := normalizeMatchToken participant.bibNumber
    if key.isEmpty then index else index.upsert (fun _ entry => entry) (key, participant)) .empty

/-- The row that one OCR candidate of a photo stands for. -/
def ocrMatch (photo : Photo) (participant : Participant) (candidateValue : Text)
    (confidence : Option F) : PhotoParticipantMatch F where
  eventId := photo.eventId
  photoId := photo.id
  participantId := participant.id
  matchSource := .ocr
  matchedValue := candidateValue
  confidence := confidence

/-- The matches that the detections of a photo stand for. -/
def ocrMatches (normalizeMatchToken : Text → Text) (extractMatchCandidates : Text → List Text)
    (photo : Photo) (participants : List Participant) (detections : List (PhotoTextDetection F)) :
    List (PhotoParticipantMatch F) :=
  let index := participantsByBib normalizeMatchToken participants
  detections.flatMap fun detection =>
    (extractMatchCandidates detection.detectedText).filterMap fun candidateValue =>
      (index.get? candidateValue).map fun entry =>
        ocrMatch photo entry.2 candidateValue detection.confidence

/-- `select(Participant).where(Participant.event_id == event_id)`. -/
def Database.participantsOf (db : Database F) (eventId : Uuid) : List Participant :=
  db.participants.rows.filter fun p => p.eventId == eventId

/-- The body that `create_ocr_participant_matches` and `create_participant_matches` share;
it returns whether a match was written. -/
def recordOcrMatches (normalizeMatchToken : Text → Text)
    (extractMatchCandidates : Text → List Text) (photo : Photo)
    (detections : List (PhotoTextDetection F)) : Request F Bool := do
  let participants ← Request.query fun db => db.participantsOf photo.eventId
  let found := ocrMatches normalizeMatchToken extractMatchCandidates photo participants detections
  found.forM upsertFinalPhotoParticipantMatch
  return !found.isEmpty

/-- `face.create_ocr_participant_matches`. -/
def Face.createOcrParticipantMatches (photo : Photo) (detections : List (PhotoTextDetection F)) :
    Request F Unit :=
  discard (recordOcrMatches Face.normalizeMatchToken Face.extractMatchCandidates photo detections)

/-- `photographer.create_participant_matches`. -/
def Photographer.createParticipantMatches (photo : Photo)
    (detections : List (PhotoTextDetection F)) : Request F Unit := do
  let matchedAny ← recordOcrMatches Photographer.normalizeMatchToken
    Photographer.extractMatchCandidates photo detections
  if matchedAny then Request.commit

/-- `best_by_participant`: for every participant with an embedding that reaches the
threshold, the best such similarity. -/
def bestByParticipant (cfg : Settings F) (detection : PhotoFaceDetection F)
    (embeddings : List (ParticipantFaceEmbedding F)) : Table (Uuid × F) Prod.fst :=
  embeddings.foldl (fun best embedding =>
    let score := cosineSimilarity detection.embeddingJson embedding.embeddingJson
    if score < cfg.faceMatchSimilarityThreshold then best
    else best.upsert (fun current new => if current.2 < new.2 then new else current)
      (embedding.participantId, score)) .empty

/-- The `ON CONFLICT DO UPDATE` clause of the face match upsert. -/
def mergeFaceMatch (stored excluded : FaceParticipantMatch F) : FaceParticipantMatch F :=
  { stored with
    similarityScore :=
      if excluded.similarityScore ≤ stored.similarityScore then stored.similarityScore
      else excluded.similarityScore }

/-- The face match of a detection with a participant. -/
def faceMatch (detection : PhotoFaceDetection F) (participantId : Uuid) (score : F) :
    FaceParticipantMatch F where
  eventId := detection.eventId
  photoId := detection.photoId
  photoFaceDetectionId := detection.id
  participantId := participantId
  similarityScore := score

/-- The evidence that a face match contributes to the final match. -/
def faceEvidence (detection : PhotoFaceDetection F) (participantId : Uuid) (score : F) :
    PhotoParticipantMatch F where
  eventId := detection.eventId
  photoId := detection.photoId
  participantId := participantId
  matchSource := .face
  matchedValue := Scalar.format4 score
  confidence := some score

/-- The upsert of a face match. -/
def Database.upsertFaceMatch (db : Database F) (row : FaceParticipantMatch F) : Database F :=
  { db with faceParticipantMatches := db.faceParticipantMatches.upsert mergeFaceMatch row }

/-- One turn of the writing loop of `create_face_matches`. -/
def recordFaceMatch (detection : PhotoFaceDetection F) (entry : Uuid × F) : Request F Unit := do
  Request.execute fun db => db.upsertFaceMatch (faceMatch detection entry.1 entry.2)
  upsertFinalPhotoParticipantMatch (faceEvidence detection entry.1 entry.2)

/-- `create_face_matches`. -/
def createFaceMatches (cfg : Settings F) (embeddings : List (ParticipantFaceEmbedding F))
    (detection : PhotoFaceDetection F) : Request F Nat := do
  let best := (bestByParticipant cfg detection embeddings).rows
  best.forM (recordFaceMatch detection)
  return best.length

/-- `create_face_participant_matches_for_participant`. -/
def createFaceParticipantMatchesForParticipant (cfg : Settings F) (participantId eventId : Uuid) :
    Request F Nat := do
  let detections ← Request.query fun db =>
    db.photoFaceDetections.rows.filter fun d => d.eventId == eventId
  let embeddings ← Request.query fun db =>
    db.participantFaceEmbeddings.rows.filter fun e =>
      e.eventId == eventId && e.participantId == participantId
  detections.foldlM (fun createdCount detection => do
    let created ← createFaceMatches cfg embeddings detection
    return createdCount + created) 0

/-! ## What the functions write -/

/-- A sequence of final match upserts. -/
def Database.upsertMatches (db : Database F) (rows : List (PhotoParticipantMatch F)) :
    Database F :=
  rows.foldl Database.upsertMatch db

/-- The two upserts of one turn of `create_face_matches`. -/
def Database.recordFaceMatch (db : Database F) (detection : PhotoFaceDetection F)
    (entry : Uuid × F) : Database F :=
  (db.upsertFaceMatch (faceMatch detection entry.1 entry.2)).upsertMatch
    (faceEvidence detection entry.1 entry.2)

/-- The upserts of `create_face_matches`. -/
def Database.recordFaceMatches (cfg : Settings F) (embeddings : List (ParticipantFaceEmbedding F))
    (db : Database F) (detection : PhotoFaceDetection F) : Database F :=
  (bestByParticipant cfg detection embeddings).rows.foldl
    (fun db entry => db.recordFaceMatch detection entry) db

/-- The OCR matcher upserts the matches of the detections, and nothing else. -/
theorem run_recordOcrMatches (normalizeMatchToken : Text → Text)
    (extractMatchCandidates : Text → List Text) (photo : Photo)
    (detections : List (PhotoTextDetection F)) (s : Session F) :
    (recordOcrMatches normalizeMatchToken extractMatchCandidates photo detections).run s =
      let found := ocrMatches normalizeMatchToken extractMatchCandidates photo
        (s.flushed.participantsOf photo.eventId) detections
      (.ok !found.isEmpty, s.execute fun db => db.upsertMatches found) := by
  have hrow : ∀ (row : PhotoParticipantMatch F) (s : Session F),
      (upsertFinalPhotoParticipantMatch row).run s =
        (.ok (), s.execute fun db => db.upsertMatch row) := fun _ _ => rfl
  exact Program.run_bind_ok (Request.run_forM_execute s hrow
    (ocrMatches normalizeMatchToken extractMatchCandidates photo
      (s.flushed.participantsOf photo.eventId) detections))

/-- The OCR matcher of `face.py` upserts the matches of the detections, and nothing else. -/
theorem Face.run_createOcrParticipantMatches_bind {β : Type} (photo : Photo)
    (detections : List (PhotoTextDetection F)) (f : Unit → Request F β) (s : Session F) :
    (Face.createOcrParticipantMatches photo detections >>= f).run s =
      (f ()).run (s.execute fun db => db.upsertMatches (ocrMatches Face.normalizeMatchToken
        Face.extractMatchCandidates photo (s.flushed.participantsOf photo.eventId)
        detections)) := by
  rw [Face.createOcrParticipantMatches, Request.run_discard_bind,
    Program.run_bind_ok (run_recordOcrMatches _ _ photo detections s)]

private theorem run_createFaceMatches (cfg : Settings F)
    (embeddings : List (ParticipantFaceEmbedding F)) (detection : PhotoFaceDetection F)
    (s : Session F) :
    (createFaceMatches cfg embeddings detection).run s =
      (.ok (bestByParticipant cfg detection embeddings).rows.length,
        s.execute fun db => db.recordFaceMatches cfg embeddings detection) := by
  have hentry : ∀ (entry : Uuid × F) (s : Session F), (recordFaceMatch detection entry).run s =
      (.ok (), s.execute fun db => db.recordFaceMatch detection entry) := fun _ _ => rfl
  exact Program.run_bind_ok (Request.run_forM_execute s hentry
    (bestByParticipant cfg detection embeddings).rows)

private theorem run_foldlM_createFaceMatches (cfg : Settings F)
    (embeddings : List (ParticipantFaceEmbedding F)) (detections : List (PhotoFaceDetection F))
    (createdCount : Nat) (s : Session F) :
    ∃ n, (detections.foldlM (fun createdCount detection => do
      let created ← createFaceMatches cfg embeddings detection
      return createdCount + created) createdCount).run s =
        (.ok n, s.execute fun db =>
          detections.foldl (Database.recordFaceMatches cfg embeddings) db) := by
  induction detections generalizing createdCount s with
  | nil => exact ⟨createdCount, rfl⟩
  | cons detection detections ih =>
    obtain ⟨n, hn⟩ := ih (createdCount + (bestByParticipant cfg detection embeddings).rows.length)
      (s.execute fun db => db.recordFaceMatches cfg embeddings detection)
    refine ⟨n, ?_⟩
    rw [List.foldlM_cons, bind_assoc,
      Program.run_bind_ok (run_createFaceMatches cfg embeddings detection s),
      Program.run_pure_bind, hn]
    rfl

/-- The final match table after a sequence of upserts. -/
def upsertedMatches (table : Table (PhotoParticipantMatch F) PhotoParticipantMatch.key)
    (rows : List (PhotoParticipantMatch F)) :
    Table (PhotoParticipantMatch F) PhotoParticipantMatch.key :=
  rows.foldl (fun table row => table.upsert mergeMatch
    { row with matchedValue := clampMatchValue row.matchedValue }) table

/-- The face match table after a sequence of upserts. -/
def upsertedFaceMatches (table : Table (FaceParticipantMatch F) FaceParticipantMatch.key)
    (rows : List (FaceParticipantMatch F)) :
    Table (FaceParticipantMatch F) FaceParticipantMatch.key :=
  rows.foldl (fun table row => table.upsert mergeFaceMatch row) table

/-- The pairs of a detection and a best similarity that reaches the threshold. -/
def faceFindings (cfg : Settings F) (embeddings : List (ParticipantFaceEmbedding F))
    (detections : List (PhotoFaceDetection F)) : List (PhotoFaceDetection F × (Uuid × F)) :=
  detections.flatMap fun detection =>
    (bestByParticipant cfg detection embeddings).rows.map fun entry => (detection, entry)

theorem Database.upsertMatches_eq (db : Database F) (rows : List (PhotoParticipantMatch F)) :
    db.upsertMatches rows =
      { db with photoParticipantMatches := upsertedMatches db.photoParticipantMatches rows } := by
  induction rows generalizing db with
  | nil => rfl
  | cons row rows ih => exact ih (db.upsertMatch row)

private theorem foldl_recordFaceMatch (detection : PhotoFaceDetection F)
    (entries : List (Uuid × F)) (db : Database F) :
    entries.foldl (fun db entry => db.recordFaceMatch detection entry) db =
      { db with
        faceParticipantMatches := upsertedFaceMatches db.faceParticipantMatches
          (entries.map fun entry => faceMatch detection entry.1 entry.2)
        photoParticipantMatches := upsertedMatches db.photoParticipantMatches
          (entries.map fun entry => faceEvidence detection entry.1 entry.2) } := by
  induction entries generalizing db with
  | nil => rfl
  | cons entry entries ih => exact ih (db.recordFaceMatch detection entry)

/-- Recording detections one after the other upserts their findings in both match tables. -/
theorem foldl_recordFaceMatches (cfg : Settings F)
    (embeddings : List (ParticipantFaceEmbedding F)) (detections : List (PhotoFaceDetection F))
    (db : Database F) :
    detections.foldl (Database.recordFaceMatches cfg embeddings) db =
      { db with
        faceParticipantMatches := upsertedFaceMatches db.faceParticipantMatches
          ((faceFindings cfg embeddings detections).map fun f => faceMatch f.1 f.2.1 f.2.2)
        photoParticipantMatches := upsertedMatches db.photoParticipantMatches
          ((faceFindings cfg embeddings detections).map fun f =>
            faceEvidence f.1 f.2.1 f.2.2) } := by
  induction detections generalizing db with
  | nil => rfl
  | cons detection detections ih =>
    rw [List.foldl_cons, ih, Database.recordFaceMatches, foldl_recordFaceMatch]
    simp only [faceFindings, List.flatMap_cons, List.map_append, List.map_map,
      upsertedFaceMatches, upsertedMatches, List.foldl_append]
    rfl

/-- Enrolment upserts the matches of every detection of the event, and nothing else. -/
theorem run_createFaceParticipantMatchesForParticipant_bind {β : Type} (cfg : Settings F)
    (participantId eventId : Uuid) (f : Unit → Request F β) (s : Session F) :
    (discard (createFaceParticipantMatchesForParticipant cfg participantId eventId) >>= f).run s =
      (f ()).run (s.execute fun db =>
        (s.flushed.photoFaceDetections.rows.filter fun d => d.eventId == eventId).foldl
          (Database.recordFaceMatches cfg (s.flushed.participantFaceEmbeddings.rows.filter fun e =>
            e.eventId == eventId && e.participantId == participantId)) db) := by
  obtain ⟨n, hn⟩ := run_foldlM_createFaceMatches cfg
    (s.flushed.participantFaceEmbeddings.rows.filter fun e =>
      e.eventId == eventId && e.participantId == participantId)
    (s.flushed.photoFaceDetections.rows.filter fun d => d.eventId == eventId) 0 s
  rw [Request.run_discard_bind]
  exact Program.run_bind_ok hn

end RaceFrame
