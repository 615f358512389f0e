import RaceFrame.Matching.Upsert
import RaceFrame.Search.Results

/-!
# Completing jobs

The functions of `face.py` that commit the result of a finished job, with the
two that derive the status of a photo and of a search session from the statuses
of their jobs. Each reads the sibling statuses with a `SELECT`, so it sees what
has been flushed, and assigns to an object, so its own change is pending until
the final commit.
-/

namespace RaceFrame

open Core

variable {F : Type}

/-- The diagnostics that are kept. -/
def allowedKeys : List String :=
  ["provider", "request_id", "model_name", "model_version", "image_width", "image_height",
    "resized_width", "resized_height", "processing_ms"]

/-- Scalars whose text has at most 255 characters. -/
def Json.isCompact : Json F → Bool
  | .str s => decide (s.length ≤ 255)
  | .int n => decide ((toString n).length ≤ 255)
  | .float _ | .bool _ => true
  | .null | .list _ | .dict _ => false

/-- `compact_worker_diagnostics`. -/
def compactWorkerDiagnostics (rawResponseJson : Option (JsonDict F)) (summary : JsonDict F) :
    JsonDict F :=
  (allowedKeys.filterMap fun key =>
    match (rawResponseJson.getD []).lookup key with
    | some value => if value.isCompact then some (key, value) else none
    | none => none) ++ summary

/-- The photo of a photo job. -/
def Job.photoId? (job : Job F) : Option Uuid :=
  match job.ref with
  | .photo photoId _ => some photoId
  | _ => none

/-- The search session of a face search job. -/
def Job.searchSessionId? (job : Job F) : Option Uuid :=
  match job.ref with
  | .faceSearch _ searchSessionId _ => some searchSessionId
  | _ => none

/-- `select(PhotoJob.status).where(PhotoJob.photo_id == photo.id)`. -/
def Database.photoJobStatuses (db : Database F) (photoId : Uuid) : List JobStatus :=
  (db.jobs.rows.filter fun job => job.photoId? == some photoId).map Job.status

/-- `select(FaceSearchJob.status).where(FaceSearchJob.search_session_id == search_session.id)`. -/
def Database.searchJobStatuses (db : Database F) (searchSessionId : Uuid) : List JobStatus :=
  (db.jobs.rows.filter fun job => job.searchSessionId? == some searchSessionId).map Job.status

/-- Write the attributes of a job. -/
@[simps] def Database.putJob (db : Database F) (job : Job F) : Database F :=
  { db with jobs := db.jobs.put job }

/-- Assign `photo.status`. -/
@[simps] def Database.setPhotoStatus (db : Database F) (photoId : Uuid) (status : PhotoStatus) :
    Database F :=
  { db with photos := db.photos.update photoId fun photo => { photo with status := status } }

/-- Assign attributes of a search session. -/
@[simps] def Database.updateSearchSession (db : Database F) (searchSessionId : Uuid)
    (f : FaceSearchSession → FaceSearchSession) : Database F :=
  { db with faceSearchSessions := db.faceSearchSessions.update searchSessionId f }

/-- Assign the status and the error of a search selfie. -/
@[simps] def Database.setSearchImage (db : Database F) (searchImageId : Uuid) (status : ImageStatus)
    (errorMessage : Option Text) : Database F :=
  { db with
    faceSearchImages := db.faceSearchImages.update searchImageId fun image =>
      { image with status := status, errorMessage := errorMessage } }

/-- Assign the status and the error of an enrolment selfie. -/
@[simps] def Database.setFaceImage (db : Database F) (faceImageId : Uuid) (status : ImageStatus)
    (errorMessage : Option Text) : Database F :=
  { db with
    participantFaceImages := db.participantFaceImages.update faceImageId fun image =>
      { image with status := status, errorMessage := errorMessage } }

/-- Replace the face detections. -/
@[simps] def Database.setPhotoFaceDetections (db : Database F)
    (rows : Table (PhotoFaceDetection F) PhotoFaceDetection.id) : Database F :=
  { db with photoFaceDetections := rows }

/-- Replace the embeddings. -/
@[simps] def Database.setFaceEmbeddings (db : Database F)
    (rows : Table (ParticipantFaceEmbedding F) ParticipantFaceEmbedding.faceImageId) :
    Database F :=
  { db with participantFaceEmbeddings := rows }

/-- Delete face detections, and with them the rows whose foreign keys cascade. -/
@[simps] def Database.deletePhotoFaceDetections (db : Database F)
    (p : PhotoFaceDetection F → Bool) : Database F :=
  let gone := (db.photoFaceDetections.rows.filter p).map PhotoFaceDetection.id
  { db with
    photoFaceDetections := db.photoFaceDetections.deleteWhere p
    faceParticipantMatches := db.faceParticipantMatches.deleteWhere fun row =>
      gone.contains row.photoFaceDetectionId
    faceSearchResults := db.faceSearchResults.deleteWhere fun row =>
      gone.contains row.photoFaceDetectionId }

/-- The status that `mark_photo_ready_if_jobs_done` assigns, if it assigns one. -/
def markedPhotoStatus (statuses : List JobStatus) : Option PhotoStatus :=
  if !statuses.isEmpty && statuses.all JobStatus.isTerminal then
    let completedCount := statuses.countP fun status => status == .completed
    if completedCount = statuses.length then some .ready
    else if completedCount ≠ 0 then some .partiallyReady
    else some .failed
  else if !statuses.isEmpty then some .processing
  else none

/-- `mark_photo_ready_if_jobs_done`. -/
def markPhotoReadyIfJobsDone (photoId : Uuid) : Request F Unit := do
  let statuses ← Request.query fun db => db.photoJobStatuses photoId
  match markedPhotoStatus statuses with
  | some status => Request.assign fun db => db.setPhotoStatus photoId status
  | none => return ()

/-- The status of a search session whose jobs are all done. -/
def doneSessionStatus (statuses : List JobStatus) : SessionStatus :=
  if statuses.contains .completed then .completed else .failed

/-- `mark_face_search_session_done_if_jobs_done`. -/
def markFaceSearchSessionDoneIfJobsDone (searchSessionId : Uuid) : Request F Unit := do
  let statuses ← Request.query fun db => db.searchJobStatuses searchSessionId
  if !statuses.isEmpty && statuses.all JobStatus.isTerminal then
    let finishedAt ← Request.utcNow
    Request.assign fun db => db.updateSearchSession searchSessionId fun session =>
      { session with status := doneSessionStatus statuses, finishedAt := some finishedAt }
  else if !statuses.isEmpty then
    Request.assign fun db => db.updateSearchSession searchSessionId fun session =>
      { session with status := .processing }

/-- An OCR detection of a completion request. -/
structure OCRDetectionPayload (F : Type) where
  detectedText : Text
  normalizedText : Text
  confidence : Option F
  boundingBoxJson : Option (JsonDict F)

/-- A face of a completion request. -/
structure FaceDetectionPayload (F : Type) where
  faceIndex : Nat
  embedding : List F
  boundingBoxJson : Option (JsonDict F)
  detectionScore : Option F
  qualityScore : Option F

/-- The text detection that `complete_photo_ocr_job` stores for a payload, if it is usable. -/
def storedTextDetection (photo : Photo) (job : Job F) (detection : OCRDetectionPayload F) :
    Option (PhotoTextDetection F) :=
  let detectedText := strip detection.detectedText
  let normalizedText := strip detection.normalizedText
  if detectedText.isEmpty || normalizedText.isEmpty then none
  else some
    { photoId := photo.id
      photoJobId := job.id
      detectedText := detectedText
      normalizedText := normalizedText
      confidence := detection.confidence
      boundingBoxJson := detection.boundingBoxJson }

/-- The row of a completed job. -/
def completedJob (job : Job F) (rawResponseJson : JsonDict F) (finishedAt : Instant) : Job F :=
  { job with
    status := .completed, rawResponseJson := some rawResponseJson, finishedAt := some finishedAt }

/-- The common end of `complete_photo_ocr_job` and `complete_photo_face_job`. -/
def finishPhotoJob (photo : Photo) (job : Job F) (rawResponseJson : JsonDict F) :
    Request F Unit := do
  let finishedAt ← Request.utcNow
  Request.assign fun db => db.putJob (completedJob job rawResponseJson finishedAt)
  Request.flush
  markPhotoReadyIfJobsDone photo.id
  Request.commit

variable [Scalar F]

/-- `complete_photo_ocr_job`. -/
def completePhotoOcrJob (job : Job F) (photoId : Uuid) (detections : List (OCRDetectionPayload F))
    (rawResponseJson : Option (JsonDict F)) : Request F Unit := do
  let photo ← Request.ofOption .attributeError (← Request.loaded fun db => db.photos.get? photoId)
  Request.execute fun db => { db with
    photoTextDetections := db.photoTextDetections.filter fun d => d.photoJobId != job.id }
  let storedDetections := detections.filterMap (storedTextDetection photo job)
  Request.assign fun db => { db with
    photoTextDetections := db.photoTextDetections ++ storedDetections }
  Request.flush
  Face.createOcrParticipantMatches photo storedDetections
  finishPhotoJob photo job (compactWorkerDiagnostics rawResponseJson
    [("detection_count", .int storedDetections.length)])

/-- The face detection that `complete_photo_face_job` stores for a payload under a drawn
identifier. -/
def storedFaceDetection (photo : Photo) (job : Job F) (id : Uuid)
    (detection : FaceDetectionPayload F) : PhotoFaceDetection F where
  id := id
  eventId := photo.eventId
  photoId := photo.id
  photoJobId := job.id
  faceIndex := detection.faceIndex
  embeddingJson := normalizeEmbeddingPayload detection.embedding
  boundingBoxJson := detection.boundingBoxJson
  detectionScore := detection.detectionScore
  qualityScore := detection.qualityScore

/-- The faces whose embedding is usable. -/
def usableFaces (faceDetections : List (FaceDetectionPayload F)) :
    List (FaceDetectionPayload F) :=
  faceDetections.filter fun detection => !(normalizeEmbeddingPayload detection.embedding).isEmpty

/-- The detections that `complete_photo_face_job` stores, under the identifiers drawn. -/
def storedFaceDetections (photo : Photo) (job : Job F) (ids : List Uuid)
    (faceDetections : List (FaceDetectionPayload F)) : List (PhotoFaceDetection F) :=
  List.zipWith (storedFaceDetection photo job) ids (usableFaces faceDetections)

/-- Every stored detection comes from a usable face. -/
theorem exists_of_mem_storedFaceDetections {photo : Photo} {job : Job F} {ids : List Uuid}
    {faceDetections : List (FaceDetectionPayload F)} {detection : PhotoFaceDetection F}
    (h : detection ∈ storedFaceDetections photo job ids faceDetections) :
    ∃ id, ∃ face ∈ usableFaces faceDetections,
      detection = storedFaceDetection photo job id face := by
  rw [storedFaceDetections, ← List.map_uncurry_zip_eq_zipWith] at h
  obtain ⟨⟨id, face⟩, hmem, rfl⟩ := List.mem_map.mp h
  exact ⟨id, face, (List.of_mem_zip hmem).2, rfl⟩

/-- Every usable face is stored when there are identifiers enough. -/
theorem exists_mem_storedFaceDetections {photo : Photo} {job : Job F} {ids : List Uuid}
    {faceDetections : List (FaceDetectionPayload F)}
    (hlength : (usableFaces faceDetections).length ≤ ids.length) {face : FaceDetectionPayload F}
    (h : face ∈ usableFaces faceDetections) :
    ∃ id, storedFaceDetection photo job id face ∈
      storedFaceDetections photo job ids faceDetections := by
  rw [← List.map_snd_zip hlength] at h
  obtain ⟨⟨id, face⟩, hmem, rfl⟩ := List.mem_map.mp h
  refine ⟨id, ?_⟩
  rw [storedFaceDetections, ← List.map_uncurry_zip_eq_zipWith]
  exact List.mem_map_of_mem hmem

/-- `complete_photo_face_job`. -/
def completePhotoFaceJob (job : Job F) (photoId : Uuid)
    (faceDetections : List (FaceDetectionPayload F)) (rawResponseJson : Option (JsonDict F)) :
    Request F Unit := do
  let photo ← Request.ofOption .attributeError (← Request.loaded fun db => db.photos.get? photoId)
  Request.execute fun db => db.deletePhotoFaceDetections fun d => d.photoJobId == job.id
  let ids ← Request.uuid4s (usableFaces faceDetections).length
  let storedFaces := storedFaceDetections photo job ids faceDetections
  let rows ← Request.ofOption .integrityError
    (← Request.loaded fun db => db.photoFaceDetections.insertAll? storedFaces)
  Request.assign fun db => db.setPhotoFaceDetections rows
  Request.flush
  finishPhotoJob photo job (compactWorkerDiagnostics rawResponseJson
    [("face_count", .int storedFaces.length)])

/-- The fields of `CompleteEmbeddingJobRequest` without the attempt. -/
structure EmbeddingResult (F : Type) where
  embedding : List F
  boundingBoxJson : Option (JsonDict F)
  detectionScore : Option F
  qualityScore : Option F
  rawResponseJson : Option (JsonDict F)

/-- The embedding that `complete_participant_face_job` stores. -/
def enrolledEmbedding (eventId participantId faceImageId : Uuid) (result : EmbeddingResult F) :
    ParticipantFaceEmbedding F where
  eventId := eventId
  participantId := participantId
  faceImageId := faceImageId
  embeddingJson := normalizeEmbeddingPayload result.embedding
  boundingBoxJson := result.boundingBoxJson
  detectionScore := result.detectionScore
  qualityScore := result.qualityScore

/-- `complete_participant_face_job`. -/
def completeParticipantFaceJob (cfg : Settings F) (job : Job F)
    (eventId participantId faceImageId : Uuid) (result : EmbeddingResult F) :
    Request F Unit :=
  if (normalizeEmbeddingPayload result.embedding).isEmpty then
    Program.raise (.valueError "Face enrollment result did not include an embedding.")
  else do
    let embedding := enrolledEmbedding eventId participantId faceImageId result
    discard (Request.ofOption .attributeError
      (← Request.loaded fun db => db.participantFaceImages.get? faceImageId))
    Request.assign fun db => db.setFaceImage faceImageId .ready none
    let finishedAt ← Request.utcNow
    Request.assign fun db => db.putJob (completedJob job
      (compactWorkerDiagnostics result.rawResponseJson [("face_count", .int 1)]) finishedAt)
    let rows ← Request.ofOption .integrityError
      (← Request.loaded fun db => db.participantFaceEmbeddings.insert? embedding)
    Request.assign fun db => db.setFaceEmbeddings rows
    Request.flush
    discard (createFaceParticipantMatchesForParticipant cfg participantId eventId)
    Request.commit

/-- An optional score in a summary. -/
def Json.ofScore : Option F → Json F
  | some x => .float x
  | none => .null

/-- The diagnostics that `complete_face_search_job` stores. -/
def searchDiagnostics (result : EmbeddingResult F) (matchedCount : Nat) : JsonDict F :=
  compactWorkerDiagnostics result.rawResponseJson
    [("detection_score", Json.ofScore result.detectionScore),
      ("quality_score", Json.ofScore result.qualityScore),
      ("matched_count", .int matchedCount)]

/-- `complete_face_search_job`. -/
def completeFaceSearchJob (cfg : Settings F) (job : Job F)
    (eventId searchSessionId searchImageId : Uuid) (result : EmbeddingResult F) :
    Request F Unit :=
  if (normalizeEmbeddingPayload result.embedding).isEmpty then
    Program.raise (.valueError "Face search result did not include an embedding.")
  else do
    let matchedCount ← createFaceSearchResults cfg eventId searchSessionId
      (normalizeEmbeddingPayload result.embedding)
    discard (Request.ofOption .attributeError
      (← Request.loaded fun db => db.faceSearchImages.get? searchImageId))
    Request.assign fun db => db.setSearchImage searchImageId .ready none
    let finishedAt ← Request.utcNow
    Request.assign fun db => db.putJob (completedJob job (searchDiagnostics result matchedCount)
      finishedAt)
    let searchSession ← Request.ofOption .attributeError
      (← Request.loaded fun db => db.faceSearchSessions.get? searchSessionId)
    if searchSession.participantId.isSome then
      discard (applyAdaptiveReinforcement cfg searchSession false)
    markFaceSearchSessionDoneIfJobsDone searchSession.id
    Request.commit

/-! ## What a completion commits -/

/-- The assignment that `mark_photo_ready_if_jobs_done` makes for the statuses it has read. -/
def Database.markPhoto (db : Database F) (photoId : Uuid) (statuses : List JobStatus) :
    Database F :=
  match markedPhotoStatus statuses with
  | some status => db.setPhotoStatus photoId status
  | none => db

/-- The assignment that `mark_face_search_session_done_if_jobs_done` makes for the statuses it
has read. -/
def Database.markSearchSession (db : Database F) (searchSessionId : Uuid)
    (statuses : List JobStatus) (finishedAt : Instant) : Database F :=
  if !statuses.isEmpty && statuses.all JobStatus.isTerminal then
    db.updateSearchSession searchSessionId fun session =>
      { session with status := doneSessionStatus statuses, finishedAt := some finishedAt }
  else if !statuses.isEmpty then
    db.updateSearchSession searchSessionId fun session => { session with status := .processing }
  else db

/-- The database of a photo job that finishes: its row is flushed before the statuses are
read. -/
def Database.finishPhotoJob (db : Database F) (photo : Photo) (job : Job F)
    (rawResponseJson : JsonDict F) (finishedAt : Instant) : Database F :=
  let db := db.putJob (completedJob job rawResponseJson finishedAt)
  db.markPhoto photo.id (db.photoJobStatuses photo.id)

omit [Scalar F] in
/-- Finishing a photo job commits. -/
theorem run_finishPhotoJob (photo : Photo) (job : Job F) (rawResponseJson : JsonDict F)
    (s : Session F) :
    ((finishPhotoJob photo job rawResponseJson).run s).1 = .ok () ∧
      ((finishPhotoJob photo job rawResponseJson).run s).2.committed =
        s.current.finishPhotoJob photo job rawResponseJson (s.world.clock 0) := by
  simp only [finishPhotoJob, markPhotoReadyIfJobsDone, Database.finishPhotoJob, Database.markPhoto,
    Request.run_utcNow_bind, Request.run_assign_bind, Request.run_flush_bind, bind_assoc,
    Request.run_query_bind, Session.flush_flushed, Session.assign_current, Session.tick_current]
  cases markedPhotoStatus ((s.current.putJob
      (completedJob job rawResponseJson (s.world.clock 0))).photoJobStatuses photo.id) <;>
    exact ⟨rfl, rfl⟩

/-- The detections that `complete_photo_ocr_job` stores. -/
def storedTextDetections (photo : Photo) (job : Job F)
    (detections : List (OCRDetectionPayload F)) : List (PhotoTextDetection F) :=
  detections.filterMap (storedTextDetection photo job)

/-- Replace the text detections of a job. -/
@[simps] def Database.storeTextDetections (db : Database F) (job : Job F)
    (rows : List (PhotoTextDetection F)) : Database F :=
  { db with
    photoTextDetections :=
      (db.photoTextDetections.filter fun d => d.photoJobId != job.id) ++ rows }

/-- Record the matches of the text detections of a photo. -/
def Database.matchTextDetections (db : Database F) (photo : Photo)
    (rows : List (PhotoTextDetection F)) : Database F :=
  db.upsertMatches (ocrMatches Face.normalizeMatchToken Face.extractMatchCandidates photo
    (db.participantsOf photo.eventId) rows)

/-- An OCR completion commits the detections, their matches, the job and the photo status. -/
theorem run_completePhotoOcrJob {s : Session F} {photoId : Uuid} {photo : Photo}
    (hphoto : s.current.photos.get? photoId = some photo) (job : Job F)
    (detections : List (OCRDetectionPayload F)) (rawResponseJson : Option (JsonDict F)) :
    let stored := storedTextDetections photo job detections
    let result := (completePhotoOcrJob job photoId detections rawResponseJson).run s
    result.1 = .ok () ∧
      result.2.committed =
        ((s.current.storeTextDetections job stored).matchTextDetections photo stored).finishPhotoJob
          photo job (compactWorkerDiagnostics rawResponseJson
            [("detection_count", .int stored.length)]) (s.world.clock 0) := by
  simp only [completePhotoOcrJob, Request.run_loaded_bind, hphoto, Request.run_ofOption_some_bind,
    Request.run_execute_bind, Request.run_assign_bind, Request.run_flush_bind,
    Face.run_createOcrParticipantMatches_bind]
  exact run_finishPhotoJob photo job _ _

/-- Without its photo an OCR completion raises and commits nothing. -/
theorem run_completePhotoOcrJob_of_none {s : Session F} {photoId : Uuid}
    (hphoto : s.current.photos.get? photoId = none) (job : Job F)
    (detections : List (OCRDetectionPayload F)) (rawResponseJson : Option (JsonDict F)) :
    (completePhotoOcrJob job photoId detections rawResponseJson).run s =
      (.error .attributeError, s) := by
  simp only [completePhotoOcrJob, Request.run_loaded_bind, hphoto, Request.run_ofOption_none_bind]

/-- A face scan commits the detections, the job and the photo status, or raises and commits
nothing. -/
theorem run_completePhotoFaceJob (s : Session F) (photoId : Uuid) (job : Job F)
    (faceDetections : List (FaceDetectionPayload F)) (rawResponseJson : Option (JsonDict F)) :
    let result := (completePhotoFaceJob job photoId faceDetections rawResponseJson).run s
    let ids := (List.range (usableFaces faceDetections).length).map s.world.uuids
    ((∃ e, result.1 = .error e) ∧ result.2.committed = s.committed) ∨
      ∃ photo rows, s.current.photos.get? photoId = some photo ∧
        let stored := storedFaceDetections photo job ids faceDetections
        let db := s.current.deletePhotoFaceDetections fun d => d.photoJobId == job.id
        db.photoFaceDetections.insertAll? stored = some rows ∧
        result.1 = .ok () ∧
        result.2.committed = (db.setPhotoFaceDetections rows).finishPhotoJob photo job
          (compactWorkerDiagnostics rawResponseJson [("face_count", .int stored.length)])
          (s.world.clock 0) := by
  simp only [completePhotoFaceJob, Request.run_loaded_bind]
  cases hphoto : s.current.photos.get? photoId with
  | none => exact Or.inl ⟨⟨_, rfl⟩, rfl⟩
  | some photo =>
    simp only [Request.run_ofOption_some_bind, Request.run_execute_bind, Request.run_uuid4s_bind,
      Request.run_loaded_bind, Session.draw_current, Session.execute_current,
      Session.execute_world]
    cases hrows : (s.current.deletePhotoFaceDetections fun d =>
        d.photoJobId == job.id).photoFaceDetections.insertAll?
          (storedFaceDetections photo job
            ((List.range (usableFaces faceDetections).length).map s.world.uuids)
            faceDetections) with
    | none => exact Or.inl ⟨⟨_, rfl⟩, rfl⟩
    | some rows =>
      refine Or.inr ⟨photo, rows, rfl, hrows, ?_⟩
      simp only [Request.run_ofOption_some_bind, Request.run_assign_bind, Request.run_flush_bind]
      exact run_finishPhotoJob photo job _ _

/-- Record the face matches of a participant with every detection of the event. -/
def Database.matchParticipant (cfg : Settings F) (db : Database F) (participantId eventId : Uuid) :
    Database F :=
  (db.photoFaceDetections.rows.filter fun d => d.eventId == eventId).foldl
    (Database.recordFaceMatches cfg (db.participantFaceEmbeddings.rows.filter fun e =>
      e.eventId == eventId && e.participantId == participantId)) db

/-- An enrolment commits the embedding, the selfie, the job and the matches, or raises and
commits nothing. -/
theorem run_completeParticipantFaceJob (cfg : Settings F) (s : Session F) (job : Job F)
    (eventId participantId faceImageId : Uuid) (result : EmbeddingResult F) :
    let outcome :=
      (completeParticipantFaceJob cfg job eventId participantId faceImageId result).run s
    ((∃ e, outcome.1 = .error e) ∧ outcome.2.committed = s.committed) ∨
      ∃ rows, normalizeEmbeddingPayload result.embedding ≠ [] ∧
        s.current.participantFaceEmbeddings.insert?
          (enrolledEmbedding eventId participantId faceImageId result) = some rows ∧
        outcome.1 = .ok () ∧
        outcome.2.committed =
          (((s.current.setFaceImage faceImageId .ready none).putJob (completedJob job
            (compactWorkerDiagnostics result.rawResponseJson [("face_count", .int 1)])
            (s.world.clock 0))).setFaceEmbeddings rows).matchParticipant cfg participantId
              eventId := by
  by_cases hempty : (normalizeEmbeddingPayload result.embedding).isEmpty = true
  · simp only [completeParticipantFaceJob, if_pos hempty]
    exact Or.inl ⟨⟨_, rfl⟩, rfl⟩
  · simp only [completeParticipantFaceJob, if_neg hempty, Request.run_loaded_bind,
      Request.run_discard_bind]
    cases himage : s.current.participantFaceImages.get? faceImageId with
    | none => exact Or.inl ⟨⟨_, rfl⟩, rfl⟩
    | some image =>
      simp only [Request.run_ofOption_some_bind, Request.run_assign_bind,
        Request.run_utcNow_bind, Request.run_loaded_bind]
      cases hrows : s.current.participantFaceEmbeddings.insert?
          (enrolledEmbedding eventId participantId faceImageId result) with
      | none =>
        simp only [Session.assign_current, Session.tick_current,
          Database.putJob_participantFaceEmbeddings,
          Database.setFaceImage_participantFaceEmbeddings, hrows, Request.run_ofOption_none_bind]
        exact Or.inl ⟨⟨_, rfl⟩, rfl⟩
      | some rows =>
        refine Or.inr ⟨rows, by simpa using hempty, rfl, ?_⟩
        simp only [Session.assign_current, Session.tick_current,
          Database.putJob_participantFaceEmbeddings,
          Database.setFaceImage_participantFaceEmbeddings, hrows, Request.run_ofOption_some_bind,
          Request.run_assign_bind, Request.run_flush_bind,
          run_createFaceParticipantMatchesForParticipant_bind, Request.run_commit]
        exact ⟨trivial, rfl⟩

/-- The database of a face search job that completes, apart from the search results: the
statuses are the ones read before the row of the job is flushed. -/
def Database.finishFaceSearchJob (db : Database F) (job : Job F)
    (searchSessionId searchImageId : Uuid) (rawResponseJson : JsonDict F)
    (statuses : List JobStatus) (finishedAt sessionFinishedAt : Instant) : Database F :=
  ((db.setSearchImage searchImageId .ready none).putJob
    (completedJob job rawResponseJson finishedAt)).markSearchSession searchSessionId statuses
      sessionFinishedAt

omit [Scalar F] in
private theorem run_markFaceSearchSessionDone_commit (searchSessionId : Uuid) (s : Session F) :
    let result := (markFaceSearchSessionDoneIfJobsDone searchSessionId >>= fun _ =>
      Request.commit).run s
    result.1 = .ok () ∧
      result.2.committed = s.current.markSearchSession searchSessionId
        (s.flushed.searchJobStatuses searchSessionId) (s.world.clock 0) := by
  simp only [markFaceSearchSessionDoneIfJobsDone, bind_assoc, Request.run_query_bind,
    Database.markSearchSession]
  by_cases hdone : (!(s.flushed.searchJobStatuses searchSessionId).isEmpty &&
      (s.flushed.searchJobStatuses searchSessionId).all JobStatus.isTerminal) = true
  · simp only [if_pos hdone]
    exact ⟨rfl, rfl⟩
  · simp only [if_neg hdone]
    by_cases hsome : (!(s.flushed.searchJobStatuses searchSessionId).isEmpty) = true
    · simp only [if_pos hsome]
      exact ⟨rfl, rfl⟩
    · simp only [if_neg hsome]
      exact ⟨rfl, rfl⟩

omit [Scalar F] in
private theorem exceptSearchResults_markSearchSession (db : Database F) (searchSessionId : Uuid)
    (statuses : List JobStatus) (finishedAt : Instant) :
    (db.markSearchSession searchSessionId statuses finishedAt).exceptSearchResults =
      db.exceptSearchResults.markSearchSession searchSessionId statuses finishedAt := by
  unfold Database.markSearchSession
  split
  · rfl
  · split <;> rfl

omit [Scalar F] in
private theorem run_finishFaceSearch (searchSessionId : Uuid) {db db' : Database F}
    {s : Session F} (hflushed : s.flushed.exceptSearchResults = db.exceptSearchResults)
    (hcurrent : s.current.exceptSearchResults = db'.exceptSearchResults) :
    ∃ finishedAt,
      ((markFaceSearchSessionDoneIfJobsDone searchSessionId >>= fun _ =>
        Request.commit).run s).1 = .ok () ∧
      ((markFaceSearchSessionDoneIfJobsDone searchSessionId >>= fun _ =>
        Request.commit).run s).2.committed.exceptSearchResults =
          (db'.markSearchSession searchSessionId (db.searchJobStatuses searchSessionId)
            finishedAt).exceptSearchResults := by
  obtain ⟨hok, hcommitted⟩ := run_markFaceSearchSessionDone_commit searchSessionId s
  have hstatuses : s.flushed.searchJobStatuses searchSessionId =
      db.searchJobStatuses searchSessionId :=
    congrArg (fun db => db.searchJobStatuses searchSessionId) hflushed
  refine ⟨s.world.clock 0, hok, ?_⟩
  rw [hcommitted, exceptSearchResults_markSearchSession, exceptSearchResults_markSearchSession,
    hcurrent, hstatuses]

/-- A search completion commits the selfie, the job, the session and search results, or raises
and commits nothing. -/
theorem run_completeFaceSearchJob (cfg : Settings F) (s : Session F) (job : Job F)
    (eventId searchSessionId searchImageId : Uuid) (result : EmbeddingResult F) :
    let outcome :=
      (completeFaceSearchJob cfg job eventId searchSessionId searchImageId result).run s
    ((∃ e, outcome.1 = .error e) ∧ outcome.2.committed = s.committed) ∨
      ∃ n finishedAt sessionFinishedAt, normalizeEmbeddingPayload result.embedding ≠ [] ∧
        (s.flushed.eventFaces eventId).length ≤ cfg.maxSearchFacesPerEvent ∧
        outcome.1 = .ok () ∧ outcome.2.committed.exceptSearchResults =
          (s.current.finishFaceSearchJob job searchSessionId searchImageId
            (searchDiagnostics result n) (s.flushed.searchJobStatuses searchSessionId) finishedAt
            sessionFinishedAt).exceptSearchResults := by
  by_cases hempty : (normalizeEmbeddingPayload result.embedding).isEmpty = true
  · simp only [completeFaceSearchJob, if_pos hempty]
    exact Or.inl ⟨⟨_, rfl⟩, rfl⟩
  by_cases hfits : (s.flushed.eventFaces eventId).length ≤ cfg.maxSearchFacesPerEvent
  swap
  · simp only [completeFaceSearchJob, if_neg hempty]
    rw [Program.run_bind_error
      (run_createFaceSearchResults_of_lt searchSessionId _ (not_le.mp hfits))]
    exact Or.inl ⟨⟨_, rfl⟩, rfl⟩
  · simp only [completeFaceSearchJob, if_neg hempty]
    rcases (keeps_createFaceSearchResults cfg eventId searchSessionId
      (normalizeEmbeddingPayload result.embedding)).run_bind s with
      herr | ⟨n, t, hrun, hc, hf, hcur⟩
    · exact Or.inl herr
    · rw [hrun]
      simp only [Request.run_loaded_bind, Request.run_discard_bind]
      cases himage : t.current.faceSearchImages.get? searchImageId with
      | none => exact Or.inl ⟨⟨_, rfl⟩, hc⟩
      | some image =>
        simp only [Request.run_ofOption_some_bind, Request.run_assign_bind,
          Request.run_utcNow_bind, Request.run_loaded_bind, Session.assign_current,
          Session.tick_current, Database.putJob_faceSearchSessions,
          Database.setSearchImage_faceSearchSessions]
        cases hsession : t.current.faceSearchSessions.get? searchSessionId with
        | none => exact Or.inl ⟨⟨_, rfl⟩, hc⟩
        | some session =>
          have hid : session.id = searchSessionId := Table.get?_key hsession
          simp only [Request.run_ofOption_some_bind, hid]
          have hmarked : ∀ u : Session F, u.flushed.exceptSearchResults =
              t.flushed.exceptSearchResults → u.current.exceptSearchResults =
                ((t.current.setSearchImage searchImageId .ready none).putJob (completedJob job
                  (searchDiagnostics result n) (t.world.clock 0))).exceptSearchResults →
              ∃ finishedAt sessionFinishedAt,
                ((markFaceSearchSessionDoneIfJobsDone searchSessionId >>= fun _ =>
                  Request.commit).run u).1 = .ok () ∧
                ((markFaceSearchSessionDoneIfJobsDone searchSessionId >>= fun _ =>
                  Request.commit).run u).2.committed.exceptSearchResults =
                    (s.current.finishFaceSearchJob job searchSessionId searchImageId
                      (searchDiagnostics result n) (s.flushed.searchJobStatuses searchSessionId)
                      finishedAt sessionFinishedAt).exceptSearchResults := by
            intro u huf huc
            have huc' : u.current.exceptSearchResults =
                ((s.current.setSearchImage searchImageId .ready none).putJob (completedJob job
                  (searchDiagnostics result n) (t.world.clock 0))).exceptSearchResults :=
              huc.trans (congrArg (fun db : Database F =>
                (db.setSearchImage searchImageId .ready none).putJob (completedJob job
                  (searchDiagnostics result n) (t.world.clock 0))) hcur)
            obtain ⟨finishedAt, hok, hcommitted⟩ := run_finishFaceSearch searchSessionId
              (huf.trans hf) huc'
            exact ⟨t.world.clock 0, finishedAt, hok, hcommitted⟩
          by_cases hsome : session.participantId.isSome = true
          · simp only [if_pos hsome]
            rcases Request.Keeps.run_bind
              (keeps_applyAdaptiveReinforcement cfg session false).discard _ with
              ⟨he, hu⟩ | ⟨_, u, hurun, hu, huf, huc⟩
            · exact Or.inl ⟨he, hu.trans hc⟩
            · rw [hurun]
              obtain ⟨finishedAt, sessionFinishedAt, hok, hcommitted⟩ := hmarked u huf huc
              exact Or.inr ⟨n, finishedAt, sessionFinishedAt, by simpa using hempty, hfits, hok,
                hcommitted⟩
          · simp only [if_neg hsome]
            obtain ⟨finishedAt, sessionFinishedAt, hok, hcommitted⟩ := hmarked
              ((t.assign fun db => db.setSearchImage searchImageId .ready none).tick.assign
                fun db => db.putJob (completedJob job (searchDiagnostics result n)
                  (t.world.clock 0))) rfl rfl
            exact Or.inr ⟨n, finishedAt, sessionFinishedAt, by simpa using hempty, hfits, hok,
              hcommitted⟩

/-! ## The rows that the lifecycle depends on -/

omit [Scalar F] in
@[simp] theorem markPhoto_jobs (db : Database F) (photoId : Uuid) (statuses : List JobStatus) :
    (db.markPhoto photoId statuses).jobs = db.jobs := by
  unfold Database.markPhoto
  split <;> rfl

omit [Scalar F] in
@[simp] theorem markPhoto_faceSearchSessions (db : Database F) (photoId : Uuid)
    (statuses : List JobStatus) :
    (db.markPhoto photoId statuses).faceSearchSessions = db.faceSearchSessions := by
  unfold Database.markPhoto
  split <;> rfl

omit [Scalar F] in
@[simp] theorem markSearchSession_jobs (db : Database F) (searchSessionId : Uuid)
    (statuses : List JobStatus) (finishedAt : Instant) :
    (db.markSearchSession searchSessionId statuses finishedAt).jobs = db.jobs := by
  unfold Database.markSearchSession
  split
  · rfl
  · split <;> rfl

omit [Scalar F] in
@[simp] theorem markSearchSession_photos (db : Database F) (searchSessionId : Uuid)
    (statuses : List JobStatus) (finishedAt : Instant) :
    (db.markSearchSession searchSessionId statuses finishedAt).photos = db.photos := by
  unfold Database.markSearchSession
  split
  · rfl
  · split <;> rfl

omit [Scalar F] in
@[simp] theorem finishPhotoJob_jobs (db : Database F) (photo : Photo) (job : Job F)
    (rawResponseJson : JsonDict F) (finishedAt : Instant) :
    (db.finishPhotoJob photo job rawResponseJson finishedAt).jobs =
      db.jobs.put (completedJob job rawResponseJson finishedAt) :=
  markPhoto_jobs _ _ _

omit [Scalar F] in
@[simp] theorem finishPhotoJob_faceSearchSessions (db : Database F) (photo : Photo) (job : Job F)
    (rawResponseJson : JsonDict F) (finishedAt : Instant) :
    (db.finishPhotoJob photo job rawResponseJson finishedAt).faceSearchSessions =
      db.faceSearchSessions :=
  markPhoto_faceSearchSessions _ _ _

/-- Recording text matches writes final matches only. -/
theorem matchTextDetections_eq (db : Database F) (photo : Photo)
    (rows : List (PhotoTextDetection F)) :
    db.matchTextDetections photo rows =
      { db with
        photoParticipantMatches := upsertedMatches db.photoParticipantMatches
          (ocrMatches Face.normalizeMatchToken Face.extractMatchCandidates photo
            (db.participantsOf photo.eventId) rows) } :=
  Database.upsertMatches_eq db _

/-- The findings of an enrolment. -/
def Database.enrolmentFindings (cfg : Settings F) (db : Database F)
    (participantId eventId : Uuid) : List (PhotoFaceDetection F × (Uuid × F)) :=
  faceFindings cfg
    (db.participantFaceEmbeddings.rows.filter fun e =>
      e.eventId == eventId && e.participantId == participantId)
    (db.photoFaceDetections.rows.filter fun d => d.eventId == eventId)

/-- Recording face matches writes the two match tables only. -/
theorem matchParticipant_eq (cfg : Settings F) (db : Database F) (participantId eventId : Uuid) :
    db.matchParticipant cfg participantId eventId =
      { db with
        faceParticipantMatches := upsertedFaceMatches db.faceParticipantMatches
          ((db.enrolmentFindings cfg participantId eventId).map fun f =>
            faceMatch f.1 f.2.1 f.2.2)
        photoParticipantMatches := upsertedMatches db.photoParticipantMatches
          ((db.enrolmentFindings cfg participantId eventId).map fun f =>
            faceEvidence f.1 f.2.1 f.2.2) } :=
  foldl_recordFaceMatches cfg _ _ db

end RaceFrame
