import RaceFrame.Upload.Ingestion

/-!
# Ingestion of selfies

`ingest_participant_selfie_upload` and `ingest_face_search_upload`, over the same
two systems as the photos: the object is stored, the rows are committed and
refreshed, and what is raised in between is compensated. The columns that only
other functions use (`file_size`, `expires_at`) are left out of the rows.
-/

namespace RaceFrame

open Core

variable {F : Type}

/-- `session.flush()` of new rows: the indexes are checked, nothing is persisted yet. -/
def Ingest.flush (change : UploadRows F → Option (UploadRows F)) : Ingest F Unit := do
  let changed ← Program.gets fun s => change s.rows
  match changed with
  | none => Program.raise .integrityError
  | some _ => return ()

/-- Insert a search session. -/
def UploadRows.insertSession? (rows : UploadRows F) (searchSession : FaceSearchSession) :
    Option (UploadRows F) := do
  let sessions ← rows.faceSearchSessions.insert? searchSession
  return { rows with faceSearchSessions := sessions }

variable (cfg : UploadConfig)

/-- The checks of both functions. -/
def validateSelfie (fileName contentType : Text) (content : Bytes) :
    Except String ValidatedImage := do
  validateSelfieUpload cfg.tools cfg.limits fileName contentType content.length
  validateImageBytes cfg.tools cfg.limits content fileName contentType
    cfg.limits.maxSelfieUploadBytes

/-! ## Selfies of participants -/

structure FaceSelfieUploadResult where
  fileName : Text
  faceImage : Option ParticipantFaceImage
  success : Bool
  message : String
  deriving DecidableEq

/-- `ingest_participant_selfie_upload`: the rows of a selfie. -/
def publishSelfieRows (faceImage : ParticipantFaceImage) : Ingest F Unit := do
  let jobId ← Ingest.uuid4
  let createdAt ← Ingest.utcNow
  Ingest.commit fun rows => rows.insertFaceImage? faceImage
    (.queued jobId (.participantFace faceImage.eventId faceImage.participantId faceImage.id)
      cfg.settings.workerMaxAttempts createdAt)
  Ingest.refresh 0

/-- `ingest_participant_selfie_upload`: a selfie that passes the checks. -/
def ingestNewSelfie (participant : Participant) (fileName contentType : Text) :
    Ingest F FaceSelfieUploadResult := do
  let faceImageId ← Ingest.uuid4
  let objectKey := buildFaceSelfieObjectKey cfg.tools participant.eventId participant.id
    faceImageId fileName
  match ← Program.attempt (Ingest.putObject objectKey) with
  | .error _ =>
    return ⟨fileName, none, false, "The selfie could not be stored. Please try again later."⟩
  | .ok () =>
    let faceImage : ParticipantFaceImage :=
      ⟨faceImageId, participant.eventId, participant.id, objectKey, fileName, contentType, .queued,
        none⟩
    match ← Program.attempt (publishSelfieRows cfg faceImage) with
    | .ok () =>
      return ⟨fileName, some faceImage, true, "Selfie uploaded and queued for face enrollment."⟩
    | .error _ =>
      Ingest.compensate [objectKey]
      return ⟨fileName, none, false, "The selfie could not be queued. Please try again later."⟩

/-- `ingest_participant_selfie_upload`. -/
def ingestParticipantSelfieUpload (participant : Participant) (fileName contentType : Text)
    (content : Bytes) : Ingest F FaceSelfieUploadResult := do
  let fileName := strip fileName
  if fileName.isEmpty then
    return ⟨"Unnamed selfie".toList, none, false, "Missing file name."⟩
  else
    match validateSelfie cfg fileName contentType content with
    | .error message => return ⟨fileName, none, false, message⟩
    | .ok image => ingestNewSelfie cfg participant fileName image.contentType

/-! ## Searches -/

structure FaceSearchUploadResult where
  fileName : Text
  searchSession : Option FaceSearchSession
  searchImage : Option FaceSearchImage
  success : Bool
  message : String
  deriving DecidableEq

/-- `ingest_face_search_upload`: the session of the search, which the first file creates. -/
def openSearchSession (eventId : Uuid) (searchSession : Option FaceSearchSession)
    (participant : Option Participant) : Ingest F FaceSearchSession :=
  match searchSession with
  | some searchSession => return searchSession
  | none => do
    let id ← Ingest.uuid4
    let searchSession : FaceSearchSession :=
      ⟨id, eventId, participant.map (·.id), .queued, none⟩
    Ingest.flush fun rows => rows.insertSession? searchSession
    return searchSession

/-- `ingest_face_search_upload`: the rows of a search image. -/
def publishSearchRows (created : Option FaceSearchSession) (searchImage : FaceSearchImage) :
    Ingest F Unit := do
  let jobId ← Ingest.uuid4
  let createdAt ← Ingest.utcNow
  Ingest.commit fun rows => rows.insertSearchImage? created searchImage
    (.queued jobId
      (.faceSearch searchImage.eventId searchImage.searchSessionId searchImage.id)
      cfg.settings.workerMaxAttempts createdAt)
  Ingest.refresh 0
  Ingest.refresh 1

/-- `ingest_face_search_upload`: a file of an open session. -/
def ingestNewSearchImage (eventId : Uuid) (searchSession : Option FaceSearchSession)
    (opened : FaceSearchSession) (fileName contentType : Text) :
    Ingest F FaceSearchUploadResult := do
  let searchImageId ← Ingest.uuid4
  let objectKey := buildFaceSearchObjectKey cfg.tools eventId opened.id searchImageId fileName
  match ← Program.attempt (Ingest.putObject objectKey) with
  | .error _ =>
    return ⟨fileName, searchSession, none, false,
      "The selfie could not be stored. Please try again later."⟩
  | .ok () =>
    let searchImage : FaceSearchImage :=
      ⟨searchImageId, eventId, opened.id, objectKey, fileName, contentType, .queued, none⟩
    let created := if searchSession.isNone then some opened else none
    match ← Program.attempt (publishSearchRows cfg created searchImage) with
    | .ok () =>
      return ⟨fileName, some opened, some searchImage, true,
        "Face photo uploaded and queued for search."⟩
    | .error _ =>
      Ingest.compensate [objectKey]
      return ⟨fileName, none, none, false,
        "The selfie could not be queued. Please try again later."⟩

/-- `ingest_face_search_upload`. -/
def ingestFaceSearchUpload (eventId : Uuid) (searchSession : Option FaceSearchSession)
    (participant : Option Participant) (fileName contentType : Text) (content : Bytes) :
    Ingest F FaceSearchUploadResult := do
  let fileName := strip fileName
  if fileName.isEmpty then
    return ⟨"Unnamed face photo".toList, searchSession, none, false, "Missing file name."⟩
  else
    let activeJobs ← Program.gets fun s => s.rows.backlog .faceSearch
    if cfg.settings.maxFaceSearchBacklog ≤ activeJobs then
      return ⟨fileName, searchSession, none, false,
        "The face-search queue is full. Please retry later."⟩
    else
      match validateSelfie cfg fileName contentType content with
      | .error message => return ⟨fileName, searchSession, none, false, message⟩
      | .ok image =>
        let opened ← openSearchSession eventId searchSession participant
        ingestNewSearchImage cfg eventId searchSession opened fileName image.contentType

end RaceFrame
