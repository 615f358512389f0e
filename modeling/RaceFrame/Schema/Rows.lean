import RaceFrame.Schema.Scalar

/-!
# Rows

The rows of `models.py`, with the columns that the modelled functions read or
write. The three job tables have the same lifecycle columns and the worker code
that handles them is generic over the table, so one type `Job` serves all three:
its `ref` says which table the row is in and holds that table's foreign keys.
-/

namespace RaceFrame

/-- A JSON value. -/
inductive Json (F : Type)
  | null
  | bool (b : Bool)
  | int (n : Int)
  | float (x : F)
  | str (s : Text)
  | list (items : List (Json F))
  | dict (entries : List (String × Json F))

/-- A JSON object. -/
abbrev JsonDict (F : Type) := List (String × Json F)

/-- `ck_photo_jobs_status` and its two siblings. -/
inductive JobStatus
  | queued | processing | completed | failed | deadLettered
  deriving DecidableEq, Repr

/-- Membership in `TERMINAL_JOB_STATUSES`. -/
def JobStatus.isTerminal : JobStatus → Bool
  | .completed | .failed | .deadLettered => true
  | .queued | .processing => false

/-- `ck_photo_jobs_job_type`. -/
inductive PhotoJobType
  | ocr | facePhotoScan
  deriving DecidableEq, Repr

/-- The three job tables. -/
inductive JobKind
  | photo | participantFace | faceSearch
  deriving DecidableEq, Repr

/-- The table of a job row and the foreign keys it has there. -/
inductive JobRef
  | photo (photoId : Uuid) (jobType : PhotoJobType)
  | participantFace (eventId participantId faceImageId : Uuid)
  | faceSearch (eventId searchSessionId searchImageId : Uuid)
  deriving DecidableEq, Repr

/-- The table of a job. -/
def JobRef.kind : JobRef → JobKind
  | .photo .. => .photo
  | .participantFace .. => .participantFace
  | .faceSearch .. => .faceSearch

/-- A row of `photo_jobs`, `participant_face_jobs` or `face_search_jobs`. -/
structure Job (F : Type) where
  id : Uuid
  ref : JobRef
  status : JobStatus
  attemptCount : Nat
  maxAttempts : Nat
  attemptId : Option Uuid
  claimedAt : Option Instant
  leaseExpiresAt : Option Instant
  retryAfter : Option Instant
  deadLetteredAt : Option Instant
  errorMessage : Option Text
  rawResponseJson : Option (JsonDict F)
  createdAt : Instant
  finishedAt : Option Instant

/-- The row of a new job. -/
def Job.queued {F : Type} (id : Uuid) (ref : JobRef) (maxAttempts : Nat) (createdAt : Instant) :
    Job F where
  id := id
  ref := ref
  status := .queued
  attemptCount := 0
  maxAttempts := maxAttempts
  attemptId := none
  claimedAt := none
  leaseExpiresAt := none
  retryAfter := none
  deadLetteredAt := none
  errorMessage := none
  rawResponseJson := none
  createdAt := createdAt
  finishedAt := none

/-- The table and primary key of a job row. -/
abbrev JobKey := JobKind × Uuid

/-- A job row is identified by its table and its primary key there. -/
def Job.key {F : Type} (job : Job F) : JobKey := (job.ref.kind, job.id)

/-- `ck_photos_status`. -/
inductive PhotoStatus
  | uploaded | processing | ready | partiallyReady | failed | deleting
  deriving DecidableEq, Repr

structure Photo where
  id : Uuid
  eventId : Uuid
  originalObjectKey : Text
  fileName : Text
  contentType : Text
  status : PhotoStatus
  createdAt : Instant
  deriving DecidableEq, Repr

structure Participant where
  id : Uuid
  eventId : Uuid
  bibNumber : Text
  fullName : Text
  bibLookup : Text
  nameLookup : Text
  deriving DecidableEq, Repr

structure PhotoTextDetection (F : Type) where
  photoId : Uuid
  photoJobId : Uuid
  detectedText : Text
  normalizedText : Text
  confidence : Option F
  boundingBoxJson : Option (JsonDict F)

structure PhotoFaceDetection (F : Type) where
  id : Uuid
  eventId : Uuid
  photoId : Uuid
  photoJobId : Uuid
  faceIndex : Nat
  embeddingJson : List F
  boundingBoxJson : Option (JsonDict F)
  detectionScore : Option F
  qualityScore : Option F

/-- `ck_photo_participant_match_source`. -/
inductive MatchSource
  | ocr | face | ocrFace
  deriving DecidableEq, Repr

/-- The text stored for a source. -/
def MatchSource.toText : MatchSource → Text
  | .ocr => "ocr".toList
  | .face => "face".toList
  | .ocrFace => "ocr+face".toList

structure PhotoParticipantMatch (F : Type) where
  eventId : Uuid
  photoId : Uuid
  participantId : Uuid
  matchSource : MatchSource
  matchedValue : Text
  confidence : Option F
  deriving DecidableEq

/-- `uq_photo_participant_matches_photo_participant`. -/
def PhotoParticipantMatch.key {F : Type} (row : PhotoParticipantMatch F) : Uuid × Uuid :=
  (row.photoId, row.participantId)

structure FaceParticipantMatch (F : Type) where
  eventId : Uuid
  photoId : Uuid
  photoFaceDetectionId : Uuid
  participantId : Uuid
  similarityScore : F
  deriving DecidableEq

/-- `uq_face_participant_matches_detection_participant`. -/
def FaceParticipantMatch.key {F : Type} (row : FaceParticipantMatch F) : Uuid × Uuid :=
  (row.photoFaceDetectionId, row.participantId)

/-- `ck_participant_face_images_status` and `ck_face_search_images_status`. -/
inductive ImageStatus
  | queued | processing | ready | failed
  deriving DecidableEq, Repr

structure ParticipantFaceImage where
  id : Uuid
  eventId : Uuid
  participantId : Uuid
  objectKey : Text
  fileName : Text
  contentType : Text
  status : ImageStatus
  errorMessage : Option Text
  deriving DecidableEq, Repr

structure ParticipantFaceEmbedding (F : Type) where
  eventId : Uuid
  participantId : Uuid
  faceImageId : Uuid
  embeddingJson : List F
  boundingBoxJson : Option (JsonDict F)
  detectionScore : Option F
  qualityScore : Option F

/-- `ck_face_search_sessions_status`. -/
inductive SessionStatus
  | queued | processing | completed | failed | expired
  deriving DecidableEq, Repr

structure FaceSearchSession where
  id : Uuid
  eventId : Uuid
  participantId : Option Uuid
  status : SessionStatus
  finishedAt : Option Instant
  deriving DecidableEq, Repr

structure FaceSearchImage where
  id : Uuid
  eventId : Uuid
  searchSessionId : Uuid
  objectKey : Text
  fileName : Text
  contentType : Text
  status : ImageStatus
  errorMessage : Option Text
  deriving DecidableEq, Repr

structure FaceSearchResult (F : Type) where
  eventId : Uuid
  searchSessionId : Uuid
  photoId : Uuid
  photoFaceDetectionId : Uuid
  similarityScore : F
  deriving DecidableEq

/-- `uq_face_search_results_session_detection`. -/
def FaceSearchResult.key {F : Type} (row : FaceSearchResult F) : Uuid × Uuid :=
  (row.searchSessionId, row.photoFaceDetectionId)

end RaceFrame
