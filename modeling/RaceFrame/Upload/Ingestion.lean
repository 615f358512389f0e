import RaceFrame.Upload.Admission
import RaceFrame.Upload.ImageChecks

/-!
# Ingestion of uploads

`ingest_photo_upload`, `ingest_participant_selfie_upload` and
`ingest_face_search_upload` over two systems without a common transaction: the
object storage, of which the model keeps the keys, and the committed rows. Every
call to either of them may raise; how each ends is given in advance.
-/

namespace RaceFrame

open Core

/-! ## Rows -/

/-- A row of `photos`, with the columns that only uploads use. -/
structure StoredPhoto where
  photo : Photo
  thumbnailObjectKey : Option Text
  fileSize : Nat
  checksumSha256 : Option Text
  idempotencyKey : Option Text
  deriving DecidableEq

namespace StoredPhoto

/-- The primary key. -/
def id (row : StoredPhoto) : Uuid := row.photo.id

/-- The columns of `uq_photos_event_idempotency_key`, which skips null keys. -/
def eventIdempotencyKey (row : StoredPhoto) : Option (Uuid × Text) :=
  row.idempotencyKey.map (row.photo.eventId, ·)

/-- The columns of `uq_photos_event_checksum_sha256`, which skips null checksums. -/
def eventChecksum (row : StoredPhoto) : Option (Uuid × Text) :=
  row.checksumSha256.map (row.photo.eventId, ·)

end StoredPhoto

/-- The tables that uploads write, with their unique indexes. -/
structure UploadRows (F : Type) where
  photos : Table StoredPhoto StoredPhoto.id
  idempotencyKeys_nodup : (photos.rows.filterMap StoredPhoto.eventIdempotencyKey).Nodup
  checksums_nodup : (photos.rows.filterMap StoredPhoto.eventChecksum).Nodup
  jobs : Table (Job F) Job.key
  participantFaceImages : Table ParticipantFaceImage ParticipantFaceImage.id
  faceSearchSessions : Table FaceSearchSession FaceSearchSession.id
  faceSearchImages : Table FaceSearchImage FaceSearchImage.id

namespace UploadRows

variable {F : Type}

/-- The tables without rows. -/
def empty : UploadRows F where
  photos := .empty
  idempotencyKeys_nodup := List.nodup_nil
  checksums_nodup := List.nodup_nil
  jobs := .empty
  participantFaceImages := .empty
  faceSearchSessions := .empty
  faceSearchImages := .empty

/-- The number of jobs of a table that are queued or processing. -/
def backlog (rows : UploadRows F) (kind : JobKind) : Nat :=
  rows.jobs.rows.countP fun job => job.ref.kind == kind && !job.status.isTerminal

/-- Insert a photo and its jobs: refused when one of the unique indexes is violated. -/
def insertPhoto? (rows : UploadRows F) (photo : StoredPhoto) (jobs : List (Job F)) :
    Option (UploadRows F) := do
  let photos ← rows.photos.insert? photo
  let jobs ← rows.jobs.insertAll? jobs
  if h : (photos.rows.filterMap StoredPhoto.eventIdempotencyKey).Nodup ∧
      (photos.rows.filterMap StoredPhoto.eventChecksum).Nodup then
    some { rows with
      photos := photos
      idempotencyKeys_nodup := h.1
      checksums_nodup := h.2
      jobs := jobs }
  else none

/-- Insert a selfie and its job. -/
def insertFaceImage? (rows : UploadRows F) (image : ParticipantFaceImage) (job : Job F) :
    Option (UploadRows F) := do
  let images ← rows.participantFaceImages.insert? image
  let jobs ← rows.jobs.insert? job
  return { rows with participantFaceImages := images, jobs := jobs }

/-- Insert a search image and its job, and the session if the upload has created it. -/
def insertSearchImage? (rows : UploadRows F) (created : Option FaceSearchSession)
    (image : FaceSearchImage) (job : Job F) : Option (UploadRows F) := do
  let sessions ← rows.faceSearchSessions.insertAll? created.toList
  let images ← rows.faceSearchImages.insert? image
  let jobs ← rows.jobs.insert? job
  return { rows with faceSearchSessions := sessions, faceSearchImages := images, jobs := jobs }

end UploadRows

/-! ## Calls -/

/-- How a call outside the process ends. -/
inductive CallOutcome
  | returns
  | raises
  /-- It raises although it has taken effect, as a delete may. -/
  | raisesLate
  deriving DecidableEq

/-- The calls that can raise. -/
inductive ExternalCall
  | put (objectKey : Text)
  | delete (objectKey : Text)
  | commit
  /-- The refreshes after the commit, in order. -/
  | refresh (n : Nat)
  deriving DecidableEq

/-- What an upload works on. -/
structure UploadState (F : Type) where
  world : World
  /-- How each call of the upload ends. -/
  outcomes : ExternalCall → CallOutcome
  /-- The committed rows. -/
  rows : UploadRows F
  /-- The keys of the stored objects. -/
  objects : List Text
  /-- The keys that the upload has stored. -/
  putKeys : List Text
  /-- The keys that the upload has been the target of a `delete_object` call for. -/
  deleteTargets : List Text

/-- A function that ingests an upload. -/
abbrev Ingest (F α : Type) := Program (UploadState F) Raised α

namespace Ingest

variable {F α : Type}

/-- `put_object`: what raises stores nothing. -/
def putObject (objectKey : Text) : Ingest F Unit := do
  let outcome ← Program.gets fun s => s.outcomes (.put objectKey)
  if outcome = .returns then
    Program.modify fun s =>
      { s with objects := objectKey :: s.objects, putKeys := objectKey :: s.putKeys }
  else Program.raise (.runtimeError "put_object")

/-- `delete_object`. -/
def deleteObject (objectKey : Text) : Ingest F Unit :=
  if objectKey.isEmpty then return ()
  else do
    Program.modify fun s => { s with deleteTargets := objectKey :: s.deleteTargets }
    let outcome ← Program.gets fun s => s.outcomes (.delete objectKey)
    if outcome ≠ .raises then
      Program.modify fun s => { s with objects := s.objects.filter (· != objectKey) }
    if outcome ≠ .returns then Program.raise (.runtimeError "delete_object")

/-- `session.commit()` with its flush: what raises persists nothing. -/
def commit (change : UploadRows F → Option (UploadRows F)) : Ingest F Unit := do
  let changed ← Program.gets fun s => change s.rows
  match changed with
  | none => Program.raise .integrityError
  | some rows =>
    let outcome ← Program.gets fun s => s.outcomes .commit
    if outcome = .returns then Program.modify fun s => { s with rows := rows }
    else Program.raise (.runtimeError "commit")

/-- `session.refresh`. -/
def refresh (n : Nat) : Ingest F Unit := do
  let outcome ← Program.gets fun s => s.outcomes (.refresh n)
  if outcome = .returns then return () else Program.raise (.runtimeError "refresh")

/-- `uuid.uuid4()`. -/
def uuid4 : Ingest F Uuid := do
  let id ← Program.gets fun s => s.world.uuids 0
  Program.modify fun s => { s with world := s.world.draw 1 }
  return id

/-- `utc_now()`, the default of `created_at`. -/
def utcNow : Ingest F Instant := do
  let now ← Program.gets fun s => s.world.clock 0
  Program.modify fun s => { s with world := s.world.tick }
  return now

/-- The compensation: each object is deleted, and what that raises is logged. -/
def compensate (objectKeys : List Text) : Ingest F Unit :=
  objectKeys.forM fun objectKey => do
    let _ ← Program.attempt (deleteObject objectKey)
    return ()

end Ingest

/-! ## Photos -/

structure UploadedPhotoResult where
  fileName : Text
  photo : Option StoredPhoto
  success : Bool
  message : String
  deriving DecidableEq

/-- What an upload of a photo reads from outside. -/
structure UploadConfig where
  tools : ImageTools
  limits : ImageLimits
  settings : UploadSettings

variable {F : Type} (cfg : UploadConfig)

/-- The checks of `ingest_photo_upload`. -/
def validatePhoto (fileName contentType : Text) (content : Bytes) :
    Except String ValidatedImage := do
  validateImageUpload cfg.tools cfg.limits fileName contentType content.length
  validateImageBytes cfg.tools cfg.limits content fileName contentType
    cfg.limits.maxPhotoUploadBytes

/-- `(idempotency_key or "").strip()[:128] or None`. -/
def normalizeIdempotencyKey (idempotencyKey : Option Text) : Option Text :=
  let key := (strip (idempotencyKey.getD [])).take 128
  if key.isEmpty then none else some key

/-- The rows that the query for an existing photo selects. -/
def UploadRows.existingPhotos (rows : UploadRows F) (eventId : Uuid)
    (idempotencyKey : Option Text) (sha256 : Text) : List StoredPhoto :=
  match idempotencyKey with
  | some key => rows.photos.rows.filter fun row => row.eventIdempotencyKey == some (eventId, key)
  | none => rows.photos.rows.filter fun row => row.eventChecksum == some (eventId, sha256)

/-- `Result.scalar_one_or_none()`. -/
def Ingest.scalarOneOrNone {α : Type} (rows : List α) : Ingest F (Option α) :=
  match rows with
  | [] => pure none
  | [row] => pure (some row)
  | _ :: _ :: _ => Program.raise .multipleResultsFound

/-- `ingest_photo_upload`: the objects of a new photo. -/
def storePhotoObjects (content : Bytes) (objectKey thumbnailObjectKey : Text) : Ingest F Unit := do
  match cfg.tools.createPhotoThumbnail content with
  | none => Program.raise (.runtimeError "create_photo_thumbnail")
  | some _ =>
    Ingest.putObject objectKey
    Ingest.putObject thumbnailObjectKey

/-- `ingest_photo_upload`: the rows of a new photo. -/
def publishPhotoRows (photo : StoredPhoto) : Ingest F StoredPhoto := do
  let ocrJobId ← Ingest.uuid4
  let faceJobId ← Ingest.uuid4
  let createdAt ← Ingest.utcNow
  let ocrCreatedAt ← Ingest.utcNow
  let faceCreatedAt ← Ingest.utcNow
  let photo := { photo with photo.createdAt := createdAt }
  Ingest.commit fun rows => rows.insertPhoto? photo
    [.queued ocrJobId (.photo photo.id .ocr) cfg.settings.workerMaxAttempts ocrCreatedAt,
      .queued faceJobId (.photo photo.id .facePhotoScan) cfg.settings.workerMaxAttempts
        faceCreatedAt]
  Ingest.refresh 0
  return photo

/-- `ingest_photo_upload`: a photo that is not there yet. -/
def ingestNewPhoto (eventId : Uuid) (fileName contentType : Text) (content : Bytes)
    (idempotencyKey : Option Text) (sha256 : Text) : Ingest F UploadedPhotoResult := do
  let photoId ← Ingest.uuid4
  let objectKey := buildOriginalObjectKey cfg.tools eventId photoId fileName
  let thumbnailObjectKey := buildThumbnailObjectKey eventId photoId fileName
  match ← Program.attempt (storePhotoObjects cfg content objectKey thumbnailObjectKey) with
  | .error _ =>
    Ingest.compensate [thumbnailObjectKey, objectKey]
    return ⟨fileName, none, false, "The photo could not be stored. Please retry later."⟩
  | .ok () =>
    let photo : StoredPhoto :=
      { photo := ⟨photoId, eventId, objectKey, fileName, contentType, .processing, 0⟩
        thumbnailObjectKey := some thumbnailObjectKey
        fileSize := content.length
        checksumSha256 := some sha256
        idempotencyKey := idempotencyKey }
    match ← Program.attempt (publishPhotoRows cfg photo) with
    | .ok photo =>
      return ⟨fileName, some photo, true, "Uploaded and queued for OCR and face recognition."⟩
    | .error _ =>
      Ingest.compensate [thumbnailObjectKey, objectKey]
      return ⟨fileName, none, false, "The photo could not be queued. Please retry later."⟩

/-- `ingest_photo_upload`. -/
def ingestPhotoUpload (eventId : Uuid) (fileName contentType : Text) (content : Bytes)
    (idempotencyKey : Option Text) : Ingest F UploadedPhotoResult := do
  let fileName := strip fileName
  if fileName.isEmpty then
    return ⟨"Unnamed file".toList, none, false, "Missing file name."⟩
  else
    match validatePhoto cfg fileName contentType content with
    | .error message => return ⟨fileName, none, false, message⟩
    | .ok image =>
      let idempotencyKey := normalizeIdempotencyKey idempotencyKey
      let rows ← Program.gets fun s => s.rows
      match ← Ingest.scalarOneOrNone (rows.existingPhotos eventId idempotencyKey image.sha256) with
      | some existing =>
        return ⟨fileName, some existing, true,
          "This photo was already accepted; the existing upload was reused."⟩
      | none =>
        if cfg.settings.maxPhotoJobBacklog ≤ rows.backlog .photo then
          return ⟨fileName, none, false,
            "The processing queue is currently full. Please retry later."⟩
        else
          ingestNewPhoto cfg eventId fileName image.contentType content idempotencyKey image.sha256

end RaceFrame
