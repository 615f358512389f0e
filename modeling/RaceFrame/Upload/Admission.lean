import Mathlib.Algebra.BigOperators.Group.List.Basic
import Mathlib.Data.List.Perm.Subperm
import Mathlib.Logic.Relation
import RaceFrame.Worker.Runs

/-!
# Admission to the job queues

Upload requests beside each other and beside the workers, one statement at a
time: the capacity check of a request, the count before each file and the commit
that inserts the jobs of a file. Both checks read the backlog and hold nothing,
so that what is checked may be full when it is used.
-/

namespace RaceFrame

open Core

variable {F : Type}

/-- The settings that uploads read. -/
structure UploadSettings where
  maxPhotoJobBacklog : Nat
  maxFaceSearchBacklog : Nat
  maxPhotoBatchFiles : Nat
  maxSelfieBatchFiles : Nat
  workerMaxAttempts : Nat

/-- The number of jobs of a table that are queued or processing. -/
def Database.backlog (db : Database F) (kind : JobKind) : Nat :=
  db.jobs.rows.countP fun job => job.ref.kind == kind && !job.status.isTerminal

/-- `ensure_job_capacity`. -/
def ensureJobCapacity (db : Database F) (kind : JobKind) (limit expectedNewJobs : Nat)
    (detail : String) : Except Raised Unit :=
  if limit < db.backlog kind + expectedNewJobs then .error (.httpException 503 detail)
  else .ok ()

/-- The commit of `ingest_photo_upload`: a photo and its two jobs. -/
def Database.publishPhoto (db : Database F) (cfg : UploadSettings) (photo : Photo)
    (ocrJobId faceJobId : Uuid) (createdAt : Instant) : Option (Database F) := do
  let photos ← db.photos.insert? photo
  let jobs ← db.jobs.insertAll?
    [.queued ocrJobId (.photo photo.id .ocr) cfg.workerMaxAttempts createdAt,
      .queued faceJobId (.photo photo.id .facePhotoScan) cfg.workerMaxAttempts createdAt]
  return { db with photos := photos, jobs := jobs }

/-- The commit of `ingest_face_search_upload`: an image with its job, and the session when the
file is the first of its request. -/
def Database.publishSearchImage (db : Database F) (cfg : UploadSettings)
    (created : Option FaceSearchSession) (image : FaceSearchImage) (jobId : Uuid)
    (createdAt : Instant) : Option (Database F) := do
  let sessions ← db.faceSearchSessions.insertAll? created.toList
  let images ← db.faceSearchImages.insert? image
  let jobs ← db.jobs.insert?
    (.queued jobId (.faceSearch image.eventId image.searchSessionId image.id)
      cfg.workerMaxAttempts createdAt)
  return { db with faceSearchSessions := sessions, faceSearchImages := images, jobs := jobs }

/-! ## Requests -/

/-- Where an upload request stands, with the number of its files that are left. -/
inductive UploadStage
  /-- Before the capacity check. -/
  | submitted (files : Nat)
  /-- Before the next file. -/
  | ingesting (files : Nat)
  /-- Between the count of a file and its commit. -/
  | storing (files : Nat)
  /-- Answered. -/
  | ended
  deriving DecidableEq

/-- A queue as the upload routes see it. -/
structure UploadQueue (F : Type) where
  kind : JobKind
  limit : Nat
  jobsPerFile : Nat
  batchFiles : Nat
  detail : String
  /-- What the commit of a file may do. -/
  Publishes : Database F → Database F → Prop

/-- `photographer_upload_action` and `ingest_photo_upload`. -/
def UploadSettings.photoQueue (cfg : UploadSettings) : UploadQueue F where
  kind := .photo
  limit := cfg.maxPhotoJobBacklog
  jobsPerFile := 2
  batchFiles := cfg.maxPhotoBatchFiles
  detail := "Photo processing is temporarily full. Please retry after queued work finishes."
  Publishes db db' := ∃ photo ocrJobId faceJobId createdAt,
    db.publishPhoto cfg photo ocrJobId faceJobId createdAt = some db'

/-- `user_upload_selfies_by_search` and `ingest_face_search_upload`. -/
def UploadSettings.searchQueue (cfg : UploadSettings) : UploadQueue F where
  kind := .faceSearch
  limit := cfg.maxFaceSearchBacklog
  jobsPerFile := 1
  batchFiles := cfg.maxSelfieBatchFiles
  detail := "Search processing is temporarily full. Please retry shortly."
  Publishes db db' := ∃ created image jobId createdAt,
    db.publishSearchImage cfg created image jobId createdAt = some db'

/-- One statement of a request. What a file holds is left open: it may be invalid, or accepted
before, and its objects may fail to be stored. -/
inductive UploadMove (q : UploadQueue F) (db : Database F) :
    UploadStage → Database F → UploadStage → Prop
  /-- `ensure_job_capacity` returns. -/
  | enter {files : Nat}
    (capacity : ensureJobCapacity db q.kind q.limit (files * q.jobsPerFile) q.detail = .ok ()) :
    UploadMove q db (.submitted files) db (.ingesting files)
  /-- `ensure_job_capacity` raises. -/
  | refuse {files : Nat} {raised : Raised}
    (capacity : ensureJobCapacity db q.kind q.limit (files * q.jobsPerFile) q.detail =
      .error raised) : UploadMove q db (.submitted files) db .ended
  /-- A file that is invalid or was accepted before. -/
  | skip {files : Nat} : UploadMove q db (.ingesting (files + 1)) db (.ingesting files)
  /-- The count finds the queue full. -/
  | full {files : Nat} (count : q.limit ≤ db.backlog q.kind) :
    UploadMove q db (.ingesting (files + 1)) db (.ingesting files)
  /-- The count finds room. -/
  | count {files : Nat} (count : db.backlog q.kind < q.limit) :
    UploadMove q db (.ingesting (files + 1)) db (.storing files)
  /-- Storing the objects or committing the rows fails. -/
  | lose {files : Nat} : UploadMove q db (.storing files) db (.ingesting files)
  /-- The rows are committed. -/
  | publish {files : Nat} {db' : Database F} (committed : q.Publishes db db') :
    UploadMove q db (.storing files) db' (.ingesting files)
  /-- The request is answered, or an exception ends it. -/
  | finish (stage : UploadStage) : UploadMove q db stage db .ended

/-- A statement of one of the requests, or a new request. -/
inductive QueueStep (q : UploadQueue F) (db : Database F) :
    List UploadStage → Database F → List UploadStage → Prop
  | submit {files : Nat} (batch : files ≤ q.batchFiles) (stages : List UploadStage) :
    QueueStep q db stages db (.submitted files :: stages)
  | move {stage stage' : UploadStage} {db' : Database F} (before after : List UploadStage)
    (moved : UploadMove q db stage db' stage') :
    QueueStep q db (before ++ stage :: after) db' (before ++ stage' :: after)

/-- The database and the upload requests that are under way. -/
structure UploadSystem (F : Type) where
  db : Database F
  photoUploads : List UploadStage
  searchUploads : List UploadStage

variable [Scalar F]

/-- One step: of an upload of either kind, or a call of a worker. -/
inductive UploadStep (cfg : UploadSettings) (workerCfg : Settings F) :
    UploadSystem F → UploadSystem F → Prop
  | photo {db db' : Database F} {photos photos' : List UploadStage} (searches : List UploadStage)
    (step : QueueStep cfg.photoQueue db photos db' photos') :
    UploadStep cfg workerCfg ⟨db, photos, searches⟩ ⟨db', photos', searches⟩
  | search {db db' : Database F} {searches searches' : List UploadStage} (photos : List UploadStage)
    (step : QueueStep cfg.searchQueue db searches db' searches') :
    UploadStep cfg workerCfg ⟨db, photos, searches⟩ ⟨db', photos, searches'⟩
  | worker (event : Event F) (db : Database F) (photos searches : List UploadStage) :
    UploadStep cfg workerCfg ⟨db, photos, searches⟩
      ⟨(event.serve workerCfg db).2, photos, searches⟩

end RaceFrame
