import RaceFrame.Worker.Jobs

/-!
# The worker API

The routes of `worker_api.py` on job rows, and the calls a worker can send. Every
call is served by a session of its own; `WorkerCall.serve` is the effect of one
call on the database.
-/

namespace RaceFrame

open Core

variable {F : Type}

/-- `str(uuid)`: 32 hexadecimal digits in groups of 8, 4, 4, 4 and 12. -/
def uuidText (id : Uuid) : Text :=
  let digits := (Nat.toDigits 16 id).leftpad 32 '0'
  digits.take 8 ++ ['-'] ++ (digits.drop 8).take 4 ++ ['-'] ++ (digits.drop 12).take 4 ++ ['-'] ++
    (digits.drop 16).take 4 ++ ['-'] ++ digits.drop 20

/-- The text of a photo job type. -/
def PhotoJobType.toText : PhotoJobType → Text
  | .ocr => "ocr".toList
  | .facePhotoScan => "face_photo_scan".toList

/-- The `job_type` column. -/
def JobRef.jobType : JobRef → Text
  | .photo _ jobType => jobType.toText
  | .participantFace .. => "face_selfie_enroll".toList
  | .faceSearch .. => "face_search_probe".toList

/-- The object that a claimed job is about. -/
structure ClaimObject where
  id : Uuid
  objectKey : Text
  downloadUrl : Option Text
  fileName : Text
  contentType : Text
  deriving DecidableEq

/-- The part of a claim's answer that depends on the table. -/
inductive ClaimSubject
  | photo (eventId : Uuid) (photo : ClaimObject)
  | participantFace (eventId participantId : Uuid) (faceImage : ClaimObject)
  | faceSearch (eventId searchSessionId : Uuid) (faceImage : ClaimObject)
  deriving DecidableEq

/-- `_job_claim_metadata` and the additions of the three claim routes. -/
structure ClaimReply where
  id : Uuid
  jobType : Text
  attemptCount : Nat
  maxAttempts : Nat
  attemptId : Option Uuid
  leaseExpiresAt : Option Instant
  leaseSeconds : Nat
  heartbeatPath : Text
  subject : ClaimSubject
  deriving DecidableEq

/-- `_job_claim_metadata`, for a route that serves `collection`. -/
def jobClaimMetadata (cfg : Settings F) (collection : String) (job : Job F)
    (subject : ClaimSubject) : ClaimReply where
  id := job.id
  jobType := job.ref.jobType
  attemptCount := job.attemptCount
  maxAttempts := job.maxAttempts
  attemptId := job.attemptId
  leaseExpiresAt := job.leaseExpiresAt
  leaseSeconds := cfg.leaseSeconds
  heartbeatPath :=
    "/internal/worker/".toList ++ collection.toList ++ "/".toList ++ uuidText job.id ++
      "/heartbeat".toList
  subject := subject

/-- The description of the object of a claimed job. -/
def claimSubject (job : Job F) : Request F ClaimSubject := do
  let url ← Program.gets fun s => s.world.photoAccessUrl
  match job.ref with
  | .photo photoId _ => do
    let photo ← Request.ofOption .attributeError
      (← Request.loaded fun db => db.photos.get? photoId)
    return .photo photo.eventId ⟨photo.id, photo.originalObjectKey, url photo.originalObjectKey,
      photo.fileName, photo.contentType⟩
  | .participantFace eventId participantId faceImageId => do
    let image ← Request.ofOption .attributeError
      (← Request.loaded fun db => db.participantFaceImages.get? faceImageId)
    return .participantFace eventId participantId ⟨image.id, image.objectKey,
      url image.objectKey, image.fileName, image.contentType⟩
  | .faceSearch eventId searchSessionId searchImageId => do
    let image ← Request.ofOption .attributeError
      (← Request.loaded fun db => db.faceSearchImages.get? searchImageId)
    return .faceSearch eventId searchSessionId ⟨image.id, image.objectKey,
      url image.objectKey, image.fileName, image.contentType⟩

/-- A claim route. -/
def claimRoute (cfg : Settings F) (collection : String) (jobTypeCondition : Job F → Bool) :
    Request F (Option ClaimReply) := do
  match ← claimJob cfg jobTypeCondition with
  | none => return none
  | some job => do
    let subject ← claimSubject job
    return some (jobClaimMetadata cfg collection job subject)

/-- `PhotoJob.job_type.in_(payload.job_types)`. -/
def photoJobCondition (jobTypes : List PhotoJobType) (job : Job F) : Bool :=
  match job.ref with
  | .photo _ jobType => jobTypes.contains jobType
  | _ => false

/-- `claim_photo_job`. -/
def claimPhotoJob (cfg : Settings F) (jobTypes : List PhotoJobType) :
    Request F (Option ClaimReply) :=
  claimRoute cfg "photo-jobs" (photoJobCondition jobTypes)

/-- `claim_participant_face_job`. -/
def claimParticipantFaceJob (cfg : Settings F) : Request F (Option ClaimReply) :=
  claimRoute cfg "face-jobs" fun job => job.ref.kind == .participantFace

/-- `claim_face_search_job`. -/
def claimFaceSearchJob (cfg : Settings F) : Request F (Option ClaimReply) :=
  claimRoute cfg "face-search-jobs" fun job => job.ref.kind == .faceSearch

/-- `heartbeat_photo_job`. -/
def heartbeatPhotoJob (cfg : Settings F) (jobId attemptId : Uuid) : Request F StatusReply := do
  heartbeatJob cfg (← loadPhotoJob jobId) attemptId

/-- `heartbeat_participant_face_job`. -/
def heartbeatParticipantFaceJob (cfg : Settings F) (jobId attemptId : Uuid) :
    Request F StatusReply := do
  heartbeatJob cfg (← loadParticipantFaceJob jobId) attemptId

/-- `heartbeat_face_search_job`. -/
def heartbeatFaceSearchJob (cfg : Settings F) (jobId attemptId : Uuid) :
    Request F StatusReply := do
  heartbeatJob cfg (← loadFaceSearchJob jobId) attemptId

/-- `fail_worker_photo_job`. -/
def failWorkerPhotoJob (cfg : Settings F) (jobId : Uuid) (payload : FailJobRequest) :
    Request F StatusReply := do
  failJob cfg (← loadPhotoJob jobId) payload

/-- `fail_worker_participant_face_job`. -/
def failWorkerParticipantFaceJob (cfg : Settings F) (jobId : Uuid) (payload : FailJobRequest) :
    Request F StatusReply := do
  failJob cfg (← loadParticipantFaceJob jobId) payload

/-- `fail_worker_face_search_job`. -/
def failWorkerFaceSearchJob (cfg : Settings F) (jobId : Uuid) (payload : FailJobRequest) :
    Request F StatusReply := do
  failJob cfg (← loadFaceSearchJob jobId) payload

/-- The value of `current` in a rejection of a completion. -/
def AttemptState.toString : AttemptState → String
  | .processing => "processing"
  | .retryScheduled => "retry_scheduled"
  | .terminal .queued => "queued"
  | .terminal .processing => "processing"
  | .terminal .completed => "completed"
  | .terminal .failed => "failed"
  | .terminal .deadLettered => "dead_lettered"

/-- The row of a job that is being completed: no lease, no retry. -/
def releasedJob (job : Job F) : Job F := { job with leaseExpiresAt := none, retryAfter := none }

/-- The guard of the three completion routes: `complete` gets the job with its lease and its
retry time cleared. -/
def completeRoute (job : Job F) (attemptId : Uuid) (complete : Job F → Request F Unit) :
    Request F StatusReply := do
  match ← verifyActiveAttempt job attemptId true with
  | .terminal .completed => return .attempt (.terminal .completed)
  | .processing => do
    Request.assign fun db => db.putJob (releasedJob job)
    complete (releasedJob job)
    return .attempt (.terminal .completed)
  | current =>
    Program.raise
      (.httpException 409 ("Job cannot complete from state " ++ current.toString ++ "."))

/-- `CompletePhotoJobRequest`. -/
structure CompletePhotoJobRequest (F : Type) where
  attemptId : Uuid
  detections : List (OCRDetectionPayload F)
  faceDetections : List (FaceDetectionPayload F)
  rawResponseJson : Option (JsonDict F)

/-- `CompleteEmbeddingJobRequest`. -/
structure CompleteEmbeddingJobRequest (F : Type) extends EmbeddingResult F where
  attemptId : Uuid

variable [Scalar F]

/-- `complete_photo_job`. -/
def completePhotoJob (jobId : Uuid) (payload : CompletePhotoJobRequest F) :
    Request F StatusReply := do
  completeRoute (← loadPhotoJob jobId) payload.attemptId fun job =>
    match job.ref with
    | .photo photoId .ocr =>
      if payload.faceDetections.isEmpty then
        completePhotoOcrJob job photoId payload.detections payload.rawResponseJson
      else Program.raise (.httpException 422 "OCR jobs cannot return face detections.")
    | .photo photoId .facePhotoScan =>
      if payload.detections.isEmpty then
        completePhotoFaceJob job photoId payload.faceDetections payload.rawResponseJson
      else Program.raise (.httpException 422 "Face scan jobs cannot return OCR detections.")
    | _ => Program.raise (.httpException 400 "Unsupported photo job type.")

/-- `complete_worker_participant_face_job`. -/
def completeWorkerParticipantFaceJob (cfg : Settings F) (jobId : Uuid)
    (payload : CompleteEmbeddingJobRequest F) : Request F StatusReply := do
  completeRoute (← loadParticipantFaceJob jobId) payload.attemptId fun job =>
    match job.ref with
    | .participantFace eventId participantId faceImageId =>
      completeParticipantFaceJob cfg job eventId participantId faceImageId payload.toEmbeddingResult
    | _ => Program.raise .attributeError

/-- `complete_worker_face_search_job`. -/
def completeWorkerFaceSearchJob (cfg : Settings F) (jobId : Uuid)
    (payload : CompleteEmbeddingJobRequest F) : Request F StatusReply := do
  completeRoute (← loadFaceSearchJob jobId) payload.attemptId fun job =>
    match job.ref with
    | .faceSearch eventId searchSessionId searchImageId =>
      completeFaceSearchJob cfg job eventId searchSessionId searchImageId payload.toEmbeddingResult
    | _ => Program.raise .attributeError

/-- What a claim asks for: the route and its payload. -/
inductive ClaimTarget
  | photo (jobTypes : List PhotoJobType)
  | participantFace
  | faceSearch
  deriving DecidableEq

/-- A request of a worker. -/
inductive WorkerCall (F : Type)
  | claim (target : ClaimTarget)
  | heartbeat (kind : JobKind) (jobId attemptId : Uuid)
  | fail (kind : JobKind) (jobId : Uuid) (payload : FailJobRequest)
  | completePhoto (jobId : Uuid) (payload : CompletePhotoJobRequest F)
  | completeParticipantFace (jobId : Uuid) (payload : CompleteEmbeddingJobRequest F)
  | completeFaceSearch (jobId : Uuid) (payload : CompleteEmbeddingJobRequest F)

/-- The answer to a request of a worker. -/
inductive Reply
  | job (claim : Option ClaimReply)
  | status (status : StatusReply)
  deriving DecidableEq

/-- The path segment of a claim route. -/
def ClaimTarget.collection : ClaimTarget → String
  | .photo _ => "photo-jobs"
  | .participantFace => "face-jobs"
  | .faceSearch => "face-search-jobs"

/-- The `job_type_condition` of a claim route. -/
def ClaimTarget.condition : ClaimTarget → Job F → Bool
  | .photo jobTypes => photoJobCondition jobTypes
  | .participantFace => fun job => job.ref.kind == .participantFace
  | .faceSearch => fun job => job.ref.kind == .faceSearch

/-- The routing table. -/
def WorkerCall.handle (cfg : Settings F) : WorkerCall F → Request F Reply
  | .claim (.photo jobTypes) => Reply.job <$> claimPhotoJob cfg jobTypes
  | .claim .participantFace => Reply.job <$> claimParticipantFaceJob cfg
  | .claim .faceSearch => Reply.job <$> claimFaceSearchJob cfg
  | .heartbeat .photo jobId attemptId => Reply.status <$> heartbeatPhotoJob cfg jobId attemptId
  | .heartbeat .participantFace jobId attemptId =>
    Reply.status <$> heartbeatParticipantFaceJob cfg jobId attemptId
  | .heartbeat .faceSearch jobId attemptId =>
    Reply.status <$> heartbeatFaceSearchJob cfg jobId attemptId
  | .fail .photo jobId payload => Reply.status <$> failWorkerPhotoJob cfg jobId payload
  | .fail .participantFace jobId payload =>
    Reply.status <$> failWorkerParticipantFaceJob cfg jobId payload
  | .fail .faceSearch jobId payload => Reply.status <$> failWorkerFaceSearchJob cfg jobId payload
  | .completePhoto jobId payload => Reply.status <$> completePhotoJob jobId payload
  | .completeParticipantFace jobId payload =>
    Reply.status <$> completeWorkerParticipantFaceJob cfg jobId payload
  | .completeFaceSearch jobId payload =>
    Reply.status <$> completeWorkerFaceSearchJob cfg jobId payload

/-- Serve one request: its answer and the database it leaves. -/
def WorkerCall.serve (cfg : Settings F) (world : World) (call : WorkerCall F)
    (db : Database F) : Except Raised Reply × Database F :=
  Request.serve world (call.handle cfg) db

end RaceFrame
