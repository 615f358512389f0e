import Mathlib.Logic.Relation
import RaceFrame.Core.Retries
import RaceFrame.Worker.Answers
import RaceFrame.Worker.Polling

/-!
# Handling a claimed job

`handle_claimed_job` of the worker with the requests that it sends: the result of
the job, and the report of a failure when there is no result. Every request is
sent as often as the budget allows, over a network that loses requests and
answers, while others use the database.
-/

namespace RaceFrame

open Core

variable {F : Type}

/-! ## What happens to a request -/

section Network

variable [Scalar F] (cfg : Settings F) (key : JobKey) (attemptId : Uuid)

/-- What others do to the database: calls of any worker, which draw other attempt identifiers, and
transactions that at most delete the row of the job. -/
inductive Meanwhile : Database F → Database F → Prop
  | call (e : Event F) (db : Database F)
    (fresh : issuedFor key (e.serve cfg db).1 ≠ some attemptId) : Meanwhile db (e.serve cfg db).2
  | other {db db' : Database F}
    (kept : ∀ job, db'.jobs.get? key = some job → db.jobs.get? key = some job) : Meanwhile db db'

/-- What becomes of a request on its way. -/
inductive Fate
  /-- It does not arrive. -/
  | lost
  /-- It is answered before it gets to its route: its token is refused, or there are too many
  requests, or the service is not available. -/
  | turnedAway (status : Nat)
    (refused : status = 401 ∨ status = 403 ∨ status = 429 ∨ 500 ≤ status)
  /-- It is served, and its answer is lost. -/
  | unanswered (world : World)
  /-- It is served and answered. -/
  | answered (world : World)

/-- One request: what others do before it arrives, and what becomes of it. -/
structure Sending where
  meanwhile : Database F → Database F
  allowed : ∀ db, Relation.ReflTransGen (Meanwhile cfg key attemptId) db (meanwhile db)
  fate : Fate

variable {cfg key attemptId} (encoder : JsonEncoder F)

/-- The status that the worker gets, if it gets one, and the database. -/
def Fate.deliver (cfg : Settings F) (path : Text) (payload : JobPayload F) :
    Fate → Database F → Option Nat × Database F
  | .lost, db => (none, db)
  | .turnedAway status _, db => (some status, db)
  | .unanswered world, db => (none, (receiveJobRequest encoder cfg world path payload db).2)
  | .answered world, db =>
    (some (receiveJobRequest encoder cfg world path payload db).1,
      (receiveJobRequest encoder cfg world path payload db).2)

/-- One turn of the loop of `BackendClient.post`. -/
def Sending.tryOnce (path : Text) (payload : JobPayload F) (sending : Sending cfg key attemptId)
    (db : Database F) : Try (Database F) (Option Nat) :=
  let delivered := sending.fate.deliver encoder cfg path payload (sending.meanwhile db)
  ⟨sending.meanwhile db, delivered.1, delivered.2⟩

/-- What an outcome decides: nothing when the request has failed or may be repeated. -/
def BackendClient.decisive : Option Nat → Option (Except WorkerError Unit)
  | none => none
  | some status =>
    if 200 ≤ status ∧ status < 300 then some (.ok ())
    else if status = 409 then
      some (.error (.leaseLost "Backend rejected a stale or expired worker attempt."))
    else if status = 401 ∨ status = 403 then
      some (.error (.workerConfig "Backend rejected WORKER_API_TOKEN."))
    else if status = 404 then some (.error (.leaseLost "The claimed job no longer exists."))
    else if status = 429 ∨ 500 ≤ status then none
    else some (.error (.permanentJob
      ("Backend rejected the worker result with HTTP " ++ toString status ++ ".")))

/-- What the last outcome comes to when it decides nothing. -/
def BackendClient.giveUp : Option Nat → Except WorkerError Unit
  | none => .error (.controlPlane "Backend request failed after bounded retries.")
  | some status =>
    .error (.controlPlane ("Backend returned transient HTTP " ++ toString status ++ "."))

/-- `BackendClient.post` of a request that may be repeated. -/
def BackendClient.postJob (sendings : List (Sending cfg key attemptId)) (path : Text)
    (payload : JobPayload F) (db : Database F) :
    Retried (Database F) (Option Nat) (Except WorkerError Unit) :=
  retry BackendClient.decisive BackendClient.giveUp
    (.error (.controlPlane "Backend request exhausted its retry budget."))
    (sendings.map (Sending.tryOnce encoder path payload)) db

omit [Scalar F] in
theorem BackendClient.post_cons (outcome : Option Nat) (rest : List (Option Nat)) :
    BackendClient.post (outcome :: rest) =
      match BackendClient.decisive outcome with
      | some result => result
      | none => if rest.isEmpty then BackendClient.giveUp outcome else BackendClient.post rest := by
  cases outcome with
  | none => rfl
  | some status =>
    rw [BackendClient.post, BackendClient.decisive]
    by_cases hok : 200 ≤ status ∧ status < 300
    · rw [if_pos hok, if_pos hok]
    rw [if_neg hok, if_neg hok]
    by_cases hlost : status = 409
    · rw [if_pos hlost, if_pos hlost]
    rw [if_neg hlost, if_neg hlost]
    by_cases htoken : status = 401 ∨ status = 403
    · rw [if_pos htoken, if_pos htoken]
    rw [if_neg htoken, if_neg htoken]
    by_cases hgone : status = 404
    · rw [if_pos hgone, if_pos hgone]
    rw [if_neg hgone, if_neg hgone]
    by_cases hagain : status = 429 ∨ 500 ≤ status
    · rw [if_pos hagain, if_pos hagain]
      rfl
    · rw [if_neg hagain, if_neg hagain]

/-- The requests come to what the client makes of their outcomes. -/
theorem BackendClient.postJob_result (sendings : List (Sending cfg key attemptId)) (path : Text)
    (payload : JobPayload F) (db : Database F) :
    let retried := BackendClient.postJob encoder sendings path payload db
    ∃ unsent, retried.tries.length + unsent.length = sendings.length ∧
      retried.result = BackendClient.post (retried.tries.map Try.outcome ++ unsent) := by
  induction sendings generalizing db with
  | nil => exact ⟨[], rfl, rfl⟩
  | cons sending rest ih =>
    simp only [BackendClient.postJob, List.map_cons]
    rcases @retry_cons_cases _ _ _ BackendClient.decisive BackendClient.giveUp
      (.error (.controlPlane "Backend request exhausted its retry budget."))
      (sending.tryOnce encoder path payload) (rest.map (Sending.tryOnce encoder path payload))
      db with ⟨result, heq, hdecides | ⟨hnone, hrest, hresult⟩⟩ | ⟨hnone, hrest, heq⟩
    · rw [heq]
      refine ⟨rest.map fun _ => none, by simp [Nat.add_comm], ?_⟩
      simp [BackendClient.post_cons, hdecides]
    · rw [heq]
      obtain rfl := List.map_eq_nil_iff.mp hrest
      exact ⟨[], rfl, by simp [BackendClient.post_cons, hnone, hresult]⟩
    · rw [heq]
      obtain ⟨unsent, hlength, hresult⟩ := ih (sending.tryOnce encoder path payload db).left
      rw [BackendClient.postJob] at hlength hresult
      refine ⟨unsent, ?_, ?_⟩
      · rw [List.length_cons, List.length_cons, ← hlength, Nat.add_right_comm]
      · have hmore : rest.length ≠ 0 := fun h => hrest (by rw [List.length_eq_zero_iff.mp h]; rfl)
        rw [List.map_cons, List.cons_append, BackendClient.post_cons, hnone]
        simp only
        rw [if_neg, hresult]
        rw [List.isEmpty_iff, ← List.length_eq_zero_iff, List.length_append, List.length_map,
          hlength]
        exact hmore

end Network

/-! ## Processing -/

/-- An exception in the processing of a job. -/
inductive JobError
  | worker (error : WorkerError)
  | transientJob (message : Text)
  /-- Any other exception, with the name of its class. -/
  | unexpected (className : { name : Text // name ≠ [] }) (message : Text)

/-- `str(error)`. -/
def JobError.message : JobError → Text
  | .worker (.workerConfig message) | .worker (.permanentJob message)
  | .worker (.controlPlane message) | .worker (.leaseLost message) => message.toList
  | .transientJob message | .unexpected _ message => message

/-- `error.__class__.__name__`. -/
def JobError.className : JobError → { name : Text // name ≠ [] }
  | .worker (.workerConfig _) => ⟨"WorkerConfigError".toList, by decide⟩
  | .worker (.permanentJob _) => ⟨"PermanentJobError".toList, by decide⟩
  | .worker (.controlPlane _) => ⟨"ControlPlaneError".toList, by decide⟩
  | .worker (.leaseLost _) => ⟨"LeaseLostError".toList, by decide⟩
  | .transientJob _ => ⟨"TransientJobError".toList, by decide⟩
  | .unexpected className _ => className

/-- `FaceResult`. -/
structure FaceResult (F : Type) where
  faceIndex : Nat
  embedding : List F
  boundingBoxJson : JsonDict F
  detectionScore : Option F
  qualityScore : Option F

/-- What the worker does on its own while it processes a job. -/
structure LocalWork (F : Type) where
  /-- `client.download`. -/
  download : Option Text → Except JobError Bytes
  /-- The calls of `heartbeat.ensure_owned`, in their order. -/
  ensureOwned : Nat → Except WorkerError Unit
  /-- `ocr_processor.scan`. -/
  ocrScan : Bytes → Except JobError (List (OCRDetectionPayload F) × JsonDict F)
  /-- `face_processor.scan`. -/
  faceScan : Bytes → Except JobError (List (FaceResult F))
  /-- `face_processor.enroll_best_face`. -/
  enrollBestFace : Bytes → Except JobError (FaceResult F)
  /-- `face_processor.enroll_single_search_face`. -/
  enrollSingleSearchFace : Bytes → Except JobError (FaceResult F)
  /-- `FACE_MODEL_NAME`. -/
  faceModelName : Text

/-- `_embedding_completion_payload`. -/
def embeddingCompletionPayload (attemptId : Uuid) (faceModelName : Text) (face : FaceResult F) :
    CompleteEmbeddingJobRequest F where
  attemptId := attemptId
  embedding := face.embedding
  boundingBoxJson := some face.boundingBoxJson
  detectionScore := face.detectionScore
  qualityScore := face.qualityScore
  rawResponseJson :=
    some [("provider", .str "insightface".toList), ("model", .str faceModelName)]

/-- The body with the faces of a photo. -/
def faceScanPayload (attemptId : Uuid) (faceModelName : Text) (faces : List (FaceResult F)) :
    CompletePhotoJobRequest F where
  attemptId := attemptId
  detections := []
  faceDetections := faces.map fun face =>
    ⟨face.faceIndex, face.embedding, some face.boundingBoxJson, face.detectionScore,
      face.qualityScore⟩
  rawResponseJson :=
    some [("provider", .str "insightface".toList), ("model", .str faceModelName),
      ("face_count", .int faces.length)]

/-- `job["face_image"]`. -/
def ClaimSubject.faceImage : ClaimSubject → Except JobError ClaimObject
  | .participantFace _ _ faceImage | .faceSearch _ _ faceImage => .ok faceImage
  | .photo .. =>
    .error (.unexpected ⟨"KeyError".toList, by decide⟩ "'face_image'".toList)

/-- `job["photo"]`. -/
def ClaimSubject.photoObject : ClaimSubject → Except JobError ClaimObject
  | .photo _ object => .ok object
  | .participantFace .. | .faceSearch .. =>
    .error (.unexpected ⟨"KeyError".toList, by decide⟩ "'photo'".toList)

section Processors

variable (work : LocalWork F) (job : ClaimedJob)

/-- `heartbeat.ensure_owned()`. -/
def LocalWork.owned (n : Nat) : Except JobError Unit := (work.ensureOwned n).mapError .worker

/-- The path of the completion. -/
def ClaimedJob.completePath : Except JobError Text :=
  (operationPath job.heartbeatPath "complete".toList).mapError .worker

/-- The common part of `process_face_job` and `process_face_search_job`, up to the request. -/
def processFace (enroll : Bytes → Except JobError (FaceResult F)) :
    Except JobError (Text × JobPayload F) := do
  let image ← job.subject.faceImage
  let imageBytes ← work.download image.downloadUrl
  work.owned 0
  let face ← enroll imageBytes
  work.owned 1
  let path ← job.completePath
  return (path,
    .completeEmbedding (embeddingCompletionPayload job.attempt work.faceModelName face))

/-- `process_face_job`, up to the request. -/
def processFaceJob : Except JobError (Text × JobPayload F) :=
  processFace work job work.enrollBestFace

/-- `process_face_search_job`, up to the request. -/
def processFaceSearchJob : Except JobError (Text × JobPayload F) :=
  processFace work job work.enrollSingleSearchFace

/-- `process_photo_job`, up to the request. -/
def processPhotoJob : Except JobError (Text × JobPayload F) := do
  let photo ← job.subject.photoObject
  let imageBytes ← work.download photo.downloadUrl
  work.owned 0
  if job.jobType = "ocr".toList then
    let scanned ← work.ocrScan imageBytes
    work.owned 1
    let path ← job.completePath
    return (path, .completePhoto ⟨job.attempt, scanned.1, [], some scanned.2⟩)
  else if job.jobType = "face_photo_scan".toList then
    let faces ← work.faceScan imageBytes
    work.owned 1
    let path ← job.completePath
    return (path, .completePhoto (faceScanPayload job.attempt work.faceModelName faces))
  else
    throw (.worker (.permanentJob
      ("Unsupported photo job type: " ++ String.ofList job.jobType)))

/-- A processor, up to the request that it ends with. -/
def JobProcessor.prepare : JobProcessor → Except JobError (Text × JobPayload F)
  | .processFaceJob => RaceFrame.processFaceJob work job
  | .processFaceSearchJob => RaceFrame.processFaceSearchJob work job
  | .processPhotoJob => RaceFrame.processPhotoJob work job

end Processors

/-! ## Handling -/

/-- How `handle_claimed_job` ends. -/
inductive JobEnding
  | completed
  /-- The lease is lost. -/
  | abandoned
  /-- The backend has not answered, or not well. -/
  | unavailable
  | failureReported
  | reportFailed
  | raised (error : WorkerError)

/-- A call of `handle_claimed_job`: the completions and the failure reports that it sends, the
database afterwards and its end. -/
structure Handling (F : Type) where
  completions : List (Try (Database F) (Option Nat))
  failures : List (Try (Database F) (Option Nat))
  database : Database F
  ending : JobEnding

/-- The body that `_report_failure` sends. -/
def failurePayload (attemptId : Uuid) (error : JobError) (retryable : Bool)
    (errorCode : String) : FailJobRequest where
  attemptId := attemptId
  errorMessage := (orText (some (strip error.message)) error.className.val).take 2000
  retryable := retryable
  errorCode := some errorCode.toList

/-- The end that the result of a failure report comes to. -/
def JobEnding.ofReport : Except WorkerError Unit → JobEnding
  | .ok _ => .failureReported
  | .error (.workerConfig message) => .raised (.workerConfig message)
  | .error _ => .reportFailed

section Handling

variable [Scalar F] {cfg : Settings F} (encoder : JsonEncoder F) (job : ClaimedJob)
  (failing : List (Sending cfg job.key job.attempt))

/-- `_report_failure`. -/
def reportFailure (error : JobError) (retryable : Bool) (errorCode : String) (db : Database F) :
    Handling F :=
  match operationPath job.heartbeatPath "fail".toList with
  | .error _ => ⟨[], [], db, .reportFailed⟩
  | .ok path =>
    let posted := BackendClient.postJob encoder failing path
      (.fail (failurePayload job.attempt error retryable errorCode)) db
    ⟨[], posted.tries, posted.state, .ofReport posted.result⟩

/-- The handlers of `handle_claimed_job`. -/
def handleJobError (db : Database F) : JobError → Handling F
  | .worker (.workerConfig message) => ⟨[], [], db, .raised (.workerConfig message)⟩
  | .worker (.leaseLost _) => ⟨[], [], db, .abandoned⟩
  | .worker (.controlPlane _) => ⟨[], [], db, .unavailable⟩
  | .worker (.permanentJob message) =>
    reportFailure encoder job failing (.worker (.permanentJob message)) false
      "invalid_job_input" db
  | .transientJob message =>
    reportFailure encoder job failing (.transientJob message) true
      "transient_processing_error" db
  | .unexpected className message =>
    reportFailure encoder job failing (.unexpected className message) true
      "unexpected_processing_error" db

/-- `handle_claimed_job`, with what happens to the requests of the completion and of the failure
report. -/
def handleClaimedJob (work : LocalWork F) (processor : JobProcessor)
    (completing : List (Sending cfg job.key job.attempt)) (db : Database F) : Handling F :=
  match processor.prepare work job with
  | .error error => handleJobError encoder job failing db error
  | .ok request =>
    let posted := BackendClient.postJob encoder completing request.1 request.2 db
    match posted.result with
    | .ok _ => ⟨posted.tries, [], posted.state, .completed⟩
    | .error error =>
      { handleJobError encoder job failing posted.state (.worker error) with
        completions := posted.tries }

end Handling

end RaceFrame
