import Mathlib.Data.Rat.Floor
import RaceFrame.Worker.Completion

/-!
# The job lifecycle

The functions of `worker_api.py` that claim, renew, retry, fail and dead-letter
jobs. They are generic over the three job tables there, and so are they here.
-/

namespace RaceFrame

open Core

variable {F : Type}

/-- What `_verify_active_attempt` returns. -/
inductive AttemptState
  | processing
  | retryScheduled
  | terminal (status : JobStatus)
  deriving DecidableEq, Repr

/-- `_attempt_matches`. -/
def attemptMatches (storedAttemptId : Option Uuid) (suppliedAttemptId : Uuid) : Bool :=
  storedAttemptId == some suppliedAttemptId

/-- `_verify_active_attempt`. -/
def verifyActiveAttempt (job : Job F) (attemptId : Uuid) (allowTerminal : Bool) :
    Request F AttemptState :=
  let isOwned := attemptMatches job.attemptId attemptId
  if allowTerminal && isOwned && job.status.isTerminal then pure (.terminal job.status)
  else if allowTerminal && isOwned && job.status == .queued then pure .retryScheduled
  else if job.status != .processing || !isOwned then
    Program.raise (.httpException 409 "The job is not owned by this worker attempt.")
  else
    match job.leaseExpiresAt with
    | none => Program.raise (.httpException 409 "The worker lease has expired.")
    | some leaseExpiresAt => do
      let now ← Request.utcNow
      if leaseExpiresAt ≤ now then
        Program.raise (.httpException 409 "The worker lease has expired.")
      else pure .processing

/-- The status that `_sync_terminal_parent_state` assigns to a photo, if it assigns one. -/
def syncedPhotoStatus (statuses : List JobStatus) : Option PhotoStatus :=
  if !statuses.isEmpty && statuses.all JobStatus.isTerminal then
    if statuses.all fun status => status == .completed then some .ready
    else if statuses.contains .completed then some .partiallyReady
    else some .failed
  else none

/-- `_sync_terminal_parent_state`. -/
def syncTerminalParentState (job : Job F) : Request F Unit :=
  match job.ref with
  | .photo photoId _ => do
    let statuses ← Request.query fun db => db.photoJobStatuses photoId
    match syncedPhotoStatus statuses with
    | some status => do
      discard (Request.ofOption .attributeError
        (← Request.loaded fun db => db.photos.get? photoId))
      Request.assign fun db => db.setPhotoStatus photoId status
    | none => pure ()
  | .participantFace _ _ faceImageId => do
    discard (Request.ofOption .attributeError
      (← Request.loaded fun db => db.participantFaceImages.get? faceImageId))
    Request.assign fun db => db.setFaceImage faceImageId .failed
      (some ((orText job.errorMessage "Face processing failed.".toList).take 2000))
  | .faceSearch _ searchSessionId searchImageId => do
    discard (Request.ofOption .attributeError
      (← Request.loaded fun db => db.faceSearchImages.get? searchImageId))
    Request.assign fun db => db.setSearchImage searchImageId .failed
      (some ((orText job.errorMessage "Face search failed.".toList).take 2000))
    let statuses ← Request.query fun db => db.searchJobStatuses searchSessionId
    if !statuses.isEmpty && statuses.all JobStatus.isTerminal then do
      discard (Request.ofOption .attributeError
        (← Request.loaded fun db => db.faceSearchSessions.get? searchSessionId))
      let finishedAt ← Request.utcNow
      Request.assign fun db => db.updateSearchSession searchSessionId fun session =>
        { session with status := doneSessionStatus statuses, finishedAt := some finishedAt }
    else pure ()

/-- The row that `_dead_letter` leaves. -/
def deadLetteredJob (job : Job F) (reason : Text) (now : Instant) : Job F :=
  { job with
    status := .deadLettered
    errorMessage := some (reason.take 2000)
    retryAfter := none
    leaseExpiresAt := none
    finishedAt := some now
    deadLetteredAt := some now }

/-- `_dead_letter`. -/
def deadLetter (job : Job F) (reason : Text) : Request F (Job F) := do
  let now ← Request.utcNow
  let job := deadLetteredJob job reason now
  Request.assign fun db => db.putJob job
  return job

/-- `_mark_parent_processing`. -/
def markParentProcessing (job : Job F) : Request F Unit :=
  match job.ref with
  | .photo photoId _ => do
    discard (Request.ofOption .attributeError
      (← Request.loaded fun db => db.photos.get? photoId))
    Request.assign fun db => db.setPhotoStatus photoId .processing
  | .participantFace _ _ faceImageId => do
    discard (Request.ofOption .attributeError
      (← Request.loaded fun db => db.participantFaceImages.get? faceImageId))
    Request.assign fun db => db.setFaceImage faceImageId .processing none
  | .faceSearch _ searchSessionId searchImageId => do
    discard (Request.ofOption .attributeError
      (← Request.loaded fun db => db.faceSearchImages.get? searchImageId))
    Request.assign fun db => db.setSearchImage searchImageId .processing none
    discard (Request.ofOption .attributeError
      (← Request.loaded fun db => db.faceSearchSessions.get? searchSessionId))
    Request.assign fun db => db.updateSearchSession searchSessionId fun session =>
      { session with status := .processing }

/-- Whether a nullable instant has been reached. -/
def isDue (instant : Option Instant) (now : Instant) : Bool :=
  match instant with
  | none => true
  | some t => decide (t ≤ now)

/-- The `availability` condition of `_reap_exhausted_jobs` and `_claim_job`. -/
def Job.isAvailable (job : Job F) (now : Instant) : Bool :=
  (job.status == .queued && isDue job.retryAfter now) ||
    (job.status == .processing && isDue job.leaseExpiresAt now)

/-- Whether `_reap_exhausted_jobs` selects a job: no attempt is left. -/
def Job.isExhausted (job : Job F) (now : Instant) : Bool :=
  decide (job.maxAttempts ≤ job.attemptCount) && job.isAvailable now

/-- Whether `_claim_job` selects a job: an attempt is left. -/
def Job.isClaimable (job : Job F) (now : Instant) : Bool :=
  decide (job.attemptCount < job.maxAttempts) && job.isAvailable now

/-- `SELECT … ORDER BY created_at LIMIT n FOR UPDATE SKIP LOCKED`. -/
def Database.selectJobs (db : Database F) (locked : JobKey → Bool) (limit : Nat)
    (condition : Job F → Bool) : List (Job F) :=
  (((db.jobs.rows.filter condition).insertionSort fun a b => a.createdAt ≤ b.createdAt).filter
    fun job => !locked job.key).take limit

/-- Select job rows and lock them. -/
def selectForUpdate (limit : Nat) (condition : Job F → Bool) : Request F (List (Job F)) :=
  .gets fun s => s.flushed.selectJobs s.world.locked limit condition

/-- One turn of the loop of `_reap_exhausted_jobs`. -/
def reapJob (exhausted : Job F) : Request F Unit := do
  let job ← deadLetter exhausted
    (orText exhausted.errorMessage "Maximum processing attempts exhausted.".toList)
  syncTerminalParentState job

/-- `_reap_exhausted_jobs`. -/
def reapExhaustedJobs (jobTypeCondition : Job F → Bool) : Request F Unit := do
  let now ← Request.utcNow
  let exhausted ← selectForUpdate 50 fun job => jobTypeCondition job && job.isExhausted now
  exhausted.forM reapJob

/-- The row that `_claim_job` leaves. -/
def claimedJob (cfg : Settings F) (job : Job F) (attemptId : Uuid) (now : Instant) : Job F :=
  { job with
    status := .processing
    attemptCount := job.attemptCount + 1
    attemptId := some attemptId
    claimedAt := some now
    leaseExpiresAt := some (now + seconds cfg.leaseSeconds)
    retryAfter := none
    deadLetteredAt := none
    errorMessage := none
    finishedAt := none }

/-- The second half of `_claim_job`: hand out the oldest claimable job. -/
def claimAvailableJob (cfg : Settings F) (jobTypeCondition : Job F → Bool) :
    Request F (Option (Job F)) := do
  let now ← Request.utcNow
  let selected ← selectForUpdate 1 fun job => jobTypeCondition job && job.isClaimable now
  match selected with
  | [] => do
    Request.commit
    return none
  | job :: _ => do
    let attemptId ← Request.uuid4
    let job := claimedJob cfg job attemptId now
    Request.assign fun db => db.putJob job
    markParentProcessing job
    Request.commit
    return some job

/-- `_claim_job`. -/
def claimJob (cfg : Settings F) (jobTypeCondition : Job F → Bool) :
    Request F (Option (Job F)) := do
  reapExhaustedJobs jobTypeCondition
  claimAvailableJob cfg jobTypeCondition

/-- `_retry_delay`. -/
def retryDelay (cfg : Settings F) (attemptCount : Nat) (jitter : ℚ) : Nat :=
  let exponential := min cfg.retryMaxSeconds
    (cfg.retryBaseSeconds * 2 ^ min 20 (attemptCount - 1))
  max 1 ⌊(exponential : ℚ) * jitter⌋.toNat

/-- `FailJobRequest`. -/
structure FailJobRequest where
  attemptId : Uuid
  errorMessage : Text
  retryable : Bool
  errorCode : Option Text
  deriving DecidableEq

/-- The error text that `_fail_job` stores. -/
def FailJobRequest.storedMessage (payload : FailJobRequest) : Text :=
  let pre := match payload.errorCode with
    | some (c :: cs) => "[".toList ++ (c :: cs) ++ "] ".toList
    | _ => []
  (pre ++ payload.errorMessage).take 2000

/-- The answer to a worker. -/
inductive StatusReply
  /-- `{"status": …}` with the state of the attempt. -/
  | attempt (state : AttemptState)
  /-- `{"status": "retry_scheduled", "retry_after": …}`. -/
  | retryScheduled (retryAfter : Instant)
  /-- `{"status": "processing", "lease_expires_at": …}`. -/
  | renewed (leaseExpiresAt : Instant)
  deriving DecidableEq, Repr

/-- The row that `_fail_job` leaves when it schedules a retry. -/
def retriedJob (job : Job F) (message : Text) (retryAfter : Instant) : Job F :=
  { job with
    errorMessage := some message
    leaseExpiresAt := none
    status := .queued
    retryAfter := some retryAfter
    finishedAt := none }

/-- The row that `_fail_job` leaves for a failure that is not retryable. -/
def failedJob (job : Job F) (message : Text) (now : Instant) : Job F :=
  { job with
    errorMessage := some message
    leaseExpiresAt := none
    status := .failed
    retryAfter := none
    finishedAt := some now }

/-- The two ways in which `_fail_job` ends a job. -/
def endJob (job : Job F) (payload : FailJobRequest) (now : Instant) : Request F (Job F) :=
  if payload.retryable then
    deadLetter { job with errorMessage := some payload.storedMessage } payload.storedMessage
  else do
    Request.assign fun db => db.putJob (failedJob job payload.storedMessage now)
    return failedJob job payload.storedMessage now

/-- `_fail_job`. -/
def failJob (cfg : Settings F) (job : Job F) (payload : FailJobRequest) :
    Request F StatusReply := do
  match ← verifyActiveAttempt job payload.attemptId true with
  | .processing => do
    let now ← Request.utcNow
    if payload.retryable && decide (job.attemptCount < job.maxAttempts) then do
      let jitter ← Program.gets fun s => s.world.jitter
      let retryAfter := now + seconds (retryDelay cfg job.attemptCount jitter)
      Request.assign fun db => db.putJob (retriedJob job payload.storedMessage retryAfter)
      Request.commit
      return .retryScheduled retryAfter
    else do
      let job ← endJob job payload now
      syncTerminalParentState job
      Request.commit
      return .attempt (.terminal job.status)
  | state => return .attempt state

/-- `_heartbeat_job`. -/
def heartbeatJob (cfg : Settings F) (job : Job F) (attemptId : Uuid) :
    Request F StatusReply := do
  match ← verifyActiveAttempt job attemptId false with
  | .processing => do
    let now ← Request.utcNow
    let leaseExpiresAt := now + seconds cfg.leaseSeconds
    Request.assign fun db => db.putJob { job with leaseExpiresAt := some leaseExpiresAt }
    Request.commit
    return .renewed leaseExpiresAt
  | _ => Program.raise (.httpException 409 "The worker no longer owns this job.")

/-- Load and lock a job row. -/
def loadJob (kind : JobKind) (notFound : String) (jobId : Uuid) : Request F (Job F) := do
  Request.ofOption (.httpException 404 notFound)
    (← Request.query fun db => db.jobs.get? (kind, jobId))

/-- `_load_photo_job`. -/
def loadPhotoJob (jobId : Uuid) : Request F (Job F) :=
  loadJob .photo "Photo job not found." jobId

/-- `_load_participant_face_job`. -/
def loadParticipantFaceJob (jobId : Uuid) : Request F (Job F) :=
  loadJob .participantFace "Face job not found." jobId

/-- `_load_face_search_job`. -/
def loadFaceSearchJob (jobId : Uuid) : Request F (Job F) :=
  loadJob .faceSearch "Face search job not found." jobId

end RaceFrame
