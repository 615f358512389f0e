import RaceFrame.Text.Uuids
import RaceFrame.Worker.OcrAcceptance
import RaceFrame.Worker.Runs

/-!
# Requests on claimed jobs

The paths under which a worker renews, completes and fails the job that a claim
has handed to it, the routes that they lead to, and the status of the answers.
The worker derives the paths from the one path that the claim names.
-/

namespace RaceFrame

open Core

variable {F : Type}

/-! ## Paths -/

/-- The path segment of the routes on the jobs of a table. -/
def JobKind.collection : JobKind → String
  | .photo => "photo-jobs"
  | .participantFace => "face-jobs"
  | .faceSearch => "face-search-jobs"

/-- The table that a path segment names. -/
def JobKind.ofCollection (collection : Text) : Option JobKind :=
  if collection = "photo-jobs".toList then some .photo
  else if collection = "face-jobs".toList then some .participantFace
  else if collection = "face-search-jobs".toList then some .faceSearch
  else none

@[simp] theorem JobKind.ofCollection_collection (kind : JobKind) :
    ofCollection kind.collection.toList = some kind := by
  cases kind <;> rfl

/-- The path of an operation on a job. -/
def jobPath (key : JobKey) (operation : Text) : Text :=
  "/internal/worker/".toList ++ key.1.collection.toList ++ "/".toList ++ uuidText key.2 ++
    '/' :: operation

/-- `_operation_path`. -/
def operationPath (heartbeatPath operation : Text) : Except WorkerError Text :=
  if "/heartbeat".toList.isSuffixOf heartbeatPath then
    .ok (heartbeatPath.take (heartbeatPath.length - "/heartbeat".toList.length) ++ '/' :: operation)
  else .error (.permanentJob "Claim response did not include a valid heartbeat path.")

private theorem take_length_sub_length (start rest : Text) :
    (start ++ rest).take ((start ++ rest).length - rest.length) = start := by
  rw [List.length_append, Nat.add_sub_cancel, List.take_left]

private theorem jobPath_heartbeat (key : JobKey) :
    jobPath key "heartbeat".toList = "/internal/worker/".toList ++ key.1.collection.toList ++
      "/".toList ++ uuidText key.2 ++ "/heartbeat".toList :=
  congrArg (fun text => "/internal/worker/".toList ++ key.1.collection.toList ++ "/".toList ++
    uuidText key.2 ++ text) (by decide : '/' :: "heartbeat".toList = "/heartbeat".toList)

/-- From the heartbeat path of a job the worker gets the paths of its other operations. -/
theorem operationPath_jobPath (key : JobKey) (operation : Text) :
    operationPath (jobPath key "heartbeat".toList) operation = .ok (jobPath key operation) := by
  rw [operationPath, jobPath_heartbeat,
    if_pos (List.isSuffixOf_iff_suffix.mpr (List.suffix_append _ _)), take_length_sub_length]
  rfl

/-- The table, the identifier and the operation that a path names. -/
def parseJobPath (path : Text) : Option (JobKind × Text × Text) :=
  match path.splitOn '/' with
  | [[], internal, worker, collection, jobId, operation] =>
    if internal = "internal".toList ∧ worker = "worker".toList then
      (JobKind.ofCollection collection).map fun kind => (kind, jobId, operation)
    else none
  | _ => none

private theorem slash_not_mem_collection (kind : JobKind) : '/' ∉ kind.collection.toList := by
  cases kind <;> decide

private theorem slash_not_mem_uuidSegment (id : Uuid) : '/' ∉ uuidText id := by
  intro h
  rcases dash_or_digitChar_of_mem_uuidText h with h | ⟨k, hk, h⟩
  · cases h
  · have hne : ∀ k < 16, '/' ≠ Nat.digitChar k := by decide
    exact hne k hk h

/-- A path names the job and the operation that it was built from. -/
theorem parseJobPath_jobPath (key : JobKey) {operation : Text} (h : '/' ∉ operation) :
    parseJobPath (jobPath key operation) = some (key.1, uuidText key.2, operation) := by
  have hsegments : jobPath key operation = ['/'].intercalate [[], "internal".toList,
      "worker".toList, key.1.collection.toList, uuidText key.2, operation] := by
    have hroot : "/internal/worker/".toList =
        '/' :: "internal".toList ++ '/' :: "worker".toList ++ ['/'] := by decide
    have hslash : "/".toList = ['/'] := by decide
    unfold jobPath
    rw [hroot, hslash]
    simp only [List.intercalate, List.intersperse, List.flatten_cons, List.flatten_nil,
      List.nil_append, List.append_nil, List.append_assoc, List.cons_append]
  have hsplit : (jobPath key operation).splitOn '/' = [[], "internal".toList, "worker".toList,
      key.1.collection.toList, uuidText key.2, operation] := by
    rw [hsegments]
    apply List.splitOn_intercalate
    · intro segment hsegment
      simp only [List.mem_cons, List.not_mem_nil, or_false] at hsegment
      rcases hsegment with rfl | rfl | rfl | rfl | rfl | rfl
      · decide
      · decide
      · decide
      · exact slash_not_mem_collection key.1
      · exact slash_not_mem_uuidSegment key.2
      · exact h
    · exact List.cons_ne_nil _ _
  rw [parseJobPath, hsplit]
  simp

/-! ## Routes -/

/-- The body of a request on a job. -/
inductive JobPayload (F : Type)
  | heartbeat (attemptId : Uuid)
  | completePhoto (payload : CompletePhotoJobRequest F)
  | completeEmbedding (payload : CompleteEmbeddingJobRequest F)
  | fail (payload : FailJobRequest)

/-- The attempt that a body names. -/
def JobPayload.attemptId : JobPayload F → Uuid
  | .heartbeat attemptId => attemptId
  | .completePhoto payload => payload.attemptId
  | .completeEmbedding payload => payload.attemptId
  | .fail payload => payload.attemptId

/-- The routes on jobs: the call of a request, or the status with which it is turned down. A body
that is only an attempt is a result without detections. -/
def routeJobRequest (path : Text) (payload : JobPayload F) : Except Nat (WorkerCall F) :=
  match parseJobPath path with
  | none => .error 404
  | some (kind, jobIdText, operation) =>
    if operation = "heartbeat".toList then
      match parseUuid jobIdText, payload with
      | some jobId, .heartbeat attemptId => .ok (.heartbeat kind jobId attemptId)
      | _, _ => .error 422
    else if operation = "fail".toList then
      match parseUuid jobIdText, payload with
      | some jobId, .fail payload => .ok (.fail kind jobId payload)
      | _, _ => .error 422
    else if operation = "complete".toList then
      match kind, parseUuid jobIdText, payload with
      | .photo, some jobId, .completePhoto payload => .ok (.completePhoto jobId payload)
      | .photo, some jobId, .heartbeat attemptId =>
        .ok (.completePhoto jobId ⟨attemptId, [], [], none⟩)
      | .participantFace, some jobId, .completeEmbedding payload =>
        .ok (.completeParticipantFace jobId payload)
      | .faceSearch, some jobId, .completeEmbedding payload =>
        .ok (.completeFaceSearch jobId payload)
      | _, _, _ => .error 422
    else .error 404

/-- A heartbeat on its path is routed to its job. -/
theorem routeJobRequest_heartbeat {key : JobKey} (h : key.2 < 2 ^ 128) (attemptId : Uuid) :
    routeJobRequest (jobPath key "heartbeat".toList) (.heartbeat attemptId : JobPayload F) =
      .ok (.heartbeat key.1 key.2 attemptId) := by
  rw [routeJobRequest, parseJobPath_jobPath key (by decide)]
  simp only [parseUuid_uuidText h]
  rfl

/-- A report of a failure on its path is routed to its job. -/
theorem routeJobRequest_fail {key : JobKey} (h : key.2 < 2 ^ 128) (payload : FailJobRequest) :
    routeJobRequest (jobPath key "fail".toList) (.fail payload : JobPayload F) =
      .ok (.fail key.1 key.2 payload) := by
  rw [routeJobRequest, parseJobPath_jobPath key (by decide)]
  simp only [parseUuid_uuidText h]
  rfl

/-- A result on its path is routed to its job, or turned down as the result of another table. -/
theorem routeJobRequest_complete {key : JobKey} (h : key.2 < 2 ^ 128) (payload : JobPayload F) :
    (∃ status, routeJobRequest (jobPath key "complete".toList) payload = .error status ∧
      400 ≤ status) ∨
    ∃ call, routeJobRequest (jobPath key "complete".toList) payload = .ok call ∧
      call.isComplete = true ∧ call.names = some (key, payload.attemptId) := by
  obtain ⟨kind, jobId⟩ := key
  rw [routeJobRequest, parseJobPath_jobPath _ (by decide)]
  simp only [parseUuid_uuidText h]
  cases kind <;> cases payload <;>
    first
    | exact Or.inl ⟨422, rfl, by decide⟩
    | exact Or.inr ⟨_, rfl, rfl, rfl⟩

/-! ## What a claim hands out -/

/-- The table of the job that an answer describes. -/
def ClaimSubject.kind : ClaimSubject → JobKind
  | .photo .. => .photo
  | .participantFace .. => .participantFace
  | .faceSearch .. => .faceSearch

theorem Reply.handsOut_some (claim : ClaimReply) :
    Reply.handsOut (.job (some claim)) =
      claim.attemptId.map fun attemptId => ((claim.subject.kind, claim.id), attemptId) := by
  rw [handsOut]
  cases claim.subject <;> rfl

private theorem kind_of_claimSubject {job : Job F} {s t : Session F} {subject : ClaimSubject}
    (h : (claimSubject job).run s = (.ok subject, t)) : subject.kind = job.ref.kind := by
  unfold claimSubject at h
  rw [Program.run_gets_bind] at h
  cases href : job.ref with
  | photo photoId jobType =>
    simp only [href, Request.run_loaded_bind] at h
    cases hrow : s.current.photos.get? photoId with
    | none => rw [hrow, Request.run_ofOption_none_bind] at h; cases h
    | some row => rw [hrow, Request.run_ofOption_some_bind] at h; cases h; rfl
  | participantFace eventId participantId faceImageId =>
    simp only [href, Request.run_loaded_bind] at h
    cases hrow : s.current.participantFaceImages.get? faceImageId with
    | none => rw [hrow, Request.run_ofOption_none_bind] at h; cases h
    | some row => rw [hrow, Request.run_ofOption_some_bind] at h; cases h; rfl
  | faceSearch eventId searchSessionId searchImageId =>
    simp only [href, Request.run_loaded_bind] at h
    cases hrow : s.current.faceSearchImages.get? searchImageId with
    | none => rw [hrow, Request.run_ofOption_none_bind] at h; cases h
    | some row => rw [hrow, Request.run_ofOption_some_bind] at h; cases h; rfl

private theorem condition_of_claimJob {cfg : Settings F} {condition : Job F → Bool}
    {s t : Session F} {job : Job F}
    (h : (claimJob cfg condition).run s = (.ok (some job), t)) :
    ∃ selected, condition selected = true ∧ job.ref = selected.ref := by
  rw [claimJob, Program.run_bind] at h
  rcases hreap : (reapExhaustedJobs condition).run s with ⟨_ | _, u⟩
  · rw [hreap] at h
    cases h
  · rw [hreap] at h
    simp only [claimAvailableJob, Request.run_utcNow_bind, selectForUpdate,
      Program.run_gets_bind] at h
    cases hselected : u.tick.flushed.selectJobs u.tick.world.locked 1 fun job =>
        condition job && job.isClaimable (u.world.clock 0) with
    | nil => rw [hselected] at h; cases h
    | cons selected rest =>
      rw [hselected] at h
      have hcondition := (mem_of_mem_selectJobs (hselected ▸ List.mem_cons_self)).2
      refine ⟨selected, (Bool.and_eq_true_iff.mp hcondition).1, ?_⟩
      simp only [Request.run_uuid4_bind, Request.run_assign_bind] at h
      rw [Program.run_bind] at h
      split at h
      · cases h
        rfl
      · cases h

private theorem kind_of_condition {target : ClaimTarget} {job : Job F}
    (h : target.condition job = true) : job.ref.kind.collection = target.collection := by
  cases target with
  | photo jobTypes =>
    rw [ClaimTarget.condition, photoJobCondition] at h
    cases href : job.ref with
    | photo photoId jobType => rfl
    | participantFace | faceSearch => rw [href] at h; cases h
  | participantFace => rw [beq_iff_eq.mp h]; rfl
  | faceSearch => rw [beq_iff_eq.mp h]; rfl

/-- An answer that hands out a job describes the job that the claim has taken. -/
private theorem metadata_of_claim [Scalar F] {cfg : Settings F} {world : World} {db : Database F}
    {target : ClaimTarget} {claim : ClaimReply}
    (h : ((WorkerCall.claim target).serve cfg world db).1 = .ok (.job (some claim))) :
    ∃ (job : Job F) (subject : ClaimSubject) (u v : Session F),
      (claimJob cfg target.condition).run (Session.sessionLocal world db) = (.ok (some job), u) ∧
        (claimSubject job).run u = (.ok subject, v) ∧
          claim = jobClaimMetadata cfg target.collection job subject := by
  rw [WorkerCall.serve, handle_claim, Request.serve, Program.run_map] at h
  rcases hroute : (claimRoute cfg target.collection target.condition).run
      (Session.sessionLocal world db) with ⟨_ | handed, t⟩
  · rw [hroute] at h
    cases h
  · rw [hroute] at h
    cases h
    rw [claimRoute, Program.run_bind] at hroute
    rcases hclaim : (claimJob cfg target.condition).run (Session.sessionLocal world db) with
      ⟨_ | _ | job, u⟩
    · rw [hclaim] at hroute
      cases hroute
    · rw [hclaim] at hroute
      cases hroute
    · rw [hclaim] at hroute
      simp only [Program.run_bind] at hroute
      rcases hsubject : (claimSubject job).run u with ⟨_ | subject, v⟩
      · rw [hsubject] at hroute
        cases hroute
      · rw [hsubject] at hroute
        cases hroute
        exact ⟨job, subject, u, _, rfl, hsubject, rfl⟩

/-- A claim names the heartbeat path of the job that it hands out. -/
theorem heartbeatPath_of_claim [Scalar F] {cfg : Settings F} {world : World} {db : Database F}
    {target : ClaimTarget} {claim : ClaimReply}
    (h : ((WorkerCall.claim target).serve cfg world db).1 = .ok (.job (some claim))) :
    claim.heartbeatPath = jobPath (claim.subject.kind, claim.id) "heartbeat".toList := by
  obtain ⟨job, subject, u, v, hclaim, hsubject, rfl⟩ := metadata_of_claim h
  obtain ⟨selected, hcondition, href⟩ := condition_of_claimJob hclaim
  change "/internal/worker/".toList ++ target.collection.toList ++ "/".toList ++
    uuidText job.id ++ "/heartbeat".toList = jobPath (subject.kind, job.id) _
  rw [jobPath_heartbeat, kind_of_claimSubject hsubject, href, kind_of_condition hcondition]

/-- A claim names the length of the leases that are granted. -/
theorem leaseSeconds_of_claim [Scalar F] {cfg : Settings F} {world : World} {db : Database F}
    {target : ClaimTarget} {claim : ClaimReply}
    (h : ((WorkerCall.claim target).serve cfg world db).1 = .ok (.job (some claim))) :
    claim.leaseSeconds = cfg.leaseSeconds := by
  obtain ⟨job, subject, u, v, -, -, rfl⟩ := metadata_of_claim h
  rfl

/-- The answer to a claim that hands out a job, as the worker gets it. -/
structure ClaimedJob extends ClaimReply where
  attempt : Uuid
  attempt_eq : attemptId = some attempt
  id_lt : id < 2 ^ 128
  path_eq : heartbeatPath = jobPath (subject.kind, id) "heartbeat".toList

/-- The table and the identifier of a claimed job. -/
def ClaimedJob.key (job : ClaimedJob) : JobKey := (job.subject.kind, job.id)

/-- Every answer that hands out a job is a claimed job of the attempt that it hands out. -/
theorem exists_claimedJob [Scalar F] {cfg : Settings F} {world : World} {db : Database F}
    {target : ClaimTarget} {claim : ClaimReply}
    (h : ((WorkerCall.claim target).serve cfg world db).1 = .ok (.job (some claim)))
    (hid : claim.id < 2 ^ 128) :
    ∃ job : ClaimedJob, job.toClaimReply = claim ∧
      Reply.handsOut (.job (some claim)) = some (job.key, job.attempt) := by
  have houtcome := outcome_serve cfg world db (.claim target)
  rw [h] at houtcome
  have hattempt : ∃ attemptId, claim.attemptId = some attemptId := by
    cases houtcome with
    | claimed reaped mem claimable handsOut committed =>
      rw [Reply.handsOut_some, Option.map_eq_some_iff] at handsOut
      obtain ⟨attemptId, hattempt, -⟩ := handsOut
      exact ⟨attemptId, hattempt⟩
  obtain ⟨attemptId, hattempt⟩ := hattempt
  refine ⟨⟨claim, attemptId, hattempt, hid, heartbeatPath_of_claim h⟩, rfl, ?_⟩
  rw [Reply.handsOut_some, hattempt]
  rfl

/-! ## Validation and status -/

/-- The validator of `ClaimRequest`. The two supported job types are the only ones here. -/
def validateJobTypes (jobTypes : List PhotoJobType) : Except Raised Unit :=
  if jobTypes.isEmpty || decide (2 < jobTypes.length) then
    .error (.valueError "Request between one and two job types.")
  else if ¬jobTypes.Nodup then .error (.valueError "Duplicate job types are not allowed.")
  else .ok ()

/-- The characters of `^[a-z0-9_.-]+$`. -/
def isErrorCodeChar (c : Char) : Bool :=
  ('a' ≤ c && c ≤ 'z') || ('0' ≤ c && c ≤ '9') || c == '_' || c == '.' || c == '-'

/-- The fields of `FailJobRequest`. -/
def FailJobRequest.validate (payload : FailJobRequest) : Except Raised Unit := do
  if payload.errorMessage.length < 1 then
    throw (.valueError "String should have at least 1 character")
  if 2000 < payload.errorMessage.length then
    throw (.valueError "String should have at most 2000 characters")
  match payload.errorCode with
  | none => return ()
  | some code =>
    if code.length < 1 then throw (.valueError "String should have at least 1 character")
    if 64 < code.length then throw (.valueError "String should have at most 64 characters")
    if !code.all isErrorCodeChar then
      throw (.valueError "String should match pattern '^[a-z0-9_.-]+$'")

variable [Scalar F] (encoder : JsonEncoder F)

/-- The validators of `CompleteEmbeddingJobRequest`; the first error stands for all of them. -/
def CompleteEmbeddingJobRequest.validate (payload : CompleteEmbeddingJobRequest F) :
    Except Raised Unit := do
  validateEmbedding payload.embedding
  validateBoundedJson encoder (payload.boundingBoxJson.map .dict) maxBoundingBoxBytes
    "Bounding box"
  validateScore payload.detectionScore
  validateScore payload.qualityScore
  validateBoundedJson encoder (payload.rawResponseJson.map .dict) maxRawJsonBytes "Raw response"

/-- The validators of the body of a call. -/
def WorkerCall.validate : WorkerCall F → Except Raised Unit
  | .claim (.photo jobTypes) => validateJobTypes jobTypes
  | .claim .participantFace | .claim .faceSearch | .heartbeat .. => .ok ()
  | .fail _ _ payload => payload.validate
  | .completePhoto _ payload => payload.validate encoder
  | .completeParticipantFace _ payload | .completeFaceSearch _ payload =>
    payload.validate encoder

/-- The status of the answer to a call that has run. -/
def answerStatus : Except Raised Reply → Nat
  | .ok _ => 200
  | .error (.httpException statusCode _) => statusCode
  | .error _ => 500

/-- A call whose body is checked first. -/
def WorkerCall.receive (cfg : Settings F) (world : World) (call : WorkerCall F)
    (db : Database F) : Nat × Database F :=
  match call.validate encoder with
  | .error raised => (invalidStatus raised, db)
  | .ok _ => (answerStatus (call.serve cfg world db).1, (call.serve cfg world db).2)

/-- A request on a job, as the backend receives it: the status of the answer and the database. -/
def receiveJobRequest (cfg : Settings F) (world : World) (path : Text) (payload : JobPayload F)
    (db : Database F) : Nat × Database F :=
  match routeJobRequest path payload with
  | .error status => (status, db)
  | .ok call => call.receive encoder cfg world db

end RaceFrame
