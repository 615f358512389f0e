import Mathlib.Logic.Relation
import RaceFrame.Core.AllRows
import RaceFrame.Core.Upserts
import RaceFrame.Worker.Requests

/-!
# Presence of workers

`WorkerPresenceHeartbeat` of the worker, whose thread posts what the main thread
says that the worker is doing, and the endpoint that stores it. The payloads may
be lost, repeated and overtaken: with a configuration that the worker starts
with, every one that arrives is accepted and stored, and the thread never gives
up because of one.
-/

namespace RaceFrame

open Core

/-! ## The configuration -/

/-- The constants of the worker that `require_config` checks, with the scheme and the network
location that `urlparse` finds in the address of the backend. -/
structure WorkerConfig where
  backendBaseUrl : Text
  backendScheme : Text
  backendNetloc : Text
  workerApiToken : Text
  pollSeconds : ℚ
  httpRetries : ℤ
  heartbeatSeconds : ℚ
  workerId : Text
  workerVersion : Text
  startedAt : Instant
  maxDownloadBytes : ℤ
  maxImagePixels : ℤ
  maxImageDimension : ℤ
  jobTypes : List Text
  searchFaceMinEdge : ℤ
  searchFaceMinDetectionScore : ℚ

/-- The characters of `[A-Za-z0-9_.-]`. -/
def isWorkerIdChar (c : Char) : Bool := c.isAlphanum || c == '_' || c == '.' || c == '-'

/-- The characters of `[A-Za-z0-9_.:+-]`. -/
def isWorkerVersionChar (c : Char) : Bool := isWorkerIdChar c || c == ':' || c == '+'

/-- `re.fullmatch("[…]{1,bound}", text)`. -/
def fullMatches (allowed : Char → Bool) (bound : Nat) (text : Text) : Bool :=
  decide (1 ≤ text.length) && decide (text.length ≤ bound) && text.all allowed

/-- `missing` of `require_config`. -/
def WorkerConfig.missing (config : WorkerConfig) : List String :=
  (if config.backendBaseUrl.isEmpty then ["BACKEND_BASE_URL"] else []) ++
    if config.workerApiToken.isEmpty then ["WORKER_API_TOKEN"] else []

/-- One of the checks of `require_config`. -/
def check (condition : Prop) [Decidable condition] (message : String) : Except WorkerError Unit :=
  if condition then .ok () else throw (.workerConfig message)

theorem check_eq_ok_iff {condition : Prop} [Decidable condition] {message : String} :
    check condition message = .ok () ↔ condition := by
  by_cases h : condition
  · exact iff_of_true (if_pos h) h
  · rw [check, if_neg h]
    exact iff_of_false (fun hthrow => by cases hthrow) h

theorem check_bind_eq_ok_iff {condition : Prop} [Decidable condition] {message : String}
    {rest : Unit → Except WorkerError Unit} :
    (check condition message >>= rest) = .ok () ↔ condition ∧ rest () = .ok () := by
  rw [bind_eq_ok_iff]
  exact ⟨fun ⟨_, hcheck, hrest⟩ => ⟨check_eq_ok_iff.mp hcheck, hrest⟩,
    fun h => ⟨(), check_eq_ok_iff.mpr h.1, h.2⟩⟩

/-- `require_config`. -/
def requireConfig (config : WorkerConfig) : Except WorkerError Unit := do
  check (config.missing = [])
    ("Missing required env vars: " ++ ", ".intercalate config.missing)
  check ((config.backendScheme = "http".toList ∨ config.backendScheme = "https".toList) ∧
    config.backendNetloc ≠ []) "BACKEND_BASE_URL must be an absolute HTTP(S) URL."
  check ((1 / 10 : ℚ) ≤ config.pollSeconds ∧ config.pollSeconds ≤ 60)
    "WORKER_POLL_SECONDS must be between 0.1 and 60."
  check (1 ≤ config.httpRetries ∧ config.httpRetries ≤ 10)
    "WORKER_HTTP_RETRIES must be between 1 and 10."
  check (10 ≤ config.heartbeatSeconds ∧ config.heartbeatSeconds ≤ 300)
    "WORKER_HEARTBEAT_SECONDS must be between 10 and 300."
  check (fullMatches isWorkerIdChar 128 config.workerId = true)
    "WORKER_ID must be an opaque 1-128 character identifier."
  check (fullMatches isWorkerVersionChar 64 config.workerVersion = true)
    "WORKER_VERSION must be a short release identifier."
  check (1 ≤ config.maxDownloadBytes) "WORKER_MAX_DOWNLOAD_BYTES must be positive."
  check (1000000 ≤ config.maxImagePixels ∧ config.maxImagePixels ≤ 100000000)
    "WORKER_MAX_IMAGE_PIXELS must be between 1,000,000 and 100,000,000."
  check (1024 ≤ config.maxImageDimension ∧ config.maxImageDimension ≤ 32768)
    "WORKER_MAX_IMAGE_DIMENSION must be between 1,024 and 32,768."
  check (config.jobTypes ≠ [] ∧ ∀ jobType ∈ config.jobTypes,
    jobType = "ocr".toList ∨ jobType = "face_photo_scan".toList)
    "WORKER_JOB_TYPES must contain ocr and/or face_photo_scan."
  check (32 ≤ config.searchFaceMinEdge) "SEARCH_FACE_MIN_EDGE must be at least 32 pixels."
  check (0 ≤ config.searchFaceMinDetectionScore ∧ config.searchFaceMinDetectionScore ≤ 1)
    "SEARCH_FACE_MIN_DETECTION_SCORE must be between 0 and 1."

/-! ## The worker -/

/-- The state of `WorkerPresenceHeartbeat` that its lock protects. -/
structure WorkerPresence where
  status : Text
  currentJobId : Option Text
  currentJobType : Option Text

namespace WorkerPresence

/-- A worker that has just started. -/
def new : WorkerPresence := ⟨"idle".toList, none, none⟩

/-- `set_active`. -/
def setActive (job : ClaimReply) : WorkerPresence :=
  ⟨"active".toList, some (uuidText job.id), some job.jobType⟩

/-- `set_idle`. -/
def setIdle : WorkerPresence := ⟨"idle".toList, none, none⟩

/-- `set_draining`. -/
def setDraining : WorkerPresence := ⟨"draining".toList, none, none⟩

end WorkerPresence

/-- The body of a presence heartbeat; its time has a time zone. -/
structure PresencePayload where
  workerId : Text
  workerVersion : Text
  startedAt : Instant
  status : Text
  currentJobId : Option Text
  currentJobType : Option Text

/-- `payload`. -/
def WorkerPresence.payload (config : WorkerConfig) (presence : WorkerPresence) :
    PresencePayload where
  workerId := config.workerId
  workerVersion := config.workerVersion
  startedAt := config.startedAt
  status := presence.status
  currentJobId := presence.currentJobId
  currentJobType := presence.currentJobType

/-- What `_run` does after a request. -/
inductive PresenceThread
  /-- It goes on. -/
  | beating
  /-- `_fatal_error` is set. -/
  | failed (error : WorkerError)
  deriving DecidableEq

/-- The handlers of `_run`; a `LeaseLostError` is a `ControlPlaneError`. -/
def PresenceThread.ofPost : Except WorkerError Unit → PresenceThread
  | .ok _ | .error (.controlPlane _) | .error (.leaseLost _) => .beating
  | .error (.workerConfig message) => .failed (.workerConfig message)
  | .error (.permanentJob _) =>
    .failed (.workerConfig "Backend rejected worker presence heartbeat payload.")

/-! ## The endpoint -/

/-- The statuses of a worker. -/
def presenceStatuses : List Text := ["idle".toList, "active".toList, "draining".toList]

/-- The job types of `validate_current_job_type`. -/
def presenceJobTypes : List Text :=
  ["ocr".toList, "face_photo_scan".toList, "face_selfie_enroll".toList,
    "face_search_probe".toList]

/-- `WorkerHeartbeatRequest`. -/
structure WorkerHeartbeatRequest where
  workerId : Text
  workerVersion : Text
  startedAt : Instant
  status : Text
  currentJobId : Option Uuid
  currentJobType : Option Text

/-- A text field with a pattern that allows some characters. -/
def checkPattern (allowed : Char → Bool) (pattern : String) (bound : Nat) (text : Text) :
    Except Raised Unit :=
  if text.length < 1 then throw (.valueError "String should have at least 1 character")
  else if bound < text.length then
    throw (.valueError ("String should have at most " ++ toString bound ++ " characters"))
  else if text.all allowed then .ok ()
  else throw (.valueError ("String should match pattern '" ++ pattern ++ "'"))

/-- The identifier of the current job. -/
def parseCurrentJobId : Option Text → Except Raised (Option Uuid)
  | none => .ok none
  | some text =>
    match parseUuid text with
    | none => throw (.valueError "Input should be a valid UUID")
    | some id => .ok (some id)

/-- `validate_current_job_type` and the bound of its field. -/
def checkCurrentJobType : Option Text → Except Raised Unit
  | none => .ok ()
  | some jobType =>
    if 32 < jobType.length then
      throw (.valueError "String should have at most 32 characters")
    else if presenceJobTypes.contains jobType then .ok ()
    else throw (.valueError "Unsupported current worker job type.")

/-- The request that a body is validated to; the first error stands for all of them. -/
def PresencePayload.validate (payload : PresencePayload) :
    Except Raised WorkerHeartbeatRequest := do
  checkPattern isWorkerIdChar "^[A-Za-z0-9_.-]+$" 128 payload.workerId
  checkPattern isWorkerVersionChar "^[A-Za-z0-9_.:+-]+$" 64 payload.workerVersion
  if !presenceStatuses.contains payload.status then
    throw (.valueError "Worker status must be idle, active, or draining.")
  let currentJobId ← parseCurrentJobId payload.currentJobId
  checkCurrentJobType payload.currentJobType
  return ⟨payload.workerId, payload.workerVersion, payload.startedAt, payload.status,
    currentJobId, payload.currentJobType⟩

/-- A row of `worker_heartbeats`. -/
structure WorkerHeartbeat extends WorkerHeartbeatRequest where
  lastSeenAt : Instant

/-- The checks of `worker_heartbeats`. -/
def WorkerHeartbeat.checks (row : WorkerHeartbeat) : Bool :=
  !row.workerId.isEmpty && presenceStatuses.contains row.status &&
    row.currentJobType.all presenceJobTypes.contains &&
    if row.status = "active".toList then row.currentJobId.isSome && row.currentJobType.isSome
    else row.currentJobId.isNone && row.currentJobType.isNone

/-- The table of workers. -/
abbrev WorkerHeartbeats := Table WorkerHeartbeat fun row => row.workerId

/-- `record_worker_heartbeat`. -/
def recordWorkerHeartbeat (now : Instant) (payload : WorkerHeartbeatRequest)
    (rows : WorkerHeartbeats) : Except Raised WorkerHeartbeats :=
  if payload.currentJobId.isSome ≠ payload.currentJobType.isSome then
    throw (.httpException 422 "Current job ID and type must be provided together.")
  else if payload.status = "active".toList ∧ ¬payload.currentJobId.isSome then
    throw (.httpException 422 "An active worker must report its current job.")
  else if payload.status ≠ "active".toList ∧
      (payload.currentJobId.isSome ∨ payload.currentJobType.isSome) then
    throw (.httpException 422 "Only an active worker may report a current job.")
  else
    let row : WorkerHeartbeat := ⟨payload, now⟩
    if row.checks then .ok (rows.upsert (fun _ new => new) row) else throw .integrityError

/-- A presence heartbeat, as the backend receives it: the status of the answer and the rows. -/
def receivePresence (now : Instant) (payload : PresencePayload) (rows : WorkerHeartbeats) :
    Nat × WorkerHeartbeats :=
  match payload.validate with
  | .error _ => (422, rows)
  | .ok request =>
    match recordWorkerHeartbeat now request rows with
    | .ok recorded => (200, recorded)
    | .error (.httpException statusCode _) => (statusCode, rows)
    | .error _ => (500, rows)

/-! ## What a worker posts -/

/-- The states that a worker is in, with a job that a claim has handed out. -/
inductive WorkerPresence.Coherent : WorkerPresence → Prop
  | idle : Coherent .setIdle
  | draining : Coherent .setDraining
  | active {job : ClaimReply} {ref : JobRef} (type : job.jobType = ref.jobType)
    (id_lt : job.id < 2 ^ 128) : Coherent (.setActive job)

/-- The request says what the payload says. -/
structure WorkerHeartbeatRequest.Shows (request : WorkerHeartbeatRequest)
    (payload : PresencePayload) : Prop where
  workerId : request.workerId = payload.workerId
  workerVersion : request.workerVersion = payload.workerVersion
  startedAt : request.startedAt = payload.startedAt
  status : request.status = payload.status
  currentJobId : request.currentJobId.map uuidText = payload.currentJobId
  currentJobType : request.currentJobType = payload.currentJobType

theorem fullMatches_of_requireConfig {config : WorkerConfig} (h : requireConfig config = .ok ()) :
    fullMatches isWorkerIdChar 128 config.workerId = true ∧
      fullMatches isWorkerVersionChar 64 config.workerVersion = true := by
  simp only [requireConfig, check_bind_eq_ok_iff] at h
  obtain ⟨-, -, -, -, -, hid, hversion, -⟩ := h
  exact ⟨hid, hversion⟩

/-- What `re.fullmatch` accepts passes the field. -/
theorem checkPattern_of_fullMatches {allowed : Char → Bool} {bound : Nat} {text : Text}
    (h : fullMatches allowed bound text = true) (pattern : String) :
    checkPattern allowed pattern bound text = .ok () := by
  simp only [fullMatches, Bool.and_eq_true, decide_eq_true_eq] at h
  rw [checkPattern, if_neg (by omega), if_neg (by omega), if_pos h.2]

theorem jobType_mem (ref : JobRef) : ref.jobType ∈ presenceJobTypes := by
  have hall : "ocr".toList ∈ presenceJobTypes ∧ "face_photo_scan".toList ∈ presenceJobTypes ∧
      "face_selfie_enroll".toList ∈ presenceJobTypes ∧
        "face_search_probe".toList ∈ presenceJobTypes := by decide
  obtain ⟨hocr, hscan, henroll, hprobe⟩ := hall
  cases ref with
  | photo photoId jobType =>
    cases jobType with
    | ocr => exact hocr
    | facePhotoScan => exact hscan
  | participantFace eventId participantId faceImageId => exact henroll
  | faceSearch eventId searchSessionId searchImageId => exact hprobe

theorem length_le_of_mem_presenceJobTypes {jobType : Text} (h : jobType ∈ presenceJobTypes) :
    jobType.length ≤ 32 := by
  have hall : ∀ text ∈ presenceJobTypes, text.length ≤ 32 := by decide
  exact hall jobType h

theorem checkCurrentJobType_of_mem {jobType : Text} (h : jobType ∈ presenceJobTypes) :
    checkCurrentJobType (some jobType) = .ok () := by
  rw [checkCurrentJobType, if_neg (not_lt.mpr (length_le_of_mem_presenceJobTypes h)),
    if_pos (List.contains_iff_mem.mpr h)]

/-- A payload of the worker is validated to a request that says the same. -/
theorem validate_payload {config : WorkerConfig} (hconfig : requireConfig config = .ok ())
    {presence : WorkerPresence} (h : presence.Coherent) :
    ∃ request, (presence.payload config).validate = .ok request ∧
      request.Shows (presence.payload config) := by
  obtain ⟨hid, hversion⟩ := fullMatches_of_requireConfig hconfig
  have hfields := fun pattern => checkPattern_of_fullMatches hid pattern
  have hversions := fun pattern => checkPattern_of_fullMatches hversion pattern
  cases h with
  | idle =>
    refine ⟨⟨config.workerId, config.workerVersion, config.startedAt, _, none, none⟩, ?_,
      ⟨rfl, rfl, rfl, rfl, rfl, rfl⟩⟩
    simp only [PresencePayload.validate, WorkerPresence.payload, hfields, hversions]
    rfl
  | draining =>
    refine ⟨⟨config.workerId, config.workerVersion, config.startedAt, _, none, none⟩, ?_,
      ⟨rfl, rfl, rfl, rfl, rfl, rfl⟩⟩
    simp only [PresencePayload.validate, WorkerPresence.payload, hfields, hversions]
    rfl
  | @active job ref type id_lt =>
    refine ⟨⟨config.workerId, config.workerVersion, config.startedAt, _, some job.id,
      some job.jobType⟩, ?_, ⟨rfl, rfl, rfl, rfl, rfl, rfl⟩⟩
    have htype : checkCurrentJobType (some job.jobType) = .ok () :=
      checkCurrentJobType_of_mem (type ▸ jobType_mem ref)
    simp only [PresencePayload.validate, WorkerPresence.payload, WorkerPresence.setActive,
      hfields, hversions, parseCurrentJobId, parseUuid_uuidText id_lt, htype]
    rfl

/-! ## What the backend stores -/

/-- Whatever it receives, the backend stores nothing or a row that its checks admit. -/
theorem receivePresence_cases (now : Instant) (payload : PresencePayload)
    (rows : WorkerHeartbeats) :
    (receivePresence now payload rows).2 = rows ∨
      ∃ row : WorkerHeartbeat, row.checks = true ∧
        (payload.validate = .ok row.toWorkerHeartbeatRequest) ∧
        (receivePresence now payload rows).2 = rows.upsert (fun _ new => new) row := by
  unfold receivePresence
  cases hvalid : payload.validate with
  | error raised => exact Or.inl rfl
  | ok request =>
    dsimp only
    cases hrecord : recordWorkerHeartbeat now request rows with
    | error raised => cases raised <;> exact Or.inl rfl
    | ok recorded =>
      unfold recordWorkerHeartbeat at hrecord
      dsimp only at hrecord
      split_ifs at hrecord with _ _ _ hchecks
      cases hrecord
      exact Or.inr ⟨⟨request, now⟩, hchecks, rfl, rfl⟩

/-- A validated body keeps its worker. -/
theorem workerId_of_validate {payload : PresencePayload} {request : WorkerHeartbeatRequest}
    (h : payload.validate = .ok request) : request.workerId = payload.workerId := by
  obtain ⟨_, -, h⟩ := bind_eq_ok_iff.mp h
  obtain ⟨_, -, h⟩ := bind_eq_ok_iff.mp h
  split at h
  · cases h
  · obtain ⟨currentJobId, -, h⟩ := bind_eq_ok_iff.mp h
    obtain ⟨_, -, h⟩ := bind_eq_ok_iff.mp h
    cases h
    rfl

/-- A request of an idle or draining worker without a job, or of an active one with a job. -/
structure WorkerHeartbeatRequest.Consistent (request : WorkerHeartbeatRequest) : Prop where
  nonempty : request.workerId.isEmpty = false
  status : presenceStatuses.contains request.status = true
  jobType : request.currentJobType.all presenceJobTypes.contains = true
  jobId_iff : request.currentJobId.isSome = true ↔ request.status = "active".toList
  jobType_iff : request.currentJobType.isSome = true ↔ request.status = "active".toList

/-- A consistent request is stored. -/
theorem WorkerHeartbeatRequest.Consistent.recorded {request : WorkerHeartbeatRequest}
    (h : request.Consistent) (now : Instant) (rows : WorkerHeartbeats) :
    WorkerHeartbeat.checks ⟨request, now⟩ = true ∧
      recordWorkerHeartbeat now request rows =
        .ok (rows.upsert (fun _ new => new) ⟨request, now⟩) := by
  have hjobId := h.jobId_iff
  have hjobType := h.jobType_iff
  have hchecks : WorkerHeartbeat.checks ⟨request, now⟩ = true := by
    simp only [WorkerHeartbeat.checks, h.nonempty, h.status, h.jobType]
    by_cases hactive : request.status = "active".toList
    · simp [hactive, hjobId, hjobType]
    · simp only [hactive, iff_false, Bool.not_eq_true, Option.isSome_eq_false_iff] at hjobId
      simp only [hactive, iff_false, Bool.not_eq_true, Option.isSome_eq_false_iff] at hjobType
      rw [if_neg hactive]
      simp [hjobId, hjobType]
  refine ⟨hchecks, ?_⟩
  have hsame : request.currentJobId.isSome = request.currentJobType.isSome :=
    Bool.eq_iff_iff.mpr (hjobId.trans hjobType.symm)
  rw [recordWorkerHeartbeat, if_neg (not_not_intro hsame), if_neg, if_neg]
  · exact if_pos hchecks
  · rintro ⟨hnot, hjob | hjob⟩
    · exact hnot (hjobId.mp hjob)
    · exact hnot (hjobType.mp hjob)
  · rintro ⟨hactive, hnot⟩
    exact hnot (hjobId.mpr hactive)

/-- A payload of the worker is accepted and stored. -/
theorem receivePresence_payload {config : WorkerConfig} (hconfig : requireConfig config = .ok ())
    {presence : WorkerPresence} (h : presence.Coherent) (now : Instant)
    (rows : WorkerHeartbeats) :
    ∃ row : WorkerHeartbeat, row.checks = true ∧ row.Shows (presence.payload config) ∧
      receivePresence now (presence.payload config) rows =
        (200, rows.upsert (fun _ new => new) row) := by
  obtain ⟨hid, -⟩ := fullMatches_of_requireConfig hconfig
  obtain ⟨request, hvalid, hshows⟩ := validate_payload hconfig h
  have hworker : request.workerId = config.workerId := hshows.workerId
  have hstatus : request.status = presence.status := hshows.status
  have htype : request.currentJobType = presence.currentJobType := hshows.currentJobType
  have hsome : request.currentJobId.isSome = presence.currentJobId.isSome := by
    rw [← Option.isSome_map, hshows.currentJobId, WorkerPresence.payload]
  have hconsistent : request.Consistent := by
    constructor
    · rw [hworker, List.isEmpty_eq_false_iff]
      intro hnil
      rw [hnil] at hid
      cases hid
    · rw [hstatus]
      cases h with
      | idle | draining => decide
      | active => exact (by decide : presenceStatuses.contains "active".toList = true)
    · rw [htype]
      cases h with
      | idle | draining => rfl
      | @active job ref type id_lt =>
        exact List.contains_iff_mem.mpr (type ▸ jobType_mem ref)
    · rw [hsome, hstatus]
      cases h with
      | idle | draining => decide
      | active => exact iff_of_true rfl rfl
    · rw [htype, hstatus]
      cases h with
      | idle | draining => decide
      | active => exact iff_of_true rfl rfl
  obtain ⟨hchecks, hrecord⟩ := hconsistent.recorded now rows
  refine ⟨⟨request, now⟩, hchecks, hshows, ?_⟩
  rw [receivePresence, hvalid]
  simp only [hrecord]

/-! ## Runs -/

/-- A worker, the payloads that it has posted so far, the statuses with which they have been
answered, and the rows. -/
structure PresenceSystem where
  presence : WorkerPresence
  posted : List PresencePayload
  answers : List Nat
  rows : WorkerHeartbeats

/-- One step: of the main thread, of the thread that posts, of the network, which hands on any
payload that was ever posted, or of others with other names. -/
inductive PresenceStep (config : WorkerConfig) : PresenceSystem → PresenceSystem → Prop
  | setActive (s : PresenceSystem) (job : ClaimReply) (ref : JobRef)
    (type : job.jobType = ref.jobType) (id_lt : job.id < 2 ^ 128) :
    PresenceStep config s { s with presence := .setActive job }
  | setIdle (s : PresenceSystem) : PresenceStep config s { s with presence := .setIdle }
  | setDraining (s : PresenceSystem) : PresenceStep config s { s with presence := .setDraining }
  | send (s : PresenceSystem) :
    PresenceStep config s { s with posted := s.posted ++ [s.presence.payload config] }
  | deliver (s : PresenceSystem) (payload : PresencePayload) (now : Instant)
    (mem : payload ∈ s.posted) :
    PresenceStep config s { s with
      answers := s.answers ++ [(receivePresence now payload s.rows).1]
      rows := (receivePresence now payload s.rows).2 }
  | other (s : PresenceSystem) (payload : PresencePayload) (now : Instant)
    (ne : payload.workerId ≠ config.workerId) :
    PresenceStep config s { s with rows := (receivePresence now payload s.rows).2 }

/-- What holds in every run: the row of the worker is the one from before the run or shows a
payload that it has posted. -/
structure PresenceSystem.Sound (config : WorkerConfig) (rows : WorkerHeartbeats)
    (s : PresenceSystem) : Prop where
  coherent : s.presence.Coherent
  posted : ∀ payload ∈ s.posted, ∃ presence : WorkerPresence,
    presence.Coherent ∧ payload = presence.payload config
  answers : ∀ status ∈ s.answers, status = 200
  checks : s.rows.All fun row => row.checks = true
  shows : ∀ row, s.rows.get? config.workerId = some row →
    rows.get? config.workerId = some row ∨ ∃ payload ∈ s.posted, row.Shows payload

private theorem all_checks_receivePresence {rows : WorkerHeartbeats}
    (h : rows.All fun row => row.checks = true) (now : Instant) (payload : PresencePayload) :
    (receivePresence now payload rows).2.All fun row => row.checks = true := by
  rcases receivePresence_cases now payload rows with hsame | ⟨row, hchecks, -, hrows⟩
  · rw [hsame]
    exact h
  · rw [hrows]
    exact h.upsert hchecks fun _ _ _ => hchecks

private theorem get?_upsert_row (rows : WorkerHeartbeats) (row : WorkerHeartbeat)
    (workerId : Text) :
    (rows.upsert (fun _ new => new) row).get? workerId =
      if row.workerId = workerId then some row else rows.get? workerId := by
  rw [Table.get?_upsert fun _ _ h => h.symm]
  split
  · cases rows.get? workerId <;> rfl
  · rfl

theorem PresenceStep.sound {config : WorkerConfig} (hconfig : requireConfig config = .ok ())
    {rows : WorkerHeartbeats} {s t : PresenceSystem} (h : PresenceStep config s t)
    (hs : s.Sound config rows) : t.Sound config rows := by
  cases h with
  | setActive job ref type id_lt => exact { hs with coherent := .active type id_lt }
  | setIdle => exact { hs with coherent := .idle }
  | setDraining => exact { hs with coherent := .draining }
  | send =>
    refine { hs with posted := fun payload hmem => ?_, shows := fun row hrow => ?_ }
    · rcases List.mem_append.mp hmem with hmem | hmem
      · exact hs.posted payload hmem
      · exact ⟨s.presence, hs.coherent, List.mem_singleton.mp hmem⟩
    · rcases hs.shows row hrow with hbefore | ⟨payload, hmem, hshows⟩
      · exact Or.inl hbefore
      · exact Or.inr ⟨payload, List.mem_append_left _ hmem, hshows⟩
  | deliver payload now mem =>
    obtain ⟨presence, hcoherent, rfl⟩ := hs.posted payload mem
    obtain ⟨row, hchecks, hshows, hreceive⟩ :=
      receivePresence_payload hconfig hcoherent now s.rows
    rw [hreceive]
    refine { hs with
      answers := fun status hmem => ?_
      checks := hs.checks.upsert hchecks fun _ _ _ => hchecks
      shows := fun stored hstored => ?_ }
    · rcases List.mem_append.mp hmem with hmem | hmem
      · exact hs.answers status hmem
      · exact List.mem_singleton.mp hmem
    · have hworker : row.workerId = config.workerId := hshows.workerId
      rw [get?_upsert_row, if_pos hworker] at hstored
      obtain rfl := Option.some.inj hstored
      exact Or.inr ⟨_, mem, hshows⟩
  | other payload now ne =>
    refine { hs with
      checks := all_checks_receivePresence hs.checks now payload
      shows := fun stored hstored => ?_ }
    apply hs.shows stored
    rcases receivePresence_cases now payload s.rows with hsame | ⟨row, -, hvalid, hrows⟩
    · rw [← hsame]
      exact hstored
    · have hother : row.workerId ≠ config.workerId := by
        rw [workerId_of_validate hvalid]
        exact ne
      rw [hrows, get?_upsert_row, if_neg hother] at hstored
      exact hstored

/-- What becomes of the thread after any outcomes of a request: it goes on, its token has been
refused, or its payload has been refused by a status that the endpoint has not answered. -/
def PresenceSystem.GoesOn (s : PresenceSystem) (outcomes : List (Option Nat)) : Prop :=
  PresenceThread.ofPost (BackendClient.post outcomes) = .beating ∨
    (PresenceThread.ofPost (BackendClient.post outcomes) =
        .failed (.workerConfig "Backend rejected WORKER_API_TOKEN.") ∧
      (some 401 ∈ outcomes ∨ some 403 ∈ outcomes)) ∨
    (PresenceThread.ofPost (BackendClient.post outcomes) =
        .failed (.workerConfig "Backend rejected worker presence heartbeat payload.") ∧
      ∃ status, some status ∈ outcomes ∧ status ∉ s.answers)

/-- A request that is tried once more ends like its later tries. -/
theorem PresenceSystem.GoesOn.cons {s : PresenceSystem} {outcome : Option Nat}
    {rest : List (Option Nat)} (h : s.GoesOn rest)
    (hpost : BackendClient.post (outcome :: rest) = BackendClient.post rest) :
    s.GoesOn (outcome :: rest) := by
  rw [GoesOn, hpost]
  rcases h with hbeating | ⟨htoken, hrefused⟩ | ⟨hpayload, status, hmem, hother⟩
  · exact Or.inl hbeating
  · exact Or.inr (Or.inl ⟨htoken,
      hrefused.imp (List.mem_cons_of_mem outcome) (List.mem_cons_of_mem outcome)⟩)
  · exact Or.inr (Or.inr ⟨hpayload, status, List.mem_cons_of_mem outcome hmem, hother⟩)

end RaceFrame
