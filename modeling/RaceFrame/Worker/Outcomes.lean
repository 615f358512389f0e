import RaceFrame.Worker.Api
import RaceFrame.Worker.Transitions

/-!
# The outcomes of a worker call

`Outcome` lists everything that one call can do to the database, and
`outcome_serve` says that the list is complete. Every invariant of the worker
protocol is proved from this list.
-/

namespace RaceFrame

open Core

variable {F : Type}

/-- The job and the attempt that a call names; a claim names none. -/
def WorkerCall.names : WorkerCall F → Option (JobKey × Uuid)
  | .claim _ => none
  | .heartbeat kind jobId attemptId => some ((kind, jobId), attemptId)
  | .fail kind jobId payload => some ((kind, jobId), payload.attemptId)
  | .completePhoto jobId payload => some ((.photo, jobId), payload.attemptId)
  | .completeParticipantFace jobId payload => some ((.participantFace, jobId), payload.attemptId)
  | .completeFaceSearch jobId payload => some ((.faceSearch, jobId), payload.attemptId)

/-- The call is a completion. -/
def WorkerCall.isComplete : WorkerCall F → Bool
  | .completePhoto .. | .completeParticipantFace .. | .completeFaceSearch .. => true
  | .claim _ | .heartbeat .. | .fail .. => false

/-- The job and the attempt that an answer hands out. -/
def Reply.handsOut : Reply → Option (JobKey × Uuid)
  | .job (some claim) =>
    claim.attemptId.map fun attemptId =>
      match claim.subject with
      | .photo .. => ((.photo, claim.id), attemptId)
      | .participantFace .. => ((.participantFace, claim.id), attemptId)
      | .faceSearch .. => ((.faceSearch, claim.id), attemptId)
  | .job none | .status _ => none

variable [Scalar F]

/-- What one call of a worker does. -/
inductive Outcome (cfg : Settings F) (world : World) (db : Database F) :
    WorkerCall F → Except Raised Reply → Database F → Prop
  /-- An exception: nothing is committed. -/
  | raised (call : WorkerCall F) (e : Raised) : Outcome cfg world db call (.error e) db
  /-- A replay: the job of the attempt is no longer being processed. -/
  | answered {call : WorkerCall F} {key : JobKey} {attemptId : Uuid} {job : Job F}
    {reply : StatusReply} (names : call.names = some (key, attemptId))
    (row : db.jobs.get? key = some job) (attempt : job.attemptId = some attemptId)
    (ended : job.status ≠ .processing) : Outcome cfg world db call (.ok (.status reply)) db
  /-- A claim finds no job. -/
  | idle {target : ClaimTarget} {dead : List (Job F)} {db' : Database F}
    (reaped : ReapedRows
      (db.exhaustedBatch world.locked target.condition (world.clock 0)) dead)
    (committed : db'.exceptImages = (db.putJobs dead).exceptImages) :
    Outcome cfg world db (.claim target) (.ok (.job none)) db'
  /-- A claim hands out a job. -/
  | claimed {target : ClaimTarget} {claimedAt : Instant} {attemptId : Uuid}
    {dead : List (Job F)} {job : Job F} {reply : Reply} {db' : Database F}
    (reaped : ReapedRows
      (db.exhaustedBatch world.locked target.condition (world.clock 0)) dead)
    (mem : job ∈ db.jobs.rows) (claimable : job.isClaimable claimedAt = true)
    (handsOut : reply.handsOut = some (job.key, attemptId))
    (committed : db'.exceptImages = (((db.putJobs dead).putJob
      (claimedJob cfg job attemptId claimedAt)).startParent job.ref).exceptImages) :
    Outcome cfg world db (.claim target) (.ok reply) db'
  /-- A live attempt renews its lease. -/
  | renewed {kind : JobKind} {jobId attemptId : Uuid} {job : Job F} {leaseExpiresAt : Instant}
    {reply : StatusReply} (row : db.jobs.get? (kind, jobId) = some job)
    (held : job.HeldBy attemptId (world.clock 0)) :
    Outcome cfg world db (.heartbeat kind jobId attemptId) (.ok (.status reply))
      (db.putJob { job with leaseExpiresAt := some leaseExpiresAt })
  /-- A live attempt fails and will be retried. -/
  | retried {kind : JobKind} {jobId : Uuid} {payload : FailJobRequest} {job : Job F}
    {retryAfter : Instant} {reply : StatusReply} (row : db.jobs.get? (kind, jobId) = some job)
    (held : job.HeldBy payload.attemptId (world.clock 0))
    (retries : payload.retries job = true) :
    Outcome cfg world db (.fail kind jobId payload) (.ok (.status reply))
      (db.putJob (retriedJob job payload.storedMessage retryAfter))
  /-- A live attempt fails for good. -/
  | ended {kind : JobKind} {jobId : Uuid} {payload : FailJobRequest} {job : Job F}
    {now : Instant} {reply : StatusReply} {db' : Database F}
    (row : db.jobs.get? (kind, jobId) = some job)
    (held : job.HeldBy payload.attemptId (world.clock 0))
    (ends : payload.retries job = false)
    (committed : db'.exceptImages = (db.putJob (endedJob job payload now)).exceptImages) :
    Outcome cfg world db (.fail kind jobId payload) (.ok (.status reply)) db'
  /-- A live attempt delivers text detections. -/
  | recognised {jobId photoId : Uuid} {payload : CompletePhotoJobRequest F} {job : Job F}
    {photo : Photo} {rawResponseJson : JsonDict F} {now : Instant} {reply : StatusReply}
    (row : db.jobs.get? (.photo, jobId) = some job)
    (held : job.HeldBy payload.attemptId (world.clock 0)) (ref : job.ref = .photo photoId .ocr)
    (parent : db.photos.get? photoId = some photo) :
    Outcome cfg world db (.completePhoto jobId payload) (.ok (.status reply))
      ((((db.putJob (releasedJob job)).storeTextDetections job
        (storedTextDetections photo (releasedJob job) payload.detections)).matchTextDetections photo
        (storedTextDetections photo (releasedJob job) payload.detections)).finishPhotoJob photo
        (releasedJob job) rawResponseJson now)
  /-- A live attempt delivers face detections. -/
  | scanned {jobId photoId : Uuid} {payload : CompletePhotoJobRequest F} {job : Job F}
    {photo : Photo} {rows : Table (PhotoFaceDetection F) PhotoFaceDetection.id}
    {rawResponseJson : JsonDict F} {now : Instant} {reply : StatusReply}
    (row : db.jobs.get? (.photo, jobId) = some job)
    (held : job.HeldBy payload.attemptId (world.clock 0))
    (ref : job.ref = .photo photoId .facePhotoScan)
    (parent : db.photos.get? photoId = some photo)
    (inserted : ((db.putJob (releasedJob job)).deletePhotoFaceDetections fun d =>
      d.photoJobId == job.id).photoFaceDetections.insertAll? (storedFaceDetections photo
        (releasedJob job) ((List.range (usableFaces payload.faceDetections).length).map
          world.uuids) payload.faceDetections) = some rows) :
    Outcome cfg world db (.completePhoto jobId payload) (.ok (.status reply))
      ((((db.putJob (releasedJob job)).deletePhotoFaceDetections fun d =>
        d.photoJobId == job.id).setPhotoFaceDetections rows).finishPhotoJob photo
        (releasedJob job) rawResponseJson now)
  /-- A live attempt delivers the embedding of an enrolment selfie. -/
  | enrolled {jobId eventId participantId faceImageId : Uuid}
    {payload : CompleteEmbeddingJobRequest F} {job : Job F}
    {rows : Table (ParticipantFaceEmbedding F) ParticipantFaceEmbedding.faceImageId}
    {rawResponseJson : JsonDict F} {now : Instant} {reply : StatusReply}
    (row : db.jobs.get? (.participantFace, jobId) = some job)
    (held : job.HeldBy payload.attemptId (world.clock 0))
    (ref : job.ref = .participantFace eventId participantId faceImageId)
    (usable : normalizeEmbeddingPayload payload.embedding ≠ [])
    (inserted : db.participantFaceEmbeddings.insert?
      (enrolledEmbedding eventId participantId faceImageId payload.toEmbeddingResult) = some rows) :
    Outcome cfg world db (.completeParticipantFace jobId payload) (.ok (.status reply))
      (((((db.putJob (releasedJob job)).setFaceImage faceImageId .ready none).putJob
        (completedJob (releasedJob job) rawResponseJson now)).setFaceEmbeddings
          rows).matchParticipant cfg participantId eventId)
  /-- A live attempt delivers the embedding of a search selfie. -/
  | searched {jobId eventId searchSessionId searchImageId : Uuid}
    {payload : CompleteEmbeddingJobRequest F} {job : Job F} {rawResponseJson : JsonDict F}
    {now sessionFinishedAt : Instant} {reply : StatusReply} {db' : Database F}
    (row : db.jobs.get? (.faceSearch, jobId) = some job)
    (held : job.HeldBy payload.attemptId (world.clock 0))
    (ref : job.ref = .faceSearch eventId searchSessionId searchImageId)
    (usable : normalizeEmbeddingPayload payload.embedding ≠ [])
    (fits : (db.eventFaces eventId).length ≤ cfg.maxSearchFacesPerEvent)
    (committed : db'.exceptSearchResults =
      ((db.putJob (releasedJob job)).finishFaceSearchJob (releasedJob job) searchSessionId
        searchImageId rawResponseJson (db.searchJobStatuses searchSessionId) now
        sessionFinishedAt).exceptSearchResults) :
    Outcome cfg world db (.completeFaceSearch jobId payload) (.ok (.status reply)) db'

omit [Scalar F] in
/-- A claim describes its job, whose attempt it hands out. -/
theorem run_claimSubject (job : Job F) {s : Session F}
    (hsubject : s.current.HasSubject job.ref) :
    ∃ subject, (claimSubject job).run s = (.ok subject, s) ∧
      ∀ (cfg : Settings F) (collection : String),
        Reply.handsOut (.job (some (jobClaimMetadata cfg collection job subject))) =
          job.attemptId.map fun attemptId => (job.key, attemptId) := by
  unfold claimSubject Reply.handsOut jobClaimMetadata Job.key
  cases href : job.ref <;>
  · rw [href] at hsubject
    obtain ⟨object, hobject⟩ := hsubject
    simp only [Program.run_gets_bind, Request.run_loaded_bind, hobject,
      Request.run_ofOption_some_bind]
    exact ⟨_, rfl, fun _ _ => rfl⟩

theorem handle_claim (cfg : Settings F) (target : ClaimTarget) :
    (WorkerCall.claim target : WorkerCall F).handle cfg =
      Reply.job <$> claimRoute cfg target.collection target.condition := by
  cases target <;> rfl

private theorem outcome_claim (cfg : Settings F) (world : World) (db : Database F)
    (target : ClaimTarget) :
    Outcome cfg world db (.claim target) ((WorkerCall.claim target).serve cfg world db).1
      ((WorkerCall.claim target).serve cfg world db).2 := by
  have hclaim := run_claimJob cfg target.condition world db
  rw [WorkerCall.serve, handle_claim]
  simp only [Request.serve, Program.run_map, claimRoute, Program.run_bind]
  cases hrun : (claimJob cfg target.condition).run (Session.sessionLocal world db) with
  | mk r t =>
    rw [hrun] at hclaim
    cases hclaim with
    | raised committed =>
      rw [committed]
      exact .raised _ _
    | idle reaped committed => exact .idle reaped committed
    | @claimed claimedAt attemptId _ job _ reaped mem claimable subject committed =>
      obtain ⟨_, hsubject, hhandsOut⟩ :=
        run_claimSubject (claimedJob cfg job attemptId claimedAt) subject
      simp only [Program.run_bind, hsubject]
      exact .claimed reaped mem claimable (hhandsOut cfg _) committed

omit [Scalar F] in
private theorem run_loadJob_bind {α : Type} (kind : JobKind) (notFound : String) (jobId : Uuid)
    (f : Job F → Request F α) (s : Session F) :
    (loadJob kind notFound jobId >>= f).run s =
      match s.flushed.jobs.get? (kind, jobId) with
      | some job => (f job).run s
      | none => (.error (.httpException 404 notFound), s) := by
  rw [loadJob, bind_assoc, Request.run_query_bind]
  cases s.flushed.jobs.get? (kind, jobId) <;> rfl

omit [Scalar F] in
/-- A call that names a job is served on its row. -/
theorem serve_jobCall (world : World) {kind : JobKind} {notFound : String} {jobId : Uuid}
    {x : Job F → Request F StatusReply} {db : Database F} {job : Job F}
    (hjob : db.jobs.get? (kind, jobId) = some job) :
    Request.serve world (Reply.status <$> (loadJob kind notFound jobId >>= x)) db =
      (((x job).run (Session.sessionLocal world db)).1.map Reply.status,
        ((x job).run (Session.sessionLocal world db)).2.committed) := by
  have hjob' : (Session.sessionLocal world db).flushed.jobs.get? (kind, jobId) = some job := hjob
  simp only [Request.serve, Program.run_map, run_loadJob_bind, hjob']

omit [Scalar F] in
private theorem serve_jobCall_of_none (world : World) {kind : JobKind} {notFound : String}
    {jobId : Uuid} {x : Job F → Request F StatusReply} {db : Database F}
    (hjob : db.jobs.get? (kind, jobId) = none) :
    Request.serve world (Reply.status <$> (loadJob kind notFound jobId >>= x)) db =
      (.error (.httpException 404 notFound), db) := by
  have hjob' : (Session.sessionLocal world db).flushed.jobs.get? (kind, jobId) = none := hjob
  simp only [Request.serve, Program.run_map, run_loadJob_bind, hjob']
  rfl

private theorem outcome_heartbeat (cfg : Settings F) (world : World) (db : Database F)
    (kind : JobKind) (jobId attemptId : Uuid) :
    Outcome cfg world db (.heartbeat kind jobId attemptId)
      ((WorkerCall.heartbeat kind jobId attemptId).serve cfg world db).1
      ((WorkerCall.heartbeat kind jobId attemptId).serve cfg world db).2 := by
  have hhandle : ∃ notFound, (WorkerCall.heartbeat kind jobId attemptId : WorkerCall F).handle cfg =
      Reply.status <$> (loadJob kind notFound jobId >>= fun job =>
        heartbeatJob cfg job attemptId) := by
    cases kind <;> exact ⟨_, rfl⟩
  obtain ⟨notFound, hhandle⟩ := hhandle
  rw [WorkerCall.serve, hhandle]
  cases hjob : db.jobs.get? (kind, jobId) with
  | none =>
    rw [serve_jobCall_of_none world hjob]
    exact .raised _ _
  | some job =>
    rw [serve_jobCall world hjob]
    by_cases hheld : job.HeldBy attemptId (world.clock 0)
    · obtain ⟨hok, hcommitted⟩ :=
        run_heartbeatJob_of_heldBy cfg (s := Session.sessionLocal world db) hheld
      rw [hok, hcommitted]
      exact .renewed hjob hheld
    · obtain ⟨herr, hcommitted⟩ :=
        run_heartbeatJob_of_not_heldBy cfg (s := Session.sessionLocal world db) hheld
      obtain ⟨e, he⟩ := herr
      rw [he, hcommitted]
      exact .raised _ e

private theorem outcome_fail (cfg : Settings F) (world : World) (db : Database F)
    (kind : JobKind) (jobId : Uuid) (payload : FailJobRequest) :
    Outcome cfg world db (.fail kind jobId payload)
      ((WorkerCall.fail kind jobId payload).serve cfg world db).1
      ((WorkerCall.fail kind jobId payload).serve cfg world db).2 := by
  have hhandle : ∃ notFound, (WorkerCall.fail kind jobId payload : WorkerCall F).handle cfg =
      Reply.status <$> (loadJob kind notFound jobId >>= fun job => failJob cfg job payload) := by
    cases kind <;> exact ⟨_, rfl⟩
  obtain ⟨notFound, hhandle⟩ := hhandle
  rw [WorkerCall.serve, hhandle]
  cases hjob : db.jobs.get? (kind, jobId) with
  | none =>
    rw [serve_jobCall_of_none world hjob]
    exact .raised _ _
  | some job =>
    rw [serve_jobCall world hjob]
    by_cases hheld : job.HeldBy payload.attemptId (world.clock 0)
    · cases hretries : payload.retries job with
      | true =>
        obtain ⟨retryAfter, hok, hcommitted⟩ :=
          run_failJob_of_retries cfg (s := Session.sessionLocal world db) hheld hretries
        rw [hok, hcommitted]
        exact .retried hjob hheld hretries
      | false =>
        have hopen : db.HasOpenSibling job.ref :=
          ⟨job, Table.mem_of_get? hjob, rfl, by rw [hheld.status]; rfl⟩
        rcases run_failJob_of_ends cfg (s := Session.sessionLocal world db) hheld hretries
          hopen with
          ⟨⟨e, he⟩, hcommitted⟩ | ⟨now, ⟨reply, hok⟩, hcommitted⟩
        · rw [he, hcommitted]
          exact .raised _ e
        · rw [hok]
          exact .ended hjob hheld hretries hcommitted
    · obtain ⟨hcommitted, hanswer⟩ :=
        run_failJob_of_not_heldBy cfg (s := Session.sessionLocal world db) hheld
      rw [hcommitted]
      cases hr : ((failJob cfg job payload).run (Session.sessionLocal world db)).1 with
      | error e => exact .raised _ e
      | ok reply =>
        obtain ⟨hattempt, hstatus⟩ := hanswer reply hr
        exact .answered rfl hjob hattempt hstatus

omit [Scalar F] in
private theorem run_completeRoute_of_heldBy {s : Session F} {job : Job F} {attemptId : Uuid}
    (h : job.HeldBy attemptId (s.world.clock 0)) (complete : Job F → Request F Unit) :
    let delivered := (complete (releasedJob job)).run
      (s.tick.assign fun db => db.putJob (releasedJob job))
    (completeRoute job attemptId complete).run s =
      (delivered.1.map fun _ => .attempt (.terminal .completed), delivered.2) := by
  rw [completeRoute, Program.run_bind_ok (run_verifyActiveAttempt_of_heldBy h true)]
  simp only [Request.run_assign_bind]
  rw [Program.run_bind]
  rcases (complete (releasedJob job)).run (s.tick.assign fun db =>
    db.putJob (releasedJob job)) with ⟨_ | _, t⟩ <;> rfl

omit [Scalar F] in
private theorem run_completeRoute_of_not_heldBy {s : Session F} {job : Job F} {attemptId : Uuid}
    (h : ¬ job.HeldBy attemptId (s.world.clock 0)) (complete : Job F → Request F Unit) :
    ((completeRoute job attemptId complete).run s).2.committed = s.committed ∧
      ∀ reply, ((completeRoute job attemptId complete).run s).1 = .ok reply →
        job.attemptId = some attemptId ∧ job.status ≠ .processing := by
  obtain ⟨r, t, hrun, hcommitted, hne, hok⟩ := run_verifyActiveAttempt_of_not_heldBy h true
  rw [completeRoute, Program.run_bind, hrun]
  cases r with
  | error e => exact ⟨hcommitted, fun reply hreply => nomatch hreply⟩
  | ok state =>
    obtain ⟨hattempt, hstatus⟩ := hok state rfl
    have hstatus' : job.status ≠ .processing := by
      rintro hprocessing
      simp [hprocessing, JobStatus.isTerminal] at hstatus
    cases state with
    | processing => exact absurd rfl hne
    | retryScheduled => exact ⟨hcommitted, fun _ _ => ⟨hattempt, hstatus'⟩⟩
    | terminal status =>
      cases status <;> exact ⟨hcommitted, fun _ _ => ⟨hattempt, hstatus'⟩⟩

/-- What remains to be said about a completion route: what it does for a live attempt. -/
private theorem outcome_completeRoute {cfg : Settings F} {world : World} {db : Database F}
    {call : WorkerCall F} {kind : JobKind} {jobId attemptId : Uuid} {notFound : String}
    {complete : Job F → Request F Unit} (hnames : call.names = some ((kind, jobId), attemptId))
    (hhandle : call.handle cfg = Reply.status <$> (loadJob kind notFound jobId >>= fun job =>
      completeRoute job attemptId complete))
    (hheld : ∀ job, db.jobs.get? (kind, jobId) = some job → job.HeldBy attemptId (world.clock 0) →
      let delivered := (complete (releasedJob job)).run
        ((Session.sessionLocal world db).tick.assign fun db => db.putJob (releasedJob job))
      (∃ e, delivered.1 = .error e) ∧ delivered.2.committed = db ∨ delivered.1 = .ok () ∧
        ∀ reply, Outcome cfg world db call (.ok (.status reply)) delivered.2.committed) :
    Outcome cfg world db call (call.serve cfg world db).1 (call.serve cfg world db).2 := by
  rw [WorkerCall.serve, hhandle]
  cases hjob : db.jobs.get? (kind, jobId) with
  | none =>
    rw [serve_jobCall_of_none world hjob]
    exact .raised _ _
  | some job =>
    rw [serve_jobCall world hjob]
    by_cases hh : job.HeldBy attemptId (world.clock 0)
    · rw [run_completeRoute_of_heldBy (s := Session.sessionLocal world db) hh]
      rcases hheld job hjob hh with ⟨⟨e, he⟩, hcommitted⟩ | ⟨hok, houtcome⟩
      · simp only [he, hcommitted]
        exact .raised _ e
      · simp only [hok]
        exact houtcome _
    · obtain ⟨hcommitted, hanswer⟩ :=
        run_completeRoute_of_not_heldBy (s := Session.sessionLocal world db) hh complete
      rw [hcommitted]
      cases hr : ((completeRoute job attemptId complete).run (Session.sessionLocal world db)).1 with
      | error e => exact .raised _ e
      | ok reply =>
        obtain ⟨hattempt, hstatus⟩ := hanswer reply hr
        exact .answered hnames hjob hattempt hstatus

private theorem outcome_completePhoto (cfg : Settings F) (world : World) (db : Database F)
    (jobId : Uuid) (payload : CompletePhotoJobRequest F) :
    Outcome cfg world db (.completePhoto jobId payload)
      ((WorkerCall.completePhoto jobId payload).serve cfg world db).1
      ((WorkerCall.completePhoto jobId payload).serve cfg world db).2 := by
  refine outcome_completeRoute rfl rfl ?_
  intro job hjob hheld
  have href : (releasedJob job).ref = job.ref := rfl
  rw [href]
  cases href : job.ref with
  | photo photoId jobType =>
    cases jobType with
    | ocr =>
      dsimp only
      by_cases hfaces : payload.faceDetections.isEmpty = true
      · rw [if_pos hfaces]
        cases hphoto : db.photos.get? photoId with
        | none =>
          rw [run_completePhotoOcrJob_of_none (s := (Session.sessionLocal world db).tick.assign
            fun db => db.putJob (releasedJob job)) hphoto]
          exact Or.inl ⟨⟨_, rfl⟩, rfl⟩
        | some photo =>
          obtain ⟨hok, hcommitted⟩ := run_completePhotoOcrJob
            (s := (Session.sessionLocal world db).tick.assign fun db => db.putJob (releasedJob job))
            hphoto (releasedJob job) payload.detections payload.rawResponseJson
          refine Or.inr ⟨hok, fun reply => ?_⟩
          rw [hcommitted]
          exact .recognised hjob hheld href hphoto
      · rw [if_neg hfaces]
        exact Or.inl ⟨⟨_, rfl⟩, rfl⟩
    | facePhotoScan =>
      dsimp only
      by_cases htexts : payload.detections.isEmpty = true
      · rw [if_pos htexts]
        rcases run_completePhotoFaceJob ((Session.sessionLocal world db).tick.assign fun db =>
          db.putJob (releasedJob job)) photoId (releasedJob job) payload.faceDetections
          payload.rawResponseJson with herr | ⟨photo, rows, hphoto, hrows, hok, hcommitted⟩
        · exact Or.inl herr
        · refine Or.inr ⟨hok, fun reply => ?_⟩
          rw [hcommitted]
          exact .scanned hjob hheld href hphoto hrows
      · rw [if_neg htexts]
        exact Or.inl ⟨⟨_, rfl⟩, rfl⟩
  | participantFace eventId participantId faceImageId => exact Or.inl ⟨⟨_, rfl⟩, rfl⟩
  | faceSearch eventId searchSessionId searchImageId => exact Or.inl ⟨⟨_, rfl⟩, rfl⟩

private theorem outcome_completeParticipantFace (cfg : Settings F) (world : World)
    (db : Database F) (jobId : Uuid) (payload : CompleteEmbeddingJobRequest F) :
    Outcome cfg world db (.completeParticipantFace jobId payload)
      ((WorkerCall.completeParticipantFace jobId payload).serve cfg world db).1
      ((WorkerCall.completeParticipantFace jobId payload).serve cfg world db).2 := by
  refine outcome_completeRoute rfl rfl ?_
  intro job hjob hheld
  have href : (releasedJob job).ref = job.ref := rfl
  rw [href]
  cases href : job.ref with
  | photo photoId jobType => exact Or.inl ⟨⟨_, rfl⟩, rfl⟩
  | participantFace eventId participantId faceImageId =>
    rcases run_completeParticipantFaceJob cfg ((Session.sessionLocal world db).tick.assign fun db =>
      db.putJob (releasedJob job)) (releasedJob job) eventId participantId faceImageId
      payload.toEmbeddingResult with herr | ⟨rows, husable, hrows, hok, hcommitted⟩
    · exact Or.inl herr
    · refine Or.inr ⟨hok, fun reply => ?_⟩
      rw [hcommitted]
      exact .enrolled hjob hheld href husable hrows
  | faceSearch eventId searchSessionId searchImageId => exact Or.inl ⟨⟨_, rfl⟩, rfl⟩

private theorem outcome_completeFaceSearch (cfg : Settings F) (world : World)
    (db : Database F) (jobId : Uuid) (payload : CompleteEmbeddingJobRequest F) :
    Outcome cfg world db (.completeFaceSearch jobId payload)
      ((WorkerCall.completeFaceSearch jobId payload).serve cfg world db).1
      ((WorkerCall.completeFaceSearch jobId payload).serve cfg world db).2 := by
  refine outcome_completeRoute rfl rfl ?_
  intro job hjob hheld
  have href : (releasedJob job).ref = job.ref := rfl
  rw [href]
  cases href : job.ref with
  | photo photoId jobType => exact Or.inl ⟨⟨_, rfl⟩, rfl⟩
  | participantFace eventId participantId faceImageId => exact Or.inl ⟨⟨_, rfl⟩, rfl⟩
  | faceSearch eventId searchSessionId searchImageId =>
    rcases run_completeFaceSearchJob cfg ((Session.sessionLocal world db).tick.assign fun db =>
      db.putJob (releasedJob job)) (releasedJob job) eventId searchSessionId searchImageId
      payload.toEmbeddingResult with
      herr | ⟨n, now, sessionFinishedAt, husable, hfits, hok, hcommitted⟩
    · exact Or.inl herr
    · exact Or.inr ⟨hok, fun reply => .searched hjob hheld href husable hfits hcommitted⟩

/-- The list of outcomes is complete. -/
theorem outcome_serve (cfg : Settings F) (world : World) (db : Database F) (call : WorkerCall F) :
    Outcome cfg world db call (call.serve cfg world db).1 (call.serve cfg world db).2 := by
  cases call with
  | claim target => exact outcome_claim cfg world db target
  | heartbeat kind jobId attemptId => exact outcome_heartbeat cfg world db kind jobId attemptId
  | fail kind jobId payload => exact outcome_fail cfg world db kind jobId payload
  | completePhoto jobId payload => exact outcome_completePhoto cfg world db jobId payload
  | completeParticipantFace jobId payload =>
    exact outcome_completeParticipantFace cfg world db jobId payload
  | completeFaceSearch jobId payload =>
    exact outcome_completeFaceSearch cfg world db jobId payload

end RaceFrame
