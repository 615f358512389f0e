import RaceFrame.Worker.Embeddings
import RaceFrame.Worker.Requests

/-!
# The status of a report that raises

Whatever a completion or the report of a failure raises, its answer is no
success: the exceptions with a status have one of 400 and above, and all others
are answered with 500.
-/

namespace RaceFrame

open Core Program

variable {F : Type}

/-- The answer to an exception is no success. -/
def Raised.Fails (e : Raised) : Prop := 400 ≤ answerStatus (.error e)

private theorem fails_httpException {statusCode : Nat} (h : 400 ≤ statusCode) (detail : String) :
    (Raised.httpException statusCode detail).Fails := h

private theorem fails_attributeError : Raised.attributeError.Fails := show 400 ≤ 500 by decide

private theorem fails_integrityError : Raised.integrityError.Fails := show 400 ≤ 500 by decide

private theorem fails_ofOption {α : Type} {e : Raised} (h : e.Fails) (o : Option α) :
    (Request.ofOption e o : Request F α).RaisesOnly Raised.Fails := by
  cases o with
  | none => exact raisesOnly_raise h
  | some a => exact raisesOnly_pure a

private theorem fails_utcNow : (Request.utcNow : Request F Instant).RaisesOnly Raised.Fails :=
  (raisesOnly_gets _).bind fun _ => (raisesOnly_modify _).bind fun _ => raisesOnly_pure _

private theorem fails_verifyActiveAttempt (job : Job F) (attemptId : Uuid)
    (allowTerminal : Bool) :
    (verifyActiveAttempt job attemptId allowTerminal).RaisesOnly Raised.Fails := by
  have hconflict : ∀ detail, (Raised.httpException 409 detail).Fails :=
    fails_httpException (by decide)
  unfold verifyActiveAttempt
  refine RaisesOnly.ite (raisesOnly_pure _) (RaisesOnly.ite (raisesOnly_pure _) ?_)
  refine RaisesOnly.ite (raisesOnly_raise (hconflict _)) ?_
  cases job.leaseExpiresAt with
  | none => exact raisesOnly_raise (hconflict _)
  | some leaseExpiresAt =>
    exact fails_utcNow.bind fun now =>
      RaisesOnly.ite (raisesOnly_raise (hconflict _)) (raisesOnly_pure _)

private theorem fails_completeRoute (job : Job F) (attemptId : Uuid)
    {complete : Job F → Request F Unit}
    (h : ∀ job, (complete job).RaisesOnly Raised.Fails) :
    (completeRoute job attemptId complete).RaisesOnly Raised.Fails := by
  have hconflict : ∀ detail, (Raised.httpException 409 detail).Fails :=
    fails_httpException (by decide)
  unfold completeRoute
  refine (fails_verifyActiveAttempt job attemptId true).bind fun state => ?_
  cases state with
  | processing => exact (raisesOnly_modify _).bind fun _ => (h _).bind fun _ => raisesOnly_pure _
  | retryScheduled => exact raisesOnly_raise (hconflict _)
  | terminal status =>
    cases status with
    | completed => exact raisesOnly_pure _
    | queued | processing | failed | deadLettered => exact raisesOnly_raise (hconflict _)

private theorem fails_syncTerminalParentState (job : Job F) :
    (syncTerminalParentState job).RaisesOnly Raised.Fails := by
  unfold syncTerminalParentState
  split
  · refine (raisesOnly_gets _).bind fun statuses => ?_
    split
    · exact (raisesOnly_gets _).bind fun photo =>
        (fails_ofOption fails_attributeError photo).discard.bind fun _ => raisesOnly_modify _
    · exact raisesOnly_pure _
  · exact (raisesOnly_gets _).bind fun image =>
      (fails_ofOption fails_attributeError image).discard.bind fun _ => raisesOnly_modify _
  · refine (raisesOnly_gets _).bind fun image => ?_
    refine (fails_ofOption fails_attributeError image).discard.bind fun _ => ?_
    refine (raisesOnly_modify _).bind fun _ => (raisesOnly_gets _).bind fun statuses => ?_
    refine RaisesOnly.ite ?_ (raisesOnly_pure _)
    refine (raisesOnly_gets _).bind fun session => ?_
    refine (fails_ofOption fails_attributeError session).discard.bind fun _ => ?_
    exact fails_utcNow.bind fun _ => raisesOnly_modify _

private theorem fails_failJob (cfg : Settings F) (job : Job F) (payload : FailJobRequest) :
    (failJob cfg job payload).RaisesOnly Raised.Fails := by
  unfold failJob
  refine (fails_verifyActiveAttempt job payload.attemptId true).bind fun state => ?_
  cases state with
  | retryScheduled | terminal => exact raisesOnly_pure _
  | processing =>
    refine fails_utcNow.bind fun now => RaisesOnly.ite ?_ ?_
    · exact (raisesOnly_gets _).bind fun _ => (raisesOnly_modify _).bind fun _ =>
        (raisesOnly_modify _).bind fun _ => raisesOnly_pure _
    · refine RaisesOnly.bind (RaisesOnly.ite ?_ ?_) fun ended => ?_
      · exact fails_utcNow.bind fun _ => (raisesOnly_modify _).bind fun _ => raisesOnly_pure _
      · exact (raisesOnly_modify _).bind fun _ => raisesOnly_pure _
      · exact (fails_syncTerminalParentState ended).bind fun _ =>
          (raisesOnly_modify _).bind fun _ => raisesOnly_pure _

variable [Scalar F]

private theorem fails_completePhotoOcrJob (job : Job F) (photoId : Uuid)
    (detections : List (OCRDetectionPayload F)) (rawResponseJson : Option (JsonDict F)) :
    (completePhotoOcrJob job photoId detections rawResponseJson).RaisesOnly Raised.Fails := by
  intro s e h
  cases hphoto : s.current.photos.get? photoId with
  | none =>
    rw [run_completePhotoOcrJob_of_none hphoto] at h
    cases h
    exact fails_attributeError
  | some photo =>
    rw [(run_completePhotoOcrJob hphoto job detections rawResponseJson).1] at h
    cases h

omit [Scalar F] in
private theorem fails_markPhotoReadyIfJobsDone (photoId : Uuid) :
    (markPhotoReadyIfJobsDone photoId : Request F Unit).RaisesOnly Raised.Fails := by
  refine (raisesOnly_gets _).bind fun statuses => ?_
  cases markedPhotoStatus statuses with
  | none => exact raisesOnly_pure _
  | some status => exact raisesOnly_modify _

private theorem fails_completePhotoFaceJob (job : Job F) (photoId : Uuid)
    (faceDetections : List (FaceDetectionPayload F)) (rawResponseJson : Option (JsonDict F)) :
    (completePhotoFaceJob job photoId faceDetections rawResponseJson).RaisesOnly Raised.Fails := by
  unfold completePhotoFaceJob finishPhotoJob
  refine (raisesOnly_gets _).bind fun photo => ?_
  refine (fails_ofOption fails_attributeError _).bind fun photo => ?_
  refine (raisesOnly_modify _).bind fun _ => ?_
  refine RaisesOnly.bind ?_ fun ids => ?_
  · exact (raisesOnly_gets _).bind fun _ => (raisesOnly_modify _).bind fun _ => raisesOnly_pure _
  refine (raisesOnly_gets _).bind fun inserted => ?_
  refine (fails_ofOption fails_integrityError _).bind fun rows => ?_
  refine (raisesOnly_modify _).bind fun _ => (raisesOnly_modify _).bind fun _ => ?_
  refine fails_utcNow.bind fun finishedAt => (raisesOnly_modify _).bind fun _ => ?_
  refine (raisesOnly_modify _).bind fun _ => ?_
  exact (fails_markPhotoReadyIfJobsDone _).bind fun _ => raisesOnly_modify _

/-! ## Single faces -/

private theorem fails_createFaceParticipantMatches (cfg : Settings F)
    (participantId eventId : Uuid) :
    (createFaceParticipantMatchesForParticipant cfg participantId eventId).RaisesOnly
      Raised.Fails := by
  refine (raisesOnly_gets _).bind fun detections => ?_
  refine (raisesOnly_gets _).bind fun embeddings => ?_
  refine RaisesOnly.foldlM (fun _ detection => ?_) _
  refine RaisesOnly.bind ?_ fun _ => raisesOnly_pure _
  refine (RaisesOnly.forM fun entry => ?_).bind fun _ => raisesOnly_pure _
  exact (raisesOnly_modify _).bind fun _ => raisesOnly_modify _

private theorem fails_completeParticipantFaceJob (cfg : Settings F) (job : Job F)
    (eventId participantId faceImageId : Uuid) (result : EmbeddingResult F) :
    (completeParticipantFaceJob cfg job eventId participantId faceImageId result).RaisesOnly
      Raised.Fails := by
  refine RaisesOnly.ite (raisesOnly_raise (show 400 ≤ 500 by decide)) ?_
  refine (raisesOnly_gets _).bind fun image => ?_
  refine (fails_ofOption fails_attributeError _).discard.bind fun _ => ?_
  refine (raisesOnly_modify _).bind fun _ => fails_utcNow.bind fun finishedAt => ?_
  refine (raisesOnly_modify _).bind fun _ => (raisesOnly_gets _).bind fun inserted => ?_
  refine (fails_ofOption fails_integrityError _).bind fun rows => ?_
  refine (raisesOnly_modify _).bind fun _ => (raisesOnly_modify _).bind fun _ => ?_
  exact (fails_createFaceParticipantMatches cfg participantId eventId).discard.bind fun _ =>
    raisesOnly_modify _

private theorem fails_of_foldlM_considerDetection {cfg : Settings F} {embedding : List F}
    {detections : List (PhotoFaceDetection F)} {heap : List (SearchCandidate F)} {e : Raised}
    (h : detections.foldlM (considerDetection cfg embedding) heap = .error e) : e.Fails := by
  induction detections generalizing heap with
  | nil => cases h
  | cons detection detections ih =>
    rw [List.foldlM_cons] at h
    cases hstep : considerDetection cfg embedding heap detection with
    | ok heap' =>
      rw [hstep] at h
      exact ih h
    | error e' =>
      rw [hstep] at h
      cases h
      simp only [considerDetection] at hstep
      split at hstep
      · cases hstep
      · split at hstep
        · cases hstep
        · split at hstep
          · cases hstep
            exact (by decide : 400 ≤ 500)
          · cases hstep

private theorem fails_createFaceSearchResults (cfg : Settings F) (eventId searchSessionId : Uuid)
    (embedding : List F) :
    (createFaceSearchResults cfg eventId searchSessionId embedding).RaisesOnly Raised.Fails := by
  refine (raisesOnly_gets _).bind fun detections => ?_
  refine RaisesOnly.ite (raisesOnly_raise (show 400 ≤ 500 by decide)) ?_
  refine RaisesOnly.bind ?_ fun candidates => ?_
  · cases hfold : detections.foldlM (considerDetection cfg embedding) [] with
    | error e => exact raisesOnly_raise (fails_of_foldlM_considerDetection hfold)
    | ok candidates => exact raisesOnly_pure candidates
  · exact (RaisesOnly.forM fun _ => raisesOnly_modify _).bind fun _ => raisesOnly_pure _

private theorem fails_reinforceWith (cfg : Settings F) (searchSession : FaceSearchSession)
    (participant : Participant) (requireExactBib : Bool) (progress : Reinforcement)
    (result : FaceSearchResult F) :
    (reinforceWith cfg searchSession participant requireExactBib progress result).RaisesOnly
      Raised.Fails := by
  unfold reinforceWith
  refine RaisesOnly.ite (raisesOnly_pure _) (RaisesOnly.ite (raisesOnly_pure _) ?_)
  refine (raisesOnly_gets _).bind fun photo => (raisesOnly_gets _).bind fun detection => ?_
  cases photo with
  | none => exact raisesOnly_pure _
  | some photo =>
    cases detection with
    | none => exact raisesOnly_pure _
    | some detection =>
      refine (raisesOnly_gets _).bind fun detections => ?_
      refine RaisesOnly.ite (raisesOnly_pure _) (RaisesOnly.ite (raisesOnly_pure _) ?_)
      exact (fails_createFaceSearchResults _ _ _ _).discard.bind fun _ => raisesOnly_pure _

private theorem fails_applyAdaptiveReinforcement (cfg : Settings F)
    (searchSession : FaceSearchSession) (requireExactBib : Bool) :
    (applyAdaptiveReinforcement cfg searchSession requireExactBib).RaisesOnly Raised.Fails := by
  unfold applyAdaptiveReinforcement
  cases searchSession.participantId with
  | none => exact raisesOnly_pure _
  | some participantId =>
    refine (raisesOnly_gets _).bind fun participant => ?_
    cases participant with
    | none => exact raisesOnly_pure _
    | some participant =>
      refine (raisesOnly_gets _).bind fun first => ?_
      refine (RaisesOnly.foldlM (fun _ _ => fails_reinforceWith _ _ _ _ _ _) _).bind
        fun progress => RaisesOnly.ite (raisesOnly_pure _) ?_
      refine (raisesOnly_gets _).bind fun second => ?_
      exact (RaisesOnly.foldlM (fun _ _ => fails_reinforceWith _ _ _ _ _ _) _).bind fun _ =>
        raisesOnly_pure _

omit [Scalar F] in
private theorem fails_markFaceSearchSessionDone (searchSessionId : Uuid) :
    (markFaceSearchSessionDoneIfJobsDone searchSessionId : Request F Unit).RaisesOnly
      Raised.Fails := by
  refine (raisesOnly_gets _).bind fun statuses => RaisesOnly.ite ?_ ?_
  · exact fails_utcNow.bind fun _ => raisesOnly_modify _
  · exact RaisesOnly.ite (raisesOnly_modify _) (raisesOnly_pure _)

private theorem fails_completeFaceSearchJob (cfg : Settings F) (job : Job F)
    (eventId searchSessionId searchImageId : Uuid) (result : EmbeddingResult F) :
    (completeFaceSearchJob cfg job eventId searchSessionId searchImageId result).RaisesOnly
      Raised.Fails := by
  refine RaisesOnly.ite (raisesOnly_raise (show 400 ≤ 500 by decide)) ?_
  refine (fails_createFaceSearchResults _ _ _ _).bind fun matchedCount => ?_
  refine (raisesOnly_gets _).bind fun image => ?_
  refine (fails_ofOption fails_attributeError _).discard.bind fun _ => ?_
  refine (raisesOnly_modify _).bind fun _ => fails_utcNow.bind fun finishedAt => ?_
  refine (raisesOnly_modify _).bind fun _ => (raisesOnly_gets _).bind fun session => ?_
  refine (fails_ofOption fails_attributeError _).bind fun searchSession => ?_
  have hend : (do
      markFaceSearchSessionDoneIfJobsDone searchSession.id
      Request.commit : Request F Unit).RaisesOnly Raised.Fails :=
    (fails_markFaceSearchSessionDone _).bind fun _ => raisesOnly_modify _
  exact RaisesOnly.ite
    ((fails_applyAdaptiveReinforcement _ _ _).discard.bind fun _ => hend) hend

/-! ## The routes -/

/-- No exception of a report is answered with a success. -/
theorem fails_of_serve {cfg : Settings F} {world : World} {db : Database F} {call : WorkerCall F}
    {key : JobKey} {attemptId : Uuid} (hnames : call.names = some (key, attemptId))
    (hcall : call.isHeartbeat = false) {e : Raised}
    (h : (call.serve cfg world db).1 = .error e) : e.Fails := by
  have hload : ∀ kind notFound jobId,
      (loadJob kind notFound jobId : Request F (Job F)).RaisesOnly Raised.Fails :=
    fun kind notFound jobId => (raisesOnly_gets _).bind fun row =>
      fails_ofOption (fails_httpException (by decide) notFound) row
  have hunprocessable : ∀ detail, (Raised.httpException 422 detail).Fails :=
    fails_httpException (by decide)
  have hroute : (call.handle cfg).RaisesOnly Raised.Fails := by
    cases call with
    | claim => cases hnames
    | heartbeat => cases hcall
    | fail kind jobId payload =>
      cases kind <;> exact RaisesOnly.bind
        ((hload _ _ _).bind fun job => fails_failJob cfg job payload) fun _ => raisesOnly_pure _
    | completePhoto jobId payload =>
      refine RaisesOnly.bind ?_ fun _ => raisesOnly_pure _
      refine (hload _ _ _).bind fun job => fails_completeRoute job _ fun job => ?_
      cases href : job.ref with
      | photo photoId jobType =>
        cases jobType with
        | ocr =>
          exact RaisesOnly.ite (fails_completePhotoOcrJob _ _ _ _)
            (raisesOnly_raise (hunprocessable _))
        | facePhotoScan =>
          exact RaisesOnly.ite (fails_completePhotoFaceJob _ _ _ _)
            (raisesOnly_raise (hunprocessable _))
      | participantFace | faceSearch => exact raisesOnly_raise (fails_httpException (by decide) _)
    | completeParticipantFace jobId payload =>
      refine RaisesOnly.bind ?_ fun _ => raisesOnly_pure _
      refine (hload _ _ _).bind fun job => fails_completeRoute job _ fun job => ?_
      cases href : job.ref with
      | participantFace => exact fails_completeParticipantFaceJob _ _ _ _ _ _
      | photo | faceSearch => exact raisesOnly_raise fails_attributeError
    | completeFaceSearch jobId payload =>
      refine RaisesOnly.bind ?_ fun _ => raisesOnly_pure _
      refine (hload _ _ _).bind fun job => fails_completeRoute job _ fun job => ?_
      cases href : job.ref with
      | faceSearch => exact fails_completeFaceSearchJob _ _ _ _ _ _
      | photo | participantFace => exact raisesOnly_raise fails_attributeError
  exact hroute _ e h

/-! ## What an accepted report leaves -/

/-- The row of the job of a completion that has been accepted: it is completed under the attempt
that the completion names. -/
def Database.CompletedBy (db : Database F) (key : JobKey) (attemptId : Uuid) : Prop :=
  ∃ job, db.jobs.get? key = some job ∧ job.attemptId = some attemptId ∧ job.status = .completed

omit [Scalar F] in
private theorem completedBy_put {jobs : Table (Job F) Job.key} {key : JobKey} {job : Job F}
    {attemptId : Uuid} {now : Instant} (hrow : jobs.get? key = some job)
    (held : job.HeldBy attemptId now) (rawResponseJson : JsonDict F) (finishedAt : Instant) :
    ∃ job', (jobs.put (completedJob (releasedJob job) rawResponseJson finishedAt)).get? key =
        some job' ∧ job'.attemptId = some attemptId ∧ job'.status = .completed := by
  refine ⟨completedJob (releasedJob job) rawResponseJson finishedAt, ?_, held.attempt, rfl⟩
  have hkey : (completedJob (releasedJob job) rawResponseJson finishedAt).key = key :=
    (rfl : _ = job.key).trans (Table.get?_key hrow)
  rw [Table.get?_put, hkey, if_pos rfl, hrow]
  rfl

omit [Scalar F] in
/-- A completion of a job that is not being processed is answered when the job is completed under
its attempt, and rejected otherwise. -/
private theorem run_completeRoute_of_not_processing {s : Session F} {job : Job F}
    {attemptId : Uuid} (h : job.status ≠ .processing) (complete : Job F → Request F Unit) :
    (completeRoute job attemptId complete).run s =
        (.ok (.attempt (.terminal .completed)), s) ∧
      job.attemptId = some attemptId ∧ job.status = .completed ∨
    (∃ e, (completeRoute job attemptId complete).run s = (.error e, s)) ∧
      ¬(job.attemptId = some attemptId ∧ job.status = .completed) := by
  have hrejects : ∀ state : AttemptState, state ≠ .processing → state ≠ .terminal .completed →
      verifyActiveAttempt job attemptId true = (pure state : Request F AttemptState) →
      ∃ e, (completeRoute job attemptId complete).run s = (.error e, s) := by
    intro state hprocessing hcompleted hverify
    rw [completeRoute, hverify]
    cases state with
    | processing => exact absurd rfl hprocessing
    | retryScheduled => exact ⟨_, rfl⟩
    | terminal status =>
      cases status with
      | completed => exact absurd rfl hcompleted
      | queued | processing | failed | deadLettered => exact ⟨_, rfl⟩
  by_cases howned : job.attemptId = some attemptId
  · have hmatches : attemptMatches job.attemptId attemptId = true := by
      rw [attemptMatches, howned, beq_self_eq_true]
    cases hstatus : job.status with
    | processing => exact absurd hstatus h
    | completed =>
      refine Or.inl ⟨?_, howned, rfl⟩
      have hverify : verifyActiveAttempt job attemptId true =
          (pure (.terminal .completed) : Request F AttemptState) := by
        simp [verifyActiveAttempt, hmatches, hstatus, JobStatus.isTerminal]
      rw [completeRoute, hverify]
      rfl
    | queued =>
      refine Or.inr ⟨hrejects .retryScheduled (by simp) (by simp) ?_, by simp⟩
      simp [verifyActiveAttempt, hmatches, hstatus, JobStatus.isTerminal]
    | failed =>
      refine Or.inr ⟨hrejects (.terminal .failed) (by simp) (by simp) ?_, by simp⟩
      simp [verifyActiveAttempt, hmatches, hstatus, JobStatus.isTerminal]
    | deadLettered =>
      refine Or.inr ⟨hrejects (.terminal .deadLettered) (by simp) (by simp) ?_, by simp⟩
      simp [verifyActiveAttempt, hmatches, hstatus, JobStatus.isTerminal]
  · have hmatches : attemptMatches job.attemptId attemptId = false := by
      rw [attemptMatches, beq_eq_false_iff_ne]
      exact howned
    have hverify : verifyActiveAttempt job attemptId true =
        (Program.raise (.httpException 409 "The job is not owned by this worker attempt.") :
          Request F AttemptState) := by
      simp [verifyActiveAttempt, hmatches]
    have hrun : ∃ e, (completeRoute job attemptId complete).run s = (.error e, s) := by
      rw [completeRoute, hverify]
      exact ⟨_, rfl⟩
    exact Or.inr ⟨hrun, fun hboth => howned hboth.1⟩

/-- The routes of completions. -/
private theorem handle_complete (cfg : Settings F) {call : WorkerCall F}
    (hcall : call.isComplete = true) {key : JobKey} {attemptId : Uuid}
    (hnames : call.names = some (key, attemptId)) :
    ∃ notFound complete, call.handle cfg = Reply.status <$>
      (loadJob key.1 notFound key.2 >>= fun job => completeRoute job attemptId complete) := by
  cases call with
  | claim | heartbeat | fail => cases hcall
  | completePhoto | completeParticipantFace | completeFaceSearch =>
    cases hnames
    exact ⟨_, _, rfl⟩

/-- A completion of a job that is not being processed changes nothing. It is answered when the job
is completed under its attempt, and rejected otherwise. -/
theorem serve_complete_of_not_processing (cfg : Settings F) (world : World) {db : Database F}
    {call : WorkerCall F} (hcall : call.isComplete = true) {key : JobKey} {attemptId : Uuid}
    (hnames : call.names = some (key, attemptId)) {job : Job F}
    (hrow : db.jobs.get? key = some job) (hstatus : job.status ≠ .processing) :
    (∃ reply, call.serve cfg world db = (.ok reply, db)) ∧
        job.attemptId = some attemptId ∧ job.status = .completed ∨
      (∃ e, call.serve cfg world db = (.error e, db)) ∧
        ¬(job.attemptId = some attemptId ∧ job.status = .completed) := by
  obtain ⟨notFound, complete, hhandle⟩ := handle_complete cfg hcall hnames
  have hload : (loadJob key.1 notFound key.2 >>= fun job =>
      completeRoute job attemptId complete).run (Session.sessionLocal world db) =
        (completeRoute job attemptId complete).run (Session.sessionLocal world db) := by
    rw [loadJob, bind_assoc, Request.run_query_bind]
    change (Request.ofOption _ (db.jobs.get? key) >>= _).run _ = _
    rw [hrow, Request.run_ofOption_some_bind]
  rw [WorkerCall.serve, hhandle, Request.serve, Program.run_map, hload]
  rcases run_completeRoute_of_not_processing (s := Session.sessionLocal world db) hstatus complete
    with ⟨hrun, hcompleted⟩ | ⟨⟨e, hrun⟩, hcompleted⟩
  · rw [hrun]
    exact Or.inl ⟨⟨_, rfl⟩, hcompleted⟩
  · rw [hrun]
    exact Or.inr ⟨⟨e, rfl⟩, hcompleted⟩

/-- A completion of a job that is gone is answered with 404. -/
theorem serve_complete_of_none (cfg : Settings F) (world : World) {db : Database F}
    {call : WorkerCall F} (hcall : call.isComplete = true) {key : JobKey} {attemptId : Uuid}
    (hnames : call.names = some (key, attemptId)) (hrow : db.jobs.get? key = none) :
    ∃ detail, call.serve cfg world db = (.error (.httpException 404 detail), db) := by
  obtain ⟨notFound, complete, hhandle⟩ := handle_complete cfg hcall hnames
  have hload : (loadJob key.1 notFound key.2 >>= fun job =>
      completeRoute job attemptId complete).run (Session.sessionLocal world db) =
        (.error (.httpException 404 notFound), Session.sessionLocal world db) := by
    rw [loadJob, bind_assoc, Request.run_query_bind]
    change (Request.ofOption _ (db.jobs.get? key) >>= _).run _ = _
    rw [hrow, Request.run_ofOption_none_bind]
  rw [WorkerCall.serve, hhandle, Request.serve, Program.run_map, hload]
  exact ⟨notFound, rfl⟩

/-- An accepted completion leaves its job completed under the attempt that it names. -/
theorem completedBy_of_serve {cfg : Settings F} {world : World} {db : Database F}
    {call : WorkerCall F} (hcall : call.isComplete = true) {key : JobKey} {attemptId : Uuid}
    (hnames : call.names = some (key, attemptId)) {reply : Reply}
    (hok : (call.serve cfg world db).1 = .ok reply) :
    (call.serve cfg world db).2.CompletedBy key attemptId := by
  have houtcome := outcome_serve cfg world db call
  rw [hok] at houtcome
  obtain ⟨job, hrow, hheld | ⟨hattempt, hstatus, hsame⟩⟩ := houtcome.accepted hnames
  · generalize (call.serve cfg world db).2 = db' at houtcome
    cases houtcome with
    | answered names row attempt ended =>
      rw [names, Option.some.injEq, Prod.mk.injEq] at hnames
      obtain ⟨rfl, rfl⟩ := hnames
      obtain rfl : job = _ := Option.some.inj (hrow.symm.trans row)
      exact absurd hheld.status ended
    | idle | claimed => cases hnames
    | renewed | retried | ended => cases hcall
    | @recognised jobId photoId payload old photo rawResponseJson now reply row held ref parent =>
      cases hnames
      have hjobs := put_releasedJob_put db.jobs old rawResponseJson now
      rw [Database.CompletedBy, finishPhotoJob_jobs, matchTextDetections_eq]
      change ∃ job, ((db.jobs.put (releasedJob old)).put _).get? _ = some job ∧ _
      rw [hjobs]
      exact completedBy_put row held _ _
    | @scanned jobId photoId payload old photo rows rawResponseJson now reply row held ref parent
        inserted =>
      cases hnames
      have hjobs := put_releasedJob_put db.jobs old rawResponseJson now
      rw [Database.CompletedBy, finishPhotoJob_jobs]
      change ∃ job, ((db.jobs.put (releasedJob old)).put _).get? _ = some job ∧ _
      rw [hjobs]
      exact completedBy_put row held _ _
    | @enrolled jobId eventId participantId faceImageId payload old rows rawResponseJson now reply
        row held ref usable inserted =>
      cases hnames
      have hjobs := put_releasedJob_put db.jobs old rawResponseJson now
      rw [Database.CompletedBy, matchParticipant_eq]
      change ∃ job, ((db.jobs.put (releasedJob old)).put _).get? _ = some job ∧ _
      rw [hjobs]
      exact completedBy_put row held _ _
    | @searched jobId eventId searchSessionId searchImageId payload old rawResponseJson now
        sessionFinishedAt reply _ row held ref usable fits committed =>
      cases hnames
      have hjobs := put_releasedJob_put db.jobs old rawResponseJson now
      have hcommitted := jobs_of_exceptSearchResults committed
      rw [Database.finishFaceSearchJob, markSearchSession_jobs] at hcommitted
      rw [Database.CompletedBy, hcommitted.trans hjobs]
      exact completedBy_put row held _ _
  · rcases serve_complete_of_not_processing cfg world hcall hnames hrow hstatus
      with ⟨-, hcompleted⟩ | ⟨⟨e, hserve⟩, -⟩
    · rw [hsame]
      exact ⟨job, hrow, hcompleted⟩
    · rw [hserve] at hok
      cases hok

end RaceFrame
