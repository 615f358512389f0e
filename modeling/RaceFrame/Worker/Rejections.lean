import RaceFrame.Schema.Rational
import RaceFrame.Worker.Runs

/-!
# Rejected calls

Heartbeats, failures and completions commit once, as their last statement. A
call that raises before, or in which the database raises, leaves the database as
it was.
-/

namespace RaceFrame

open Core Request

variable {F : Type}

private theorem commitsNothing_verifyActiveAttempt (job : Job F) (attemptId : Uuid)
    (allowTerminal : Bool) :
    CommitsNothing (verifyActiveAttempt job attemptId allowTerminal : Request F AttemptState) := by
  unfold verifyActiveAttempt
  dsimp only
  split
  · exact commitsNothing_pure _
  · split
    · exact commitsNothing_pure _
    · split
      · exact commitsNothing_raise _
      · split
        · exact commitsNothing_raise _
        · refine commitsNothing_utcNow.bind fun now => ?_
          exact Program.Preserves.ite (commitsNothing_raise _) (commitsNothing_pure _)

private theorem commitsNothing_assign (f : Database F → Database F) :
    CommitsNothing (assign f) := commitsNothing_modify fun _ => rfl

private theorem commitsNothing_execute (f : Database F → Database F) :
    CommitsNothing (execute f) := commitsNothing_modify fun _ => rfl

private theorem commitsNothing_flush : CommitsNothing (flush : Request F Unit) :=
  commitsNothing_modify fun _ => rfl

/-- Check an object that a relationship loads, then assign to it. -/
private theorem commitsNothing_loaded_bind {α β : Type} (q : Database F → Option α) (e : Raised)
    {f : PUnit → Request F β} (hf : CommitsNothing (f PUnit.unit)) :
    CommitsNothing (loaded q >>= fun a => discard (ofOption e a) >>= f) :=
  (commitsNothing_gets _).bind fun a => (commitsNothing_ofOption e a).discard.bind fun _ => hf

private theorem commitsNothing_syncTerminalParentState (job : Job F) :
    CommitsNothing (syncTerminalParentState job) := by
  unfold syncTerminalParentState
  split
  · refine (commitsNothing_gets _).bind fun statuses => ?_
    split
    · exact commitsNothing_loaded_bind _ _ (commitsNothing_assign _)
    · exact commitsNothing_pure _
  · exact commitsNothing_loaded_bind _ _ (commitsNothing_assign _)
  · refine commitsNothing_loaded_bind _ _ ?_
    refine (commitsNothing_assign _).bind fun _ => (commitsNothing_gets _).bind fun statuses => ?_
    refine Program.Preserves.ite ?_ (commitsNothing_pure _)
    refine commitsNothing_loaded_bind _ _ ?_
    exact commitsNothing_utcNow.bind fun _ => commitsNothing_assign _

private theorem commitsNothing_endJob (job : Job F) (payload : FailJobRequest) (now : Instant) :
    CommitsNothing (endJob job payload now) := by
  unfold endJob deadLetter
  refine Program.Preserves.ite ?_ ?_
  · exact commitsNothing_utcNow.bind fun _ =>
      (commitsNothing_assign _).bind fun _ => commitsNothing_pure _
  · exact (commitsNothing_assign _).bind fun _ => commitsNothing_pure _

private theorem commitsLast_heartbeatJob (cfg : Settings F) (job : Job F) (attemptId : Uuid) :
    CommitsLast (heartbeatJob cfg job attemptId) := by
  unfold heartbeatJob
  refine (commitsNothing_verifyActiveAttempt job attemptId false).before fun state => ?_
  split
  · refine commitsNothing_utcNow.before fun now => (commitsNothing_assign _).before fun _ => ?_
    exact commitsLast_commit_bind fun _ => rfl
  · exact commitsLast_raise _

private theorem commitsLast_failJob (cfg : Settings F) (job : Job F) (payload : FailJobRequest) :
    CommitsLast (failJob cfg job payload) := by
  unfold failJob
  refine (commitsNothing_verifyActiveAttempt job payload.attemptId true).before fun state => ?_
  split
  · refine commitsNothing_utcNow.before fun now => ?_
    split
    · refine (commitsNothing_gets _).before fun jitter => ?_
      refine (commitsNothing_assign _).before fun _ => ?_
      exact commitsLast_commit_bind fun _ => rfl
    · refine (commitsNothing_endJob job payload now).before fun ended => ?_
      refine (commitsNothing_syncTerminalParentState ended).before fun _ => ?_
      exact commitsLast_commit_bind fun _ => rfl
  · exact commitsLast_pure _

private theorem commitsLast_completeRoute (job : Job F) (attemptId : Uuid)
    {complete : Job F → Request F Unit} (h : ∀ job, CommitsLast (complete job)) :
    CommitsLast (completeRoute job attemptId complete) := by
  unfold completeRoute
  refine (commitsNothing_verifyActiveAttempt job attemptId true).before fun state => ?_
  split
  · exact commitsLast_pure _
  · exact (commitsNothing_assign _).before fun _ => (h _).bind_pure fun _ _ => rfl
  · exact commitsLast_raise _

private theorem commitsLast_finishPhotoJob (photo : Photo) (job : Job F)
    (rawResponseJson : JsonDict F) : CommitsLast (finishPhotoJob photo job rawResponseJson) := by
  unfold finishPhotoJob markPhotoReadyIfJobsDone
  refine commitsNothing_utcNow.before fun now => (commitsNothing_assign _).before fun _ => ?_
  refine commitsNothing_flush.before fun _ => CommitsNothing.before ?_ fun _ => commitsLast_commit
  refine (commitsNothing_gets _).bind fun statuses => ?_
  split
  · exact commitsNothing_assign _
  · exact commitsNothing_pure _

private theorem commitsNothing_markFaceSearchSessionDone (searchSessionId : Uuid) :
    CommitsNothing (markFaceSearchSessionDoneIfJobsDone searchSessionId : Request F Unit) := by
  unfold markFaceSearchSessionDoneIfJobsDone
  refine (commitsNothing_gets _).bind fun statuses => ?_
  refine Program.Preserves.ite ?_ (Program.Preserves.ite (commitsNothing_assign _)
    (commitsNothing_pure _))
  exact commitsNothing_utcNow.bind fun _ => commitsNothing_assign _

variable [Scalar F]

private theorem commitsNothing_createOcrParticipantMatches (photo : Photo)
    (detections : List (PhotoTextDetection F)) :
    CommitsNothing (Face.createOcrParticipantMatches photo detections) := by
  unfold Face.createOcrParticipantMatches recordOcrMatches
  refine CommitsNothing.discard ((commitsNothing_gets _).bind fun participants => ?_)
  refine CommitsNothing.bind (Program.Preserves.forM fun row _ => ?_) fun _ => commitsNothing_pure _
  exact commitsNothing_execute _

private theorem commitsNothing_createFaceMatches (cfg : Settings F)
    (embeddings : List (ParticipantFaceEmbedding F)) (detection : PhotoFaceDetection F) :
    CommitsNothing (createFaceMatches cfg embeddings detection) := by
  unfold createFaceMatches
  refine CommitsNothing.bind (Program.Preserves.forM fun entry _ => ?_) fun _ =>
    commitsNothing_pure _
  exact (commitsNothing_execute _).bind fun _ => commitsNothing_execute _

private theorem commitsNothing_createFaceParticipantMatches (cfg : Settings F)
    (participantId eventId : Uuid) :
    CommitsNothing (createFaceParticipantMatchesForParticipant cfg participantId eventId) := by
  unfold createFaceParticipantMatchesForParticipant
  refine (commitsNothing_gets _).bind fun detections => (commitsNothing_gets _).bind fun rows => ?_
  refine Program.Preserves.foldlM (fun createdCount detection => ?_) 0
  exact (commitsNothing_createFaceMatches cfg rows detection).bind fun _ => commitsNothing_pure _

private theorem commitsLast_completePhotoOcrJob (job : Job F) (photoId : Uuid)
    (detections : List (OCRDetectionPayload F)) (rawResponseJson : Option (JsonDict F)) :
    CommitsLast (completePhotoOcrJob job photoId detections rawResponseJson) := by
  unfold completePhotoOcrJob
  refine (commitsNothing_gets _).before fun row => ?_
  refine (commitsNothing_ofOption _ row).before fun photo => ?_
  refine (commitsNothing_execute _).before fun _ => (commitsNothing_assign _).before fun _ => ?_
  refine commitsNothing_flush.before fun _ => ?_
  refine (commitsNothing_createOcrParticipantMatches photo _).before fun _ => ?_
  exact commitsLast_finishPhotoJob photo job _

private theorem commitsLast_completePhotoFaceJob (job : Job F) (photoId : Uuid)
    (faceDetections : List (FaceDetectionPayload F)) (rawResponseJson : Option (JsonDict F)) :
    CommitsLast (completePhotoFaceJob job photoId faceDetections rawResponseJson) := by
  unfold completePhotoFaceJob
  refine (commitsNothing_gets _).before fun row => ?_
  refine (commitsNothing_ofOption _ row).before fun photo => ?_
  refine (commitsNothing_execute _).before fun _ => (commitsNothing_uuid4s _).before fun ids => ?_
  refine (commitsNothing_gets _).before fun rows => ?_
  refine (commitsNothing_ofOption _ rows).before fun rows => ?_
  refine (commitsNothing_assign _).before fun _ => commitsNothing_flush.before fun _ => ?_
  exact commitsLast_finishPhotoJob photo job _

private theorem commitsLast_completeParticipantFaceJob (cfg : Settings F) (job : Job F)
    (eventId participantId faceImageId : Uuid) (result : EmbeddingResult F) :
    CommitsLast (completeParticipantFaceJob cfg job eventId participantId faceImageId result) := by
  unfold completeParticipantFaceJob
  split
  · exact commitsLast_raise _
  · refine (commitsNothing_gets _).before fun image => ?_
    refine (commitsNothing_ofOption _ image).discard.before fun _ => ?_
    refine (commitsNothing_assign _).before fun _ => commitsNothing_utcNow.before fun now => ?_
    refine (commitsNothing_assign _).before fun _ => (commitsNothing_gets _).before fun rows => ?_
    refine (commitsNothing_ofOption _ rows).before fun rows => ?_
    refine (commitsNothing_assign _).before fun _ => commitsNothing_flush.before fun _ => ?_
    refine CommitsNothing.before ?_ fun _ => commitsLast_commit
    exact (commitsNothing_createFaceParticipantMatches cfg participantId eventId).discard

private theorem commitsLast_completeFaceSearchJob (cfg : Settings F) (job : Job F)
    (eventId searchSessionId searchImageId : Uuid) (result : EmbeddingResult F) :
    CommitsLast (completeFaceSearchJob cfg job eventId searchSessionId searchImageId result) := by
  unfold completeFaceSearchJob
  split
  · exact commitsLast_raise _
  · refine (keeps_createFaceSearchResults cfg eventId searchSessionId _).commitsNothing.before
      fun matchedCount => ?_
    refine (commitsNothing_gets _).before fun image => ?_
    refine (commitsNothing_ofOption _ image).discard.before fun _ => ?_
    refine (commitsNothing_assign _).before fun _ => commitsNothing_utcNow.before fun now => ?_
    refine (commitsNothing_assign _).before fun _ => (commitsNothing_gets _).before fun row => ?_
    refine (commitsNothing_ofOption _ row).before fun searchSession => ?_
    have hend : CommitsLast (markFaceSearchSessionDoneIfJobsDone searchSession.id >>= fun _ =>
        (commit : Request F Unit)) :=
      (commitsNothing_markFaceSearchSessionDone searchSession.id).before fun _ => commitsLast_commit
    dsimp only
    split
    · exact (keeps_applyAdaptiveReinforcement cfg searchSession false).commitsNothing.discard.before
        fun _ => hend
    · exact hend

/-- A heartbeat, a failure or a completion commits as its last statement. -/
theorem commitsLast_handle (cfg : Settings F) {call : WorkerCall F} {named : JobKey × Uuid}
    (hcall : call.names = some named) : CommitsLast (call.handle cfg) := by
  have hload : ∀ {kind : JobKind} {notFound : String} {jobId : Uuid}
      {route : Job F → Request F StatusReply}, (∀ job, CommitsLast (route job)) →
      CommitsLast (Reply.status <$> (loadJob kind notFound jobId >>= route)) := by
    intro kind notFound jobId route hroute
    refine CommitsLast.map (CommitsNothing.before ?_ hroute) _
    exact (commitsNothing_gets _).bind fun row => commitsNothing_ofOption _ row
  cases call with
  | claim target => cases hcall
  | heartbeat kind jobId attemptId =>
    cases kind <;> exact hload fun job => commitsLast_heartbeatJob cfg job attemptId
  | fail kind jobId payload =>
    cases kind <;> exact hload fun job => commitsLast_failJob cfg job payload
  | completePhoto jobId payload =>
    refine hload fun job => commitsLast_completeRoute job payload.attemptId fun job => ?_
    split
    · split
      · exact commitsLast_completePhotoOcrJob job _ _ _
      · exact commitsLast_raise _
    · split
      · exact commitsLast_completePhotoFaceJob job _ _ _
      · exact commitsLast_raise _
    · exact commitsLast_raise _
  | completeParticipantFace jobId payload =>
    refine hload fun job => commitsLast_completeRoute job payload.attemptId fun job => ?_
    split
    · exact commitsLast_completeParticipantFaceJob cfg job _ _ _ _
    · exact commitsLast_raise _
  | completeFaceSearch jobId payload =>
    refine hload fun job => commitsLast_completeRoute job payload.attemptId fun job => ?_
    split
    · exact commitsLast_completeFaceSearchJob cfg job _ _ _ _
    · exact commitsLast_raise _

/-- A heartbeat, a failure or a completion that raises, on its own account or because the database
raises at one of its statements, leaves the database as it was. -/
theorem rejectedCall_leaves_no_trace (cfg : Settings F) {world : World} {db db' : Database F}
    {call : WorkerCall F} {named : JobKey × Uuid} (hcall : call.names = some named)
    (h : (call.handle cfg).RaisesTo world db db') : db' = db := by
  rcases h with ⟨e, hserve⟩ | ⟨u, hu, rfl⟩
  · have houtcome := outcome_serve cfg world db call
    rw [WorkerCall.serve, hserve] at houtcome
    exact houtcome.eq_of_error
  · exact (commitsLast_handle cfg hcall).eq_of_interrupted hu

/-- A photo with a runner whom the faces have found, while workers hold its OCR job and the job of
an enrolment. -/
def heldJobs : Database ℚ :=
  { Database.empty with
    participants := ⟨[⟨3, 9, "12".toList, "Ada".toList, "12".toList, "ADA".toList⟩], by decide⟩
    photos := ⟨[⟨5, 9, [], [], [], .processing, 0⟩], by decide⟩
    jobs := ⟨[{ Job.queued 7 (.photo 5 .ocr) 3 0 with
          status := .processing, attemptCount := 1, attemptId := some 101,
          claimedAt := some 1000, leaseExpiresAt := some 300001000 },
        { Job.queued 8 (.participantFace 9 3 4) 3 0 with
          status := .processing, attemptCount := 1, attemptId := some 102,
          claimedAt := some 1000, leaseExpiresAt := some 300001000 }],
      by decide⟩
    photoParticipantMatches := ⟨[⟨9, 5, 3, .face, "0.8000".toList, some (4 / 5)⟩],
      List.nodup_singleton _⟩
    participantFaceImages := ⟨[⟨4, 9, 3, [], [], [], .processing, none⟩],
      List.nodup_singleton _⟩ }

/-- The commit of an OCR completion fails when its transaction has stored a text, merged a match and
completed the job, and an enrolment without a usable embedding is refused when the lease of its job
is cleared. The database stays as it is both times. -/
theorem failedCommit_leaves_no_trace :
    let env := Settings.environment ℚ
    let session := Session.sessionLocal (World.still 2000 id) heldJobs
    let reading : WorkerCall ℚ := .completePhoto 7
      ⟨101, [⟨"12".toList, "12".toList, some (19 / 20), none⟩], [], none⟩
    let enrolment : WorkerCall ℚ := .completeParticipantFace 8 ⟨⟨[], none, none, none, none⟩, 102⟩
    (∃ u ∈ (reading.handle env).visits session,
      u.flushed.photoTextDetections.map PhotoTextDetection.detectedText = ["12".toList] ∧
      u.flushed.photoParticipantMatches.rows =
        [⟨9, 5, 3, .ocrFace, "0.8000 | ocr:12".toList, some (19 / 20)⟩] ∧
      u.flushed.jobs.rows.map Job.status = [.completed, .processing] ∧
      u.current.photos.rows.map Photo.status = [.ready] ∧ u.committed = heldJobs) ∧
    ∃ e u, (enrolment.handle env).run session = (.error e, u) ∧
      u.current.jobs.rows.map Job.leaseExpiresAt = [some 300001000, none] ∧
      u.committed = heldJobs := by
  intro env session reading enrolment
  constructor
  · have hlast : ∃ u ∈ ((reading.handle env).visits session).getLast?,
        u.flushed.photoTextDetections.map PhotoTextDetection.detectedText = ["12".toList] ∧
        u.flushed.photoParticipantMatches.rows =
          [⟨9, 5, 3, .ocrFace, "0.8000 | ocr:12".toList, some (19 / 20)⟩] ∧
        u.flushed.jobs.rows.map Job.status = [.completed, .processing] ∧
        u.current.photos.rows.map Photo.status = [.ready] := by
      decide +kernel
    obtain ⟨u, hu, htexts, hmatches, hjobs, hphotos⟩ := hlast
    have hvisited := List.mem_of_getLast? hu
    have hraises : (reading.handle env).RaisesTo (World.still 2000 id) heldJobs u.committed :=
      Or.inr ⟨u, hvisited, rfl⟩
    exact ⟨u, hvisited, htexts, hmatches, hjobs, hphotos,
      rejectedCall_leaves_no_trace env rfl hraises⟩
  · have hrun : (enrolment.handle env).run session =
        (.error (.valueError "Face enrollment result did not include an embedding."),
          ((enrolment.handle env).run session).2) := rfl
    have hraises : (enrolment.handle env).RaisesTo (World.still 2000 id) heldJobs
        ((enrolment.handle env).run session).2.committed := Or.inl ⟨_, rfl⟩
    exact ⟨_, _, hrun, by decide +kernel, rejectedCall_leaves_no_trace env rfl hraises⟩

end RaceFrame
