import RaceFrame.Worker.Runs

/-!
# At-most-once completion

For any run of worker calls and any job: its completion is committed at most
once, only for the attempt that the last claim handed out and that still holds
its lease; a job that has ended stays as it is; and repeating an accepted report
before the next claim changes nothing.
-/

namespace RaceFrame

open Core

variable {F : Type}

/-- The rows that completions produce. -/
structure CompletionEffects (F : Type) where
  photoTextDetections : List (PhotoTextDetection F)
  photoFaceDetections : List (PhotoFaceDetection F)
  participantFaceEmbeddings : List (ParticipantFaceEmbedding F)
  photoParticipantMatches : List (PhotoParticipantMatch F)
  faceParticipantMatches : List (FaceParticipantMatch F)
  faceSearchResults : List (FaceSearchResult F)

/-- The rows that the completions so far have produced. -/
def Database.effects (db : Database F) : CompletionEffects F where
  photoTextDetections := db.photoTextDetections
  photoFaceDetections := db.photoFaceDetections.rows
  participantFaceEmbeddings := db.participantFaceEmbeddings.rows
  photoParticipantMatches := db.photoParticipantMatches.rows
  faceParticipantMatches := db.faceParticipantMatches.rows
  faceSearchResults := db.faceSearchResults.rows

/-- The rows that belong to one job alone are as before: the detections of a photo job, the
embedding of an enrolment. -/
structure KeepsResults (job : Job F) (db db' : Database F) : Prop where
  texts : job.ref.kind = .photo →
    (db'.photoTextDetections.filter fun d => d.photoJobId == job.id) =
      db.photoTextDetections.filter fun d => d.photoJobId == job.id
  faces : job.ref.kind = .photo →
    (db'.photoFaceDetections.rows.filter fun d => d.photoJobId == job.id) =
      db.photoFaceDetections.rows.filter fun d => d.photoJobId == job.id
  embedding : ∀ eventId participantId faceImageId embedding,
    job.ref = .participantFace eventId participantId faceImageId →
    db.participantFaceEmbeddings.get? faceImageId = some embedding →
    db'.participantFaceEmbeddings.get? faceImageId = some embedding

theorem KeepsResults.refl (job : Job F) (db : Database F) : KeepsResults job db db :=
  ⟨fun _ => rfl, fun _ => rfl, fun _ _ _ _ _ h => h⟩

theorem KeepsResults.trans {job : Job F} {db db' db'' : Database F} (h : KeepsResults job db db')
    (h' : KeepsResults job db' db'') : KeepsResults job db db'' :=
  ⟨fun hkind => (h'.texts hkind).trans (h.texts hkind),
    fun hkind => (h'.faces hkind).trans (h.faces hkind),
    fun _ _ _ _ href hget => h'.embedding _ _ _ _ href (h.embedding _ _ _ _ href hget)⟩

theorem KeepsResults.of_effects_eq {job : Job F} {db db' : Database F}
    (h : db'.effects = db.effects) : KeepsResults job db db' := by
  have htexts : db'.photoTextDetections = db.photoTextDetections :=
    congrArg CompletionEffects.photoTextDetections h
  have hfaces : db'.photoFaceDetections.rows = db.photoFaceDetections.rows :=
    congrArg CompletionEffects.photoFaceDetections h
  have hembeddings : db'.participantFaceEmbeddings.rows = db.participantFaceEmbeddings.rows :=
    congrArg CompletionEffects.participantFaceEmbeddings h
  refine ⟨fun _ => by rw [htexts], fun _ => by rw [hfaces], fun _ _ _ _ _ hget => ?_⟩
  rw [Table.get?, hembeddings]
  exact hget

theorem KeepsResults.of_exceptSearchResults {job : Job F} {db db' : Database F}
    (h : db'.exceptSearchResults = db.exceptSearchResults) : KeepsResults job db db' := by
  have hkept : KeepsResults job db.exceptSearchResults db'.exceptSearchResults :=
    .of_effects_eq (congrArg Database.effects h)
  exact ⟨hkept.texts, hkept.faces, hkept.embedding⟩

private theorem putJobs_effects (db : Database F) (rows : List (Job F)) :
    (db.putJobs rows).effects = db.effects := by
  induction rows generalizing db with
  | nil => rfl
  | cons row rows ih => exact ih (db.putJob row)

private theorem startParent_effects (db : Database F) (ref : JobRef) :
    (db.startParent ref).effects = db.effects := by
  cases ref <;> rfl

private theorem effects_of_exceptImages {db db' : Database F}
    (h : db.exceptImages = db'.exceptImages) : db.effects = db'.effects := by
  have heffects := congrArg Database.effects h
  exact heffects

private theorem finishPhotoJob_effects (db : Database F) (photo : Photo) (job : Job F)
    (rawResponseJson : JsonDict F) (finishedAt : Instant) :
    (db.finishPhotoJob photo job rawResponseJson finishedAt).effects = db.effects := by
  simp only [Database.finishPhotoJob, Database.markPhoto]
  split <;> rfl

variable [Scalar F]

/-- A call that is no completion leaves the effects of completions alone. -/
theorem Outcome.effects_eq {cfg : Settings F} {world : World} {db db' : Database F}
    {call : WorkerCall F} {reply : Except Raised Reply} (h : Outcome cfg world db call reply db')
    (hcall : call.isComplete = false) : db'.effects = db.effects := by
  cases h with
  | raised | answered | renewed | retried => rfl
  | idle reaped committed =>
    rw [effects_of_exceptImages committed, putJobs_effects]
  | claimed reaped mem claimable handsOut committed =>
    rw [effects_of_exceptImages committed, startParent_effects]
    exact putJobs_effects db _
  | ended row held ends committed => exact (effects_of_exceptImages committed).trans rfl
  | recognised | scanned | enrolled | searched => cases hcall

omit [Scalar F] in
private theorem photoJobId_of_mem_storedTextDetections {photo : Photo} {job : Job F}
    {detections : List (OCRDetectionPayload F)} {d : PhotoTextDetection F}
    (h : d ∈ storedTextDetections photo job detections) : d.photoJobId = job.id := by
  obtain ⟨payload, -, hpayload⟩ := List.mem_filterMap.mp h
  simp only [storedTextDetection] at hpayload
  split at hpayload
  · cases hpayload
  · rw [← Option.some.inj hpayload]

private theorem photoJobId_of_mem_storedFaceDetections {photo : Photo} {job : Job F}
    {ids : List Uuid} {detections : List (FaceDetectionPayload F)} {d : PhotoFaceDetection F}
    (h : d ∈ storedFaceDetections photo job ids detections) : d.photoJobId = job.id := by
  obtain ⟨id, face, -, rfl⟩ := exists_of_mem_storedFaceDetections h
  rfl

omit [Scalar F] in
/-- Replacing the rows of one owner leaves those of another. -/
private theorem filter_owner_replaced {α : Type} {owner : α → Uuid} {rows stored : List α}
    {jobId oldId : Uuid} (hne : oldId ≠ jobId) (hstored : ∀ d ∈ stored, owner d = oldId) :
    (((rows.filter fun d => owner d != oldId) ++ stored).filter fun d => owner d == jobId) =
      rows.filter fun d => owner d == jobId := by
  have hnone : (stored.filter fun d => owner d == jobId) = [] := by
    rw [List.filter_eq_nil_iff]
    intro d hd
    simp [hstored d hd, hne]
  rw [List.filter_append, hnone, List.append_nil, List.filter_filter]
  refine List.filter_congr fun d _ => ?_
  by_cases hd : owner d = jobId
  · simp [hd, hne.symm]
  · simp [hd]

omit [Scalar F] in
private theorem id_ne_of_processing {jobs : Table (Job F) Job.key} {job old : Job F}
    {key : JobKey} {oldId : Uuid} (hrow : jobs.get? key = some job)
    (hended : key = (.photo, oldId) → job.status.isTerminal = true)
    (hold : jobs.get? (.photo, oldId) = some old) (hprocessing : old.status = .processing)
    (hkind : job.ref.kind = .photo) : old.id ≠ job.id := by
  intro hid
  have hkeys : old.key = job.key :=
    Prod.ext ((congrArg Prod.fst (Table.get?_key hold)).trans hkind.symm) hid
  have heq : old = job :=
    Table.eq_of_key_eq (Table.mem_of_get? hold) (Table.mem_of_get? hrow) hkeys
  have hterminal := hended ((Table.get?_key hrow).symm.trans (heq ▸ Table.get?_key hold))
  rw [← heq, hprocessing] at hterminal
  cases hterminal

omit [Scalar F] in
private theorem finishPhotoJob_keeps (job : Job F) (db : Database F) (photo : Photo) (old : Job F)
    (rawResponseJson : JsonDict F) (finishedAt : Instant) :
    KeepsResults job db (db.finishPhotoJob photo old rawResponseJson finishedAt) :=
  .of_effects_eq (finishPhotoJob_effects db photo old rawResponseJson finishedAt)

/-- The rows that belong to a job are touched only by calls that name it while it is open. -/
theorem Outcome.keepsResults {cfg : Settings F} {world : World} {db db' : Database F}
    {call : WorkerCall F} {reply : Except Raised Reply} (h : Outcome cfg world db call reply db')
    {key : JobKey} {job : Job F} (hrow : db.jobs.get? key = some job)
    (hended : ∀ attemptId, call.names = some (key, attemptId) → job.status.isTerminal = true) :
    KeepsResults job db db' := by
  by_cases hcall : call.isComplete = false
  · exact .of_effects_eq (h.effects_eq hcall)
  cases h with
  | raised | answered => exact .refl job db
  | idle | claimed | renewed | retried | ended => exact absurd rfl hcall
  | @recognised jobId photoId payload old photo rawResponseJson now reply row held ref parent =>
    refine KeepsResults.trans ?_ (finishPhotoJob_keeps job _ photo (releasedJob old) _ now)
    rw [matchTextDetections_eq]
    refine ⟨fun hkind => ?_, fun _ => rfl, fun _ _ _ _ _ hget => hget⟩
    exact filter_owner_replaced (id_ne_of_processing hrow
      (fun hkey => hended payload.attemptId (by rw [hkey]; rfl)) row held.status hkind)
      fun d hd => photoJobId_of_mem_storedTextDetections hd
  | @scanned jobId photoId payload old photo rows rawResponseJson now reply row held ref parent
      inserted =>
    refine KeepsResults.trans ?_ (finishPhotoJob_keeps job _ photo (releasedJob old) _ now)
    refine ⟨fun _ => rfl, fun hkind => ?_, fun _ _ _ _ _ hget => hget⟩
    have hrows := Table.rows_of_insertAll? inserted
    rw [Database.setPhotoFaceDetections_photoFaceDetections, hrows]
    exact filter_owner_replaced (id_ne_of_processing hrow
      (fun hkey => hended payload.attemptId (by rw [hkey]; rfl)) row held.status hkind)
      fun d hd => photoJobId_of_mem_storedFaceDetections hd
  | @enrolled jobId eventId participantId faceImageId payload old rows rawResponseJson now reply row
      held ref usable inserted =>
    rw [matchParticipant_eq]
    exact ⟨fun _ => rfl, fun _ => rfl, fun _ _ _ _ _ hget => Table.get?_of_insert? inserted hget⟩
  | @searched jobId eventId searchSessionId searchImageId payload old rawResponseJson now
      sessionFinishedAt reply _ row held ref usable fits committed =>
    refine KeepsResults.trans ?_ (.of_exceptSearchResults committed)
    refine .of_effects_eq ?_
    simp only [Database.finishFaceSearchJob, Database.markSearchSession]
    split
    · rfl
    · split <;> rfl

/-- The call commits a change. -/
def Event.Commits (cfg : Settings F) (e : Event F) (db : Database F) : Prop :=
  (e.serve cfg db).2 ≠ db

/-- A job that has ended keeps its row and its results over a run and is not handed out. -/
theorem runEvents_of_isTerminal (cfg : Settings F) (es : List (Event F)) {db : Database F}
    {key : JobKey} {job : Job F} (hrow : db.jobs.get? key = some job)
    (hterminal : job.status.isTerminal = true) :
    (runEvents cfg db es).jobs.get? key = some job ∧ KeepsResults job db (runEvents cfg db es) ∧
      ∀ reply ∈ replies cfg db es, issuedFor key reply = none := by
  induction es generalizing db with
  | nil => exact ⟨hrow, .refl job db, fun reply hmem => nomatch hmem⟩
  | cons e es ih =>
    obtain ⟨hrow', hissued⟩ := (outcome_serve cfg e.world db e.call).get?_of_isTerminal hrow
      hterminal
    have hkept := (outcome_serve cfg e.world db e.call).keepsResults hrow fun _ _ => hterminal
    obtain ⟨hget, hkeeps, hreplies⟩ := ih hrow'
    refine ⟨hget, hkept.trans hkeeps, fun reply hmem => ?_⟩
    rcases List.mem_cons.mp hmem with rfl | hmem
    · exact hissued
    · exact hreplies reply hmem

/-- A job that has ended ignores the calls that name it. -/
theorem not_commits_of_isTerminal {cfg : Settings F} {e : Event F} {db : Database F} {key : JobKey}
    {job : Job F} (hrow : db.jobs.get? key = some job) (hterminal : job.status.isTerminal = true)
    {attemptId : Uuid} (hnames : e.call.names = some (key, attemptId)) : ¬ e.Commits cfg db := by
  intro hne
  obtain ⟨job', hrow', held⟩ := (outcome_serve cfg e.world db e.call).heldBy_of_ne hnames hne
  obtain rfl : job' = job := Option.some.inj (hrow'.symm.trans hrow)
  rw [held.status] at hterminal
  cases hterminal

/-- What is promised about one job along a run. -/
structure AtMostOnceCompletion (cfg : Settings F) (db : Database F) (es : List (Event F))
    (key : JobKey) : Prop where
  /-- At most one completion of the job commits anything. -/
  once : ∀ pre e mid e' post attemptId attemptId', es = pre ++ e :: (mid ++ e' :: post) →
    e.call.isComplete = true → e.call.names = some (key, attemptId) →
    e'.call.isComplete = true → e'.call.names = some (key, attemptId') →
    e.Commits cfg (runEvents cfg db pre) → ¬ e'.Commits cfg (runEvents cfg db (pre ++ e :: mid))
  /-- Only completions write what completions produce. -/
  effects : ∀ pre e post, es = pre ++ e :: post → e.call.isComplete = false →
    (runEvents cfg db (pre ++ [e])).effects = (runEvents cfg db pre).effects
  /-- Only calls that name the job touch the rows that belong to it. -/
  owned : ∀ pre e post job, es = pre ++ e :: post →
    (runEvents cfg db pre).jobs.get? key = some job →
    (∀ attemptId, e.call.names ≠ some (key, attemptId)) →
    KeepsResults job (runEvents cfg db pre) (runEvents cfg db (pre ++ [e]))
  /-- A completion commits only for the attempt that was handed out last, whose lease has not
  expired when the row is checked under its lock. -/
  fenced : ∀ pre e post attemptId, es = pre ++ e :: post → e.call.isComplete = true →
    e.call.names = some (key, attemptId) → e.Commits cfg (runEvents cfg db pre) →
    ∃ job leaseExpiresAt, (runEvents cfg db pre).jobs.get? key = some job ∧
      job.status = .processing ∧ job.attemptId = some attemptId ∧
      job.leaseExpiresAt = some leaseExpiresAt ∧ e.world.clock 0 < leaseExpiresAt ∧
      handedOut cfg db pre key = some attemptId
  /-- Once the job has ended, its row and its results stay and it is not handed out. -/
  final : ∀ pre post job, es = pre ++ post → (runEvents cfg db pre).jobs.get? key = some job →
    job.status.isTerminal = true →
    (runEvents cfg db es).jobs.get? key = some job ∧
      KeepsResults job (runEvents cfg db pre) (runEvents cfg db es) ∧
      ∀ reply ∈ replies cfg (runEvents cfg db pre) post, issuedFor key reply = none
  /-- Once the job has ended, calls that name it commit nothing. -/
  ignored : ∀ pre e post job attemptId, es = pre ++ e :: post →
    (runEvents cfg db pre).jobs.get? key = some job → job.status.isTerminal = true →
    e.call.names = some (key, attemptId) → ¬ e.Commits cfg (runEvents cfg db pre)
  /-- After an accepted completion or failure, and before the next claim of the job, calls of the
  same attempt commit nothing. -/
  replay : ∀ pre e mid e' post attemptId reply, es = pre ++ e :: (mid ++ e' :: post) →
    e.call.isHeartbeat = false → e.call.names = some (key, attemptId) →
    (e.serve cfg (runEvents cfg db pre)).1 = .ok reply →
    (∀ r ∈ replies cfg (runEvents cfg db (pre ++ [e])) mid, issuedFor key r = none) →
    e'.call.names = some (key, attemptId) → ¬ e'.Commits cfg (runEvents cfg db (pre ++ e :: mid))

private theorem runEvents_snoc (cfg : Settings F) (db : Database F) (pre : List (Event F))
    (e : Event F) : runEvents cfg db (pre ++ [e]) = (e.serve cfg (runEvents cfg db pre)).2 := by
  rw [runEvents_append, runEvents_cons, runEvents_nil]

private theorem runEvents_snoc_append (cfg : Settings F) (db : Database F)
    (pre mid : List (Event F)) (e : Event F) :
    runEvents cfg db (pre ++ e :: mid) =
      runEvents cfg (e.serve cfg (runEvents cfg db pre)).2 mid := by
  rw [runEvents_append, runEvents_cons]

/-- Every run keeps the promise for every job. -/
theorem completion_atMostOnce (cfg : Settings F) (db : Database F) (es : List (Event F))
    (key : JobKey) : AtMostOnceCompletion cfg db es key where
  once := by
    intro pre e mid e' post attemptId attemptId' _ hcall hnames _ hnames' hcommits
    obtain ⟨job, hrow, hterminal⟩ := (outcome_serve cfg e.world (runEvents cfg db pre)
      e.call).isTerminal_of_complete hnames hcall hcommits
    obtain ⟨hrow', -, -⟩ := runEvents_of_isTerminal cfg mid hrow hterminal
    rw [runEvents_snoc_append]
    exact not_commits_of_isTerminal hrow' hterminal hnames'
  effects := by
    intro pre e post _ hcall
    rw [runEvents_snoc]
    exact (outcome_serve cfg e.world (runEvents cfg db pre) e.call).effects_eq hcall
  owned := by
    intro pre e post job _ hrow hnames
    rw [runEvents_snoc]
    exact (outcome_serve cfg e.world (runEvents cfg db pre) e.call).keepsResults hrow
      fun attemptId h => absurd h (hnames attemptId)
  fenced := by
    intro pre e post attemptId _ _ hnames hcommits
    obtain ⟨job, hrow, held⟩ := (outcome_serve cfg e.world (runEvents cfg db pre)
      e.call).heldBy_of_ne hnames hcommits
    obtain ⟨leaseExpiresAt, hlease, hlt⟩ := held.lease
    obtain ⟨start, hstart⟩ := exists_of_get?_runEvents hrow
    refine ⟨job, leaseExpiresAt, hrow, held.status, held.attempt, hlease, hlt, ?_⟩
    rw [← attemptId_eq_handedOut cfg hrow hstart]
    exact held.attempt
  final := by
    rintro pre post job rfl hrow hterminal
    rw [runEvents_append]
    exact runEvents_of_isTerminal cfg post hrow hterminal
  ignored := by
    intro pre e post job attemptId _ hrow hterminal hnames
    exact not_commits_of_isTerminal hrow hterminal hnames
  replay := by
    intro pre e mid e' post attemptId reply _ hcall hnames haccepted hmid hnames' hcommits
    have houtcome := outcome_serve cfg e.world (runEvents cfg db pre) e.call
    change Outcome _ _ _ _ (e.serve cfg (runEvents cfg db pre)).1 _ at houtcome
    rw [haccepted] at houtcome
    obtain ⟨job, hrow, hspent⟩ := houtcome.spent hnames hcall
    obtain ⟨job', as, hrow', hrun, hissued⟩ := ticketRun_of_runEvents cfg mid hrow
    rw [runEvents_snoc] at hmid
    have hnone : as.filterMap TicketAction.issued? = [] := by
      rw [hissued, List.filterMap_eq_nil_iff]
      exact hmid
    have hphase := (hrun.spent hnone hspent).2
    rw [runEvents_snoc_append] at hcommits
    obtain ⟨job'', hrow'', held⟩ := (outcome_serve cfg e'.world _ e'.call).heldBy_of_ne hnames'
      hcommits
    obtain rfl : job'' = job' := Option.some.inj (hrow''.symm.trans hrow')
    rw [held.ticket_eq] at hphase
    exact hphase rfl

end RaceFrame
