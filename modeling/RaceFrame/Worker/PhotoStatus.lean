import RaceFrame.Schema.Rational
import RaceFrame.Worker.Endings

/-!
# The status of a photo

`aggregatePhotoStatus` is the status that the jobs of a photo call for. Both
aggregation routines of the source compute it from the statuses that they read.
`mark_photo_ready_if_jobs_done` reads them after a flush.
`_sync_terminal_parent_state` reads them before one, so it misses the end of the
job it is called for, and a photo whose last job fails or is reaped keeps its
status.
-/

namespace RaceFrame

open Core

variable {F : Type}

/-- The status that the jobs of a photo call for. -/
def aggregatePhotoStatus (statuses : List JobStatus) : PhotoStatus :=
  if statuses.any fun status => !status.isTerminal then .processing
  else if statuses.all fun status => status == .completed then .ready
  else if statuses.contains .completed then .partiallyReady
  else .failed

/-- The completing path assigns the aggregate of the statuses that it reads. -/
theorem markedPhotoStatus_eq {statuses : List JobStatus} (hne : statuses ≠ []) :
    markedPhotoStatus statuses = some (aggregatePhotoStatus statuses) := by
  have hempty : statuses.isEmpty = false := by simpa using hne
  by_cases hall : statuses.all JobStatus.isTerminal = true
  · have hany : (statuses.any fun status => !status.isTerminal) = false := by
      rw [List.any_eq_false]
      intro status hmem
      simp [List.all_eq_true.mp hall status hmem]
    have hready : statuses.countP (fun status => status == .completed) = statuses.length ↔
        (statuses.all fun status => status == .completed) = true := by
      rw [List.countP_eq_length, List.all_eq_true]
    have hsome : statuses.countP (fun status => status == .completed) ≠ 0 ↔
        statuses.contains .completed = true := by
      rw [← Nat.pos_iff_ne_zero, List.countP_pos_iff, List.contains_iff_exists_mem_beq]
      constructor
      · rintro ⟨status, hmem, hstatus⟩
        exact ⟨status, hmem, by simpa using (beq_iff_eq.mp hstatus).symm⟩
      · rintro ⟨status, hmem, hstatus⟩
        exact ⟨status, hmem, by simpa using (beq_iff_eq.mp hstatus).symm⟩
    simp only [markedPhotoStatus, aggregatePhotoStatus, hempty, hall, hany, hready, hsome,
      Bool.not_false, Bool.and_self, ite_true, Bool.false_eq_true, ite_false]
    split
    · rfl
    · split <;> rfl
  · have hall' : statuses.all JobStatus.isTerminal = false := Bool.eq_false_iff.mpr hall
    have hany : (statuses.any fun status => !status.isTerminal) = true := by
      obtain ⟨status, hmem, hstatus⟩ := List.all_eq_false.mp hall'
      exact List.any_eq_true.mpr ⟨status, hmem, by simpa using hstatus⟩
    simp [markedPhotoStatus, aggregatePhotoStatus, hempty, hall', hany]

/-- The failing path assigns the same status, if it finds every job ended. -/
theorem syncedPhotoStatus_eq {statuses : List JobStatus} (hne : statuses ≠ [])
    (hall : statuses.all JobStatus.isTerminal = true) :
    syncedPhotoStatus statuses = some (aggregatePhotoStatus statuses) := by
  have hempty : statuses.isEmpty = false := by simpa using hne
  have hany : (statuses.any fun status => !status.isTerminal) = false := by
    rw [List.any_eq_false]
    intro status hmem
    simp [List.all_eq_true.mp hall status hmem]
  simp only [syncedPhotoStatus, aggregatePhotoStatus, hempty, hall, hany, Bool.not_false,
    Bool.and_self, ite_true, Bool.false_eq_true, ite_false]
  split
  · rfl
  · split <;> rfl

/-- The aggregate depends on which statuses occur. -/
theorem aggregatePhotoStatus_congr {statuses statuses' : List JobStatus}
    (h : ∀ status, status ∈ statuses ↔ status ∈ statuses') :
    aggregatePhotoStatus statuses = aggregatePhotoStatus statuses' := by
  have hany : ∀ p : JobStatus → Bool, statuses.any p = statuses'.any p := by
    intro p
    rw [Bool.eq_iff_iff, List.any_eq_true, List.any_eq_true]
    simp only [h]
  have hall : ∀ p : JobStatus → Bool, statuses.all p = statuses'.all p := by
    intro p
    rw [Bool.eq_iff_iff, List.all_eq_true, List.all_eq_true]
    simp only [h]
  have hcontains : statuses.contains .completed = statuses'.contains .completed := by
    rw [Bool.eq_iff_iff, List.contains_iff_mem, List.contains_iff_mem]
    exact h .completed
  rw [aggregatePhotoStatus, aggregatePhotoStatus, hany, hall, hcontains]

/-- The jobs of a photo. -/
def photoGroup (photoId : Uuid) : JobRef → Bool
  | .photo id _ => id == photoId
  | .participantFace .. | .faceSearch .. => false

theorem mem_photoJobStatuses {db : Database F} {photoId : Uuid} {status : JobStatus} :
    status ∈ db.photoJobStatuses photoId ↔
      ∃ job ∈ db.jobs.rows, photoGroup photoId job.ref = true ∧ job.status = status := by
  have hgroup : ∀ job : Job F, (job.photoId? == some photoId) = photoGroup photoId job.ref := by
    intro job
    unfold Job.photoId? photoGroup
    cases job.ref <;> rfl
  simp only [Database.photoJobStatuses, hgroup, List.mem_map, List.mem_filter]
  constructor
  · rintro ⟨job, ⟨hmem, hjob⟩, hstatus⟩
    exact ⟨job, hmem, hjob, hstatus⟩
  · rintro ⟨job, hmem, hjob, hstatus⟩
    exact ⟨job, ⟨hmem, hjob⟩, hstatus⟩

/-- An open job calls for `processing`. -/
theorem aggregatePhotoStatus_of_hasOpenJob {db : Database F} {photoId : Uuid}
    (h : db.HasOpenJob (photoGroup photoId)) :
    aggregatePhotoStatus (db.photoJobStatuses photoId) = .processing := by
  obtain ⟨job, hmem, hgroup, hopen⟩ := h
  have hany : ((db.photoJobStatuses photoId).any fun status => !status.isTerminal) = true :=
    List.any_eq_true.mpr ⟨job.status, mem_photoJobStatuses.mpr ⟨job, hmem, hgroup, rfl⟩, by
      simp [hopen]⟩
  rw [aggregatePhotoStatus, if_pos hany]

/-- Every photo has the status that its jobs call for. -/
def Database.PhotosAggregated (db : Database F) : Prop :=
  ∀ photo ∈ db.photos.rows, photo.status = aggregatePhotoStatus (db.photoJobStatuses photo.id)

private theorem photosAggregated_finishPhotoJob {db : Database F} {photo photo' : Photo}
    {job old : Job F} {rawResponseJson : JsonDict F} {finishedAt : Instant} {jobType : PhotoJobType}
    (hold : db.jobs.get? job.key = some old) (href : job.ref = .photo photo.id jobType)
    (hmem : photo' ∈ (db.finishPhotoJob photo job rawResponseJson finishedAt).photos.rows) :
    (photo' ∈ db.photos.rows ∧ photo'.id ≠ photo.id) ∨
      photo'.status = aggregatePhotoStatus
        ((db.finishPhotoJob photo job rawResponseJson finishedAt).photoJobStatuses photo'.id) := by
  have hjobs : (db.finishPhotoJob photo job rawResponseJson finishedAt).photoJobStatuses =
      (db.putJob (completedJob job rawResponseJson finishedAt)).photoJobStatuses := by
    funext photoId
    rw [Database.photoJobStatuses, finishPhotoJob_jobs]
    rfl
  have hne : (db.putJob (completedJob job rawResponseJson finishedAt)).photoJobStatuses photo.id ≠
      [] := by
    have hrow : completedJob job rawResponseJson finishedAt ∈
        (db.putJob (completedJob job rawResponseJson finishedAt)).jobs.rows :=
      Table.mem_of_get? (Table.get?_put_self (t := db.jobs) hold)
    refine List.ne_nil_of_mem (mem_photoJobStatuses.mpr ⟨_, hrow, ?_, rfl⟩)
    simp [completedJob, href, photoGroup]
  rw [hjobs]
  simp only [Database.finishPhotoJob, Database.markPhoto, markedPhotoStatus_eq hne,
    Database.setPhotoStatus_photos] at hmem
  rcases Table.mem_of_mem_update hmem fun _ => rfl with hother | ⟨row, hrow, rfl⟩
  · exact Or.inl hother
  · right
    have hid : row.id = photo.id := Table.get?_key hrow
    simp only [hid]

variable [Scalar F]

/-- What a call that is no completion can do to a photo: leave it, or mark it as being processed
because a job of it has been claimed. -/
theorem Outcome.photo_of_not_complete {cfg : Settings F} {world : World} {db db' : Database F}
    {call : WorkerCall F} {reply : Except Raised Reply} (h : Outcome cfg world db call reply db')
    (hcall : call.isComplete = false) {photo : Photo} (hmem : photo ∈ db'.photos.rows) :
    photo ∈ db.photos.rows ∨
      photo.status = .processing ∧ db'.HasOpenJob (photoGroup photo.id) := by
  cases h with
  | raised | answered | renewed | retried => exact Or.inl hmem
  | idle reaped committed =>
    rw [photos_of_exceptImages committed, putJobs_photos] at hmem
    exact Or.inl hmem
  | ended row held ends committed =>
    rw [photos_of_exceptImages committed] at hmem
    exact Or.inl hmem
  | @claimed target claimedAt attemptId dead job reply _ reaped mem claimable handsOut committed =>
    have hjobs := jobs_of_exceptImages committed
    have hphotos := photos_of_exceptImages committed
    rw [hphotos] at hmem
    cases href : job.ref with
    | photo photoId jobType =>
      rw [href] at hmem hjobs
      rw [Database.startParent, Database.setPhotoStatus_photos] at hmem
      rcases Table.mem_of_mem_update hmem fun _ => rfl with ⟨hrow, -⟩ | ⟨row, hrow, rfl⟩
      · rw [Database.putJob_photos, putJobs_photos] at hrow
        exact Or.inl hrow
      · refine Or.inr ⟨rfl, claimedJob cfg job attemptId claimedAt, ?_, ?_, rfl⟩
        · rw [hjobs, startParent_jobs, Database.putJob_jobs]
          rcases get?_reaped reaped (Table.mem_iff_get?.mp mem) with ⟨-, _, hget⟩ | ⟨-, hget⟩
          · exact Table.mem_of_get? (Table.get?_put_self hget)
          · exact Table.mem_of_get? (Table.get?_put_self hget)
        · have hid : row.id = photoId := Table.get?_key hrow
          simp [claimedJob, href, photoGroup, hid]
    | participantFace | faceSearch =>
      rw [href] at hmem
      change photo ∈ (db.putJobs dead).photos.rows at hmem
      rw [putJobs_photos] at hmem
      exact Or.inl hmem
  | recognised | scanned | enrolled | searched => cases hcall

/-- What a completion can do to a photo: leave it and its jobs, or assign the aggregate. -/
theorem Outcome.photo_of_complete {cfg : Settings F} {world : World} {db db' : Database F}
    {call : WorkerCall F} {reply : Except Raised Reply} (h : Outcome cfg world db call reply db')
    (hcall : call.isComplete = true) {photo : Photo} (hmem : photo ∈ db'.photos.rows) :
    (photo ∈ db.photos.rows ∧ ∀ job : Job F, photoGroup photo.id job.ref = true →
      (job ∈ db'.jobs.rows ↔ job ∈ db.jobs.rows)) ∨
      photo.status = aggregatePhotoStatus (db'.photoJobStatuses photo.id) := by
  have houtcome := h
  cases h with
  | raised | answered => exact Or.inl ⟨hmem, fun _ _ => Iff.rfl⟩
  | idle | claimed | renewed | retried | ended => cases hcall
  | @recognised jobId photoId payload job parent rawResponseJson now reply row held ref hparent =>
    have hid : parent.id = photoId := Table.get?_key hparent
    have hjob : db.jobs.get? job.key = some job := Table.mem_iff_get?.mp (Table.mem_of_get? row)
    have hrow : (db.jobs.put (releasedJob job)).get? (releasedJob job).key =
        some (releasedJob job) := Table.get?_put_self (r := releasedJob job) hjob
    rw [matchTextDetections_eq] at hmem houtcome ⊢
    rcases photosAggregated_finishPhotoJob hrow (hid ▸ ref) hmem with ⟨hold, hne⟩ | heq
    · refine Or.inl ⟨hold, fun job' hgroup => houtcome.mem_jobs_of_others rfl row ?_ hgroup⟩
      rw [ref]
      simpa [photoGroup, hid] using fun he => hne (he.symm.trans hid.symm)
    · exact Or.inr heq
  | @scanned jobId photoId payload job parent rows rawResponseJson now reply row held ref hparent
      inserted =>
    have hid : parent.id = photoId := Table.get?_key hparent
    have hjob : db.jobs.get? job.key = some job := Table.mem_iff_get?.mp (Table.mem_of_get? row)
    have hrow : (db.jobs.put (releasedJob job)).get? (releasedJob job).key =
        some (releasedJob job) := Table.get?_put_self (r := releasedJob job) hjob
    rcases photosAggregated_finishPhotoJob hrow (hid ▸ ref) hmem with ⟨hold, hne⟩ | heq
    · refine Or.inl ⟨hold, fun job' hgroup => houtcome.mem_jobs_of_others rfl row ?_ hgroup⟩
      rw [ref]
      simpa [photoGroup, hid] using fun he => hne (he.symm.trans hid.symm)
    · exact Or.inr heq
  | @enrolled jobId eventId participantId faceImageId payload job rows rawResponseJson now reply row
      held ref usable inserted =>
    refine Or.inl ⟨?_, fun job' hgroup => houtcome.mem_jobs_of_others rfl row ?_ hgroup⟩
    · rw [matchParticipant_eq] at hmem
      exact hmem
    · rw [ref]
      rfl
  | @searched jobId eventId searchSessionId searchImageId payload job rawResponseJson now
      sessionFinishedAt reply _ row held ref usable fits committed =>
    refine Or.inl ⟨?_, fun job' hgroup => houtcome.mem_jobs_of_others rfl row ?_ hgroup⟩
    · have hphotos := congrArg Database.photos committed
      change db'.photos = _ at hphotos
      rw [hphotos] at hmem
      change photo ∈ (Database.markSearchSession _ _ _ _).photos.rows at hmem
      rw [markSearchSession_photos] at hmem
      exact hmem
    · rw [ref]
      rfl

/-- A call that ends no last open job of a photo, except by completing it, keeps the statuses. -/
theorem Outcome.photosAggregated {cfg : Settings F} {world : World} {db db' : Database F}
    {call : WorkerCall F} {reply : Except Raised Reply} (h : Outcome cfg world db call reply db')
    (hlast : call.isComplete = false → ∀ photoId, ¬ call.EndsLast cfg world db (photoGroup photoId))
    (hdb : db.PhotosAggregated) : db'.PhotosAggregated := by
  intro photo hmem
  have hkept : photo ∈ db.photos.rows → (∀ job : Job F, photoGroup photo.id job.ref = true →
      (job ∈ db'.jobs.rows ↔ job ∈ db.jobs.rows)) →
      photo.status = aggregatePhotoStatus (db'.photoJobStatuses photo.id) := by
    intro hrow hjobs
    rw [hdb photo hrow]
    refine aggregatePhotoStatus_congr fun status => ?_
    rw [mem_photoJobStatuses, mem_photoJobStatuses]
    constructor
    · rintro ⟨job, hjob, hgroup, hstatus⟩
      exact ⟨job, (hjobs job hgroup).mpr hjob, hgroup, hstatus⟩
    · rintro ⟨job, hjob, hgroup, hstatus⟩
      exact ⟨job, (hjobs job hgroup).mp hjob, hgroup, hstatus⟩
  cases hcall : call.isComplete with
  | true =>
    rcases h.photo_of_complete hcall hmem with ⟨hrow, hjobs⟩ | heq
    · exact hkept hrow hjobs
    · exact heq
  | false =>
    rcases h.photo_of_not_complete hcall hmem with hrow | ⟨hstatus, hopen⟩
    · by_cases hopen : db.HasOpenJob (photoGroup photo.id)
      · rw [hdb photo hrow, aggregatePhotoStatus_of_hasOpenJob hopen,
          aggregatePhotoStatus_of_hasOpenJob (h.hasOpenJob hopen (hlast hcall photo.id))]
      · exact hkept hrow fun job hgroup => h.mem_jobs_of_ended hopen hgroup
    · rw [hstatus, aggregatePhotoStatus_of_hasOpenJob hopen]

omit [Scalar F] in
/-- The photos as ingestion leaves them, each with its two queued jobs. -/
structure Database.Ingested (db : Database F) : Prop where
  status : ∀ photo ∈ db.photos.rows, photo.status = .processing
  jobs : ∀ photo ∈ db.photos.rows, ∃ ocrId scanId maxAttempts createdAt createdAt',
    (db.jobs.rows.filter fun job => job.photoId? == some photo.id).Perm
      [Job.queued ocrId (.photo photo.id .ocr) maxAttempts createdAt,
        Job.queued scanId (.photo photo.id .facePhotoScan) maxAttempts createdAt']

omit [Scalar F] in
theorem Database.Ingested.photosAggregated {db : Database F} (h : db.Ingested) :
    db.PhotosAggregated := by
  intro photo hmem
  obtain ⟨ocrId, scanId, maxAttempts, createdAt, createdAt', hjobs⟩ := h.jobs photo hmem
  have hstatuses : (db.photoJobStatuses photo.id).Perm [.queued, .queued] := hjobs.map Job.status
  rw [h.status photo hmem, aggregatePhotoStatus_congr fun status => hstatuses.mem_iff]
  rfl

/-- The step ends no last open job of a photo by a failure or by reaping. -/
def EndsByCompletionOnly (cfg : Settings F) (db : Database F) (e : Event F) : Prop :=
  e.call.isComplete = false → ∀ photoId, ¬ e.call.EndsLast cfg e.world db (photoGroup photoId)

/-- In a run in which no failure and no reaping ends the last open job of a photo, the photos
always have the statuses that their jobs call for. -/
theorem photosAggregated_of_endsByCompletionOnly (cfg : Settings F) {db : Database F}
    (hstart : db.Ingested) {es pre post : List (Event F)}
    (hsteps : StepsMeet cfg (EndsByCompletionOnly cfg) db es) (hes : es = pre ++ post) :
    (runEvents cfg db pre).PhotosAggregated :=
  hsteps.induction (fun e db hcondition hdb =>
    (outcome_serve cfg e.world db e.call).photosAggregated hcondition hdb)
    hstart.photosAggregated hes

/-! ## One photo -/

/-- One ingested photo. -/
def onePhoto : Database ℚ :=
  { Database.empty with
    photos := ⟨[⟨1, 9, "events/9/1.jpg".toList, "1.jpg".toList, "image/jpeg".toList, .processing,
      0⟩],
      by decide⟩
    jobs := ⟨[Job.queued 11 (.photo 1 .ocr) 5 0, Job.queued 12 (.photo 1 .facePhotoScan) 5 0],
      by decide⟩ }

theorem onePhoto_ingested : onePhoto.Ingested where
  status := by decide
  jobs := by
    intro photo hmem
    obtain rfl := List.mem_singleton.mp hmem
    exact ⟨11, 12, 5, 0, 0, List.Perm.refl _⟩

/-- The OCR job delivers nothing, then the face scan is claimed. -/
def ocrThenScan : List (Event ℚ) :=
  [.at 1000 101 (.claim (.photo [.ocr])),
    .at 2000 0 (.completePhoto 11 ⟨101, [], [], none⟩),
    .at 3000 102 (.claim (.photo [.facePhotoScan]))]

private theorem ocrThenScan_meets (jobId : Uuid) (payload : CompletePhotoJobRequest ℚ) :
    StepsMeet (.environment ℚ) (EndsByCompletionOnly (.environment ℚ)) onePhoto
      (ocrThenScan ++ [.at 4000 0 (.completePhoto jobId payload)]) :=
  .cons (fun _ _ => not_endsLast_claim (by decide +kernel)) <|
    .cons nofun <| .cons (fun _ _ => not_endsLast_claim (by decide +kernel)) <| .cons nofun .nil

/-- Both jobs complete: the photo is ready. -/
theorem lastCompletion_makes_ready :
    (runEvents (.environment ℚ) onePhoto
      (ocrThenScan ++ [.at 4000 0 (.completePhoto 12 ⟨102, [], [], none⟩)])).PhotosAggregated ∧
    (runEvents (.environment ℚ) onePhoto (ocrThenScan ++
      [.at 4000 0 (.completePhoto 12 ⟨102, [], [], none⟩)])).photos.rows.map Photo.status =
        [.ready] :=
  ⟨photosAggregated_of_endsByCompletionOnly (.environment ℚ) onePhoto_ingested
    (ocrThenScan_meets 12 ⟨102, [], [], none⟩) (List.append_nil _).symm, by decide +kernel⟩

/-- The face scan fails for good after the OCR job has completed: every job has ended, and the
photo stays in processing instead of becoming partially ready. -/
theorem lastFailure_leaves_processing :
    let db := runEvents (.environment ℚ) onePhoto
      (ocrThenScan ++ [.at 4000 0 (.fail .photo 12 ⟨102, "no face model".toList, false, none⟩)])
    onePhoto.Ingested ∧ db.photoJobStatuses 1 = [.completed, .failed] ∧
      db.photos.rows.map Photo.status = [.processing] ∧ ¬ db.PhotosAggregated := by
  intro db
  have hstatuses : db.photoJobStatuses 1 = [.completed, .failed] := by decide +kernel
  have hphotos : db.photos.rows = onePhoto.photos.rows := by decide +kernel
  refine ⟨onePhoto_ingested, hstatuses, by rw [hphotos]; rfl, fun hall => ?_⟩
  have hphoto := hall ⟨1, 9, "events/9/1.jpg".toList, "1.jpg".toList, "image/jpeg".toList,
    .processing, 0⟩ (by rw [hphotos]; exact List.mem_singleton_self _)
  rw [hstatuses] at hphoto
  cases hphoto

end RaceFrame
