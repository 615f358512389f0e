import RaceFrame.Worker.Jobs

/-!
# What the lifecycle functions do

One lemma for each function of the job lifecycle: either it leaves the committed
database alone, or it commits the stated row changes. The change of a job is
pending while the statuses of its siblings are read, so the synchronisation of a
photo or a search session with its jobs finds the job still open and assigns
nothing.
-/

namespace RaceFrame

open Core

variable {F : Type}

/-- What `_verify_active_attempt` requires of a live attempt. -/
structure Job.HeldBy (job : Job F) (attemptId : Uuid) (now : Instant) : Prop where
  status : job.status = .processing
  attempt : job.attemptId = some attemptId
  lease : ∃ leaseExpiresAt, job.leaseExpiresAt = some leaseExpiresAt ∧ now < leaseExpiresAt

/-- A live attempt passes the check, after one reading of the clock. -/
theorem run_verifyActiveAttempt_of_heldBy {s : Session F} {job : Job F} {attemptId : Uuid}
    (h : job.HeldBy attemptId (s.world.clock 0)) (allowTerminal : Bool) :
    (verifyActiveAttempt job attemptId allowTerminal).run s = (.ok .processing, s.tick) := by
  obtain ⟨leaseExpiresAt, hlease, hlt⟩ := h.lease
  have hnle : ¬ leaseExpiresAt ≤ s.world.clock 0 := not_le.mpr hlt
  have howned : attemptMatches job.attemptId attemptId = true := by
    simp [attemptMatches, h.attempt]
  simp [verifyActiveAttempt, howned, h.status, hlease, JobStatus.isTerminal, hnle]

/-- Any other attempt is answered from the state of the job or rejected, and only the attempt
that the row names is answered. -/
theorem run_verifyActiveAttempt_of_not_heldBy {s : Session F} {job : Job F} {attemptId : Uuid}
    (h : ¬ job.HeldBy attemptId (s.world.clock 0)) (allowTerminal : Bool) :
    ∃ r t, (verifyActiveAttempt job attemptId allowTerminal).run s = (r, t) ∧
      t.committed = s.committed ∧ r ≠ .ok .processing ∧
      ∀ state, r = .ok state → job.attemptId = some attemptId ∧
        (state = .retryScheduled ∧ job.status = .queued ∨
          state = .terminal job.status ∧ job.status.isTerminal = true) := by
  by_cases howned : attemptMatches job.attemptId attemptId = true
  · have hattempt : job.attemptId = some attemptId := by simpa [attemptMatches] using howned
    simp only [verifyActiveAttempt, howned, Bool.and_true, Bool.not_true, Bool.or_false]
    split
    · rename_i hterminal
      refine ⟨_, _, rfl, rfl, by simp, ?_⟩
      rintro state ⟨rfl⟩
      exact ⟨hattempt, Or.inr ⟨rfl, (Bool.and_eq_true_iff.mp hterminal).2⟩⟩
    · split
      · rename_i hqueued
        refine ⟨_, _, rfl, rfl, by simp, ?_⟩
        rintro state ⟨rfl⟩
        exact ⟨hattempt, Or.inl ⟨rfl, by simpa using (Bool.and_eq_true_iff.mp hqueued).2⟩⟩
      · split
        · exact ⟨_, _, rfl, rfl, by simp, by simp⟩
        · rename_i hprocessing
          have hstatus : job.status = .processing := by simpa using hprocessing
          cases hlease : job.leaseExpiresAt with
          | none => exact ⟨_, _, rfl, rfl, by simp, by simp⟩
          | some leaseExpiresAt =>
            have hle : leaseExpiresAt ≤ s.world.clock 0 :=
              not_lt.mp fun hlt => h ⟨hstatus, hattempt, leaseExpiresAt, hlease, hlt⟩
            simp only [Request.run_utcNow_bind, if_pos hle]
            exact ⟨_, _, rfl, rfl, by simp, by simp⟩
  · have howned' : attemptMatches job.attemptId attemptId = false := by simpa using howned
    simp only [verifyActiveAttempt, howned', Bool.and_false, Bool.false_and, Bool.false_eq_true,
      ite_false, Bool.not_false, Bool.or_true, ite_true, Program.run_raise]
    exact ⟨_, _, rfl, rfl, by simp, by simp⟩

/-- A heartbeat of a live attempt renews the lease. -/
theorem run_heartbeatJob_of_heldBy (cfg : Settings F) {s : Session F} {job : Job F}
    {attemptId : Uuid} (h : job.HeldBy attemptId (s.world.clock 0)) :
    let leaseExpiresAt := s.world.clock 1 + seconds cfg.leaseSeconds
    ((heartbeatJob cfg job attemptId).run s).1 = .ok (.renewed leaseExpiresAt) ∧
      ((heartbeatJob cfg job attemptId).run s).2.committed =
        s.current.putJob { job with leaseExpiresAt := some leaseExpiresAt } := by
  rw [heartbeatJob, Program.run_bind_ok (run_verifyActiveAttempt_of_heldBy h false)]
  exact ⟨rfl, rfl⟩

/-- Any other heartbeat is rejected. -/
theorem run_heartbeatJob_of_not_heldBy (cfg : Settings F) {s : Session F} {job : Job F}
    {attemptId : Uuid} (h : ¬ job.HeldBy attemptId (s.world.clock 0)) :
    (∃ e, ((heartbeatJob cfg job attemptId).run s).1 = .error e) ∧
      ((heartbeatJob cfg job attemptId).run s).2.committed = s.committed := by
  obtain ⟨r, t, hrun, hcommitted, hne, -⟩ := run_verifyActiveAttempt_of_not_heldBy h false
  rw [heartbeatJob, Program.run_bind, hrun]
  cases r with
  | error e => exact ⟨⟨e, rfl⟩, hcommitted⟩
  | ok state =>
    cases state with
    | processing => exact absurd rfl hne
    | retryScheduled => exact ⟨⟨_, rfl⟩, hcommitted⟩
    | terminal status => exact ⟨⟨_, rfl⟩, hcommitted⟩

/-- Everything but the selfies. -/
def Database.exceptImages (db : Database F) : Database F :=
  { db with participantFaceImages := .empty, faceSearchImages := .empty }

/-- Some job with the same parent has not ended. -/
def Database.HasOpenSibling (db : Database F) (ref : JobRef) : Prop :=
  ∃ job ∈ db.jobs.rows, job.ref = ref ∧ job.status.isTerminal = false

theorem syncedPhotoStatus_of_open {statuses : List JobStatus} {status : JobStatus}
    (hmem : status ∈ statuses) (hopen : status.isTerminal = false) :
    syncedPhotoStatus statuses = none := by
  have hall : statuses.all JobStatus.isTerminal = false :=
    List.all_eq_false.mpr ⟨status, hmem, by simp [hopen]⟩
  simp [syncedPhotoStatus, hall]

/-- While a job of the same parent is open in the flushed view, synchronisation writes selfies
only. -/
theorem run_syncTerminalParentState (job : Job F) {s : Session F}
    (hopen : s.flushed.HasOpenSibling job.ref) :
    ((syncTerminalParentState job).run s).2.committed = s.committed ∧
      ((syncTerminalParentState job).run s).2.flushed = s.flushed ∧
      ((syncTerminalParentState job).run s).2.current.exceptImages = s.current.exceptImages := by
  obtain ⟨sibling, hmem, href, hstatus⟩ := hopen
  cases hjob : job.ref with
  | photo photoId jobType =>
    have hsynced : syncedPhotoStatus (s.flushed.photoJobStatuses photoId) = none := by
      have hsibling : sibling.photoId? == some photoId := by simp [Job.photoId?, href, hjob]
      exact syncedPhotoStatus_of_open
        (List.mem_map_of_mem (List.mem_filter.mpr ⟨hmem, hsibling⟩)) hstatus
    simp only [syncTerminalParentState, hjob, Request.run_query_bind, hsynced]
    exact ⟨rfl, rfl, rfl⟩
  | participantFace eventId participantId faceImageId =>
    simp only [syncTerminalParentState, hjob, Request.run_loaded_bind, Request.run_discard_bind]
    cases s.current.participantFaceImages.get? faceImageId <;> exact ⟨rfl, rfl, rfl⟩
  | faceSearch eventId searchSessionId searchImageId =>
    have hall : (s.flushed.searchJobStatuses searchSessionId).all JobStatus.isTerminal = false := by
      refine List.all_eq_false.mpr ⟨sibling.status, ?_, by simp [hstatus]⟩
      refine List.mem_map.mpr ⟨sibling, List.mem_filter.mpr ⟨hmem, ?_⟩, rfl⟩
      simp [Job.searchSessionId?, href, hjob]
    simp only [syncTerminalParentState, hjob, Request.run_loaded_bind, Request.run_discard_bind]
    cases s.current.faceSearchImages.get? searchImageId with
    | none => exact ⟨rfl, rfl, rfl⟩
    | some image =>
      simp only [Request.run_ofOption_some_bind, Request.run_assign_bind, Request.run_query_bind,
        Session.assign_flushed, hall, Bool.and_false, Bool.false_eq_true, ite_false]
      exact ⟨rfl, rfl, rfl⟩

/-- The failure is retried: it is retryable and an attempt is left. -/
def FailJobRequest.retries (payload : FailJobRequest) (job : Job F) : Bool :=
  payload.retryable && decide (job.attemptCount < job.maxAttempts)

/-- The row that a failure without a retry leaves. -/
def endedJob (job : Job F) (payload : FailJobRequest) (now : Instant) : Job F :=
  if payload.retryable then
    deadLetteredJob { job with errorMessage := some payload.storedMessage } payload.storedMessage
      now
  else failedJob job payload.storedMessage now

/-- A live attempt that fails with a retry left goes back to the queue. -/
theorem run_failJob_of_retries (cfg : Settings F) {s : Session F} {job : Job F}
    {payload : FailJobRequest} (h : job.HeldBy payload.attemptId (s.world.clock 0))
    (hretries : payload.retries job = true) :
    ∃ retryAfter, ((failJob cfg job payload).run s).1 = .ok (.retryScheduled retryAfter) ∧
      ((failJob cfg job payload).run s).2.committed =
        s.current.putJob (retriedJob job payload.storedMessage retryAfter) := by
  unfold FailJobRequest.retries at hretries
  rw [failJob, Program.run_bind_ok (run_verifyActiveAttempt_of_heldBy h true)]
  simp only [Request.run_utcNow_bind, if_pos hretries]
  exact ⟨_, rfl, rfl⟩

private theorem run_endJob (job : Job F) (payload : FailJobRequest) (now : Instant)
    (s : Session F) :
    ∃ endedAt t, (endJob job payload now).run s = (.ok (endedJob job payload endedAt), t) ∧
      t.committed = s.committed ∧ t.flushed = s.flushed ∧
      t.current = s.current.putJob (endedJob job payload endedAt) := by
  cases hretryable : payload.retryable with
  | true =>
    refine ⟨s.world.clock 0, s.tick.assign fun db => db.putJob _, ?_, rfl, rfl, rfl⟩
    simp only [endJob, endedJob, hretryable, ite_true]
    rfl
  | false =>
    refine ⟨now, s.assign fun db => db.putJob _, ?_, rfl, rfl, rfl⟩
    simp only [endJob, endedJob, hretryable, Bool.false_eq_true, ite_false]
    rfl

@[simp] theorem endedJob_ref (job : Job F) (payload : FailJobRequest) (now : Instant) :
    (endedJob job payload now).ref = job.ref := by
  unfold endedJob
  split <;> rfl

@[simp] theorem endedJob_id (job : Job F) (payload : FailJobRequest) (now : Instant) :
    (endedJob job payload now).id = job.id := by
  unfold endedJob
  split <;> rfl

/-- A live attempt that fails without a retry ends its job. -/
theorem run_failJob_of_ends (cfg : Settings F) {s : Session F} {job : Job F}
    {payload : FailJobRequest} (h : job.HeldBy payload.attemptId (s.world.clock 0))
    (hends : payload.retries job = false) (hopen : s.flushed.HasOpenSibling job.ref) :
    ((∃ e, ((failJob cfg job payload).run s).1 = .error e) ∧
        ((failJob cfg job payload).run s).2.committed = s.committed) ∨
      ∃ now, (∃ reply, ((failJob cfg job payload).run s).1 = .ok reply) ∧
        ((failJob cfg job payload).run s).2.committed.exceptImages =
          (s.current.putJob (endedJob job payload now)).exceptImages := by
  have hends' : ¬ (payload.retryable && decide (job.attemptCount < job.maxAttempts)) = true :=
    Bool.eq_false_iff.mp hends
  rw [failJob, Program.run_bind_ok (run_verifyActiveAttempt_of_heldBy h true)]
  simp only [Request.run_utcNow_bind, if_neg hends']
  obtain ⟨endedAt, t, hend, hc, hf, hcur⟩ :=
    run_endJob job payload (s.tick.world.clock 0) s.tick.tick
  rw [Program.run_bind_ok hend]
  obtain ⟨hc', -, hcur'⟩ := run_syncTerminalParentState (endedJob job payload endedAt) (s := t)
    (by rwa [hf, endedJob_ref])
  rw [Program.run_bind]
  rcases hrun : (syncTerminalParentState (endedJob job payload endedAt)).run t with ⟨e | _, u⟩
  · rw [hrun] at hc'
    exact Or.inl ⟨⟨e, rfl⟩, hc'.trans hc⟩
  · rw [hrun] at hcur'
    exact Or.inr ⟨endedAt, ⟨_, rfl⟩, hcur'.trans (congrArg Database.exceptImages hcur)⟩

/-- Any other failure report commits nothing; it is answered only if the row names the attempt
and is not being processed. -/
theorem run_failJob_of_not_heldBy (cfg : Settings F) {s : Session F} {job : Job F}
    {payload : FailJobRequest} (h : ¬ job.HeldBy payload.attemptId (s.world.clock 0)) :
    ((failJob cfg job payload).run s).2.committed = s.committed ∧
      ∀ reply, ((failJob cfg job payload).run s).1 = .ok reply →
        job.attemptId = some payload.attemptId ∧ job.status ≠ .processing := by
  obtain ⟨r, t, hrun, hcommitted, hne, hok⟩ := run_verifyActiveAttempt_of_not_heldBy h true
  rw [failJob, Program.run_bind, hrun]
  cases r with
  | error e => exact ⟨hcommitted, fun reply hreply => nomatch hreply⟩
  | ok state =>
    obtain ⟨hattempt, hstatus⟩ := hok state rfl
    have hstatus' : job.status ≠ .processing := by
      rintro hprocessing
      simp [hprocessing, JobStatus.isTerminal] at hstatus
    cases state with
    | processing => exact absurd rfl hne
    | retryScheduled => exact ⟨hcommitted, fun _ _ => ⟨hattempt, hstatus'⟩⟩
    | terminal status => exact ⟨hcommitted, fun _ _ => ⟨hattempt, hstatus'⟩⟩

/-- The row that reaping leaves. -/
def reapedJob (job : Job F) (now : Instant) : Job F :=
  deadLetteredJob job (orText job.errorMessage "Maximum processing attempts exhausted.".toList) now

/-- `dead` holds the rows that reaping leaves for `batch`. -/
def ReapedRows (batch dead : List (Job F)) : Prop :=
  List.Forall₂ (fun job row => ∃ now, row = reapedJob job now) batch dead

/-- Replace the rows of several jobs. -/
def Database.putJobs (db : Database F) (rows : List (Job F)) : Database F :=
  rows.foldl Database.putJob db

private theorem exceptImages_putJobs (db : Database F) (rows : List (Job F)) :
    (db.putJobs rows).exceptImages = db.exceptImages.putJobs rows := by
  induction rows generalizing db with
  | nil => rfl
  | cons row rows ih => exact ih (db.putJob row)

/-- Reaping a batch whose parents have open jobs replaces its rows and writes selfies. -/
theorem run_forM_reapJob (batch : List (Job F)) {s : Session F}
    (hopen : ∀ job ∈ batch, s.flushed.HasOpenSibling job.ref) :
    ((batch.forM reapJob).run s).2.committed = s.committed ∧
      ((batch.forM reapJob).run s).2.flushed = s.flushed ∧
      (((batch.forM reapJob).run s).1 = .ok () → ∃ dead, ReapedRows batch dead ∧
        ((batch.forM reapJob).run s).2.current.exceptImages =
          (s.current.putJobs dead).exceptImages) := by
  induction batch generalizing s with
  | nil => exact ⟨rfl, rfl, fun _ => ⟨[], .nil, rfl⟩⟩
  | cons job batch ih =>
    have hrun : (reapJob job).run s =
      (syncTerminalParentState (reapedJob job (s.world.clock 0))).run
        (s.tick.assign fun db => db.putJob (reapedJob job (s.world.clock 0))) := rfl
    have hcons : (job :: batch).forM reapJob = (reapJob job >>= fun _ => batch.forM reapJob) := rfl
    obtain ⟨hc, hf, hcur⟩ := run_syncTerminalParentState (reapedJob job (s.world.clock 0))
      (s := s.tick.assign fun db => db.putJob (reapedJob job (s.world.clock 0)))
      (hopen job List.mem_cons_self)
    rw [← hrun] at hc hf hcur
    rw [hcons, Program.run_bind]
    rcases hr : (reapJob job).run s with ⟨e | _, t⟩
    · rw [hr] at hc hf
      exact ⟨hc, hf, fun h => by cases h⟩
    · rw [hr] at hc hf hcur
      obtain ⟨hc', hf', hok⟩ := ih (s := t) fun job' hmem => by
        rw [hf]
        exact hopen job' (List.mem_cons_of_mem job hmem)
      refine ⟨hc'.trans hc, hf'.trans hf, fun h => ?_⟩
      obtain ⟨dead, hdead, hcurrent⟩ := hok h
      refine ⟨reapedJob job (s.world.clock 0) :: dead, .cons ⟨_, rfl⟩ hdead, ?_⟩
      rw [hcurrent, exceptImages_putJobs, hcur, ← exceptImages_putJobs]
      rfl

/-- A selected row is an unlocked row that satisfies the condition. -/
theorem mem_of_mem_selectJobs {db : Database F} {locked : JobKey → Bool} {limit : Nat}
    {condition : Job F → Bool} {job : Job F}
    (h : job ∈ db.selectJobs locked limit condition) :
    job ∈ db.jobs.rows ∧ condition job = true := by
  have hmem := List.mem_of_mem_filter (List.mem_of_mem_take h)
  rw [List.mem_insertionSort] at hmem
  exact List.mem_filter.mp hmem

/-- An available job has not ended. -/
theorem not_isTerminal_of_isAvailable {job : Job F} {now : Instant}
    (h : job.isAvailable now = true) : job.status.isTerminal = false := by
  unfold Job.isAvailable at h
  cases hstatus : job.status <;> simp_all [JobStatus.isTerminal]

/-- The rows that one run of `_reap_exhausted_jobs` selects. -/
def Database.exhaustedBatch (db : Database F) (locked : JobKey → Bool)
    (jobTypeCondition : Job F → Bool) (now : Instant) : List (Job F) :=
  db.selectJobs locked 50 fun job => jobTypeCondition job && job.isExhausted now

/-- What is known of a selected exhausted row. -/
theorem mem_exhaustedBatch {db : Database F} {locked : JobKey → Bool}
    {jobTypeCondition : Job F → Bool} {now : Instant} {job : Job F}
    (h : job ∈ db.exhaustedBatch locked jobTypeCondition now) :
    job ∈ db.jobs.rows ∧ job.isExhausted now = true ∧ job.status.isTerminal = false := by
  obtain ⟨hmem, hcondition⟩ := mem_of_mem_selectJobs h
  have hexhausted := (Bool.and_eq_true_iff.mp hcondition).2
  exact ⟨hmem, hexhausted,
    not_isTerminal_of_isAvailable (Bool.and_eq_true_iff.mp hexhausted).2⟩

/-- What `_mark_parent_processing` assigns, apart from the selfies. -/
def Database.startParent (db : Database F) : JobRef → Database F
  | .photo photoId _ => db.setPhotoStatus photoId .processing
  | .participantFace .. => db
  | .faceSearch _ searchSessionId _ =>
    db.updateSearchSession searchSessionId fun session => { session with status := .processing }

private theorem exceptImages_startParent (db : Database F) (ref : JobRef) :
    (db.startParent ref).exceptImages = db.exceptImages.startParent ref := by
  cases ref <;> rfl

/-- The object that a claim describes exists. -/
def Database.HasSubject (db : Database F) : JobRef → Prop
  | .photo photoId _ => ∃ photo, db.photos.get? photoId = some photo
  | .participantFace _ _ faceImageId =>
    ∃ image, db.participantFaceImages.get? faceImageId = some image
  | .faceSearch _ _ searchImageId => ∃ image, db.faceSearchImages.get? searchImageId = some image

private theorem run_markParentProcessing (s : Session F) (job : Job F) :
    ((markParentProcessing job).run s).2.committed = s.committed ∧
      (((markParentProcessing job).run s).1 = .ok () →
        ((markParentProcessing job).run s).2.current.HasSubject job.ref ∧
        ((markParentProcessing job).run s).2.current.exceptImages =
          (s.current.startParent job.ref).exceptImages) := by
  unfold markParentProcessing
  cases job.ref with
  | photo photoId jobType =>
    simp only [Request.run_loaded_bind, Request.run_discard_bind]
    cases hphoto : s.current.photos.get? photoId with
    | none => exact ⟨rfl, fun h => by cases h⟩
    | some photo =>
      refine ⟨rfl, fun _ => ⟨⟨{ photo with status := .processing }, ?_⟩, rfl⟩⟩
      exact Table.get?_update_self hphoto fun _ => rfl
  | participantFace eventId participantId faceImageId =>
    simp only [Request.run_loaded_bind, Request.run_discard_bind]
    cases himage : s.current.participantFaceImages.get? faceImageId with
    | none => exact ⟨rfl, fun h => by cases h⟩
    | some image =>
      refine ⟨rfl, fun _ => ⟨⟨{ image with status := .processing, errorMessage := none }, ?_⟩, rfl⟩⟩
      exact Table.get?_update_self himage fun _ => rfl
  | faceSearch eventId searchSessionId searchImageId =>
    simp only [Request.run_loaded_bind, Request.run_discard_bind]
    cases himage : s.current.faceSearchImages.get? searchImageId with
    | none => exact ⟨rfl, fun h => by cases h⟩
    | some image =>
      simp only [Request.run_ofOption_some_bind, Request.run_assign_bind,
        Request.run_loaded_bind, Session.assign_current, Database.setSearchImage_faceSearchSessions,
        Request.run_discard_bind]
      cases s.current.faceSearchSessions.get? searchSessionId with
      | none => exact ⟨rfl, fun h => by cases h⟩
      | some session =>
        refine ⟨rfl, fun _ => ⟨⟨{ image with status := .processing, errorMessage := none }, ?_⟩,
          rfl⟩⟩
        exact Table.get?_update_self himage fun _ => rfl

/-- What a claim leaves, in a session on `db` with nothing pending. -/
inductive ClaimOutcome (cfg : Settings F) (locked : JobKey → Bool)
    (jobTypeCondition : Job F → Bool) (reapedAt : Instant) (db : Database F) :
    Except Raised (Option (Job F)) × Session F → Prop
  /-- An exception: nothing is committed. -/
  | raised {e : Raised} {t : Session F} (committed : t.committed = db) :
    ClaimOutcome cfg locked jobTypeCondition reapedAt db (.error e, t)
  /-- No job is available: the reaped rows are committed. -/
  | idle {dead : List (Job F)} {t : Session F}
    (reaped : ReapedRows (db.exhaustedBatch locked jobTypeCondition reapedAt) dead)
    (committed : t.committed.exceptImages = (db.putJobs dead).exceptImages) :
    ClaimOutcome cfg locked jobTypeCondition reapedAt db (.ok none, t)
  /-- A job is handed out: the reaped rows, its row and its parent are committed. -/
  | claimed {claimedAt : Instant} {attemptId : Uuid} {dead : List (Job F)} {job : Job F}
    {t : Session F}
    (reaped : ReapedRows (db.exhaustedBatch locked jobTypeCondition reapedAt) dead)
    (mem : job ∈ db.jobs.rows)
    (claimable : job.isClaimable claimedAt = true)
    (subject : t.current.HasSubject job.ref)
    (committed : t.committed.exceptImages = (((db.putJobs dead).putJob
      (claimedJob cfg job attemptId claimedAt)).startParent job.ref).exceptImages) :
    ClaimOutcome cfg locked jobTypeCondition reapedAt db
      (.ok (some (claimedJob cfg job attemptId claimedAt)), t)

private theorem run_claimAvailableJob (cfg : Settings F) {locked : JobKey → Bool}
    {jobTypeCondition : Job F → Bool} {db : Database F} {reapedAt : Instant}
    {dead : List (Job F)} {t : Session F}
    (hdead : ReapedRows (db.exhaustedBatch locked jobTypeCondition reapedAt) dead)
    (hc : t.committed = db) (hf : t.flushed = db)
    (hcurrent : t.current.exceptImages = (db.putJobs dead).exceptImages) :
    ClaimOutcome cfg locked jobTypeCondition reapedAt db
      ((claimAvailableJob cfg jobTypeCondition).run t) := by
  have hselect : ∀ (condition : Job F → Bool) (f : List (Job F) → Request F (Option (Job F))),
      (selectForUpdate 1 condition >>= f).run t.tick =
        (f (db.selectJobs t.world.locked 1 condition)).run t.tick := by
    intro condition f
    rw [← hf]
    rfl
  simp only [claimAvailableJob, Request.run_utcNow_bind, hselect]
  cases hjobs : db.selectJobs t.world.locked 1 fun job =>
      jobTypeCondition job && job.isClaimable (t.world.clock 0) with
  | nil => exact .idle hdead hcurrent
  | cons job rest =>
    obtain ⟨hmem, hcondition⟩ := mem_of_mem_selectJobs (hjobs ▸ List.mem_cons_self)
    obtain ⟨hc', hok'⟩ := run_markParentProcessing
      ((t.tick.draw 1).assign fun db => db.putJob
        (claimedJob cfg job (t.tick.world.uuids 0) (t.world.clock 0)))
      (claimedJob cfg job (t.tick.world.uuids 0) (t.world.clock 0))
    simp only [Request.run_uuid4_bind, Request.run_assign_bind]
    rw [Program.run_bind]
    rcases hmark : (markParentProcessing
        (claimedJob cfg job (t.tick.world.uuids 0) (t.world.clock 0))).run
        ((t.tick.draw 1).assign fun db => db.putJob
          (claimedJob cfg job (t.tick.world.uuids 0) (t.world.clock 0))) with ⟨e | _, u⟩
    · rw [hmark] at hc'
      exact .raised (hc'.trans hc)
    · rw [hmark] at hok'
      obtain ⟨hsubject, hu⟩ := hok' rfl
      refine .claimed hdead hmem (Bool.and_eq_true_iff.mp hcondition).2 hsubject ?_
      change u.current.exceptImages = _
      rw [hu, exceptImages_startParent, exceptImages_startParent]
      change ((t.current.exceptImages).putJob _).startParent _ = _
      rw [hcurrent]
      rfl

/-- A claim reaps, then hands out a job or none. -/
theorem run_claimJob (cfg : Settings F) (jobTypeCondition : Job F → Bool) (world : World)
    (db : Database F) :
    ClaimOutcome cfg world.locked jobTypeCondition (world.clock 0) db
      ((claimJob cfg jobTypeCondition).run (Session.sessionLocal world db)) := by
  have hreap : (reapExhaustedJobs jobTypeCondition).run (Session.sessionLocal world db) =
      ((db.exhaustedBatch world.locked jobTypeCondition (world.clock 0)).forM reapJob).run
        (Session.sessionLocal world db).tick := rfl
  obtain ⟨hc, hf, hok⟩ := run_forM_reapJob
    (db.exhaustedBatch world.locked jobTypeCondition (world.clock 0))
    (s := (Session.sessionLocal world db).tick) fun job hmem =>
      ⟨job, (mem_exhaustedBatch hmem).1, rfl, (mem_exhaustedBatch hmem).2.2⟩
  rw [← hreap] at hc hf hok
  rw [claimJob, Program.run_bind]
  rcases hr : (reapExhaustedJobs jobTypeCondition).run (Session.sessionLocal world db) with
    ⟨e | _, t⟩
  · rw [hr] at hc
    exact .raised hc
  · rw [hr] at hc hf hok
    obtain ⟨dead, hdead, hcurrent⟩ := hok rfl
    exact run_claimAvailableJob cfg hdead hc hf hcurrent

end RaceFrame
