import RaceFrame.Core.Ticket
import RaceFrame.Worker.Outcomes

/-!
# What a call does to one job row

Every call moves every job row by at most one step of the lifecycle, and the
lifecycle of a row is that of a fenced ticket whose token is the attempt id. The
label of a step says which token acts; it is the one that the call names, or the
one that the answer hands out.
-/

namespace RaceFrame

open Core

variable {F : Type}

/-- One step of a job row, at a call that reads the clock first at `now`. -/
inductive RowStep (cfg : Settings F) (now : Instant) (job : Job F) :
    TicketAction Uuid → Job F → Prop
  | rest : RowStep cfg now job .rest job
  | reaped {reapedAt endedAt : Instant} (exhausted : job.isExhausted reapedAt = true) :
    RowStep cfg now job .close (reapedJob job endedAt)
  | claimed {attemptId : Uuid} {claimedAt : Instant}
    (claimable : job.isClaimable claimedAt = true) :
    RowStep cfg now job (.issue attemptId) (claimedJob cfg job attemptId claimedAt)
  | renewed {attemptId : Uuid} {leaseExpiresAt : Instant} (held : job.HeldBy attemptId now) :
    RowStep cfg now job (.renew attemptId) { job with leaseExpiresAt := some leaseExpiresAt }
  | retried {payload : FailJobRequest} {retryAfter : Instant}
    (held : job.HeldBy payload.attemptId now) (retries : payload.retries job = true) :
    RowStep cfg now job (.giveBack payload.attemptId)
      (retriedJob job payload.storedMessage retryAfter)
  | ended {payload : FailJobRequest} {endedAt : Instant}
    (held : job.HeldBy payload.attemptId now) (ends : payload.retries job = false) :
    RowStep cfg now job (.settle payload.attemptId) (endedJob job payload endedAt)
  | completed {attemptId : Uuid} {rawResponseJson : JsonDict F} {finishedAt : Instant}
    (held : job.HeldBy attemptId now) :
    RowStep cfg now job (.settle attemptId)
      (completedJob (releasedJob job) rawResponseJson finishedAt)

/-- The phase of a job as a ticket. -/
def JobStatus.phase : JobStatus → TicketPhase
  | .queued => .waiting
  | .processing => .held
  | .completed | .failed | .deadLettered => .closed

/-- A job as a ticket. -/
def Job.ticket (job : Job F) : Ticket Uuid := ⟨job.attemptId, job.status.phase⟩

theorem JobStatus.phase_eq_closed_iff (status : JobStatus) :
    status.phase = .closed ↔ status.isTerminal = true := by
  cases status <;> simp [phase, isTerminal]

theorem JobStatus.phase_eq_held_iff (status : JobStatus) :
    status.phase = .held ↔ status = .processing := by
  cases status <;> simp [phase]

/-- The row of a live attempt is a held ticket. -/
theorem Job.HeldBy.ticket_eq {job : Job F} {attemptId : Uuid} {now : Instant}
    (h : job.HeldBy attemptId now) : job.ticket = ⟨some attemptId, .held⟩ := by
  simp [Job.ticket, h.attempt, h.status, JobStatus.phase]

/-- An available row is an open ticket. -/
theorem phase_ne_closed_of_isAvailable {job : Job F} {now : Instant}
    (h : job.isAvailable now = true) : job.ticket.phase ≠ .closed := by
  intro hclosed
  have hterminal := (JobStatus.phase_eq_closed_iff job.status).mp hclosed
  rw [not_isTerminal_of_isAvailable h] at hterminal
  cases hterminal

/-- A step of a row is a step of its ticket. -/
theorem RowStep.ticketStep {cfg : Settings F} {now : Instant} {job job' : Job F}
    {a : TicketAction Uuid} (h : RowStep cfg now job a job') :
    TicketStep a job.ticket job'.ticket := by
  cases h with
  | rest => exact .rest _
  | reaped exhausted =>
    exact .close (phase_ne_closed_of_isAvailable (Bool.and_eq_true_iff.mp exhausted).2)
  | claimed claimable =>
    exact .issue _ (phase_ne_closed_of_isAvailable (Bool.and_eq_true_iff.mp claimable).2)
  | @renewed attemptId leaseExpiresAt held =>
    have hafter : ({ job with leaseExpiresAt := some leaseExpiresAt } : Job F).ticket =
        ⟨some attemptId, .held⟩ := held.ticket_eq
    rw [held.ticket_eq, hafter]
    exact .renew attemptId
  | @retried payload retryAfter held retries =>
    have hafter : (retriedJob job payload.storedMessage retryAfter).ticket =
        ⟨some payload.attemptId, .waiting⟩ := by
      rw [← held.attempt]
      rfl
    rw [held.ticket_eq, hafter]
    exact .giveBack payload.attemptId
  | @ended payload endedAt held ends =>
    have hafter : (endedJob job payload endedAt).ticket = ⟨some payload.attemptId, .closed⟩ := by
      rw [← held.attempt]
      unfold endedJob
      split <;> rfl
    rw [held.ticket_eq, hafter]
    exact .settle payload.attemptId
  | @completed attemptId rawResponseJson finishedAt held =>
    have hafter : (completedJob (releasedJob job) rawResponseJson finishedAt).ticket =
        ⟨some attemptId, .closed⟩ := by
      rw [← held.attempt]
      rfl
    rw [held.ticket_eq, hafter]
    exact .settle attemptId

/-- No step changes what identifies a row. -/
theorem RowStep.ref_eq {cfg : Settings F} {now : Instant} {job job' : Job F}
    {a : TicketAction Uuid} (h : RowStep cfg now job a job') : job'.ref = job.ref := by
  cases h with
  | ended held ends => exact endedJob_ref job _ _
  | rest | reaped | claimed | renewed | retried | completed => rfl

/-- The token that an answer issues for a job. -/
def issuedFor (key : JobKey) : Except Raised Reply → Option Uuid
  | .ok reply =>
    match reply.handsOut with
    | some (handed, attemptId) => if handed = key then some attemptId else none
    | none => none
  | .error _ => none

/-- The token that acts in a step, if it is not issued by it. -/
def ticketActor : TicketAction Uuid → Option Uuid
  | .renew attemptId | .giveBack attemptId | .settle attemptId => some attemptId
  | .rest | .issue _ | .close => none

/-- The call is a heartbeat. -/
def WorkerCall.isHeartbeat : WorkerCall F → Bool
  | .heartbeat .. => true
  | _ => false

/-- What a call did to the row under `key`. -/
structure RowMove (cfg : Settings F) (world : World) (call : WorkerCall F)
    (reply : Except Raised Reply) (key : JobKey) (job job' : Job F) (a : TicketAction Uuid) :
    Prop where
  step : RowStep cfg (world.clock 0) job a job'
  /-- The answer hands out what the step issues. -/
  issued : a.issued? = issuedFor key reply
  /-- Only heartbeats renew. -/
  renews : ∀ attemptId, a = .renew attemptId → call.isHeartbeat = true
  /-- Completions give nothing back. -/
  gives : ∀ attemptId, a = .giveBack attemptId → call.isComplete = false
  /-- Calls that name another job leave the row. -/
  others : ∀ named attemptId, call.names = some (named, attemptId) → named ≠ key → job' = job
  /-- An accepted call of the live attempt acts. -/
  acts : ∀ attemptId answer, call.names = some (key, attemptId) →
    job.HeldBy attemptId (world.clock 0) → reply = .ok answer → ticketActor a = some attemptId

theorem jobs_of_exceptImages {db db' : Database F} (h : db.exceptImages = db'.exceptImages) :
    db.jobs = db'.jobs := by
  have hjobs := congrArg Database.jobs h
  exact hjobs

theorem photos_of_exceptImages {db db' : Database F} (h : db.exceptImages = db'.exceptImages) :
    db.photos = db'.photos := by
  have hphotos := congrArg Database.photos h
  exact hphotos

theorem faceSearchSessions_of_exceptImages {db db' : Database F}
    (h : db.exceptImages = db'.exceptImages) : db.faceSearchSessions = db'.faceSearchSessions := by
  have hsessions := congrArg Database.faceSearchSessions h
  exact hsessions

theorem jobs_of_exceptSearchResults {db db' : Database F}
    (h : db.exceptSearchResults = db'.exceptSearchResults) : db.jobs = db'.jobs := by
  have hjobs := congrArg Database.jobs h
  exact hjobs

theorem putJobs_jobs (db : Database F) (rows : List (Job F)) :
    (db.putJobs rows).jobs = rows.foldl Table.put db.jobs := by
  induction rows generalizing db with
  | nil => rfl
  | cons row rows ih => exact ih (db.putJob row)

theorem putJobs_photos (db : Database F) (rows : List (Job F)) :
    (db.putJobs rows).photos = db.photos := by
  induction rows generalizing db with
  | nil => rfl
  | cons row rows ih => exact ih (db.putJob row)

theorem putJobs_faceSearchSessions (db : Database F) (rows : List (Job F)) :
    (db.putJobs rows).faceSearchSessions = db.faceSearchSessions := by
  induction rows generalizing db with
  | nil => rfl
  | cons row rows ih => exact ih (db.putJob row)

theorem startParent_jobs (db : Database F) (ref : JobRef) :
    (db.startParent ref).jobs = db.jobs := by
  cases ref <;> rfl

theorem ReapedRows.map_key {batch dead : List (Job F)} (h : ReapedRows batch dead) :
    dead.map Job.key = batch.map Job.key := by
  induction h with
  | nil => rfl
  | cons hrow _ ih =>
    obtain ⟨now, rfl⟩ := hrow
    rw [List.map_cons, List.map_cons, ih]
    rfl

theorem ReapedRows.exists_of_mem {batch dead : List (Job F)} (h : ReapedRows batch dead)
    {job : Job F} (hmem : job ∈ batch) : ∃ now, reapedJob job now ∈ dead := by
  induction h with
  | nil => cases hmem
  | cons hrow _ ih =>
    obtain ⟨now, rfl⟩ := hrow
    rcases List.mem_cons.mp hmem with rfl | hmem
    · exact ⟨now, List.mem_cons_self⟩
    · obtain ⟨now', hmem'⟩ := ih hmem
      exact ⟨now', List.mem_cons_of_mem _ hmem'⟩

/-- The rows of a batch have distinct keys. -/
theorem nodup_selectJobs (db : Database F) (locked : JobKey → Bool) (limit : Nat)
    (condition : Job F → Bool) : ((db.selectJobs locked limit condition).map Job.key).Nodup := by
  have hfilter : ((db.jobs.rows.filter condition).map Job.key).Nodup :=
    db.jobs.nodup.sublist (List.filter_sublist.map _)
  have hsorted := ((List.perm_insertionSort (fun a b : Job F => a.createdAt ≤ b.createdAt)
    (db.jobs.rows.filter condition)).map Job.key).nodup_iff.mpr hfilter
  exact hsorted.sublist (((List.take_sublist _ _).trans List.filter_sublist).map _)

/-- After reaping, a row of the batch is dead-lettered and every other row is as before. -/
theorem get?_reaped {db : Database F} {locked : JobKey → Bool} {condition : Job F → Bool}
    {reapedAt : Instant} {dead : List (Job F)}
    (hreaped : ReapedRows (db.exhaustedBatch locked condition reapedAt) dead) {key : JobKey}
    {job : Job F} (hrow : db.jobs.get? key = some job) :
    (job ∈ db.exhaustedBatch locked condition reapedAt ∧
        ∃ now, (db.putJobs dead).jobs.get? key = some (reapedJob job now)) ∨
      (job ∉ db.exhaustedBatch locked condition reapedAt ∧
        (db.putJobs dead).jobs.get? key = some job) := by
  have hkey : job.key = key := Table.get?_key hrow
  rw [putJobs_jobs]
  by_cases hmem : job ∈ db.exhaustedBatch locked condition reapedAt
  · refine Or.inl ⟨hmem, ?_⟩
    obtain ⟨now, hdead⟩ := hreaped.exists_of_mem hmem
    have hnodup : (dead.map Job.key).Nodup := by
      rw [hreaped.map_key]
      exact nodup_selectJobs db locked 50 _
    have hold : db.jobs.get? (reapedJob job now).key = some job := hkey ▸ hrow
    have hget := Table.get?_foldl_put_of_mem hdead hnodup hold
    exact ⟨now, by rw [← hkey]; exact hget⟩
  · refine Or.inr ⟨hmem, ?_⟩
    rw [Table.get?_foldl_put_of_ne ?_ db.jobs, hrow]
    intro row hdead hrowkey
    have hin : key ∈ (db.exhaustedBatch locked condition reapedAt).map Job.key := by
      rw [← hreaped.map_key]
      exact List.mem_map.mpr ⟨row, hdead, hrowkey⟩
    obtain ⟨job', hmem', hkey'⟩ := List.mem_map.mp hin
    have heq : job' = job :=
      Table.eq_of_key_eq (mem_exhaustedBatch hmem').1 (Table.mem_of_get? hrow)
        (hkey'.trans hkey.symm)
    exact hmem (heq ▸ hmem')

private theorem rowMove_put {cfg : Settings F} {world : World} {call : WorkerCall F}
    {reply : StatusReply} {jobs jobs' : Table (Job F) Job.key} {named key : JobKey}
    {old row job : Job F} {a : TicketAction Uuid} {attemptId : Uuid}
    (hnamed : jobs.get? named = some old) (hjobs : jobs' = jobs.put row)
    (hstep : RowStep cfg (world.clock 0) old a row) (hissued : a.issued? = none)
    (hrenews : ∀ attemptId, a = .renew attemptId → call.isHeartbeat = true)
    (hgives : ∀ attemptId, a = .giveBack attemptId → call.isComplete = false)
    (hactor : ticketActor a = some attemptId) (hnames : call.names = some (named, attemptId))
    (hkey : row.key = old.key) (hrow : jobs.get? key = some job) :
    ∃ job' a, jobs'.get? key = some job' ∧
      RowMove cfg world call (.ok (.status reply)) key job job' a := by
  have hrowkey : row.key = named := hkey.trans (Table.get?_key hnamed)
  rw [hjobs, Table.get?_put, hrowkey]
  by_cases hk : key = named
  · subst hk
    obtain rfl : job = old := Option.some.inj (hrow.symm.trans hnamed)
    refine ⟨row, a, by simp [hrow], hstep, hissued, hrenews, hgives,
      fun named' _ hnamed' hne => ?_, fun attemptId' answer hnames' _ _ => ?_⟩
    · rw [hnames, Option.some.injEq, Prod.mk.injEq] at hnamed'
      exact absurd hnamed'.1.symm hne
    · rw [hnames, Option.some.injEq, Prod.mk.injEq] at hnames'
      rw [hactor, hnames'.2]
  · refine ⟨job, .rest, by simp [hk, hrow], .rest, rfl, by simp, by simp,
      fun _ _ _ _ => rfl, fun attemptId' answer hnames' => ?_⟩
    rw [hnames, Option.some.injEq, Prod.mk.injEq] at hnames'
    exact absurd hnames'.1.symm hk

/-- The two writes of a completion to its row are one. -/
theorem put_releasedJob_put (jobs : Table (Job F) Job.key) (job : Job F)
    (rawResponseJson : JsonDict F) (finishedAt : Instant) :
    (jobs.put (releasedJob job)).put (completedJob (releasedJob job) rawResponseJson finishedAt) =
      jobs.put (completedJob (releasedJob job) rawResponseJson finishedAt) :=
  Table.put_put rfl

variable [Scalar F]

/-- Every call moves every job row by at most one step. -/
theorem Outcome.rowMove {cfg : Settings F} {world : World} {db db' : Database F}
    {call : WorkerCall F} {reply : Except Raised Reply} (h : Outcome cfg world db call reply db')
    {key : JobKey} {job : Job F} (hrow : db.jobs.get? key = some job) :
    ∃ job' a, db'.jobs.get? key = some job' ∧ RowMove cfg world call reply key job job' a := by
  cases h with
  | raised => exact ⟨job, .rest, hrow, .rest, rfl, by simp, by simp, fun _ _ _ _ => rfl, by simp⟩
  | @answered call named attemptId old reply names row attempt ended =>
    refine ⟨job, .rest, hrow, .rest, rfl, by simp, by simp, fun _ _ _ _ => rfl,
      fun attemptId' answer names' held _ => ?_⟩
    rw [names, Option.some.injEq, Prod.mk.injEq] at names'
    obtain rfl : job = old := Option.some.inj (hrow.symm.trans (names'.1 ▸ row))
    exact absurd held.status ended
  | idle reaped committed =>
    rw [jobs_of_exceptImages committed]
    rcases get?_reaped reaped hrow with ⟨hmem, now, hget⟩ | ⟨-, hget⟩
    · exact ⟨_, .close, hget, .reaped (mem_exhaustedBatch hmem).2.1, rfl, by simp,
        by simp, by simp [WorkerCall.names],
        by simp [WorkerCall.names]⟩
    · exact ⟨job, .rest, hget, .rest, rfl, by simp, by simp, by simp [WorkerCall.names],
        by simp [WorkerCall.names]⟩
  | @claimed target claimedAt attemptId dead claimed reply _ reaped mem claimable handsOut
      committed =>
    rw [jobs_of_exceptImages committed, startParent_jobs, Database.putJob_jobs, Table.get?_put]
    have hkey : (claimedJob cfg claimed attemptId claimedAt).key = claimed.key := rfl
    by_cases hk : key = claimed.key
    · obtain rfl : job = claimed :=
        Table.eq_of_key_eq (Table.mem_of_get? hrow) mem ((Table.get?_key hrow).trans hk)
      refine ⟨claimedJob cfg job attemptId claimedAt, .issue attemptId, ?_, .claimed claimable, ?_,
        by simp, by simp, by simp [WorkerCall.names],
        by simp [WorkerCall.names]⟩
      · rw [if_pos (hk.trans hkey.symm)]
        rcases get?_reaped reaped hrow with ⟨-, _, hget⟩ | ⟨-, hget⟩ <;> simp [hget]
      · simp [issuedFor, handsOut, hk, TicketAction.issued?]
    · have hne : claimed.key ≠ key := fun he => hk he.symm
      have hissued : issuedFor key (.ok reply) = none := by simp [issuedFor, handsOut, hne]
      rw [hkey, if_neg hk]
      rcases get?_reaped reaped hrow with ⟨hmem, now, hget⟩ | ⟨-, hget⟩
      · exact ⟨_, .close, hget, .reaped (mem_exhaustedBatch hmem).2.1, hissued.symm, by simp,
          by simp, by simp [WorkerCall.names],
        by simp [WorkerCall.names]⟩
      · exact ⟨job, .rest, hget, .rest, hissued.symm, by simp, by simp,
          by simp [WorkerCall.names],
        by simp [WorkerCall.names]⟩
  | renewed row held =>
    exact rowMove_put row rfl (.renewed held) rfl (fun _ _ => rfl) (by simp) rfl rfl rfl hrow
  | retried row held retries =>
    exact rowMove_put row rfl (.retried held retries) rfl (by simp) (fun _ _ => rfl) rfl rfl rfl
      hrow
  | @ended kind jobId payload old now reply _ row held ends committed =>
    have hkey : (endedJob old payload now).key = old.key := by
      rw [Job.key, Job.key, endedJob_ref, endedJob_id]
    exact rowMove_put row (jobs_of_exceptImages committed) (.ended held ends) rfl (by simp)
      (by simp) rfl rfl hkey hrow
  | @recognised jobId photoId payload old photo rawResponseJson now reply row held ref parent =>
    have hjobs := put_releasedJob_put db.jobs old rawResponseJson now
    exact rowMove_put row (by rw [finishPhotoJob_jobs, matchTextDetections_eq]; exact hjobs)
      (.completed held) rfl (by simp) (by simp) rfl rfl rfl hrow
  | @scanned jobId photoId payload old photo rows rawResponseJson now reply row held ref parent
      inserted =>
    have hjobs := put_releasedJob_put db.jobs old rawResponseJson now
    exact rowMove_put row (by rw [finishPhotoJob_jobs]; exact hjobs) (.completed held) rfl
      (by simp) (by simp) rfl rfl rfl hrow
  | @enrolled jobId eventId participantId faceImageId payload old rows rawResponseJson now reply row
      held ref usable inserted =>
    have hjobs := put_releasedJob_put db.jobs old rawResponseJson now
    exact rowMove_put row (by rw [matchParticipant_eq]; exact hjobs) (.completed held) rfl
      (by simp) (by simp) rfl rfl rfl hrow
  | @searched jobId eventId searchSessionId searchImageId payload old rawResponseJson now
      sessionFinishedAt reply _ row held ref usable fits committed =>
    have hjobs := put_releasedJob_put db.jobs old rawResponseJson now
    have hcommitted := jobs_of_exceptSearchResults committed
    rw [Database.finishFaceSearchJob, markSearchSession_jobs] at hcommitted
    exact rowMove_put row (hcommitted.trans hjobs) (.completed held) rfl (by simp) (by simp) rfl rfl
      rfl hrow

/-- The job rows there are stay the same. -/
theorem Outcome.jobKeys_eq {cfg : Settings F} {world : World} {db db' : Database F}
    {call : WorkerCall F} {reply : Except Raised Reply} (h : Outcome cfg world db call reply db') :
    db'.jobs.rows.map Job.key = db.jobs.rows.map Job.key := by
  cases h with
  | raised | answered => rfl
  | idle reaped committed =>
    rw [jobs_of_exceptImages committed, putJobs_jobs, Table.map_key_foldl_put]
  | claimed reaped mem claimable handsOut committed =>
    rw [jobs_of_exceptImages committed, startParent_jobs, Database.putJob_jobs, putJobs_jobs,
      Table.map_key_put, Table.map_key_foldl_put]
  | renewed | retried => rw [Database.putJob_jobs, Table.map_key_put]
  | ended row held ends committed =>
    rw [jobs_of_exceptImages committed, Database.putJob_jobs, Table.map_key_put]
  | recognised =>
    rw [finishPhotoJob_jobs, Table.map_key_put, matchTextDetections_eq]
    exact Table.map_key_put db.jobs _
  | scanned =>
    rw [finishPhotoJob_jobs, Table.map_key_put]
    exact Table.map_key_put db.jobs _
  | enrolled =>
    rw [matchParticipant_eq]
    exact (Table.map_key_put _ _).trans (Table.map_key_put db.jobs _)
  | searched row held ref usable fits committed =>
    rw [jobs_of_exceptSearchResults committed, Database.finishFaceSearchJob, markSearchSession_jobs]
    exact (Table.map_key_put _ _).trans (Table.map_key_put db.jobs _)

end RaceFrame
