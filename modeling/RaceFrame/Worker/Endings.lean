import RaceFrame.Worker.Runs

/-!
# Which calls end which jobs

A photo and a search session derive their status from a group of jobs. A call
ends a job when it moves it to a terminal status; whether it does is decided by
the call and by the row before it. A call that ends no last open job of a group
leaves an open job in it, and a group without open jobs never changes.
-/

namespace RaceFrame

open Core

variable {F : Type} [Scalar F]

/-- The call ends the job: a report of its live attempt, or reaping. -/
def WorkerCall.Ends (cfg : Settings F) (world : World) (db : Database F) :
    WorkerCall F → Job F → Prop
  | .claim target, job => job ∈ db.exhaustedBatch world.locked target.condition (world.clock 0)
  | .heartbeat .., _ => False
  | .fail kind jobId payload, job =>
    job.key = (kind, jobId) ∧ job.HeldBy payload.attemptId (world.clock 0) ∧
      payload.retries job = false
  | .completePhoto jobId payload, job =>
    job.key = (.photo, jobId) ∧ job.HeldBy payload.attemptId (world.clock 0)
  | .completeParticipantFace jobId payload, job =>
    job.key = (.participantFace, jobId) ∧ job.HeldBy payload.attemptId (world.clock 0) ∧
      normalizeEmbeddingPayload payload.embedding ≠ []
  | .completeFaceSearch jobId payload, job =>
    job.key = (.faceSearch, jobId) ∧ job.HeldBy payload.attemptId (world.clock 0) ∧
      normalizeEmbeddingPayload payload.embedding ≠ [] ∧
      ∃ eventId searchSessionId searchImageId,
        job.ref = .faceSearch eventId searchSessionId searchImageId ∧
        (db.eventFaces eventId).length ≤ cfg.maxSearchFacesPerEvent

omit [Scalar F] in
/-- Some job of the group has not ended. -/
def Database.HasOpenJob (db : Database F) (group : JobRef → Bool) : Prop :=
  ∃ job ∈ db.jobs.rows, group job.ref = true ∧ job.status.isTerminal = false

/-- The call ends every open job of the group, and there is one. -/
structure WorkerCall.EndsLast (cfg : Settings F) (world : World) (db : Database F)
    (call : WorkerCall F) (group : JobRef → Bool) : Prop where
  isOpen : db.HasOpenJob group
  ends : ∀ job ∈ db.jobs.rows, group job.ref = true → job.status.isTerminal = false →
    call.Ends cfg world db job

/-- A claim that finds nothing to reap ends no job. -/
theorem not_endsLast_claim {cfg : Settings F} {world : World} {db : Database F}
    {target : ClaimTarget} {group : JobRef → Bool}
    (h : (db.exhaustedBatch world.locked target.condition (world.clock 0)).isEmpty = true) :
    ¬ (WorkerCall.claim target).EndsLast cfg world db group := by
  rintro ⟨⟨job, hmem, hgroup, hopen⟩, hends⟩
  have hjob := hends job hmem hgroup hopen
  rw [WorkerCall.Ends, List.isEmpty_iff.mp h] at hjob
  cases hjob

omit [Scalar F] in
private theorem status_of_put {jobs : Table (Job F) Job.key} {named key : JobKey}
    {old row job job' : Job F} (hnamed : jobs.get? named = some old)
    (hrow : jobs.get? key = some job) (hrow' : (jobs.put row).get? key = some job')
    (hkey : row.key = old.key) :
    (job = old ∧ job' = row) ∨ job' = job := by
  have hrowkey : row.key = named := hkey.trans (Table.get?_key hnamed)
  rw [Table.get?_put, hrowkey] at hrow'
  by_cases hk : key = named
  · subst hk
    obtain rfl : job = old := Option.some.inj (hrow.symm.trans hnamed)
    rw [if_pos rfl, hrow] at hrow'
    exact Or.inl ⟨rfl, (Option.some.inj hrow').symm⟩
  · rw [if_neg hk, hrow] at hrow'
    exact Or.inr (Option.some.inj hrow').symm

omit [Scalar F] in
private theorem status_of_completed {jobs : Table (Job F) Job.key} {named key : JobKey}
    {old job job' : Job F} {rawResponseJson : JsonDict F} {finishedAt : Instant}
    (hnamed : jobs.get? named = some old) (hrow : jobs.get? key = some job)
    (hrow' : ((jobs.put (releasedJob old)).put
      (completedJob (releasedJob old) rawResponseJson finishedAt)).get? key = some job') :
    job = old ∨ job' = job := by
  rw [put_releasedJob_put] at hrow'
  rcases status_of_put hnamed hrow hrow' rfl with ⟨heq, -⟩ | heq
  · exact Or.inl heq
  · exact Or.inr heq

omit [Scalar F] in
private theorem mem_exhaustedBatch_of_reaped {db : Database F} {locked : JobKey → Bool}
    {condition : Job F → Bool} {reapedAt : Instant} {dead : List (Job F)}
    (hreaped : ReapedRows (db.exhaustedBatch locked condition reapedAt) dead) {key : JobKey}
    {job job' : Job F} (hrow : db.jobs.get? key = some job)
    (hrow' : (db.putJobs dead).jobs.get? key = some job') (hopen : job.status.isTerminal = false)
    (hended : job'.status.isTerminal = true) :
    job ∈ db.exhaustedBatch locked condition reapedAt := by
  rcases get?_reaped hreaped hrow with ⟨hmem, -⟩ | ⟨-, hget⟩
  · exact hmem
  · obtain rfl : job = job' := Option.some.inj (hget.symm.trans hrow')
    rw [hopen] at hended
    cases hended

/-- A job that is open before a call and has ended after it was ended by the call. -/
theorem Outcome.ends {cfg : Settings F} {world : World} {db db' : Database F}
    {call : WorkerCall F} {reply : Except Raised Reply} (h : Outcome cfg world db call reply db')
    {key : JobKey} {job job' : Job F} (hrow : db.jobs.get? key = some job)
    (hrow' : db'.jobs.get? key = some job') (hopen : job.status.isTerminal = false)
    (hended : job'.status.isTerminal = true) : call.Ends cfg world db job := by
  have hchanged : job' ≠ job := by
    rintro rfl
    rw [hopen] at hended
    cases hended
  have hstatus : job'.status ≠ .processing := by
    intro hprocessing
    rw [hprocessing] at hended
    cases hended
  cases h with
  | raised => exact absurd (Option.some.inj (hrow'.symm.trans hrow)) hchanged
  | answered => exact absurd (Option.some.inj (hrow'.symm.trans hrow)) hchanged
  | idle reaped committed =>
    rw [jobs_of_exceptImages committed] at hrow'
    exact mem_exhaustedBatch_of_reaped reaped hrow hrow' hopen hended
  | @claimed target claimedAt attemptId dead claimed reply _ reaped mem claimable handsOut
      committed =>
    rw [jobs_of_exceptImages committed, startParent_jobs, Database.putJob_jobs,
      Table.get?_put] at hrow'
    by_cases hk : key = (claimedJob cfg claimed attemptId claimedAt).key
    · rw [if_pos hk] at hrow'
      obtain ⟨_, -, hjob'⟩ := Option.map_eq_some_iff.mp hrow'
      exact absurd (hjob' ▸ rfl) hstatus
    · rw [if_neg hk] at hrow'
      exact mem_exhaustedBatch_of_reaped reaped hrow hrow' hopen hended
  | renewed row held =>
    rw [Database.putJob_jobs] at hrow'
    rcases status_of_put row hrow hrow' rfl with ⟨-, rfl⟩ | heq
    · exact absurd held.status hstatus
    · exact absurd heq hchanged
  | retried row held retries =>
    rw [Database.putJob_jobs] at hrow'
    rcases status_of_put row hrow hrow' rfl with ⟨-, rfl⟩ | heq
    · cases hended
    · exact absurd heq hchanged
  | @ended kind jobId payload old now reply _ row held ends committed =>
    rw [jobs_of_exceptImages committed] at hrow'
    have hkey : (endedJob old payload now).key = old.key := by
      rw [Job.key, Job.key, endedJob_ref, endedJob_id]
    rcases status_of_put row hrow hrow' hkey with ⟨rfl, -⟩ | heq
    · exact ⟨Table.get?_key row, held, ends⟩
    · exact absurd heq hchanged
  | @recognised jobId photoId payload old photo rawResponseJson now reply row held ref parent =>
    rw [finishPhotoJob_jobs, matchTextDetections_eq] at hrow'
    rcases status_of_completed row hrow hrow' with rfl | heq
    · exact ⟨Table.get?_key row, held⟩
    · exact absurd heq hchanged
  | @scanned jobId photoId payload old photo rows rawResponseJson now reply row held ref parent
      inserted =>
    rw [finishPhotoJob_jobs] at hrow'
    rcases status_of_completed row hrow hrow' with rfl | heq
    · exact ⟨Table.get?_key row, held⟩
    · exact absurd heq hchanged
  | @enrolled jobId eventId participantId faceImageId payload old rows rawResponseJson now reply row
      held ref usable inserted =>
    rw [matchParticipant_eq] at hrow'
    rcases status_of_completed row hrow hrow' with rfl | heq
    · exact ⟨Table.get?_key row, held, usable⟩
    · exact absurd heq hchanged
  | @searched jobId eventId searchSessionId searchImageId payload old rawResponseJson now
      sessionFinishedAt reply _ row held ref usable fits committed =>
    rw [jobs_of_exceptSearchResults committed, Database.finishFaceSearchJob,
      markSearchSession_jobs] at hrow'
    rcases status_of_completed row hrow hrow' with rfl | heq
    · exact ⟨Table.get?_key row, held, usable, _, _, _, ref, fits⟩
    · exact absurd heq hchanged

/-- Every row before a call has a successor. -/
theorem Outcome.exists_after {cfg : Settings F} {world : World} {db db' : Database F}
    {call : WorkerCall F} {reply : Except Raised Reply} (h : Outcome cfg world db call reply db')
    {job : Job F} (hmem : job ∈ db.jobs.rows) :
    ∃ job' a, db'.jobs.get? job.key = some job' ∧ RowMove cfg world call reply job.key job job' a :=
  h.rowMove (Table.mem_iff_get?.mp hmem)

/-- Every row after a call has a predecessor. -/
theorem Outcome.exists_before {cfg : Settings F} {world : World} {db db' : Database F}
    {call : WorkerCall F} {reply : Except Raised Reply} (h : Outcome cfg world db call reply db')
    {job' : Job F} (hmem : job' ∈ db'.jobs.rows) :
    ∃ job a, db.jobs.get? job'.key = some job ∧
      RowMove cfg world call reply job'.key job job' a := by
  have hkey : job'.key ∈ db.jobs.rows.map Job.key := by
    rw [← h.jobKeys_eq]
    exact List.mem_map_of_mem hmem
  obtain ⟨job, hjob, hjobkey⟩ := List.mem_map.mp hkey
  obtain ⟨after, a, hafter, hmove⟩ := h.exists_after hjob
  rw [hjobkey] at hafter hmove
  obtain rfl : after = job' := Option.some.inj (hafter.symm.trans (Table.mem_iff_get?.mp hmem))
  exact ⟨job, a, hjobkey ▸ Table.mem_iff_get?.mp hjob, hmove⟩

/-- A group keeps an open job unless the call ends its last ones. -/
theorem Outcome.hasOpenJob {cfg : Settings F} {world : World} {db db' : Database F}
    {call : WorkerCall F} {reply : Except Raised Reply} (h : Outcome cfg world db call reply db')
    {group : JobRef → Bool} (hopen : db.HasOpenJob group)
    (hlast : ¬ call.EndsLast cfg world db group) : db'.HasOpenJob group := by
  by_contra hnone
  refine hlast ⟨hopen, fun job hmem hgroup hjob => ?_⟩
  obtain ⟨job', a, hrow', hmove⟩ := h.exists_after hmem
  refine h.ends (Table.mem_iff_get?.mp hmem) hrow' hjob ?_
  by_contra hjob'
  exact hnone ⟨job', Table.mem_of_get? hrow', hmove.step.ref_eq ▸ hgroup,
    Bool.eq_false_iff.mpr hjob'⟩

/-- A group without open jobs stays as it is. -/
theorem Outcome.mem_jobs_of_ended {cfg : Settings F} {world : World} {db db' : Database F}
    {call : WorkerCall F} {reply : Except Raised Reply} (h : Outcome cfg world db call reply db')
    {group : JobRef → Bool} (hended : ¬ db.HasOpenJob group) {job : Job F}
    (hgroup : group job.ref = true) : job ∈ db'.jobs.rows ↔ job ∈ db.jobs.rows := by
  have hterminal : ∀ old ∈ db.jobs.rows, group old.ref = true → old.status.isTerminal = true := by
    intro old hmem hold
    by_contra hopen
    exact hended ⟨old, hmem, hold, Bool.eq_false_iff.mpr hopen⟩
  constructor
  · intro hmem
    obtain ⟨old, a, hold, hmove⟩ := h.exists_before hmem
    have hkept := (h.get?_of_isTerminal hold
      (hterminal old (Table.mem_of_get? hold) (hmove.step.ref_eq ▸ hgroup))).1
    obtain rfl : old = job := Option.some.inj (hkept.symm.trans (Table.mem_iff_get?.mp hmem))
    exact Table.mem_of_get? hold
  · intro hmem
    exact Table.mem_of_get?
      (h.get?_of_isTerminal (Table.mem_iff_get?.mp hmem) (hterminal job hmem hgroup)).1

/-- A call that names a job of no group leaves the group as it is. -/
theorem Outcome.mem_jobs_of_others {cfg : Settings F} {world : World} {db db' : Database F}
    {call : WorkerCall F} {reply : Except Raised Reply} (h : Outcome cfg world db call reply db')
    {named : JobKey} {attemptId : Uuid} {old : Job F}
    (hnames : call.names = some (named, attemptId)) (hold : db.jobs.get? named = some old)
    {group : JobRef → Bool} (hother : group old.ref = false) {job : Job F}
    (hgroup : group job.ref = true) : job ∈ db'.jobs.rows ↔ job ∈ db.jobs.rows := by
  have hne : ∀ other ∈ db.jobs.rows, group other.ref = true → named ≠ other.key := by
    rintro other hmem hothergroup rfl
    obtain rfl : old = other := Option.some.inj (hold.symm.trans (Table.mem_iff_get?.mp hmem))
    rw [hother] at hothergroup
    cases hothergroup
  constructor
  · intro hmem
    obtain ⟨before, a, hbefore, hmove⟩ := h.exists_before hmem
    have hkey : before.key = job.key := Table.get?_key hbefore
    have heq := hmove.others named attemptId hnames (hkey ▸ hne before (Table.mem_of_get? hbefore)
      (hmove.step.ref_eq ▸ hgroup))
    exact heq ▸ Table.mem_of_get? hbefore
  · intro hmem
    obtain ⟨after, a, hafter, hmove⟩ := h.exists_after hmem
    have heq := hmove.others named attemptId hnames (hne job hmem hgroup)
    exact heq ▸ Table.mem_of_get? hafter

end RaceFrame
