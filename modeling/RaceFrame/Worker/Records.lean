import Mathlib.Logic.Basic
import RaceFrame.Schema.Rational
import RaceFrame.Worker.Runs

/-!
# The columns of a job row

Seven columns of a job row follow its status. `Job.Consistent` states how; every
step of a row keeps it, and a step counts as an attempt exactly when it hands
the job out.
-/

namespace RaceFrame

open Core

variable {F : Type}

/-- The lifecycle columns agree with the status of the job, and its attempts are bounded. -/
structure Job.Consistent (job : Job F) : Prop where
  bounded : job.attemptCount ≤ job.maxAttempts
  leased : job.leaseExpiresAt.isSome ↔ job.status = .processing
  attempted : job.status = .processing → job.attemptId.isSome ∧ job.claimedAt.isSome
  finished : job.finishedAt.isSome ↔ job.status.isTerminal
  deadLettered : job.deadLetteredAt.isSome ↔ job.status = .deadLettered
  retried : job.retryAfter.isSome → job.status = .queued

/-- A row as it is queued, with at least one attempt. -/
def Job.IsFresh (job : Job F) : Prop :=
  ∃ id ref maxAttempts createdAt, 1 ≤ maxAttempts ∧ job = .queued id ref maxAttempts createdAt

theorem Job.IsFresh.consistent {job : Job F} (h : job.IsFresh) :
    job.Consistent ∧ job.attemptCount = 0 := by
  obtain ⟨id, ref, maxAttempts, createdAt, -, rfl⟩ := h
  refine ⟨⟨Nat.zero_le _, ?_, ?_, ?_, ?_, ?_⟩, rfl⟩ <;> simp [Job.queued, JobStatus.isTerminal]

/-- An open job that is consistent has not been dead-lettered. -/
theorem Job.Consistent.deadLetteredAt_eq_none {job : Job F} (h : job.Consistent)
    (hopen : job.status.isTerminal = false) : job.deadLetteredAt = none := by
  have hdead : job.status ≠ .deadLettered := by
    intro hstatus
    rw [hstatus] at hopen
    cases hopen
  simpa using mt h.deadLettered.mp hdead

private theorem Job.Consistent.of_held {job : Job F} (h : job.Consistent) {attemptId : Uuid}
    {now : Instant} (held : job.HeldBy attemptId now) :
    job.deadLetteredAt = none ∧ job.finishedAt = none ∧ job.retryAfter = none := by
  have hopen : job.status.isTerminal = false := by
    rw [held.status]
    rfl
  refine ⟨h.deadLetteredAt_eq_none hopen, ?_, ?_⟩
  · simpa using mt h.finished.mp (by simp [hopen])
  · simpa using mt h.retried (by simp [held.status])

/-- Every step keeps the columns consistent. -/
theorem RowStep.consistent {cfg : Settings F} {now : Instant} {job job' : Job F}
    {a : TicketAction Uuid} (h : RowStep cfg now job a job') (hjob : job.Consistent) :
    job'.Consistent := by
  cases h with
  | rest => exact hjob
  | reaped exhausted =>
    refine ⟨hjob.bounded, ?_, ?_, ?_, ?_, ?_⟩ <;>
      simp [reapedJob, deadLetteredJob, JobStatus.isTerminal]
  | claimed claimable =>
    have hleft := (Bool.and_eq_true_iff.mp claimable).1
    refine ⟨of_decide_eq_true hleft, ?_, ?_, ?_, ?_, ?_⟩ <;>
      simp [claimedJob, JobStatus.isTerminal]
  | renewed held =>
    exact ⟨hjob.bounded, by simp [held.status], hjob.attempted, hjob.finished, hjob.deadLettered,
      hjob.retried⟩
  | retried held retries =>
    obtain ⟨hdead, -, -⟩ := hjob.of_held held
    refine ⟨hjob.bounded, ?_, ?_, ?_, ?_, ?_⟩ <;>
      simp [retriedJob, JobStatus.isTerminal, hdead]
  | ended held ends =>
    obtain ⟨hdead, -, -⟩ := hjob.of_held held
    unfold endedJob
    split
    · refine ⟨hjob.bounded, ?_, ?_, ?_, ?_, ?_⟩ <;> simp [deadLetteredJob, JobStatus.isTerminal]
    · refine ⟨hjob.bounded, ?_, ?_, ?_, ?_, ?_⟩ <;> simp [failedJob, JobStatus.isTerminal, hdead]
  | completed held =>
    obtain ⟨hdead, -, -⟩ := hjob.of_held held
    refine ⟨hjob.bounded, ?_, ?_, ?_, ?_, ?_⟩ <;>
      simp [completedJob, releasedJob, JobStatus.isTerminal, hdead]

/-- A step counts an attempt exactly when it issues one. -/
theorem RowStep.attemptCount_eq {cfg : Settings F} {now : Instant} {job job' : Job F}
    {a : TicketAction Uuid} (h : RowStep cfg now job a job') :
    job'.attemptCount = job.attemptCount + a.issued?.toList.length := by
  cases h with
  | ended held ends =>
    unfold endedJob
    split <;> rfl
  | rest | reaped | claimed | renewed | retried | completed => rfl

/-- The job is open, and its lease and its retry time have passed. -/
structure Job.IsDue (job : Job F) (now : Instant) : Prop where
  isOpen : job.status.isTerminal = false
  lease : ∀ t, job.leaseExpiresAt = some t → t ≤ now
  retry : ∀ t, job.retryAfter = some t → t ≤ now

private theorem isDue_of_forall {instant : Option Instant} {now : Instant}
    (h : ∀ t, instant = some t → t ≤ now) : isDue instant now = true := by
  cases instant with
  | none => rfl
  | some t => exact decide_eq_true (h t rfl)

theorem Job.IsDue.isAvailable {job : Job F} {now : Instant} (h : job.IsDue now) :
    job.isAvailable now = true := by
  have hopen := h.isOpen
  cases hstatus : job.status with
  | queued => simp [Job.isAvailable, hstatus, isDue_of_forall h.retry]
  | processing => simp [Job.isAvailable, hstatus, isDue_of_forall h.lease]
  | completed | failed | deadLettered =>
    rw [hstatus] at hopen
    cases hopen

/-- A job that is due is handed out or reaped: exactly one of the two conditions holds. -/
theorem Job.IsDue.claimable_xor_exhausted {job : Job F} {now : Instant} (h : job.IsDue now) :
    Xor (job.isClaimable now = true) (job.isExhausted now = true) := by
  simp only [isClaimable, isExhausted, h.isAvailable, Bool.and_true, decide_eq_true_eq]
  by_cases hleft : job.attemptCount < job.maxAttempts
  · exact Or.inl ⟨hleft, Nat.not_le.mpr hleft⟩
  · exact Or.inr ⟨Nat.not_lt.mp hleft, hleft⟩

variable [Scalar F]

/-- The number of times that the answers of a run hand a job out. -/
def claimCount (cfg : Settings F) (db : Database F) (es : List (Event F)) (key : JobKey) : Nat :=
  ((replies cfg db es).filterMap (issuedFor key)).length

/-- Along a run a consistent row stays consistent and counts its claims. -/
theorem consistent_of_runEvents (cfg : Settings F) (es : List (Event F)) {db : Database F}
    {key : JobKey} {job : Job F} (hrow : db.jobs.get? key = some job) (hjob : job.Consistent) :
    ∃ job', (runEvents cfg db es).jobs.get? key = some job' ∧ job'.Consistent ∧
      job'.attemptCount = job.attemptCount + claimCount cfg db es key := by
  induction es generalizing db job with
  | nil => exact ⟨job, hrow, hjob, rfl⟩
  | cons e es ih =>
    obtain ⟨next, a, hnext, hmove⟩ := (outcome_serve cfg e.world db e.call).rowMove hrow
    obtain ⟨job', hrow', hjob', hcount⟩ := ih hnext (hmove.step.consistent hjob)
    refine ⟨job', hrow', hjob', ?_⟩
    have hissued : a.issued? = issuedFor key (e.serve cfg db).1 := hmove.issued
    have hreplies : claimCount cfg db (e :: es) key =
        a.issued?.toList.length + claimCount cfg (e.serve cfg db).2 es key := by
      rw [claimCount, replies, List.filterMap_cons, ← hissued]
      cases a.issued? with
      | none => exact (Nat.zero_add _).symm
      | some attemptId => exact Nat.add_comm _ 1
    rw [hcount, hmove.step.attemptCount_eq, hreplies]
    exact Nat.add_assoc _ _ _

/-- In every state that a run reaches from freshly queued jobs, a job counts its claims and its
columns are consistent; once its lease or retry time has passed, exactly one of the claim condition
and the reaping condition holds. -/
theorem jobRecords_consistent (cfg : Settings F) {db : Database F}
    (hfresh : ∀ job ∈ db.jobs.rows, job.IsFresh) (es : List (Event F)) {key : JobKey} {job : Job F}
    (hrow : (runEvents cfg db es).jobs.get? key = some job) :
    job.attemptCount = claimCount cfg db es key ∧ job.Consistent ∧
      ∀ now, job.IsDue now → Xor (job.isClaimable now = true) (job.isExhausted now = true) := by
  obtain ⟨start, hstart⟩ := exists_of_get?_runEvents hrow
  obtain ⟨hconsistent, hzero⟩ := (hfresh start (Table.mem_of_get? hstart)).consistent
  obtain ⟨job', hrow', hjob', hcount⟩ := consistent_of_runEvents cfg es hstart hconsistent
  obtain rfl : job = job' := Option.some.inj (hrow.symm.trans hrow')
  refine ⟨?_, hjob', fun now hdue => hdue.claimable_xor_exhausted⟩
  rw [hcount, hzero, Nat.zero_add]

/-- The record of one queued job that is claimed. -/
theorem claimedRecord_consistent :
    let db : Database ℚ :=
      { Database.empty with jobs := ⟨[Job.queued 11 (.photo 1 .ocr) 5 0], by decide⟩
                            photos := ⟨[⟨1, 9, [], [], [], .processing, 0⟩], by decide⟩ }
    ∃ job, (runEvents (.environment ℚ) db [.at 1000 101 (.claim (.photo [.ocr]))]).jobs.get?
        (.photo, 11) = some job ∧ job.attemptCount = 1 ∧ job.Consistent := by
  intro db
  have hsome : ((runEvents (.environment ℚ) db [.at 1000 101 (.claim (.photo [.ocr]))]).jobs.get?
      (.photo, 11)).isSome = true := by decide +kernel
  obtain ⟨job, hrow⟩ := Option.isSome_iff_exists.mp hsome
  have hfresh : ∀ job ∈ db.jobs.rows, job.IsFresh := by
    intro job hmem
    obtain rfl := List.mem_singleton.mp hmem
    exact ⟨11, .photo 1 .ocr, 5, 0, by decide, rfl⟩
  obtain ⟨hcount, hconsistent, -⟩ := jobRecords_consistent (.environment ℚ) hfresh _ hrow
  exact ⟨job, hrow, hcount.trans (by decide +kernel), hconsistent⟩

end RaceFrame
