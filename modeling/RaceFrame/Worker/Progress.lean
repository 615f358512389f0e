import Mathlib.Algebra.Order.BigOperators.Group.List
import RaceFrame.Schema.Rational
import RaceFrame.Worker.Claims
import RaceFrame.Worker.Runs

/-!
# No job is left behind

A job that has not ended is due again a bounded time after the last call that
touches it, whatever has become of its worker. A due job with attempts left is
handed out before more claims are answered than the jobs in front of it have
attempts left.
-/

namespace RaceFrame

open Core

variable {F : Type}

/-! ## When a job is due -/

/-- The longest time until a retry, in seconds. -/
def retryWait (cfg : Settings F) : Nat := max 1 ⌊(cfg.retryMaxSeconds : ℚ) * (6 / 5)⌋.toNat

theorem retryDelay_le (cfg : Settings F) (attemptCount : Nat) {jitter : ℚ} (h : jitter ≤ 6 / 5) :
    retryDelay cfg attemptCount jitter ≤ retryWait cfg := by
  rw [retryDelay, retryWait]
  refine max_le_max le_rfl (Int.toNat_le_toNat (Int.floor_le_floor ?_))
  have hpositive : (0 : ℚ) ≤ (min cfg.retryMaxSeconds
      (cfg.retryBaseSeconds * 2 ^ min 20 (attemptCount - 1)) : Nat) := Nat.cast_nonneg _
  have hexponential : ((min cfg.retryMaxSeconds
      (cfg.retryBaseSeconds * 2 ^ min 20 (attemptCount - 1)) : Nat) : ℚ) ≤ cfg.retryMaxSeconds :=
    Nat.cast_le.mpr (min_le_left _ _)
  calc _ ≤ ((min cfg.retryMaxSeconds
        (cfg.retryBaseSeconds * 2 ^ min 20 (attemptCount - 1)) : Nat) : ℚ) * (6 / 5) :=
        mul_le_mul_of_nonneg_left h hpositive
    _ ≤ _ := mul_le_mul_of_nonneg_right hexponential (by norm_num)

/-- The longest time between a call and the moment when what it leaves is due. -/
def longestWait (cfg : Settings F) : Nat := seconds (max cfg.leaseSeconds (retryWait cfg))

theorem seconds_mono {n m : Nat} (h : n ≤ m) : seconds n ≤ seconds m := by
  rw [seconds, seconds]
  exact Nat.mul_le_mul_right _ h

theorem isDue_mono {instant : Option Instant} {t t' : Instant} (h : isDue instant t = true)
    (hle : t ≤ t') : isDue instant t' = true := by
  cases instant with
  | none => rfl
  | some due => exact decide_eq_true ((of_decide_eq_true h).trans hle)

theorem Job.isAvailable_mono {job : Job F} {t t' : Instant} (h : job.isAvailable t = true)
    (hle : t ≤ t') : job.isAvailable t' = true := by
  rw [Job.isAvailable, Bool.or_eq_true, Bool.and_eq_true, Bool.and_eq_true] at h ⊢
  exact h.imp (fun h => ⟨h.1, isDue_mono h.2 hle⟩) fun h => ⟨h.1, isDue_mono h.2 hle⟩

theorem Job.isClaimable_mono {job : Job F} {t t' : Instant} (h : job.isClaimable t = true)
    (hle : t ≤ t') : job.isClaimable t' = true := by
  rw [Job.isClaimable, Bool.and_eq_true] at h ⊢
  exact ⟨h.1, Job.isAvailable_mono h.2 hle⟩

theorem isAvailable_of_processing {job : Job F} {lease t : Instant}
    (hstatus : job.status = .processing) (hlease : job.leaseExpiresAt = some lease)
    (h : lease ≤ t) : job.isAvailable t = true := by
  rw [Job.isAvailable, hstatus, hlease]
  exact decide_eq_true h

theorem isAvailable_of_queued {job : Job F} {retry t : Instant} (hstatus : job.status = .queued)
    (hretry : job.retryAfter = some retry) (h : retry ≤ t) : job.isAvailable t = true := by
  rw [Job.isAvailable, hstatus, hretry, Bool.or_eq_true]
  exact Or.inl (decide_eq_true h)

/-- A job that is available is held by no attempt. -/
theorem not_heldBy_of_isAvailable {job : Job F} {attemptId : Uuid} {t t' : Instant}
    (h : job.isAvailable t = true) (hle : t ≤ t') : ¬job.HeldBy attemptId t' := by
  intro hheld
  obtain ⟨leaseExpiresAt, hlease, hlive⟩ := hheld.lease
  rw [Job.isAvailable, hheld.status, hlease, Bool.or_eq_true, Bool.and_eq_true,
    Bool.and_eq_true] at h
  rcases h with ⟨h, -⟩ | ⟨-, h⟩
  · cases h
  · exact absurd (hlive.trans_le ((of_decide_eq_true h).trans hle)) (lt_irrefl _)

/-- The job has ended, or it is available at the instant. -/
def Job.IsDueBy (job : Job F) (t : Instant) : Prop :=
  job.status.isTerminal = true ∨ job.isAvailable t = true

theorem Job.IsDueBy.mono {job : Job F} {t t' : Instant} (h : job.IsDueBy t) (hle : t ≤ t') :
    job.IsDueBy t' :=
  h.imp_right fun h => Job.isAvailable_mono h hle

/-- What a call does to a row, with the readings of the clock that it stores. -/
inductive TimedStep (cfg : Settings F) (world : World) (job : Job F) : Job F → Prop
  | rest : TimedStep cfg world job job
  | ended {job' : Job F} (terminal : job'.status.isTerminal = true) : TimedStep cfg world job job'
  | leased {job' : Job F} (n : Nat) (status : job'.status = .processing)
    (lease : job'.leaseExpiresAt = some (world.clock n + seconds cfg.leaseSeconds)) :
    TimedStep cfg world job job'
  | waits {job' : Job F} (n : Nat) (status : job'.status = .queued)
    (retry : job'.retryAfter =
      some (world.clock n + seconds (retryDelay cfg job.attemptCount world.jitter))) :
    TimedStep cfg world job job'

/-- A step at readings up to an instant leaves a job that is due a bounded time later. -/
theorem TimedStep.isDueBy {cfg : Settings F} {world : World} {job job' : Job F}
    (h : TimedStep cfg world job job') {t since : Instant} (hclock : ∀ n, world.clock n ≤ t)
    (hsince : t + longestWait cfg ≤ since) (hjob : job.IsDueBy since) : job'.IsDueBy since := by
  have hreach : ∀ n wait, wait ≤ max cfg.leaseSeconds (retryWait cfg) →
      world.clock n + seconds wait ≤ since := by
    intro n wait hwait
    refine (Nat.add_le_add (hclock n) ?_).trans hsince
    rw [longestWait]
    exact seconds_mono hwait
  cases h with
  | rest => exact hjob
  | ended terminal => exact Or.inl terminal
  | leased n status lease =>
    exact Or.inr (isAvailable_of_processing status lease (hreach n _ (le_max_left _ _)))
  | waits n status retry =>
    have hwait := retryDelay_le cfg job.attemptCount world.jitter_mem.2
    exact Or.inr (isAvailable_of_queued status retry
      (hreach n _ (hwait.trans (le_max_right cfg.leaseSeconds _))))

/-- A row that is put in place of another one. -/
private theorem timed_put {cfg : Settings F} {world : World} {jobs jobs' : Table (Job F) Job.key}
    {named key : JobKey} {old row job : Job F} (hnamed : jobs.get? named = some old)
    (hjobs : jobs' = jobs.put row) (hkey : row.key = old.key)
    (hstep : TimedStep cfg world old row) (hrow : jobs.get? key = some job) :
    ∃ job', jobs'.get? key = some job' ∧ TimedStep cfg world job job' := by
  have hrowkey : row.key = named := hkey.trans (Table.get?_key hnamed)
  rw [hjobs, Table.get?_put, hrowkey]
  by_cases hk : key = named
  · subst hk
    obtain rfl : job = old := Option.some.inj (hrow.symm.trans hnamed)
    exact ⟨row, by simp [hrow], hstep⟩
  · exact ⟨job, by simp [hk, hrow], .rest⟩

/-- A reaped batch. -/
private theorem timed_reaped {cfg : Settings F} {world : World} {condition : Job F → Bool}
    {db : Database F} {dead : List (Job F)}
    (hreaped : ReapedRows (db.exhaustedBatch world.locked condition (world.clock 0)) dead)
    {key : JobKey} {job : Job F} (hrow : db.jobs.get? key = some job) :
    ∃ job', (db.putJobs dead).jobs.get? key = some job' ∧ TimedStep cfg world job job' := by
  rcases get?_reaped hreaped hrow with ⟨-, now, hget⟩ | ⟨-, hget⟩
  · exact ⟨_, hget, .ended rfl⟩
  · exact ⟨job, hget, .rest⟩

variable [Scalar F]

/-- A heartbeat of a live attempt, with the lease that it stores. -/
theorem serve_heartbeat_of_heldBy (cfg : Settings F) (world : World) {db : Database F}
    {kind : JobKind} {jobId attemptId : Uuid} {job : Job F}
    (hrow : db.jobs.get? (kind, jobId) = some job) (hheld : job.HeldBy attemptId (world.clock 0)) :
    let leaseExpiresAt := world.clock 1 + seconds cfg.leaseSeconds
    (WorkerCall.heartbeat kind jobId attemptId).serve cfg world db =
      (.ok (.status (.renewed leaseExpiresAt)),
        db.putJob { job with leaseExpiresAt := some leaseExpiresAt }) := by
  intro leaseExpiresAt
  have hhandle : ∃ notFound, (WorkerCall.heartbeat kind jobId attemptId : WorkerCall F).handle cfg =
      Reply.status <$> (loadJob kind notFound jobId >>= fun job =>
        heartbeatJob cfg job attemptId) := by
    cases kind <;> exact ⟨_, rfl⟩
  obtain ⟨notFound, hhandle⟩ := hhandle
  obtain ⟨hreply, hcommitted⟩ :=
    run_heartbeatJob_of_heldBy cfg (s := Session.sessionLocal world db) hheld
  rw [WorkerCall.serve, hhandle, serve_jobCall world hrow, hreply, hcommitted]
  rfl

/-- A failure of a live attempt that is retried, with the time of the retry. -/
private theorem serve_retried (cfg : Settings F) (world : World) {db : Database F} {kind : JobKind}
    {jobId : Uuid} {payload : FailJobRequest} {job : Job F}
    (hrow : db.jobs.get? (kind, jobId) = some job)
    (hheld : job.HeldBy payload.attemptId (world.clock 0)) (hretries : payload.retries job = true) :
    ((WorkerCall.fail kind jobId payload).serve cfg world db).2 = db.putJob
      (retriedJob job payload.storedMessage
        (world.clock 1 + seconds (retryDelay cfg job.attemptCount world.jitter))) := by
  have hhandle : ∃ notFound, (WorkerCall.fail kind jobId payload : WorkerCall F).handle cfg =
      Reply.status <$> (loadJob kind notFound jobId >>= fun job => failJob cfg job payload) := by
    cases kind <;> exact ⟨_, rfl⟩
  obtain ⟨notFound, hhandle⟩ := hhandle
  have hcheck := run_verifyActiveAttempt_of_heldBy (s := Session.sessionLocal world db) hheld true
  rw [FailJobRequest.retries] at hretries
  rw [WorkerCall.serve, hhandle, serve_jobCall world hrow, failJob, Program.run_bind_ok hcheck]
  simp only [Request.run_utcNow_bind, if_pos hretries]
  rfl

/-- A completion rests or ends a row. -/
private theorem timed_complete {cfg : Settings F} {world : World} {db db' : Database F}
    {call : WorkerCall F} {reply : Except Raised Reply} (h : Outcome cfg world db call reply db')
    (hcomplete : call.isComplete = true) {key : JobKey} {job : Job F}
    (hrow : db.jobs.get? key = some job) :
    ∃ job', db'.jobs.get? key = some job' ∧ TimedStep cfg world job job' := by
  obtain ⟨job', a, hrow', hmove⟩ := h.rowMove hrow
  have hheartbeat : call.isHeartbeat = false := by
    cases call <;> first | rfl | cases hcomplete
  refine ⟨job', hrow', ?_⟩
  cases hmove.step with
  | rest => exact .rest
  | reaped | completed => exact .ended rfl
  | claimed claimable =>
    have hissued := hmove.issued
    cases h with
    | idle | claimed => cases hcomplete
    | raised | answered | renewed | retried | ended | recognised | scanned | enrolled | searched =>
      cases hissued
  | renewed held =>
    have hrenews := hmove.renews _ rfl
    rw [hheartbeat] at hrenews
    cases hrenews
  | retried held retries =>
    have hgives := hmove.gives _ rfl
    rw [hcomplete] at hgives
    cases hgives
  | ended held ends =>
    refine .ended ?_
    unfold endedJob
    split_ifs <;> rfl

/-- Every call moves every row by at most one step of the kind. -/
theorem timedStep_serve (cfg : Settings F) (world : World) {db : Database F} (call : WorkerCall F)
    {key : JobKey} {job : Job F} (hrow : db.jobs.get? key = some job) :
    ∃ job', (call.serve cfg world db).2.jobs.get? key = some job' ∧
      TimedStep cfg world job job' := by
  have houtcome := outcome_serve cfg world db call
  rcases hserved : call.serve cfg world db with ⟨reply, db'⟩
  rw [hserved] at houtcome
  change ∃ job', db'.jobs.get? key = some job' ∧ TimedStep cfg world job job'
  cases houtcome with
  | raised | answered => exact ⟨job, hrow, .rest⟩
  | idle reaped committed =>
    rw [jobs_of_exceptImages committed]
    exact timed_reaped reaped hrow
  | @claimed target claimedAt attemptId dead claimed _ _ reaped mem claimable handsOut committed =>
    have hclaimed := claimServed cfg world db target
    rw [hserved] at hclaimed
    cases hclaimed with
    | idle => cases handsOut
    | claimed n handed attemptId' claim _ selected handsOut' row =>
      obtain ⟨hkey, -⟩ := Prod.mk.inj (Option.some.inj (handsOut'.symm.trans handsOut))
      by_cases hk : key = handed.key
      · subst hk
        exact ⟨_, row, .leased n rfl rfl⟩
      · have hother : key ≠ (claimedJob cfg claimed attemptId claimedAt).key := by
          intro h
          exact hk (h.trans hkey.symm)
        rw [jobs_of_exceptImages committed, startParent_jobs, Database.putJob_jobs,
          Table.get?_put_ne hother]
        exact timed_reaped reaped hrow
  | @renewed kind jobId attemptId old leaseExpiresAt reply row held =>
    have hput := serve_heartbeat_of_heldBy cfg world row held
    rw [hserved] at hput
    have hjobs := congrArg Database.jobs (congrArg Prod.snd hput)
    exact timed_put row hjobs rfl (.leased 1 held.status rfl) hrow
  | @retried kind jobId payload old retryAfter reply row held retries =>
    have hput := serve_retried cfg world row held retries
    rw [hserved] at hput
    exact timed_put row (congrArg Database.jobs hput) rfl (.waits 1 rfl rfl) hrow
  | @ended kind jobId payload old now reply _ row held ends committed =>
    have hkey : (endedJob old payload now).key = old.key := by
      rw [Job.key, Job.key, endedJob_ref, endedJob_id]
    refine timed_put row (jobs_of_exceptImages committed) hkey (.ended ?_) hrow
    unfold endedJob
    split_ifs <;> rfl
  | recognised => exact timed_complete (hserved ▸ outcome_serve cfg world db _) rfl hrow
  | scanned => exact timed_complete (hserved ▸ outcome_serve cfg world db _) rfl hrow
  | enrolled => exact timed_complete (hserved ▸ outcome_serve cfg world db _) rfl hrow
  | searched => exact timed_complete (hserved ▸ outcome_serve cfg world db _) rfl hrow

/-- Every job is due at the instant. -/
def Database.DueBy (db : Database F) (t : Instant) : Prop :=
  ∀ key job, db.jobs.get? key = some job → job.IsDueBy t

/-- What calls leave is due a bounded time after the last of them. -/
theorem Database.DueBy.runEvents {cfg : Settings F} {es : List (Event F)} {t since : Instant}
    (hclock : ∀ e ∈ es, ∀ n, e.world.clock n ≤ t) (hsince : t + longestWait cfg ≤ since)
    {db : Database F} (h : db.DueBy since) : (runEvents cfg db es).DueBy since := by
  induction es generalizing db with
  | nil => exact h
  | cons e es ih =>
    refine ih (fun e' he' => hclock e' (List.mem_cons_of_mem e he')) fun key job' hrow' => ?_
    obtain ⟨job, hrow⟩ := @exists_of_get?_runEvents F _ cfg [e] db key job' hrow'
    obtain ⟨moved, hmoved, hstep⟩ := timedStep_serve cfg e.world e.call hrow
    obtain rfl : moved = job' := Option.some.inj (hmoved.symm.trans hrow')
    exact hstep.isDueBy (hclock e List.mem_cons_self) hsince (h key job hrow)

/-! ## The jobs in front of a job -/

/-- The attempts that a row of the same table which is not younger may still take. -/
def Job.ahead (job row : Job F) : Nat :=
  if row.ref.kind = job.ref.kind ∧ row.createdAt ≤ job.createdAt ∧ row.key ≠ job.key then
    row.maxAttempts - row.attemptCount
  else 0

/-- The attempts that are left to the jobs in front of a job. -/
def Database.attemptsAhead (db : Database F) (job : Job F) : Nat :=
  (db.jobs.rows.map job.ahead).sum

omit [Scalar F] in
/-- No step changes the place of a row in the queue or gives it attempts. -/
theorem RowStep.ahead_le {cfg : Settings F} {now : Instant} {row row' : Job F}
    {a : TicketAction Uuid} (h : RowStep cfg now row a row') (job : Job F) :
    job.ahead row' ≤ job.ahead row := by
  have hsame : ∀ moved : Job F, moved.id = row.id → moved.ref = row.ref →
      moved.createdAt = row.createdAt → moved.maxAttempts = row.maxAttempts →
      row.attemptCount ≤ moved.attemptCount → job.ahead moved ≤ job.ahead row := by
    intro moved hid href hcreated hmax hcount
    have hkey : moved.key = row.key := by rw [Job.key, Job.key, hid, href]
    rw [Job.ahead, Job.ahead, hkey, href, hcreated, hmax]
    split_ifs
    · exact Nat.sub_le_sub_left hcount _
    · exact le_rfl
  cases h with
  | rest => exact le_rfl
  | reaped | renewed | retried | completed => exact hsame _ rfl rfl rfl rfl le_rfl
  | claimed => exact hsame _ rfl rfl rfl rfl (Nat.le_succ _)
  | ended =>
    refine hsame _ (endedJob_id row _ _) (endedJob_ref row _ _) ?_ ?_ ?_ <;>
    · unfold endedJob
      split_ifs <;> rfl

omit [Scalar F] in
/-- The attempt that a claim takes is one of those in front. -/
theorem ahead_claimedJob_lt {cfg : Settings F} {job row : Job F} {attemptId : Uuid}
    {claimedAt : Instant} (hkind : row.ref.kind = job.ref.kind)
    (hcreated : row.createdAt ≤ job.createdAt) (hkey : row.key ≠ job.key)
    (hleft : row.attemptCount < row.maxAttempts) :
    job.ahead (claimedJob cfg row attemptId claimedAt) < job.ahead row := by
  have hsame : (claimedJob cfg row attemptId claimedAt).key = row.key := rfl
  rw [Job.ahead, Job.ahead, if_pos ⟨hkind, hcreated, hsame ▸ hkey⟩, if_pos ⟨hkind, hcreated, hkey⟩]
  change row.maxAttempts - (row.attemptCount + 1) < row.maxAttempts - row.attemptCount
  omega

/-- No call gives attempts to the jobs in front. -/
theorem attemptsAhead_serve_le (cfg : Settings F) (db : Database F) (e : Event F) (job : Job F) :
    (e.serve cfg db).2.attemptsAhead job ≤ db.attemptsAhead job := by
  have houtcome := outcome_serve cfg e.world db e.call
  rw [Database.attemptsAhead, Database.attemptsAhead, Table.sum_map_rows, Table.sum_map_rows]
  change ((List.map Job.key (e.call.serve cfg e.world db).2.jobs.rows).map _).sum ≤ _
  rw [houtcome.jobKeys_eq]
  refine List.sum_le_sum fun key hkey => ?_
  obtain ⟨row, hmem, rfl⟩ := List.mem_map.mp hkey
  have hrow := Table.mem_iff_get?.mp hmem
  obtain ⟨row', a, hrow', hmove⟩ := houtcome.rowMove hrow
  change ((Table.get? (e.call.serve cfg e.world db).2.jobs row.key).map job.ahead).getD 0 ≤ _
  rw [hrow, hrow']
  exact hmove.step.ahead_le job

/-- A claim that hands out a job in front takes one of these attempts. -/
theorem attemptsAhead_serve_lt {cfg : Settings F} {db : Database F} {e : Event F} {job row : Job F}
    {attemptId : Uuid} {claimedAt : Instant} (hrow : db.jobs.get? row.key = some row)
    (hclaimed : (e.serve cfg db).2.jobs.get? row.key =
      some (claimedJob cfg row attemptId claimedAt))
    (hkind : row.ref.kind = job.ref.kind) (hcreated : row.createdAt ≤ job.createdAt)
    (hkey : row.key ≠ job.key) (hleft : row.attemptCount < row.maxAttempts) :
    (e.serve cfg db).2.attemptsAhead job < db.attemptsAhead job := by
  have houtcome := outcome_serve cfg e.world db e.call
  rw [Database.attemptsAhead, Database.attemptsAhead, Table.sum_map_rows, Table.sum_map_rows]
  change ((List.map Job.key (e.call.serve cfg e.world db).2.jobs.rows).map _).sum < _
  rw [houtcome.jobKeys_eq]
  refine List.sum_lt_sum _ _ (fun key hkey => ?_) ⟨row.key, ?_, ?_⟩
  · obtain ⟨other, hmem, rfl⟩ := List.mem_map.mp hkey
    have hother := Table.mem_iff_get?.mp hmem
    obtain ⟨other', a, hother', hmove⟩ := houtcome.rowMove hother
    change ((Table.get? (e.call.serve cfg e.world db).2.jobs other.key).map job.ahead).getD 0 ≤ _
    rw [hother, hother']
    exact hmove.step.ahead_le job
  · exact List.mem_map_of_mem (Table.mem_of_get? hrow)
  · rw [hrow, hclaimed]
    exact ahead_claimedJob_lt hkind hcreated hkey hleft

/-! ## Due jobs are handed out -/

omit [Scalar F] in
/-- The jobs of a target are in one table. -/
private theorem kind_eq_of_condition {target : ClaimTarget} {job row : Job F}
    (hjob : target.condition job = true) (hrow : target.condition row = true) :
    row.ref.kind = job.ref.kind := by
  cases target with
  | photo jobTypes =>
    rw [ClaimTarget.condition, photoJobCondition] at hjob hrow
    cases hjobRef : job.ref with
    | participantFace | faceSearch => rw [hjobRef] at hjob; cases hjob
    | photo photoId jobType =>
      cases hrowRef : row.ref with
      | participantFace | faceSearch => rw [hrowRef] at hrow; cases hrow
      | photo => rfl
  | participantFace => exact (beq_iff_eq.mp hrow).trans (beq_iff_eq.mp hjob).symm
  | faceSearch => exact (beq_iff_eq.mp hrow).trans (beq_iff_eq.mp hjob).symm

/-- The event is a claim that may hand out the job, which nobody has locked, and it is answered. -/
def Event.mayTake (cfg : Settings F) (db : Database F) (job : Job F) (e : Event F) : Bool :=
  match e.call, (e.serve cfg db).1 with
  | .claim target, .ok _ => target.condition job && !e.world.locked job.key
  | _, _ => false

/-- How many claims of a run may hand out the job and are answered. -/
def answeredClaims (cfg : Settings F) (job : Job F) : Database F → List (Event F) → Nat
  | _, [] => 0
  | db, e :: es =>
    (if e.mayTake cfg db job then 1 else 0) + answeredClaims cfg job (e.serve cfg db).2 es

omit [Scalar F] in
/-- A due job with attempts left rests or is issued. -/
theorem RowStep.of_isClaimable {cfg : Settings F} {since now : Instant} {job job' : Job F}
    {a : TicketAction Uuid} (h : RowStep cfg now job a job')
    (hdue : job.isClaimable since = true) (hnow : since ≤ now) :
    job' = job ∨ ∃ attemptId, a = .issue attemptId := by
  rw [Job.isClaimable, Bool.and_eq_true, decide_eq_true_eq] at hdue
  cases h with
  | rest => exact Or.inl rfl
  | reaped exhausted =>
    rw [Job.isExhausted, Bool.and_eq_true, decide_eq_true_eq] at exhausted
    exact absurd hdue.1 (Nat.not_lt.mpr exhausted.1)
  | claimed => exact Or.inr ⟨_, rfl⟩
  | renewed held | retried held | ended held | completed held =>
    exact absurd held (not_heldBy_of_isAvailable hdue.2 hnow)

/-- A call that may hand out a due job and hands out another one has taken an attempt in front. -/
theorem attemptsAhead_of_mayTake {cfg : Settings F} {db : Database F} {e : Event F} {job : Job F}
    {since : Instant} (hrow : db.jobs.get? job.key = some job)
    (hdue : job.isClaimable since = true) (hclock : since ≤ e.world.clock 0)
    (hother : issuedFor job.key (e.serve cfg db).1 = none) (htake : e.mayTake cfg db job = true) :
    (e.serve cfg db).2.attemptsAhead job < db.attemptsAhead job := by
  have hdue' : ∀ n, job.isClaimable (e.world.clock n) = true := fun n =>
    Job.isClaimable_mono hdue (hclock.trans (e.world.clock_mono (Nat.zero_le n)))
  obtain ⟨world, call⟩ := e
  unfold Event.mayTake at htake
  cases call with
  | claim target =>
    have hclaimed := claimServed cfg world db target
    rcases hserved : (WorkerCall.claim target).serve cfg world db with ⟨reply, db'⟩
    have hevent : (Event.mk world (.claim target)).serve cfg db = (reply, db') := hserved
    rw [hserved] at hclaimed
    rw [hevent] at hother htake ⊢
    cases hclaimed with
    | raised => cases htake
    | idle n _ selected =>
      simp only [Bool.and_eq_true, Bool.not_eq_true'] at htake
      have hlocked := locked_of_head?_selectJobs selected (Table.mem_of_get? hrow)
        (by rw [htake.1, hdue' n, Bool.and_self])
      exact absurd (hlocked.symm.trans htake.2) Bool.noConfusion
    | claimed n row attemptId claim _ selected handsOut hput =>
      simp only [Bool.and_eq_true, Bool.not_eq_true'] at htake
      obtain ⟨hmem, hmeets, hfirst⟩ := head?_selectJobs_eq_some selected
      obtain ⟨hcondition, hclaimable⟩ := Bool.and_eq_true_iff.mp hmeets
      have hcreated := hfirst job (Table.mem_of_get? hrow)
        (by rw [htake.1, hdue' n, Bool.and_self]) htake.2
      have hkey : row.key ≠ job.key := by
        intro h
        rw [issuedFor, handsOut] at hother
        simp only [h, if_true] at hother
        cases hother
      have hlt := @attemptsAhead_serve_lt F _ cfg db ⟨world, .claim target⟩ job row attemptId
        (world.clock n) (Table.mem_iff_get?.mp hmem) (by rw [hevent]; exact hput)
        (kind_eq_of_condition htake.1 hcondition) hcreated hkey
        (of_decide_eq_true (Bool.and_eq_true_iff.mp hclaimable).1)
      rw [hevent] at hlt
      exact hlt
  | heartbeat | fail | completePhoto | completeParticipantFace | completeFaceSearch => cases htake

/-- A due job is handed out before more claims are answered than the jobs in front of it have
attempts left. -/
theorem handedOut_of_isClaimable {cfg : Settings F} {es : List (Event F)} {since : Instant}
    (hclock : ∀ e ∈ es, since ≤ e.world.clock 0) {job : Job F} (hdue : job.isClaimable since = true)
    {db : Database F} (hrow : db.jobs.get? job.key = some job)
    (hmany : db.attemptsAhead job < answeredClaims cfg job db es) :
    ∃ pre e post attemptId, es = pre ++ e :: post ∧
      issuedFor job.key (e.serve cfg (runEvents cfg db pre)).1 = some attemptId := by
  induction es generalizing db with
  | nil => exact absurd hmany (Nat.not_lt_zero _)
  | cons e es ih =>
    cases hissued : issuedFor job.key (e.serve cfg db).1 with
    | some attemptId => exact ⟨[], e, es, attemptId, rfl, hissued⟩
    | none =>
      obtain ⟨job', a, hrow', hmove⟩ := (outcome_serve cfg e.world db e.call).rowMove hrow
      have hnow := hclock e List.mem_cons_self
      obtain rfl : job' = job := by
        rcases hmove.step.of_isClaimable hdue hnow with hsame | ⟨attemptId, rfl⟩
        · exact hsame
        · exact absurd (hmove.issued.trans hissued) (Option.some_ne_none attemptId)
      have hleft : (e.serve cfg db).2.attemptsAhead job' <
          answeredClaims cfg job' (e.serve cfg db).2 es := by
        rw [answeredClaims] at hmany
        split_ifs at hmany with htake
        · have htaken := attemptsAhead_of_mayTake hrow hdue hnow hissued htake
          omega
        · rw [Nat.zero_add] at hmany
          exact (attemptsAhead_serve_le cfg db e job').trans_lt hmany
      obtain ⟨pre, e', post, attemptId, rfl, hhanded⟩ :=
        ih (fun e' he' => hclock e' (List.mem_cons_of_mem e he')) hrow' hleft
      exact ⟨e :: pre, e', post, attemptId, rfl, hhanded⟩

/-- Take a database in which every job that has not ended is available at some instant, as new jobs
are. Whatever the workers do up to a bounded time before, every job that has not ended by then is
available at the instant again, and one with attempts left is handed out before more claims are
answered from then on than the jobs in front of it have attempts left. -/
theorem handedOut_after_silence {cfg : Settings F} {before : List (Event F)} {t since : Instant}
    (hbefore : ∀ e ∈ before, ∀ n, e.world.clock n ≤ t) (hsince : t + longestWait cfg ≤ since)
    {db : Database F} (hstart : db.DueBy since) :
    (∀ key job, (runEvents cfg db before).jobs.get? key = some job →
      job.status.isTerminal = false → job.isAvailable since = true) ∧
    ∀ (after : List (Event F)) (job : Job F), (∀ e ∈ after, since ≤ e.world.clock 0) →
      (runEvents cfg db before).jobs.get? job.key = some job → job.status.isTerminal = false →
      job.attemptCount < job.maxAttempts →
      (runEvents cfg db before).attemptsAhead job <
        answeredClaims cfg job (runEvents cfg db before) after →
      ∃ pre e post attemptId, after = pre ++ e :: post ∧
        issuedFor job.key (e.serve cfg (runEvents cfg db (before ++ pre))).1 = some attemptId := by
  have havailable : ∀ key job, (runEvents cfg db before).jobs.get? key = some job →
      job.status.isTerminal = false → job.isAvailable since = true := by
    intro key job hrow hopen
    rcases hstart.runEvents hbefore hsince key job hrow with hterminal | havailable
    · exact absurd (hterminal.symm.trans hopen) Bool.noConfusion
    · exact havailable
  refine ⟨havailable, fun after job hafter hrow hopen hleft hmany => ?_⟩
  have hdue : job.isClaimable since = true := by
    rw [Job.isClaimable, decide_eq_true hleft, Bool.true_and]
    exact havailable job.key job hrow hopen
  obtain ⟨pre, e, post, attemptId, heq, hissued⟩ :=
    handedOut_of_isClaimable hafter hdue hrow hmany
  refine ⟨pre, e, post, attemptId, heq, ?_⟩
  rw [runEvents_append]
  exact hissued

/-- Two photos whose numbers have not been read yet. -/
def twoOcrJobs : Database ℚ where
  __ := Database.empty
  photos := ⟨[⟨5, 9, [], [], [], .uploaded, 0⟩, ⟨6, 9, [], [], [], .uploaded, 0⟩],
    by decide +kernel⟩
  jobs := ⟨[.queued 7 (.photo 5 .ocr) 3 0, .queued 8 (.photo 6 .ocr) 3 1], by decide +kernel⟩

/-- One worker takes the older job and is never heard of again, another one fails the younger job.
After the wait both are available, and the younger one is handed out within three claims, since two
attempts are left to the older one. -/
theorem twoOcrJobs_handedOut :
    let env := Settings.environment ℚ
    let claim : WorkerCall ℚ := .claim (.photo [.ocr])
    let before := [Event.at 1000 101 claim, Event.at 2000 102 claim,
      Event.at 3000 0 (.fail .photo 8 ⟨102, "x".toList, true, none⟩)]
    let after := [Event.at 2000000000 103 claim, Event.at 2000000001 104 claim,
      Event.at 2000000002 105 claim]
    ((runEvents env twoOcrJobs before).jobs.rows.map fun job => (job.id, job.status)) =
      [(7, .processing), (8, .queued)] ∧
    (∀ job ∈ (runEvents env twoOcrJobs before).jobs.rows, job.isAvailable 2000000000 = true) ∧
    ∃ pre e post attemptId, after = pre ++ e :: post ∧
      issuedFor (.photo, 8) (e.serve env (runEvents env twoOcrJobs (before ++ pre))).1 =
        some attemptId := by
  intro env claim before after
  have hbefore : ∀ e ∈ before, ∀ n, e.world.clock n ≤ 3000 := by
    intro e he n
    simp only [before, List.mem_cons, List.not_mem_nil, or_false] at he
    rcases he with rfl | rfl | rfl
    · exact (by decide : 1000 ≤ 3000)
    · exact (by decide : 2000 ≤ 3000)
    · exact le_rfl
  have hafter : ∀ e ∈ after, 2000000000 ≤ e.world.clock 0 := by
    intro e he
    simp only [after, List.mem_cons, List.not_mem_nil, or_false] at he
    rcases he with rfl | rfl | rfl
    · exact le_rfl
    · exact (by decide : 2000000000 ≤ 2000000001)
    · exact (by decide : 2000000000 ≤ 2000000002)
  have hstart : twoOcrJobs.DueBy 2000000000 := by
    intro key job hrow
    have hmem := Table.mem_of_get? hrow
    simp only [twoOcrJobs, List.mem_cons, List.not_mem_nil, or_false] at hmem
    rcases hmem with rfl | rfl <;> exact Or.inr rfl
  have hopen : ∀ job ∈ (runEvents env twoOcrJobs before).jobs.rows,
      job.status.isTerminal = false := by
    decide +kernel
  obtain ⟨havailable, hhanded⟩ := @handedOut_after_silence ℚ _ env before 3000 2000000000 hbefore
    (by decide +kernel) twoOcrJobs hstart
  refine ⟨by decide +kernel, fun job hjob => ?_, ?_⟩
  · exact havailable job.key job (Table.mem_iff_get?.mp hjob) (hopen job hjob)
  · have hfacts : ∃ job ∈ (runEvents env twoOcrJobs before).jobs.get? (.photo, 8),
        job.attemptCount < job.maxAttempts ∧
          (runEvents env twoOcrJobs before).attemptsAhead job <
            answeredClaims env job (runEvents env twoOcrJobs before) after := by
      decide +kernel
    obtain ⟨younger, hyounger, hleft, hmany⟩ := hfacts
    have hkey : younger.key = (.photo, 8) := Table.get?_key hyounger
    rw [← hkey] at hyounger ⊢
    exact hhanded after younger hafter hyounger (hopen younger (Table.mem_of_get? hyounger)) hleft
      hmany

end RaceFrame
