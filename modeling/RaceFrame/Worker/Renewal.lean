import RaceFrame.Worker.Progress
import RaceFrame.Worker.Reporting

/-!
# Renewing leases

The thread of the worker that renews the lease of a claimed job while the job is
processed. It waits for a third of the lease between two requests; when every
request is answered within less than another third, the job stays with its
worker, whatever the other workers do.
-/

namespace RaceFrame

open Core

variable {F : Type}

/-! ## The thread -/

/-- `LeaseHeartbeat`, with `_lease_seconds`. -/
structure LeaseHeartbeat where
  leaseSeconds : Nat

namespace LeaseHeartbeat

/-- `LeaseHeartbeat.__init__`. -/
def ofClaim (claim : ClaimReply) : LeaseHeartbeat where
  leaseSeconds := max 30 (if claim.leaseSeconds = 0 then 300 else claim.leaseSeconds)

/-- `_interval`, in microseconds. -/
def interval (heartbeat : LeaseHeartbeat) : ℚ :=
  1000000 * max 5 (min 60 ((heartbeat.leaseSeconds : ℚ) / 3))

end LeaseHeartbeat

/-- The state of the thread. -/
inductive LeaseThread
  /-- It goes on, with `last_success`. -/
  | beating (lastSuccess : Instant)
  /-- `_lost` is set, with `_failure`. -/
  | lost (failure : WorkerError)
  /-- An exception that it does not handle has ended it. -/
  | ended

/-- `ensure_owned`. -/
def LeaseThread.ensureOwned : LeaseThread → Except WorkerError Unit
  | .lost failure => .error failure
  | .beating _ | .ended => .ok ()

/-- One turn of the loop of `_run`, whose request has its result at `answered`. -/
def LeaseHeartbeat.beat (heartbeat : LeaseHeartbeat) (lastSuccess answered : Instant) :
    Except WorkerError Unit → LeaseThread
  | .ok _ => .beating answered
  | .error (.leaseLost message) => .lost (.leaseLost message)
  | .error (.workerConfig message) => .lost (.workerConfig message)
  | .error (.controlPlane _) =>
    if (8 / 10 : ℚ) * (1000000 * heartbeat.leaseSeconds) ≤ (answered : ℚ) - lastSuccess then
      .lost (.leaseLost "Unable to renew the job lease before its deadline.")
    else .beating lastSuccess
  | .error (.permanentJob _) => .ended

/-- The interval is at most a third of a lease that the backend grants. -/
theorem LeaseHeartbeat.interval_le (cfg : Settings F) {claim : ClaimReply}
    (h : claim.leaseSeconds = cfg.leaseSeconds) :
    3 * (ofClaim claim).interval ≤ (seconds cfg.leaseSeconds : Nat) := by
  have hthirty : 30 ≤ cfg.leaseSeconds := le_max_left _ _
  have hlease : (ofClaim claim).leaseSeconds = cfg.leaseSeconds := by
    rw [ofClaim, h, if_neg (by omega), max_eq_right hthirty]
  have hcast : (30 : ℚ) ≤ cfg.leaseSeconds := by exact_mod_cast hthirty
  have hmax : max 5 (min 60 ((cfg.leaseSeconds : ℚ) / 3)) ≤ cfg.leaseSeconds / 3 :=
    max_le (by linarith) (min_le_right _ _)
  rw [interval, hlease, seconds]
  push_cast
  linarith

/-! ## A held row -/

/-- A lease that has not run out makes a held row unavailable. -/
private theorem not_isAvailable_of_lease {job : Job F} {lease t : Instant}
    (hstatus : job.status = .processing) (hlease : job.leaseExpiresAt = some lease)
    (h : t < lease) : job.isAvailable t = false := by
  rw [Job.isAvailable, hstatus, hlease]
  exact decide_eq_false (Nat.not_le.mpr h)

variable [Scalar F]

/-- A claim leaves a row that is not available. -/
private theorem serve_held_claim {cfg : Settings F} {db : Database F} {e : Event F} {key : JobKey}
    {row : Job F} {P : Prop} (hrow : db.jobs.get? key = some row)
    (hunavailable : ∀ n, row.isAvailable (e.world.clock n) = false)
    (hclaim : e.call.names = none) :
    issuedFor key (e.serve cfg db).1 = none ∧
      ((e.serve cfg db).2.jobs.get? key = some row ∨ P) := by
  obtain ⟨world, call⟩ := e
  cases call with
  | heartbeat | fail | completePhoto | completeParticipantFace | completeFaceSearch => cases hclaim
  | claim target =>
    have houtcome := outcome_serve cfg world db (.claim target)
    have hclaimed := claimServed cfg world db target
    rcases hserved : (WorkerCall.claim target).serve cfg world db with ⟨reply, db'⟩
    have hevent : (Event.mk world (.claim target)).serve cfg db = (reply, db') := hserved
    rw [hserved] at houtcome hclaimed
    rw [hevent]
    have hkept : ∀ {condition : Job F → Bool} {dead : List (Job F)},
        ReapedRows (db.exhaustedBatch world.locked condition (world.clock 0)) dead →
          (db.putJobs dead).jobs.get? key = some row := by
      intro condition dead hreaped
      rcases get?_reaped hreaped hrow with ⟨hmem, -⟩ | ⟨-, hget⟩
      · have hexhausted := (mem_exhaustedBatch hmem).2.1
        rw [Job.isExhausted, hunavailable 0, Bool.and_false] at hexhausted
        cases hexhausted
      · exact hget
    cases houtcome with
    | raised => exact ⟨rfl, Or.inl hrow⟩
    | answered names => cases names
    | idle reaped committed =>
      exact ⟨rfl, Or.inl (by rw [jobs_of_exceptImages committed]; exact hkept reaped)⟩
    | @claimed target claimedAt attemptId dead claimed reply _ reaped mem claimable handsOut
        committed =>
      have hother : claimed.key ≠ key := by
        intro hkey
        cases hclaimed with
        | idle => cases handsOut
        | claimed n handed attemptId' claim _ selected handsOut' put =>
          obtain ⟨hhanded, -⟩ := Prod.mk.inj (Option.some.inj (handsOut'.symm.trans handsOut))
          obtain ⟨hmem, hmeets, -⟩ := head?_selectJobs_eq_some selected
          have heq : handed = row := Table.eq_of_key_eq hmem (Table.mem_of_get? hrow)
            (hhanded.trans (hkey.trans (Table.get?_key hrow).symm))
          rw [heq, Job.isClaimable, hunavailable n, Bool.and_false, Bool.and_false] at hmeets
          cases hmeets
      have hne : key ≠ (claimedJob cfg claimed attemptId claimedAt).key := fun h => hother h.symm
      refine ⟨by simp [issuedFor, handsOut, hother], Or.inl ?_⟩
      rw [jobs_of_exceptImages committed, startParent_jobs, Database.putJob_jobs,
        Table.get?_put_ne hne]
      exact hkept reaped

/-- While its lease has not run out, a held row is left alone by everything but the reports of its
attempt, and its heartbeats set the lease. -/
theorem serve_held {cfg : Settings F} {db : Database F} {e : Event F} {key : JobKey} {row : Job F}
    {attemptId : Uuid} {lease : Instant} (hrow : db.jobs.get? key = some row)
    (hstatus : row.status = .processing) (hattempt : row.attemptId = some attemptId)
    (hlease : row.leaseExpiresAt = some lease) (hlive : ∀ n, e.world.clock n < lease)
    (hcall : e.call.names = some (key, attemptId) → e.call.isHeartbeat = true) :
    issuedFor key (e.serve cfg db).1 = none ∧
      ((e.serve cfg db).2.jobs.get? key = some row ∨
        (e.serve cfg db).2.jobs.get? key = some { row with
          leaseExpiresAt := some (e.world.clock 1 + seconds cfg.leaseSeconds) }) := by
  have hunavailable : ∀ n, row.isAvailable (e.world.clock n) = false := fun n =>
    not_isAvailable_of_lease hstatus hlease (hlive n)
  have houtcome := outcome_serve cfg e.world db e.call
  obtain ⟨row', a, hrow', hmove⟩ := houtcome.rowMove hrow
  cases hnames : e.call.names with
  | none => exact serve_held_claim hrow hunavailable hnames
  | some named =>
    obtain ⟨named, attemptId'⟩ := named
    refine ⟨issuedFor_of_names hnames, ?_⟩
    by_cases hkey : named = key
    · subst hkey
      by_cases hsame : attemptId' = attemptId
      · subst hsame
        have hheartbeat := hcall hnames
        obtain ⟨world, call⟩ := e
        cases call with
        | claim | fail | completePhoto | completeParticipantFace | completeFaceSearch =>
          cases hheartbeat
        | heartbeat kind jobId attemptId =>
          cases hnames
          have hserve := serve_heartbeat_of_heldBy cfg world hrow
            ⟨hstatus, hattempt, lease, hlease, hlive 0⟩
          refine Or.inr ?_
          rw [Event.serve, hserve, Database.putJob_jobs, Table.get?_put, if_pos]
          · rw [hrow]
            rfl
          · exact (Table.get?_key hrow).symm
      · left
        cases hreply : (e.serve cfg db).1 with
        | error raised =>
          have herror := houtcome
          rw [show (e.call.serve cfg e.world db).1 = .error raised from hreply] at herror
          have hsame := herror.eq_of_error
          rw [Event.serve, hsame, hrow]
        | ok reply =>
          have hok := houtcome
          rw [show (e.call.serve cfg e.world db).1 = .ok reply from hreply] at hok
          obtain ⟨job, hjob, held | ⟨-, hnot, -⟩⟩ := hok.accepted hnames
          · obtain rfl : job = row := Option.some.inj (hjob.symm.trans hrow)
            exact absurd (Option.some.inj (held.attempt.symm.trans hattempt)) hsame
          · obtain rfl : job = row := Option.some.inj (hjob.symm.trans hrow)
            exact absurd hstatus hnot
    · left
      rw [← hmove.others named attemptId' hnames hkey]
      exact hrow'

/-! ## Turns -/

omit [Scalar F] in
/-- After tries that decide nothing, an answer of success is the result. -/
theorem BackendClient.post_append_ok {failed : List (Option Nat)}
    (h : ∀ outcome ∈ failed, BackendClient.decisive outcome = none) :
    BackendClient.post (failed ++ [some 200]) = .ok () := by
  induction failed with
  | nil => rfl
  | cons outcome failed ih =>
    rw [List.cons_append, BackendClient.post_cons, h outcome List.mem_cons_self]
    simp only [List.isEmpty_iff, List.append_eq_nil_iff, List.cons_ne_self, and_false, if_false]
    exact ih fun outcome' hmem => h outcome' (List.mem_cons_of_mem outcome hmem)

omit [Scalar F] in
/-- The heartbeat of a claimed job is routed to it. -/
theorem ClaimedJob.routes_heartbeat (job : ClaimedJob) :
    routeJobRequest job.heartbeatPath (.heartbeat job.attempt : JobPayload F) =
      .ok (.heartbeat job.key.1 job.key.2 job.attempt) := by
  rw [job.path_eq]
  exact @routeJobRequest_heartbeat F job.key job.id_lt job.attempt

/-- What happens next while a worker processes a job: a call is served, or the thread has its
request answered, after tries that decided nothing. -/
inductive LeaseTurn (F : Type)
  | other (e : Event F)
  | beat (failed : List (Option Nat)) (world : World) (answered : Instant)

/-- The database and the thread. -/
structure LeaseState (F : Type) where
  database : Database F
  thread : LeaseThread

section Turns

variable (cfg : Settings F) (encoder : JsonEncoder F) (job : ClaimedJob)

/-- One turn. A thread that has ended sends nothing. -/
def LeaseState.step (state : LeaseState F) : LeaseTurn F → LeaseState F
  | .other e => { state with database := (e.serve cfg state.database).2 }
  | .beat failed world answered =>
    match state.thread with
    | .beating lastSuccess =>
      let received := receiveJobRequest encoder cfg world job.heartbeatPath
        (.heartbeat job.attempt) state.database
      ⟨received.2, (LeaseHeartbeat.ofClaim job.toClaimReply).beat lastSuccess answered
        (BackendClient.post (failed ++ [some received.1]))⟩
    | .lost _ | .ended => state

/-- The turns after a request that the backend has served at `served` and that the thread has had
answered at `answered`, when every request is answered within `delay`. The attempt is used only by
the thread, whose requests may be served more than once. -/
def Paced (delay : Instant) : Instant → Instant → List (LeaseTurn F) → Prop
  | _, _, [] => True
  | served, answered, .other e :: turns =>
    (e.call.names = some (job.key, job.attempt) → e.call.isHeartbeat = true) ∧
      (∀ n, served ≤ e.world.clock n ∧
        (e.world.clock n : ℚ) ≤
          answered + (LeaseHeartbeat.ofClaim job.toClaimReply).interval + delay) ∧
      Paced delay served answered turns
  | _, answered, .beat failed world answered' :: turns =>
    (∀ outcome ∈ failed, BackendClient.decisive outcome = none) ∧
      (answered + (LeaseHeartbeat.ofClaim job.toClaimReply).interval : ℚ) ≤ world.clock 0 ∧
      (∀ n, world.clock n ≤ answered') ∧
      (answered' : ℚ) ≤ answered + (LeaseHeartbeat.ofClaim job.toClaimReply).interval + delay ∧
      Paced delay (world.clock 0) answered' turns

/-- The job is with its worker: the row is the one that the claim left, but for its lease, which
lasts as long as one that is granted at `served`, and the thread goes on since `answered`. -/
structure Keeps (row : Job F) (delay served answered : Instant) (state : LeaseState F) : Prop where
  row : ∃ lease, state.database.jobs.get? job.key =
    some { row with leaseExpiresAt := some lease } ∧ served + seconds cfg.leaseSeconds ≤ lease
  served_le : served ≤ answered
  answered_le : answered ≤ served + delay
  thread : state.thread = .beating answered

variable {cfg job} {row : Job F} {delay served answered : Instant} {state : LeaseState F}

omit [Scalar F] in
/-- What happens before the next answer is due happens before the lease runs out. -/
theorem Keeps.lt_lease (h : Keeps cfg job row delay served answered state)
    (hlease : job.leaseSeconds = cfg.leaseSeconds) (hdelay : 3 * delay < seconds cfg.leaseSeconds)
    {t : Instant}
    (ht : (t : ℚ) ≤ answered + (LeaseHeartbeat.ofClaim job.toClaimReply).interval + delay) :
    t < served + seconds cfg.leaseSeconds := by
  have hinterval := LeaseHeartbeat.interval_le cfg hlease
  have hanswered : (answered : ℚ) ≤ served + delay := by exact_mod_cast h.answered_le
  have hthird : (3 : ℚ) * delay < (seconds cfg.leaseSeconds : Nat) := by exact_mod_cast hdelay
  have hlt : (t : ℚ) < served + (seconds cfg.leaseSeconds : Nat) := by linarith
  exact_mod_cast hlt

omit [Scalar F] in
/-- Until the next answer is due, the row is held under the attempt. -/
theorem Keeps.heldBy (h : Keeps cfg job row delay served answered state)
    (hstatus : row.status = .processing) (hattempt : row.attemptId = some job.attempt)
    (hlease : job.leaseSeconds = cfg.leaseSeconds) (hdelay : 3 * delay < seconds cfg.leaseSeconds) :
    ∃ row', state.database.jobs.get? job.key = some row' ∧ ∀ t : Instant,
      (t : ℚ) ≤ answered + (LeaseHeartbeat.ofClaim job.toClaimReply).interval + delay →
        row'.HeldBy job.attempt t := by
  obtain ⟨lease, hget, hle⟩ := h.row
  refine ⟨_, hget, fun t ht => ⟨hstatus, hattempt, lease, rfl, ?_⟩⟩
  exact (h.lt_lease hlease hdelay ht).trans_le hle

/-- A call that is served in time leaves the job with its worker. -/
theorem Keeps.other (h : Keeps cfg job row delay served answered state)
    (hstatus : row.status = .processing) (hattempt : row.attemptId = some job.attempt)
    (hlease : job.leaseSeconds = cfg.leaseSeconds) (hdelay : 3 * delay < seconds cfg.leaseSeconds)
    {e : Event F} (hcall : e.call.names = some (job.key, job.attempt) → e.call.isHeartbeat = true)
    (hclock : ∀ n, served ≤ e.world.clock n ∧ (e.world.clock n : ℚ) ≤
      answered + (LeaseHeartbeat.ofClaim job.toClaimReply).interval + delay) :
    issuedFor job.key (e.serve cfg state.database).1 = none ∧
      Keeps cfg job row delay served answered (state.step cfg encoder job (.other e)) := by
  obtain ⟨lease, hget, hle⟩ := h.row
  have hlive : ∀ n, e.world.clock n < lease := fun n =>
    (h.lt_lease hlease hdelay (hclock n).2).trans_le hle
  obtain ⟨hissued, hkept⟩ := @serve_held F _ cfg state.database e job.key
    { row with leaseExpiresAt := some lease } job.attempt lease hget hstatus hattempt rfl hlive
    hcall
  refine ⟨hissued, ⟨?_, h.served_le, h.answered_le, h.thread⟩⟩
  rcases hkept with hkept | hkept
  · exact ⟨lease, hkept, hle⟩
  · exact ⟨_, hkept, Nat.add_le_add_right (hclock 1).1 _⟩

/-- A request of the thread that is answered in time renews the lease. -/
theorem Keeps.beat (h : Keeps cfg job row delay served answered state)
    (hstatus : row.status = .processing) (hattempt : row.attemptId = some job.attempt)
    (hlease : job.leaseSeconds = cfg.leaseSeconds) (hdelay : 3 * delay < seconds cfg.leaseSeconds)
    {failed : List (Option Nat)} {world : World} {answered' : Instant}
    (hfailed : ∀ outcome ∈ failed, BackendClient.decisive outcome = none)
    (hsent : (answered + (LeaseHeartbeat.ofClaim job.toClaimReply).interval : ℚ) ≤ world.clock 0)
    (hclock : ∀ n, world.clock n ≤ answered')
    (hanswered : (answered' : ℚ) ≤
      answered + (LeaseHeartbeat.ofClaim job.toClaimReply).interval + delay) :
    Keeps cfg job row delay (world.clock 0) answered'
      (state.step cfg encoder job (.beat failed world answered')) := by
  obtain ⟨lease, hget, hle⟩ := h.row
  have hheld : Job.HeldBy { row with leaseExpiresAt := some lease } job.attempt
      (world.clock 0) := by
    refine ⟨hstatus, hattempt, lease, rfl, (hclock 0).trans_lt ?_⟩
    exact (h.lt_lease hlease hdelay hanswered).trans_le hle
  have hserve := @serve_heartbeat_of_heldBy F _ cfg world state.database job.key.1 job.key.2
    job.attempt _ hget hheld
  have hreceived : receiveJobRequest encoder cfg world job.heartbeatPath
      (.heartbeat job.attempt) state.database = (200, state.database.putJob
        { row with leaseExpiresAt := some (world.clock 1 + seconds cfg.leaseSeconds) }) := by
    rw [receiveJobRequest, job.routes_heartbeat]
    simp only [WorkerCall.receive, WorkerCall.validate, hserve]
    rfl
  have hstep : state.step cfg encoder job (.beat failed world answered') =
      ⟨state.database.putJob
        { row with leaseExpiresAt := some (world.clock 1 + seconds cfg.leaseSeconds) },
        .beating answered'⟩ := by
    simp only [LeaseState.step, h.thread, hreceived, BackendClient.post_append_ok hfailed]
    rfl
  rw [hstep]
  have hkey : ∀ leaseExpiresAt, Job.key { row with leaseExpiresAt } = row.key :=
    fun _ => rfl
  have hget' : (state.database.putJob { row with
      leaseExpiresAt := some (world.clock 1 + seconds cfg.leaseSeconds) }).jobs.get? job.key =
        some { row with leaseExpiresAt := some (world.clock 1 + seconds cfg.leaseSeconds) } := by
    rw [Database.putJob_jobs, Table.get?_put, if_pos, hget, Option.map_some]
    rw [hkey, ← hkey (some lease)]
    exact (Table.get?_key hget).symm
  have hlater : world.clock 0 + seconds cfg.leaseSeconds ≤
      world.clock 1 + seconds cfg.leaseSeconds :=
    Nat.add_le_add_right (world.clock_mono (Nat.zero_le 1)) _
  refine ⟨⟨_, hget', hlater⟩, hclock 0, ?_, rfl⟩
  · have hsum : (answered' : ℚ) ≤ world.clock 0 + delay := by linarith
    exact_mod_cast hsum

/-- A claim leaves the job with the worker that it is handed to. -/
theorem keeps_of_claim {db : Database F} {world : World} {target : ClaimTarget} {started : Instant}
    (hclaim : ((WorkerCall.claim target).serve cfg world db).1 =
      .ok (.job (some job.toClaimReply)))
    (hstarted : ∀ n, world.clock n ≤ started) (hprompt : started ≤ world.clock 0 + delay) :
    ∃ row : Job F, row.status = .processing ∧ row.attemptId = some job.attempt ∧
      Keeps cfg job row delay (world.clock 0) started
        ⟨((WorkerCall.claim target).serve cfg world db).2, .beating started⟩ := by
  have hclaimed := claimServed cfg world db target
  rcases hserved : (WorkerCall.claim target).serve cfg world db with ⟨reply, db'⟩
  rw [hserved] at hclaim hclaimed
  obtain rfl : reply = .ok (.job (some job.toClaimReply)) := hclaim
  cases hclaimed with
  | claimed n old attemptId claim _ selected handsOut put =>
    rw [Reply.handsOut_some, job.attempt_eq] at handsOut
    obtain ⟨hkey, rfl⟩ := Prod.mk.inj (Option.some.inj handsOut)
    have hclock := world.clock_mono (Nat.zero_le n)
    refine ⟨claimedJob cfg old job.attempt (world.clock n), rfl, rfl,
      ⟨⟨_, ?_, Nat.add_le_add_right hclock _⟩, hstarted 0, hprompt, rfl⟩⟩
    rw [ClaimedJob.key, hkey]
    exact put

/-- As long as the requests of its thread are answered within less than a third of the lease, a job
stays with the worker that has claimed it: until the next answer is due its row is held under the
attempt, the thread does not give up, and nobody else is handed the job. -/
theorem renewedLease_keepsJob {db : Database F} {world : World} {target : ClaimTarget}
    {started : Instant}
    (hclaim : ((WorkerCall.claim target).serve cfg world db).1 =
      .ok (.job (some job.toClaimReply)))
    (hstarted : ∀ n, world.clock n ≤ started) (hprompt : started ≤ world.clock 0 + delay)
    (hdelay : 3 * delay < seconds cfg.leaseSeconds) {pre post : List (LeaseTurn F)}
    (hpaced : Paced job delay (world.clock 0) started (pre ++ post)) :
    let state := pre.foldl (LeaseState.step cfg encoder job)
      ⟨((WorkerCall.claim target).serve cfg world db).2, .beating started⟩
    ∃ answered row, state.thread = .beating answered ∧
      state.database.jobs.get? job.key = some row ∧
      (∀ t : Instant, (t : ℚ) ≤
        answered + (LeaseHeartbeat.ofClaim job.toClaimReply).interval + delay →
          row.HeldBy job.attempt t) ∧
      ∀ e rest, post = .other e :: rest →
        issuedFor job.key (e.serve cfg state.database).1 = none := by
  have hlease := leaseSeconds_of_claim hclaim
  obtain ⟨row, hstatus, hattempt, hkeeps⟩ := keeps_of_claim hclaim hstarted hprompt
  generalize (⟨((WorkerCall.claim target).serve cfg world db).2, .beating started⟩ :
    LeaseState F) = state at hkeeps ⊢
  generalize world.clock 0 = served at hkeeps hpaced
  clear hstarted hprompt hclaim
  induction pre generalizing served started state with
  | nil =>
    obtain ⟨row', hget, hheld⟩ := hkeeps.heldBy hstatus hattempt hlease hdelay
    refine ⟨started, row', hkeeps.thread, hget, hheld, ?_⟩
    rintro e rest rfl
    exact (hkeeps.other encoder hstatus hattempt hlease hdelay hpaced.1 hpaced.2.1).1
  | cons turn pre ih =>
    cases turn with
    | other e =>
      obtain ⟨hcall, hclock, hrest⟩ := hpaced
      exact ih _ _ (hkeeps.other encoder hstatus hattempt hlease hdelay hcall hclock).2 hrest
    | beat failed world answered =>
      obtain ⟨hfailed, hsent, hclock, hanswered, hrest⟩ := hpaced
      exact ih _ _
        (hkeeps.beat encoder hstatus hattempt hlease hdelay hfailed hsent hclock hanswered) hrest

end Turns

/-- One photo whose numbers have not been read yet. -/
def oneOcrJob : Database ℚ where
  __ := Database.empty
  photos := ⟨[⟨5, 9, [], [], [], .uploaded, 0⟩], List.nodup_singleton _⟩
  jobs := ⟨[.queued 7 (.photo 5 .ocr) 3 0], List.nodup_singleton _⟩

/-- A worker takes a job and renews it after a minute; a later claim finds nothing. -/
theorem oneOcrJob_kept :
    let env := Settings.environment ℚ
    let claim : WorkerCall ℚ := .claim (.photo [.ocr])
    let started := claim.serve env (World.still 1000 fun _ => 101) oneOcrJob
    let turn : LeaseTurn ℚ := .beat [] (World.still 60001000 fun _ => 0) 60002000
    ∃ job : ClaimedJob, job.key = (.photo, 7) ∧ started.1 = .ok (.job (some job.toClaimReply)) ∧
      let state := LeaseState.step env (zeroEncoder 1000 (by decide)) job
        ⟨started.2, .beating 1000⟩ turn
      issuedFor (.photo, 7) ((Event.at 70000000 102 claim).serve env state.database).1 = none := by
  intro env claim started turn
  have hclaim : started.1 = .ok (.job (some (jobClaimMetadata env "photo-jobs"
      (claimedJob env (.queued 7 (.photo 5 .ocr) 3 0) 101 1000)
      (.photo 9 ⟨5, [], none, [], []⟩)))) := rfl
  obtain ⟨job, hjob, -⟩ := exists_claimedJob hclaim (by decide)
  rw [← hjob] at hclaim
  have hkey : job.key = (.photo, 7) := by
    rw [ClaimedJob.key, hjob]
    rfl
  refine ⟨job, hkey, hclaim, ?_⟩
  have hinterval : (LeaseHeartbeat.ofClaim job.toClaimReply).interval = 60000000 := by
    rw [hjob]
    decide +kernel
  have hpaced : Paced job 1000000 1000 1000
      ([turn] ++ [.other (Event.at 70000000 102 claim)]) := by
    simp only [List.cons_append, List.nil_append, Paced, hinterval, turn]
    refine ⟨by simp, ?_, fun _ => ?_, ?_, (fun h => nomatch h), fun _ => ⟨?_, ?_⟩, trivial⟩
    · exact (by decide +kernel : ((1000 : Nat) : ℚ) + 60000000 ≤ (60001000 : Nat))
    · exact (by decide : 60001000 ≤ 60002000)
    · decide +kernel
    · exact (by decide : 60001000 ≤ 70000000)
    · exact (by decide +kernel :
        ((70000000 : Nat) : ℚ) ≤ (60002000 : Nat) + 60000000 + (1000000 : Nat))
  obtain ⟨answered, row, -, -, -, hnone⟩ := @renewedLease_keepsJob ℚ _ env
    (zeroEncoder 1000 (by decide)) job 1000000 oneOcrJob (World.still 1000 fun _ => 101)
    (.photo [.ocr]) 1000 hclaim (fun _ => le_rfl) (by decide) (by decide +kernel) [turn] _ hpaced
  rw [← hkey]
  exact hnone _ _ rfl

end RaceFrame
