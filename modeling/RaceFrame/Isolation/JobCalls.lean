import RaceFrame.Isolation.Scopes
import RaceFrame.Orm.Invariants
import RaceFrame.Worker.Api

/-!
# The job lifecycle in its event

Claims, heartbeats and failures write jobs with the references that they have and
the status columns of their parents, so they keep every scope.
-/

namespace RaceFrame

open Core Request

variable {F α : Type} {σ : Scopes}

/-- The request commits only databases with these scopes and with every row in scope. -/
def Request.StaysInScope (σ : Scopes) (x : Request F α) : Prop :=
  Maintains (Database.InScope σ) (Database.InScope σ) x

/-- What stays in scope leaves every row in agreement with its parents. -/
theorem Request.StaysInScope.serve {x : Request F α} {db : Database F}
    (hx : StaysInScope db.scopes x) (world : World) (h : db.EventScoped) :
    (serve world x db).2.EventScoped :=
  (Maintains.serve hx world h.inScope).eventScoped

theorem staysInScope_commit : StaysInScope σ (commit : Request F Unit) :=
  maintains_commit fun _ h => h

theorem staysInScope_putJob {job : Job F} (hjob : job.InScope σ) :
    StaysInScope σ (assign fun db : Database F => db.putJob job) :=
  maintains_assign fun _ h => h.putJob hjob

theorem Database.InScope.job_of_mem {db : Database F} (h : db.InScope σ) {job : Job F}
    (hjob : job ∈ db.jobs.rows) : job.InScope σ :=
  h.rows.jobs job hjob

/-- A parent that is missing ends the request before the assignment. -/
private theorem staysInScope_parent_bind {β γ : Type} (q : Database F → Option β)
    {f : Request F γ} (hf : StaysInScope σ f) :
    StaysInScope σ (loaded q >>= fun parent =>
      discard (ofOption .attributeError parent) >>= fun _ => f) := by
  refine maintains_loaded_bind _ fun db _ => ?_
  exact (Program.Maintains.discard (maintains_ofOption _ _)).bind fun _ => hf

theorem staysInScope_verifyActiveAttempt (job : Job F) (attemptId : Uuid) (allowTerminal : Bool) :
    StaysInScope σ (verifyActiveAttempt job attemptId allowTerminal) := by
  unfold verifyActiveAttempt
  refine Program.Maintains.ite (Program.maintains_pure _) ?_
  refine Program.Maintains.ite (Program.maintains_pure _) ?_
  refine Program.Maintains.ite (Program.maintains_raise _) ?_
  split
  · exact Program.maintains_raise _
  · refine Program.Maintains.bind maintains_utcNow fun now => ?_
    exact Program.Maintains.ite (Program.maintains_raise _) (Program.maintains_pure _)

theorem staysInScope_syncTerminalParentState (job : Job F) :
    StaysInScope σ (syncTerminalParentState job) := by
  unfold syncTerminalParentState
  split
  · refine Program.Maintains.bind (maintains_query _) fun statuses => ?_
    split
    · exact staysInScope_parent_bind _ (maintains_assign fun _ h => h.setPhotoStatus _ _)
    · exact Program.maintains_pure _
  · exact staysInScope_parent_bind _ (maintains_assign fun _ h => h.setFaceImage _ _ _)
  · refine staysInScope_parent_bind _ ?_
    apply Program.Maintains.bind
    · exact maintains_assign fun _ h => h.setSearchImage _ _ _
    · intro _
      refine Program.Maintains.bind (maintains_query _) fun statuses => ?_
      refine Program.Maintains.ite ?_ (Program.maintains_pure _)
      refine staysInScope_parent_bind _ ?_
      refine Program.Maintains.bind maintains_utcNow fun finishedAt => ?_
      exact maintains_assign fun _ h => h.updateSearchSession _ (fun _ => rfl) fun _ => rfl

theorem staysInScope_markParentProcessing (job : Job F) :
    StaysInScope σ (markParentProcessing job) := by
  unfold markParentProcessing
  split
  · exact staysInScope_parent_bind _ (maintains_assign fun _ h => h.setPhotoStatus _ _)
  · exact staysInScope_parent_bind _ (maintains_assign fun _ h => h.setFaceImage _ _ _)
  · refine staysInScope_parent_bind _ ?_
    apply Program.Maintains.bind
    · exact maintains_assign fun _ h => h.setSearchImage _ _ _
    · intro _
      refine staysInScope_parent_bind _ ?_
      exact maintains_assign fun _ h => h.updateSearchSession _ (fun _ => rfl) fun _ => rfl

theorem staysInScope_deadLetter {job : Job F} (hjob : job.InScope σ) (reason : Text) :
    StaysInScope σ (deadLetter job reason) := by
  refine Program.Maintains.bind maintains_utcNow fun now => ?_
  exact Program.Maintains.bind (staysInScope_putJob (hjob.of_ref rfl rfl)) fun _ =>
    Program.maintains_pure _

/-- A selection hands over stored jobs. -/
private theorem staysInScope_select_bind (limit : Nat) (condition : Job F → Bool)
    {f : List (Job F) → Request F α}
    (hf : ∀ selected : List (Job F), (∀ job ∈ selected, job.InScope σ) →
      StaysInScope σ (f selected)) :
    StaysInScope σ (selectForUpdate limit condition >>= f) := by
  refine Program.maintains_gets_bind _ fun s hs => hf _ fun job hjob => ?_
  have hstored := List.mem_of_mem_filter (List.mem_of_mem_take hjob)
  rw [List.mem_insertionSort] at hstored
  exact hs.flushed.job_of_mem (List.mem_of_mem_filter hstored)

theorem staysInScope_reapExhaustedJobs (jobTypeCondition : Job F → Bool) :
    StaysInScope σ (reapExhaustedJobs jobTypeCondition) := by
  refine Program.Maintains.bind maintains_utcNow fun now => ?_
  refine staysInScope_select_bind _ _ fun exhausted hexhausted => ?_
  refine Program.Maintains.forM fun job hjob => ?_
  exact Program.Maintains.bind (staysInScope_deadLetter (hexhausted job hjob) _) fun _ =>
    staysInScope_syncTerminalParentState _

theorem staysInScope_claimJob (cfg : Settings F) (jobTypeCondition : Job F → Bool) :
    StaysInScope σ (claimJob cfg jobTypeCondition) := by
  apply Program.Maintains.bind (staysInScope_reapExhaustedJobs jobTypeCondition)
  intro _
  refine Program.Maintains.bind maintains_utcNow fun now => ?_
  refine staysInScope_select_bind _ _ fun selected hselected => ?_
  cases selected with
  | nil => exact Program.Maintains.bind staysInScope_commit fun _ => Program.maintains_pure _
  | cons job rest =>
    have hjob := hselected job List.mem_cons_self
    refine Program.Maintains.bind maintains_uuid4 fun attemptId => ?_
    refine Program.Maintains.bind (staysInScope_putJob (hjob.of_ref rfl rfl)) fun _ => ?_
    refine Program.Maintains.bind (staysInScope_markParentProcessing _) fun _ => ?_
    exact Program.Maintains.bind staysInScope_commit fun _ => Program.maintains_pure _

/-- The description of a claimed job is read, not written. -/
private theorem staysInScope_claimSubject (job : Job F) : StaysInScope σ (claimSubject job) := by
  refine Program.Maintains.bind (Program.maintains_gets _) fun url => ?_
  split <;>
  · refine Program.Maintains.bind (maintains_loaded _) fun parent => ?_
    exact maintains_ofOption_bind _ _ fun _ _ => Program.maintains_pure _

theorem staysInScope_claimRoute (cfg : Settings F) (collection : String)
    (jobTypeCondition : Job F → Bool) :
    StaysInScope σ (claimRoute cfg collection jobTypeCondition) := by
  refine Program.Maintains.bind (staysInScope_claimJob cfg jobTypeCondition) fun claimed => ?_
  cases claimed with
  | none => exact Program.maintains_pure _
  | some job =>
    exact Program.Maintains.bind (staysInScope_claimSubject job) fun _ => Program.maintains_pure _

theorem staysInScope_heartbeatJob (cfg : Settings F) {job : Job F} (hjob : job.InScope σ)
    (attemptId : Uuid) : StaysInScope σ (heartbeatJob cfg job attemptId) := by
  refine Program.Maintains.bind (staysInScope_verifyActiveAttempt job attemptId false)
    fun state => ?_
  cases state with
  | processing =>
    refine Program.Maintains.bind maintains_utcNow fun now => ?_
    refine Program.Maintains.bind (staysInScope_putJob (hjob.of_ref rfl rfl)) fun _ => ?_
    exact Program.Maintains.bind staysInScope_commit fun _ => Program.maintains_pure _
  | retryScheduled => exact Program.maintains_raise _
  | terminal status => exact Program.maintains_raise _

private theorem staysInScope_endJob {job : Job F} (hjob : job.InScope σ) (payload : FailJobRequest)
    (now : Instant) : StaysInScope σ (endJob job payload now) := by
  refine Program.Maintains.ite (staysInScope_deadLetter (hjob.of_ref rfl rfl) _) ?_
  exact Program.Maintains.bind (staysInScope_putJob (hjob.of_ref rfl rfl)) fun _ =>
    Program.maintains_pure _

theorem staysInScope_failJob (cfg : Settings F) {job : Job F} (hjob : job.InScope σ)
    (payload : FailJobRequest) : StaysInScope σ (failJob cfg job payload) := by
  apply Program.Maintains.bind (staysInScope_verifyActiveAttempt job payload.attemptId true)
  intro state
  cases state with
  | processing =>
    refine Program.Maintains.bind maintains_utcNow fun now => ?_
    refine Program.Maintains.ite ?_ ?_
    · refine Program.Maintains.bind (Program.maintains_gets _) fun jitter => ?_
      refine Program.Maintains.bind (staysInScope_putJob (hjob.of_ref rfl rfl)) fun _ => ?_
      exact Program.Maintains.bind staysInScope_commit fun _ => Program.maintains_pure _
    · refine Program.Maintains.bind (staysInScope_endJob hjob payload now) fun ended => ?_
      refine Program.Maintains.bind (staysInScope_syncTerminalParentState ended) fun _ => ?_
      exact Program.Maintains.bind staysInScope_commit fun _ => Program.maintains_pure _
  | retryScheduled => exact Program.maintains_pure _
  | terminal status => exact Program.maintains_pure _

/-- A route on a job works on a stored job. -/
theorem staysInScope_loadJob_bind (kind : JobKind) (notFound : String) (jobId : Uuid)
    {f : Job F → Request F α} (hf : ∀ job : Job F, job.InScope σ → StaysInScope σ (f job)) :
    StaysInScope σ (loadJob kind notFound jobId >>= f) := by
  rw [loadJob, bind_assoc]
  refine maintains_query_bind _ fun db h => maintains_ofOption_bind _ _ fun job hjob => ?_
  exact hf job (h.job_of_mem (Table.mem_of_get? hjob))

/-- A completion route writes the job before the results. -/
theorem staysInScope_completeRoute {job : Job F} (hjob : job.InScope σ) (attemptId : Uuid)
    {complete : Job F → Request F Unit}
    (hcomplete : StaysInScope σ (complete (releasedJob job))) :
    StaysInScope σ (completeRoute job attemptId complete) := by
  refine Program.Maintains.bind (staysInScope_verifyActiveAttempt job attemptId true)
    fun state => ?_
  split
  · exact Program.maintains_pure _
  · refine Program.Maintains.bind (staysInScope_putJob (hjob.of_ref rfl rfl)) fun _ => ?_
    exact Program.Maintains.bind hcomplete fun _ => Program.maintains_pure _
  · exact Program.maintains_raise _

end RaceFrame
