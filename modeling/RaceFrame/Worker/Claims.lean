import RaceFrame.Core.Invariants
import RaceFrame.Worker.RowSteps

/-!
# What a claim selects

A claim that is answered has looked at the unlocked jobs of its target that are
due with attempts left, at some reading of the clock of the request: it hands out
one that is not younger than any other, or there is none.
-/

namespace RaceFrame

open Core

variable {F : Type}

/-! ## The clock of a request -/

/-- The same locks, and later readings of the same clock. -/
def World.After (w w' : World) : Prop :=
  w'.locked = w.locked ∧ ∃ n, ∀ i, w'.clock i = w.clock (n + i)

theorem World.after_refl (w : World) : w.After w := ⟨rfl, 0, fun i => by rw [Nat.zero_add]⟩

theorem World.After.tick {w w' : World} (h : w.After w') : w.After w'.tick := by
  obtain ⟨hlocked, n, hclock⟩ := h
  refine ⟨hlocked, n + 1, fun i => ?_⟩
  rw [Nat.add_assoc, Nat.add_comm 1 i]
  exact hclock (i + 1)

section After

variable (w : World)

/-- The session is one of the request that starts in the world. -/
private def IsAfter (s : Session F) : Prop := w.After s.world

private theorem maintains_utcNow : Program.Maintains (IsAfter w) (Request.utcNow (F := F)) :=
  fun _ h => h.tick

private theorem maintains_assign (f : Database F → Database F) :
    Program.Maintains (IsAfter w) (Request.assign f) := fun _ h => h

private theorem maintains_ofOption {α : Type} (e : Raised) (value : Option α) :
    Program.Maintains (IsAfter w) (Request.ofOption e value : Request F α) := by
  cases value with
  | none => exact Program.maintains_raise e
  | some value => exact Program.maintains_pure value

private theorem maintains_syncTerminalParentState (job : Job F) :
    Program.Maintains (IsAfter w) (syncTerminalParentState job) := by
  unfold syncTerminalParentState
  cases job.ref with
  | photo photoId jobType =>
    refine (Program.maintains_gets _).bind fun statuses => ?_
    cases syncedPhotoStatus statuses with
    | none => exact Program.maintains_pure ()
    | some status =>
      exact (Program.maintains_gets _).bind fun _ =>
        (maintains_ofOption w _ _).discard.bind fun _ => maintains_assign w _
  | participantFace eventId participantId faceImageId =>
    exact (Program.maintains_gets _).bind fun _ =>
      (maintains_ofOption w _ _).discard.bind fun _ => maintains_assign w _
  | faceSearch eventId searchSessionId searchImageId =>
    refine (Program.maintains_gets _).bind fun _ =>
      (maintains_ofOption w _ _).discard.bind fun _ => (maintains_assign w _).bind fun _ =>
        (Program.maintains_gets _).bind fun statuses => ?_
    refine Program.Maintains.ite ?_ (Program.maintains_pure ())
    exact (Program.maintains_gets _).bind fun _ =>
      (maintains_ofOption w _ _).discard.bind fun _ => (maintains_utcNow w).bind fun _ =>
        maintains_assign w _

private theorem maintains_reapJob (job : Job F) :
    Program.Maintains (IsAfter w) (reapJob job) := by
  refine Program.Maintains.bind ?_ fun _ => maintains_syncTerminalParentState w _
  exact (maintains_utcNow w).bind fun _ => (maintains_assign w _).bind fun _ =>
    Program.maintains_pure _

private theorem maintains_reapExhaustedJobs (condition : Job F → Bool) :
    Program.Maintains (IsAfter w) (reapExhaustedJobs condition) :=
  (maintains_utcNow w).bind fun _ => (Program.maintains_gets _).bind fun _ =>
    Program.Maintains.forM fun job _ => maintains_reapJob w job

end After

/-! ## The selected job -/

/-- The first job is an unlocked one that meets the condition and is not younger than any other. -/
theorem head?_selectJobs_eq_some {db : Database F} {locked : JobKey → Bool}
    {condition : Job F → Bool} {job : Job F}
    (h : (db.selectJobs locked 1 condition).head? = some job) :
    job ∈ db.jobs.rows ∧ condition job = true ∧
      ∀ other ∈ db.jobs.rows, condition other = true → locked other.key = false →
        job.createdAt ≤ other.createdAt := by
  have hmem : job ∈ db.selectJobs locked 1 condition := List.mem_of_mem_head? h
  obtain ⟨hrow, hcondition⟩ := mem_of_mem_selectJobs hmem
  refine ⟨hrow, hcondition, fun other hother hmeets hfree => ?_⟩
  have hsorted : ((db.jobs.rows.filter condition).insertionSort fun a b =>
      a.createdAt ≤ b.createdAt).Pairwise fun a b : Job F => a.createdAt ≤ b.createdAt :=
    List.pairwise_insertionSort _ _
  have hothermem : other ∈ ((db.jobs.rows.filter condition).insertionSort fun a b =>
      a.createdAt ≤ b.createdAt).filter fun job => !locked job.key := by
    rw [List.mem_filter, List.mem_insertionSort, List.mem_filter, hfree]
    exact ⟨⟨hother, hmeets⟩, rfl⟩
  rw [Database.selectJobs, List.head?_take, if_neg one_ne_zero] at h
  have hpairs := hsorted.sublist
    (List.filter_sublist (p := fun job : Job F => !locked job.key))
  cases hlist : ((db.jobs.rows.filter condition).insertionSort fun a b =>
      a.createdAt ≤ b.createdAt).filter fun job : Job F => !locked job.key with
  | nil =>
    rw [hlist] at hothermem
    cases hothermem
  | cons first rest =>
    rw [hlist] at h hothermem hpairs
    obtain rfl : first = job := Option.some.inj h
    rcases List.mem_cons.mp hothermem with rfl | hrest
    · exact le_rfl
    · exact (List.pairwise_cons.mp hpairs).1 other hrest

/-- When nothing is selected, all jobs that meet the condition are locked. -/
theorem locked_of_head?_selectJobs {db : Database F} {locked : JobKey → Bool}
    {condition : Job F → Bool} (h : (db.selectJobs locked 1 condition).head? = none) {job : Job F}
    (hrow : job ∈ db.jobs.rows) (hcondition : condition job = true) : locked job.key = true := by
  by_contra hfree
  have hmem : job ∈ ((db.jobs.rows.filter condition).insertionSort fun a b =>
      a.createdAt ≤ b.createdAt).filter fun job => !locked job.key := by
    rw [List.mem_filter, List.mem_insertionSort, List.mem_filter, Bool.eq_false_iff.mpr hfree]
    exact ⟨⟨hrow, hcondition⟩, rfl⟩
  rw [Database.selectJobs, List.head?_take, if_neg one_ne_zero, List.head?_eq_none_iff] at h
  rw [h] at hmem
  cases hmem

/-- What a claim returns, as a selection at a reading of its clock. -/
theorem claimJob_selects (cfg : Settings F) {condition : Job F → Bool} {world : World}
    {db : Database F} {result : Option (Job F)} {t : Session F}
    (h : (claimJob cfg condition).run (Session.sessionLocal world db) = (.ok result, t)) :
    ∃ n attemptId, result = (db.selectJobs world.locked 1 fun job =>
      condition job && job.isClaimable (world.clock n)).head?.map fun job =>
        claimedJob cfg job attemptId (world.clock n) := by
  have hreap : (reapExhaustedJobs condition).run (Session.sessionLocal world db) =
      ((db.exhaustedBatch world.locked condition (world.clock 0)).forM reapJob).run
        (Session.sessionLocal world db).tick := rfl
  have hafter := maintains_reapExhaustedJobs world condition (Session.sessionLocal world db)
    (World.after_refl world)
  obtain ⟨-, hflushed, -⟩ := run_forM_reapJob
    (db.exhaustedBatch world.locked condition (world.clock 0))
    (s := (Session.sessionLocal world db).tick) fun job hmem =>
      ⟨job, (mem_exhaustedBatch hmem).1, rfl, (mem_exhaustedBatch hmem).2.2⟩
  rw [← hreap] at hflushed
  rw [claimJob, Program.run_bind] at h
  rcases hr : (reapExhaustedJobs condition).run (Session.sessionLocal world db) with ⟨e | _, u⟩
  · rw [hr] at h
    cases h
  · rw [hr] at h hafter hflushed
    obtain ⟨hlocked, n, hclock⟩ := hafter
    refine ⟨n, u.world.uuids 0, ?_⟩
    have hnow : u.world.clock 0 = world.clock n := hclock 0
    change u.flushed = db at hflushed
    have hselected : u.tick.flushed.selectJobs u.tick.world.locked 1 (fun job =>
        condition job && job.isClaimable (u.world.clock 0)) =
        db.selectJobs world.locked 1 fun job =>
          condition job && job.isClaimable (world.clock n) := by
      rw [hnow]
      change u.flushed.selectJobs u.world.locked 1 _ = _
      rw [hflushed, hlocked]
    simp only [claimAvailableJob, Request.run_utcNow_bind, selectForUpdate,
      Program.run_gets_bind] at h
    rw [hselected] at h
    cases hjobs : db.selectJobs world.locked 1 fun job =>
        condition job && job.isClaimable (world.clock n) with
    | nil =>
      rw [hjobs] at h
      cases h
      rfl
    | cons job rest =>
      rw [hjobs] at h
      simp only [Request.run_uuid4_bind, Request.run_assign_bind] at h
      rw [Program.run_bind] at h
      split at h
      · cases h
        rw [List.head?_cons, Option.map_some, hnow]
        rfl
      · cases h

/-- What a claim is answered with: nothing is handed out, or the selected job. -/
inductive ClaimServed (cfg : Settings F) (world : World) (db : Database F) (target : ClaimTarget) :
    Except Raised Reply × Database F → Prop
  | raised (e : Raised) : ClaimServed cfg world db target (.error e, db)
  | idle (n : Nat) (db' : Database F)
    (selected : (db.selectJobs world.locked 1 fun job =>
      target.condition job && job.isClaimable (world.clock n)).head? = none) :
    ClaimServed cfg world db target (.ok (.job none), db')
  | claimed (n : Nat) (job : Job F) (attemptId : Uuid) (claim : ClaimReply) (db' : Database F)
    (selected : (db.selectJobs world.locked 1 fun job =>
      target.condition job && job.isClaimable (world.clock n)).head? = some job)
    (handsOut : Reply.handsOut (.job (some claim)) = some (job.key, attemptId))
    (row : db'.jobs.get? job.key = some (claimedJob cfg job attemptId (world.clock n))) :
    ClaimServed cfg world db target (.ok (.job (some claim)), db')

/-- The row of the job that a claim hands out. -/
private theorem get?_claimed {cfg : Settings F} {locked : JobKey → Bool}
    {condition : Job F → Bool} {reapedAt claimedAt : Instant} {db db' : Database F}
    {dead : List (Job F)} {job : Job F} {attemptId : Uuid}
    (hreaped : ReapedRows (db.exhaustedBatch locked condition reapedAt) dead)
    (hmem : job ∈ db.jobs.rows)
    (hcommitted : db'.exceptImages = (((db.putJobs dead).putJob
      (claimedJob cfg job attemptId claimedAt)).startParent job.ref).exceptImages) :
    db'.jobs.get? job.key = some (claimedJob cfg job attemptId claimedAt) := by
  have hrow : db.jobs.get? job.key = some job := Table.get?_eq_some_iff.mpr ⟨hmem, rfl⟩
  have hkey : (claimedJob cfg job attemptId claimedAt).key = job.key := rfl
  rw [jobs_of_exceptImages hcommitted, startParent_jobs, Database.putJob_jobs, Table.get?_put,
    if_pos hkey.symm]
  rcases get?_reaped hreaped hrow with ⟨-, _, hget⟩ | ⟨-, hget⟩ <;>
    simp [hget]

/-- A claim is answered so, or it raises. -/
theorem claimServed [Scalar F] (cfg : Settings F) (world : World) (db : Database F)
    (target : ClaimTarget) :
    ClaimServed cfg world db target ((WorkerCall.claim target).serve cfg world db) := by
  have hclaim := run_claimJob cfg target.condition world db
  rw [WorkerCall.serve, handle_claim]
  simp only [Request.serve, Program.run_map, claimRoute, Program.run_bind]
  cases hrun : (claimJob cfg target.condition).run (Session.sessionLocal world db) with
  | mk r t =>
    rw [hrun] at hclaim
    cases hclaim with
    | raised committed =>
      rw [committed]
      exact .raised _
    | idle reaped committed =>
      obtain ⟨n, attemptId, hselected⟩ := claimJob_selects cfg hrun
      exact .idle n _ (Option.map_eq_none_iff.mp hselected.symm)
    | @claimed claimedAt attemptId _ job _ reaped mem claimable subject committed =>
      obtain ⟨n, attemptId', hselected⟩ := claimJob_selects cfg hrun
      obtain ⟨job', hhead, hjob⟩ := Option.map_eq_some_iff.mp hselected.symm
      have hkey : job'.key = job.key := by
        have hkeys := congrArg Job.key hjob
        exact hkeys
      obtain ⟨hmem', -, -⟩ := head?_selectJobs_eq_some hhead
      obtain rfl : job' = job := Table.eq_of_key_eq hmem' mem hkey
      have hclaimedAt := congrArg Job.claimedAt hjob
      obtain rfl : world.clock n = claimedAt := Option.some.inj hclaimedAt
      obtain ⟨found, hsubject, hhandsOut⟩ :=
        run_claimSubject (claimedJob cfg job' attemptId (world.clock n)) subject
      simp only [Program.run_bind, hsubject]
      exact .claimed n job' attemptId _ _ hhead (hhandsOut cfg _)
        (get?_claimed reaped mem committed)

end RaceFrame
