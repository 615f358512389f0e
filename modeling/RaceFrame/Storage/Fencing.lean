import RaceFrame.Storage.Outbox

/-!
# Fencing of deletion attempts

An attempt checks that it owns its task before it deletes the object, and writes
its outcome after that without looking again. What the outbox promises holds in
the runs in which no claim takes a task between these two moments: no outcome
overwrites what a newer attempt has left, and no task is abandoned.
-/

namespace RaceFrame

open Core

namespace DeletionSystem

variable {ι : Type}

/-- The newest attempt of a task. -/
def newestAttempt (s : DeletionSystem ι) (taskId : Uuid) : Option Uuid := s.claims.lookup taskId

/-- The process whose outcome an action commits. -/
def outcomeOf : DeletionAction ι → Option ι
  | .succeed i _ => some i
  | .fail i _ _ => some i
  | _ => none

/-- The attempts stay within their maximum, and whatever is neither completed nor dead-lettered
can, once its retry time and its lease have passed, be claimed or dead-lettered. -/
def NotAbandoned (s : DeletionSystem ι) : Prop :=
  ∀ task ∈ s.tasks.rows, task.attemptCount ≤ task.maxAttempts ∧
    (task.status = .completed ∨ task.status = .deadLettered ∨
      ∀ now, ObjectDeletionTask.due task.retryAt now = true →
        ObjectDeletionTask.due task.leaseExpiresAt now = true →
          task.isClaimable now = true ∨ task.isExhausted now = true)

/-- A claim takes no task whose object a process is deleting. -/
def SparesDeletions (s : DeletionSystem ι) : DeletionAction ι → Prop
  | .claim i locked _ => ∀ now batchSize, s.stages i = .reaped now batchSize →
      ∀ j task attemptId attempts, s.stages j = .deleting task attemptId attempts →
        task.id ∉ (s.batch now batchSize locked).map (·.id)
  | _ => True

/-! ## The invariant -/

/-- What a process knows of the task it is deleting. -/
structure HoldsTask (s : DeletionSystem ι) (task : ObjectDeletionTask) (attemptId : Uuid) :
    Prop where
  newest : s.newestAttempt task.id = some attemptId
  loadedStatus : task.status = .processing
  loadedAttempt : task.attemptId = some attemptId
  row : ∃ row, s.tasks.get? task.id = some row ∧ row.attemptCount ≤ task.attemptCount ∧
    row.maxAttempts = task.maxAttempts

/-- A row that is not abandoned. -/
structure RowSound (row : ObjectDeletionTask) : Prop where
  bound : row.attemptCount ≤ row.maxAttempts
  queued : row.status = .queued → row.attemptCount < row.maxAttempts

/-- The invariant of sparing runs. -/
structure Guarded (s : DeletionSystem ι) : Prop where
  sound : ∀ row ∈ s.tasks.rows, RowSound row
  owner : ∀ row ∈ s.tasks.rows, ∀ attemptId, row.attemptId = some attemptId →
    s.newestAttempt row.id = some attemptId
  holds : ∀ i task attemptId attempts, s.stages i = .deleting task attemptId attempts →
    s.HoldsTask task attemptId

theorem guarded_initial : (initial : DeletionSystem ι).Guarded where
  sound row hrow := absurd hrow List.not_mem_nil
  owner row hrow := absurd hrow List.not_mem_nil
  holds i task attemptId attempts h := by cases h

/-- A change of the table that claims nothing keeps the invariant. -/
private theorem Guarded.setTasks {s : DeletionSystem ι} (h : s.Guarded) {tasks : DeletionTasks}
    (hsound : ∀ row ∈ tasks.rows, RowSound row)
    (howner : ∀ row ∈ tasks.rows, ∀ attemptId, row.attemptId = some attemptId →
      s.newestAttempt row.id = some attemptId)
    (hrows : ∀ id row, s.tasks.get? id = some row → ∃ row', tasks.get? id = some row' ∧
      row'.attemptCount ≤ row.attemptCount ∧ row'.maxAttempts = row.maxAttempts) :
    ({ s with tasks := tasks } : DeletionSystem ι).Guarded where
  sound := hsound
  owner := howner
  holds i task attemptId attempts hi := by
    have hholds := h.holds i task attemptId attempts hi
    obtain ⟨row, hrow, hcount, hmax⟩ := hholds.row
    obtain ⟨row', hrow', hcount', hmax'⟩ := hrows task.id row hrow
    exact ⟨hholds.newest, hholds.loadedStatus, hholds.loadedAttempt, row', hrow',
      hcount'.trans hcount, hmax'.trans hmax⟩

private theorem RowSound.requeued (row : ObjectDeletionTask) : RowSound row.requeued where
  bound := Nat.zero_le row.maxAttempts
  queued _ := row.maxAttempts_pos

/-- Enqueuing an object keeps the invariant. -/
private theorem Guarded.enqueue {s : DeletionSystem ι} (h : s.Guarded) {objectKey : Text}
    {id : Uuid} {createdAt : Instant} {tasks : DeletionTasks}
    (htasks : s.tasks.enqueue objectKey id createdAt = some tasks) :
    ({ s with tasks := tasks } : DeletionSystem ι).Guarded := by
  unfold DeletionTasks.enqueue at htasks
  split at htasks
  · rw [← Option.some.inj htasks]
    exact h
  · cases hfind : s.tasks.rows.find? fun task => task.objectKey = objectKey with
    | some task =>
      rw [hfind] at htasks
      rw [← Option.some.inj htasks]
      refine h.setTasks ?_ ?_ ?_
      · intro row hrow
        rcases Table.mem_put.mp hrow with ⟨rfl, -⟩ | ⟨hrow, -⟩
        · exact RowSound.requeued task
        · exact h.sound row hrow
      · intro row hrow attemptId hattempt
        rcases Table.mem_put.mp hrow with ⟨rfl, -⟩ | ⟨hrow, -⟩
        · cases hattempt
        · exact h.owner row hrow attemptId hattempt
      · intro id' row hrow
        rw [Table.get?_put]
        split
        · rename_i heq
          have hmem : task ∈ s.tasks.rows := List.mem_of_find?_eq_some hfind
          have hsame : row = task :=
            Table.eq_of_key_eq (Table.mem_of_get? hrow) hmem ((Table.get?_key hrow).trans heq)
          rw [hrow]
          exact ⟨task.requeued, rfl, Nat.zero_le _, by rw [hsame]; rfl⟩
        · exact ⟨row, hrow, le_refl _, rfl⟩
    | none =>
      rw [hfind] at htasks
      have hrows := Table.rows_of_insert? htasks
      refine h.setTasks ?_ ?_ fun id' row hrow =>
        ⟨row, Table.get?_of_insert? htasks hrow, le_refl _, rfl⟩
      · intro row hrow
        rw [hrows, List.mem_append, List.mem_singleton] at hrow
        rcases hrow with hrow | rfl
        · exact h.sound row hrow
        · exact ⟨Nat.zero_le 10, fun _ => Nat.zero_lt_succ 9⟩
      · intro row hrow attemptId hattempt
        rw [hrows, List.mem_append, List.mem_singleton] at hrow
        rcases hrow with hrow | rfl
        · exact h.owner row hrow attemptId hattempt
        · cases hattempt

/-- Reaping keeps the invariant. -/
private theorem Guarded.reap {s : DeletionSystem ι} (h : s.Guarded) (now : Instant) :
    ({ s with tasks := s.tasks.mapRows (fun task => task.reaped now) fun task =>
      task.reaped_id now } : DeletionSystem ι).Guarded := by
  have hreaped : ∀ row : ObjectDeletionTask, row.reaped now = row ∨
      ((row.reaped now).status = .deadLettered ∧ (row.reaped now).attemptId = none ∧
        (row.reaped now).attemptCount = row.attemptCount ∧
        (row.reaped now).maxAttempts = row.maxAttempts) := by
    intro row
    unfold ObjectDeletionTask.reaped
    split
    · exact Or.inr ⟨rfl, rfl, rfl, rfl⟩
    · exact Or.inl rfl
  refine h.setTasks ?_ ?_ ?_
  · intro row hrow
    obtain ⟨old, hold, rfl⟩ := List.mem_map.mp hrow
    rcases hreaped old with hsame | ⟨hstatus, -, hcount, hmax⟩
    · rw [hsame]
      exact h.sound old hold
    · refine ⟨?_, fun hqueued => ?_⟩
      · rw [hcount, hmax]
        exact (h.sound old hold).bound
      · rw [hstatus] at hqueued
        cases hqueued
  · intro row hrow attemptId hattempt
    obtain ⟨old, hold, rfl⟩ := List.mem_map.mp hrow
    rcases hreaped old with hsame | ⟨-, hnone, -, -⟩
    · rw [hsame] at hattempt ⊢
      exact h.owner old hold attemptId hattempt
    · rw [hnone] at hattempt
      cases hattempt
  · intro id row hrow
    rw [Table.get?_mapRows, hrow]
    refine ⟨row.reaped now, rfl, ?_, ?_⟩
    · rcases hreaped row with hsame | ⟨-, -, hcount, -⟩
      · rw [hsame]
      · rw [hcount]
    · rcases hreaped row with hsame | ⟨-, -, -, hmax⟩
      · rw [hsame]
      · rw [hmax]

private theorem lookup_zip_eq_some {taskIds attemptIds : List Uuid} {taskId attemptId : Uuid}
    (h : (taskIds.zip attemptIds).lookup taskId = some attemptId) : taskId ∈ taskIds := by
  obtain ⟨before, after, heq, -⟩ := List.lookup_eq_some_iff.mp h
  have hmem : (taskId, attemptId) ∈ taskIds.zip attemptIds := by
    rw [heq]
    exact List.mem_append_right _ List.mem_cons_self
  exact (List.of_mem_zip hmem).1

private theorem lookup_zip_eq_none {taskIds attemptIds : List Uuid} {taskId : Uuid}
    (h : taskId ∉ taskIds) : (taskIds.zip attemptIds).lookup taskId = none := by
  cases hlookup : (taskIds.zip attemptIds).lookup taskId with
  | none => rfl
  | some attemptId => exact absurd (lookup_zip_eq_some hlookup) h

/-- The rows of a batch are rows of the table that may be claimed. -/
private theorem mem_of_mem_batch {s : DeletionSystem ι} {now : Instant} {batchSize : Nat}
    {locked : List Uuid} {task : ObjectDeletionTask} (h : task ∈ s.batch now batchSize locked) :
    task ∈ s.tasks.rows ∧ task.attemptCount < task.maxAttempts := by
  have hsorted := List.mem_of_mem_take h
  rw [List.mem_insertionSort, List.mem_filter] at hsorted
  obtain ⟨hrow, hclaimable⟩ := hsorted
  simp only [ObjectDeletionTask.isClaimable, Bool.and_eq_true, decide_eq_true_eq] at hclaimable
  exact ⟨hrow, hclaimable.1.1.2⟩

variable [DecidableEq ι]

/-- An outcome leaves a task as it is that has been claimed by a newer attempt. -/
def NeverOverwrites (s : DeletionSystem ι) (action : DeletionAction ι) : Prop :=
  ∀ i task attemptId attempts s', outcomeOf action = some i →
    s.stages i = .deleting task attemptId attempts →
      s.newestAttempt task.id ≠ some attemptId → s.act action = some s' →
        s'.tasks.get? task.id = s.tasks.get? task.id

/-- The states of the runs in which no claim takes a task that is being deleted. -/
inductive SparingRun : DeletionSystem ι → Prop
  | initial : SparingRun initial
  | step {s s' : DeletionSystem ι} {action : DeletionAction ι} (before : SparingRun s)
    (spares : s.SparesDeletions action) (acts : s.act action = some s') : SparingRun s'

private theorem stages_setStage (s : DeletionSystem ι) (i j : ι) (stage : DeletionStage) :
    (s.setStage i stage).stages j = if j = i then stage else s.stages j := rfl

/-- Moving a process out of `deleting` keeps the invariant. -/
private theorem Guarded.setStage {s : DeletionSystem ι} (h : s.Guarded) (i : ι)
    (stage : DeletionStage)
    (hstage : ∀ task attemptId attempts, stage = .deleting task attemptId attempts →
      s.HoldsTask task attemptId) : (s.setStage i stage).Guarded where
  sound := h.sound
  owner := h.owner
  holds j task attemptId attempts hj := by
    rw [stages_setStage] at hj
    have hholds : s.HoldsTask task attemptId := by
      split at hj
      · exact hstage task attemptId attempts hj
      · exact h.holds j task attemptId attempts hj
    exact ⟨hholds.newest, hholds.loadedStatus, hholds.loadedAttempt, hholds.row⟩

/-- Committing an outcome keeps the invariant. -/
private theorem Guarded.settle {s : DeletionSystem ι} (h : s.Guarded) {i : ι}
    {task changed : ObjectDeletionTask} {attemptId : Uuid} {attempts : List (Uuid × Uuid)}
    (hi : s.stages i = .deleting task attemptId attempts) (hnone : changed.attemptId = none)
    (hstatus : changed.status ≠ .processing)
    (hqueued : changed.status = .queued → task.attemptCount < task.maxAttempts) :
    (s.settle i task changed attempts).Guarded := by
  have hholds := h.holds i task attemptId attempts hi
  obtain ⟨current, hcurrent, hcount, hmax⟩ := hholds.row
  have hid : ∀ row, (ObjectDeletionTask.flush task changed row).id = row.id := fun _ => rfl
  have hwritten : ∀ row, (ObjectDeletionTask.flush task changed row).status = changed.status := by
    intro row
    change ObjectDeletionTask.flushColumn _ _ _ = _
    rw [ObjectDeletionTask.flushColumn, hholds.loadedStatus, if_neg hstatus]
  have hcleared : ∀ row, (ObjectDeletionTask.flush task changed row).attemptId = none := by
    intro row
    change ObjectDeletionTask.flushColumn _ _ _ = _
    rw [ObjectDeletionTask.flushColumn, hholds.loadedAttempt, hnone, if_neg (by simp)]
  have htasks : (⟨s.tasks.update task.id (ObjectDeletionTask.flush task changed), s.stages,
      s.claims⟩ : DeletionSystem ι).Guarded := by
    refine h.setTasks ?_ ?_ ?_
    · intro row hrow
      rcases Table.mem_of_mem_update hrow hid with ⟨hrow, -⟩ | ⟨old, hold, rfl⟩
      · exact h.sound row hrow
      · rw [hcurrent] at hold
        rw [← Option.some.inj hold]
        refine ⟨(h.sound current (Table.mem_of_get? hcurrent)).bound, fun hq => ?_⟩
        rw [hwritten] at hq
        have hlt := hqueued hq
        rw [ObjectDeletionTask.flush_attemptCount, ObjectDeletionTask.flush_maxAttempts, hmax]
        omega
    · intro row hrow attemptId' hattempt
      rcases Table.mem_of_mem_update hrow hid with ⟨hrow, -⟩ | ⟨old, -, rfl⟩
      · exact h.owner row hrow attemptId' hattempt
      · rw [hcleared] at hattempt
        cases hattempt
    · intro id row hrow
      rw [Table.get?_update hid, hrow]
      split
      · exact ⟨_, rfl, le_refl _, rfl⟩
      · exact ⟨row, rfl, le_refl _, rfl⟩
  exact htasks.setStage i (.looping attempts) fun _ _ _ hstage => by cases hstage

private theorem get?_claimRows (tasks : DeletionTasks) (attempts : List (Uuid × Uuid))
    (now : Instant) (taskId : Uuid) :
    (claimRows tasks attempts now).get? taskId = (tasks.get? taskId).map fun task =>
      match attempts.lookup task.id with
      | some attemptId => task.claimed attemptId now
      | none => task :=
  Table.get?_mapRows tasks _ _ taskId

/-- A claim that spares the deletions keeps the invariant. -/
private theorem Guarded.claim {s : DeletionSystem ι} (h : s.Guarded) {i : ι} {now : Instant}
    {batchSize : Nat} {locked attemptIds : List Uuid}
    (hspares : ∀ j task attemptId attempts, s.stages j = .deleting task attemptId attempts →
      task.id ∉ (s.batch now batchSize locked).map (·.id)) :
    (⟨claimRows s.tasks (((s.batch now batchSize locked).map (·.id)).zip attemptIds) now,
      (s.setStage i (.looping (((s.batch now batchSize locked).map (·.id)).zip attemptIds))).stages,
      ((s.batch now batchSize locked).map (·.id)).zip attemptIds ++ s.claims⟩ :
        DeletionSystem ι).Guarded := by
  have hclaims : ∀ taskId, taskId ∉ (s.batch now batchSize locked).map (·.id) →
      (((s.batch now batchSize locked).map (·.id)).zip attemptIds ++ s.claims).lookup taskId =
        s.newestAttempt taskId := by
    intro taskId htask
    rw [List.lookup_append, lookup_zip_eq_none htask]
    rfl
  refine ⟨?_, ?_, ?_⟩
  · intro row hrow
    obtain ⟨old, hold, rfl⟩ := List.mem_map.mp hrow
    cases hlookup : (((s.batch now batchSize locked).map (·.id)).zip attemptIds).lookup old.id with
    | none => exact h.sound old hold
    | some attemptId =>
      obtain ⟨task, htask, hid⟩ := List.mem_map.mp (lookup_zip_eq_some hlookup)
      obtain ⟨hmem, hlt⟩ := mem_of_mem_batch htask
      rw [Table.eq_of_key_eq hmem hold hid] at hlt
      refine ⟨?_, fun hqueued => by cases hqueued⟩
      change old.attemptCount + 1 ≤ old.maxAttempts
      omega
  · intro row hrow attemptId hattempt
    obtain ⟨old, hold, rfl⟩ := List.mem_map.mp hrow
    cases hlookup : (((s.batch now batchSize locked).map (·.id)).zip attemptIds).lookup old.id with
    | none =>
      simp only [hlookup] at hattempt ⊢
      change List.lookup old.id _ = _
      rw [List.lookup_append, hlookup]
      exact h.owner old hold attemptId hattempt
    | some attemptId' =>
      simp only [hlookup] at hattempt ⊢
      change List.lookup old.id _ = _
      rw [List.lookup_append, hlookup]
      exact hattempt
  · intro j task attemptId attempts hj
    rw [stages_setStage] at hj
    split at hj
    · cases hj
    · have hholds := h.holds j task attemptId attempts hj
      have hfree := hspares j task attemptId attempts hj
      obtain ⟨row, hrow, hcount⟩ := hholds.row
      refine ⟨?_, hholds.loadedStatus, hholds.loadedAttempt, row, ?_, hcount⟩
      · exact (hclaims task.id hfree).trans hholds.newest
      · have hid : row.id = task.id := Table.get?_key hrow
        rw [get?_claimRows, hrow, Option.map_some, hid, lookup_zip_eq_none hfree]

/-- The stage of a process that commits an outcome, and what it writes. -/
private theorem act_outcome {s s' : DeletionSystem ι} {action : DeletionAction ι} {i : ι}
    (haction : outcomeOf action = some i) (hact : s.act action = some s') :
    ∃ task attemptId attempts changed, s.stages i = .deleting task attemptId attempts ∧
      s' = s.settle i task changed attempts ∧ changed.attemptId = none ∧
        changed.status ≠ .processing ∧
          (changed.status = .queued → task.attemptCount < task.maxAttempts) := by
  cases action with
  | succeed j now =>
    obtain rfl := Option.some.inj haction
    cases hj : s.stages j with
    | deleting task attemptId attempts =>
      simp only [act, hj, Option.some.injEq] at hact
      exact ⟨task, attemptId, attempts, task.succeeded now, rfl, hact.symm, rfl, by
        simp [ObjectDeletionTask.succeeded], fun h => by cases h⟩
    | idle | reaped | looping => simp [act, hj] at hact
  | fail j now error =>
    obtain rfl := Option.some.inj haction
    cases hj : s.stages j with
    | deleting task attemptId attempts =>
      simp only [act, hj, Option.some.injEq] at hact
      refine ⟨task, attemptId, attempts, task.failed now error, rfl, hact.symm, ?_⟩
      unfold ObjectDeletionTask.failed
      split
      · exact ⟨rfl, by simp, fun h => by cases h⟩
      · exact ⟨rfl, by simp, fun _ => by omega⟩
    | idle | reaped | looping => simp [act, hj] at hact
  | enqueue | reap | claim | load | stop => cases haction

/-- One step of a sparing run keeps the invariant. -/
theorem Guarded.act {s s' : DeletionSystem ι} {action : DeletionAction ι} (h : s.Guarded)
    (hspares : s.SparesDeletions action) (hact : s.act action = some s') : s'.Guarded := by
  have houtcome : ∀ i, outcomeOf action = some i → s'.Guarded := by
    intro i haction
    obtain ⟨task, attemptId, attempts, changed, hi, rfl, hnone, hstatus, hqueued⟩ :=
      act_outcome haction hact
    exact h.settle hi hnone hstatus hqueued
  cases action with
  | enqueue objectKey id createdAt =>
    obtain ⟨tasks, htasks, rfl⟩ := Option.map_eq_some_iff.mp hact
    exact h.enqueue htasks
  | reap i now limit =>
    cases hi : s.stages i with
    | idle =>
      simp only [DeletionSystem.act, hi, Option.some.injEq] at hact
      rw [← hact]
      exact (h.reap now).setStage i (.reaped now (max 1 (min limit 1000))) fun _ _ _ hstage => by
        cases hstage
    | reaped | looping | deleting => simp [DeletionSystem.act, hi] at hact
  | claim i locked attemptIds =>
    cases hi : s.stages i with
    | reaped now batchSize =>
      simp only [DeletionSystem.act, hi] at hact
      split at hact
      · rw [← Option.some.inj hact]
        exact h.claim (hspares now batchSize hi)
      · cases hact
    | idle | looping | deleting => simp [DeletionSystem.act, hi] at hact
  | load i =>
    cases hi : s.stages i with
    | looping attempts =>
      cases attempts with
      | nil => simp [DeletionSystem.act, hi] at hact
      | cons attempt attempts =>
        obtain ⟨taskId, attemptId⟩ := attempt
        have hskip : (s.setStage i (.looping attempts)).Guarded :=
          h.setStage i (.looping attempts) fun _ _ _ hstage => by cases hstage
        cases htask : s.tasks.get? taskId with
        | none =>
          simp only [DeletionSystem.act, hi, htask, Option.some.injEq] at hact
          rwa [← hact]
        | some task =>
          simp only [DeletionSystem.act, hi, htask] at hact
          split at hact
          · rename_i howned
            rw [← Option.some.inj hact]
            refine h.setStage i (.deleting task attemptId attempts) fun _ _ _ hstage => ?_
            cases hstage
            simp only [ObjectDeletionTask.isOwned, Bool.and_eq_true, beq_iff_eq] at howned
            have hmem : task ∈ s.tasks.rows := Table.mem_of_get? htask
            have hid : task.id = taskId := Table.get?_key htask
            refine ⟨h.owner task hmem attemptId howned.2, howned.1, howned.2, task, ?_,
              le_refl _, rfl⟩
            rw [hid]
            exact htask
          · rwa [← Option.some.inj hact]
    | idle | reaped | deleting => simp [DeletionSystem.act, hi] at hact
  | succeed i now => exact houtcome i rfl
  | fail i now error => exact houtcome i rfl
  | stop i =>
    rw [← Option.some.inj hact]
    exact h.setStage i .idle fun _ _ _ hstage => by cases hstage

/-- Sparing runs keep the invariant. -/
theorem SparingRun.guarded {s : DeletionSystem ι} (h : SparingRun s) : s.Guarded := by
  induction h with
  | initial => exact guarded_initial
  | step before spares acts ih => exact ih.act spares acts

/-! ## Checking a run -/

/-- The task and the attempt of a process that is deleting. -/
def deletingAttempt : DeletionStage → Option (Uuid × Uuid)
  | .deleting task attemptId _ => some (task.id, attemptId)
  | _ => none

/-- The tasks that a claim takes. -/
def claimedIds (s : DeletionSystem ι) : DeletionAction ι → List Uuid
  | .claim i locked _ =>
    match s.stages i with
    | .reaped now batchSize => (s.batch now batchSize locked).map (·.id)
    | _ => []
  | _ => []

omit [DecidableEq ι] in
theorem sparesDeletions_iff (s : DeletionSystem ι) (action : DeletionAction ι) :
    s.SparesDeletions action ↔
      ∀ j, ∀ attempt ∈ deletingAttempt (s.stages j), attempt.1 ∉ s.claimedIds action := by
  have hattempt : ∀ j attempt, attempt ∈ deletingAttempt (s.stages j) ↔
      ∃ task attempts, s.stages j = .deleting task attempt.2 attempts ∧ task.id = attempt.1 := by
    rintro j ⟨taskId, attemptId⟩
    cases s.stages j with
    | deleting task attemptId' attempts =>
      simp only [deletingAttempt, Option.mem_def, Option.some.injEq, Prod.mk.injEq,
        DeletionStage.deleting.injEq]
      exact ⟨fun h => ⟨task, attempts, ⟨rfl, h.2, rfl⟩, h.1⟩,
        fun ⟨task', _, ⟨htask, hid, _⟩, h⟩ => ⟨htask ▸ h, hid⟩⟩
    | idle | reaped | looping => simp [deletingAttempt]
  cases action with
  | claim i locked attemptIds =>
    simp only [SparesDeletions, claimedIds, hattempt]
    cases s.stages i with
    | reaped now batchSize =>
      constructor
      · rintro h j attempt ⟨task, attempts, hj, hid⟩
        rw [← hid]
        exact h now batchSize rfl j task attempt.2 attempts hj
      · intro h now' batchSize' hstage j task attemptId attempts hj
        cases hstage
        exact h j (task.id, attemptId) ⟨task, attempts, hj, rfl⟩
    | idle | looping | deleting => simp
  | enqueue | reap | load | succeed | fail | stop => simp [SparesDeletions, claimedIds]

/-- No claim of these steps takes a task whose object a process is deleting. -/
def SparesAlong (s : DeletionSystem ι) : List (DeletionAction ι) → Prop
  | [] => True
  | action :: actions => s.SparesDeletions action ∧
    match s.act action with
    | some s' => s'.SparesAlong actions
    | none => True

/-- Such steps lead from a sparing run to a sparing run. -/
theorem SparingRun.run {s s' : DeletionSystem ι} {actions : List (DeletionAction ι)}
    (h : SparingRun s) (hspares : s.SparesAlong actions) (hrun : s.run actions = some s') :
    SparingRun s' := by
  induction actions generalizing s with
  | nil =>
    cases hrun
    exact h
  | cons action actions ih =>
    obtain ⟨hfirst, hrest⟩ := hspares
    obtain ⟨next, hact, hrun⟩ := Option.bind_eq_some_iff.mp hrun
    rw [hact] at hrest
    exact ih (h.step hfirst hact) hrest hrun

section Decidable

variable {n : Nat}

instance (s : DeletionSystem (Fin n)) (action : DeletionAction (Fin n)) :
    Decidable (s.SparesDeletions action) :=
  decidable_of_iff _ (s.sparesDeletions_iff action).symm

instance decidableSparesAlong (s : DeletionSystem (Fin n)) :
    (actions : List (DeletionAction (Fin n))) → Decidable (s.SparesAlong actions)
  | [] => .isTrue trivial
  | action :: actions =>
    match h : s.act action with
    | some s' =>
      have := s'.decidableSparesAlong actions
      decidable_of_iff (s.SparesDeletions action ∧ s'.SparesAlong actions)
        (by rw [SparesAlong, h])
    | none => decidable_of_iff (s.SparesDeletions action ∧ True) (by rw [SparesAlong, h])

end Decidable

/-! ## The promises of the outbox -/

/-- In a run in which no claim takes a task that is being deleted, no outcome overwrites what a
newer attempt has left. -/
theorem outcomes_never_overwrite (s : DeletionSystem ι) (h : SparingRun s)
    (action : DeletionAction ι) : s.NeverOverwrites action := by
  intro i task attemptId attempts s' _ hi hnewer _
  exact absurd (h.guarded.holds i task attemptId attempts hi).newest hnewer

/-- Two processes. The second one claims a third task while the first one deletes the object of the
first. When the lease of the batch has run out, the second process takes the second task before the
first process has come to it; the first process then finds that it does not own the task. -/
def supersededAttempt : List (DeletionAction (Fin 2)) :=
  [.enqueue "events/7/a.jpg".toList 1 0, .enqueue "events/7/b.jpg".toList 2 1,
    .reap 0 (seconds 1) 2, .claim 0 [] [101, 102], .load 0,
    .enqueue "events/7/c.jpg".toList 3 (seconds 2),
    .reap 1 (seconds 3) 2, .claim 1 [] [203], .load 1, .succeed 1 (seconds 4), .stop 1,
    .succeed 0 (seconds 30), .reap 1 (seconds 122) 2, .claim 1 [] [202], .load 0, .load 1]

/-- What the processes hold after the run, the newest attempt of the second task, and its row. -/
private theorem run_supersededAttempt :
    ∃ s, run initial supersededAttempt = some s ∧ SparingRun s ∧
      [deletingAttempt (s.stages 0), deletingAttempt (s.stages 1)] = [none, some (2, 202)] ∧
      s.newestAttempt 2 = some 202 ∧ (2, 102) ∈ s.claims ∧
      s.tasks.rows.map (·.status) = [.completed, .processing, .completed] := by
  have hreached : ∃ s ∈ run initial supersededAttempt,
      [deletingAttempt (s.stages 0), deletingAttempt (s.stages 1)] = [none, some (2, 202)] ∧
        s.newestAttempt 2 = some 202 ∧ (2, 102) ∈ s.claims ∧
        s.tasks.rows.map (·.status) = [.completed, .processing, .completed] := by
    decide +kernel
  obtain ⟨s, hs, hfacts⟩ := hreached
  exact ⟨s, hs, SparingRun.initial.run (by decide +kernel) hs, hfacts⟩

/-- The second process may settle the task in any way: nothing of a newer attempt is lost. -/
theorem supersededAttempt_never_overwrites :
    ∃ s, run initial supersededAttempt = some s ∧
      [deletingAttempt (s.stages 0), deletingAttempt (s.stages 1)] = [none, some (2, 202)] ∧
      s.newestAttempt 2 = some 202 ∧ (2, 102) ∈ s.claims ∧ ∀ action, s.NeverOverwrites action := by
  obtain ⟨s, hs, hsparing, hstages, hnewest, hclaims, -⟩ := run_supersededAttempt
  exact ⟨s, hs, hstages, hnewest, hclaims, outcomes_never_overwrite s hsparing⟩

/-- Two processes: the first one claims five tasks and needs 29 seconds for each of the first four
objects. The lease of the batch runs out while it deletes the fifth object, and the second process
claims and completes the fifth task. -/
def overtaken : List (DeletionAction Nat) :=
  (List.range 5).map (fun k => .enqueue ("events/7/".toList ++ [k.digitChar]) (k + 1) k) ++
    [.reap 0 (seconds 1) 5, .claim 0 [] [101, 102, 103, 104, 105]] ++
    ((List.range 4).flatMap fun k => [.load 0, .succeed 0 (seconds (30 + 29 * k))]) ++
    [.load 0, .reap 1 (seconds 121) 5, .claim 1 [] [205], .load 1, .succeed 1 (seconds 122)]

/-- The deletion by the first process then fails, and it queues the completed task again. -/
theorem stale_failure_requeues :
    ∃ s s', run initial overtaken = some s ∧
      s.act (.fail 0 (seconds 123) "TimeoutError") = some s' ∧
      (s.tasks.get? 5).map (·.status) = some .completed ∧
      (s'.tasks.get? 5).map (·.status) = some .queued ∧
      ¬ s.NeverOverwrites (.fail 0 (seconds 123) "TimeoutError") := by
  have hreached : ∃ s ∈ run initial overtaken, deletingAttempt (s.stages 0) = some (5, 105) ∧
      s.newestAttempt 5 = some 205 ∧ (s.tasks.get? 5).map (·.status) = some .completed ∧
      ∃ s' ∈ s.act (.fail 0 (seconds 123) "TimeoutError"),
        (s'.tasks.get? 5).map (·.status) = some .queued := by
    decide +kernel
  obtain ⟨s, hs, hdeleting, hnewest, hcompleted, s', hs', hqueued⟩ := hreached
  refine ⟨s, s', hs, hs', hcompleted, hqueued, fun hnever => ?_⟩
  cases hstage : s.stages 0 with
  | deleting task attemptId attempts =>
    rw [hstage, deletingAttempt, Option.some.injEq, Prod.mk.injEq] at hdeleting
    obtain ⟨hid, rfl⟩ := hdeleting
    have hsame := hnever 0 task 105 attempts s' rfl hstage (by rw [hid, hnewest]; simp) hs'
    rw [hid] at hsame
    rw [hsame, hcompleted] at hqueued
    cases hqueued
  | idle | reaped | looping =>
    rw [hstage] at hdeleting
    cases hdeleting

/-- In a run in which no claim takes a task that is being deleted, no deletion is abandoned. -/
theorem no_deletion_abandoned (s : DeletionSystem ι) (h : SparingRun s) : s.NotAbandoned := by
  intro task htask
  have hsound := h.guarded.sound task htask
  refine ⟨hsound.bound, ?_⟩
  cases hstatus : task.status with
  | completed => exact Or.inl rfl
  | deadLettered => exact Or.inr (Or.inl rfl)
  | queued =>
    refine Or.inr (Or.inr fun now hretry _ => Or.inl ?_)
    simp [ObjectDeletionTask.isClaimable, hstatus, hretry, hsound.queued hstatus]
  | processing =>
    refine Or.inr (Or.inr fun now hretry hlease => ?_)
    rcases Nat.lt_or_ge task.attemptCount task.maxAttempts with hlt | hge
    · left
      simp [ObjectDeletionTask.isClaimable, hstatus, hretry, hlease, hlt]
    · right
      simp [ObjectDeletionTask.isExhausted, hstatus, hlease, hge]

/-- Neither the completed tasks nor the superseded one are abandoned. -/
theorem supersededAttempt_not_abandoned :
    ∃ s, run initial supersededAttempt = some s ∧
      s.tasks.rows.map (·.status) = [.completed, .processing, .completed] ∧ s.NotAbandoned := by
  obtain ⟨s, hs, hsparing, -, -, -, hstatuses⟩ := run_supersededAttempt
  exact ⟨s, hs, hstatuses, no_deletion_abandoned s hsparing⟩

/-- Eight attempts of a batch of five tasks crash. In the ninth the first four objects take 29
seconds each, the lease of the batch runs out while the fifth object is deleted, and the tenth
attempt of the fifth task is claimed before the ninth fails. -/
def ninthFailsLate : List (DeletionAction Nat) :=
  (List.range 5).map (fun k => .enqueue ("events/7/".toList ++ [k.digitChar]) (k + 1) k) ++
    ((List.range 8).flatMap fun k =>
      [.reap 0 ((k + 1) * seconds 200) 5, .claim 0 [] [101, 102, 103, 104, 105], .stop 0]) ++
    [.reap 0 (seconds 2000) 5, .claim 0 [] [111, 112, 113, 114, 115]] ++
    ((List.range 4).flatMap fun k => [.load 0, .succeed 0 (seconds (2029 + 29 * k))]) ++
    [.load 0, .reap 1 (seconds 2121) 5, .claim 1 [] [205],
      .fail 0 (seconds 2122) "TimeoutError", .load 1, .stop 1]

/-- The fifth task is then queued for ever, with all its attempts used up. -/
theorem queued_without_attempts :
    ∃ s, run initial ninthFailsLate = some s ∧
      (s.tasks.get? 5).map (fun task => (task.status, task.attemptCount, task.maxAttempts)) =
        some (.queued, 10, 10) ∧ ¬ s.NotAbandoned := by
  have hreached : ∃ s ∈ run initial ninthFailsLate, ∃ task ∈ s.tasks.get? 5,
      task.status = .queued ∧ task.attemptCount = 10 ∧ task.maxAttempts = 10 ∧
        task.retryAt = some (seconds 2634) ∧ task.leaseExpiresAt = none := by
    decide +kernel
  obtain ⟨s, hs, task, htask, hstatus, hcount, hmax, hretry, hlease⟩ := hreached
  refine ⟨s, hs, ?_, fun h => ?_⟩
  · rw [htask, Option.map_some, hstatus, hcount, hmax]
  · rcases (h task (Table.mem_of_get? htask)).2 with hdone | hdead | hnext
    · rw [hstatus] at hdone
      cases hdone
    · rw [hstatus] at hdead
      cases hdead
    · have hnow := hnext (seconds 2634) (by simp [ObjectDeletionTask.due, hretry])
        (by simp [ObjectDeletionTask.due, hlease])
      simp [ObjectDeletionTask.isClaimable, ObjectDeletionTask.isExhausted, hstatus, hcount,
        hmax] at hnow

end DeletionSystem

end RaceFrame
