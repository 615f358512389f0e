import Mathlib.Data.List.Sort
import RaceFrame.Core.Table
import RaceFrame.Schema.Scalar

/-!
# The deletion outbox

`enqueue_object_deletion` and `process_object_deletions`, one commit at a time.
Any number of processes run the latter; between the statement that reads a task
again and the commit of its outcome a process deletes the object, which may take
any time, and the other processes go on. A commit of the ORM writes the columns
that the process has changed.
-/

namespace RaceFrame

open Core

/-! ## Tasks -/

/-- `ck_object_deletion_tasks_status`. -/
inductive DeletionStatus
  | queued | processing | completed | deadLettered
  deriving DecidableEq, Repr

/-- A row of `object_deletion_tasks`. -/
structure ObjectDeletionTask where
  id : Uuid
  objectKey : Text
  status : DeletionStatus
  attemptCount : Nat
  maxAttempts : Nat
  /-- `ck_object_deletion_tasks_max_attempts`. -/
  maxAttempts_pos : 0 < maxAttempts
  attemptId : Option Uuid
  retryAt : Option Instant
  claimedAt : Option Instant
  leaseExpiresAt : Option Instant
  lastError : Option String
  createdAt : Instant
  completedAt : Option Instant
  deadLetteredAt : Option Instant
  deriving DecidableEq

/-- The table of deletion tasks. -/
abbrev DeletionTasks := Table ObjectDeletionTask ObjectDeletionTask.id

namespace ObjectDeletionTask

/-- The row that `enqueue_object_deletion` inserts. -/
def enqueued (id : Uuid) (objectKey : Text) (createdAt : Instant) : ObjectDeletionTask where
  id := id
  objectKey := objectKey
  status := .queued
  attemptCount := 0
  maxAttempts := 10
  maxAttempts_pos := by decide
  attemptId := none
  retryAt := none
  claimedAt := none
  leaseExpiresAt := none
  lastError := none
  createdAt := createdAt
  completedAt := none
  deadLetteredAt := none

/-- The update that `enqueue_object_deletion` makes to a row that is there. -/
def requeued (task : ObjectDeletionTask) : ObjectDeletionTask :=
  { task with
    status := .queued
    attemptCount := 0
    attemptId := none
    retryAt := none
    claimedAt := none
    leaseExpiresAt := none
    lastError := none
    completedAt := none
    deadLetteredAt := none }

/-- A column that is null or in the past. -/
def due (column : Option Instant) (now : Instant) : Bool := column.all fun t => decide (t ≤ now)

/-- The condition of the first update: a lost lease on the last attempt. -/
def isExhausted (task : ObjectDeletionTask) (now : Instant) : Bool :=
  task.status == .processing && decide (task.maxAttempts ≤ task.attemptCount) &&
    due task.leaseExpiresAt now

/-- The first update. -/
def reaped (task : ObjectDeletionTask) (now : Instant) : ObjectDeletionTask :=
  if task.isExhausted now then
    { task with
      status := .deadLettered
      deadLetteredAt := some now
      leaseExpiresAt := none
      attemptId := none
      retryAt := none
      lastError := some "Maximum object-deletion attempts exhausted after a lost lease." }
  else task

/-- The condition under which a task is claimed. -/
def isClaimable (task : ObjectDeletionTask) (now : Instant) : Bool :=
  (task.status == .queued || task.status == .processing && due task.leaseExpiresAt now) &&
    decide (task.attemptCount < task.maxAttempts) && due task.retryAt now

/-- The claim: a lease of two minutes under a new attempt. -/
def claimed (task : ObjectDeletionTask) (attemptId : Uuid) (now : Instant) : ObjectDeletionTask :=
  { task with
    status := .processing
    attemptId := some attemptId
    claimedAt := some now
    leaseExpiresAt := some (now + seconds 120)
    attemptCount := task.attemptCount + 1 }

/-- The check that an attempt still owns its task. -/
def isOwned (task : ObjectDeletionTask) (attemptId : Uuid) : Bool :=
  task.status == .processing && task.attemptId == some attemptId

/-- What the process makes of its copy when the object is deleted. -/
def succeeded (task : ObjectDeletionTask) (now : Instant) : ObjectDeletionTask :=
  { task with
    status := .completed
    completedAt := some now
    leaseExpiresAt := none
    attemptId := none
    retryAt := none
    lastError := none }

/-- What the process makes of its copy when the deletion raises. -/
def failed (task : ObjectDeletionTask) (now : Instant) (error : String) : ObjectDeletionTask :=
  if task.maxAttempts ≤ task.attemptCount then
    { task with
      lastError := some error
      leaseExpiresAt := none
      attemptId := none
      status := .deadLettered
      deadLetteredAt := some now
      retryAt := none }
  else
    { task with
      lastError := some error
      leaseExpiresAt := none
      attemptId := none
      status := .queued
      retryAt := some (now + seconds (min 3600 (2 ^ min task.attemptCount 10))) }

/-- A column after the commit: the one of the row unless the process has changed its copy. -/
def flushColumn {α : Type} [DecidableEq α] (loaded changed row : α) : α :=
  if changed = loaded then row else changed

/-- The commit of a changed copy: the columns that it has changed are written. -/
def flush (loaded changed row : ObjectDeletionTask) : ObjectDeletionTask :=
  { row with
    status := flushColumn loaded.status changed.status row.status
    attemptId := flushColumn loaded.attemptId changed.attemptId row.attemptId
    retryAt := flushColumn loaded.retryAt changed.retryAt row.retryAt
    leaseExpiresAt := flushColumn loaded.leaseExpiresAt changed.leaseExpiresAt row.leaseExpiresAt
    lastError := flushColumn loaded.lastError changed.lastError row.lastError
    completedAt := flushColumn loaded.completedAt changed.completedAt row.completedAt
    deadLetteredAt := flushColumn loaded.deadLetteredAt changed.deadLetteredAt row.deadLetteredAt }

@[simp] theorem reaped_id (task : ObjectDeletionTask) (now : Instant) :
    (task.reaped now).id = task.id := by
  unfold reaped
  split <;> rfl

@[simp] theorem flush_id (loaded changed row : ObjectDeletionTask) :
    (flush loaded changed row).id = row.id := rfl

@[simp] theorem flush_attemptCount (loaded changed row : ObjectDeletionTask) :
    (flush loaded changed row).attemptCount = row.attemptCount := rfl

@[simp] theorem flush_maxAttempts (loaded changed row : ObjectDeletionTask) :
    (flush loaded changed row).maxAttempts = row.maxAttempts := rfl

end ObjectDeletionTask

/-- `enqueue_object_deletion`, with the identifier and the time that the insert would use. -/
def DeletionTasks.enqueue (tasks : DeletionTasks) (objectKey : Text) (id : Uuid)
    (createdAt : Instant) : Option DeletionTasks :=
  if objectKey.isEmpty then some tasks
  else
    match tasks.rows.find? fun task => task.objectKey = objectKey with
    | some task => some (tasks.put task.requeued)
    | none => tasks.insert? (.enqueued id objectKey createdAt)

/-- `enqueue_object_deletion` for several keys in one transaction. -/
def DeletionTasks.enqueueAll (tasks : DeletionTasks) :
    List (Text × Uuid × Instant) → Option DeletionTasks
  | [] => some tasks
  | (key, id, createdAt) :: stamped =>
    (tasks.enqueue key id createdAt).bind fun tasks => tasks.enqueueAll stamped

/-! ## Processes -/

/-- Where a run of `process_object_deletions` stands, with the tasks and attempts of its batch that
are left. -/
inductive DeletionStage
  | idle
  /-- After the first commit. -/
  | reaped (now : Instant) (batchSize : Nat)
  /-- Before the next task of the batch. -/
  | looping (attempts : List (Uuid × Uuid))
  /-- The task is loaded and still owned; its object is being deleted. -/
  | deleting (task : ObjectDeletionTask) (attemptId : Uuid) (attempts : List (Uuid × Uuid))

/-- The outbox and its processes. -/
structure DeletionSystem (ι : Type) where
  tasks : DeletionTasks
  stages : ι → DeletionStage
  /-- The tasks claimed so far with their attempts, the newest first. -/
  claims : List (Uuid × Uuid)

/-- A step of the system. -/
inductive DeletionAction (ι : Type)
  | enqueue (objectKey : Text) (id : Uuid) (createdAt : Instant)
  | reap (i : ι) (now : Instant) (limit : Nat)
  /-- The claim of a batch: `locked` are the rows that `skip_locked` passes over. -/
  | claim (i : ι) (locked : List Uuid) (attemptIds : List Uuid)
  /-- The next task of the batch is loaded and checked. -/
  | load (i : ι)
  | succeed (i : ι) (now : Instant)
  | fail (i : ι) (now : Instant) (error : String)
  /-- The run ends, at its end or by a crash. -/
  | stop (i : ι)

namespace DeletionSystem

variable {ι : Type} [DecidableEq ι]

/-- Move a process. -/
def setStage (s : DeletionSystem ι) (i : ι) (stage : DeletionStage) : DeletionSystem ι :=
  { s with stages := fun j => if j = i then stage else s.stages j }

/-- The batch of a claim: the first claimable tasks by their creation. -/
def batch (s : DeletionSystem ι) (now : Instant) (batchSize : Nat) (locked : List Uuid) :
    List ObjectDeletionTask :=
  ((s.tasks.rows.filter fun task => task.isClaimable now && !locked.contains task.id).insertionSort
    fun a b => a.createdAt ≤ b.createdAt).take batchSize

/-- The rows after a claim. -/
def claimRows (tasks : DeletionTasks) (attempts : List (Uuid × Uuid)) (now : Instant) :
    DeletionTasks :=
  tasks.mapRows
    (fun task => match attempts.lookup task.id with
      | some attemptId => task.claimed attemptId now
      | none => task)
    (fun task => by cases attempts.lookup task.id <;> rfl)

/-- The commit of an outcome. -/
def settle (s : DeletionSystem ι) (i : ι) (loaded changed : ObjectDeletionTask)
    (attempts : List (Uuid × Uuid)) : DeletionSystem ι :=
  { s.setStage i (.looping attempts) with
    tasks := s.tasks.update loaded.id fun row => .flush loaded changed row }

/-- One step: `none` when the process is not there. -/
def act (s : DeletionSystem ι) : DeletionAction ι → Option (DeletionSystem ι)
  | .enqueue objectKey id createdAt =>
    (s.tasks.enqueue objectKey id createdAt).map fun tasks => { s with tasks := tasks }
  | .reap i now limit =>
    match s.stages i with
    | .idle =>
      some { s.setStage i (.reaped now (max 1 (min limit 1000))) with
        tasks := s.tasks.mapRows (fun task => task.reaped now) fun task => task.reaped_id now }
    | _ => none
  | .claim i locked attemptIds =>
    match s.stages i with
    | .reaped now batchSize =>
      let taskIds := (s.batch now batchSize locked).map (·.id)
      if taskIds.length = attemptIds.length then
        let attempts := taskIds.zip attemptIds
        some { s.setStage i (.looping attempts) with
          tasks := claimRows s.tasks attempts now
          claims := attempts ++ s.claims }
      else none
    | _ => none
  | .load i =>
    match s.stages i with
    | .looping ((taskId, attemptId) :: attempts) =>
      match s.tasks.get? taskId with
      | some task =>
        if task.isOwned attemptId then some (s.setStage i (.deleting task attemptId attempts))
        else some (s.setStage i (.looping attempts))
      | none => some (s.setStage i (.looping attempts))
    | _ => none
  | .succeed i now =>
    match s.stages i with
    | .deleting task _ attempts => some (s.settle i task (task.succeeded now) attempts)
    | _ => none
  | .fail i now error =>
    match s.stages i with
    | .deleting task _ attempts => some (s.settle i task (task.failed now error) attempts)
    | _ => none
  | .stop i => some (s.setStage i .idle)

/-- Several steps. -/
def run (s : DeletionSystem ι) (actions : List (DeletionAction ι)) : Option (DeletionSystem ι) :=
  actions.foldlM act s

/-- Before anything has run. -/
def initial : DeletionSystem ι where
  tasks := .empty
  stages _ := .idle
  claims := []

end DeletionSystem

end RaceFrame
