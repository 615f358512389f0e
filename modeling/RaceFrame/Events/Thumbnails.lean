import RaceFrame.Storage.Outbox
import RaceFrame.Upload.Ingestion

/-!
# Thumbnails of events

`save_event_thumbnail`: the object is stored, the key of the event is replaced
and the previous key is queued for deletion in one commit, and then one task of
the outbox is processed. Every call of the object storage, every commit and the
refresh may raise; how each ends is given in advance.
-/

namespace RaceFrame

open Core

/-- A row of `events`, with the column that thumbnails use. -/
structure EventRow where
  id : Uuid
  thumbnailObjectKey : Option Text
  deriving DecidableEq

/-- The tables that thumbnails use. -/
structure ThumbnailRows where
  events : Table EventRow EventRow.id
  tasks : DeletionTasks

/-- The calls that can raise. -/
inductive ThumbnailCall
  | put (objectKey : Text)
  | delete (objectKey : Text)
  /-- The commits, in order. -/
  | commit (n : Nat)
  | refresh
  deriving DecidableEq

/-- What the saving of a thumbnail works on. -/
structure ThumbnailState where
  world : World
  /-- How each call ends. -/
  outcomes : ThumbnailCall → CallOutcome
  /-- The tasks that other transactions hold locked. -/
  locked : List Uuid
  /-- The committed rows. -/
  rows : ThumbnailRows
  /-- The number of commits so far. -/
  commits : Nat
  /-- The keys of the stored objects. -/
  objects : List Text
  /-- The keys that have been stored. -/
  putKeys : List Text
  /-- The keys that have been the target of a `delete_object` call. -/
  deleteTargets : List Text

/-- A function that works on thumbnails. -/
abbrev Thumbnails (α : Type) := Program ThumbnailState Raised α

namespace Thumbnails

/-- `put_object`: what raises stores nothing. -/
def putObject (objectKey : Text) : Thumbnails Unit := do
  let outcome ← Program.gets fun s => s.outcomes (.put objectKey)
  if outcome = .returns then
    Program.modify fun s =>
      { s with objects := objectKey :: s.objects, putKeys := objectKey :: s.putKeys }
  else Program.raise (.runtimeError "put_object")

/-- `delete_object`. -/
def deleteObject (objectKey : Text) : Thumbnails Unit :=
  if objectKey.isEmpty then return ()
  else do
    Program.modify fun s => { s with deleteTargets := objectKey :: s.deleteTargets }
    let outcome ← Program.gets fun s => s.outcomes (.delete objectKey)
    if outcome ≠ .raises then
      Program.modify fun s => { s with objects := s.objects.filter (· != objectKey) }
    if outcome ≠ .returns then Program.raise (.runtimeError "delete_object")

/-- `session.commit()` with its flush: what raises persists nothing. -/
def commit (change : ThumbnailRows → Option ThumbnailRows) : Thumbnails Unit := do
  let changed ← Program.gets fun s => change s.rows
  match changed with
  | none => Program.raise .integrityError
  | some rows =>
    let outcome ← Program.gets fun s => s.outcomes (.commit s.commits)
    if outcome = .returns then
      Program.modify fun s => { s with rows := rows, commits := s.commits + 1 }
    else Program.raise (.runtimeError "commit")

/-- `session.refresh`. -/
def refresh : Thumbnails Unit := do
  let outcome ← Program.gets fun s => s.outcomes .refresh
  if outcome = .returns then return () else Program.raise (.runtimeError "refresh")

/-- `uuid4()`. -/
def uuid4 : Thumbnails Uuid := do
  let id ← Program.gets fun s => s.world.uuids 0
  Program.modify fun s => { s with world := s.world.draw 1 }
  return id

/-- `n` calls of `uuid4()`. -/
def uuid4s (n : Nat) : Thumbnails (List Uuid) := do
  let ids ← Program.gets fun s => (List.range n).map s.world.uuids
  Program.modify fun s => { s with world := s.world.draw n }
  return ids

/-- `utc_now()`. -/
def utcNow : Thumbnails Instant := do
  let now ← Program.gets fun s => s.world.clock 0
  Program.modify fun s => { s with world := s.world.tick }
  return now

end Thumbnails

/-! ## Processing the outbox -/

/-- The batch of a claim. -/
def DeletionTasks.batch (tasks : DeletionTasks) (now : Instant) (batchSize : Nat)
    (locked : List Uuid) : List ObjectDeletionTask :=
  DeletionSystem.batch { (.initial : DeletionSystem Unit) with tasks := tasks } now batchSize locked

/-- A turn of the loop of `process_object_deletions`. -/
def processDeletion (attempt : Uuid × Uuid) : Thumbnails Unit := do
  let loaded ← Program.gets fun s => s.rows.tasks.get? attempt.1
  match loaded with
  | none => return ()
  | some task =>
    if task.isOwned attempt.2 then do
      let outcome ← Program.attempt (Thumbnails.deleteObject task.objectKey)
      let now ← Thumbnails.utcNow
      let changed := match outcome with
        | .ok () => task.succeeded now
        | .error _ => task.failed now "RuntimeError: object deletion failed"
      Thumbnails.commit fun rows => some
        { rows with tasks := rows.tasks.update task.id (fun row => .flush task changed row) }
    else return ()

/-- `process_object_deletions`. -/
def processObjectDeletions (limit : Nat) : Thumbnails Unit := do
  let now ← Thumbnails.utcNow
  Thumbnails.commit fun rows => some
    { rows with
      tasks := rows.tasks.mapRows (fun task => task.reaped now) (fun task => task.reaped_id now) }
  let taskIds ← Program.gets fun s =>
    (s.rows.tasks.batch now (max 1 (min limit 1000)) s.locked).map (·.id)
  let attemptIds ← Thumbnails.uuid4s taskIds.length
  let attempts := taskIds.zip attemptIds
  Thumbnails.commit fun rows => some
    { rows with tasks := DeletionSystem.claimRows rows.tasks attempts now }
  attempts.forM processDeletion

/-! ## Saving -/

/-- The key of a new thumbnail. -/
def eventThumbnailKey (eventId id : Uuid) : Text :=
  "events/".toList ++ uuidText eventId ++ "/event-thumbnails/".toList ++ uuidText id ++
    ".jpg".toList

/-- `if previous_key`. -/
def EventRow.previousKey (event : EventRow) : Option Text :=
  event.thumbnailObjectKey.filter fun key => !key.isEmpty

/-- `if previous_key: enqueue_object_deletion(session, previous_key)`. -/
def DeletionTasks.enqueuePrevious (tasks : DeletionTasks) (event : EventRow) (taskId : Uuid)
    (createdAt : Instant) : Option DeletionTasks :=
  match event.previousKey with
  | some previousKey => tasks.enqueue previousKey taskId createdAt
  | none => some tasks

/-- The flush of a new thumbnail: the key of the event is replaced, and the previous one gets a
deletion task. -/
def ThumbnailRows.replaceThumbnail? (rows : ThumbnailRows) (event : EventRow) (newKey : Text)
    (taskId : Uuid) (createdAt : Instant) : Option ThumbnailRows := do
  let _ ← rows.events.get? event.id
  let tasks ← rows.tasks.enqueuePrevious event taskId createdAt
  let events := rows.events.put { event with thumbnailObjectKey := some newKey }
  return { events := events, tasks := tasks }

/-- `save_event_thumbnail`: the body of the `try`. The identifier and the time are those of the task
that the insert of the previous key would make. -/
def publishThumbnail (event : EventRow) (newKey : Text) : Thumbnails Unit := do
  let taskId ← Thumbnails.uuid4
  let createdAt ← Thumbnails.utcNow
  Thumbnails.commit fun rows => rows.replaceThumbnail? event newKey taskId createdAt
  Thumbnails.refresh

/-- `save_event_thumbnail`. -/
def saveEventThumbnail (event : EventRow) : Thumbnails Unit := do
  let id ← Thumbnails.uuid4
  let newKey := eventThumbnailKey event.id id
  Thumbnails.putObject newKey
  match ← Program.attempt (publishThumbnail event newKey) with
  | .error raised =>
    let _ ← Program.attempt (Thumbnails.deleteObject newKey)
    Program.raise raised
  | .ok () => if event.previousKey.isSome then processObjectDeletions 1

end RaceFrame
