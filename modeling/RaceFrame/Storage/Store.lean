import RaceFrame.Core.Traces
import RaceFrame.Events.Deletion
import RaceFrame.Events.ThumbnailFaults
import RaceFrame.Isolation.Uploads
import RaceFrame.Search.Purge
import RaceFrame.Upload.Compensation

/-!
# Object keys in the database

All committed tables together: those with object keys in them, the rows that these
belong to, and the outbox. The operations that write them are the uploads, the
saving and removing of thumbnails, the deletions and the maintenance; each works on
the server's state through the programs of the other modules.
-/

namespace RaceFrame

open Core

variable {F α : Type}

/-! ## The tables -/

/-- The committed tables: events and outbox, the tables that uploads write, and the others. -/
structure Store (F : Type) extends ThumbnailRows where
  uploads : UploadRows F
  /-- The tables that no upload writes are taken from here. -/
  others : Database F

namespace Store

/-- The tables as the requests see them. -/
def database (s : Store F) : Database F := s.others.withUploads s.uploads

/-- A row references the key of an object. -/
def References (s : Store F) (key : Text) : Prop :=
  s.uploads.References key ∨ s.toThumbnailRows.References key

/-- There is a deletion task for the key. -/
def HasTask (s : Store F) (key : Text) : Prop := s.tasks.HasKey key

/-- The deletion task for the key is completed. -/
def HasCompletedTask (s : Store F) (key : Text) : Prop :=
  ∃ task ∈ s.tasks.rows, task.objectKey = key ∧ task.status = .completed

/-- The column `thumbnail_object_key` of a photo. -/
def thumbnailObjectKey (s : Store F) (photo : Photo) : Option Text :=
  (s.uploads.photos.get? photo.id).bind StoredPhoto.thumbnailObjectKey

end Store

/-- The rows that uploads write, after others have been deleted from the database. -/
def UploadRows.within (rows : UploadRows F) (db : Database F) : UploadRows F where
  photos := rows.photos.deleteWhere fun row => !(db.photos.rows.any fun photo => photo.id == row.id)
  idempotencyKeys_nodup :=
    rows.idempotencyKeys_nodup.sublist (List.filter_sublist.filterMap _)
  checksums_nodup := rows.checksums_nodup.sublist (List.filter_sublist.filterMap _)
  jobs := db.jobs
  participantFaceImages := db.participantFaceImages
  faceSearchSessions := db.faceSearchSessions
  faceSearchImages := db.faceSearchImages

/-- The tables after a transaction that has deleted rows from `db` and events, and has queued
objects for deletion. -/
def Store.afterRemoval? (s : Store F) (db : Database F) (deletesEvent : EventRow → Bool)
    (entries : List (Text × Uuid × Instant)) : Option (Store F) := do
  let tasks ← s.tasks.enqueueAll entries
  return {
    events := s.events.deleteWhere deletesEvent
    tasks := tasks
    uploads := s.uploads.within db
    others := db }

/-! ## The server -/

/-- What an operation works on. -/
structure Backend (F : Type) extends ThumbnailState where
  uploads : UploadRows F
  others : Database F

/-- The committed tables. -/
def Backend.store (b : Backend F) : Store F where
  toThumbnailRows := b.rows
  uploads := b.uploads
  others := b.others

/-- The server with other committed tables. -/
def Backend.withStore (b : Backend F) (s : Store F) : Backend F :=
  { b with rows := s.toThumbnailRows, uploads := s.uploads, others := s.others }

/-- The server after an upload. -/
def Backend.withUpload (b : Backend F) (t : UploadState F) : Backend F :=
  { b with world := t.world, objects := t.objects, uploads := t.rows }

/-- The server after a program on thumbnails or the outbox. -/
def Backend.withThumbnails (b : Backend F) (t : ThumbnailState) : Backend F :=
  { b with toThumbnailState := t }

/-- A function that works on the server. -/
abbrev Operation (F α : Type) := Program (Backend F) Raised α

namespace Operation

/-- The committed tables at every statement of the operation and at its end. -/
def commits (x : Operation F α) (b : Backend F) : List (Store F) := (x.trace b).map Backend.store

/-- An upload, with how its calls end. -/
def ofIngest (outcomes : ExternalCall → CallOutcome) (x : Ingest F α) : Operation F α :=
  x.onPart (fun b => ⟨b.world, outcomes, b.uploads, b.objects, [], []⟩) fun t b => b.withUpload t

/-- A program on thumbnails or the outbox. -/
def ofThumbnails (x : Thumbnails α) : Operation F α :=
  x.onPart Backend.toThumbnailState fun t b => b.withThumbnails t

/-- `session.commit()`: what raises persists nothing. -/
def commit (change : Store F → Option (Store F)) : Operation F Unit := do
  let changed ← Program.gets fun b => change b.store
  match changed with
  | none => Program.raise .integrityError
  | some s =>
    let outcome ← Program.gets fun b => b.outcomes (.commit b.commits)
    if outcome = .returns then
      Program.modify fun b => { b.withStore s with commits := b.commits + 1 }
    else Program.raise (.runtimeError "commit")

/-- The identifiers and the creation times of new deletion tasks. -/
def drawTasks (objectKeys : List Text) : Operation F (List (Text × Uuid × Instant)) := do
  let ids ← ofThumbnails (Thumbnails.uuid4s objectKeys.length)
  let createdAt ← Program.gets fun b => (List.range objectKeys.length).map b.world.clock
  Program.modify fun b => { b with world := World.tick^[objectKeys.length] b.world }
  return objectKeys.zip (ids.zip createdAt)

/-- A transaction that deletes rows and queues their objects for deletion: the rows of a request,
which returns the keys of the objects, and events. -/
def remove (deletesEvent : EventRow → Bool) (removal : Request F (α × List Text)) :
    Operation F α := do
  let (result, session) ← Program.gets fun b =>
    removal.run (Session.sessionLocal b.world b.store.database)
  Program.modify fun b => { b with world := session.world }
  match result with
  | .error raised => Program.raise raised
  | .ok (answer, objectKeys) =>
    let entries ← drawTasks objectKeys
    commit fun s => s.afterRemoval? session.committed deletesEvent entries
    return answer

/-- `process_object_deletions(session, limit=limit)`, where a limit of zero means the configured
batch size. -/
def processObjectDeletions (batchSize limit : Nat) : Operation F Unit :=
  ofThumbnails (RaceFrame.processObjectDeletions (if limit = 0 then batchSize else limit))

/-! ## Deletions -/

variable (batchSize : Nat)

/-- `delete_photo`. -/
def deletePhoto (photo : Photo) : Operation F Unit := do
  let thumbnailObjectKey ← Program.gets fun b => b.store.thumbnailObjectKey
  remove (fun _ => false) do
    let objectKeys ← RaceFrame.deletePhoto thumbnailObjectKey photo
    return ((), objectKeys)
  processObjectDeletions batchSize 2

/-- `delete_all_event_photos`. -/
def deleteAllEventPhotos (eventId : Uuid) : Operation F Nat := do
  let thumbnailObjectKey ← Program.gets fun b => b.store.thumbnailObjectKey
  let deletedCount ← remove (fun _ => false)
    (RaceFrame.deleteAllEventPhotos thumbnailObjectKey eventId)
  processObjectDeletions batchSize (min (deletedCount * 2) batchSize)
  return deletedCount

/-- `delete_event`. -/
def deleteEvent (eventId : Uuid) : Operation F Unit := do
  let event ← Program.gets fun b => b.rows.events.get? eventId
  let objectKeyCount ← remove (fun event => event.id == eventId)
    (RaceFrame.deleteEvent eventId (event.bind EventRow.previousKey))
  processObjectDeletions batchSize (min objectKeyCount batchSize)

/-- `delete_event_action`, without the audit log. -/
def deleteEventAction (eventId : Uuid) : Operation F Unit := do
  let event ← Program.gets fun b => b.rows.events.get? eventId
  match event with
  | none => Program.raise (.httpException 404 "Event not found.")
  | some _ =>
    let _ ← deleteAllEventPhotos batchSize eventId
    deleteEvent batchSize eventId

/-- `delete_participant`. -/
def deleteParticipant (participant : Participant) : Operation F Unit := do
  remove (fun _ => false) do
    let objectKeys ← RaceFrame.deleteParticipant participant
    return ((), objectKeys)
  processObjectDeletions batchSize 0

/-- `delete_all_participants`. -/
def deleteAllParticipants (eventId : Uuid) : Operation F Nat := do
  let count ← remove (fun _ => false) (RaceFrame.deleteAllParticipants eventId)
  processObjectDeletions batchSize 0
  return count

/-- `purge_expired_face_searches`. -/
def purgeExpiredFaceSearches (expiresAt : Uuid → ℤ) (locked : Uuid → Bool) (limit : Nat) :
    Operation F Nat :=
  remove (fun _ => false) (RaceFrame.purgeExpiredFaceSearches expiresAt locked limit)

/-- `purge_completed_deletion_tasks`. -/
def purgeCompletedDeletionTasks (retentionDays : Nat) : Operation F Unit := do
  let now ← ofThumbnails Thumbnails.utcNow
  commit fun s => some { s with
    tasks := s.tasks.deleteWhere fun task => task.status == .completed &&
      task.completedAt.any fun completedAt =>
        decide (completedAt + seconds (86400 * max 1 retentionDays) < now) }

end Operation

end RaceFrame
