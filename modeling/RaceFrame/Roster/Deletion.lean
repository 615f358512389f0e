import RaceFrame.Roster.Ownership

/-!
# Removing participants

`delete_participant`, `delete_all_participants` and the cleanup of identity data
that both run first. The deletion outbox is not a table of this model: what a
function returns are the object keys for which it enqueues a deletion task.
-/

namespace RaceFrame

open Core

variable {F : Type}

/-! ## Bulk deletes -/

/-- Delete jobs by the row they belong to. -/
@[simps] def Database.deleteJobs (db : Database F) (p : JobRef → Bool) : Database F :=
  { db with jobs := db.jobs.deleteWhere fun job => p job.ref }

/-- Delete search sessions. -/
@[simps] def Database.deleteFaceSearchSessions (db : Database F) (p : FaceSearchSession → Bool) :
    Database F :=
  { db with faceSearchSessions := db.faceSearchSessions.deleteWhere p }

/-- Delete search images. -/
@[simps] def Database.deleteFaceSearchImages (db : Database F) (p : FaceSearchImage → Bool) :
    Database F :=
  { db with faceSearchImages := db.faceSearchImages.deleteWhere p }

/-- Delete search results. -/
@[simps] def Database.deleteFaceSearchResults (db : Database F) (p : FaceSearchResult F → Bool) :
    Database F :=
  { db with faceSearchResults := db.faceSearchResults.deleteWhere p }

/-- Delete face matches. -/
@[simps] def Database.deleteFaceParticipantMatches (db : Database F)
    (p : FaceParticipantMatch F → Bool) : Database F :=
  { db with faceParticipantMatches := db.faceParticipantMatches.deleteWhere p }

/-- Delete photo matches. -/
@[simps] def Database.deletePhotoParticipantMatches (db : Database F)
    (p : PhotoParticipantMatch F → Bool) : Database F :=
  { db with photoParticipantMatches := db.photoParticipantMatches.deleteWhere p }

/-- Delete embeddings. -/
@[simps] def Database.deleteFaceEmbeddings (db : Database F)
    (p : ParticipantFaceEmbedding F → Bool) : Database F :=
  { db with participantFaceEmbeddings := db.participantFaceEmbeddings.deleteWhere p }

/-- Delete selfies. -/
@[simps] def Database.deleteFaceImages (db : Database F) (p : ParticipantFaceImage → Bool) :
    Database F :=
  { db with participantFaceImages := db.participantFaceImages.deleteWhere p }

/-- Delete participants. -/
@[simps] def Database.deleteParticipants (db : Database F) (p : Participant → Bool) :
    Database F :=
  { db with participants := db.participants.deleteWhere p }

/-! ## The cleanup -/

/-- The keys for which `enqueue_object_deletion` writes a task. -/
def enqueueObjectDeletion (objectKey : Text) : List Text :=
  if objectKey.isEmpty then [] else [objectKey]

/-- Whether a job belongs to one of the search images. -/
def JobRef.ofSearchImage (imageIds : List Uuid) : JobRef → Bool
  | .faceSearch _ _ imageId => imageIds.contains imageId
  | _ => false

/-- Whether a job belongs to one of the search sessions. -/
def JobRef.ofSearchSession (sessionIds : List Uuid) : JobRef → Bool
  | .faceSearch _ sessionId _ => sessionIds.contains sessionId
  | _ => false

/-- Whether a job belongs to one of the participants. -/
def JobRef.ofParticipant (ids : List Uuid) : JobRef → Bool
  | .participantFace _ participantId _ => ids.contains participantId
  | _ => false

/-- Whether a job belongs to one of the selfies. -/
def JobRef.ofFaceImage (imageIds : List Uuid) : JobRef → Bool
  | .participantFace _ _ imageId => imageIds.contains imageId
  | _ => false

/-- A bulk delete under a condition. -/
def executeIf (condition : Bool) (f : Database F → Database F) : Request F Unit :=
  if condition then Request.execute f else return ()

/-- The part of `cleanup_participant_identity_data` that is about search sessions. -/
def cleanupSearchSessions (searchSessionIds : List Uuid) : Request F (List Text) :=
  if searchSessionIds.isEmpty then return []
  else do
    let searchObjectKeys ← Request.query fun db =>
      (db.faceSearchImages.rows.filter fun image =>
        searchSessionIds.contains image.searchSessionId).map (·.objectKey)
    let searchImageIds ← Request.query fun db =>
      (db.faceSearchImages.rows.filter fun image =>
        searchSessionIds.contains image.searchSessionId).map (·.id)
    Request.execute fun db =>
      db.deleteFaceSearchResults fun row => searchSessionIds.contains row.searchSessionId
    executeIf (!searchImageIds.isEmpty) fun db =>
      db.deleteJobs (JobRef.ofSearchImage searchImageIds)
    Request.execute fun db => db.deleteJobs (JobRef.ofSearchSession searchSessionIds)
    Request.execute fun db =>
      db.deleteFaceSearchImages fun row => searchSessionIds.contains row.searchSessionId
    Request.execute fun db =>
      db.deleteFaceSearchSessions fun row => searchSessionIds.contains row.id
    return searchObjectKeys.flatMap enqueueObjectDeletion

/-- `cleanup_participant_identity_data`. -/
def cleanupParticipantIdentityData (ids : List Uuid) : Request F (List Text) :=
  if ids.isEmpty then return []
  else do
    let searchSessionIds ← Request.query fun db =>
      (db.faceSearchSessions.rows.filter fun row => row.participantId.any ids.contains).map (·.id)
    let searchKeys ← cleanupSearchSessions searchSessionIds
    let faceImages ← Request.query fun db =>
      db.participantFaceImages.rows.filter fun image => ids.contains image.participantId
    let faceImageIds := faceImages.map (·.id)
    Request.execute fun db =>
      db.deleteFaceParticipantMatches fun row => ids.contains row.participantId
    Request.execute fun db =>
      db.deletePhotoParticipantMatches fun row => ids.contains row.participantId
    Request.execute fun db => db.deleteJobs (JobRef.ofParticipant ids)
    Request.execute fun db => db.deleteFaceEmbeddings fun row => ids.contains row.participantId
    executeIf (!faceImageIds.isEmpty) fun db => db.deleteJobs (JobRef.ofFaceImage faceImageIds)
    executeIf (!faceImageIds.isEmpty) fun db =>
      db.deleteFaceEmbeddings fun row => faceImageIds.contains row.faceImageId
    Request.execute fun db => db.deleteFaceImages fun row => ids.contains row.participantId
    return searchKeys ++ faceImages.flatMap fun image => enqueueObjectDeletion image.objectKey

/-- `session.delete(participant)`, with the relationships whose cascade deletes their rows. -/
def deleteParticipantRow (id : Uuid) : Request F Unit :=
  Request.assign fun db =>
    (((((db.deletePhotoParticipantMatches fun row => row.participantId == id).deleteFaceImages
      fun row => row.participantId == id).deleteFaceEmbeddings
      fun row => row.participantId == id).deleteJobs (JobRef.ofParticipant [id]))
      |>.deleteFaceParticipantMatches fun row => row.participantId == id).deleteParticipants
      fun row => row.id == id

/-- `delete_participant`, up to its commit. -/
def deleteParticipant (participant : Participant) : Request F (List Text) := do
  let enqueued ← cleanupParticipantIdentityData [participant.id]
  deleteParticipantRow participant.id
  Request.commit
  return enqueued

/-- `delete_all_participants`, up to its commit. -/
def deleteAllParticipants (eventId : Uuid) : Request F (Nat × List Text) := do
  let participantIds ← Request.query fun db =>
    (db.participants.rows.filter fun p => p.eventId == eventId).map (·.id)
  let enqueued ← cleanupParticipantIdentityData participantIds
  let count ← Request.query fun db =>
    db.participants.rows.countP fun p => p.eventId == eventId
  Request.execute fun db => db.deleteParticipants fun p => p.eventId == eventId
  Request.commit
  return (count, enqueued)

end RaceFrame
