import RaceFrame.Roster.Erasure

/-!
# Removing events

`delete_event`, up to its commit. `session.delete(event)` reaches the rows of the
relationships of the event and, from them, those of their own relationships; the
foreign keys with `ondelete="CASCADE"` reach what else refers to any of these rows.
-/

namespace RaceFrame

open Core

variable {F : Type}

/-- Whether a job has the event in its own column. -/
def JobRef.ofEvent (eventId : Uuid) : JobRef → Bool
  | .photo .. => false
  | .participantFace jobEventId _ _ => jobEventId == eventId
  | .faceSearch jobEventId _ _ => jobEventId == eventId

/-- The keys of the selfies that fall with an event and some participants. -/
def Database.fallenFaceImageIds (db : Database F) (eventId : Uuid) (participantIds : List Uuid) :
    List Uuid :=
  (db.participantFaceImages.rows.filter fun image =>
    image.eventId == eventId || participantIds.contains image.participantId).map (·.id)

/-- The keys of the search sessions that fall with an event and some participants. -/
def Database.fallenSessionIds (db : Database F) (eventId : Uuid) (participantIds : List Uuid) :
    List Uuid :=
  (db.faceSearchSessions.rows.filter fun row =>
    row.eventId == eventId || row.participantId.any participantIds.contains).map (·.id)

/-- The keys of the search images that fall with an event and some sessions. -/
def Database.fallenSearchImageIds (db : Database F) (eventId : Uuid) (sessionIds : List Uuid) :
    List Uuid :=
  (db.faceSearchImages.rows.filter fun image =>
    image.eventId == eventId || sessionIds.contains image.searchSessionId).map (·.id)

/-- The keys of the face detections that fall with an event, some photos and some jobs. -/
def Database.fallenFaceIds (db : Database F) (eventId : Uuid) (photoIds jobIds : List Uuid) :
    List Uuid :=
  (db.photoFaceDetections.rows.filter fun d =>
    d.eventId == eventId || photoIds.contains d.photoId || jobIds.contains d.photoJobId).map (·.id)

/-- The database after `session.delete(event)`. -/
@[simps] def Database.withoutEvent (db : Database F) (eventId : Uuid) : Database F :=
  let participantIds := db.selectedParticipantIds eventId
  let photoIds := (db.photosOf eventId).map (·.id)
  let jobIds := (db.jobs.rows.filter fun job => job.ref.ofPhoto photoIds).map (·.id)
  let faceIds := db.fallenFaceIds eventId photoIds jobIds
  let faceImageIds := db.fallenFaceImageIds eventId participantIds
  let sessionIds := db.fallenSessionIds eventId participantIds
  let searchImageIds := db.fallenSearchImageIds eventId sessionIds
  { participants := db.participants.deleteWhere fun p => p.eventId == eventId
    photos := db.photos.deleteWhere fun photo => photo.eventId == eventId
    jobs := db.jobs.deleteWhere fun job =>
      job.ref.ofEvent eventId || job.ref.ofPhoto photoIds || job.ref.ofParticipant participantIds ||
        job.ref.ofFaceImage faceImageIds || job.ref.ofSearchSession sessionIds ||
          job.ref.ofSearchImage searchImageIds
    photoTextDetections := db.photoTextDetections.filter fun d =>
      !(photoIds.contains d.photoId || jobIds.contains d.photoJobId)
    photoFaceDetections := db.photoFaceDetections.deleteWhere fun d =>
      d.eventId == eventId || photoIds.contains d.photoId || jobIds.contains d.photoJobId
    photoParticipantMatches := db.photoParticipantMatches.deleteWhere fun row =>
      row.eventId == eventId || photoIds.contains row.photoId ||
        participantIds.contains row.participantId
    participantFaceImages := db.participantFaceImages.deleteWhere fun image =>
      image.eventId == eventId || participantIds.contains image.participantId
    participantFaceEmbeddings := db.participantFaceEmbeddings.deleteWhere fun row =>
      row.eventId == eventId || participantIds.contains row.participantId ||
        faceImageIds.contains row.faceImageId
    faceParticipantMatches := db.faceParticipantMatches.deleteWhere fun row =>
      row.eventId == eventId || photoIds.contains row.photoId ||
        faceIds.contains row.photoFaceDetectionId || participantIds.contains row.participantId
    faceSearchSessions := db.faceSearchSessions.deleteWhere fun row =>
      row.eventId == eventId || row.participantId.any participantIds.contains
    faceSearchImages := db.faceSearchImages.deleteWhere fun image =>
      image.eventId == eventId || sessionIds.contains image.searchSessionId
    faceSearchResults := db.faceSearchResults.deleteWhere fun row =>
      row.eventId == eventId || sessionIds.contains row.searchSessionId ||
        photoIds.contains row.photoId || faceIds.contains row.photoFaceDetectionId }

/-- The keys of the search images and the selfies of an event. -/
def Database.eventObjectKeys (db : Database F) (eventId : Uuid) : List Text :=
  (db.faceSearchImages.rows.filter fun image => image.eventId == eventId).map (·.objectKey) ++
    (db.participantFaceImages.rows.filter fun image => image.eventId == eventId).map (·.objectKey)

/-- `delete_event`, up to its commit: the number of keys that it collects and those for which it
enqueues a deletion task. The thumbnail of the event comes last. -/
def deleteEvent (eventId : Uuid) (thumbnailObjectKey : Option Text) :
    Request F (Nat × List Text) := do
  let objectKeys ← Request.query fun db => db.eventObjectKeys eventId
  let objectKeys := objectKeys ++ thumbnailObjectKey.toList
  Request.assign fun db => db.withoutEvent eventId
  Request.commit
  return (objectKeys.length, objectKeys.flatMap enqueueObjectDeletion)

end RaceFrame
