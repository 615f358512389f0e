import RaceFrame.Roster.Deletion

/-!
# Removing photos

`delete_photo`, `delete_all_event_photos` and the cleanup of identity data that
both run first. The photo rows of this model have no `thumbnail_object_key`, so
that column is an argument; what a function returns are again the object keys
for which it enqueues a deletion task.
-/

namespace RaceFrame

open Core

variable {F : Type}

/-! ## Bulk deletes -/

/-- Delete photos. -/
@[simps] def Database.deletePhotos (db : Database F) (p : Photo → Bool) : Database F :=
  { db with photos := db.photos.deleteWhere p }

/-- Delete text detections. -/
@[simps] def Database.deleteTextDetections (db : Database F) (p : PhotoTextDetection F → Bool) :
    Database F :=
  { db with photoTextDetections := db.photoTextDetections.filter fun d => !p d }

/-- Delete face detections. -/
@[simps] def Database.deleteFaceDetections (db : Database F) (p : PhotoFaceDetection F → Bool) :
    Database F :=
  { db with photoFaceDetections := db.photoFaceDetections.deleteWhere p }

/-! ## The cleanup -/

/-- Whether a job belongs to one of the photos. -/
def JobRef.ofPhoto (ids : List Uuid) : JobRef → Bool
  | .photo photoId _ => ids.contains photoId
  | _ => false

/-- `cleanup_photo_identity_data`. -/
def cleanupPhotoIdentityData (ids : List Uuid) : Request F Unit :=
  if ids.isEmpty then return ()
  else do
    let faceDetectionIds ← Request.query fun db =>
      (db.photoFaceDetections.rows.filter fun d => ids.contains d.photoId).map (·.id)
    executeIf (!faceDetectionIds.isEmpty) fun db =>
      db.deleteFaceSearchResults fun row => faceDetectionIds.contains row.photoFaceDetectionId
    executeIf (!faceDetectionIds.isEmpty) fun db =>
      db.deleteFaceParticipantMatches fun row =>
        faceDetectionIds.contains row.photoFaceDetectionId
    Request.execute fun db => db.deleteFaceSearchResults fun row => ids.contains row.photoId
    Request.execute fun db => db.deleteFaceParticipantMatches fun row => ids.contains row.photoId
    Request.execute fun db => db.deletePhotoParticipantMatches fun row => ids.contains row.photoId
    Request.execute fun db => db.deleteTextDetections fun row => ids.contains row.photoId
    Request.execute fun db => db.deleteFaceDetections fun row => ids.contains row.photoId
    Request.execute fun db => db.deleteJobs (JobRef.ofPhoto ids)

/-- The keys of the jobs of a photo. -/
def Database.photoJobIds (db : Database F) (photoId : Uuid) : List Uuid :=
  (db.jobs.rows.filter fun job => job.ref.ofPhoto [photoId]).map (·.id)

/-- The keys of the face detections that `session.delete(photo)` reaches. -/
def Database.cascadedFaceIds (db : Database F) (photoId : Uuid) : List Uuid :=
  (db.photoFaceDetections.rows.filter fun d =>
    d.photoId == photoId || (db.photoJobIds photoId).contains d.photoJobId).map (·.id)

/-- `session.delete(photo)`, with the relationships whose cascade deletes their rows: those of the
photo, of its jobs and of their face detections. -/
def deletePhotoRow (id : Uuid) : Request F Unit :=
  Request.assign fun db =>
    let jobIds := db.photoJobIds id
    let faceIds := db.cascadedFaceIds id
    (((((db.deleteFaceParticipantMatches fun row =>
        row.photoId == id || faceIds.contains row.photoFaceDetectionId).deleteFaceDetections
      fun row => row.photoId == id || jobIds.contains row.photoJobId).deleteTextDetections
      fun row => row.photoId == id || jobIds.contains row.photoJobId).deletePhotoParticipantMatches
      fun row => row.photoId == id).deleteJobs (JobRef.ofPhoto [id])).deletePhotos
      fun row => row.id == id

/-- The keys of the two objects of a photo that get a deletion task. -/
def photoObjectKeys (thumbnailObjectKey : Photo → Option Text) (photo : Photo) : List Text :=
  enqueueObjectDeletion photo.originalObjectKey ++
    (thumbnailObjectKey photo).elim [] enqueueObjectDeletion

/-- `delete_photo`, up to its commit. -/
def deletePhoto (thumbnailObjectKey : Photo → Option Text) (photo : Photo) :
    Request F (List Text) := do
  cleanupPhotoIdentityData [photo.id]
  deletePhotoRow photo.id
  Request.commit
  return photoObjectKeys thumbnailObjectKey photo

/-- `delete_all_event_photos`, up to its commit. -/
def deleteAllEventPhotos (thumbnailObjectKey : Photo → Option Text) (eventId : Uuid) :
    Request F (Nat × List Text) := do
  let photos ← Request.query fun db => db.photos.rows.filter fun photo => photo.eventId == eventId
  cleanupPhotoIdentityData (photos.map (·.id))
  photos.forM fun photo => deletePhotoRow photo.id
  Request.commit
  return (photos.length, photos.flatMap (photoObjectKeys thumbnailObjectKey))

end RaceFrame
