import Mathlib.Data.List.Sort
import RaceFrame.Roster.Erasure

/-!
# Purging searches

`purge_expired_face_searches`, up to its commit. The session rows of this model
have no `expires_at`, so the deadlines are an argument.
-/

namespace RaceFrame

open Core

variable {F : Type}

/-- The sessions that are due: those with the earliest deadlines, `locked` passed over. -/
def Database.dueSearchSessions (db : Database F) (expiresAt : Uuid → ℤ) (locked : Uuid → Bool)
    (now : Instant) (limit : Nat) : List FaceSearchSession :=
  ((db.faceSearchSessions.rows.filter fun row =>
    decide (expiresAt row.id ≤ now) && !locked row.id).insertionSort fun a b =>
      expiresAt a.id ≤ expiresAt b.id).take (max 1 (min limit 5000))

/-- `session.delete(search_session)`, with the relationships whose cascade deletes their rows: the
images with their jobs, the jobs and the results. -/
def deleteSearchSessionRow (id : Uuid) : Request F Unit :=
  Request.assign fun db => db.withoutSearches [id] (db.searchImageIds [id])

/-- The keys of the images of some sessions that get a deletion task, among those loaded. -/
def searchSessionObjectKeys (images : List FaceSearchImage) (sessions : List FaceSearchSession) :
    List Text :=
  sessions.flatMap fun searchSession =>
    (images.filter fun image => image.searchSessionId == searchSession.id).flatMap fun image =>
      enqueueObjectDeletion image.objectKey

/-- `purge_expired_face_searches`, up to its commit. -/
def purgeExpiredFaceSearches (expiresAt : Uuid → ℤ) (locked : Uuid → Bool) (limit : Nat) :
    Request F (Nat × List Text) := do
  let now ← Request.utcNow
  let sessions ← Request.query fun db => db.dueSearchSessions expiresAt locked now limit
  let images ← Request.query fun db => db.faceSearchImages.rows
  sessions.forM fun searchSession => deleteSearchSessionRow searchSession.id
  Request.commit
  return (sessions.length, searchSessionObjectKeys images sessions)

end RaceFrame
