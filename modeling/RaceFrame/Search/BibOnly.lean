import RaceFrame.Search.SeedFaces
import RaceFrame.Worker.Completion

/-!
# Bib-only searches

`create_bib_only_face_search_session` opens a session without a selfie, searches
with the seeds of the participant and completes the session in one request.
-/

namespace RaceFrame

open Core

variable {F : Type} [CeilScalar F]

/-- The session of a bib-only search, as it is added. -/
def bibOnlySession (id eventId : Uuid) (participant : Participant) : FaceSearchSession :=
  ⟨id, eventId, some participant.id, .processing, none⟩

/-- `create_bib_only_face_search_session`: the end of the search. -/
def completeBibOnlySession {F : Type} (searchSession : FaceSearchSession) :
    Request F FaceSearchSession := do
  let finishedAt ← Request.utcNow
  Request.assign fun db => db.updateSearchSession searchSession.id fun stored =>
    { stored with status := .completed, finishedAt := some finishedAt }
  Request.commit
  return { searchSession with status := .completed, finishedAt := some finishedAt }

/-- `create_bib_only_face_search_session`: the searches of an open session. -/
def searchBibOnly (parseFloat : Text → Option F) (cfg : SeedSettings F)
    (candidatePhotos : Database F → List (LoadedPhoto F)) (participant : Participant)
    (searchSession : FaceSearchSession) : Request F (FaceSearchSession × Nat) := do
  let loaded ← Request.query candidatePhotos
  let seedEmbeddings ← Request.ofExcept
    (selectBibOnlySeedEmbeddings parseFloat cfg loaded participant.bibNumber)
  (seedEmbeddings.take 3).forM fun embedding => discard
    (createFaceSearchResults cfg.toSettings searchSession.eventId searchSession.id embedding)
  if !seedEmbeddings.isEmpty then
    discard (applyAdaptiveReinforcement cfg.toSettings searchSession true)
  let completed ← completeBibOnlySession searchSession
  return (completed, seedEmbeddings.length)

/-- `create_bib_only_face_search_session`, over the query for the candidate photos. -/
def createBibOnlyFaceSearchSession (parseFloat : Text → Option F) (cfg : SeedSettings F)
    (candidatePhotos : Database F → List (LoadedPhoto F)) (eventId : Uuid)
    (participant : Participant) : Request F (FaceSearchSession × Nat) := do
  discard Request.utcNow
  let id ← Request.uuid4
  let searchSession := bibOnlySession id eventId participant
  let rows ← Request.ofOption .integrityError
    (← Request.loaded fun db => db.faceSearchSessions.insert? searchSession)
  Request.assign fun db => { db with faceSearchSessions := rows }
  Request.flush
  searchBibOnly parseFloat cfg candidatePhotos participant searchSession

end RaceFrame
