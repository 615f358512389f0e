import RaceFrame.Matching.EvidenceRuns
import RaceFrame.Matching.FaceScores

/-!
# Joining faces with embeddings

Enrolments and face scans arrive in any order, each job once. An enrolment
matches its participant with every stored face; a scan stores its faces and
matches them with nobody. So the matches are the full join of the stored faces
with the enrolled embeddings exactly when every face that reaches the threshold
for a participant is followed by an enrolment of that participant.
-/

namespace RaceFrame

open Core

variable {F : Type} [Scalar F]

/-- The completions of face jobs. -/
inductive FaceCompletion (F : Type)
  | enrol (job : Job F) (eventId participantId faceImageId : Uuid) (result : EmbeddingResult F)
  | scan (job : Job F) (photoId : Uuid) (faceDetections : List (FaceDetectionPayload F))
      (rawResponseJson : Option (JsonDict F))

/-- A similarity is recorded for a face and a participant. -/
def Database.FaceMatched (db : Database F) (detectionId participantId : Uuid) (similarity : F) :
    Prop :=
  ∃ row ∈ db.faceParticipantMatches.rows, row.photoFaceDetectionId = detectionId ∧
    row.participantId = participantId ∧ row.similarityScore = similarity

/-- A photo is matched with a participant. -/
def Database.PhotoMatched (db : Database F) (photoId participantId : Uuid) (source : MatchSource)
    (confidence : Option F) : Prop :=
  ∃ row ∈ db.photoParticipantMatches.rows, row.photoId = photoId ∧
    row.participantId = participantId ∧ row.matchSource = source ∧ row.confidence = confidence

/-- Two databases have the same matches. -/
structure Database.SameMatches (db db' : Database F) : Prop where
  faces : ∀ detectionId participantId similarity,
    db.FaceMatched detectionId participantId similarity ↔
      db'.FaceMatched detectionId participantId similarity
  photos : ∀ photoId participantId source confidence,
    db.PhotoMatched photoId participantId source confidence ↔
      db'.PhotoMatched photoId participantId source confidence

/-- The matches are the full join: one face match for every stored face and every participant whose
best embedding reaches the threshold, and one match for every photo and participant with such a
face, with the best similarity. -/
structure Database.FacesJoined (cfg : Settings F) (db : Database F) : Prop where
  faces : ∀ detectionId participantId similarity,
    db.FaceMatched detectionId participantId similarity ↔
      ∃ detection ∈ db.photoFaceDetections.rows, detection.id = detectionId ∧
        db.bestScore cfg detection participantId = some similarity
  photos : ∀ photoId participantId source confidence,
    db.PhotoMatched photoId participantId source confidence ↔
      source = .face ∧ ∃ best, confidence = some best ∧
        IsGreatest {similarity | ∃ detection ∈ db.photoFaceDetections.rows,
          detection.photoId = photoId ∧
            db.bestScore cfg detection participantId = some similarity} best

/-! ## Orders of completions -/

namespace FaceCompletion

/-- The completion of a job, and what it leaves committed. -/
def serve (cfg : Settings F) (world : World) (db : Database F) :
    FaceCompletion F → Except Raised Unit × Database F
  | enrol job eventId participantId faceImageId result => Request.serve world
    (completeParticipantFaceJob cfg job eventId participantId faceImageId result) db
  | scan job photoId faceDetections rawResponseJson => Request.serve world
    (completePhotoFaceJob job photoId faceDetections rawResponseJson) db

omit [Scalar F] in
/-- The completion enrols a participant of an event. -/
def Enrols (eventId participantId : Uuid) : FaceCompletion F → Prop
  | enrol _ eventId' participantId' _ _ => eventId' = eventId ∧ participantId' = participantId
  | scan .. => False

omit [Scalar F] in
/-- The photo job of a scan. -/
def photoJobId? : FaceCompletion F → Option Uuid
  | enrol .. => none
  | scan job .. => some job.id

/-- The completions are committed one after the other. -/
def Committed (cfg : Settings F) : Database F → List (World × FaceCompletion F) → Prop
  | _, [] => True
  | db, step :: steps => (step.2.serve cfg step.1 db).1 = .ok () ∧
    Committed cfg (step.2.serve cfg step.1 db).2 steps

/-- The database after the completions. -/
def run (cfg : Settings F) (db : Database F) (steps : List (World × FaceCompletion F)) :
    Database F :=
  steps.foldl (fun db step => (step.2.serve cfg step.1 db).2) db

omit [Scalar F] in
/-- The photo jobs of the scans. -/
def scanJobIds (steps : List (World × FaceCompletion F)) : List Uuid :=
  steps.filterMap fun step => step.2.photoJobId?

/-- A face of a scan that reaches the threshold with a stored embedding of its event is followed by
an enrolment of the participant. -/
def Followed (cfg : Settings F) (db : Database F) (later : List (World × FaceCompletion F)) :
    FaceCompletion F → Prop
  | enrol .. => True
  | scan _ photoId faceDetections _ => ∀ photo, db.photos.get? photoId = some photo →
    ∀ face ∈ usableFaces faceDetections, ∀ e ∈ db.participantFaceEmbeddings.rows,
      e.eventId = photo.eventId →
        cfg.faceMatchSimilarityThreshold ≤
            cosineSimilarity (normalizeEmbeddingPayload face.embedding) e.embeddingJson →
          ∃ step ∈ later, step.2.Enrols photo.eventId e.participantId

/-- The faces of all scans are followed by the enrolments of the participants whom they reach. -/
def FacesFollowed (cfg : Settings F) : Database F → List (World × FaceCompletion F) → Prop
  | _, [] => True
  | db, step :: steps => step.2.Followed cfg db steps ∧
    FacesFollowed cfg (step.2.serve cfg step.1 db).2 steps

end FaceCompletion

/-! ## The invariant -/

/-- Which pairs of a face and a participant are missed, because the face was stored after the last
enrolment of the participant. The other pairs are joined. -/
structure Database.FacesMatched (cfg : Settings F) (db : Database F)
    (missed : Uuid → Uuid → Prop) : Prop where
  sound : db.EvidenceSound
  faceOnly : ∀ key row, db.photoParticipantMatches.get? key = some row → row.matchSource = .face
  stored : ∀ row ∈ db.faceParticipantMatches.rows,
    row.photoFaceDetectionId ∈ db.photoFaceDetections.rows.map PhotoFaceDetection.id
  hit : ∀ detection ∈ db.photoFaceDetections.rows, ∀ participantId,
    ¬missed detection.id participantId →
      scoreOf db.faceParticipantMatches (detection.id, participantId) =
        db.bestScore cfg detection participantId
  miss : ∀ detection ∈ db.photoFaceDetections.rows, ∀ participantId,
    missed detection.id participantId →
      scoreOf db.faceParticipantMatches (detection.id, participantId) = none

namespace Database.FacesMatched

variable {cfg : Settings F} {db : Database F} {missed : Uuid → Uuid → Prop}

/-- A recorded similarity is one of those that reach the threshold. -/
theorem reached (h : db.FacesMatched cfg missed) {detection : PhotoFaceDetection F}
    (hdetection : detection ∈ db.photoFaceDetections.rows) {participantId : Uuid} {score : F}
    (hscore : scoreOf db.faceParticipantMatches (detection.id, participantId) = some score) :
    ¬missed detection.id participantId ∧
      db.bestScore cfg detection participantId = some score := by
  by_cases hmissed : missed detection.id participantId
  · rw [h.miss detection hdetection participantId hmissed] at hscore
    cases hscore
  · exact ⟨hmissed, (h.hit detection hdetection participantId hmissed).symm.trans hscore⟩

/-- Where no missed face reaches the threshold, the matches are the full join. -/
theorem joined (h : db.FacesMatched cfg missed)
    (hnone : ∀ detection ∈ db.photoFaceDetections.rows, ∀ participantId,
      missed detection.id participantId → db.reachedScores cfg detection participantId = []) :
    db.FacesJoined cfg := by
  have hfaces : ∀ detectionId participantId similarity,
      db.FaceMatched detectionId participantId similarity ↔
        ∃ detection ∈ db.photoFaceDetections.rows, detection.id = detectionId ∧
          db.bestScore cfg detection participantId = some similarity := by
    intro detectionId participantId similarity
    rw [Database.FaceMatched, ← scoreOf_eq_some_iff]
    constructor
    · intro hscore
      obtain ⟨row, hrow, rfl, -, -⟩ := scoreOf_eq_some_iff.mp hscore
      obtain ⟨detection, hdetection, hid⟩ := List.mem_map.mp (h.stored row hrow)
      rw [← hid] at hscore ⊢
      exact ⟨detection, hdetection, rfl, (h.reached hdetection hscore).2⟩
    · rintro ⟨detection, hdetection, rfl, hbest⟩
      rw [h.hit detection hdetection participantId, hbest]
      intro hmissed
      rw [Database.bestScore, hnone detection hdetection participantId hmissed] at hbest
      cases hbest
  have hevidence : ∀ photoId participantId similarity,
      FaceEvidence db.faceParticipantMatches (photoId, participantId) similarity ↔
        ∃ detection ∈ db.photoFaceDetections.rows, detection.photoId = photoId ∧
          db.bestScore cfg detection participantId = some similarity := by
    intro photoId participantId similarity
    constructor
    · rintro ⟨row, hrow, hkey, hscore⟩
      obtain ⟨hphoto, hparticipant⟩ := Prod.ext_iff.mp hkey
      obtain ⟨detection, hdetection, hid, hbest⟩ :=
        (hfaces row.photoFaceDetectionId participantId similarity).mp
          ⟨row, hrow, rfl, hparticipant, hscore⟩
      exact ⟨detection, hdetection,
        (h.sound.detected detection hdetection row hrow hid.symm).symm.trans hphoto, hbest⟩
    · rintro ⟨detection, hdetection, rfl, hbest⟩
      obtain ⟨row, hrow, hid, hparticipant, hscore⟩ :=
        (hfaces detection.id participantId similarity).mpr ⟨detection, hdetection, rfl, hbest⟩
      exact ⟨row, hrow,
        Prod.ext (h.sound.detected detection hdetection row hrow hid) hparticipant, hscore⟩
  refine ⟨hfaces, fun photoId participantId source confidence => ?_⟩
  simp only [← hevidence]
  constructor
  · rintro ⟨row, hrow, rfl, rfl, rfl, rfl⟩
    have hget := Table.mem_iff_get?.mp hrow
    have hface := h.faceOnly row.key row hget
    obtain ⟨c, hc, hrecorded⟩ := h.sound.unmixed row.key row hget hface
    exact ⟨hface, c, hc, hrecorded, fun other hother =>
      h.sound.backed.le_confidence hget hc hother⟩
  · rintro ⟨rfl, best, rfl, hbest, hgreatest⟩
    obtain ⟨row, c, hrow, -, hc, hle⟩ := h.sound.backed.recorded _ best hbest
    obtain ⟨hmem, hkey⟩ := Table.get?_eq_some_iff.mp hrow
    have hface := h.faceOnly _ row hrow
    obtain ⟨c', hc', hrecorded⟩ := h.sound.unmixed _ row hrow hface
    have hsame : c' = c := Option.some.inj (hc'.symm.trans hc)
    rw [hsame] at hrecorded
    rw [le_antisymm hle (hgreatest hrecorded)]
    exact ⟨row, hmem, congrArg Prod.fst hkey, congrArg Prod.snd hkey, hface, hc⟩

/-- A missed face that reaches the threshold is missing from the join. -/
theorem not_reached_of_joined (h : db.FacesMatched cfg missed) (hjoined : db.FacesJoined cfg)
    {detection : PhotoFaceDetection F} (hdetection : detection ∈ db.photoFaceDetections.rows)
    {participantId : Uuid} (hmissed : missed detection.id participantId) :
    db.reachedScores cfg detection participantId = [] := by
  rw [← List.max?_eq_none_iff, Option.eq_none_iff_forall_ne_some]
  intro best hbest
  have hrow := scoreOf_eq_some_iff.mpr ((hjoined.faces detection.id participantId best).mpr
    ⟨detection, hdetection, rfl, hbest⟩)
  rw [h.miss detection hdetection participantId hmissed] at hrow
  cases hrow

end Database.FacesMatched

end RaceFrame
