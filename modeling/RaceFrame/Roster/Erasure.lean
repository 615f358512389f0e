import RaceFrame.Core.Erasure
import RaceFrame.Upload.Removal

/-!
# What the deletions erase

The traces of a set of participants and of a set of photos: the rows that refer
to them, directly or through a search session, a selfie, a job or a face. The
four deletions erase exactly these traces and leave every other row as it is.
-/

namespace RaceFrame

open Core

variable {F : Type}

/-! ## Traces -/

/-- The rows that are to be erased. -/
structure Traces (F : Type) where
  participant : Participant → Prop
  photo : Photo → Prop
  job : Job F → Prop
  textDetection : PhotoTextDetection F → Prop
  faceDetection : PhotoFaceDetection F → Prop
  photoMatch : PhotoParticipantMatch F → Prop
  faceImage : ParticipantFaceImage → Prop
  embedding : ParticipantFaceEmbedding F → Prop
  faceMatch : FaceParticipantMatch F → Prop
  searchSession : FaceSearchSession → Prop
  searchImage : FaceSearchImage → Prop
  searchResult : FaceSearchResult F → Prop

/-- The traces are gone and every other row is unchanged. -/
structure Traces.ErasedFrom (traces : Traces F) (db db' : Database F) : Prop where
  participants : Erased traces.participant db.participants.rows db'.participants.rows
  photos : Erased traces.photo db.photos.rows db'.photos.rows
  jobs : Erased traces.job db.jobs.rows db'.jobs.rows
  textDetections : Erased traces.textDetection db.photoTextDetections db'.photoTextDetections
  faceDetections :
    Erased traces.faceDetection db.photoFaceDetections.rows db'.photoFaceDetections.rows
  photoMatches :
    Erased traces.photoMatch db.photoParticipantMatches.rows db'.photoParticipantMatches.rows
  faceImages : Erased traces.faceImage db.participantFaceImages.rows db'.participantFaceImages.rows
  embeddings :
    Erased traces.embedding db.participantFaceEmbeddings.rows db'.participantFaceEmbeddings.rows
  faceMatches :
    Erased traces.faceMatch db.faceParticipantMatches.rows db'.faceParticipantMatches.rows
  searchSessions :
    Erased traces.searchSession db.faceSearchSessions.rows db'.faceSearchSessions.rows
  searchImages : Erased traces.searchImage db.faceSearchImages.rows db'.faceSearchImages.rows
  searchResults : Erased traces.searchResult db.faceSearchResults.rows db'.faceSearchResults.rows

/-- The identifiers of the search sessions of some participants. -/
def Database.SessionOf (db : Database F) (ids : Set Uuid) (sessionId : Uuid) : Prop :=
  ∃ row ∈ db.faceSearchSessions.rows, row.id = sessionId ∧ ∃ id ∈ ids, row.participantId = some id

/-- The identifiers of the search images of some participants. -/
def Database.SearchImageOf (db : Database F) (ids : Set Uuid) (imageId : Uuid) : Prop :=
  ∃ image ∈ db.faceSearchImages.rows, image.id = imageId ∧ db.SessionOf ids image.searchSessionId

/-- The identifiers of the selfies of some participants. -/
def Database.FaceImageOf (db : Database F) (ids : Set Uuid) (imageId : Uuid) : Prop :=
  ∃ image ∈ db.participantFaceImages.rows, image.id = imageId ∧ image.participantId ∈ ids

/-- A job refers to one of some participants. -/
def Database.JobOfParticipants (db : Database F) (ids : Set Uuid) : JobRef → Prop
  | .photo .. => False
  | .participantFace _ participantId imageId => participantId ∈ ids ∨ db.FaceImageOf ids imageId
  | .faceSearch _ sessionId imageId => db.SessionOf ids sessionId ∨ db.SearchImageOf ids imageId

/-- Everything that refers to one of some participants. -/
def Database.participantTraces (db : Database F) (ids : Set Uuid) : Traces F where
  participant row := row.id ∈ ids
  photo _ := False
  job row := db.JobOfParticipants ids row.ref
  textDetection _ := False
  faceDetection _ := False
  photoMatch row := row.participantId ∈ ids
  faceImage row := row.participantId ∈ ids
  embedding row := row.participantId ∈ ids ∨ db.FaceImageOf ids row.faceImageId
  faceMatch row := row.participantId ∈ ids
  searchSession row := ∃ id ∈ ids, row.participantId = some id
  searchImage row := db.SessionOf ids row.searchSessionId
  searchResult row := db.SessionOf ids row.searchSessionId

/-- A job of one of some photos. -/
def JobRef.OfPhotos (ids : Set Uuid) : JobRef → Prop
  | .photo photoId _ => photoId ∈ ids
  | .participantFace .. => False
  | .faceSearch .. => False

/-- The identifiers of the jobs of some photos. -/
def Database.JobIdOf (db : Database F) (ids : Set Uuid) (jobId : Uuid) : Prop :=
  ∃ job ∈ db.jobs.rows, job.id = jobId ∧ job.ref.OfPhotos ids

/-- The identifiers of the face detections of some photos. -/
def Database.FaceOf (db : Database F) (ids : Set Uuid) (faceId : Uuid) : Prop :=
  ∃ row ∈ db.photoFaceDetections.rows, row.id = faceId ∧
    (row.photoId ∈ ids ∨ db.JobIdOf ids row.photoJobId)

/-- Everything that refers to one of some photos. -/
def Database.photoTraces (db : Database F) (ids : Set Uuid) : Traces F where
  participant _ := False
  photo row := row.id ∈ ids
  job row := row.ref.OfPhotos ids
  textDetection row := row.photoId ∈ ids ∨ db.JobIdOf ids row.photoJobId
  faceDetection row := row.photoId ∈ ids ∨ db.JobIdOf ids row.photoJobId
  photoMatch row := row.photoId ∈ ids
  faceImage _ := False
  embedding _ := False
  faceMatch row := row.photoId ∈ ids ∨ db.FaceOf ids row.photoFaceDetectionId
  searchSession _ := False
  searchImage _ := False
  searchResult row := row.photoId ∈ ids ∨ db.FaceOf ids row.photoFaceDetectionId

/-- Detections and their jobs agree on the photo they belong to. -/
structure Database.DetectionsAgree (db : Database F) : Prop where
  text : ∀ row ∈ db.photoTextDetections, ∀ job ∈ db.jobs.rows, job.id = row.photoJobId →
    ∀ photoId jobType, job.ref = .photo photoId jobType → photoId = row.photoId
  face : ∀ row ∈ db.photoFaceDetections.rows, ∀ job ∈ db.jobs.rows, job.id = row.photoJobId →
    ∀ photoId jobType, job.ref = .photo photoId jobType → photoId = row.photoId

/-! ## Participants -/

/-- The database after `cleanupSearchSessions`. -/
@[simps!] def Database.withoutSearches (db : Database F) (sessionIds imageIds : List Uuid) :
    Database F :=
  ((((db.deleteFaceSearchResults fun row => sessionIds.contains row.searchSessionId).deleteJobs
    (JobRef.ofSearchImage imageIds)).deleteJobs (JobRef.ofSearchSession sessionIds))
    |>.deleteFaceSearchImages fun row => sessionIds.contains row.searchSessionId)
    |>.deleteFaceSearchSessions fun row => sessionIds.contains row.id

/-- The database after the rest of `cleanup_participant_identity_data`. -/
@[simps!] def Database.withoutFaces (db : Database F) (ids imageIds : List Uuid) : Database F :=
  ((((((db.deleteFaceParticipantMatches fun row => ids.contains row.participantId)
    |>.deletePhotoParticipantMatches fun row => ids.contains row.participantId)
    |>.deleteJobs (JobRef.ofParticipant ids))
    |>.deleteFaceEmbeddings fun row => ids.contains row.participantId)
    |>.deleteJobs (JobRef.ofFaceImage imageIds))
    |>.deleteFaceEmbeddings fun row => imageIds.contains row.faceImageId)
    |>.deleteFaceImages fun row => ids.contains row.participantId

private theorem execute_execute (f g : Database F → Database F) (s : Session F) :
    (s.execute f).execute g = s.execute fun db => g (f db) := rfl

/-- A delete that is skipped would have selected nothing. -/
private theorem run_executeIf {condition : Bool} {f : Database F → Database F} {s : Session F}
    (h : condition = false → ∀ db, f db = db) :
    (executeIf condition f).run s = (.ok (), s.execute f) := by
  cases condition with
  | true => rfl
  | false =>
    have hs : s.execute f = s := by
      rw [Session.execute, h rfl, h rfl]
    rw [hs]
    rfl

private theorem deleteJobs_of_none {db : Database F} {p : JobRef → Bool}
    (h : ∀ ref, p ref = false) : db.deleteJobs p = db := by
  rw [Database.deleteJobs, Table.deleteWhere_of_none fun job _ => h job.ref]

private theorem ofSearchImage_nil (ref : JobRef) : ref.ofSearchImage [] = false := by
  cases ref <;> rfl

private theorem ofSearchSession_nil (ref : JobRef) : ref.ofSearchSession [] = false := by
  cases ref <;> rfl

private theorem ofParticipant_nil (ref : JobRef) : ref.ofParticipant [] = false := by
  cases ref <;> rfl

private theorem ofFaceImage_nil (ref : JobRef) : ref.ofFaceImage [] = false := by
  cases ref <;> rfl

private theorem ofPhoto_nil (ref : JobRef) : ref.ofPhoto [] = false := by
  cases ref <;> rfl

private theorem deleteFaceSearchResults_nil (db : Database F) (f : FaceSearchResult F → Uuid) :
    (db.deleteFaceSearchResults fun row => [].contains (f row)) = db := by
  rw [Database.deleteFaceSearchResults, Table.deleteWhere_contains_nil]

private theorem deleteFaceParticipantMatches_nil (db : Database F)
    (f : FaceParticipantMatch F → Uuid) :
    (db.deleteFaceParticipantMatches fun row => [].contains (f row)) = db := by
  rw [Database.deleteFaceParticipantMatches, Table.deleteWhere_contains_nil]

private theorem deletePhotoParticipantMatches_nil (db : Database F)
    (f : PhotoParticipantMatch F → Uuid) :
    (db.deletePhotoParticipantMatches fun row => [].contains (f row)) = db := by
  rw [Database.deletePhotoParticipantMatches, Table.deleteWhere_contains_nil]

private theorem deleteFaceEmbeddings_nil (db : Database F)
    (f : ParticipantFaceEmbedding F → Uuid) :
    (db.deleteFaceEmbeddings fun row => [].contains (f row)) = db := by
  rw [Database.deleteFaceEmbeddings, Table.deleteWhere_contains_nil]

private theorem eq_nil_of_not_isEmpty {ids : List Uuid} (h : (!ids.isEmpty) = false) :
    ids = [] := by
  simpa using h

private theorem deleteJobs_ofSearchImage {ids : List Uuid} (h : (!ids.isEmpty) = false)
    (db : Database F) : db.deleteJobs (JobRef.ofSearchImage ids) = db := by
  rw [eq_nil_of_not_isEmpty h, deleteJobs_of_none ofSearchImage_nil]

private theorem deleteJobs_ofFaceImage {ids : List Uuid} (h : (!ids.isEmpty) = false)
    (db : Database F) : db.deleteJobs (JobRef.ofFaceImage ids) = db := by
  rw [eq_nil_of_not_isEmpty h, deleteJobs_of_none ofFaceImage_nil]

private theorem deleteFaceEmbeddings_ofFaceImage {ids : List Uuid} (h : (!ids.isEmpty) = false)
    (db : Database F) :
    (db.deleteFaceEmbeddings fun row => ids.contains row.faceImageId) = db := by
  rw [eq_nil_of_not_isEmpty h, deleteFaceEmbeddings_nil]

private theorem withoutSearches_nil (db : Database F) : db.withoutSearches [] [] = db := by
  rw [Database.withoutSearches, deleteFaceSearchResults_nil, deleteJobs_of_none ofSearchImage_nil,
    deleteJobs_of_none ofSearchSession_nil, Database.deleteFaceSearchImages,
    Table.deleteWhere_contains_nil, Database.deleteFaceSearchSessions,
    Table.deleteWhere_contains_nil]

private theorem withoutFaces_nil (db : Database F) : db.withoutFaces [] [] = db := by
  rw [Database.withoutFaces, deleteFaceParticipantMatches_nil, deletePhotoParticipantMatches_nil,
    deleteJobs_of_none ofParticipant_nil, deleteFaceEmbeddings_nil,
    deleteJobs_of_none ofFaceImage_nil, deleteFaceEmbeddings_nil, Database.deleteFaceImages,
    Table.deleteWhere_contains_nil]

/-- The identifiers that `cleanup_participant_identity_data` selects first. -/
def Database.searchSessionIds (db : Database F) (ids : List Uuid) : List Uuid :=
  (db.faceSearchSessions.rows.filter fun row => row.participantId.any ids.contains).map (·.id)

/-- The identifiers of the images of some sessions. -/
def Database.searchImageIds (db : Database F) (sessionIds : List Uuid) : List Uuid :=
  (db.faceSearchImages.rows.filter fun image =>
    sessionIds.contains image.searchSessionId).map (·.id)

/-- The identifiers of the selfies that `cleanup_participant_identity_data` selects. -/
def Database.faceImageIds (db : Database F) (ids : List Uuid) : List Uuid :=
  (db.participantFaceImages.rows.filter fun image => ids.contains image.participantId).map (·.id)

/-- The keys of the images of some sessions. -/
def Database.searchObjectKeys (db : Database F) (sessionIds : List Uuid) : List Text :=
  (db.faceSearchImages.rows.filter fun image =>
    sessionIds.contains image.searchSessionId).map (·.objectKey)

/-- The keys of the objects that `cleanup_participant_identity_data` collects. -/
def Database.identityObjectKeys (db : Database F) (ids : List Uuid) : List Text :=
  db.searchObjectKeys (db.searchSessionIds ids) ++
    (db.participantFaceImages.rows.filter fun image =>
      ids.contains image.participantId).map (·.objectKey)

private theorem cleanupSearchSessions_run (s : Session F) (sessionIds : List Uuid) :
    (cleanupSearchSessions sessionIds).run s =
      (.ok ((s.flushed.searchObjectKeys sessionIds).flatMap enqueueObjectDeletion),
        s.execute fun db =>
          db.withoutSearches sessionIds (s.flushed.searchImageIds sessionIds)) := by
  by_cases hempty : sessionIds = []
  · subst hempty
    have hnone : s.flushed.searchImageIds [] = [] := by
      simp [Database.searchImageIds]
    have hkeys : s.flushed.searchObjectKeys [] = [] := by
      simp [Database.searchObjectKeys]
    rw [hnone, hkeys]
    simp only [withoutSearches_nil]
    rfl
  · unfold cleanupSearchSessions
    rw [if_neg (by simpa using hempty)]
    simp only [Request.run_query_bind, Request.run_execute_bind]
    rw [Program.run_bind_ok (run_executeIf deleteJobs_ofSearchImage)]
    rfl

/-- The database after `cleanup_participant_identity_data`. -/
def Database.withoutIdentity (db : Database F) (ids : List Uuid) : Database F :=
  (db.withoutSearches (db.searchSessionIds ids)
    (db.searchImageIds (db.searchSessionIds ids))).withoutFaces ids (db.faceImageIds ids)

private theorem cleanupParticipantIdentityData_run (s : Session F) (ids : List Uuid) :
    (cleanupParticipantIdentityData ids).run s =
      (.ok ((s.flushed.identityObjectKeys ids).flatMap enqueueObjectDeletion),
        s.execute fun db =>
          (db.withoutSearches (s.flushed.searchSessionIds ids)
            (s.flushed.searchImageIds (s.flushed.searchSessionIds ids))).withoutFaces ids
              (s.flushed.faceImageIds ids)) := by
  by_cases hempty : ids = []
  · subst hempty
    have hsessions : s.flushed.searchSessionIds [] = [] := by
      rw [Database.searchSessionIds, List.map_eq_nil_iff, List.filter_eq_nil_iff]
      intro row _
      cases row.participantId <;> simp
    have himages : s.flushed.searchImageIds [] = [] := by
      simp [Database.searchImageIds]
    have hfaces : s.flushed.faceImageIds [] = [] := by
      simp [Database.faceImageIds]
    have hkeys : s.flushed.identityObjectKeys [] = [] := by
      simp [Database.identityObjectKeys, hsessions, Database.searchObjectKeys]
    rw [hsessions, himages, hfaces, hkeys]
    simp only [withoutSearches_nil, withoutFaces_nil]
    rfl
  · unfold cleanupParticipantIdentityData
    rw [if_neg (by simpa using hempty)]
    simp only [Request.run_query_bind]
    refine (Program.run_bind_ok
      (cleanupSearchSessions_run s (s.flushed.searchSessionIds ids))).trans ?_
    simp only [Request.run_query_bind, Request.run_execute_bind, Session.execute_flushed,
      Database.withoutSearches_participantFaceImages]
    rw [Program.run_bind_ok (run_executeIf deleteJobs_ofFaceImage)]
    rw [Program.run_bind_ok (run_executeIf deleteFaceEmbeddings_ofFaceImage)]
    simp only [Request.run_execute_bind, Program.run_pure, execute_execute, Database.withoutFaces,
      Database.faceImageIds, Database.identityObjectKeys, List.flatMap_append, List.flatMap_map]

private theorem mem_searchSessionIds {db : Database F} {ids : List Uuid} {sessionId : Uuid} :
    sessionId ∈ db.searchSessionIds ids ↔ db.SessionOf {id | id ∈ ids} sessionId := by
  simp only [Database.searchSessionIds, Database.SessionOf, List.mem_map, List.mem_filter,
    Option.any_eq_true, List.contains_iff_mem, Set.mem_ofPred_eq]
  constructor
  · rintro ⟨row, ⟨hrow, id, hid, hmem⟩, heq⟩
    exact ⟨row, hrow, heq, id, hmem, hid⟩
  · rintro ⟨row, hrow, heq, id, hmem, hid⟩
    exact ⟨row, ⟨hrow, id, hid, hmem⟩, heq⟩

private theorem mem_searchImageIds {db : Database F} {ids : List Uuid} {imageId : Uuid} :
    imageId ∈ db.searchImageIds (db.searchSessionIds ids) ↔
      db.SearchImageOf {id | id ∈ ids} imageId := by
  simp only [Database.searchImageIds, Database.SearchImageOf, List.mem_map, List.mem_filter,
    List.contains_iff_mem, mem_searchSessionIds]
  constructor
  · rintro ⟨image, ⟨himage, hsession⟩, heq⟩
    exact ⟨image, himage, heq, hsession⟩
  · rintro ⟨image, himage, heq, hsession⟩
    exact ⟨image, ⟨himage, hsession⟩, heq⟩

private theorem mem_faceImageIds {db : Database F} {ids : List Uuid} {imageId : Uuid} :
    imageId ∈ db.faceImageIds ids ↔ db.FaceImageOf {id | id ∈ ids} imageId := by
  simp only [Database.faceImageIds, Database.FaceImageOf, List.mem_map, List.mem_filter,
    List.contains_iff_mem, Set.mem_ofPred_eq]
  constructor
  · rintro ⟨image, ⟨himage, hmem⟩, heq⟩
    exact ⟨image, himage, heq, hmem⟩
  · rintro ⟨image, himage, heq, hmem⟩
    exact ⟨image, ⟨himage, hmem⟩, heq⟩

/-- The four job deletes of the cleanup together select the jobs of the participants. -/
private theorem selectsJob_iff {db : Database F} {ids : List Uuid} {ref : JobRef} :
    (!ref.ofSearchImage (db.searchImageIds (db.searchSessionIds ids)) &&
      !ref.ofSearchSession (db.searchSessionIds ids) && !ref.ofParticipant ids &&
      !ref.ofFaceImage (db.faceImageIds ids)) = true ↔
        ¬ db.JobOfParticipants {id | id ∈ ids} ref := by
  cases ref with
  | photo photoId jobType =>
    simp [JobRef.ofSearchImage, JobRef.ofSearchSession, JobRef.ofParticipant, JobRef.ofFaceImage,
      Database.JobOfParticipants]
  | participantFace eventId participantId imageId =>
    simp [JobRef.ofSearchImage, JobRef.ofSearchSession, JobRef.ofParticipant, JobRef.ofFaceImage,
      Database.JobOfParticipants, mem_faceImageIds]
  | faceSearch eventId sessionId imageId =>
    simp [JobRef.ofSearchImage, JobRef.ofSearchSession, JobRef.ofParticipant, JobRef.ofFaceImage,
      Database.JobOfParticipants, mem_searchSessionIds, mem_searchImageIds, and_comm]

/-- The cleanup erases everything but the participants themselves. -/
private theorem withoutIdentity_erases (db : Database F) (ids : List Uuid) :
    ({ db.participantTraces {id | id ∈ ids} with participant := fun _ => False }).ErasedFrom db
      (db.withoutIdentity ids) where
  participants := by
    simp only [Database.withoutIdentity, Database.withoutFaces_participants,
      Database.withoutSearches_participants]
    exact Erased.of_none fun _ _ h => h
  photos := by
    simp only [Database.withoutIdentity, Database.withoutFaces_photos,
      Database.withoutSearches_photos]
    exact Erased.of_none fun _ _ h => h
  textDetections := by
    simp only [Database.withoutIdentity, Database.withoutFaces_photoTextDetections,
      Database.withoutSearches_photoTextDetections]
    exact Erased.of_none fun _ _ h => h
  faceDetections := by
    simp only [Database.withoutIdentity, Database.withoutFaces_photoFaceDetections,
      Database.withoutSearches_photoFaceDetections]
    exact Erased.of_none fun _ _ h => h
  jobs := by
    simp only [Database.withoutIdentity, Database.withoutFaces_jobs_rows,
      Database.withoutSearches_jobs_rows, Table.deleteWhere, List.filter_filter]
    refine Erased.of_filter fun job _ => ?_
    change _ ↔ ¬ db.JobOfParticipants {id | id ∈ ids} job.ref
    rw [← selectsJob_iff]
    simp only [Bool.and_eq_true]
    tauto
  photoMatches := by
    rw [Database.withoutIdentity, Database.withoutFaces_photoParticipantMatches_rows]
    refine Erased.of_filter fun row _ => ?_
    simp [Database.participantTraces]
  faceImages := by
    rw [Database.withoutIdentity, Database.withoutFaces_participantFaceImages_rows]
    refine Erased.of_filter fun row _ => ?_
    simp [Database.participantTraces]
  embeddings := by
    simp only [Database.withoutIdentity, Database.withoutFaces_participantFaceEmbeddings_rows,
      Table.deleteWhere, List.filter_filter, Database.withoutSearches_participantFaceEmbeddings]
    refine Erased.of_filter fun row _ => ?_
    simp [Database.participantTraces, mem_faceImageIds, and_comm]
  faceMatches := by
    rw [Database.withoutIdentity, Database.withoutFaces_faceParticipantMatches_rows]
    refine Erased.of_filter fun row _ => ?_
    simp [Database.participantTraces]
  searchSessions := by
    rw [Database.withoutIdentity, Database.withoutFaces_faceSearchSessions,
      Database.withoutSearches_faceSearchSessions_rows]
    refine Erased.of_filter fun row hrow => ?_
    rw [Bool.not_eq_true', decide_eq_false_iff_not, mem_searchSessionIds, not_iff_not]
    constructor
    · rintro ⟨row', hrow', heq, hids⟩
      rwa [Table.eq_of_key_eq hrow' hrow heq] at hids
    · intro hids
      exact ⟨row, hrow, rfl, hids⟩
  searchImages := by
    rw [Database.withoutIdentity, Database.withoutFaces_faceSearchImages,
      Database.withoutSearches_faceSearchImages_rows]
    refine Erased.of_filter fun row _ => ?_
    simp [Database.participantTraces, mem_searchSessionIds]
  searchResults := by
    rw [Database.withoutIdentity, Database.withoutFaces_faceSearchResults,
      Database.withoutSearches_faceSearchResults_rows]
    refine Erased.of_filter fun row _ => ?_
    simp [Database.participantTraces, mem_searchSessionIds]

/-- Deleting the rows themselves completes the erasure. -/
private theorem Traces.ErasedFrom.deleteParticipants {traces : Traces F} {db db' : Database F}
    (h : ({ traces with participant := fun _ => False }).ErasedFrom db db')
    {p : Participant → Bool} (hp : ∀ row ∈ db.participants.rows, p row = true ↔
      traces.participant row) : traces.ErasedFrom db (db'.deleteParticipants p) where
  participants := by
    have hsame : db'.participants.rows = db.participants.rows :=
      h.participants.eq_of_none fun _ _ hfalse => hfalse
    change Erased _ _ (db'.participants.rows.filter fun row => !p row)
    rw [hsame]
    refine Erased.of_filter fun row hrow => ?_
    rw [Bool.not_eq_true', ← Bool.not_eq_true, hp row hrow]
  photos := h.photos
  jobs := h.jobs
  textDetections := h.textDetections
  faceDetections := h.faceDetections
  photoMatches := h.photoMatches
  faceImages := h.faceImages
  embeddings := h.embeddings
  faceMatches := h.faceMatches
  searchSessions := h.searchSessions
  searchImages := h.searchImages
  searchResults := h.searchResults

/-- The cascade of a participant finds nothing after the cleanup. -/
private theorem deleteParticipantRow_run (s : Session F) {db : Database F} {id : Uuid}
    (h : s.current = db.withoutIdentity [id]) :
    (deleteParticipantRow id).run s =
      (.ok (), s.assign fun db => db.deleteParticipants fun row => row.id == id) := by
  have herased := withoutIdentity_erases db [id]
  rw [← h] at herased
  have hmatches : ∀ row ∈ s.current.photoParticipantMatches.rows,
      (row.participantId == id) = false := by
    intro row hrow
    have hnot := (herased.photoMatches.mem_iff.mp hrow).2
    simpa [Database.participantTraces] using hnot
  have himages : ∀ row ∈ s.current.participantFaceImages.rows,
      (row.participantId == id) = false := by
    intro row hrow
    have hnot := (herased.faceImages.mem_iff.mp hrow).2
    simpa [Database.participantTraces] using hnot
  have hembeddings : ∀ row ∈ s.current.participantFaceEmbeddings.rows,
      (row.participantId == id) = false := by
    intro row hrow
    have hnot := (herased.embeddings.mem_iff.mp hrow).2
    simp only [Database.participantTraces, not_or] at hnot
    simpa using hnot.1
  have hfaces : ∀ row ∈ s.current.faceParticipantMatches.rows,
      (row.participantId == id) = false := by
    intro row hrow
    have hnot := (herased.faceMatches.mem_iff.mp hrow).2
    simpa [Database.participantTraces] using hnot
  have hjobs : ∀ job ∈ s.current.jobs.rows, job.ref.ofParticipant [id] = false := by
    intro job hjob
    have hnot := (herased.jobs.mem_iff.mp hjob).2
    cases href : job.ref with
    | photo photoId jobType => rfl
    | faceSearch eventId sessionId imageId => rfl
    | participantFace eventId participantId imageId =>
      simp only [Database.participantTraces, href, Database.JobOfParticipants, not_or] at hnot
      simpa [JobRef.ofParticipant] using hnot.1
  unfold deleteParticipantRow
  rw [Request.run_assign]
  simp only [Session.assign, Database.deletePhotoParticipantMatches, Database.deleteFaceImages,
    Database.deleteFaceEmbeddings, Database.deleteJobs, Database.deleteFaceParticipantMatches,
    Table.deleteWhere_of_none hmatches, Table.deleteWhere_of_none himages,
    Table.deleteWhere_of_none hembeddings, Table.deleteWhere_of_none hfaces,
    Table.deleteWhere_of_none hjobs]

/-- `cleanup_participant_identity_data` in a new session. -/
private theorem cleanupParticipantIdentityData_sessionLocal (world : World) (db : Database F)
    (ids : List Uuid) :
    (cleanupParticipantIdentityData ids).run (Session.sessionLocal world db) =
      (.ok ((db.identityObjectKeys ids).flatMap enqueueObjectDeletion),
        ⟨world, db, db.withoutIdentity ids, db.withoutIdentity ids⟩) :=
  cleanupParticipantIdentityData_run (Session.sessionLocal world db) ids

/-- `delete_participant` in a new session. -/
theorem deleteParticipant_run (world : World) (db : Database F) (participant : Participant) :
    (deleteParticipant participant).run (Session.sessionLocal world db) =
      (.ok ((db.identityObjectKeys [participant.id]).flatMap enqueueObjectDeletion),
        Session.sessionLocal world ((db.withoutIdentity [participant.id]).deleteParticipants
          fun row => row.id == participant.id)) := by
  have hcleanup := cleanupParticipantIdentityData_sessionLocal world db [participant.id]
  have hrow := deleteParticipantRow_run
    ⟨world, db, db.withoutIdentity [participant.id], db.withoutIdentity [participant.id]⟩
    (Eq.refl (db.withoutIdentity [participant.id]))
  unfold deleteParticipant
  rw [Program.run_bind_ok hcleanup, Program.run_bind_ok hrow]
  rfl

/-- `delete_participant` erases the traces of the participant. -/
theorem deleteParticipant_erases (world : World) (db : Database F)
    (participant : Participant) :
    ∃ keys db', Request.serve world (deleteParticipant participant) db = (.ok keys, db') ∧
      (db.participantTraces {participant.id}).ErasedFrom db db' := by
  refine ⟨(db.identityObjectKeys [participant.id]).flatMap enqueueObjectDeletion,
    (db.withoutIdentity [participant.id]).deleteParticipants fun row =>
      row.id == participant.id, ?_, ?_⟩
  · rw [Request.serve, deleteParticipant_run]
    rfl
  · have hids : {id | id ∈ [participant.id]} = ({participant.id} : Set Uuid) := by
      ext id
      simp
    have herased := withoutIdentity_erases db [participant.id]
    rw [hids] at herased
    refine herased.deleteParticipants fun row _ => ?_
    simp [Database.participantTraces]

/-- The identifiers of the participants of an event. -/
def Database.participantIdsOf (db : Database F) (eventId : Uuid) : Set Uuid :=
  {id | ∃ row ∈ db.participants.rows, row.id = id ∧ row.eventId = eventId}

/-- The identifiers that `delete_all_participants` selects. -/
def Database.selectedParticipantIds (db : Database F) (eventId : Uuid) : List Uuid :=
  (db.participants.rows.filter fun p => p.eventId == eventId).map (·.id)

private theorem setOf_selectedParticipantIds (db : Database F) (eventId : Uuid) :
    {id | id ∈ db.selectedParticipantIds eventId} = db.participantIdsOf eventId := by
  ext id
  simp only [Set.mem_ofPred_eq, List.mem_map, List.mem_filter, beq_iff_eq,
    Database.selectedParticipantIds, Database.participantIdsOf]
  constructor
  · rintro ⟨row, ⟨hrow, hevent⟩, heq⟩
    exact ⟨row, hrow, heq, hevent⟩
  · rintro ⟨row, hrow, heq, hevent⟩
    exact ⟨row, ⟨hrow, hevent⟩, heq⟩

/-- `delete_all_participants` in a new session. -/
theorem deleteAllParticipants_run (world : World) (db : Database F) (eventId : Uuid) :
    ∃ count, (deleteAllParticipants eventId).run (Session.sessionLocal world db) =
      (.ok (count, (db.identityObjectKeys
        (db.selectedParticipantIds eventId)).flatMap enqueueObjectDeletion),
        Session.sessionLocal world ((db.withoutIdentity
          (db.selectedParticipantIds eventId)).deleteParticipants
            fun p => p.eventId == eventId)) := by
  have hcleanup := cleanupParticipantIdentityData_sessionLocal world db
    (db.selectedParticipantIds eventId)
  refine ⟨(db.withoutIdentity (db.selectedParticipantIds eventId)).participants.rows.countP
    fun p => p.eventId == eventId, ?_⟩
  unfold deleteAllParticipants
  unfold Database.selectedParticipantIds at hcleanup ⊢
  rw [Request.run_query_bind, Session.sessionLocal_flushed, Program.run_bind_ok hcleanup]
  rfl

/-- `delete_all_participants` erases the traces of the participants of the event. -/
theorem deleteAllParticipants_erases (world : World) (db : Database F) (eventId : Uuid) :
    ∃ answer db', Request.serve world (deleteAllParticipants eventId) db = (.ok answer, db') ∧
      (db.participantTraces (db.participantIdsOf eventId)).ErasedFrom db db' := by
  obtain ⟨count, hrun⟩ := deleteAllParticipants_run world db eventId
  refine ⟨(count, (db.identityObjectKeys
    (db.selectedParticipantIds eventId)).flatMap enqueueObjectDeletion),
    (db.withoutIdentity (db.selectedParticipantIds eventId)).deleteParticipants
      fun p => p.eventId == eventId, ?_, ?_⟩
  · rw [Request.serve, hrun]
    rfl
  · have herased := withoutIdentity_erases db (db.selectedParticipantIds eventId)
    rw [setOf_selectedParticipantIds] at herased
    refine herased.deleteParticipants fun row hrow => ?_
    rw [beq_iff_eq]
    constructor
    · intro hevent
      exact ⟨row, hrow, rfl, hevent⟩
    · rintro ⟨row', hrow', heq, hevent⟩
      rwa [Table.eq_of_key_eq hrow' hrow heq] at hevent

/-! ## Photos -/

/-- The database after `cleanup_photo_identity_data` has deleted what refers to some faces. -/
@[simps!] def Database.withoutFaceReferences (db : Database F) (faceIds : List Uuid) :
    Database F :=
  (db.deleteFaceSearchResults fun row => faceIds.contains row.photoFaceDetectionId)
    |>.deleteFaceParticipantMatches fun row => faceIds.contains row.photoFaceDetectionId

/-- The database after the rest of `cleanup_photo_identity_data`. -/
@[simps!] def Database.withoutPhotoReferences (db : Database F) (ids : List Uuid) : Database F :=
  (((((db.deleteFaceSearchResults fun row => ids.contains row.photoId)
    |>.deleteFaceParticipantMatches fun row => ids.contains row.photoId)
    |>.deletePhotoParticipantMatches fun row => ids.contains row.photoId)
    |>.deleteTextDetections fun row => ids.contains row.photoId)
    |>.deleteFaceDetections fun row => ids.contains row.photoId)
    |>.deleteJobs (JobRef.ofPhoto ids)

/-- The faces that `cleanup_photo_identity_data` selects. -/
def Database.faceIdsOf (db : Database F) (ids : List Uuid) : List Uuid :=
  (db.photoFaceDetections.rows.filter fun d => ids.contains d.photoId).map (·.id)

private theorem withoutFaceReferences_nil (db : Database F) :
    db.withoutFaceReferences [] = db := by
  rw [Database.withoutFaceReferences, deleteFaceSearchResults_nil,
    deleteFaceParticipantMatches_nil]

private theorem withoutPhotoReferences_nil (db : Database F) :
    db.withoutPhotoReferences [] = db := by
  have hdetections : db.photoTextDetections.filter (fun d => !([] : List Uuid).contains d.photoId) =
      db.photoTextDetections := List.filter_eq_self.mpr fun _ _ => rfl
  rw [Database.withoutPhotoReferences, deleteFaceSearchResults_nil,
    deleteFaceParticipantMatches_nil, deletePhotoParticipantMatches_nil,
    Database.deleteTextDetections, hdetections, Database.deleteFaceDetections,
    Table.deleteWhere_contains_nil, deleteJobs_of_none ofPhoto_nil]

private theorem deleteFaceSearchResults_ofFace {ids : List Uuid} (h : (!ids.isEmpty) = false)
    (db : Database F) :
    (db.deleteFaceSearchResults fun row => ids.contains row.photoFaceDetectionId) = db := by
  rw [eq_nil_of_not_isEmpty h, deleteFaceSearchResults_nil]

private theorem deleteFaceParticipantMatches_ofFace {ids : List Uuid}
    (h : (!ids.isEmpty) = false) (db : Database F) :
    (db.deleteFaceParticipantMatches fun row => ids.contains row.photoFaceDetectionId) = db := by
  rw [eq_nil_of_not_isEmpty h, deleteFaceParticipantMatches_nil]

private theorem cleanupPhotoIdentityData_run (s : Session F) (ids : List Uuid) :
    (cleanupPhotoIdentityData ids).run s = (.ok (), s.execute fun db =>
      (db.withoutFaceReferences (s.flushed.faceIdsOf ids)).withoutPhotoReferences ids) := by
  by_cases hempty : ids = []
  · subst hempty
    have hfaces : s.flushed.faceIdsOf [] = [] := by
      simp [Database.faceIdsOf]
    rw [hfaces]
    simp only [withoutFaceReferences_nil, withoutPhotoReferences_nil]
    rfl
  · unfold cleanupPhotoIdentityData
    rw [if_neg (by simpa using hempty), Request.run_query_bind]
    rw [Program.run_bind_ok (run_executeIf deleteFaceSearchResults_ofFace)]
    rw [Program.run_bind_ok (run_executeIf deleteFaceParticipantMatches_ofFace)]
    simp only [Request.run_execute_bind, Request.run_execute, execute_execute,
      Database.withoutFaceReferences, Database.withoutPhotoReferences, Database.faceIdsOf]

/-- The database after `cleanup_photo_identity_data`. -/
def Database.withoutImprint (db : Database F) (ids : List Uuid) : Database F :=
  (db.withoutFaceReferences (db.faceIdsOf ids)).withoutPhotoReferences ids

/-- Where detections agree with their jobs, a job of a photo has only detections of the photo. -/
private theorem mem_of_jobIdOf {db : Database F} (h : db.DetectionsAgree) {ids : Set Uuid} :
    (∀ row ∈ db.photoTextDetections, db.JobIdOf ids row.photoJobId → row.photoId ∈ ids) ∧
      ∀ row ∈ db.photoFaceDetections.rows, db.JobIdOf ids row.photoJobId → row.photoId ∈ ids := by
  have hphoto : ∀ ref : JobRef, ref.OfPhotos ids →
      ∃ photoId jobType, ref = .photo photoId jobType ∧ photoId ∈ ids := by
    intro ref href
    cases ref with
    | photo photoId jobType => exact ⟨photoId, jobType, rfl, href⟩
    | participantFace eventId participantId imageId => cases href
    | faceSearch eventId sessionId imageId => cases href
  constructor
  · rintro row hrow ⟨job, hjob, hid, href⟩
    obtain ⟨photoId, jobType, heq, hmem⟩ := hphoto job.ref href
    rwa [h.text row hrow job hjob hid photoId jobType heq] at hmem
  · rintro row hrow ⟨job, hjob, hid, href⟩
    obtain ⟨photoId, jobType, heq, hmem⟩ := hphoto job.ref href
    rwa [h.face row hrow job hjob hid photoId jobType heq] at hmem

private theorem mem_faceIdsOf {db : Database F} (h : db.DetectionsAgree) {ids : List Uuid}
    {faceId : Uuid} : faceId ∈ db.faceIdsOf ids ↔ db.FaceOf {id | id ∈ ids} faceId := by
  simp only [Database.faceIdsOf, Database.FaceOf, List.mem_map, List.mem_filter,
    List.contains_iff_mem]
  constructor
  · rintro ⟨row, ⟨hrow, hmem⟩, heq⟩
    exact ⟨row, hrow, heq, Or.inl hmem⟩
  · rintro ⟨row, hrow, heq, hmem | hjob⟩
    · exact ⟨row, ⟨hrow, hmem⟩, heq⟩
    · exact ⟨row, ⟨hrow, (mem_of_jobIdOf h).2 row hrow hjob⟩, heq⟩

private theorem ofPhoto_iff {ids : List Uuid} {ref : JobRef} :
    ref.ofPhoto ids = true ↔ ref.OfPhotos {id | id ∈ ids} := by
  cases ref with
  | photo photoId jobType => exact List.contains_iff_mem
  | participantFace eventId participantId imageId => exact Bool.false_eq_true.to_iff
  | faceSearch eventId sessionId imageId => exact Bool.false_eq_true.to_iff

/-- The cleanup erases everything but the photos themselves. -/
private theorem withoutImprint_erases {db : Database F} (h : db.DetectionsAgree)
    (ids : List Uuid) :
    ({ db.photoTraces {id | id ∈ ids} with photo := fun _ => False }).ErasedFrom db
      (db.withoutImprint ids) where
  participants := by
    simp only [Database.withoutImprint, Database.withoutPhotoReferences_participants,
      Database.withoutFaceReferences_participants]
    exact Erased.of_none fun _ _ h => h
  photos := by
    simp only [Database.withoutImprint, Database.withoutPhotoReferences_photos,
      Database.withoutFaceReferences_photos]
    exact Erased.of_none fun _ _ h => h
  jobs := by
    rw [Database.withoutImprint, Database.withoutPhotoReferences_jobs_rows,
      Database.withoutFaceReferences_jobs]
    refine Erased.of_filter fun job _ => ?_
    rw [Bool.not_eq_true', ← Bool.not_eq_true, ofPhoto_iff]
    rfl
  textDetections := by
    rw [Database.withoutImprint, Database.withoutPhotoReferences_photoTextDetections,
      Database.withoutFaceReferences_photoTextDetections]
    refine Erased.of_filter fun row hrow => ?_
    have hjob : db.JobIdOf {id | id ∈ ids} row.photoJobId → row.photoId ∈ ids :=
      (mem_of_jobIdOf h).1 row hrow
    rw [Bool.not_eq_true', decide_eq_false_iff_not, not_iff_not]
    exact ⟨Or.inl, fun hor => hor.elim id hjob⟩
  faceDetections := by
    rw [Database.withoutImprint, Database.withoutPhotoReferences_photoFaceDetections_rows,
      Database.withoutFaceReferences_photoFaceDetections]
    refine Erased.of_filter fun row hrow => ?_
    have hjob : db.JobIdOf {id | id ∈ ids} row.photoJobId → row.photoId ∈ ids :=
      (mem_of_jobIdOf h).2 row hrow
    rw [Bool.not_eq_true', decide_eq_false_iff_not, not_iff_not]
    exact ⟨Or.inl, fun hor => hor.elim id hjob⟩
  photoMatches := by
    rw [Database.withoutImprint, Database.withoutPhotoReferences_photoParticipantMatches_rows,
      Database.withoutFaceReferences_photoParticipantMatches]
    refine Erased.of_filter fun row _ => ?_
    simp [Database.photoTraces]
  faceImages := by
    simp only [Database.withoutImprint, Database.withoutPhotoReferences_participantFaceImages,
      Database.withoutFaceReferences_participantFaceImages]
    exact Erased.of_none fun _ _ h => h
  embeddings := by
    simp only [Database.withoutImprint, Database.withoutPhotoReferences_participantFaceEmbeddings,
      Database.withoutFaceReferences_participantFaceEmbeddings]
    exact Erased.of_none fun _ _ h => h
  faceMatches := by
    rw [Database.withoutImprint, Database.withoutPhotoReferences_faceParticipantMatches_rows,
      Database.withoutFaceReferences_faceParticipantMatches_rows, List.filter_filter]
    refine Erased.of_filter fun row _ => ?_
    simp [Database.photoTraces, mem_faceIdsOf h]
  searchSessions := by
    simp only [Database.withoutImprint, Database.withoutPhotoReferences_faceSearchSessions,
      Database.withoutFaceReferences_faceSearchSessions]
    exact Erased.of_none fun _ _ h => h
  searchImages := by
    simp only [Database.withoutImprint, Database.withoutPhotoReferences_faceSearchImages,
      Database.withoutFaceReferences_faceSearchImages]
    exact Erased.of_none fun _ _ h => h
  searchResults := by
    rw [Database.withoutImprint, Database.withoutPhotoReferences_faceSearchResults_rows,
      Database.withoutFaceReferences_faceSearchResults_rows, List.filter_filter]
    refine Erased.of_filter fun row _ => ?_
    simp [Database.photoTraces, mem_faceIdsOf h]

/-- Deleting the rows themselves completes the erasure. -/
private theorem Traces.ErasedFrom.deletePhotos {traces : Traces F} {db db' : Database F}
    (h : ({ traces with photo := fun _ => False }).ErasedFrom db db') {p : Photo → Bool}
    (hp : ∀ row ∈ db.photos.rows, p row = true ↔ traces.photo row) :
    traces.ErasedFrom db (db'.deletePhotos p) where
  participants := h.participants
  photos := by
    have hsame : db'.photos.rows = db.photos.rows :=
      h.photos.eq_of_none fun _ _ hfalse => hfalse
    change Erased _ _ (db'.photos.rows.filter fun row => !p row)
    rw [hsame]
    refine Erased.of_filter fun row hrow => ?_
    rw [Bool.not_eq_true', ← Bool.not_eq_true, hp row hrow]
  jobs := h.jobs
  textDetections := h.textDetections
  faceDetections := h.faceDetections
  photoMatches := h.photoMatches
  faceImages := h.faceImages
  embeddings := h.embeddings
  faceMatches := h.faceMatches
  searchSessions := h.searchSessions
  searchImages := h.searchImages
  searchResults := h.searchResults

/-- No row belongs to the photo, so that its cascade finds nothing. -/
structure Database.Childless (db : Database F) (photoId : Uuid) : Prop where
  jobs : ∀ job ∈ db.jobs.rows, job.ref.ofPhoto [photoId] = false
  textDetections : ∀ row ∈ db.photoTextDetections, (row.photoId == photoId) = false
  faceDetections : ∀ row ∈ db.photoFaceDetections.rows, (row.photoId == photoId) = false
  photoMatches : ∀ row ∈ db.photoParticipantMatches.rows, (row.photoId == photoId) = false
  faceMatches : ∀ row ∈ db.faceParticipantMatches.rows, (row.photoId == photoId) = false

private theorem deletePhotoRow_run {s : Session F} {id : Uuid} (h : s.current.Childless id) :
    (deletePhotoRow id).run s =
      (.ok (), s.assign fun db => db.deletePhotos fun row => row.id == id) := by
  have hjobIds : s.current.photoJobIds id = [] := by
    rw [Database.photoJobIds, List.map_eq_nil_iff, List.filter_eq_nil_iff]
    intro job hjob
    rw [h.jobs job hjob]
    exact Bool.false_ne_true
  have hfaceIds : s.current.cascadedFaceIds id = [] := by
    rw [Database.cascadedFaceIds, List.map_eq_nil_iff, List.filter_eq_nil_iff]
    intro row hrow
    rw [hjobIds, h.faceDetections row hrow]
    exact Bool.false_ne_true
  have hfaceMatches : ∀ row ∈ s.current.faceParticipantMatches.rows,
      (row.photoId == id || [].contains row.photoFaceDetectionId) = false := by
    intro row hrow
    rw [h.faceMatches row hrow]
    rfl
  have hfaces : ∀ row ∈ s.current.photoFaceDetections.rows,
      (row.photoId == id || [].contains row.photoJobId) = false := by
    intro row hrow
    rw [h.faceDetections row hrow]
    rfl
  have htexts : (s.current.photoTextDetections.filter fun row =>
      !(row.photoId == id || [].contains row.photoJobId)) = s.current.photoTextDetections := by
    refine List.filter_eq_self.mpr fun row hrow => ?_
    rw [h.textDetections row hrow]
    rfl
  unfold deletePhotoRow
  rw [Request.run_assign]
  simp only [Session.assign, hjobIds, hfaceIds, Database.deleteFaceParticipantMatches,
    Database.deleteFaceDetections, Database.deleteTextDetections,
    Database.deletePhotoParticipantMatches, Database.deleteJobs,
    Table.deleteWhere_of_none hfaceMatches, Table.deleteWhere_of_none hfaces, htexts,
    Table.deleteWhere_of_none h.photoMatches, Table.deleteWhere_of_none h.jobs]

/-- Deleting photos without children, one after the other. -/
private theorem forM_deletePhotoRow_run (photos : List Photo) {s : Session F}
    (h : ∀ photo ∈ photos, s.current.Childless photo.id) :
    (photos.forM fun photo => deletePhotoRow photo.id).run s =
      (.ok (), s.assign fun db => db.deletePhotos fun row =>
        (photos.map (·.id)).contains row.id) := by
  induction photos generalizing s with
  | nil =>
    have hnone : (s.current.deletePhotos fun row => ([] : List Uuid).contains row.id) =
        s.current := by
      rw [Database.deletePhotos, Table.deleteWhere_contains_nil]
    rw [Session.assign]
    simp only [List.map_nil, hnone]
    rfl
  | cons photo photos ih =>
    have hfirst := deletePhotoRow_run (h photo List.mem_cons_self)
    have hrest : ∀ photo' ∈ photos, (s.assign fun db => db.deletePhotos fun row =>
        row.id == photo.id).current.Childless photo'.id := by
      intro photo' hphoto'
      obtain ⟨hjobs, htexts, hfaces, hmatches, hfaceMatches⟩ :=
        h photo' (List.mem_cons_of_mem photo hphoto')
      exact ⟨hjobs, htexts, hfaces, hmatches, hfaceMatches⟩
    change (deletePhotoRow photo.id >>= fun _ => photos.forM fun photo =>
      deletePhotoRow photo.id).run s = _
    rw [Program.run_bind_ok hfirst, ih hrest]
    simp only [Session.assign, Database.deletePhotos, Table.deleteWhere, List.filter_filter,
      List.map_cons, List.contains_cons, Bool.not_or, Bool.and_comm]

/-- After the cleanup the photos have no children. -/
private theorem childless_withoutImprint {db : Database F} (h : db.DetectionsAgree)
    {ids : List Uuid} {id : Uuid} (hid : id ∈ ids) : (db.withoutImprint ids).Childless id := by
  have herased := withoutImprint_erases h ids
  refine ⟨?_, ?_, ?_, ?_, ?_⟩
  · intro job hjob
    have hnot := (herased.jobs.mem_iff.mp hjob).2
    cases href : job.ref with
    | photo photoId jobType =>
      change [id].contains photoId = false
      rw [List.contains_eq_mem, decide_eq_false_iff_not]
      intro hmem
      refine hnot ?_
      change job.ref.OfPhotos {id | id ∈ ids}
      rw [href, List.mem_singleton.mp hmem]
      exact hid
    | participantFace eventId participantId imageId => rfl
    | faceSearch eventId sessionId imageId => rfl
  · intro row hrow
    have hnot := (herased.textDetections.mem_iff.mp hrow).2
    refine beq_eq_false_iff_ne.mpr fun heq => hnot (Or.inl ?_)
    exact heq ▸ hid
  · intro row hrow
    have hnot := (herased.faceDetections.mem_iff.mp hrow).2
    refine beq_eq_false_iff_ne.mpr fun heq => hnot (Or.inl ?_)
    exact heq ▸ hid
  · intro row hrow
    have hnot := (herased.photoMatches.mem_iff.mp hrow).2
    refine beq_eq_false_iff_ne.mpr fun heq => hnot ?_
    change row.photoId ∈ ids
    rwa [heq]
  · intro row hrow
    have hnot := (herased.faceMatches.mem_iff.mp hrow).2
    refine beq_eq_false_iff_ne.mpr fun heq => hnot (Or.inl ?_)
    exact heq ▸ hid

/-- `cleanup_photo_identity_data` in a new session. -/
theorem cleanupPhotoIdentityData_sessionLocal (world : World) (db : Database F)
    (ids : List Uuid) :
    (cleanupPhotoIdentityData ids).run (Session.sessionLocal world db) =
      (.ok (), ⟨world, db, db.withoutImprint ids, db.withoutImprint ids⟩) :=
  cleanupPhotoIdentityData_run (Session.sessionLocal world db) ids

/-- `delete_photo` erases the traces of the photo. -/
private theorem deletePhoto_erases (thumbnailObjectKey : Photo → Option Text) (world : World)
    {db : Database F} (h : db.DetectionsAgree) (photo : Photo) :
    ∃ keys db', Request.serve world (deletePhoto thumbnailObjectKey photo) db = (.ok keys, db') ∧
      (db.photoTraces {photo.id}).ErasedFrom db db' := by
  have hcleanup := cleanupPhotoIdentityData_sessionLocal world db [photo.id]
  have hrow : (deletePhotoRow photo.id).run
      ⟨world, db, db.withoutImprint [photo.id], db.withoutImprint [photo.id]⟩ = _ :=
    deletePhotoRow_run (childless_withoutImprint h List.mem_cons_self)
  refine ⟨photoObjectKeys thumbnailObjectKey photo,
    (db.withoutImprint [photo.id]).deletePhotos fun row => row.id == photo.id, ?_, ?_⟩
  · unfold Request.serve deletePhoto
    rw [Program.run_bind_ok hcleanup, Program.run_bind_ok hrow]
    rfl
  · have hids : {id | id ∈ [photo.id]} = ({photo.id} : Set Uuid) := by
      ext id
      simp
    have herased := withoutImprint_erases h [photo.id]
    rw [hids] at herased
    refine herased.deletePhotos fun row _ => ?_
    simp [Database.photoTraces]

/-- The photos of an event. -/
def Database.photosOf (db : Database F) (eventId : Uuid) : List Photo :=
  db.photos.rows.filter fun photo => photo.eventId == eventId

/-- The identifiers of the photos of an event. -/
def Database.photoIdsOf (db : Database F) (eventId : Uuid) : Set Uuid :=
  {id | ∃ row ∈ db.photos.rows, row.id = id ∧ row.eventId = eventId}

private theorem mem_map_photosOf {db : Database F} {eventId id : Uuid} :
    id ∈ (db.photosOf eventId).map (·.id) ↔ id ∈ db.photoIdsOf eventId := by
  simp only [List.mem_map, Database.photosOf, List.mem_filter, beq_iff_eq, Database.photoIdsOf,
    Set.mem_ofPred_eq]
  constructor
  · rintro ⟨row, ⟨hrow, hevent⟩, heq⟩
    exact ⟨row, hrow, heq, hevent⟩
  · rintro ⟨row, hrow, heq, hevent⟩
    exact ⟨row, ⟨hrow, hevent⟩, heq⟩

/-- `delete_all_event_photos` erases the traces of the photos of the event. -/
private theorem deleteAllEventPhotos_erases (thumbnailObjectKey : Photo → Option Text)
    (world : World) {db : Database F} (h : db.DetectionsAgree) (eventId : Uuid) :
    ∃ answer db', Request.serve world (deleteAllEventPhotos thumbnailObjectKey eventId) db =
        (.ok answer, db') ∧ (db.photoTraces (db.photoIdsOf eventId)).ErasedFrom db db' := by
  have hcleanup :=
    cleanupPhotoIdentityData_sessionLocal world db ((db.photosOf eventId).map (·.id))
  have hrows : ((db.photosOf eventId).forM fun photo => deletePhotoRow photo.id).run
      ⟨world, db, db.withoutImprint ((db.photosOf eventId).map (·.id)),
        db.withoutImprint ((db.photosOf eventId).map (·.id))⟩ = _ :=
    forM_deletePhotoRow_run (db.photosOf eventId) fun photo hphoto =>
      childless_withoutImprint h (List.mem_map_of_mem hphoto)
  refine ⟨((db.photosOf eventId).length,
    (db.photosOf eventId).flatMap (photoObjectKeys thumbnailObjectKey)),
    (db.withoutImprint ((db.photosOf eventId).map (·.id))).deletePhotos fun row =>
      ((db.photosOf eventId).map (·.id)).contains row.id, ?_, ?_⟩
  · unfold Request.serve deleteAllEventPhotos
    unfold Database.photosOf at hcleanup hrows
    rw [Request.run_query_bind, Session.sessionLocal_flushed, Program.run_bind_ok hcleanup,
      Program.run_bind_ok hrows]
    rfl
  · have hids : {id | id ∈ (db.photosOf eventId).map (·.id)} = db.photoIdsOf eventId := by
      ext id
      exact mem_map_photosOf
    have herased := withoutImprint_erases h ((db.photosOf eventId).map (·.id))
    rw [hids] at herased
    refine herased.deletePhotos fun row _ => ?_
    rw [List.contains_iff_mem]
    exact mem_map_photosOf

/-- Each of the four deletions succeeds, erases the traces of the participants or photos it
deletes, and leaves every other row as it is. -/
theorem deletions_erase_traces (thumbnailObjectKey : Photo → Option Text) (world : World)
    (db : Database F) (h : db.DetectionsAgree) :
    (∀ participant, ∃ keys db',
      Request.serve world (deleteParticipant participant) db = (.ok keys, db') ∧
        (db.participantTraces {participant.id}).ErasedFrom db db') ∧
    (∀ eventId, ∃ answer db',
      Request.serve world (deleteAllParticipants eventId) db = (.ok answer, db') ∧
        (db.participantTraces (db.participantIdsOf eventId)).ErasedFrom db db') ∧
    (∀ photo, ∃ keys db',
      Request.serve world (deletePhoto thumbnailObjectKey photo) db = (.ok keys, db') ∧
        (db.photoTraces {photo.id}).ErasedFrom db db') ∧
    ∀ eventId, ∃ answer db',
      Request.serve world (deleteAllEventPhotos thumbnailObjectKey eventId) db =
          (.ok answer, db') ∧
        (db.photoTraces (db.photoIdsOf eventId)).ErasedFrom db db' :=
  ⟨deleteParticipant_erases world db, deleteAllParticipants_erases world db,
    deletePhoto_erases thumbnailObjectKey world h,
    deleteAllEventPhotos_erases thumbnailObjectKey world h⟩

private def finishLinePhoto : Photo where
  id := 1
  eventId := 7
  originalObjectKey := "events/7/photos/1".toList
  fileName := []
  contentType := []
  status := .ready
  createdAt := 0

private def finishLineFace : PhotoFaceDetection ℚ where
  id := 3
  eventId := 7
  photoId := 1
  photoJobId := 2
  faceIndex := 0
  embeddingJson := []
  boundingBoxJson := none
  detectionScore := none
  qualityScore := none

/-- One photo with its job, a face on it and the match of the face. -/
def finishLineGallery : Database ℚ :=
  { Database.empty with
    photos := ⟨[finishLinePhoto], List.nodup_singleton _⟩
    jobs := ⟨[.queued 2 (.photo 1 .facePhotoScan) 5 0], List.nodup_singleton _⟩
    photoFaceDetections := ⟨[finishLineFace], List.nodup_singleton _⟩
    faceParticipantMatches := ⟨[⟨7, 1, 3, 9, 1⟩], List.nodup_singleton _⟩ }

/-- Deleting the photo leaves neither the face nor its match. -/
theorem finishLineGallery_erased :
    finishLineGallery.DetectionsAgree ∧
      ∃ keys db', Request.serve (World.still 0 fun _ => 4)
          (deletePhoto (fun _ => none) finishLinePhoto) finishLineGallery = (.ok keys, db') ∧
        ⟨7, 1, 3, 9, 1⟩ ∈ finishLineGallery.faceParticipantMatches.rows ∧
        ⟨7, 1, 3, 9, 1⟩ ∉ db'.faceParticipantMatches.rows := by
  have hagree : finishLineGallery.DetectionsAgree := by
    refine ⟨fun row hrow => absurd hrow List.not_mem_nil, ?_⟩
    intro row hrow job hjob _ photoId jobType href
    rw [List.mem_singleton.mp hrow]
    rw [List.mem_singleton.mp hjob] at href
    injection href with hphoto
    exact hphoto.symm
  obtain ⟨keys, db', hserve, herased⟩ := (deletions_erase_traces (fun _ => none)
    (World.still 0 fun _ => 4) finishLineGallery hagree).2.2.1 finishLinePhoto
  refine ⟨hagree, keys, db', hserve, List.mem_singleton_self _, fun hrow => ?_⟩
  exact (herased.faceMatches.mem_iff.mp hrow).2 (Or.inl rfl)

end RaceFrame
