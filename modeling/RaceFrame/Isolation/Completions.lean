import RaceFrame.Isolation.Searches
import RaceFrame.Worker.Outcomes

/-!
# Completions in their event

A completion of a photo job writes rows of its photo and of the roster of the
event of the photo; an enrolment joins the faces and the embeddings of one event.
A face scan takes back the faces of its job with everything that refers to them
and stores others.
-/

namespace RaceFrame

open Core Request

variable {F : Type} [Scalar F] {σ : Scopes}

/-! ## Text matches -/

omit [Scalar F] in
/-- The texts of a photo are matched with participants of the event of the photo. -/
theorem inScope_of_mem_ocrMatches {normalizeMatchToken : Text → Text}
    {extractMatchCandidates : Text → List Text} {db : Database F} {photo : Photo}
    (hphoto : db.scopes.photo photo.id = some photo.eventId)
    {detections : List (PhotoTextDetection F)} {row : PhotoParticipantMatch F}
    (hrow : row ∈ ocrMatches normalizeMatchToken extractMatchCandidates photo
      (db.participantsOf photo.eventId) detections) : row.InScope db.scopes := by
  obtain ⟨detection, -, hrow⟩ := List.mem_flatMap.mp hrow
  obtain ⟨value, -, hrow⟩ := List.mem_filterMap.mp hrow
  obtain ⟨entry, hentry, rfl⟩ := Option.map_eq_some_iff.mp hrow
  obtain ⟨hparticipant, hevent⟩ :=
    Database.mem_participantsOf.mp (of_get?_participantsByBib hentry).2.1
  have hscope := scopes_participant_of_mem hparticipant
  rw [hevent] at hscope
  exact ⟨hphoto, hscope⟩

namespace Database.InScope

variable {db : Database F} (h : db.InScope σ)

include h

omit [Scalar F] in
theorem storeTextDetections (job : Job F) (rows : List (PhotoTextDetection F)) :
    (db.storeTextDetections job rows).InScope σ where
  scopes := h.scopes
  rows := { h.rows with }

theorem matchTextDetections {photo : Photo} (hphoto : σ.photo photo.id = some photo.eventId)
    (rows : List (PhotoTextDetection F)) : (db.matchTextDetections photo rows).InScope σ := by
  rw [← h.scopes] at hphoto
  refine h.upsertMatches fun row hrow => ?_
  rw [← h.scopes]
  exact inScope_of_mem_ocrMatches hphoto hrow

omit [Scalar F] in
theorem finishPhotoJob (photo : Photo) {job : Job F} (hjob : job.InScope σ)
    (rawResponseJson : JsonDict F) (finishedAt : Instant) :
    (db.finishPhotoJob photo job rawResponseJson finishedAt).InScope σ := by
  have hcompleted : (completedJob job rawResponseJson finishedAt).InScope σ := hjob.of_ref rfl rfl
  have hput := h.putJob hcompleted
  unfold Database.finishPhotoJob Database.markPhoto
  dsimp only
  split
  · exact hput.setPhotoStatus _ _
  · exact hput

/-! ## Face matches -/

omit [Scalar F] in
theorem setFaceEmbeddings {embedding : ParticipantFaceEmbedding F}
    (hembedding : embedding.InScope σ)
    {rows : Table (ParticipantFaceEmbedding F) ParticipantFaceEmbedding.faceImageId}
    (hinsert : db.participantFaceEmbeddings.insert? embedding = some rows) :
    (db.setFaceEmbeddings rows).InScope σ where
  scopes := h.scopes
  rows := { h.rows with embeddings := h.rows.embeddings.insert? hembedding hinsert }

theorem recordFaceMatch {detection : PhotoFaceDetection F}
    (hphoto : σ.photo detection.photoId = some detection.eventId)
    (hface : σ.face detection.id = some (detection.photoId, detection.eventId))
    {entry : Uuid × F} (hparticipant : σ.participant entry.1 = some detection.eventId) :
    (db.recordFaceMatch detection entry).InScope σ := by
  have hmatch : (faceMatch detection entry.1 entry.2).InScope σ := ⟨hphoto, hface, hparticipant⟩
  exact (h.upsertFaceMatch hmatch).upsertMatch ⟨hphoto, hparticipant⟩

end Database.InScope

/-- Every entry of `best_by_participant` is of a participant with an embedding. -/
theorem exists_embedding_of_mem_best (cfg : Settings F) (detection : PhotoFaceDetection F)
    (embeddings : List (ParticipantFaceEmbedding F)) :
    (bestByParticipant cfg detection embeddings).All fun entry =>
      ∃ embedding ∈ embeddings, embedding.participantId = entry.1 := by
  apply List.foldlRecOn (motive := Table.All fun entry : Uuid × F =>
    ∃ embedding ∈ embeddings, embedding.participantId = entry.1) embeddings _ Table.all_empty
  intro best hbest embedding hembedding
  dsimp only
  split
  · exact hbest
  · refine hbest.upsert ⟨embedding, hembedding, rfl⟩ fun old hold hkey => ?_
    split
    · exact ⟨embedding, hembedding, rfl⟩
    · exact hold

/-- An enrolment joins the faces of the event with embeddings of the participant in that event. -/
theorem Database.InScope.matchParticipant {db : Database F} (h : db.InScope σ) (cfg : Settings F)
    (participantId eventId : Uuid) : (db.matchParticipant cfg participantId eventId).InScope σ := by
  apply List.foldlRecOn _ _ h
  intro db' h' detection hdetection
  obtain ⟨hmem, hevent⟩ := List.mem_filter.mp hdetection
  have hphoto := (h.rows.faces detection hmem).1
  have hface := scopes_face_of_mem hmem
  rw [h.scopes] at hface
  apply List.foldlRecOn _ _ h'
  intro db'' h'' entry hentry
  obtain ⟨embedding, hembedding, hid⟩ := exists_embedding_of_mem_best cfg _ _ entry hentry
  obtain ⟨hstored, hselected⟩ := List.mem_filter.mp hembedding
  rw [Bool.and_eq_true, beq_iff_eq, beq_iff_eq] at hselected
  have hparticipant : σ.participant embedding.participantId = some embedding.eventId :=
    h.rows.embeddings embedding hstored
  rw [hid, hselected.1, ← eq_of_beq hevent] at hparticipant
  exact h''.recordFaceMatch hphoto hface hparticipant

/-! ## Face scans -/

omit [Scalar F] in
/-- What refers to a face that stays, refers to it after a scan. -/
private theorem scopes_face_rescan {db : Database F} {p : PhotoFaceDetection F → Bool}
    {rows : Table (PhotoFaceDetection F) PhotoFaceDetection.id}
    (hkept : ∀ face ∈ db.photoFaceDetections.rows, p face = false → face ∈ rows.rows)
    {id : Uuid} {scope : Uuid × Uuid} (hface : db.scopes.face id = some scope)
    (hgone : ((db.photoFaceDetections.rows.filter p).map PhotoFaceDetection.id).contains id =
      false) : ((db.deletePhotoFaceDetections p).setPhotoFaceDetections rows).scopes.face id =
        some scope := by
  obtain ⟨face, hget, rfl⟩ := Option.map_eq_some_iff.mp hface
  obtain ⟨hmem, rfl⟩ := Table.get?_eq_some_iff.mp hget
  refine Option.map_eq_some_iff.mpr ⟨face, Table.mem_iff_get?.mp (hkept face hmem ?_), rfl⟩
  by_contra hp
  rw [Bool.not_eq_false] at hp
  have hlisted := List.mem_map_of_mem (f := PhotoFaceDetection.id) (List.mem_filter.mpr ⟨hmem, hp⟩)
  rw [← List.contains_iff_mem, hgone] at hlisted
  cases hlisted

omit [Scalar F] in
/-- Faces that replace others are in scope when they have the event of their photo and a job of it;
what referred to the others is gone. -/
theorem Database.EventScoped.rescan {db : Database F} (h : db.EventScoped)
    {p : PhotoFaceDetection F → Bool} {faces : List (PhotoFaceDetection F)}
    (hfaces : ∀ face ∈ faces, face.InScope db.scopes)
    {rows : Table (PhotoFaceDetection F) PhotoFaceDetection.id}
    (hinsert : (db.deletePhotoFaceDetections p).photoFaceDetections.insertAll? faces = some rows) :
    ((db.deletePhotoFaceDetections p).setPhotoFaceDetections rows).EventScoped := by
  have hkept : ∀ face ∈ db.photoFaceDetections.rows, p face = false → face ∈ rows.rows :=
    fun face hmem hp => Table.subset_of_insertAll? hinsert (Table.mem_deleteWhere.mpr ⟨hmem, hp⟩)
  exact {
    photoMatches := h.photoMatches
    faces := by
      apply Table.All.insertAll? _ hfaces hinsert
      exact h.faces.deleteWhere p
    faceMatches := by
      intro row hrow
      obtain ⟨hmem, hgone⟩ := Table.mem_deleteWhere.mp hrow
      obtain ⟨hphoto, hface, hparticipant⟩ := h.faceMatches row hmem
      exact ⟨hphoto, scopes_face_rescan hkept hface hgone, hparticipant⟩
    selfies := h.selfies
    embeddings := h.embeddings
    searchImages := h.searchImages
    searchResults := by
      intro row hrow
      obtain ⟨hmem, hgone⟩ := Table.mem_deleteWhere.mp hrow
      obtain ⟨hsession, hface⟩ := h.searchResults row hmem
      exact ⟨hsession, scopes_face_rescan hkept hface hgone⟩
    jobs := h.jobs }

/-! ## Calls -/

namespace Database

variable {db : Database F} {job : Job F}

/-- What a text recognition commits is in scope. -/
theorem InScope.recognised (h : db.InScope σ) (hjob : job.InScope σ) {photo : Photo}
    (hphoto : σ.photo photo.id = some photo.eventId) (rows : List (PhotoTextDetection F))
    (rawResponseJson : JsonDict F) (now : Instant) :
    ((((db.putJob (releasedJob job)).storeTextDetections job rows).matchTextDetections photo
      rows).finishPhotoJob photo (releasedJob job) rawResponseJson now).InScope σ := by
  have hreleased : (releasedJob job).InScope σ := hjob.of_ref rfl rfl
  have hstored := (h.putJob hreleased).storeTextDetections job rows
  exact (hstored.matchTextDetections hphoto rows).finishPhotoJob photo hreleased _ _

/-- What a face scan commits agrees with its parents. -/
theorem InScope.scanned (h : db.InScope σ) (hjob : job.InScope σ) {photo : Photo}
    {jobType : PhotoJobType} (href : job.ref = .photo photo.id jobType)
    (hphoto : σ.photo photo.id = some photo.eventId) {ids : List Uuid}
    {faceDetections : List (FaceDetectionPayload F)}
    {rows : Table (PhotoFaceDetection F) PhotoFaceDetection.id}
    (hinsert : ((db.putJob (releasedJob job)).deletePhotoFaceDetections fun d =>
      d.photoJobId == job.id).photoFaceDetections.insertAll?
        (storedFaceDetections photo (releasedJob job) ids faceDetections) = some rows)
    (rawResponseJson : JsonDict F) (now : Instant) :
    ((((db.putJob (releasedJob job)).deletePhotoFaceDetections fun d =>
      d.photoJobId == job.id).setPhotoFaceDetections rows).finishPhotoJob photo (releasedJob job)
        rawResponseJson now).EventScoped := by
  have hreleased : (releasedJob job).InScope σ := hjob.of_ref rfl rfl
  have hput := h.putJob hreleased
  have hphotoJob : σ.photoJob job.id = some photo.id := by
    rw [Job.InScope, href] at hjob
    exact hjob
  have hscanned := hput.eventScoped.rescan (fun face hface => ?_) hinsert
  · refine (hscanned.inScope.finishPhotoJob photo ?_ rawResponseJson now).eventScoped
    have hscopes := congrFun (congrArg Scopes.photoJob hput.scopes) job.id
    rw [Job.InScope, show (releasedJob job).ref = _ from href]
    exact hscopes.trans hphotoJob
  · obtain ⟨id, payload, -, rfl⟩ := exists_of_mem_storedFaceDetections hface
    rw [hput.scopes]
    exact ⟨hphoto, hphotoJob⟩

/-- What an enrolment commits is in scope. -/
theorem InScope.enrolled (h : db.InScope σ) (cfg : Settings F) (hjob : job.InScope σ)
    {eventId participantId faceImageId : Uuid}
    (href : job.ref = .participantFace eventId participantId faceImageId)
    {result : EmbeddingResult F}
    {rows : Table (ParticipantFaceEmbedding F) ParticipantFaceEmbedding.faceImageId}
    (hinsert : db.participantFaceEmbeddings.insert?
      (enrolledEmbedding eventId participantId faceImageId result) = some rows)
    (rawResponseJson : JsonDict F) (now : Instant) :
    (((((db.putJob (releasedJob job)).setFaceImage faceImageId .ready none).putJob
      (completedJob (releasedJob job) rawResponseJson now)).setFaceEmbeddings
        rows).matchParticipant cfg participantId eventId).InScope σ := by
  have hembedding : (enrolledEmbedding eventId participantId faceImageId result).InScope σ := by
    have hparticipant := hjob
    rw [Job.InScope, href] at hparticipant
    exact hparticipant
  have hreleased : (releasedJob job).InScope σ := hjob.of_ref rfl rfl
  have hfinished : (completedJob (releasedJob job) rawResponseJson now).InScope σ :=
    hjob.of_ref rfl rfl
  have himage := (h.putJob hreleased).setFaceImage faceImageId .ready none
  have hcompleted := himage.putJob hfinished
  exact (hcompleted.setFaceEmbeddings hembedding hinsert).matchParticipant cfg _ _

end Database

/-- Every call of a worker leaves every row in agreement with its parents. -/
theorem WorkerCall.serve_eventScoped (cfg : Settings F) (world : World) {db : Database F}
    (h : db.EventScoped) (call : WorkerCall F) : (call.serve cfg world db).2.EventScoped := by
  have houtcome := outcome_serve cfg world db call
  cases call with
  | claim target =>
    unfold WorkerCall.serve
    rw [handle_claim]
    exact StaysInScope.serve ((staysInScope_claimRoute _ _ _).map _) world h
  | heartbeat kind jobId attemptId =>
    have hload : ∀ notFound : String, StaysInScope db.scopes
        (loadJob kind notFound jobId >>= fun job => heartbeatJob cfg job attemptId) :=
      fun notFound => staysInScope_loadJob_bind kind notFound jobId fun _ hjob =>
        staysInScope_heartbeatJob cfg hjob attemptId
    cases kind <;> exact StaysInScope.serve ((hload _).map _) world h
  | fail kind jobId payload =>
    have hload : ∀ notFound : String, StaysInScope db.scopes
        (loadJob kind notFound jobId >>= fun job => failJob cfg job payload) :=
      fun notFound => staysInScope_loadJob_bind kind notFound jobId fun _ hjob =>
        staysInScope_failJob cfg hjob payload
    cases kind <;> exact StaysInScope.serve ((hload _).map _) world h
  | completePhoto jobId payload =>
    generalize (WorkerCall.serve cfg world _ db).1 = reply at houtcome
    generalize (WorkerCall.serve cfg world _ db).2 = db' at houtcome ⊢
    cases houtcome with
    | raised => exact h
    | answered => exact h
    | @recognised _ _ _ job photo _ _ _ row held ref parent =>
      have hjob := h.inScope.job_of_mem (Table.mem_of_get? row)
      have hphoto := scopes_photo_of_mem (Table.mem_of_get? parent)
      exact (h.inScope.recognised hjob hphoto _ _ _).eventScoped
    | @scanned _ _ _ job photo _ _ _ _ row held ref parent inserted =>
      have hjob := h.inScope.job_of_mem (Table.mem_of_get? row)
      rw [← Table.get?_key parent] at ref
      have hphoto := scopes_photo_of_mem (Table.mem_of_get? parent)
      exact h.inScope.scanned hjob ref hphoto inserted _ _
  | completeParticipantFace jobId payload =>
    generalize (WorkerCall.serve cfg world _ db).1 = reply at houtcome
    generalize (WorkerCall.serve cfg world _ db).2 = db' at houtcome ⊢
    cases houtcome with
    | raised => exact h
    | answered => exact h
    | enrolled row held ref usable inserted =>
      have hjob := h.inScope.job_of_mem (Table.mem_of_get? row)
      exact (h.inScope.enrolled cfg hjob ref inserted _ _).eventScoped
  | completeFaceSearch jobId payload =>
    refine StaysInScope.serve (Program.Maintains.map ?_ _) world h
    refine staysInScope_loadJob_bind _ _ jobId fun job hjob => ?_
    refine staysInScope_completeRoute hjob payload.attemptId ?_
    have hreleased : (releasedJob job).InScope db.scopes := hjob.of_ref rfl rfl
    split
    · rename_i href
      exact staysInScope_completeFaceSearchJob cfg hreleased href _
    · exact Program.maintains_raise _

end RaceFrame
