import RaceFrame.Core.AllRows
import RaceFrame.Matching.Reproduction

/-!
# Event scopes

Most tables repeat the `event_id` of the rows that theirs refer to. The scopes of
a database are what its references lead to; a row is in scope when the columns
that it repeats agree with them.
-/

namespace RaceFrame

open Core

variable {F : Type}

/-- What references lead to. -/
structure Scopes where
  /-- The event of a photo. -/
  photo : Uuid → Option Uuid
  /-- The event of a participant. -/
  participant : Uuid → Option Uuid
  /-- The event of a search session. -/
  searchSession : Uuid → Option Uuid
  /-- The photo of a photo job. -/
  photoJob : Uuid → Option Uuid
  /-- The photo and the event of a face detection. -/
  face : Uuid → Option (Uuid × Uuid)

/-- The scopes of the rows that are stored. -/
def Database.scopes (db : Database F) : Scopes where
  photo := db.photoEvent?
  participant id := (db.participants.get? id).map Participant.eventId
  searchSession id := (db.faceSearchSessions.get? id).map FaceSearchSession.eventId
  photoJob id := (db.jobs.get? (.photo, id)).bind Job.photoId?
  face id := (db.photoFaceDetections.get? id).map fun d => (d.photoId, d.eventId)

/-! ## Rows in scope -/

/-- A match has the event of its photo and of its participant. -/
def PhotoParticipantMatch.InScope (σ : Scopes) (row : PhotoParticipantMatch F) : Prop :=
  σ.photo row.photoId = some row.eventId ∧ σ.participant row.participantId = some row.eventId

/-- A face detection has the event of its photo, and its job is one of the photo. -/
def PhotoFaceDetection.InScope (σ : Scopes) (row : PhotoFaceDetection F) : Prop :=
  σ.photo row.photoId = some row.eventId ∧ σ.photoJob row.photoJobId = some row.photoId

/-- A face match has the event of its photo, its detection and its participant, and the photo of its
detection. -/
def FaceParticipantMatch.InScope (σ : Scopes) (row : FaceParticipantMatch F) : Prop :=
  σ.photo row.photoId = some row.eventId ∧
    σ.face row.photoFaceDetectionId = some (row.photoId, row.eventId) ∧
      σ.participant row.participantId = some row.eventId

/-- A selfie has the event of its participant. -/
def ParticipantFaceImage.InScope (σ : Scopes) (row : ParticipantFaceImage) : Prop :=
  σ.participant row.participantId = some row.eventId

/-- An embedding has the event of its participant. -/
def ParticipantFaceEmbedding.InScope (σ : Scopes) (row : ParticipantFaceEmbedding F) : Prop :=
  σ.participant row.participantId = some row.eventId

/-- A search image has the event of its session. -/
def FaceSearchImage.InScope (σ : Scopes) (row : FaceSearchImage) : Prop :=
  σ.searchSession row.searchSessionId = some row.eventId

/-- A search result has the event of its session and of its detection, and the photo of its
detection. -/
def FaceSearchResult.InScope (σ : Scopes) (row : FaceSearchResult F) : Prop :=
  σ.searchSession row.searchSessionId = some row.eventId ∧
    σ.face row.photoFaceDetectionId = some (row.photoId, row.eventId)

/-- A job has the event of its participant or of its session; a photo job has only a photo. -/
def Job.InScope (σ : Scopes) (job : Job F) : Prop :=
  match job.ref with
  | .photo photoId _ => σ.photoJob job.id = some photoId
  | .participantFace eventId participantId _ => σ.participant participantId = some eventId
  | .faceSearch eventId searchSessionId _ => σ.searchSession searchSessionId = some eventId

/-- Every row of every table is in scope. -/
structure Database.RowsInScope (σ : Scopes) (db : Database F) : Prop where
  photoMatches : db.photoParticipantMatches.All (·.InScope σ)
  faces : db.photoFaceDetections.All (·.InScope σ)
  faceMatches : db.faceParticipantMatches.All (·.InScope σ)
  selfies : db.participantFaceImages.All (·.InScope σ)
  embeddings : db.participantFaceEmbeddings.All (·.InScope σ)
  searchImages : db.faceSearchImages.All (·.InScope σ)
  searchResults : db.faceSearchResults.All (·.InScope σ)
  jobs : db.jobs.All (·.InScope σ)

/-- Every row agrees with its parents. -/
def Database.EventScoped (db : Database F) : Prop := db.RowsInScope db.scopes

/-- The database has these scopes, and its rows agree with them. -/
structure Database.InScope (σ : Scopes) (db : Database F) : Prop where
  scopes : db.scopes = σ
  rows : db.RowsInScope σ

theorem Database.InScope.eventScoped {σ : Scopes} {db : Database F} (h : db.InScope σ) :
    db.EventScoped := by
  rw [Database.EventScoped, h.scopes]
  exact h.rows

theorem Database.EventScoped.inScope {db : Database F} (h : db.EventScoped) :
    db.InScope db.scopes :=
  ⟨rfl, h⟩

theorem eventScoped_empty : (Database.empty : Database F).EventScoped where
  photoMatches := Table.all_empty
  faces := Table.all_empty
  faceMatches := Table.all_empty
  selfies := Table.all_empty
  embeddings := Table.all_empty
  searchImages := Table.all_empty
  searchResults := Table.all_empty
  jobs := Table.all_empty

/-! ## Lookups -/

variable {σ τ : Scopes} {db : Database F}

theorem scopes_photo_of_mem {photo : Photo} (h : photo ∈ db.photos.rows) :
    db.scopes.photo photo.id = some photo.eventId :=
  photoEvent?_of_mem h

theorem scopes_participant_of_mem {participant : Participant}
    (h : participant ∈ db.participants.rows) :
    db.scopes.participant participant.id = some participant.eventId :=
  Option.map_eq_some_iff.mpr ⟨participant, Table.mem_iff_get?.mp h, rfl⟩

theorem scopes_searchSession_of_mem {searchSession : FaceSearchSession}
    (h : searchSession ∈ db.faceSearchSessions.rows) :
    db.scopes.searchSession searchSession.id = some searchSession.eventId :=
  Option.map_eq_some_iff.mpr ⟨searchSession, Table.mem_iff_get?.mp h, rfl⟩

theorem scopes_face_of_mem {face : PhotoFaceDetection F} (h : face ∈ db.photoFaceDetections.rows) :
    db.scopes.face face.id = some (face.photoId, face.eventId) :=
  Option.map_eq_some_iff.mpr ⟨face, Table.mem_iff_get?.mp h, rfl⟩

theorem scopes_photoJob_of_mem {job : Job F} (hjob : job ∈ db.jobs.rows) {photoId : Uuid}
    {jobType : PhotoJobType} (href : job.ref = .photo photoId jobType) :
    db.scopes.photoJob job.id = some photoId := by
  have hkey : job.key = (.photo, job.id) := by
    rw [Job.key, href]
    rfl
  refine Option.bind_eq_some_iff.mpr ⟨job, Table.get?_eq_some_iff.mpr ⟨hjob, hkey⟩, ?_⟩
  rw [Job.photoId?, href]

/-- A photo job that is kept is a job of its photo. -/
theorem scopes_photoJob_of_kept {db' : Database F} {id photoId : Uuid}
    (h : db.scopes.photoJob id = some photoId)
    (hkept : ∀ job ∈ db.jobs.rows, job.photoId? = some photoId → job ∈ db'.jobs.rows) :
    db'.scopes.photoJob id = some photoId := by
  obtain ⟨job, hjob, hphotoId⟩ := Option.bind_eq_some_iff.mp h
  obtain ⟨hmem, hkey⟩ := Table.get?_eq_some_iff.mp hjob
  refine Option.bind_eq_some_iff.mpr ⟨job, ?_, hphotoId⟩
  exact Table.get?_eq_some_iff.mpr ⟨hkept job hmem hphotoId, hkey⟩

/-- What a job refers to does not depend on its other columns. -/
theorem Job.InScope.of_ref {job job' : Job F} (h : job.InScope σ) (hid : job'.id = job.id)
    (href : job'.ref = job.ref) : job'.InScope σ := by
  unfold Job.InScope at h ⊢
  rw [hid, href]
  exact h

/-! ## Scopes that grow -/

/-- What is known of one is known of the other. -/
structure Scopes.Le (σ τ : Scopes) : Prop where
  photo : ∀ id eventId, σ.photo id = some eventId → τ.photo id = some eventId
  participant : ∀ id eventId, σ.participant id = some eventId → τ.participant id = some eventId
  searchSession : ∀ id eventId,
    σ.searchSession id = some eventId → τ.searchSession id = some eventId
  photoJob : ∀ id photoId, σ.photoJob id = some photoId → τ.photoJob id = some photoId
  face : ∀ id scope, σ.face id = some scope → τ.face id = some scope

theorem Scopes.Le.refl (σ : Scopes) : σ.Le σ :=
  ⟨fun _ _ h => h, fun _ _ h => h, fun _ _ h => h, fun _ _ h => h, fun _ _ h => h⟩

theorem Scopes.Le.trans {υ : Scopes} (h : σ.Le τ) (h' : τ.Le υ) : σ.Le υ where
  photo id eventId hid := h'.photo id eventId (h.photo id eventId hid)
  participant id eventId hid := h'.participant id eventId (h.participant id eventId hid)
  searchSession id eventId hid := h'.searchSession id eventId (h.searchSession id eventId hid)
  photoJob id photoId hid := h'.photoJob id photoId (h.photoJob id photoId hid)
  face id scope hid := h'.face id scope (h.face id scope hid)

theorem Job.InScope.mono {job : Job F} (h : job.InScope σ) (hle : σ.Le τ) : job.InScope τ := by
  unfold Job.InScope at h ⊢
  cases href : job.ref with
  | photo photoId jobType =>
    rw [href] at h
    exact hle.photoJob _ _ h
  | participantFace eventId participantId faceImageId =>
    rw [href] at h
    exact hle.participant _ _ h
  | faceSearch eventId searchSessionId searchImageId =>
    rw [href] at h
    exact hle.searchSession _ _ h

/-- Rows stay in scope when the scopes grow. -/
theorem Database.RowsInScope.mono (h : db.RowsInScope σ) (hle : σ.Le τ) : db.RowsInScope τ where
  photoMatches := h.photoMatches.imp fun _ hrow =>
    ⟨hle.photo _ _ hrow.1, hle.participant _ _ hrow.2⟩
  faces := h.faces.imp fun _ hrow => ⟨hle.photo _ _ hrow.1, hle.photoJob _ _ hrow.2⟩
  faceMatches := h.faceMatches.imp fun _ hrow =>
    ⟨hle.photo _ _ hrow.1, hle.face _ _ hrow.2.1, hle.participant _ _ hrow.2.2⟩
  selfies := h.selfies.imp fun _ hrow => hle.participant _ _ hrow
  embeddings := h.embeddings.imp fun _ hrow => hle.participant _ _ hrow
  searchImages := h.searchImages.imp fun _ hrow => hle.searchSession _ _ hrow
  searchResults := h.searchResults.imp fun _ hrow =>
    ⟨hle.searchSession _ _ hrow.1, hle.face _ _ hrow.2⟩
  jobs := h.jobs.imp fun _ hjob => hjob.mono hle

/-- The references that were there lead where they did, and every row agrees with its parents. -/
structure Database.Extends (σ : Scopes) (db : Database F) : Prop where
  le : σ.Le db.scopes
  rows : db.EventScoped

theorem Database.InScope.extends_of_le (h : db.InScope τ) (hle : σ.Le τ) : db.Extends σ where
  le := by
    rw [h.scopes]
    exact hle
  rows := h.eventScoped

theorem Database.EventScoped.extends_self (h : db.EventScoped) : db.Extends db.scopes :=
  ⟨Scopes.Le.refl _, h⟩

/-! ## Rows that are added -/

/-- Where no row is taken away or changed, the references lead where they did. -/
theorem Database.scopes_le {db' : Database F} (hphotos : db.photos.rows ⊆ db'.photos.rows)
    (hparticipants : db.participants.rows ⊆ db'.participants.rows)
    (hsessions : db.faceSearchSessions.rows ⊆ db'.faceSearchSessions.rows)
    (hjobs : db.jobs.rows ⊆ db'.jobs.rows)
    (hfaces : db.photoFaceDetections.rows ⊆ db'.photoFaceDetections.rows) :
    db.scopes.Le db'.scopes where
  photo _ _ h := Table.map_get?_of_mem h fun _ hr _ => hphotos hr
  participant _ _ h := Table.map_get?_of_mem h fun _ hr _ => hparticipants hr
  searchSession _ _ h := Table.map_get?_of_mem h fun _ hr _ => hsessions hr
  photoJob _ _ h := scopes_photoJob_of_kept h fun _ hjob _ => hjobs hjob
  face _ _ h := Table.map_get?_of_mem h fun _ hr _ => hfaces hr

/-- Rows are added: those that were there stay in scope, the others are left to prove. -/
theorem Database.Extends.grow {db' : Database F} (h : db.Extends σ)
    (hle : db.scopes.Le db'.scopes) (hrows : db.RowsInScope db'.scopes → db'.EventScoped) :
    db'.Extends σ :=
  ⟨h.le.trans hle, hrows (h.rows.mono hle)⟩

/-- A session that is opened refers to nothing. -/
theorem Database.Extends.insertSearchSession (h : db.Extends σ) {searchSession : FaceSearchSession}
    {rows : Table FaceSearchSession FaceSearchSession.id}
    (hinsert : db.faceSearchSessions.insert? searchSession = some rows) :
    ({ db with faceSearchSessions := rows } : Database F).Extends σ := by
  refine h.grow (Database.scopes_le ?_ ?_ ?_ ?_ ?_) fun hkept => { hkept with }
  · exact List.Subset.refl _
  · exact List.Subset.refl _
  · exact Table.subset_of_insert? hinsert
  · exact List.Subset.refl _
  · exact List.Subset.refl _

/-! ## Writes that keep the scopes -/

private theorem map_get?_update {α β κ : Type} [DecidableEq κ] {key : α → κ} (t : Table α key)
    (k : κ) {f : α → α} (hkey : ∀ r, key (f r) = key r) {g : α → β} (hg : ∀ r, g (f r) = g r)
    (k' : κ) : ((t.update k f).get? k').map g = (t.get? k').map g := by
  rw [Table.get?_update hkey]
  split
  · rw [Option.map_map]
    exact congrArg (fun g => (t.get? k').map g) (funext hg)
  · rfl

namespace Database.InScope

variable (h : db.InScope σ)

include h

/-- A job is replaced by one with its references. -/
theorem putJob {job : Job F} (hjob : job.InScope σ) : (db.putJob job).InScope σ where
  scopes := by
    rw [← h.scopes]
    have hphotoJob : (db.putJob job).scopes.photoJob = db.scopes.photoJob := by
      funext id
      change ((db.jobs.put job).get? (.photo, id)).bind Job.photoId? = _
      rw [Table.get?_put]
      split
      · rename_i hkey
        cases hold : db.jobs.get? (.photo, id) with
        | none => simp [Database.scopes, hold]
        | some old =>
          rw [← h.scopes, Job.InScope] at hjob
          cases href : job.ref with
          | photo photoId jobType =>
            have hid : job.id = id := (congrArg Prod.snd hkey).symm
            rw [href, hid] at hjob
            rw [hjob]
            simp [Job.photoId?, href]
          | participantFace eventId participantId faceImageId =>
            have hkind := congrArg Prod.fst hkey
            simp [Job.key, href, JobRef.kind] at hkind
          | faceSearch eventId searchSessionId searchImageId =>
            have hkind := congrArg Prod.fst hkey
            simp [Job.key, href, JobRef.kind] at hkind
      · rfl
    rw [Database.scopes, Database.scopes]
    congr 1
  rows := { h.rows with jobs := h.rows.jobs.put hjob }

theorem setPhotoStatus (photoId : Uuid) (status : PhotoStatus) :
    (db.setPhotoStatus photoId status).InScope σ where
  scopes := by
    rw [← h.scopes]
    have hphoto : (db.setPhotoStatus photoId status).scopes.photo = db.scopes.photo := by
      funext id
      exact map_get?_update db.photos photoId (f := fun photo => { photo with status := status })
        (g := Photo.eventId) (fun _ => rfl) (fun _ => rfl) id
    rw [Database.scopes, Database.scopes]
    congr 1
  rows := { h.rows with }

/-- A session keeps its identifier and its event. -/
theorem updateSearchSession (searchSessionId : Uuid) {f : FaceSearchSession → FaceSearchSession}
    (hid : ∀ s, (f s).id = s.id) (hevent : ∀ s, (f s).eventId = s.eventId) :
    (db.updateSearchSession searchSessionId f).InScope σ where
  scopes := by
    rw [← h.scopes]
    have hsession : (db.updateSearchSession searchSessionId f).scopes.searchSession =
        db.scopes.searchSession := by
      funext id
      exact map_get?_update db.faceSearchSessions searchSessionId hid hevent id
    rw [Database.scopes, Database.scopes]
    congr 1
  rows := { h.rows with }

theorem setSearchImage (searchImageId : Uuid) (status : ImageStatus)
    (errorMessage : Option Text) :
    (db.setSearchImage searchImageId status errorMessage).InScope σ where
  scopes := h.scopes
  rows := { h.rows with
    searchImages := h.rows.searchImages.update searchImageId fun _ himage => himage }

theorem setFaceImage (faceImageId : Uuid) (status : ImageStatus) (errorMessage : Option Text) :
    (db.setFaceImage faceImageId status errorMessage).InScope σ where
  scopes := h.scopes
  rows := { h.rows with
    selfies := h.rows.selfies.update faceImageId fun _ himage => himage }

/-- An upsert of a final match keeps the columns that a stored match repeats. -/
theorem upsertMatch [Scalar F] {row : PhotoParticipantMatch F} (hrow : row.InScope σ) :
    (db.upsertMatch row).InScope σ where
  scopes := h.scopes
  rows := { h.rows with
    photoMatches := h.rows.photoMatches.upsert hrow fun _ hold _ => hold }

theorem upsertMatches [Scalar F] {rows : List (PhotoParticipantMatch F)}
    (hrows : ∀ row ∈ rows, row.InScope σ) : (db.upsertMatches rows).InScope σ := by
  induction rows generalizing db with
  | nil => exact h
  | cons row rows ih =>
    exact ih (h.upsertMatch (hrows row List.mem_cons_self)) fun r hr =>
      hrows r (List.mem_cons_of_mem row hr)

theorem upsertFaceMatch [Scalar F] {row : FaceParticipantMatch F} (hrow : row.InScope σ) :
    (db.upsertFaceMatch row).InScope σ where
  scopes := h.scopes
  rows := { h.rows with
    faceMatches := h.rows.faceMatches.upsert hrow fun _ hold _ => hold }

end Database.InScope

end RaceFrame
