import RaceFrame.Core.Invariants
import RaceFrame.Isolation.Scopes
import RaceFrame.Upload.Selfies

/-!
# Uploads in their event

An upload adds an image and its jobs: a photo of an event, a selfie of a
participant with the event of the participant, a search image of a session with
the event of the session. It only adds rows, so no reference leads elsewhere
afterwards.
-/

namespace RaceFrame

open Core

variable {F α : Type} {σ : Scopes}

/-! ## The tables of an upload -/

/-- The database with the tables that uploads write. -/
def Database.withUploads (db : Database F) (rows : UploadRows F) : Database F :=
  { db with
    photos :=
      { rows := rows.photos.rows.map StoredPhoto.photo
        nodup := by
          rw [List.map_map]
          exact rows.photos.nodup }
    jobs := rows.jobs
    participantFaceImages := rows.participantFaceImages
    faceSearchSessions := rows.faceSearchSessions
    faceSearchImages := rows.faceSearchImages }

/-- With these rows the database leads where it led, and every row agrees with its parents. -/
def UploadRows.Extends (db : Database F) (σ : Scopes) (rows : UploadRows F) : Prop :=
  (db.withUploads rows).Extends σ

/-- A photo and its jobs are added in scope. -/
theorem UploadRows.Extends.insertPhoto {db : Database F} {rows rows' : UploadRows F}
    (h : rows.Extends db σ) {photo : StoredPhoto} {jobs : List (Job F)}
    (hjobs : ∀ job ∈ jobs, ∃ jobType, job.ref = .photo photo.id jobType)
    (hinsert : rows.insertPhoto? photo jobs = some rows') :
    rows'.Extends db σ := by
  unfold UploadRows.Extends at h ⊢
  unfold UploadRows.insertPhoto? at hinsert
  obtain ⟨photos, hphotos, hinsert⟩ := Option.bind_eq_some_iff.mp hinsert
  obtain ⟨inserted, hinserted, hinsert⟩ := Option.bind_eq_some_iff.mp hinsert
  split at hinsert
  · cases hinsert
    refine h.grow (Database.scopes_le ?_ ?_ ?_ ?_ ?_) fun hkept =>
      { hkept with jobs := hkept.jobs.insertAll? ?_ hinserted }
    · exact List.map_subset _ (Table.subset_of_insert? hphotos)
    · exact List.Subset.refl _
    · exact List.Subset.refl _
    · exact Table.subset_of_insertAll? hinserted
    · exact List.Subset.refl _
    · intro job hjob
      obtain ⟨jobType, href⟩ := hjobs job hjob
      rw [Job.InScope, href]
      apply scopes_photoJob_of_mem _ href
      change job ∈ inserted.rows
      rw [Table.rows_of_insertAll? hinserted]
      exact List.mem_append_right _ hjob
  · cases hinsert

/-- A selfie of a participant and its job are added in scope. -/
theorem UploadRows.Extends.insertFaceImage {db : Database F} {rows rows' : UploadRows F}
    (h : rows.Extends db σ) {image : ParticipantFaceImage}
    (himage : σ.participant image.participantId = some image.eventId) {job : Job F}
    (href : job.ref = .participantFace image.eventId image.participantId image.id)
    (hinsert : rows.insertFaceImage? image job = some rows') :
    rows'.Extends db σ := by
  unfold UploadRows.Extends at h ⊢
  unfold UploadRows.insertFaceImage? at hinsert
  obtain ⟨images, himages, hinsert⟩ := Option.bind_eq_some_iff.mp hinsert
  obtain ⟨jobs, hjobs, hinsert⟩ := Option.bind_eq_some_iff.mp hinsert
  cases hinsert
  have hparticipant := h.le.participant _ _ himage
  refine h.grow (Database.scopes_le ?_ ?_ ?_ ?_ ?_) fun hkept =>
    { hkept with
      selfies := hkept.selfies.insert? hparticipant himages
      jobs := hkept.jobs.insert? ?_ hjobs }
  · exact List.Subset.refl _
  · exact List.Subset.refl _
  · exact List.Subset.refl _
  · exact Table.subset_of_insert? hjobs
  · exact List.Subset.refl _
  · rw [Job.InScope, href]
    exact hparticipant

/-- A search image and its job are added in scope, with the session if the upload has created
it. -/
theorem UploadRows.Extends.insertSearchImage {db : Database F} {rows rows' : UploadRows F}
    (h : rows.Extends db σ) {created : Option FaceSearchSession}
    {image : FaceSearchImage}
    (himage : σ.searchSession image.searchSessionId = some image.eventId ∨
      ∃ opened, created = some opened ∧ opened.id = image.searchSessionId ∧
        opened.eventId = image.eventId) {job : Job F}
    (href : job.ref = .faceSearch image.eventId image.searchSessionId image.id)
    (hinsert : rows.insertSearchImage? created image job = some rows') :
    rows'.Extends db σ := by
  unfold UploadRows.Extends at h ⊢
  unfold UploadRows.insertSearchImage? at hinsert
  obtain ⟨sessions, hsessions, hinsert⟩ := Option.bind_eq_some_iff.mp hinsert
  obtain ⟨images, himages, hinsert⟩ := Option.bind_eq_some_iff.mp hinsert
  obtain ⟨jobs, hjobs, hinsert⟩ := Option.bind_eq_some_iff.mp hinsert
  cases hinsert
  have hle : (db.withUploads rows).scopes.Le (db.withUploads { rows with
      faceSearchSessions := sessions, faceSearchImages := images, jobs := jobs }).scopes :=
    Database.scopes_le (List.Subset.refl _) (List.Subset.refl _)
      (Table.subset_of_insertAll? hsessions) (Table.subset_of_insert? hjobs) (List.Subset.refl _)
  have hsession :
      (db.withUploads { rows with
        faceSearchSessions := sessions, faceSearchImages := images,
        jobs := jobs }).scopes.searchSession image.searchSessionId = some image.eventId := by
    rcases himage with himage | ⟨opened, rfl, hid, hevent⟩
    · exact hle.searchSession _ _ (h.le.searchSession _ _ himage)
    · rw [← hid, ← hevent]
      apply scopes_searchSession_of_mem
      change opened ∈ sessions.rows
      rw [Table.rows_of_insertAll? hsessions]
      exact List.mem_append_right _ (List.mem_singleton_self opened)
  refine h.grow hle fun hkept =>
    { hkept with
      searchImages := hkept.searchImages.insert? hsession himages
      jobs := hkept.jobs.insert? ?_ hjobs }
  rw [Job.InScope, href]
  exact hsession

/-! ## What an upload maintains -/

namespace Ingest

variable {P : UploadRows F → Prop}

/-- The upload keeps the property of the rows, also when it raises. -/
def Maintains (P : UploadRows F → Prop) (x : Ingest F α) : Prop :=
  Program.Maintains (fun s => P s.rows) x

theorem maintains_uuid4 : Maintains P (uuid4 : Ingest F Uuid) := fun _ hs => hs

theorem maintains_utcNow : Maintains P (utcNow : Ingest F Instant) := fun _ hs => hs

theorem maintains_putObject (objectKey : Text) :
    Maintains P (putObject objectKey : Ingest F Unit) := by
  refine Program.Maintains.bind (Program.maintains_gets _) fun outcome => ?_
  exact Program.Maintains.ite (fun _ hs => hs) (Program.maintains_raise _)

theorem maintains_refresh (n : Nat) : Maintains P (refresh n : Ingest F Unit) := by
  refine Program.Maintains.bind (Program.maintains_gets _) fun outcome => ?_
  exact Program.Maintains.ite (Program.maintains_pure _) (Program.maintains_raise _)

theorem maintains_deleteObject (objectKey : Text) :
    Maintains P (deleteObject objectKey : Ingest F Unit) := by
  refine Program.Maintains.ite (Program.maintains_pure _) ?_
  refine Program.Maintains.bind (fun _ hs => hs) fun _ => ?_
  refine Program.Maintains.bind (Program.maintains_gets _) fun outcome => ?_
  have hend : Maintains P (if outcome ≠ .returns then
      Program.raise (.runtimeError "delete_object") else pure () : Ingest F Unit) :=
    Program.Maintains.ite (Program.maintains_raise _) (Program.maintains_pure _)
  exact Program.Maintains.ite (Program.Maintains.bind (fun _ hs => hs) fun _ => hend) hend

theorem maintains_compensate (objectKeys : List Text) :
    Maintains P (compensate objectKeys : Ingest F Unit) := by
  refine Program.Maintains.forM fun objectKey _ => ?_
  exact (maintains_deleteObject objectKey).attempt.bind fun _ => Program.maintains_pure _

/-- A commit keeps what its change keeps. -/
theorem maintains_commit {change : UploadRows F → Option (UploadRows F)}
    (h : ∀ rows rows', P rows → change rows = some rows' → P rows') :
    Maintains P (commit change) := by
  refine Program.maintains_gets_bind _ fun s hs => ?_
  cases hchange : change s.rows with
  | none => exact Program.maintains_raise _
  | some rows =>
    have hrows := h s.rows rows hs hchange
    refine Program.Maintains.bind (Program.maintains_gets _) fun outcome => ?_
    exact Program.Maintains.ite (fun _ _ => hrows) (Program.maintains_raise _)

theorem maintains_flush (change : UploadRows F → Option (UploadRows F)) :
    Maintains P (flush change) := by
  refine Program.Maintains.bind (Program.maintains_gets _) fun changed => ?_
  cases changed with
  | none => exact Program.maintains_raise _
  | some rows => exact Program.maintains_pure _

theorem maintains_scalarOneOrNone {β : Type} (rows : List β) :
    Maintains P (scalarOneOrNone rows : Ingest F (Option β)) := by
  unfold scalarOneOrNone
  split
  · exact Program.maintains_pure _
  · exact Program.maintains_pure _
  · exact Program.maintains_raise _

end Ingest

/-! ## The uploads -/

variable (cfg : UploadConfig) {db : Database F}

/-- The rows that an upload works on grow in scope. -/
def Ingest.StaysInScope (db : Database F) (σ : Scopes) (x : Ingest F α) : Prop :=
  Ingest.Maintains (UploadRows.Extends db σ) x

private theorem staysInScope_publishPhotoRows (photo : StoredPhoto) :
    Ingest.StaysInScope db σ (publishPhotoRows (F := F) cfg photo) := by
  refine Program.Maintains.bind Ingest.maintains_uuid4 fun ocrJobId => ?_
  refine Program.Maintains.bind Ingest.maintains_uuid4 fun faceJobId => ?_
  refine Program.Maintains.bind Ingest.maintains_utcNow fun createdAt => ?_
  refine Program.Maintains.bind Ingest.maintains_utcNow fun ocrCreatedAt => ?_
  refine Program.Maintains.bind Ingest.maintains_utcNow fun faceCreatedAt => ?_
  apply Program.Maintains.bind
  · refine Ingest.maintains_commit fun rows rows' h hinsert => h.insertPhoto ?_ hinsert
    intro job hjob
    rcases List.mem_pair.mp hjob with rfl | rfl
    · exact ⟨_, rfl⟩
    · exact ⟨_, rfl⟩
  · intro _
    exact (Ingest.maintains_refresh 0).bind fun _ => Program.maintains_pure _

private theorem staysInScope_storePhotoObjects (content : Bytes)
    (objectKey thumbnailObjectKey : Text) :
    Ingest.StaysInScope db σ
      (storePhotoObjects (F := F) cfg content objectKey thumbnailObjectKey) := by
  unfold storePhotoObjects
  split
  · exact Program.maintains_raise _
  · exact (Ingest.maintains_putObject _).bind fun _ => Ingest.maintains_putObject _

private theorem staysInScope_ingestNewPhoto (eventId : Uuid) (fileName contentType : Text)
    (content : Bytes) (idempotencyKey : Option Text) (sha256 : Text) :
    Ingest.StaysInScope db σ
      (ingestNewPhoto (F := F) cfg eventId fileName contentType content idempotencyKey sha256) := by
  refine Program.Maintains.bind Ingest.maintains_uuid4 fun photoId => ?_
  refine Program.Maintains.bind (staysInScope_storePhotoObjects cfg _ _ _).attempt fun stored => ?_
  cases stored with
  | error e =>
    exact (Ingest.maintains_compensate _).bind fun _ => Program.maintains_pure _
  | ok _ =>
    refine Program.Maintains.bind (staysInScope_publishPhotoRows cfg _).attempt fun published => ?_
    cases published with
    | error e =>
      exact (Ingest.maintains_compensate _).bind fun _ => Program.maintains_pure _
    | ok photo => exact Program.maintains_pure _

/-- An upload of a photo adds rows in scope. -/
theorem staysInScope_ingestPhotoUpload (eventId : Uuid) (fileName contentType : Text)
    (content : Bytes) (idempotencyKey : Option Text) :
    Ingest.StaysInScope db σ
      (ingestPhotoUpload (F := F) cfg eventId fileName contentType content idempotencyKey) := by
  refine Program.Maintains.ite (Program.maintains_pure _) ?_
  split
  · exact Program.maintains_pure _
  · refine Program.Maintains.bind (Program.maintains_gets _) fun rows => ?_
    refine Program.Maintains.bind (Ingest.maintains_scalarOneOrNone _) fun found => ?_
    cases found with
    | some existing => exact Program.maintains_pure _
    | none =>
      refine Program.Maintains.ite (Program.maintains_pure _) ?_
      exact staysInScope_ingestNewPhoto cfg _ _ _ _ _ _

private theorem staysInScope_publishSelfieRows {faceImage : ParticipantFaceImage}
    (himage : σ.participant faceImage.participantId = some faceImage.eventId) :
    Ingest.StaysInScope db σ (publishSelfieRows (F := F) cfg faceImage) := by
  refine Program.Maintains.bind Ingest.maintains_uuid4 fun jobId => ?_
  refine Program.Maintains.bind Ingest.maintains_utcNow fun createdAt => ?_
  refine Program.Maintains.bind ?_ fun _ => Ingest.maintains_refresh 0
  exact Ingest.maintains_commit fun rows rows' h hinsert => h.insertFaceImage himage rfl hinsert

/-- An upload of a selfie adds rows of the event of its participant. -/
theorem staysInScope_ingestParticipantSelfieUpload {participant : Participant}
    (hparticipant : σ.participant participant.id = some participant.eventId)
    (fileName contentType : Text) (content : Bytes) :
    Ingest.StaysInScope db σ
      (ingestParticipantSelfieUpload (F := F) cfg participant fileName contentType content) := by
  refine Program.Maintains.ite (Program.maintains_pure _) ?_
  split
  · exact Program.maintains_pure _
  · refine Program.Maintains.bind Ingest.maintains_uuid4 fun faceImageId => ?_
    refine Program.Maintains.bind (Ingest.maintains_putObject _).attempt fun stored => ?_
    cases stored with
    | error e => exact Program.maintains_pure _
    | ok _ =>
      refine Program.Maintains.bind
        (staysInScope_publishSelfieRows cfg hparticipant).attempt fun published => ?_
      cases published with
      | error e => exact (Ingest.maintains_compensate _).bind fun _ => Program.maintains_pure _
      | ok _ => exact Program.maintains_pure _

private theorem staysInScope_publishSearchRows {created : Option FaceSearchSession}
    {searchImage : FaceSearchImage}
    (himage : σ.searchSession searchImage.searchSessionId = some searchImage.eventId ∨
      ∃ opened, created = some opened ∧ opened.id = searchImage.searchSessionId ∧
        opened.eventId = searchImage.eventId) :
    Ingest.StaysInScope db σ (publishSearchRows (F := F) cfg created searchImage) := by
  refine Program.Maintains.bind Ingest.maintains_uuid4 fun jobId => ?_
  refine Program.Maintains.bind Ingest.maintains_utcNow fun createdAt => ?_
  apply Program.Maintains.bind
  · exact Ingest.maintains_commit fun rows rows' h hinsert =>
      h.insertSearchImage himage rfl hinsert
  · exact fun _ => (Ingest.maintains_refresh 0).bind fun _ => Ingest.maintains_refresh 1

private theorem staysInScope_ingestNewSearchImage {eventId : Uuid}
    {searchSession : Option FaceSearchSession} {opened : FaceSearchSession}
    (hopened : σ.searchSession opened.id = some eventId ∨
      searchSession = none ∧ opened.eventId = eventId) (fileName contentType : Text) :
    Ingest.StaysInScope db σ
      (ingestNewSearchImage (F := F) cfg eventId searchSession opened fileName contentType) := by
  refine Program.Maintains.bind Ingest.maintains_uuid4 fun searchImageId => ?_
  refine Program.Maintains.bind (Ingest.maintains_putObject _).attempt fun stored => ?_
  cases stored with
  | error e => exact Program.maintains_pure _
  | ok _ =>
    apply Program.Maintains.bind
    · refine (staysInScope_publishSearchRows cfg ?_).attempt
      rcases hopened with hcarried | ⟨rfl, hevent⟩
      · exact Or.inl hcarried
      · exact Or.inr ⟨opened, rfl, rfl, hevent⟩
    · intro published
      cases published with
      | error e => exact (Ingest.maintains_compensate _).bind fun _ => Program.maintains_pure _
      | ok _ => exact Program.maintains_pure _

/-- A session that is opened is one of the event. -/
private theorem maintains_openSearchSession_bind {P : UploadRows F → Prop} {eventId : Uuid}
    {participant : Option Participant} {f : FaceSearchSession → Ingest F α}
    (hf : ∀ opened, opened.eventId = eventId → Ingest.Maintains P (f opened)) :
    Ingest.Maintains P (openSearchSession eventId none participant >>= f) := by
  rw [openSearchSession, bind_assoc]
  refine Program.Maintains.bind Ingest.maintains_uuid4 fun id => ?_
  rw [bind_assoc]
  exact (Ingest.maintains_flush _).bind fun _ => hf _ rfl

/-- An upload of a search image adds rows of the event of its session. -/
theorem staysInScope_ingestFaceSearchUpload {eventId : Uuid}
    {searchSession : Option FaceSearchSession}
    (hcarried : ∀ carried, searchSession = some carried →
      σ.searchSession carried.id = some eventId) (participant : Option Participant)
    (fileName contentType : Text) (content : Bytes) :
    Ingest.StaysInScope db σ (ingestFaceSearchUpload (F := F) cfg eventId searchSession participant
      fileName contentType content) := by
  refine Program.Maintains.ite (Program.maintains_pure _) ?_
  refine Program.Maintains.bind (Program.maintains_gets _) fun activeJobs => ?_
  refine Program.Maintains.ite (Program.maintains_pure _) ?_
  split
  · exact Program.maintains_pure _
  · cases searchSession with
    | some carried =>
      rw [openSearchSession, pure_bind]
      exact staysInScope_ingestNewSearchImage cfg (Or.inl (hcarried carried rfl)) _ _
    | none =>
      exact maintains_openSearchSession_bind fun opened hevent =>
        staysInScope_ingestNewSearchImage cfg (Or.inr ⟨rfl, hevent⟩) _ _

end RaceFrame
