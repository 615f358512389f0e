import Mathlib.Logic.Relation
import RaceFrame.Isolation.Rosters
import RaceFrame.Isolation.Uploads
import RaceFrame.Search.Gallery
import RaceFrame.Upload.Deduplication

/-!
# Event isolation

The operations that write the rows of an event, each in any of its events and in
any order: uploads, calls of the workers, bib-only searches, edits and rebuilds
of rosters. In every database that they lead to, every row has the event of its
parents, so a gallery of one event shows no photo of another.
-/

namespace RaceFrame

open Core Request

variable {F : Type} [CeilScalar F]

/-- The transaction of one photo of a rebuild, which others may precede and follow. -/
theorem Database.InScope.serve_createParticipantMatches {σ : Scopes} {db : Database F}
    (h : db.InScope σ) (world : World) {photo : Photo}
    (hphoto : σ.photo photo.id = some photo.eventId) (detections : List (PhotoTextDetection F)) :
    (serve world (Photographer.createParticipantMatches photo detections) db).2.InScope σ := by
  have hsettled : (Session.sessionLocal world db).Settled := ⟨rfl, rfl⟩
  obtain ⟨-, t, hrun, -, hcommitted⟩ := createParticipantMatches_spec hsettled photo detections
  unfold serve
  rw [hrun]
  dsimp only
  rw [hcommitted]
  refine h.upsertMatches fun row hrow => ?_
  rw [← h.scopes] at hphoto ⊢
  exact inScope_of_mem_ocrMatches hphoto hrow

section Steps

variable (cfg : SeedSettings F) (uploads : UploadConfig) (lower : Text → Text)
  (parseFloat : Text → Option F)

/-- One operation. -/
inductive EventStep : Database F → Database F → Prop
  /-- A photo is uploaded to an event. -/
  | photoUpload {db : Database F} {s : UploadState F} (rows : db.withUploads s.rows = db)
    (eventId : Uuid) (fileName contentType : Text) (content : Bytes)
    (idempotencyKey : Option Text) :
    EventStep db (db.withUploads ((ingestPhotoUpload uploads eventId fileName contentType content
      idempotencyKey).run s).2.rows)
  /-- A selfie of a participant is uploaded. -/
  | selfieUpload {db : Database F} {s : UploadState F} (rows : db.withUploads s.rows = db)
    {participant : Participant} (stored : participant ∈ db.participants.rows)
    (fileName contentType : Text) (content : Bytes) :
    EventStep db (db.withUploads ((ingestParticipantSelfieUpload uploads participant fileName
      contentType content).run s).2.rows)
  /-- A file of a selfie search is uploaded; a session that is carried over is one that an earlier
  file of the request has opened in the event and that is still there, as its foreign key asks. -/
  | searchUpload {db : Database F} {s : UploadState F} (rows : db.withUploads s.rows = db)
    (eventId : Uuid) {searchSession : Option FaceSearchSession}
    (carried : ∀ opened, searchSession = some opened →
      ∃ stored ∈ db.faceSearchSessions.rows, stored.id = opened.id ∧ stored.eventId = eventId)
    (participant : Option Participant) (fileName contentType : Text) (content : Bytes) :
    EventStep db (db.withUploads ((ingestFaceSearchUpload uploads eventId searchSession participant
      fileName contentType content).run s).2.rows)
  /-- A worker claims, renews, fails or completes a job. -/
  | worker (db : Database F) (world : World) (call : WorkerCall F) :
    EventStep db (call.serve cfg.toSettings world db).2
  /-- A participant is searched for without a selfie. -/
  | bibOnly {db : Database F} (world : World) {eventId : Uuid}
    {candidatePhotos : Database F → List (LoadedPhoto F)}
    (loads : ∀ db : Database F, db.LoadsEventPhotos eventId (candidatePhotos db))
    {participant : Participant} (stored : participant ∈ db.participantsOf eventId) :
    EventStep db (serve world (createBibOnlyFaceSearchSession parseFloat cfg candidatePhotos
      eventId participant) db).2
  /-- The roster of an event is edited. -/
  | roster (db : Database F) (world : World) (action : RosterAction) :
    EventStep db (action.serve lower world db).2
  /-- The matches of an event are rebuilt, to the end or not. -/
  | rebuild {db db' : Database F} {world : World} {eventId : Uuid}
    (leaves : RebuildLeaves world eventId db db') : EventStep db db'
  /-- A rebuild that has loaded a photo before goes on with it. -/
  | rebuildPhoto {db : Database F} (world : World) {photo : Photo}
    (stored : db.photoEvent? photo.id = some photo.eventId)
    (detections : List (PhotoTextDetection F)) :
    EventStep db (serve world (Photographer.createParticipantMatches photo detections) db).2

end Steps

variable {cfg : SeedSettings F} {uploads : UploadConfig} {lower : Text → Text}
  {parseFloat : Text → Option F}

omit [CeilScalar F] in
/-- An upload leaves the tables that it does not know as they are. -/
private theorem eventScoped_upload {db : Database F} {s : UploadState F} {α : Type}
    {x : Ingest F α} (hx : Ingest.StaysInScope db db.scopes x) (rows : db.withUploads s.rows = db)
    (h : db.EventScoped) : (db.withUploads (x.run s).2.rows).EventScoped := by
  have hstart : s.rows.Extends db db.scopes := by
    unfold UploadRows.Extends
    rw [rows]
    exact h.extends_self
  exact (hx s hstart).rows

/-- Every operation leaves every row in agreement with its parents. -/
theorem EventStep.eventScoped {db db' : Database F}
    (hstep : EventStep cfg uploads lower parseFloat db db') (h : db.EventScoped) :
    db'.EventScoped := by
  cases hstep with
  | photoUpload rows eventId fileName contentType content idempotencyKey =>
    exact eventScoped_upload (staysInScope_ingestPhotoUpload uploads _ _ _ _ _) rows h
  | selfieUpload rows stored fileName contentType content =>
    have hparticipant := scopes_participant_of_mem stored
    exact eventScoped_upload
      (staysInScope_ingestParticipantSelfieUpload uploads hparticipant _ _ _) rows h
  | searchUpload rows eventId carried participant fileName contentType content =>
    refine eventScoped_upload
      (staysInScope_ingestFaceSearchUpload uploads (fun opened hopened => ?_) _ _ _ _) rows h
    obtain ⟨stored, hstored, hid, hevent⟩ := carried opened hopened
    rw [← hid, ← hevent]
    exact scopes_searchSession_of_mem hstored
  | worker world call => exact call.serve_eventScoped cfg.toSettings world h
  | bibOnly world loads stored =>
    exact eventScoped_createBibOnlyFaceSearchSession h world parseFloat cfg _ _ _
  | roster world action => exact action.serve_eventScoped lower world h
  | rebuild leaves => exact leaves.eventScoped h
  | rebuildPhoto world stored detections =>
    exact (h.inScope.serve_createParticipantMatches world stored detections).eventScoped

/-- In every run of operations, every row agrees with its parents. -/
theorem eventScoped_of_run {db : Database F}
    (h : Relation.ReflTransGen (EventStep cfg uploads lower parseFloat) Database.empty db) :
    db.EventScoped := by
  induction h with
  | refl => exact eventScoped_empty
  | tail _ hstep ih => exact hstep.eventScoped ih

/-! ## Galleries -/

namespace Database.EventScoped

variable {db : GalleryDatabase F} (h : db.toDatabase.EventScoped)

include h

omit [CeilScalar F] in
/-- The photo of a result of a session is one of the event of the session. -/
private theorem photo_of_mem_sessionResults {searchSession : FaceSearchSession}
    {result : FaceSearchResult F} (hresult : result ∈ db.sessionResults searchSession)
    {photo : Photo} (hphoto : db.photos.get? result.photoId = some photo) :
    photo.eventId = searchSession.eventId := by
  obtain ⟨hmem, hselected⟩ := List.mem_filter.mp hresult
  rw [Bool.and_eq_true, beq_iff_eq, beq_iff_eq] at hselected
  obtain ⟨face, hface, hscope⟩ := Option.map_eq_some_iff.mp (h.searchResults result hmem).2
  have hfaceScope := (h.faces face (Table.mem_of_get? hface)).1
  have hphotoScope := scopes_photo_of_mem (Table.mem_of_get? hphoto)
  rw [Prod.mk.injEq] at hscope
  rw [hscope.1, hscope.2, hselected.2] at hfaceScope
  rw [Table.get?_key hphoto, hfaceScope] at hphotoScope
  exact (Option.some.inj hphotoScope).symm

private theorem event_of_mem_keepBest (cfg : GallerySettings F) {searchSession : FaceSearchSession}
    {results : List (FaceSearchResult F)} (hresults : results ⊆ db.sessionResults searchSession) :
    ∀ entry ∈ results.foldl (keepBestByPhoto db cfg) [],
      entry.1.eventId = searchSession.eventId := by
  apply List.foldlRecOn (motive := fun best : List (Photo × F) =>
    ∀ entry ∈ best, entry.1.eventId = searchSession.eventId) results _
  · simp
  · intro best hbest result hresult
    unfold keepBestByPhoto
    cases hphoto : db.photos.get? result.photoId with
    | none => exact hbest
    | some photo =>
      have hevent := h.photo_of_mem_sessionResults (hresults hresult) hphoto
      dsimp only
      split
      · exact hbest
      · split
        · intro entry hentry
          rcases List.mem_append.mp hentry with hold | hnew
          · exact hbest entry hold
          · rw [List.mem_singleton.mp hnew]
            exact hevent
        · split
          · intro entry hentry
            obtain ⟨old, hold, rfl⟩ := List.mem_map.mp hentry
            split
            · exact hevent
            · exact hbest old hold
          · exact hbest

/-- A gallery of an event shows photos of the event. -/
theorem gallery (cfg : GallerySettings F) (eventId : Uuid) (faceSessionId : Text)
    (offset limit : ℤ) :
    ∀ item ∈ (listFaceSearchPhotoItems db cfg eventId faceSessionId offset limit).2.1,
      item.photo.eventId = eventId := by
  intro item hitem
  unfold listFaceSearchPhotoItems at hitem
  split at hitem
  · cases hitem
  · split at hitem
    · cases hitem
    · rename_i searchSession hsession
      have hselected := List.find?_some hsession
      rw [Bool.and_eq_true, beq_iff_eq, beq_iff_eq] at hselected
      rw [← hselected.2]
      have hlisted := List.mem_of_mem_drop (List.mem_of_mem_take hitem)
      split at hlisted
      · obtain ⟨entry, hentry, rfl⟩ := List.mem_map.mp hlisted
        rw [List.mem_insertionSort] at hentry
        refine h.event_of_mem_keepBest cfg (fun result hresult => ?_) entry hentry
        have hsorted := List.mem_of_mem_take hresult
        rwa [List.mem_insertionSort] at hsorted
      · have hphoto := List.mem_map_of_mem (f := UserSearchPhotoItem.photo) hlisted
        exact ((mem_participantPhotoItems db cfg searchSession _).mp hphoto).2.1

end Database.EventScoped

/-- Events are isolated: whatever operations lead to a database, every row has the event of its
parents, and every photo in a gallery of an event is one of that event. -/
theorem events_isolated {db : Database F}
    (h : Relation.ReflTransGen (EventStep cfg uploads lower parseFloat) Database.empty db) :
    db.EventScoped ∧ ∀ shown : GalleryDatabase F, shown.toDatabase = db →
      ∀ (galleryCfg : GallerySettings F) (eventId : Uuid) (faceSessionId : Text)
        (offset limit : ℤ),
        ∀ item ∈ (listFaceSearchPhotoItems shown galleryCfg eventId faceSessionId offset
          limit).2.1, item.photo.eventId = eventId := by
  have hscoped := eventScoped_of_run h
  refine ⟨hscoped, ?_⟩
  rintro shown rfl galleryCfg eventId faceSessionId offset limit
  exact hscoped.gallery galleryCfg eventId faceSessionId offset limit

/-! ## Two events -/

/-- A file is uploaded to event 7. -/
def firstUpload : UploadState ℚ := ((uploadPixel ['a']).run freshUploads).2

/-- The same file is uploaded to event 8. -/
def secondUpload : UploadState ℚ :=
  ((ingestPhotoUpload pixelConfig 8 "start.png".toList "image/png".toList blackPixel none).run
    firstUpload).2

/-- The same file is uploaded for a search in event 7. -/
def searchUpload : UploadState ℚ :=
  ((ingestFaceSearchUpload pixelConfig 7 none none "start.png".toList "image/png".toList
    blackPixel).run secondUpload).2

/-- A participant with the bib 12 is added to both events. -/
def twoRosters : List (World × RosterAction) :=
  [(World.still 0 fun _ => 71, .edit (.add 7 "12".toList "Ada".toList)),
    (World.still 0 fun _ => 81, .edit (.add 8 "12".toList "Bob".toList))]

/-- A worker reads the bib on both photos and finds the same face on both and on the selfie. -/
def twoCompletions : List (Event ℚ) :=
  let texts : List (OCRDetectionPayload ℚ) := [⟨"12".toList, "12".toList, some (9 / 10), none⟩]
  let faces : List (FaceDetectionPayload ℚ) := [⟨0, firstUnit ℚ, none, none, none⟩]
  [.at 1000 501 (.claim (.photo [.ocr])), .at 1001 502 (.claim (.photo [.ocr])),
    .at 1002 503 (.claim (.photo [.facePhotoScan])),
    .at 1003 504 (.claim (.photo [.facePhotoScan])),
    .at 1004 505 (.claim .faceSearch),
    .at 2000 0 (.completePhoto 2 ⟨501, texts, [], none⟩),
    .at 2001 0 (.completePhoto 5 ⟨502, texts, [], none⟩),
    .at 2002 601 (.completePhoto 3 ⟨503, [], faces, none⟩),
    .at 2003 602 (.completePhoto 6 ⟨504, [], faces, none⟩),
    .at 2004 0 (.completeFaceSearch 9 ⟨⟨firstUnit ℚ, none, none, none, none⟩, 505⟩)]

/-- The database after the uploads. -/
def twoEventsUploaded : Database ℚ :=
  [firstUpload, secondUpload, searchUpload].foldl (fun db s => db.withUploads s.rows)
    Database.empty

/-- The uploads, the rosters and the work of the worker. -/
def twoEvents : Database ℚ :=
  runEvents (Settings.environment ℚ) (runActions id twoEventsUploaded twoRosters) twoCompletions

private theorem reaches_foldl {α : Type} {f : Database F → α → Database F}
    (h : ∀ db a, EventStep cfg uploads lower parseFloat db (f db a)) (as : List α)
    (db : Database F) :
    Relation.ReflTransGen (EventStep cfg uploads lower parseFloat) db (as.foldl f db) := by
  induction as generalizing db with
  | nil => exact .refl
  | cons a as ih => exact .head (h db a) (ih (f db a))

/-- Calls of workers are a run of operations. -/
theorem reaches_runEvents (db : Database F) (es : List (Event F)) :
    Relation.ReflTransGen (EventStep cfg uploads lower parseFloat) db
      (runEvents cfg.toSettings db es) :=
  reaches_foldl (fun db e => .worker db e.world e.call) es db

/-- Edits of rosters are a run of operations. -/
theorem reaches_runActions (db : Database F) (actions : List (World × RosterAction)) :
    Relation.ReflTransGen (EventStep cfg uploads lower parseFloat) db
      (runActions lower db actions) :=
  reaches_foldl (fun db action => .roster db action.1 action.2) actions db

private abbrev TwoEventsStep : Database ℚ → Database ℚ → Prop :=
  EventStep (SeedSettings.environment ℚ) pixelConfig id fun _ => none

private theorem reaches_twoEvents :
    Relation.ReflTransGen TwoEventsStep Database.empty twoEvents := by
  have hfirst : TwoEventsStep Database.empty (Database.empty.withUploads firstUpload.rows) :=
    .photoUpload rfl _ _ _ _ _
  have hsecond : TwoEventsStep (Database.empty.withUploads firstUpload.rows)
      ((Database.empty.withUploads firstUpload.rows).withUploads secondUpload.rows) :=
    .photoUpload rfl _ _ _ _ _
  have hsearch : TwoEventsStep
      ((Database.empty.withUploads firstUpload.rows).withUploads secondUpload.rows)
      twoEventsUploaded := by
    refine .searchUpload rfl _ (fun opened hopened => ?_) _ _ _ _
    cases hopened
  exact (((Relation.ReflTransGen.single hfirst).tail hsecond).tail hsearch).trans
    ((reaches_runActions twoEventsUploaded twoRosters).trans (reaches_runEvents _ twoCompletions))

/-- Each event has its match, although the bibs are the same, and the search of event 7 has found
the photo of event 7 only. -/
theorem twoEvents_isolated :
    (twoEvents.photoParticipantMatches.rows.map fun row =>
      (row.eventId, row.photoId, row.participantId)) = [(7, 1, 71), (8, 4, 81)] ∧
    (twoEvents.photoFaceDetections.rows.map fun face => (face.eventId, face.photoId)) =
      [(7, 1), (8, 4)] ∧
    (twoEvents.faceSearchResults.rows.map fun row => (row.eventId, row.photoId)) = [(7, 1)] ∧
    twoEvents.EventScoped :=
  ⟨by decide +kernel, by decide +kernel, by decide +kernel, (events_isolated reaches_twoEvents).1⟩

end RaceFrame
