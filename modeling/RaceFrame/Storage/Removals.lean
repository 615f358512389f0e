import RaceFrame.Events.Deletion
import RaceFrame.Search.Purge

/-!
# What the deletions remove

The rows that hold object keys, with the rows that these belong to. Every deletion
removes those that a condition selects, collects exactly their keys, and leaves no
selfie, search image or session without the row that it belongs to.
-/

namespace RaceFrame

open Core

variable {F : Type}

/-! ## Rows with keys -/

/-- The rows that hold object keys and those that they belong to. -/
structure KeyRows where
  participants : List Participant
  photos : List Photo
  faceImages : List ParticipantFaceImage
  searchSessions : List FaceSearchSession
  searchImages : List FaceSearchImage

/-- Those rows of a database. -/
def Database.keyRows (db : Database F) : KeyRows where
  participants := db.participants.rows
  photos := db.photos.rows
  faceImages := db.participantFaceImages.rows
  searchSessions := db.faceSearchSessions.rows
  searchImages := db.faceSearchImages.rows

/-- Every selfie, search image and search session belongs to a row of its event. -/
structure KeyRows.Scoped (rows : KeyRows) : Prop where
  faceImages : ∀ image ∈ rows.faceImages, ∃ participant ∈ rows.participants,
    participant.id = image.participantId ∧ participant.eventId = image.eventId
  searchSessions : ∀ row ∈ rows.searchSessions, ∀ id, row.participantId = some id →
    ∃ participant ∈ rows.participants, participant.id = id ∧ participant.eventId = row.eventId
  searchImages : ∀ image ∈ rows.searchImages, ∃ row ∈ rows.searchSessions,
    row.id = image.searchSessionId ∧ row.eventId = image.eventId

/-- The rows that are to be removed. -/
structure RowSelection where
  photo : Photo → Bool
  faceImage : ParticipantFaceImage → Bool
  searchImage : FaceSearchImage → Bool

/-- No rows. -/
def RowSelection.none : RowSelection := ⟨fun _ => false, fun _ => false, fun _ => false⟩

/-- The keys in the selected rows. -/
def KeyRows.selectedKeys (rows : KeyRows) (thumbnailObjectKey : Photo → Option Text)
    (selection : RowSelection) : List Text :=
  ((rows.photos.filter selection.photo).flatMap fun photo =>
    photo.originalObjectKey :: (thumbnailObjectKey photo).toList) ++
    (rows.faceImages.filter selection.faceImage).map (·.objectKey) ++
      (rows.searchImages.filter selection.searchImage).map (·.objectKey)

/-- The selected rows are gone, and what is left is still in scope. -/
structure KeyRows.Removes (rows rows' : KeyRows) (selection : RowSelection) : Prop where
  photos : rows'.photos = rows.photos.filter fun photo => !selection.photo photo
  faceImages : rows'.faceImages = rows.faceImages.filter fun image => !selection.faceImage image
  searchImages : rows'.searchImages =
    rows.searchImages.filter fun image => !selection.searchImage image
  inScope : rows.Scoped → rows'.Scoped

/-- The keys that get a deletion task are those that are not empty. -/
theorem mem_flatMap_enqueueObjectDeletion {keys : List Text} {key : Text} :
    key ∈ keys.flatMap enqueueObjectDeletion ↔ key ∈ keys ∧ key ≠ [] := by
  rw [List.mem_flatMap]
  constructor
  · rintro ⟨key', hkey', hkey⟩
    rw [enqueueObjectDeletion] at hkey
    split at hkey
    · cases hkey
    · rename_i hne
      rw [List.mem_singleton.mp hkey]
      exact ⟨hkey', mt List.isEmpty_iff.mpr hne⟩
  · rintro ⟨hkey, hne⟩
    refine ⟨key, hkey, ?_⟩
    rw [enqueueObjectDeletion, if_neg (mt List.isEmpty_iff.mp hne)]
    exact List.mem_singleton_self key

private theorem filter_not_contains_cons {α : Type} {f : α → Uuid} {id : Uuid} {ids : List Uuid}
    {rows : List α} :
    ((rows.filter fun row => !(f row == id)).filter fun row => !ids.contains (f row)) =
      rows.filter fun row => !(id :: ids).contains (f row) := by
  rw [List.filter_filter]
  refine List.filter_congr fun row _ => ?_
  rw [List.contains_cons, Bool.not_or, Bool.and_comm]

private theorem filter_not_contains_nil {α : Type} {f : α → Uuid} {rows : List α} :
    (rows.filter fun row => !([] : List Uuid).contains (f row)) = rows :=
  List.filter_eq_self.mpr fun _ _ => rfl

/-! ## Photos -/

/-- The database after `session.delete(photo)`. -/
def Database.withoutPhoto (db : Database F) (id : Uuid) : Database F :=
  let jobIds := db.photoJobIds id
  let faceIds := db.cascadedFaceIds id
  (((((db.deleteFaceParticipantMatches fun row =>
      row.photoId == id || faceIds.contains row.photoFaceDetectionId).deleteFaceDetections
    fun row => row.photoId == id || jobIds.contains row.photoJobId).deleteTextDetections
    fun row => row.photoId == id || jobIds.contains row.photoJobId).deletePhotoParticipantMatches
    fun row => row.photoId == id).deleteJobs (JobRef.ofPhoto [id])).deletePhotos
    fun row => row.id == id

private theorem keyRows_foldl_withoutPhoto (photos : List Photo) (db : Database F) :
    (photos.foldl (fun db photo => db.withoutPhoto photo.id) db).keyRows =
      { db.keyRows with
        photos := db.keyRows.photos.filter fun row => !(photos.map (·.id)).contains row.id } := by
  induction photos generalizing db with
  | nil => rw [List.map_nil, filter_not_contains_nil, List.foldl_nil]
  | cons photo photos ih =>
    rw [List.foldl_cons, ih, List.map_cons, ← filter_not_contains_cons]
    rfl

/-- The photos are selected, and nothing else. -/
def RowSelection.ofPhotos (ids : List Uuid) : RowSelection :=
  { RowSelection.none with photo := fun photo => ids.contains photo.id }

private theorem removes_photos {rows rows' : KeyRows} {ids : List Uuid}
    (h : rows' = { rows with photos := rows.photos.filter fun row => !ids.contains row.id }) :
    rows.Removes rows' (.ofPhotos ids) := by
  subst h
  refine ⟨rfl, ?_, ?_, fun hscoped => ?_⟩
  · exact (List.filter_true rows.faceImages).symm
  · exact (List.filter_true rows.searchImages).symm
  · exact ⟨hscoped.faceImages, hscoped.searchSessions, hscoped.searchImages⟩

private theorem selectedKeys_ofPhotos (rows : KeyRows) (thumbnailObjectKey : Photo → Option Text)
    (ids : List Uuid) : rows.selectedKeys thumbnailObjectKey (.ofPhotos ids) =
      (rows.photos.filter fun photo => ids.contains photo.id).flatMap fun photo =>
        photo.originalObjectKey :: (thumbnailObjectKey photo).toList := by
  simp only [KeyRows.selectedKeys, RowSelection.ofPhotos, RowSelection.none, List.filter_false,
    List.map_nil, List.append_nil]

private theorem flatMap_photoObjectKeys (thumbnailObjectKey : Photo → Option Text)
    (photos : List Photo) : photos.flatMap (photoObjectKeys thumbnailObjectKey) =
      (photos.flatMap fun photo =>
        photo.originalObjectKey :: (thumbnailObjectKey photo).toList).flatMap
          enqueueObjectDeletion := by
  rw [List.flatMap_assoc]
  refine List.flatMap_congr fun photo _ => ?_
  rw [List.flatMap_cons, photoObjectKeys]
  cases thumbnailObjectKey photo with
  | none => rfl
  | some key => exact congrArg _ (List.append_nil _).symm

/-- What a deletion does to the rows with keys: it removes the selected ones, and collects their
keys and the others given. -/
def Request.Deletes {α : Type} (removal : Request F (α × List Text)) (world : World)
    (db : Database F) (thumbnailObjectKey : Photo → Option Text) (selection : RowSelection)
    (others : List Text) : Prop :=
  ∃ answer objectKeys session,
    removal.run (Session.sessionLocal world db) = (.ok (answer, objectKeys), session) ∧
      db.keyRows.Removes session.committed.keyRows selection ∧
        ∀ key, key ∈ objectKeys ↔
          key ∈ db.keyRows.selectedKeys thumbnailObjectKey selection ++ others ∧ key ≠ []

private theorem keyRows_withoutImprint (db : Database F) (ids : List Uuid) :
    (db.withoutImprint ids).keyRows = db.keyRows := by
  simp only [Database.keyRows, Database.withoutImprint,
    Database.withoutPhotoReferences_participants, Database.withoutPhotoReferences_photos,
    Database.withoutPhotoReferences_participantFaceImages,
    Database.withoutPhotoReferences_faceSearchSessions,
    Database.withoutPhotoReferences_faceSearchImages, Database.withoutFaceReferences_participants,
    Database.withoutFaceReferences_photos, Database.withoutFaceReferences_participantFaceImages,
    Database.withoutFaceReferences_faceSearchSessions,
    Database.withoutFaceReferences_faceSearchImages]

private theorem deletePhotoRow_eq (id : Uuid) :
    deletePhotoRow id = Request.assign fun db : Database F => db.withoutPhoto id := rfl

private theorem deletePhoto_run (thumbnailObjectKey : Photo → Option Text) (world : World)
    (db : Database F) (photo : Photo) :
    (deletePhoto thumbnailObjectKey photo).run (Session.sessionLocal world db) =
      (.ok (photoObjectKeys thumbnailObjectKey photo), Session.sessionLocal world
        ((db.withoutImprint [photo.id]).withoutPhoto photo.id)) := by
  unfold deletePhoto
  rw [Program.run_bind_ok (cleanupPhotoIdentityData_sessionLocal world db [photo.id]),
    deletePhotoRow_eq, Request.run_assign_bind, Request.run_commit_bind, Program.run_pure]
  rfl

private theorem deleteAllEventPhotos_run (thumbnailObjectKey : Photo → Option Text)
    (world : World) (db : Database F) (eventId : Uuid) :
    (deleteAllEventPhotos thumbnailObjectKey eventId).run (Session.sessionLocal world db) =
      (.ok ((db.photosOf eventId).length,
        (db.photosOf eventId).flatMap (photoObjectKeys thumbnailObjectKey)),
        Session.sessionLocal world ((db.photosOf eventId).foldl
          (fun db photo => db.withoutPhoto photo.id)
            (db.withoutImprint ((db.photosOf eventId).map (·.id))))) := by
  have hcleanup :=
    cleanupPhotoIdentityData_sessionLocal world db ((db.photosOf eventId).map (·.id))
  unfold deleteAllEventPhotos
  unfold Database.photosOf at hcleanup ⊢
  rw [Request.run_query_bind, Session.sessionLocal_flushed, Program.run_bind_ok hcleanup]
  simp only [deletePhotoRow_eq]
  rw [Program.run_bind_ok (Request.run_forM_assign _ (fun photo s => Request.run_assign s _) _),
    Request.run_commit_bind, Program.run_pure]
  rfl

/-- `delete_photo` removes the photo. -/
theorem deletes_deletePhoto (world : World) (thumbnailObjectKey : Photo → Option Text)
    {db : Database F} {photo : Photo} (hphoto : photo ∈ db.photos.rows) :
    Request.Deletes (do
      let objectKeys ← deletePhoto thumbnailObjectKey photo
      return ((), objectKeys)) world db thumbnailObjectKey (.ofPhotos [photo.id]) [] := by
  have hselected : db.keyRows.photos.filter (fun row => [photo.id].contains row.id) = [photo] := by
    refine filter_eq_singleton db.photos.rows_nodup hphoto ?_ fun row hrow hid => ?_
    · simp
    · exact Table.eq_of_key_eq hrow hphoto (by simpa using hid)
  have hkeys := flatMap_photoObjectKeys thumbnailObjectKey [photo]
  rw [List.flatMap_singleton, ← hselected, ← selectedKeys_ofPhotos] at hkeys
  refine ⟨(), photoObjectKeys thumbnailObjectKey photo, _,
    Program.run_bind_ok (deletePhoto_run thumbnailObjectKey world db photo), ?_, fun key => ?_⟩
  · have hrows := keyRows_foldl_withoutPhoto [photo] (db.withoutImprint [photo.id])
    rw [keyRows_withoutImprint, List.foldl_cons, List.foldl_nil] at hrows
    exact removes_photos hrows
  · rw [hkeys, mem_flatMap_enqueueObjectDeletion, List.append_nil]

private theorem filter_mem_map_id {photos : Table Photo Photo.id} (p : Photo → Bool) :
    photos.rows.filter (fun row => ((photos.rows.filter p).map (·.id)).contains row.id) =
      photos.rows.filter p := by
  refine List.filter_congr fun row hrow => ?_
  rw [Bool.eq_iff_iff, List.contains_iff_mem, List.mem_map]
  constructor
  · rintro ⟨row', hrow', hid⟩
    obtain ⟨hmem, hp⟩ := List.mem_filter.mp hrow'
    rwa [Table.eq_of_key_eq hmem hrow hid] at hp
  · exact fun hp => ⟨row, List.mem_filter.mpr ⟨hrow, hp⟩, rfl⟩

/-- `delete_all_event_photos` removes the photos of the event. -/
theorem deletes_deleteAllEventPhotos (world : World) (thumbnailObjectKey : Photo → Option Text)
    (db : Database F) (eventId : Uuid) :
    Request.Deletes (deleteAllEventPhotos thumbnailObjectKey eventId) world db thumbnailObjectKey
      (.ofPhotos ((db.photosOf eventId).map (·.id))) [] := by
  have hkeys := flatMap_photoObjectKeys thumbnailObjectKey (db.photosOf eventId)
  have hselected : db.keyRows.photos.filter (fun row =>
      ((db.photosOf eventId).map (·.id)).contains row.id) = db.photosOf eventId :=
    filter_mem_map_id _
  rw [← hselected, ← selectedKeys_ofPhotos] at hkeys
  refine ⟨_, _, _, deleteAllEventPhotos_run thumbnailObjectKey world db eventId, ?_, fun key => ?_⟩
  · have hrows := keyRows_foldl_withoutPhoto (db.photosOf eventId)
      (db.withoutImprint ((db.photosOf eventId).map (·.id)))
    rw [keyRows_withoutImprint] at hrows
    exact removes_photos hrows
  · rw [hselected] at hkeys
    rw [hkeys, mem_flatMap_enqueueObjectDeletion, List.append_nil]

/-! ## Participants -/

/-- What refers to the participants is selected. -/
def RowSelection.ofParticipants (ids sessionIds : List Uuid) : RowSelection :=
  { RowSelection.none with
    faceImage := fun image => ids.contains image.participantId
    searchImage := fun image => sessionIds.contains image.searchSessionId }

private theorem keyRows_withoutIdentity (db : Database F) (ids : List Uuid) :
    (db.withoutIdentity ids).keyRows =
      { db.keyRows with
        faceImages := db.keyRows.faceImages.filter fun image => !ids.contains image.participantId
        searchSessions := db.keyRows.searchSessions.filter fun row =>
          !(db.searchSessionIds ids).contains row.id
        searchImages := db.keyRows.searchImages.filter fun image =>
          !(db.searchSessionIds ids).contains image.searchSessionId } := by
  simp only [Database.keyRows, Database.withoutIdentity, Database.withoutFaces_participants,
    Database.withoutFaces_photos, Database.withoutFaces_participantFaceImages_rows,
    Database.withoutFaces_faceSearchSessions, Database.withoutFaces_faceSearchImages,
    Database.withoutSearches_participants, Database.withoutSearches_photos,
    Database.withoutSearches_participantFaceImages,
    Database.withoutSearches_faceSearchSessions_rows,
    Database.withoutSearches_faceSearchImages_rows, List.contains_eq_mem]

private theorem selectedKeys_ofParticipants (db : Database F)
    (thumbnailObjectKey : Photo → Option Text) (ids : List Uuid) :
    ∀ key, key ∈ db.keyRows.selectedKeys thumbnailObjectKey
        (.ofParticipants ids (db.searchSessionIds ids)) ↔ key ∈ db.identityObjectKeys ids := by
  intro key
  rw [KeyRows.selectedKeys, Database.identityObjectKeys, List.mem_append, List.mem_append,
    List.mem_append, RowSelection.ofParticipants, RowSelection.none]
  dsimp only
  rw [List.filter_false, List.flatMap_nil, or_iff_right List.not_mem_nil, or_comm]
  rfl

/-- The cleanup of some participants and the delete of their rows. -/
private theorem removes_participants {db : Database F} {ids : List Uuid} {p : Participant → Bool}
    (hp : ∀ row ∈ db.participants.rows, p row = ids.contains row.id) :
    db.keyRows.Removes ((db.withoutIdentity ids).deleteParticipants p).keyRows
      (.ofParticipants ids (db.searchSessionIds ids)) := by
  have hsessions : ∀ row ∈ db.faceSearchSessions.rows, ∀ id, row.participantId = some id →
      id ∈ ids → row.id ∈ db.searchSessionIds ids := by
    intro row hrow id hid hmem
    refine List.mem_map.mpr ⟨row, List.mem_filter.mpr ⟨hrow, ?_⟩, rfl⟩
    rw [hid]
    exact List.contains_iff_mem.mpr hmem
  have hkept : ∀ row ∈ db.participants.rows, row.id ∉ ids →
      row ∈ db.participants.rows.filter fun row => !p row := by
    intro row hrow hid
    rw [List.mem_filter, hp row hrow, Bool.not_eq_true', ← Bool.not_eq_true, List.contains_iff_mem]
    exact ⟨hrow, hid⟩
  have hrows : ((db.withoutIdentity ids).deleteParticipants p).keyRows =
      { (db.withoutIdentity ids).keyRows with
        participants := db.participants.rows.filter fun row => !p row } := by
    simp only [Database.keyRows, Database.deleteParticipants, Database.withoutIdentity,
      Database.withoutFaces_participants, Database.withoutSearches_participants, Table.deleteWhere]
  rw [hrows, keyRows_withoutIdentity]
  refine ⟨(List.filter_true _).symm, rfl, rfl, fun h => ⟨fun image himage => ?_,
    fun row hrow id hid => ?_, fun image himage => ?_⟩⟩
  · obtain ⟨himage, hselected⟩ := List.mem_filter.mp himage
    obtain ⟨participant, hparticipant, hid, hevent⟩ := h.faceImages image himage
    refine ⟨participant, hkept participant hparticipant fun hmem => ?_, hid, hevent⟩
    rw [← hid, List.contains_iff_mem.mpr hmem] at hselected
    cases hselected
  · obtain ⟨hrow, hselected⟩ := List.mem_filter.mp hrow
    obtain ⟨participant, hparticipant, rfl, hevent⟩ := h.searchSessions row hrow id hid
    refine ⟨participant, hkept participant hparticipant fun hmem => ?_, rfl, hevent⟩
    rw [List.contains_iff_mem.mpr (hsessions row hrow _ hid hmem)] at hselected
    cases hselected
  · obtain ⟨himage, hselected⟩ := List.mem_filter.mp himage
    obtain ⟨row, hrow, hid, hevent⟩ := h.searchImages image himage
    rw [← hid] at hselected
    exact ⟨row, List.mem_filter.mpr ⟨hrow, hselected⟩, hid, hevent⟩

/-- `delete_participant` removes the selfies and the search images of the participant. -/
theorem deletes_deleteParticipant (world : World) (thumbnailObjectKey : Photo → Option Text)
    (db : Database F) (participant : Participant) :
    Request.Deletes (do
      let objectKeys ← deleteParticipant participant
      return ((), objectKeys)) world db thumbnailObjectKey
        (.ofParticipants [participant.id] (db.searchSessionIds [participant.id])) [] := by
  refine ⟨(), _, _, Program.run_bind_ok (deleteParticipant_run world db participant), ?_,
    fun key => ?_⟩
  · refine removes_participants fun row _ => ?_
    rw [List.contains_cons, List.contains_nil, Bool.or_false]
  · rw [mem_flatMap_enqueueObjectDeletion, List.append_nil, selectedKeys_ofParticipants]

/-- `delete_all_participants` removes the selfies and the search images of the participants of the
event. -/
theorem deletes_deleteAllParticipants (world : World)
    (thumbnailObjectKey : Photo → Option Text) (db : Database F) (eventId : Uuid) :
    Request.Deletes (deleteAllParticipants eventId) world db thumbnailObjectKey
      (.ofParticipants (db.selectedParticipantIds eventId)
        (db.searchSessionIds (db.selectedParticipantIds eventId))) [] := by
  obtain ⟨count, hrun⟩ := deleteAllParticipants_run world db eventId
  refine ⟨count, _, _, hrun, ?_, fun key => ?_⟩
  · refine removes_participants fun row hrow => ?_
    rw [Bool.eq_iff_iff, beq_iff_eq, List.contains_iff_mem, Database.selectedParticipantIds,
      List.mem_map]
    constructor
    · intro hevent
      exact ⟨row, List.mem_filter.mpr ⟨hrow, beq_iff_eq.mpr hevent⟩, rfl⟩
    · rintro ⟨row', hrow', hid⟩
      obtain ⟨hmem, hevent⟩ := List.mem_filter.mp hrow'
      rw [← Table.eq_of_key_eq hmem hrow hid]
      exact beq_iff_eq.mp hevent
  · rw [mem_flatMap_enqueueObjectDeletion, List.append_nil, selectedKeys_ofParticipants]

/-! ## Searches -/

/-- The images of some sessions are selected. -/
def RowSelection.ofSessions (sessionIds : List Uuid) : RowSelection :=
  { RowSelection.none with
    searchImage := fun image => sessionIds.contains image.searchSessionId }

private theorem keyRows_withoutSearches (db : Database F) (id : Uuid) :
    (db.withoutSearches [id] (db.searchImageIds [id])).keyRows =
      { db.keyRows with
        searchSessions := db.keyRows.searchSessions.filter fun row => !(row.id == id)
        searchImages :=
          db.keyRows.searchImages.filter fun image => !(image.searchSessionId == id) } := by
  simp only [Database.keyRows, Database.withoutSearches_participants,
    Database.withoutSearches_photos, Database.withoutSearches_participantFaceImages,
    Database.withoutSearches_faceSearchSessions_rows,
    Database.withoutSearches_faceSearchImages_rows, List.mem_singleton]
  rfl

private theorem keyRows_foldl_withoutSearches (sessions : List FaceSearchSession)
    (db : Database F) :
    (sessions.foldl (fun db row =>
      db.withoutSearches [row.id] (db.searchImageIds [row.id])) db).keyRows =
      { db.keyRows with
        searchSessions := db.keyRows.searchSessions.filter fun row =>
          !(sessions.map (·.id)).contains row.id
        searchImages := db.keyRows.searchImages.filter fun image =>
          !(sessions.map (·.id)).contains image.searchSessionId } := by
  induction sessions generalizing db with
  | nil => rw [List.map_nil, filter_not_contains_nil, filter_not_contains_nil, List.foldl_nil]
  | cons row sessions ih =>
    rw [List.foldl_cons, ih, keyRows_withoutSearches, List.map_cons, filter_not_contains_cons,
      filter_not_contains_cons]

private theorem removes_searches (rows : KeyRows) (ids : List Uuid) :
    rows.Removes
      { rows with
        searchSessions := rows.searchSessions.filter fun row => !ids.contains row.id
        searchImages := rows.searchImages.filter fun image =>
          !ids.contains image.searchSessionId } (.ofSessions ids) := by
  refine ⟨(List.filter_true _).symm, (List.filter_true _).symm, rfl, fun h => ⟨h.faceImages,
    fun row hrow => ?_, fun image himage => ?_⟩⟩
  · exact h.searchSessions row (List.mem_filter.mp hrow).1
  · obtain ⟨himage, hselected⟩ := List.mem_filter.mp himage
    obtain ⟨row, hrow, hid, hevent⟩ := h.searchImages image himage
    rw [← hid] at hselected
    exact ⟨row, List.mem_filter.mpr ⟨hrow, hselected⟩, hid, hevent⟩

private theorem mem_searchSessionObjectKeys {images : List FaceSearchImage}
    {sessions : List FaceSearchSession} {key : Text} :
    key ∈ searchSessionObjectKeys images sessions ↔
      key ∈ (images.filter fun image =>
        (sessions.map (·.id)).contains image.searchSessionId).map (·.objectKey) ∧ key ≠ [] := by
  rw [← mem_flatMap_enqueueObjectDeletion, searchSessionObjectKeys]
  simp only [List.mem_flatMap, List.mem_filter, List.mem_map, List.contains_iff_mem, beq_iff_eq]
  constructor
  · rintro ⟨row, hrow, image, ⟨himage, hid⟩, hkey⟩
    exact ⟨image.objectKey, ⟨image, ⟨himage, row, hrow, hid.symm⟩, rfl⟩, hkey⟩
  · rintro ⟨-, ⟨image, ⟨himage, row, hrow, hid⟩, rfl⟩, hkey⟩
    exact ⟨row, hrow, image, ⟨himage, hid.symm⟩, hkey⟩

private theorem deleteSearchSessionRow_eq (id : Uuid) : deleteSearchSessionRow id =
    Request.assign fun db : Database F => db.withoutSearches [id] (db.searchImageIds [id]) := rfl

private theorem purgeExpiredFaceSearches_run (world : World) (db : Database F)
    (expiresAt : Uuid → ℤ) (locked : Uuid → Bool) (limit : Nat) :
    (purgeExpiredFaceSearches expiresAt locked limit).run (Session.sessionLocal world db) =
      (.ok ((db.dueSearchSessions expiresAt locked (world.clock 0) limit).length,
        searchSessionObjectKeys db.faceSearchImages.rows
          (db.dueSearchSessions expiresAt locked (world.clock 0) limit)),
        Session.sessionLocal world.tick
          ((db.dueSearchSessions expiresAt locked (world.clock 0) limit).foldl (fun db row =>
            db.withoutSearches [row.id] (db.searchImageIds [row.id])) db)) := by
  unfold purgeExpiredFaceSearches
  simp only [deleteSearchSessionRow_eq]
  rw [Request.run_utcNow_bind, Request.run_query_bind, Request.run_query_bind,
    Program.run_bind_ok (Request.run_forM_assign _ (fun row s => Request.run_assign s _) _),
    Request.run_commit_bind, Program.run_pure]
  rfl

/-- `purge_expired_face_searches` removes the images of the sessions that are due. -/
theorem deletes_purgeExpiredFaceSearches (world : World)
    (thumbnailObjectKey : Photo → Option Text) (db : Database F) (expiresAt : Uuid → ℤ)
    (locked : Uuid → Bool) (limit : Nat) :
    Request.Deletes (purgeExpiredFaceSearches expiresAt locked limit) world db thumbnailObjectKey
      (.ofSessions ((db.dueSearchSessions expiresAt locked (world.clock 0) limit).map (·.id)))
        [] := by
  refine ⟨_, _, _, purgeExpiredFaceSearches_run world db expiresAt locked limit, ?_,
    fun key => ?_⟩
  · have hrows := keyRows_foldl_withoutSearches
      (db.dueSearchSessions expiresAt locked (world.clock 0) limit) db
    have hremoves := removes_searches db.keyRows
      ((db.dueSearchSessions expiresAt locked (world.clock 0) limit).map (·.id))
    rwa [← hrows] at hremoves
  · rw [mem_searchSessionObjectKeys, List.append_nil, KeyRows.selectedKeys, RowSelection.ofSessions,
      RowSelection.none]
    dsimp only
    rw [List.filter_false, List.filter_false, List.flatMap_nil, List.map_nil, List.nil_append,
      List.nil_append]
    rfl

/-! ## Events -/

/-- The rows of an event are selected. -/
def RowSelection.ofEvent (eventId : Uuid) : RowSelection where
  photo photo := photo.eventId == eventId
  faceImage image := image.eventId == eventId
  searchImage image := image.eventId == eventId

section Events

variable {db : Database F} {eventId : Uuid}

private theorem eventId_of_selected {id : Uuid} (hid : id ∈ db.selectedParticipantIds eventId)
    {participant : Participant} (hparticipant : participant ∈ db.participants.rows)
    (heq : participant.id = id) :
    participant.eventId = eventId := by
  obtain ⟨row, hrow, rfl⟩ := List.mem_map.mp hid
  obtain ⟨hmem, hevent⟩ := List.mem_filter.mp hrow
  rw [Table.eq_of_key_eq hparticipant hmem heq]
  exact beq_iff_eq.mp hevent

private theorem faceImage_falls (eventId : Uuid) (h : db.keyRows.Scoped)
    {image : ParticipantFaceImage} (himage : image ∈ db.participantFaceImages.rows) :
    (image.eventId == eventId ||
      (db.selectedParticipantIds eventId).contains image.participantId) =
        (image.eventId == eventId) := by
  rw [Bool.eq_iff_iff, Bool.or_eq_true, List.contains_iff_mem, beq_iff_eq]
  refine or_iff_left_of_imp fun hid => ?_
  obtain ⟨participant, hparticipant, heq, hevent⟩ := h.faceImages image himage
  exact hevent.symm.trans (eventId_of_selected hid hparticipant heq)

private theorem searchSession_falls (eventId : Uuid) (h : db.keyRows.Scoped)
    {row : FaceSearchSession} (hrow : row ∈ db.faceSearchSessions.rows) :
    (row.eventId == eventId ||
      row.participantId.any (db.selectedParticipantIds eventId).contains) =
        (row.eventId == eventId) := by
  rw [Bool.eq_iff_iff, Bool.or_eq_true, Option.any_eq_true, beq_iff_eq]
  refine or_iff_left_of_imp ?_
  rintro ⟨id, hparticipantId, hid⟩
  obtain ⟨participant, hparticipant, heq, hevent⟩ := h.searchSessions row hrow id hparticipantId
  exact hevent.symm.trans
    (eventId_of_selected (List.contains_iff_mem.mp hid) hparticipant heq)

private theorem searchImage_falls (eventId : Uuid) (h : db.keyRows.Scoped) {image : FaceSearchImage}
    (himage : image ∈ db.faceSearchImages.rows) :
    (image.eventId == eventId || (db.fallenSessionIds eventId
      (db.selectedParticipantIds eventId)).contains image.searchSessionId) =
        (image.eventId == eventId) := by
  rw [Bool.eq_iff_iff, Bool.or_eq_true, List.contains_iff_mem, beq_iff_eq]
  refine or_iff_left_of_imp fun hid => ?_
  obtain ⟨row, hrow, heq, hevent⟩ := h.searchImages image himage
  obtain ⟨row', hrow', heq'⟩ := List.mem_map.mp hid
  obtain ⟨hmem, hfalls⟩ := List.mem_filter.mp hrow'
  rw [searchSession_falls eventId h hmem,
    Table.eq_of_key_eq hmem hrow (heq'.trans heq.symm)] at hfalls
  exact hevent.symm.trans (beq_iff_eq.mp hfalls)

private theorem filter_not_congr {α : Type} {p q : α → Bool} {rows : List α}
    (h : ∀ row ∈ rows, p row = q row) :
    (rows.filter fun row => !p row) = rows.filter fun row => !q row :=
  List.filter_congr fun row hrow => congrArg not (h row hrow)

/-- The rows with keys that fall with an event are those of the event. -/
private theorem keyRows_withoutEvent (h : db.keyRows.Scoped) :
    (db.withoutEvent eventId).keyRows =
      { participants := db.participants.rows.filter fun row => !(row.eventId == eventId)
        photos := db.photos.rows.filter fun row => !(row.eventId == eventId)
        faceImages := db.participantFaceImages.rows.filter fun row => !(row.eventId == eventId)
        searchSessions := db.faceSearchSessions.rows.filter fun row => !(row.eventId == eventId)
        searchImages := db.faceSearchImages.rows.filter fun row => !(row.eventId == eventId) } := by
  have himages := filter_not_congr fun image himage => faceImage_falls eventId h himage
  have hsessions := filter_not_congr fun row hrow => searchSession_falls eventId h hrow
  have hsearchImages := filter_not_congr fun image himage => searchImage_falls eventId h himage
  rw [← himages, ← hsessions, ← hsearchImages]
  rfl

private theorem removes_event (h : db.keyRows.Scoped) :
    db.keyRows.Removes (db.withoutEvent eventId).keyRows (.ofEvent eventId) := by
  have hkept {α : Type} {f : α → Uuid} {row : α} {rows : List α} (hrow : row ∈ rows)
      {parent : Uuid} (hparent : f row = parent) (hne : (!(parent == eventId)) = true) :
      row ∈ rows.filter fun row => !(f row == eventId) :=
    List.mem_filter.mpr ⟨hrow, by rwa [hparent]⟩
  rw [keyRows_withoutEvent h]
  refine ⟨rfl, rfl, rfl, fun _ => ⟨fun image himage => ?_, fun row hrow id hid => ?_,
    fun image himage => ?_⟩⟩
  · obtain ⟨himage, hne⟩ := List.mem_filter.mp himage
    obtain ⟨participant, hparticipant, hid, hevent⟩ := h.faceImages image himage
    exact ⟨participant, hkept hparticipant hevent hne, hid, hevent⟩
  · obtain ⟨hrow, hne⟩ := List.mem_filter.mp hrow
    obtain ⟨participant, hparticipant, hid, hevent⟩ := h.searchSessions row hrow id hid
    exact ⟨participant, hkept hparticipant hevent hne, hid, hevent⟩
  · obtain ⟨himage, hne⟩ := List.mem_filter.mp himage
    obtain ⟨row, hrow, hid, hevent⟩ := h.searchImages image himage
    exact ⟨row, hkept hrow hevent hne, hid, hevent⟩

/-- `delete_event` removes the rows of the event, and collects the keys of its selfies, its search
images and its thumbnail. Without photos these are all. -/
theorem deletes_deleteEvent (world : World) (thumbnailObjectKey : Photo → Option Text)
    (h : db.keyRows.Scoped) (hphotos : ∀ photo ∈ db.photos.rows, photo.eventId ≠ eventId)
    (thumbnail : Option Text) :
    Request.Deletes (deleteEvent eventId thumbnail) world db thumbnailObjectKey
      (.ofEvent eventId) thumbnail.toList := by
  have hnone : db.keyRows.photos.filter (RowSelection.ofEvent eventId).photo = [] :=
    List.filter_eq_nil_iff.mpr fun photo hphoto hevent =>
      hphotos photo hphoto (beq_iff_eq.mp hevent)
  refine ⟨_, _, Session.sessionLocal world (db.withoutEvent eventId), rfl, removes_event h,
    fun key => ?_⟩
  rw [mem_flatMap_enqueueObjectDeletion, KeyRows.selectedKeys, hnone, List.flatMap_nil,
    List.nil_append]
  have hkeys : key ∈ db.eventObjectKeys eventId ↔
      key ∈ (db.keyRows.faceImages.filter (RowSelection.ofEvent eventId).faceImage).map
        (·.objectKey) ++ (db.keyRows.searchImages.filter
          (RowSelection.ofEvent eventId).searchImage).map (·.objectKey) :=
    List.perm_append_comm.mem_iff
  refine and_congr_left fun _ => ?_
  rw [List.mem_append, List.mem_append, ← hkeys]
  rfl

end Events

end RaceFrame
