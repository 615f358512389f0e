import RaceFrame.Core.Ledger
import RaceFrame.Events.ThumbnailTraces
import RaceFrame.Storage.Removals
import RaceFrame.Storage.Store
import RaceFrame.Upload.Traces

/-!
# References and tombstones

The ledger of the committed tables: the keys that rows hold are in use, those with
a deletion task are dead. Every change that an operation commits is a move of the
ledger, so the tables stay sound and no key is lost.
-/

namespace RaceFrame

open Core

variable {F : Type}

/-! ## The ledger -/

/-- The keys of a photo. -/
def StoredPhoto.objectKeys (row : StoredPhoto) : List Text :=
  row.photo.originalObjectKey :: row.thumbnailObjectKey.toList

/-- The key of an event, if it has one. -/
def EventRow.objectKeys (event : EventRow) : List Text := event.thumbnailObjectKey.toList

namespace Store

/-- The keys that rows hold, with repetitions. -/
def keys (s : Store F) : List Text :=
  s.uploads.photos.rows.flatMap StoredPhoto.objectKeys ++
    (s.uploads.participantFaceImages.rows.map (·.objectKey) ++
      (s.uploads.faceSearchImages.rows.map (·.objectKey) ++
        s.events.rows.flatMap EventRow.objectKeys))

/-- The keys that rows hold, and those with a deletion task. -/
def ledger (s : Store F) : Ledger Text := ⟨s.keys, {key | s.HasTask key}⟩

/-- A key is held exactly when a row references it. -/
theorem mem_keys {s : Store F} {key : Text} : key ∈ s.keys ↔ s.References key := by
  simp only [keys, References, UploadRows.References, ThumbnailRows.References,
    StoredPhoto.References, StoredPhoto.objectKeys, EventRow.objectKeys, List.mem_append,
    List.mem_flatMap, List.mem_map, List.mem_cons, Option.mem_toList, @eq_comm _ key, or_assoc]

/-- The tables are sound: every key is held once, none has a deletion task, none is empty, and the
rows are in scope. -/
structure Sound (s : Store F) : Prop where
  balanced : s.ledger.Balanced
  nonempty : [] ∉ s.keys
  inScope : s.database.keyRows.Scoped

/-- A change keeps the tables sound and loses no key. -/
def LeadsTo (s u : Store F) : Prop :=
  s.Sound → u.Sound ∧ ∀ key, s.ledger.Accounts key → u.ledger.Accounts key

instance : Std.Refl (LeadsTo (F := F)) := ⟨fun _ h => ⟨h, fun _ hkey => hkey⟩⟩

instance : IsTrans (Store F) LeadsTo :=
  ⟨fun _ _ _ h h' hs => ⟨(h' (h hs).1).1, fun key hkey => (h' (h hs).1).2 key ((h hs).2 key hkey)⟩⟩

/-- A move of the ledger by keys that are not empty, and in scope. -/
theorem leadsTo_of_moves {s u : Store F} (dropped fresh : List Text)
    (hmoves : s.Sound → s.ledger.Moves u.ledger dropped fresh) (hfresh : [] ∉ fresh)
    (hscope : s.database.keyRows.Scoped → u.database.keyRows.Scoped) : s.LeadsTo u := by
  intro hs
  have hmove := hmoves hs
  refine ⟨⟨hs.balanced.move hmove, fun hmem => ?_, hscope hs.inScope⟩, fun key hkey =>
    hkey.move hmove⟩
  obtain ⟨kept, hlive, hlive'⟩ := hmove.split
  rcases List.mem_append.mp (hlive'.mem_iff.mp hmem) with hmem | hmem
  · exact hfresh hmem
  · exact hs.nonempty (hlive.mem_iff.mpr (List.mem_append_right _ hmem))

end Store

/-! ## Queueing -/

private theorem hasKey_put {tasks : DeletionTasks} {old : ObjectDeletionTask}
    (hold : old ∈ tasks.rows) (task : ObjectDeletionTask) (hid : task.id = old.id)
    (hkey : task.objectKey = old.objectKey) {key : Text} (h : tasks.HasKey key) :
    DeletionTasks.HasKey (tasks.put task) key := by
  obtain ⟨row, hrow, rfl⟩ := h
  by_cases hsame : row.id = task.id
  · rw [Table.eq_of_key_eq hrow hold (hsame.trans hid), ← hkey]
    exact ⟨task, Table.mem_put.mpr (Or.inl ⟨rfl, row, hrow, hsame⟩), rfl⟩
  · exact ⟨row, Table.mem_put.mpr (Or.inr ⟨hrow, hsame⟩), rfl⟩

/-- Queueing a key adds it, unless it is empty. -/
theorem hasKey_enqueue_iff {tasks tasks' : DeletionTasks} {objectKey : Text} {id : Uuid}
    {createdAt : Instant} (h : tasks.enqueue objectKey id createdAt = some tasks') {key : Text} :
    tasks'.HasKey key ↔ tasks.HasKey key ∨ key = objectKey ∧ key ≠ [] := by
  by_cases hempty : objectKey.isEmpty
  · rw [DeletionTasks.enqueue, if_pos hempty] at h
    rw [← Option.some.inj h, iff_self_or]
    rintro ⟨rfl, hne⟩
    exact absurd (List.isEmpty_iff.mp hempty) hne
  · refine ⟨fun hkey => (hasKey_of_enqueue h hkey).imp_right ?_, fun hkey => ?_⟩
    · rintro rfl
      exact ⟨rfl, mt List.isEmpty_iff.mpr hempty⟩
    · rw [DeletionTasks.enqueue, if_neg hempty] at h
      split at h
      · rename_i old hfind
        have hold := List.mem_of_find?_eq_some hfind
        rw [← Option.some.inj h]
        refine hasKey_put hold old.requeued rfl rfl (hkey.elim (fun h => h) ?_)
        rintro ⟨rfl, -⟩
        exact ⟨old, hold, by simpa using List.find?_some hfind⟩
      · rw [DeletionTasks.HasKey, Table.rows_of_insert? h]
        rcases hkey with ⟨task, htask, hkey⟩ | ⟨rfl, -⟩
        · exact ⟨task, List.mem_append_left _ htask, hkey⟩
        · exact ⟨_, List.mem_append_right _ List.mem_cons_self, rfl⟩

/-- Queueing several keys adds those that are not empty. -/
theorem hasKey_enqueueAll_iff {entries : List (Text × Uuid × Instant)}
    {tasks tasks' : DeletionTasks} (h : tasks.enqueueAll entries = some tasks') {key : Text} :
    tasks'.HasKey key ↔ tasks.HasKey key ∨ key ∈ entries.map Prod.fst ∧ key ≠ [] := by
  induction entries generalizing tasks with
  | nil =>
    rw [← Option.some.inj h]
    simp
  | cons entry entries ih =>
    obtain ⟨queued, hqueued, hrest⟩ := Option.bind_eq_some_iff.mp h
    rw [ih hrest, hasKey_enqueue_iff hqueued, List.map_cons, List.mem_cons, or_and_right, or_assoc]

/-! ## Removals -/

namespace Store

variable {s u : Store F}

/-- The keys of the rows that a deletion selects, and of its events. -/
def droppedKeys (s : Store F) (selection : RowSelection) (deletesEvent : EventRow → Bool) :
    List Text :=
  (s.uploads.photos.rows.filter fun row => selection.photo row.photo).flatMap
      StoredPhoto.objectKeys ++
    ((s.uploads.participantFaceImages.rows.filter selection.faceImage).map (·.objectKey) ++
      ((s.uploads.faceSearchImages.rows.filter selection.searchImage).map (·.objectKey) ++
        (s.events.rows.filter deletesEvent).flatMap EventRow.objectKeys))

/-- The keys of the rows that are left. -/
private def keptKeys (s : Store F) (selection : RowSelection) (deletesEvent : EventRow → Bool) :
    List Text :=
  s.droppedKeys ⟨fun photo => !selection.photo photo, fun image => !selection.faceImage image,
    fun image => !selection.searchImage image⟩ fun event => !deletesEvent event

private theorem keys_perm (s : Store F) (selection : RowSelection)
    (deletesEvent : EventRow → Bool) :
    s.keys.Perm (s.droppedKeys selection deletesEvent ++ s.keptKeys selection deletesEvent) := by
  have hphotos := Ledger.perm_flatMap_filter (fun row => selection.photo row.photo)
    StoredPhoto.objectKeys s.uploads.photos.rows
  have himages := Ledger.perm_map_filter selection.faceImage (·.objectKey)
    s.uploads.participantFaceImages.rows
  have hsearchImages := Ledger.perm_map_filter selection.searchImage (·.objectKey)
    s.uploads.faceSearchImages.rows
  have hevents := Ledger.perm_flatMap_filter deletesEvent EventRow.objectKeys s.events.rows
  rw [List.perm_iff_count] at hphotos himages hsearchImages hevents ⊢
  intro key
  have hphotos := hphotos key
  have himages := himages key
  have hsearchImages := hsearchImages key
  have hevents := hevents key
  simp only [keys, droppedKeys, keptKeys, List.count_append] at *
  omega

private theorem thumbnailObjectKey_of_mem {row : StoredPhoto}
    (hrow : row ∈ s.uploads.photos.rows) :
    s.thumbnailObjectKey row.photo = row.thumbnailObjectKey := by
  have hget : s.uploads.photos.get? row.photo.id = some row :=
    Table.get?_eq_some_iff.mpr ⟨hrow, rfl⟩
  rw [thumbnailObjectKey, hget]
  rfl

/-- The keys that a deletion collects are those of the rows that it selects. -/
private theorem mem_droppedKeys {selection : RowSelection} {deletesEvent : EventRow → Bool}
    {key : Text} :
    key ∈ s.droppedKeys selection deletesEvent ↔
      key ∈ s.database.keyRows.selectedKeys s.thumbnailObjectKey selection ∨
        key ∈ (s.events.rows.filter deletesEvent).flatMap EventRow.objectKeys := by
  have hphotos : ((s.database.keyRows.photos.filter selection.photo).flatMap fun photo =>
      photo.originalObjectKey :: (s.thumbnailObjectKey photo).toList) =
        (s.uploads.photos.rows.filter fun row => selection.photo row.photo).flatMap
          StoredPhoto.objectKeys := by
    change ((s.uploads.photos.rows.map StoredPhoto.photo).filter selection.photo).flatMap _ = _
    rw [List.filter_map, List.flatMap_map]
    refine List.flatMap_congr fun row hrow => ?_
    rw [thumbnailObjectKey_of_mem (List.mem_filter.mp hrow).1]
    rfl
  rw [droppedKeys, KeyRows.selectedKeys, hphotos]
  simp only [List.mem_append, or_assoc]
  rfl

section AfterRemoval

variable {db : Database F} {selection : RowSelection} {deletesEvent : EventRow → Bool}

private theorem photos_within (hremoves : s.database.keyRows.Removes db.keyRows selection) :
    (s.uploads.within db).photos.rows =
      s.uploads.photos.rows.filter fun row => !selection.photo row.photo := by
  refine List.filter_congr fun row hrow => ?_
  have hrows : db.photos.rows = (s.uploads.photos.rows.map StoredPhoto.photo).filter
      fun photo => !selection.photo photo := hremoves.photos
  rw [Bool.not_not, Bool.eq_iff_iff, List.any_eq_true, hrows]
  constructor
  · rintro ⟨photo, hphoto, hid⟩
    obtain ⟨hmem, hkept⟩ := List.mem_filter.mp hphoto
    obtain ⟨row', hrow', rfl⟩ := List.mem_map.mp hmem
    rwa [Table.eq_of_key_eq hrow' hrow (beq_iff_eq.mp hid)] at hkept
  · intro hkept
    refine ⟨row.photo, List.mem_filter.mpr ⟨List.mem_map_of_mem hrow, hkept⟩, ?_⟩
    exact beq_self_eq_true row.photo.id

variable (hremoves : s.database.keyRows.Removes db.keyRows selection)
  (hevents : u.events = s.events.deleteWhere deletesEvent)
  (huploads : u.uploads = s.uploads.within db) (hothers : u.others = db)

include hremoves hevents huploads

/-- The keys of the rows that are left. -/
private theorem keys_afterRemoval : u.keys = s.keptKeys selection deletesEvent := by
  have himages : (s.uploads.within db).participantFaceImages.rows = _ := hremoves.faceImages
  have hsearchImages : (s.uploads.within db).faceSearchImages.rows = _ := hremoves.searchImages
  rw [keys, huploads, photos_within hremoves, himages, hsearchImages, hevents]
  rfl

omit hevents

include hothers

/-- The rows that are left. -/
private theorem removes_afterRemoval :
    s.database.keyRows.Removes u.database.keyRows selection where
  photos := by
    change u.uploads.photos.rows.map StoredPhoto.photo =
      (s.uploads.photos.rows.map StoredPhoto.photo).filter fun photo => !selection.photo photo
    rw [huploads, photos_within hremoves, List.filter_map]
    rfl
  faceImages := by
    change u.uploads.participantFaceImages.rows = _
    rw [huploads]
    exact hremoves.faceImages
  searchImages := by
    change u.uploads.faceSearchImages.rows = _
    rw [huploads]
    exact hremoves.searchImages
  inScope hscope := by
    have hkept := hremoves.inScope hscope
    have hdatabase : u.database = db.withUploads (s.uploads.within db) := by
      rw [database, hothers, huploads]
    rw [hdatabase]
    exact ⟨hkept.faceImages, hkept.searchSessions, hkept.searchImages⟩

end AfterRemoval

/-- A deletion that queues the keys of what it deletes. -/
theorem leadsTo_of_afterRemoval {α : Type} {removal : Request F (α × List Text)} {world : World}
    {selection : RowSelection} {others : List Text} {deletesEvent : EventRow → Bool}
    (hdeletes : removal.Deletes world s.database s.thumbnailObjectKey selection others)
    (hothers : ∀ key, key ≠ [] → (key ∈ others ↔
      key ∈ (s.events.rows.filter deletesEvent).flatMap EventRow.objectKeys)) :
    ∃ answer objectKeys session,
      removal.run (Session.sessionLocal world s.database) = (.ok (answer, objectKeys), session) ∧
        ∀ entries u, entries.map Prod.fst = objectKeys →
          s.afterRemoval? session.committed deletesEvent entries = some u →
            s.LeadsTo u ∧ s.database.keyRows.Removes u.database.keyRows selection := by
  obtain ⟨answer, objectKeys, session, hrun, hremoves, hkeys⟩ := hdeletes
  refine ⟨answer, objectKeys, session, hrun, fun entries u hentries hu => ?_⟩
  obtain ⟨tasks, htasks, hu⟩ := Option.bind_eq_some_iff.mp hu
  have hu := Option.some.inj hu
  have hlive : u.keys = s.keptKeys selection deletesEvent := by
    refine keys_afterRemoval hremoves ?_ ?_ <;> rw [← hu]
  have hremoved : s.database.keyRows.Removes u.database.keyRows selection := by
    refine removes_afterRemoval hremoves ?_ ?_ <;> rw [← hu]
  have hdead : ∀ key, u.HasTask key ↔ s.HasTask key ∨ key ∈ objectKeys := by
    intro key
    have hqueued : tasks.HasKey key ↔ _ := hasKey_enqueueAll_iff htasks
    rw [hentries, and_iff_left_of_imp fun hkey => ((hkeys key).mp hkey).2] at hqueued
    rw [← hu]
    exact hqueued
  refine ⟨leadsTo_of_moves (s.droppedKeys selection deletesEvent) [] (fun hs =>
    ⟨⟨_, s.keys_perm selection deletesEvent, ?_⟩, fun key => ?_, List.nodup_nil,
      fun _ hkey => absurd hkey List.not_mem_nil⟩) List.not_mem_nil hremoved.inScope, hremoved⟩
  · rw [List.nil_append]
    exact List.Perm.of_eq hlive
  · refine (hdead key).trans (or_congr_right ?_)
    have hne : key ∈ s.droppedKeys selection deletesEvent → key ≠ [] := by
      rintro hkey rfl
      exact hs.nonempty ((s.keys_perm selection deletesEvent).mem_iff.mpr
        (List.mem_append_left _ hkey))
    rw [← and_iff_left_of_imp hne, hkeys, List.mem_append, mem_droppedKeys]
    exact and_congr_left fun hne => or_congr_right (hothers key hne)

/-! ## Uploads -/

/-- New rows with new keys. -/
private theorem leadsTo_of_fresh (fresh : List Text) (hkeys : u.keys.Perm (fresh ++ s.keys))
    (htasks : u.tasks = s.tasks) (hnodup : fresh.Nodup) (hfresh : ∀ key ∈ fresh,
      ¬s.ledger.Accounts key ∧ key ≠ [])
    (hscope : s.database.keyRows.Scoped → u.database.keyRows.Scoped) : s.LeadsTo u := by
  refine leadsTo_of_moves [] fresh (fun _ => ⟨⟨s.keys, ?_, hkeys⟩,
    fun key => ?_, hnodup, fun key hkey => (hfresh key hkey).1⟩) (fun hnil =>
      (hfresh [] hnil).2 rfl) hscope
  · exact List.Perm.of_eq (List.nil_append s.keys).symm
  · change u.tasks.HasKey key ↔ s.tasks.HasKey key ∨ _
    rw [htasks, or_iff_left List.not_mem_nil]

/-- The identifiers that occur in no key that is known. -/
def Fresh (s : Store F) (id : Uuid) : Prop :=
  ∀ key, s.References key ∨ s.HasTask key → ¬uuidText id <:+: key

private theorem fresh_of_drawnKey {key : Text} (h : DrawnKey s.Fresh key) :
    ¬s.ledger.Accounts key ∧ key ≠ [] := by
  obtain ⟨id, hfresh, hinfix⟩ := h
  refine ⟨fun hkey => hfresh key ?_ hinfix, ne_nil_of_infix_uuidText hinfix⟩
  exact hkey.imp_left mem_keys.mp

/-- A new row with one key, which has a new identifier in it. -/
private theorem leadsTo_of_drawnKey {key : Text} (hdrawn : DrawnKey s.Fresh key)
    (hkeys : u.keys.Perm ([key] ++ s.keys)) (htasks : u.tasks = s.tasks)
    (hscope : s.database.keyRows.Scoped → u.database.keyRows.Scoped) : s.LeadsTo u := by
  refine leadsTo_of_fresh [key] hkeys htasks (List.nodup_singleton key) (fun key' hkey => ?_) hscope
  rw [List.mem_singleton.mp hkey]
  exact fresh_of_drawnKey hdrawn

variable {rows' : UploadRows F}

/-- The rows of a new photo. -/
theorem leadsTo_of_insertPhoto? {photo : StoredPhoto} {jobs : List (Job F)}
    {thumbnailObjectKey : Text} (hthumbnail : photo.thumbnailObjectKey = some thumbnailObjectKey)
    (hne : thumbnailObjectKey ≠ photo.photo.originalObjectKey)
    (hdrawnThumbnail : DrawnKey s.Fresh thumbnailObjectKey)
    (hdrawn : DrawnKey s.Fresh photo.photo.originalObjectKey)
    (h : s.uploads.insertPhoto? photo jobs = some rows') :
    s.LeadsTo { s with uploads := rows' } := by
  obtain ⟨photos, hphotos, h⟩ := Option.bind_eq_some_iff.mp h
  obtain ⟨inserted, hinserted, h⟩ := Option.bind_eq_some_iff.mp h
  split at h
  · have hrows := Table.rows_of_insert? hphotos
    rw [← Option.some.inj h]
    have hkeys : photo.objectKeys = [photo.photo.originalObjectKey, thumbnailObjectKey] := by
      rw [StoredPhoto.objectKeys, hthumbnail]
      rfl
    refine leadsTo_of_fresh photo.objectKeys ?_ rfl ?_ ?_ fun hscope => ?_
    · rw [List.perm_iff_count]
      intro key
      simp only [keys, hrows, List.flatMap_append, List.flatMap_singleton, List.count_append]
      omega
    · rw [hkeys]
      exact List.nodup_cons.mpr ⟨mt List.mem_singleton.mp hne.symm, List.nodup_singleton _⟩
    · intro key hkey
      rw [hkeys] at hkey
      rcases List.mem_pair.mp hkey with rfl | rfl
      · exact fresh_of_drawnKey hdrawn
      · exact fresh_of_drawnKey hdrawnThumbnail
    · exact ⟨hscope.faceImages, hscope.searchSessions, hscope.searchImages⟩
  · cases h

/-- The rows of a new selfie of a participant. -/
theorem leadsTo_of_insertFaceImage? {image : ParticipantFaceImage} {job : Job F}
    {participant : Participant} (hparticipant : participant ∈ s.others.participants.rows)
    (hid : image.participantId = participant.id) (hevent : image.eventId = participant.eventId)
    (hdrawn : DrawnKey s.Fresh image.objectKey)
    (h : s.uploads.insertFaceImage? image job = some rows') :
    s.LeadsTo { s with uploads := rows' } := by
  obtain ⟨images, himages, h⟩ := Option.bind_eq_some_iff.mp h
  obtain ⟨jobs, hjobs, h⟩ := Option.bind_eq_some_iff.mp h
  have hrows := Table.rows_of_insert? himages
  rw [← Option.some.inj h]
  refine leadsTo_of_drawnKey hdrawn ?_ rfl fun hscope =>
    ⟨fun image' himage' => ?_, hscope.searchSessions, hscope.searchImages⟩
  · rw [List.perm_iff_count]
    intro key
    simp only [keys, hrows, List.map_append, List.map_singleton, List.count_append]
    omega
  · change image' ∈ images.rows at himage'
    rw [hrows, List.mem_append, List.mem_singleton] at himage'
    rcases himage' with himage' | rfl
    · exact hscope.faceImages image' himage'
    · exact ⟨participant, hparticipant, hid.symm, hevent.symm⟩

/-- The session that an upload of a search image may carry is stored, and so is the participant. -/
structure Searches (s : Store F) (eventId : Uuid) (searchSession : Option FaceSearchSession)
    (participant : Option Participant) : Prop where
  carried : ∀ carried, searchSession = some carried →
    carried ∈ s.uploads.faceSearchSessions.rows ∧ carried.eventId = eventId
  participant : ∀ known, participant = some known →
    known ∈ s.others.participants.rows ∧ known.eventId = eventId

/-- The rows of a new search image, with the session that is opened for it. -/
theorem leadsTo_of_insertSearchImage? {eventId : Uuid} {searchSession : Option FaceSearchSession}
    {participant : Option Participant} (hs : s.Searches eventId searchSession participant)
    {opened : FaceSearchSession}
    (hopened : FaceSearchSession.OpenedFor eventId searchSession participant opened)
    {image : FaceSearchImage} {job : Job F} (hevent : image.eventId = eventId)
    (hid : image.searchSessionId = opened.id) (hdrawn : DrawnKey s.Fresh image.objectKey)
    (h : s.uploads.insertSearchImage? (if searchSession.isNone then some opened else none) image
      job = some rows') : s.LeadsTo { s with uploads := rows' } := by
  obtain ⟨sessions, hsessions, h⟩ := Option.bind_eq_some_iff.mp h
  obtain ⟨images, himages, h⟩ := Option.bind_eq_some_iff.mp h
  obtain ⟨jobs, hjobs, h⟩ := Option.bind_eq_some_iff.mp h
  have hsessionRows := Table.rows_of_insertAll? hsessions
  have hrows := Table.rows_of_insert? himages
  rw [← Option.some.inj h]
  refine leadsTo_of_drawnKey hdrawn ?_ rfl fun hscope =>
    ⟨hscope.faceImages, fun row hrow => ?_, fun image' himage' => ?_⟩
  · rw [List.perm_iff_count]
    intro key
    simp only [keys, hrows, List.map_append, List.map_singleton, List.count_append]
    omega
  · change row ∈ sessions.rows at hrow
    rw [hsessionRows, List.mem_append] at hrow
    rcases hrow with hrow | hrow
    · exact hscope.searchSessions row hrow
    · intro id hparticipantId
      cases searchSession with
      | some carried => cases hrow
      | none =>
        rw [List.mem_singleton.mp hrow] at hparticipantId ⊢
        rw [hopened.2] at hparticipantId
        obtain ⟨known, hknown, rfl⟩ := Option.map_eq_some_iff.mp hparticipantId
        obtain ⟨hmem, hknownEvent⟩ := hs.participant known hknown
        exact ⟨known, hmem, rfl, hknownEvent.trans hopened.1.symm⟩
  · change image' ∈ images.rows at himage'
    change ∃ row ∈ sessions.rows, _
    rw [hrows, List.mem_append, List.mem_singleton] at himage'
    rw [hsessionRows]
    rcases himage' with himage' | rfl
    · obtain ⟨row, hrow, hfound⟩ := hscope.searchImages image' himage'
      exact ⟨row, List.mem_append_left _ hrow, hfound⟩
    · cases searchSession with
      | some carried =>
        obtain ⟨hmem, hcarriedEvent⟩ := hs.carried carried rfl
        have hcarried : opened = carried := hopened
        rw [hcarried] at hid
        exact ⟨carried, List.mem_append_left _ hmem, hid.symm, hcarriedEvent.trans hevent.symm⟩
      | none =>
        refine ⟨opened, List.mem_append_right _ List.mem_cons_self, hid.symm, ?_⟩
        exact hopened.1.trans hevent.symm

/-! ## Thumbnails -/

private theorem hasKey_enqueuePrevious_iff {tasks tasks' : DeletionTasks} {event : EventRow}
    {taskId : Uuid} {createdAt : Instant}
    (h : tasks.enqueuePrevious event taskId createdAt = some tasks') {key : Text} :
    tasks'.HasKey key ↔ tasks.HasKey key ∨ key ∈ event.objectKeys ∧ key ≠ [] := by
  have hprevious : key ∈ event.objectKeys ∧ key ≠ [] ↔ event.previousKey = some key := by
    rw [EventRow.objectKeys, Option.mem_toList, EventRow.previousKey, Option.filter_eq_some_iff,
      Bool.not_eq_true', List.isEmpty_eq_false_iff]
  rw [hprevious]
  unfold DeletionTasks.enqueuePrevious at h
  split at h
  · rename_i previousKey hpreviousKey
    rw [hasKey_enqueue_iff h, hpreviousKey, Option.some.injEq, @eq_comm _ key]
    have hne : previousKey ≠ [] := by
      have hkept := (Option.filter_eq_some_iff.mp hpreviousKey).2
      rwa [Bool.not_eq_true', List.isEmpty_eq_false_iff] at hkept
    refine or_congr_right (and_iff_left_of_imp ?_)
    rintro rfl
    exact hne
  · rename_i hnone
    rw [← Option.some.inj h, hnone]
    simp

/-- The key of an event is replaced by a new one, or cleared. -/
private theorem leadsTo_of_putEvent {event : EventRow} (hevent : event ∈ s.events.rows)
    {thumbnailObjectKey : Option Text}
    (hfresh : ∀ key ∈ thumbnailObjectKey, ¬s.ledger.Accounts key ∧ key ≠ [])
    {tasks : DeletionTasks} (htasks : ∀ key, tasks.HasKey key ↔
      s.tasks.HasKey key ∨ key ∈ event.objectKeys ∧ key ≠ []) :
    s.LeadsTo { s with
      events := s.events.put { event with thumbnailObjectKey := thumbnailObjectKey }
      tasks := tasks } := by
  obtain ⟨rest, hrows, hrows'⟩ := Table.exists_perm_put
    (r := { event with thumbnailObjectKey := thumbnailObjectKey }) hevent rfl
  have hkeys := List.perm_iff_count.mp (hrows.flatMap_right EventRow.objectKeys)
  have hkeys' := List.perm_iff_count.mp (hrows'.flatMap_right EventRow.objectKeys)
  simp only [List.flatMap_cons, List.count_append] at hkeys hkeys'
  refine leadsTo_of_moves event.objectKeys thumbnailObjectKey.toList
    (fun hs => ?_) (fun hnil => (hfresh [] (Option.mem_toList.mp hnil)).2 rfl) fun hscope => ?_
  · refine ⟨⟨s.uploads.photos.rows.flatMap StoredPhoto.objectKeys ++
      (s.uploads.participantFaceImages.rows.map (·.objectKey) ++
        (s.uploads.faceSearchImages.rows.map (·.objectKey) ++
          rest.flatMap EventRow.objectKeys)), ?_, ?_⟩, fun key => ?_, ?_, fun key hkey => ?_⟩
    · refine List.perm_iff_count.mpr fun key => ?_
      have hcount := hkeys key
      simp only [ledger, keys, List.count_append]
      omega
    · refine List.perm_iff_count.mpr fun key => ?_
      have hcount := hkeys' key
      simp only [ledger, keys, List.count_append, EventRow.objectKeys] at hcount ⊢
      omega
    · refine (htasks key).trans (or_congr_right (and_iff_left_of_imp ?_))
      rintro hkey rfl
      refine hs.nonempty (mem_keys.mpr (Or.inr ⟨event, hevent, ?_⟩))
      exact Option.mem_toList.mp hkey
    · cases thumbnailObjectKey with
      | none => exact List.nodup_nil
      | some key => exact List.nodup_singleton key
    · exact (hfresh key (Option.mem_toList.mp hkey)).1
  · exact ⟨hscope.faceImages, hscope.searchSessions, hscope.searchImages⟩

/-- A thumbnail is replaced by one with a new identifier. -/
theorem leadsTo_of_replaceThumbnail? {event : EventRow} (hevent : event ∈ s.events.rows)
    {id taskId : Uuid} (hfresh : s.Fresh id) {createdAt : Instant} {rows : ThumbnailRows}
    (h : s.toThumbnailRows.replaceThumbnail? event (eventThumbnailKey event.id id) taskId
      createdAt = some rows) : s.LeadsTo { s with toThumbnailRows := rows } := by
  obtain ⟨row, hrow, h⟩ := Option.bind_eq_some_iff.mp h
  obtain ⟨tasks, htasks, h⟩ := Option.bind_eq_some_iff.mp h
  rw [← Option.some.inj h]
  refine leadsTo_of_putEvent hevent (fun key hkey => ?_) fun key =>
    hasKey_enqueuePrevious_iff htasks
  rw [← Option.some.inj hkey]
  exact fresh_of_drawnKey ⟨id, hfresh, infix_eventThumbnailKey event.id id⟩

/-- A thumbnail is removed. -/
theorem leadsTo_of_removeThumbnail? {event : EventRow} (hevent : event ∈ s.events.rows)
    {taskId : Uuid} {createdAt : Instant} {rows : ThumbnailRows}
    (h : s.toThumbnailRows.removeThumbnail? event taskId createdAt = some rows) :
    s.LeadsTo { s with toThumbnailRows := rows } := by
  obtain ⟨row, hrow, h⟩ := Option.bind_eq_some_iff.mp h
  obtain ⟨tasks, htasks, h⟩ := Option.bind_eq_some_iff.mp h
  rw [← Option.some.inj h]
  exact leadsTo_of_putEvent hevent (fun key hkey => absurd hkey (Option.not_mem_none key))
    fun key => hasKey_enqueuePrevious_iff htasks

/-- Bookkeeping of the outbox changes nothing. -/
theorem leadsTo_of_outline {rows : ThumbnailRows}
    (h : s.toThumbnailRows.outline = rows.outline) :
    s.LeadsTo { s with toThumbnailRows := rows } := by
  obtain ⟨hevents, hkeys⟩ := Prod.mk.inj h
  have hlive : ({ s with toThumbnailRows := rows } : Store F).keys = s.keys := by
    rw [keys, keys, ← hevents]
  have htasks : ∀ key, rows.tasks.HasKey key ↔ s.tasks.HasKey key := by
    intro key
    rw [DeletionTasks.HasKey, DeletionTasks.HasKey, ← List.mem_map, ← List.mem_map, ← hkeys]
  have hledger : ({ s with toThumbnailRows := rows } : Store F).ledger = s.ledger :=
    congrArg₂ Ledger.mk hlive (Set.ext htasks)
  refine fun hs => ⟨⟨hledger ▸ hs.balanced, ?_, ?_⟩, fun key hkey => hledger ▸ hkey⟩
  · rw [hlive]
    exact hs.nonempty
  · exact ⟨hs.inScope.faceImages, hs.inScope.searchSessions, hs.inScope.searchImages⟩

end Store

end RaceFrame
