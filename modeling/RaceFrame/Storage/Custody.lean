import RaceFrame.Storage.Operations

/-!
# Custody of the stored objects

Runs of operations on the server, one at a time, each of which may be cut off after
any of its commits. In all committed tables of a run, every key that a row has ever
referenced is still referenced or has a deletion task, unless such a task has been
completed and purged, and no key that a row references has one.
-/

namespace RaceFrame

open Core Program

variable {F : Type}

/-! ## Actions -/

/-- An operation with its arguments. -/
inductive StoreAction
  | ingestPhotoUpload (eventId : Uuid) (fileName contentType : Text) (content : Bytes)
      (idempotencyKey : Option Text)
  | ingestParticipantSelfieUpload (participant : Participant) (fileName contentType : Text)
      (content : Bytes)
  | ingestFaceSearchUpload (eventId : Uuid) (searchSession : Option FaceSearchSession)
      (participant : Option Participant) (fileName contentType : Text) (content : Bytes)
  | saveEventThumbnail (event : EventRow)
  | removeEventThumbnail (event : EventRow)
  | deletePhoto (photo : Photo)
  | deleteAllEventPhotos (eventId : Uuid)
  | deleteEventAction (eventId : Uuid)
  | deleteParticipant (participant : Participant)
  | deleteAllParticipants (eventId : Uuid)
  | purgeExpiredFaceSearches (expiresAt : Uuid → ℤ) (locked : Uuid → Bool) (limit : Nat)
  | processObjectDeletions (limit : Nat)

/-- What the operations are configured with. -/
structure StoreConfig where
  uploads : UploadConfig
  deletionRetryBatchSize : Nat

namespace StoreAction

/-- The operation; `outcomes` is how the calls of an upload end. -/
def program (cfg : StoreConfig) (outcomes : ExternalCall → CallOutcome) :
    StoreAction → Operation F Unit
  | ingestPhotoUpload eventId fileName contentType content idempotencyKey =>
    discard (Operation.ofIngest outcomes (RaceFrame.ingestPhotoUpload cfg.uploads eventId fileName
      contentType content idempotencyKey))
  | ingestParticipantSelfieUpload participant fileName contentType content =>
    discard (Operation.ofIngest outcomes (RaceFrame.ingestParticipantSelfieUpload cfg.uploads
      participant fileName contentType content))
  | ingestFaceSearchUpload eventId searchSession participant fileName contentType content =>
    discard (Operation.ofIngest outcomes (RaceFrame.ingestFaceSearchUpload cfg.uploads eventId
      searchSession participant fileName contentType content))
  | saveEventThumbnail event => Operation.ofThumbnails (RaceFrame.saveEventThumbnail event)
  | removeEventThumbnail event =>
    discard (Operation.ofThumbnails (RaceFrame.removeEventThumbnail event))
  | deletePhoto photo => Operation.deletePhoto cfg.deletionRetryBatchSize photo
  | deleteAllEventPhotos eventId =>
    discard (Operation.deleteAllEventPhotos cfg.deletionRetryBatchSize eventId)
  | deleteEventAction eventId => Operation.deleteEventAction cfg.deletionRetryBatchSize eventId
  | deleteParticipant participant =>
    Operation.deleteParticipant cfg.deletionRetryBatchSize participant
  | deleteAllParticipants eventId =>
    discard (Operation.deleteAllParticipants cfg.deletionRetryBatchSize eventId)
  | purgeExpiredFaceSearches expiresAt locked limit =>
    discard (Operation.purgeExpiredFaceSearches expiresAt locked limit)
  | processObjectDeletions limit =>
    Operation.processObjectDeletions cfg.deletionRetryBatchSize limit

/-- The rows that the operation is called with are stored, and an operation that makes a key draws
an identifier that occurs in no key that is known. -/
def Ready (b : Backend F) : StoreAction → Prop
  | ingestPhotoUpload .. => ∀ n, b.store.Fresh (b.world.uuids n)
  | ingestParticipantSelfieUpload participant .. =>
    (∀ n, b.store.Fresh (b.world.uuids n)) ∧ participant ∈ b.others.participants.rows
  | ingestFaceSearchUpload eventId searchSession participant .. =>
    (∀ n, b.store.Fresh (b.world.uuids n)) ∧ b.store.Searches eventId searchSession participant
  | saveEventThumbnail event =>
    (∀ n, b.store.Fresh (b.world.uuids n)) ∧ event ∈ b.rows.events.rows
  | removeEventThumbnail event => event ∈ b.rows.events.rows
  | deletePhoto photo => photo ∈ b.store.database.photos.rows
  | _ => True

/-- Every operation keeps the tables sound and loses no key. -/
theorem leads_program (cfg : StoreConfig) (outcomes : ExternalCall → CallOutcome)
    (action : StoreAction) {b₀ : Backend F} (hready : action.Ready b₀) (hsound : b₀.store.Sound) :
    Leads (Along Backend.store Store.LeadsTo) (fun b => b = b₀) (action.program cfg outcomes)
      fun _ _ => True := by
  cases action with
  | ingestPhotoUpload eventId fileName contentType content idempotencyKey =>
    exact (Operation.leads_ingestPhotoUpload hready _ _ _ _ _ _ _).discard
  | ingestParticipantSelfieUpload participant fileName contentType content =>
    exact (Operation.leads_ingestParticipantSelfieUpload hready.1 _ _ hready.2 _ _ _).discard
  | ingestFaceSearchUpload eventId searchSession participant fileName contentType content =>
    exact (Operation.leads_ingestFaceSearchUpload hready.1 _ _ hready.2 _ _ _).discard
  | saveEventThumbnail event => exact Operation.leads_saveEventThumbnail hready.1 hready.2
  | removeEventThumbnail event => exact (Operation.leads_removeEventThumbnail hready).discard
  | deletePhoto photo => exact Operation.leads_deletePhoto _ hready
  | deleteAllEventPhotos eventId =>
    exact ((Operation.leads_deleteAllEventPhotos _ b₀ eventId).imp (fun _ h => h)
      fun _ _ _ => trivial).discard
  | deleteEventAction eventId =>
    exact (Operation.leads_deleteEventAction _ eventId).imp (fun _ hb => hb ▸ hsound) fun _ _ h => h
  | deleteParticipant participant => exact Operation.leads_deleteParticipant _ participant
  | deleteAllParticipants eventId =>
    exact (Operation.leads_deleteAllParticipants _ eventId).discard
  | purgeExpiredFaceSearches expiresAt locked limit =>
    exact (Operation.leads_purgeExpiredFaceSearches expiresAt locked limit).discard
  | processObjectDeletions limit => exact Operation.leads_processAfter _ limit

end StoreAction

/-! ## Runs -/

/-- No object is stored yet. -/
structure Store.Initial (s : Store F) : Prop where
  photos : s.uploads.photos.rows = []
  faceImages : s.uploads.participantFaceImages.rows = []
  searchSessions : s.uploads.faceSearchSessions.rows = []
  searchImages : s.uploads.faceSearchImages.rows = []
  events : ∀ event ∈ s.events.rows, event.thumbnailObjectKey = none
  tasks : s.tasks.rows = []

/-- The committed tables of a run, the newest first: after the statements of the operations one
after another, each on a server with the tables that the last one has left, and each as far as it
has come. -/
inductive StoreRun (cfg : StoreConfig) : List (Store F) → Prop
  | start {s : Store F} (h : s.Initial) : StoreRun cfg [s]
  | act {current : Store F} {earlier commits : List (Store F)}
      (h : StoreRun cfg (current :: earlier)) (action : StoreAction)
      (outcomes : ExternalCall → CallOutcome) {b : Backend F} (hb : b.store = current)
      (hready : action.Ready b) (hcommits : commits <+: (action.program cfg outcomes).commits b) :
      StoreRun cfg (commits.reverse ++ current :: earlier)
  | purge {current : Store F} {earlier commits : List (Store F)}
      (h : StoreRun cfg (current :: earlier)) (retentionDays : Nat) {b : Backend F}
      (hb : b.store = current)
      (hcommits : commits <+: (Operation.purgeCompletedDeletionTasks retentionDays).commits b) :
      StoreRun cfg (commits.reverse ++ current :: earlier)

namespace Store

theorem Initial.sound {s : Store F} (h : s.Initial) : s.Sound := by
  have hkeys : s.keys = [] := by
    have hevents : s.events.rows.flatMap EventRow.objectKeys = [] := by
      refine List.flatMap_eq_nil_iff.mpr fun event hevent => ?_
      rw [EventRow.objectKeys, h.events event hevent]
      rfl
    rw [keys, h.photos, h.faceImages, h.searchImages, hevents]
    rfl
  refine ⟨⟨?_, fun key hkey => ?_⟩, ?_, ?_⟩
  · rw [ledger, hkeys]
    exact List.nodup_nil
  · rw [ledger, hkeys] at hkey
    cases hkey
  · rw [hkeys]
    exact List.not_mem_nil
  · have hfaceImages : s.database.keyRows.faceImages = [] := h.faceImages
    have hsearchSessions : s.database.keyRows.searchSessions = [] := h.searchSessions
    have hsearchImages : s.database.keyRows.searchImages = [] := h.searchImages
    constructor
    · rw [hfaceImages]
      exact List.forall_mem_nil _
    · rw [hsearchSessions]
      exact List.forall_mem_nil _
    · rw [hsearchImages]
      exact List.forall_mem_nil _

/-- A change keeps the tables sound, and loses no key but those of completed tasks. -/
structure Passes (s u : Store F) : Prop where
  sound : s.Sound → u.Sound
  accounts : s.Sound → ∀ key, s.ledger.Accounts key →
    u.ledger.Accounts key ∨ s.HasCompletedTask key

theorem LeadsTo.passes {s u : Store F} (h : s.LeadsTo u) : s.Passes u where
  sound hs := (h hs).1
  accounts hs key hkey := Or.inl ((h hs).2 key hkey)

/-- A change that completes no task. -/
structure Purges (s u : Store F) : Prop extends s.Passes u where
  completed : ∀ key, u.HasCompletedTask key → s.HasCompletedTask key

instance : Std.Refl (Purges (F := F)) :=
  ⟨fun _ => ⟨⟨fun h => h, fun _ _ hkey => Or.inl hkey⟩, fun _ h => h⟩⟩

instance : IsTrans (Store F) Purges where
  trans _ _ _ h h' :=
    { sound := fun hs => h'.sound (h.sound hs)
      accounts := fun hs key hkey => by
        rcases h.accounts hs key hkey with hkey | hkey
        · exact (h'.accounts (h.sound hs) key hkey).imp_right (h.completed key)
        · exact Or.inr hkey
      completed := fun key hkey => h.completed key (h'.completed key hkey) }

/-- A purge of completed tasks. -/
private theorem purges_deleteWhere (s : Store F) {purged : ObjectDeletionTask → Bool}
    (hpurged : ∀ task, purged task = true → task.status = .completed) :
    s.Purges { s with tasks := s.tasks.deleteWhere purged } where
  sound hs := by
    refine ⟨⟨hs.balanced.nodup, fun key hkey hdead => hs.balanced.alive key hkey ?_⟩, hs.nonempty,
      ⟨hs.inScope.faceImages, hs.inScope.searchSessions, hs.inScope.searchImages⟩⟩
    obtain ⟨task, htask, hid⟩ := hdead
    exact ⟨task, (Table.mem_deleteWhere.mp htask).1, hid⟩
  accounts hs key hkey := by
    rcases hkey with hkey | ⟨task, htask, hid⟩
    · exact Or.inl (Or.inl hkey)
    · cases hgone : purged task with
      | true => exact Or.inr ⟨task, htask, hid, hpurged task hgone⟩
      | false => exact Or.inl (Or.inr ⟨task, Table.mem_deleteWhere.mpr ⟨htask, hgone⟩, hid⟩)
  completed key hkey := by
    obtain ⟨task, htask, hid, hstatus⟩ := hkey
    exact ⟨task, (Table.mem_deleteWhere.mp htask).1, hid, hstatus⟩

end Store

/-- The purge of completed tasks, from its first statement. -/
theorem Operation.leads_purgeCompletedDeletionTasks (retentionDays : Nat) (b₀ : Backend F) :
    Leads (Along Backend.store Store.Purges) (fun b => b = b₀)
      (purgeCompletedDeletionTasks retentionDays) fun _ _ => True := by
  refine (leads_ofThumbnails (Thumbnails.preserves_utcNow.leads_along)).bind fun now => ?_
  refine leads_commit fun b u _ hu => ⟨?_, fun _ _ => trivial⟩
  rw [← Option.some.inj hu]
  refine Store.purges_deleteWhere b.store fun task hpurged => ?_
  exact beq_iff_eq.mp (Bool.and_eq_true_iff.mp hpurged).1

/-! ## Custody -/

/-- Every key that a row has referenced before is still referenced or has a deletion task, or such
a task has been completed since. -/
structure Store.Custody (current : Store F) (earlier : List (Store F)) : Prop where
  sound : current.Sound
  accounts : ∀ between past before, earlier = between ++ past :: before →
    ∀ key, past.References key →
      current.ledger.Accounts key ∨ ∃ s ∈ between, s.HasCompletedTask key

/-- The same at every commit. -/
def CustodyThroughout : List (Store F) → Prop
  | [] => True
  | current :: earlier => current.Custody earlier ∧ CustodyThroughout earlier

/-- The next commit. -/
theorem Store.Custody.next {current next : Store F} {earlier : List (Store F)}
    (h : current.Custody earlier) (hpasses : current.Passes next) :
    next.Custody (current :: earlier) where
  sound := hpasses.sound h.sound
  accounts between past before hsplit key hkey := by
    rcases List.cons_eq_append_iff.mp hsplit with ⟨rfl, hcons⟩ | ⟨between', rfl, hearlier⟩
    · obtain ⟨rfl, rfl⟩ := List.cons.inj hcons
      have hkey := Store.mem_keys.mpr hkey
      refine (hpasses.accounts h.sound key (Or.inl hkey)).imp_right ?_
      rintro ⟨task, htask, hid, -⟩
      exact absurd ⟨task, htask, hid⟩ (h.sound.balanced.alive key hkey)
    · rcases h.accounts between' past before hearlier key hkey with hkey | ⟨s, hs, hcompleted⟩
      · exact (hpasses.accounts h.sound key hkey).imp_right fun hcompleted =>
          ⟨current, List.mem_cons_self, hcompleted⟩
      · exact Or.inr ⟨s, List.mem_cons_of_mem current hs, hcompleted⟩

/-- The commits of an operation. -/
theorem CustodyThroughout.append {R : Store F → Store F → Prop} {current : Store F}
    {earlier commits : List (Store F)} (h : CustodyThroughout (current :: earlier))
    (hR : ∀ s u, R s u → s.Passes u) (hchain : (current :: commits).Pairwise R) :
    CustodyThroughout (commits.reverse ++ current :: earlier) := by
  induction commits generalizing current earlier with
  | nil => exact h
  | cons next commits ih =>
    obtain ⟨hnext, hrest⟩ := List.pairwise_cons.mp hchain
    rw [List.reverse_cons, List.append_assoc]
    exact ih ⟨h.1.next (hR _ _ (hnext next List.mem_cons_self)), h⟩ hrest

private theorem pairwise_commits {α : Type} {R : Store F → Store F → Prop} {x : Operation F α}
    {b : Backend F} {Q : α → Backend F → Prop}
    (h : Leads (Along Backend.store R) (fun b' => b' = b) x Q) {commits : List (Store F)}
    (hcommits : commits <+: x.commits b) : (b.store :: commits).Pairwise R := by
  have hchain : ((b :: x.trace b).map Backend.store).Pairwise R :=
    List.pairwise_map.mpr (h.pairwise rfl)
  rw [List.map_cons] at hchain
  exact hchain.sublist (hcommits.sublist.cons_cons b.store)

/-- Custody is kept at every commit of a run. -/
theorem custodyThroughout_of_run {cfg : StoreConfig} {history : List (Store F)}
    (h : StoreRun cfg history) : CustodyThroughout history := by
  induction h with
  | start h =>
    refine ⟨⟨h.sound, fun between past before hsplit => ?_⟩, trivial⟩
    exact absurd hsplit.symm (List.append_ne_nil_of_right_ne_nil between (List.cons_ne_nil _ _))
  | act h action outcomes hb hready hcommits ih =>
    subst hb
    have hleads := action.leads_program cfg outcomes hready ih.1.sound
    exact ih.append (fun _ _ => Store.LeadsTo.passes) (pairwise_commits hleads hcommits)
  | purge h retentionDays hb hcommits ih =>
    subst hb
    exact ih.append (fun _ _ => Store.Purges.toPasses)
      (pairwise_commits (Operation.leads_purgeCompletedDeletionTasks retentionDays _) hcommits)

private theorem CustodyThroughout.of_append {current : Store F} {later earlier : List (Store F)}
    (h : CustodyThroughout (later ++ current :: earlier)) : current.Custody earlier := by
  induction later with
  | nil => exact h.1
  | cons next later ih => exact ih h.2

/-- At every commit of a run, every key that a row has referenced at an earlier one is still
referenced or has a deletion task, or such a task has been completed in between; and no referenced
key has a deletion task. -/
theorem objects_in_custody (cfg : StoreConfig) (later earlier : List (Store F))
    (current : Store F) (h : StoreRun cfg (later ++ current :: earlier)) :
    (∀ between past before, earlier = between ++ past :: before →
      ∀ key, past.References key → current.References key ∨ current.HasTask key ∨
        ∃ s ∈ between, s.HasCompletedTask key) ∧
      ∀ key, current.References key → ¬current.HasTask key := by
  have hcustody := (custodyThroughout_of_run h).of_append
  refine ⟨fun between past before hsplit key hkey => ?_, fun key hkey => ?_⟩
  · rw [← or_assoc]
    refine (hcustody.accounts between past before hsplit key hkey).imp_left ?_
    exact Or.imp_left Store.mem_keys.mp
  · exact hcustody.sound.balanced.alive key (Store.mem_keys.mpr hkey)

/-- An operation that has run to its end. -/
private theorem StoreRun.complete {cfg : StoreConfig} {b : Backend F} {earlier : List (Store F)}
    (h : StoreRun cfg (b.store :: earlier)) (action : StoreAction)
    (outcomes : ExternalCall → CallOutcome) (hready : action.Ready b) :
    StoreRun cfg (((action.program cfg outcomes).run b).2.store ::
      ((((action.program cfg outcomes).visits b).map Backend.store).reverse ++
        b.store :: earlier)) := by
  have hact := h.act action outcomes rfl hready (List.prefix_refl _)
  rw [Operation.commits, trace, List.map_append, List.reverse_append] at hact
  exact hact

/-- The installation of `pixelConfig`. -/
def pixelStoreConfig : StoreConfig := ⟨pixelConfig, 50⟩

/-- A server on which nothing is stored and every call returns. -/
def emptyBackend : Backend ℚ where
  world := World.still 0 fun n => n + 1
  outcomes _ := .returns
  locked := []
  rows := ⟨.empty, .empty⟩
  commits := 0
  objects := []
  putKeys := []
  deleteTargets := []
  uploads := .empty
  others := .empty

/-- The server after the file of `blackPixel` has been uploaded. -/
def pixelUploaded : Backend ℚ :=
  (((StoreAction.ingestPhotoUpload 7 "start.png".toList "image/png".toList blackPixel
    none).program pixelStoreConfig fun _ => .returns).run emptyBackend).2

/-- The photo of the upload. -/
def pixelPhoto : Photo where
  id := 1
  eventId := 7
  originalObjectKey := buildOriginalObjectKey pixelConfig.tools 7 1 "start.png".toList
  fileName := "start.png".toList
  contentType := "image/png".toList
  status := .processing
  createdAt := 0

/-- The server after the photo has been deleted. -/
def pixelDeleted : Backend ℚ :=
  (((StoreAction.deletePhoto pixelPhoto).program pixelStoreConfig fun _ => .returns).run
    pixelUploaded).2

/-- The photo is uploaded and deleted: no row references its object any more, and it has been
queued for deletion. -/
theorem pixel_in_custody :
    pixelUploaded.store.References pixelPhoto.originalObjectKey ∧
      ¬pixelDeleted.store.References pixelPhoto.originalObjectKey ∧
        ∃ between before, StoreRun pixelStoreConfig
            (pixelDeleted.store :: (between ++ pixelUploaded.store :: before)) ∧
          (pixelDeleted.store.HasTask pixelPhoto.originalObjectKey ∨
            ∃ s ∈ between, s.HasCompletedTask pixelPhoto.originalObjectKey) := by
  have hreferenced : pixelUploaded.store.References pixelPhoto.originalObjectKey :=
    Store.mem_keys.mp (by decide +kernel)
  have hgone : ¬pixelDeleted.store.References pixelPhoto.originalObjectKey :=
    mt Store.mem_keys.mpr (by decide +kernel)
  have hphoto : pixelPhoto ∈ pixelUploaded.store.database.photos.rows := by decide +kernel
  have hinitial : emptyBackend.store.Initial :=
    ⟨rfl, rfl, rfl, rfl, fun event hevent => absurd hevent List.not_mem_nil, rfl⟩
  have hfresh : ∀ n, emptyBackend.store.Fresh (emptyBackend.world.uuids n) := by
    rintro n key (hkey | ⟨task, htask, -⟩)
    · exact absurd (Store.mem_keys.mpr hkey) List.not_mem_nil
    · exact absurd htask List.not_mem_nil
  have hrun := ((StoreRun.start hinitial).complete (.ingestPhotoUpload 7 _ _ _ none)
    (fun _ => .returns) hfresh).complete (.deletePhoto pixelPhoto) (fun _ => .returns) hphoto
  refine ⟨hreferenced, hgone, _, _, hrun, ?_⟩
  have hcustody := (objects_in_custody pixelStoreConfig [] _ pixelDeleted.store hrun).1 _ _ _ rfl _
    hreferenced
  exact hcustody.resolve_left hgone

end RaceFrame
