import RaceFrame.Storage.References

/-!
# Operations and references

Every operation on the server, statement by statement, goes along changes that keep
the tables sound and lose no key.
-/

namespace RaceFrame

open Core Program

variable {F α : Type}

namespace Operation

/-! ## Parts -/

/-- The operation keeps the tables sound and loses no key, from the states with a property. -/
abbrev Keeps (P : Backend F → Prop) (x : Operation F α) (Q : α → Backend F → Prop) : Prop :=
  Leads (Along Backend.store Store.LeadsTo) (fun b => P b ∧ b.store.Sound) x
    fun a b => Q a b ∧ b.store.Sound

/-- What goes along changes keeps the tables sound. -/
theorem keeps_of_leads {P : Backend F → Prop} {x : Operation F α} {Q : α → Backend F → Prop}
    (h : Leads (Along Backend.store Store.LeadsTo) P x Q) : Keeps P x Q :=
  h.carry fun _ _ hchange hs => (hchange hs).1

/-- An upload, from its first statement. -/
theorem leads_ofIngest {outcomes : ExternalCall → CallOutcome} {x : Ingest F α} {b₀ : Backend F}
    (h : Leads
      (Along UploadState.rows (Along (fun rows => { b₀.store with uploads := rows }) Store.LeadsTo))
      (fun t => t = ⟨b₀.world, outcomes, b₀.uploads, b₀.objects, [], []⟩) x fun _ _ => True) :
    Leads (Along Backend.store Store.LeadsTo) (fun b => b = b₀) (ofIngest outcomes x)
      fun _ _ => True := by
  refine Leads.onPart (fun _ => rfl) fun b hb => ?_
  rw [hb]
  exact h

/-- A program on thumbnails or the outbox, from its first statement. -/
theorem leads_ofThumbnails {R : Store F → Store F → Prop} {x : Thumbnails α} {b₀ : Backend F}
    (h : Leads
      (Along ThumbnailState.rows
        (Along (fun rows => ({ b₀.store with toThumbnailRows := rows } : Store F)) R))
      (fun t => t = b₀.toThumbnailState) x fun _ _ => True) :
    Leads (Along Backend.store R) (fun b => b = b₀) (ofThumbnails x) fun _ b =>
      b.uploads = b₀.uploads ∧ b.others = b₀.others := by
  refine Leads.onPart (fun _ => rfl) fun b hb => ?_
  rw [hb]
  exact h.imp (fun _ ht => ht) fun _ _ _ => ⟨rfl, rfl⟩

/-- A commit goes along what its change goes along. -/
theorem leads_commit {R : Store F → Store F → Prop} [Std.Refl R] [IsTrans (Store F) R]
    {P Q : Backend F → Prop} {change : Store F → Option (Store F)}
    (h : ∀ b u, P b → change b.store = some u → R b.store u ∧ ∀ b', b'.store = u → Q b') :
    Leads (Along Backend.store R) P (commit change) fun _ => Q := by
  refine leads_gets_bind fun changed => ?_
  cases changed with
  | none => exact leads_raise _
  | some u =>
    refine leads_gets_bind fun outcome => ?_
    by_cases hreturns : outcome = .returns
    · rw [if_pos hreturns]
      refine leads_modify (fun b hb => ?_) fun b hb => ?_
      · exact (h b u hb.1.1 hb.1.2).1
      · exact (h b u hb.1.1 hb.1.2).2 _ rfl
    · rw [if_neg hreturns]
      exact leads_raise _

/-- Processing the outbox leaves all other tables as they are. -/
theorem leads_processObjectDeletions (batchSize limit : Nat) {P : Backend F → Prop}
    (hP : ∀ b b' : Backend F, b'.uploads = b.uploads ∧ b'.others = b.others → P b → P b') :
    Leads (Along Backend.store Store.LeadsTo) P (processObjectDeletions batchSize limit)
      fun _ => P := by
  refine leads_of_forall fun b hb => ?_
  have hkeeps := (preserves_processObjectDeletions (if limit = 0 then batchSize else limit)).leads
    (R := Along ThumbnailState.rows
      (Along (fun rows => ({ b.store with toThumbnailRows := rows } : Store F)) Store.LeadsTo))
    (P := fun t => t = b.toThumbnailState) (Q := fun _ => True)
    (fun s u hsame => Store.leadsTo_of_outline
      (s := { b.store with toThumbnailRows := s.rows }) hsame) fun _ _ _ _ => trivial
  exact (leads_ofThumbnails hkeeps).imp (fun _ h => h) fun _ b' hsame => hP b b' hsame hb

/-- The entries of new deletion tasks have the given keys. -/
private theorem leads_drawTasks (objectKeys : List Text) {s : Store F} :
    Leads (Along Backend.store Store.LeadsTo) (fun b => b.store = s) (drawTasks objectKeys)
      fun entries b => b.store = s ∧ entries.map Prod.fst = objectKeys := by
  have hids : Leads (Along Backend.store Store.LeadsTo) (fun b : Backend F => b.store = s)
      (ofThumbnails (Thumbnails.uuid4s objectKeys.length)) fun ids b =>
        b.store = s ∧ ids.length = objectKeys.length := by
    refine Leads.onPart (fun _ => rfl) fun b hb => ?_
    refine leads_gets_bind fun ids => leads_of_forall fun t ht => ?_
    obtain ⟨rfl, rfl⟩ := ht
    refine Leads.bind (leads_modify (Q := fun _ t => (b.withThumbnails t).store = s)
      (fun t _ => Std.Refl.refl (b.withThumbnails t).store) fun t ht => ?_) fun _ =>
        leads_pure fun t ht => ⟨ht, ?_⟩
    · rw [ht]
      exact hb
    · rw [List.length_map, List.length_range]
  refine hids.bind fun ids => leads_gets_bind fun createdAt => leads_of_forall fun b hb => ?_
  obtain ⟨⟨hstore, hlength⟩, rfl⟩ := hb
  refine Leads.bind (leads_modify (Q := fun _ b => b.store = s)
    (fun b _ => Std.Refl.refl b.store) fun b' hb' => ?_) fun _ => leads_pure fun b' hb' => ⟨hb', ?_⟩
  · rw [hb']
    exact hstore
  · rw [List.map_fst_zip]
    rw [List.length_zip, List.length_map, List.length_range, hlength, Nat.min_self]

/-- A transaction that deletes rows and queues their keys. -/
theorem leads_remove {removal : Request F (α × List Text)} {b₀ : Backend F}
    {selection : RowSelection} {others : List Text} {deletesEvent : EventRow → Bool}
    (hdeletes : removal.Deletes b₀.world b₀.store.database b₀.store.thumbnailObjectKey selection
      others)
    (hothers : ∀ key, key ≠ [] → (key ∈ others ↔
      key ∈ (b₀.rows.events.rows.filter deletesEvent).flatMap EventRow.objectKeys)) :
    Leads (Along Backend.store Store.LeadsTo) (fun b => b = b₀) (remove deletesEvent removal)
      fun _ b => b₀.store.LeadsTo b.store ∧
        b₀.store.database.keyRows.Removes b.store.database.keyRows selection := by
  obtain ⟨answer, objectKeys, session, hrun, hcommit⟩ :=
    Store.leadsTo_of_afterRemoval hdeletes hothers
  refine leads_gets_bind fun result => leads_of_forall fun b hb => ?_
  obtain ⟨rfl, hresult⟩ := hb
  rw [hrun] at hresult
  subst hresult
  refine Leads.bind (leads_modify (Q := fun _ b' => b'.store = b.store)
    (fun b' _ => Std.Refl.refl b'.store) fun b' hb' => by rw [hb']; rfl) fun _ => ?_
  refine (leads_drawTasks objectKeys).bind fun entries => ?_
  refine Leads.bind (leads_commit fun b' u hb' hu => ?_) fun _ => leads_pure fun _ hb' => hb'
  rw [hb'.1] at hu ⊢
  have hcommitted := hcommit entries u hb'.2 hu
  refine ⟨hcommitted.1, fun b'' hb'' => ?_⟩
  rw [hb'']
  exact hcommitted

/-! ## Uploads and thumbnails -/

section Fresh

variable {b₀ : Backend F} (hfresh : ∀ n, b₀.store.Fresh (b₀.world.uuids n)) (cfg : UploadConfig)
  (outcomes : ExternalCall → CallOutcome)

include hfresh

private theorem leads_upload {x : Ingest F α}
    (h : Ingest.GoesFrom (Along (fun rows => ({ b₀.store with uploads := rows } : Store F))
      Store.LeadsTo) b₀.uploads b₀.store.Fresh x) :
    Leads (Along Backend.store Store.LeadsTo) (fun b => b = b₀) (ofIngest outcomes x)
      fun _ _ => True := by
  refine leads_ofIngest (h.imp (fun t ht => ?_) fun _ _ h => h)
  rw [ht]
  exact ⟨rfl, hfresh⟩

theorem leads_ingestPhotoUpload (eventId : Uuid) (fileName contentType : Text) (content : Bytes)
    (idempotencyKey : Option Text) :
    Leads (Along Backend.store Store.LeadsTo) (fun b => b = b₀)
      (ofIngest outcomes (ingestPhotoUpload cfg eventId fileName contentType content
        idempotencyKey)) fun _ _ => True := by
  refine leads_upload hfresh outcomes ?_
  refine goesFrom_ingestPhotoUpload cfg eventId fileName contentType content idempotencyKey ?_
  intro photo thumbnailObjectKey jobs rows' hthumbnail hne hdrawnThumbnail hdrawn hinsert
  exact Store.leadsTo_of_insertPhoto? hthumbnail hne hdrawnThumbnail hdrawn hinsert

theorem leads_ingestParticipantSelfieUpload {participant : Participant}
    (hparticipant : participant ∈ b₀.others.participants.rows) (fileName contentType : Text)
    (content : Bytes) :
    Leads (Along Backend.store Store.LeadsTo) (fun b => b = b₀)
      (ofIngest outcomes (ingestParticipantSelfieUpload cfg participant fileName contentType
        content)) fun _ _ => True := by
  refine leads_upload hfresh outcomes ?_
  refine goesFrom_ingestParticipantSelfieUpload cfg participant fileName contentType content ?_
  intro image job rows' hevent hid hdrawn hinsert
  exact Store.leadsTo_of_insertFaceImage? hparticipant hid hevent hdrawn hinsert

theorem leads_ingestFaceSearchUpload {eventId : Uuid} {searchSession : Option FaceSearchSession}
    {participant : Option Participant}
    (hsearches : b₀.store.Searches eventId searchSession participant)
    (fileName contentType : Text) (content : Bytes) :
    Leads (Along Backend.store Store.LeadsTo) (fun b => b = b₀)
      (ofIngest outcomes (ingestFaceSearchUpload cfg eventId searchSession participant fileName
        contentType content)) fun _ _ => True := by
  refine leads_upload hfresh outcomes ?_
  refine goesFrom_ingestFaceSearchUpload cfg eventId searchSession participant fileName contentType
    content ?_
  intro opened image job rows' hopened hevent hid hdrawn hinsert
  exact Store.leadsTo_of_insertSearchImage? hsearches hopened hevent hid hdrawn hinsert

theorem leads_saveEventThumbnail {event : EventRow} (hevent : event ∈ b₀.rows.events.rows) :
    Leads (Along Backend.store Store.LeadsTo) (fun b => b = b₀)
      (ofThumbnails (saveEventThumbnail event)) fun _ _ => True := by
  have hsaves := RaceFrame.leads_saveEventThumbnail
    (R := Along (fun rows => ({ b₀.store with toThumbnailRows := rows } : Store F)) Store.LeadsTo)
    (fun rows rows' h => Store.leadsTo_of_outline
      (s := { b₀.store with toThumbnailRows := rows }) h)
    fun id taskId createdAt rows' hid h =>
      Store.leadsTo_of_replaceThumbnail? (s := b₀.store) hevent hid h
  refine (leads_ofThumbnails (hsaves.imp (fun t ht => ?_) fun _ _ h => h)).imp (fun _ h => h)
    fun _ _ _ => trivial
  rw [ht]
  exact ⟨rfl, hfresh⟩

end Fresh

theorem leads_removeEventThumbnail {b₀ : Backend F} {event : EventRow}
    (hevent : event ∈ b₀.rows.events.rows) :
    Leads (Along Backend.store Store.LeadsTo) (fun b => b = b₀)
      (ofThumbnails (removeEventThumbnail event)) fun _ _ => True := by
  have hremoves : Leads _ (ThumbnailState.Ready b₀.rows fun _ => True) _ _ :=
    RaceFrame.leads_removeEventThumbnail
      (R := Along (fun rows => ({ b₀.store with toThumbnailRows := rows } : Store F))
        Store.LeadsTo)
      (fun rows rows' h => Store.leadsTo_of_outline
        (s := { b₀.store with toThumbnailRows := rows }) h)
      fun taskId createdAt rows' h => Store.leadsTo_of_removeThumbnail? (s := b₀.store) hevent h
  refine (leads_ofThumbnails (hremoves.imp (fun t ht => ?_) fun _ _ h => h)).imp (fun _ h => h)
    fun _ _ _ => trivial
  rw [ht]
  exact ⟨rfl, fun _ => trivial⟩

/-! ## Deletions -/

variable (batchSize : Nat)

private theorem mem_nil_iff_of_no_event {events : List EventRow} (key : Text) (_ : key ≠ []) :
    key ∈ ([] : List Text) ↔
      key ∈ (events.filter fun _ => false).flatMap EventRow.objectKeys := by
  rw [List.filter_false, List.flatMap_nil]

/-- Of the outbox nothing is asked afterwards. -/
theorem leads_processAfter (limit : Nat) {P : Backend F → Prop} :
    Leads (Along Backend.store Store.LeadsTo) P (processObjectDeletions batchSize limit)
      fun _ _ => True :=
  (leads_processObjectDeletions batchSize limit fun _ _ _ h => h).imp (fun _ _ => trivial)
    fun _ _ h => h

theorem leads_deletePhoto {b₀ : Backend F} {photo : Photo}
    (hphoto : photo ∈ b₀.store.database.photos.rows) :
    Leads (Along Backend.store Store.LeadsTo) (fun b => b = b₀) (deletePhoto batchSize photo)
      fun _ _ => True := by
  refine leads_gets_bind fun thumbnailObjectKey => leads_of_forall fun b hb => ?_
  obtain ⟨rfl, rfl⟩ := hb
  refine (leads_remove (deletes_deletePhoto b.world _ hphoto) mem_nil_iff_of_no_event).bind
    fun _ => leads_processAfter batchSize 2

/-- No photo of the event is stored. -/
def NoPhotos (eventId : Uuid) (b : Backend F) : Prop :=
  ∀ photo ∈ b.store.database.photos.rows, photo.eventId ≠ eventId

private theorem noPhotos_of_removes {eventId : Uuid} {b b' : Backend F}
    (h : b.store.database.keyRows.Removes b'.store.database.keyRows
      (.ofPhotos ((b.store.database.photosOf eventId).map (·.id)))) : NoPhotos eventId b' := by
  intro photo hphoto hevent
  have hphoto : photo ∈ b'.store.database.keyRows.photos := hphoto
  rw [h.photos] at hphoto
  obtain ⟨hmem, hkept⟩ := List.mem_filter.mp hphoto
  have hid : photo.id ∈ (b.store.database.photosOf eventId).map (·.id) :=
    List.mem_map_of_mem (List.mem_filter.mpr ⟨hmem, beq_iff_eq.mpr hevent⟩)
  have hselected : (RowSelection.ofPhotos ((b.store.database.photosOf eventId).map (·.id))).photo
      photo = true := List.contains_iff_mem.mpr hid
  rw [hselected] at hkept
  cases hkept

theorem leads_deleteAllEventPhotos (b₀ : Backend F) (eventId : Uuid) :
    Leads (Along Backend.store Store.LeadsTo) (fun b => b = b₀)
      (deleteAllEventPhotos batchSize eventId) fun _ => NoPhotos eventId := by
  refine leads_gets_bind fun thumbnailObjectKey => leads_of_forall fun b hb => ?_
  obtain ⟨rfl, rfl⟩ := hb
  have hremove := leads_remove (deletes_deleteAllEventPhotos b.world b.store.thumbnailObjectKey
    b.store.database eventId) mem_nil_iff_of_no_event
  refine hremove.bind fun count => ?_
  refine Leads.bind (Q := fun _ => NoPhotos eventId) ?_ fun _ => leads_pure fun _ h => h
  refine (leads_processObjectDeletions batchSize _ fun b b' hsame h => ?_).imp
    (fun b' hb' => noPhotos_of_removes hb'.2) fun _ _ h => h
  have hdatabase : b'.store.database = b.store.database := by
    change b'.others.withUploads b'.uploads = b.others.withUploads b.uploads
    rw [hsame.1, hsame.2]
  rw [NoPhotos, hdatabase]
  exact h

private theorem mem_previousKey_iff {events : Table EventRow EventRow.id} (eventId : Uuid)
    (key : Text) (hne : key ≠ []) :
    key ∈ ((events.get? eventId).bind EventRow.previousKey).toList ↔
      key ∈ (events.rows.filter fun event => event.id == eventId).flatMap EventRow.objectKeys := by
  cases hget : events.get? eventId with
  | none =>
    have hnone := Table.get?_eq_none_iff.mp hget
    have hfilter : events.rows.filter (fun event => event.id == eventId) = [] :=
      List.filter_eq_nil_iff.mpr fun event hevent heq => hnone event hevent (beq_iff_eq.mp heq)
    rw [hfilter]
    exact Iff.rfl
  | some event =>
    obtain ⟨hevent, hid⟩ := Table.get?_eq_some_iff.mp hget
    have hfilter : events.rows.filter (fun event => event.id == eventId) = [event] :=
      filter_eq_singleton events.rows_nodup hevent (beq_iff_eq.mpr hid) fun event' hevent' heq =>
        Table.eq_of_key_eq hevent' hevent ((beq_iff_eq.mp heq).trans hid.symm)
    rw [hfilter, List.flatMap_singleton, Option.bind_some, EventRow.previousKey,
      EventRow.objectKeys, Option.mem_toList, Option.mem_toList, Option.filter_eq_some_iff,
      Bool.not_eq_true', List.isEmpty_eq_false_iff]
    exact and_iff_left hne

theorem leads_deleteEvent {b₀ : Backend F} {eventId : Uuid} (hphotos : NoPhotos eventId b₀)
    (hsound : b₀.store.Sound) :
    Leads (Along Backend.store Store.LeadsTo) (fun b => b = b₀) (deleteEvent batchSize eventId)
      fun _ _ => True := by
  refine leads_gets_bind fun event => leads_of_forall fun b hb => ?_
  obtain ⟨rfl, rfl⟩ := hb
  refine (leads_remove (deletes_deleteEvent b.world b.store.thumbnailObjectKey hsound.inScope
    hphotos _) (mem_previousKey_iff eventId)).bind fun count => leads_processAfter batchSize _

theorem leads_deleteEventAction (eventId : Uuid) :
    Leads (Along Backend.store Store.LeadsTo) (fun b : Backend F => b.store.Sound)
      (deleteEventAction batchSize eventId) fun _ _ => True := by
  refine leads_of_forall fun b hb => leads_gets_bind fun event => ?_
  cases event with
  | none => exact leads_raise _
  | some row =>
    refine Leads.bind (Q := fun _ b => NoPhotos eventId b ∧ b.store.Sound) ?_ fun count => ?_
    · refine (keeps_of_leads (leads_deleteAllEventPhotos batchSize b eventId)).imp
        (fun b' hb' => ⟨hb'.1, ?_⟩) fun _ _ h => h
      rw [hb'.1]
      exact hb
    · exact leads_of_forall fun b hb => leads_deleteEvent batchSize hb.1 hb.2

theorem leads_deleteParticipant {b₀ : Backend F} (participant : Participant) :
    Leads (Along Backend.store Store.LeadsTo) (fun b => b = b₀)
      (deleteParticipant batchSize participant) fun _ _ => True :=
  (leads_remove (deletes_deleteParticipant b₀.world b₀.store.thumbnailObjectKey _ participant)
    mem_nil_iff_of_no_event).bind fun _ => leads_processAfter batchSize 0

theorem leads_deleteAllParticipants {b₀ : Backend F} (eventId : Uuid) :
    Leads (Along Backend.store Store.LeadsTo) (fun b => b = b₀)
      (deleteAllParticipants batchSize eventId) fun _ _ => True :=
  (leads_remove (deletes_deleteAllParticipants b₀.world b₀.store.thumbnailObjectKey _ eventId)
    mem_nil_iff_of_no_event).bind fun _ =>
      (leads_processAfter batchSize 0).bind fun _ => leads_pure fun _ h => h

theorem leads_purgeExpiredFaceSearches {b₀ : Backend F} (expiresAt : Uuid → ℤ)
    (locked : Uuid → Bool) (limit : Nat) :
    Leads (Along Backend.store Store.LeadsTo) (fun b => b = b₀)
      (purgeExpiredFaceSearches expiresAt locked limit) fun _ _ => True :=
  (leads_remove (deletes_purgeExpiredFaceSearches b₀.world b₀.store.thumbnailObjectKey _ expiresAt
    locked limit) mem_nil_iff_of_no_event).imp (fun _ h => h) fun _ _ _ => trivial

end Operation

end RaceFrame
