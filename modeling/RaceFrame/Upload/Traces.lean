import RaceFrame.Core.Traces
import RaceFrame.Upload.Faults

/-!
# Traces of uploads

What the three uploads commit, statement by statement: once, a new row whose keys
have a new identifier in them, with its jobs.
-/

namespace RaceFrame

open Core

variable {F α : Type}

/-- Nothing is written yet, and the identifiers still to be drawn have a property. -/
structure UploadState.Ready (rows : UploadRows F) (fresh : Uuid → Prop) (s : UploadState F) :
    Prop where
  rows : s.rows = rows
  uuids : ∀ n, fresh (s.world.uuids n)

/-- An object key with such an identifier in it. -/
def DrawnKey (fresh : Uuid → Prop) (key : Text) : Prop := ∃ id, fresh id ∧ uuidText id <:+: key

/-- The session of a search image: the one that is carried, or a new one. -/
def FaceSearchSession.OpenedFor (eventId : Uuid) (searchSession : Option FaceSearchSession)
    (participant : Option Participant) (opened : FaceSearchSession) : Prop :=
  match searchSession with
  | some carried => opened = carried
  | none => opened.eventId = eventId ∧ opened.participantId = participant.map (·.id)

/-- The two objects of a photo have different keys. -/
theorem buildThumbnailObjectKey_ne (tools : ImageTools) (eventId photoId : Uuid)
    (fileName : Text) : buildThumbnailObjectKey eventId photoId fileName ≠
      buildOriginalObjectKey tools eventId photoId fileName := by
  intro heq
  have hthumbnail : "events/".toList ++ uuidText eventId ++ "/thumbnails/".toList <+:
      buildThumbnailObjectKey eventId photoId fileName :=
    (((List.prefix_append _ (uuidText photoId)).trans (List.prefix_append _ ['-'])).trans
      (List.prefix_append _ _)).trans (List.prefix_append _ _)
  have horiginal : "events/".toList ++ uuidText eventId ++ "/originals/".toList <+:
      buildOriginalObjectKey tools eventId photoId fileName := List.prefix_append _ _
  have hlength : "/originals/".toList.length ≤ "/thumbnails/".toList.length := by decide
  rw [← heq] at horiginal
  have hboth := List.prefix_of_prefix_length_le horiginal hthumbnail (by
    simp only [List.length_append]
    exact Nat.add_le_add_left hlength _)
  exact absurd ((List.prefix_append_right_inj _).mp hboth) (by decide)

namespace Ingest

open Program

/-! ## What is kept -/

theorem preserves_putObject (objectKey : Text) :
    Preserves (fun s : UploadState F => (s.rows, s.world)) (putObject objectKey) := by
  refine (preserves_gets _).bind fun outcome => ?_
  exact Preserves.ite (preserves_modify fun _ => rfl) (preserves_raise _)

theorem preserves_deleteObject (objectKey : Text) :
    Preserves (UploadState.rows (F := F)) (deleteObject objectKey) := by
  refine Preserves.ite (preserves_pure _) ?_
  refine Preserves.bind (preserves_modify fun _ => rfl) fun _ => ?_
  refine (preserves_gets _).bind fun outcome => ?_
  have hend : Preserves UploadState.rows (if outcome ≠ .returns then
      raise (.runtimeError "delete_object") else pure () : Ingest F Unit) :=
    Preserves.ite (preserves_raise _) (preserves_pure _)
  exact Preserves.ite (Preserves.bind (preserves_modify fun _ => rfl) fun _ => hend) hend

theorem preserves_compensate (objectKeys : List Text) :
    Preserves (UploadState.rows (F := F)) (compensate objectKeys) :=
  Preserves.forM fun objectKey _ =>
    (preserves_deleteObject objectKey).attempt.bind fun _ => preserves_pure _

theorem preserves_refresh (n : Nat) : Preserves (UploadState.rows (F := F)) (refresh n) := by
  refine (preserves_gets _).bind fun outcome => ?_
  exact Preserves.ite (preserves_pure _) (preserves_raise _)

theorem preserves_flush (change : UploadRows F → Option (UploadRows F)) :
    Preserves (fun s : UploadState F => (s.rows, s.world)) (flush change) := by
  refine (preserves_gets _).bind fun changed => ?_
  cases changed with
  | none => exact preserves_raise _
  | some rows => exact preserves_pure _

theorem preserves_scalarOneOrNone {β γ : Type} {π : UploadState F → γ} (rows : List β) :
    Preserves π (scalarOneOrNone rows : Ingest F (Option β)) := by
  unfold scalarOneOrNone
  split
  · exact preserves_pure _
  · exact preserves_pure _
  · exact preserves_raise _

/-! ## Steps -/

variable {R : UploadRows F → UploadRows F → Prop} [Std.Refl R] {rows : UploadRows F}
  {fresh : Uuid → Prop}

/-- The upload goes along `R` from the rows, while the identifiers that it draws have the
property. -/
abbrev GoesFrom (R : UploadRows F → UploadRows F → Prop) (rows : UploadRows F)
    (fresh : Uuid → Prop) (x : Ingest F α) : Prop :=
  Leads (Along UploadState.rows R) (UploadState.Ready rows fresh) x fun _ _ => True

private theorem leads_keep {x : Ingest F α}
    (hx : Preserves (fun s : UploadState F => (s.rows, s.world)) x) :
    Leads (Along UploadState.rows R) (UploadState.Ready rows fresh) x
      fun _ => UploadState.Ready rows fresh := by
  refine hx.leads (fun s u hsame => ?_) fun s u hs hsame => ?_
  · have hrows : s.rows = u.rows := congrArg Prod.fst hsame
    change R s.rows u.rows
    rw [hrows]
    exact Std.Refl.refl u.rows
  · have hrows : u.rows = s.rows := congrArg Prod.fst hsame
    have hworld : u.world = s.world := congrArg Prod.snd hsame
    refine ⟨hrows.trans hs.rows, fun n => ?_⟩
    rw [hworld]
    exact hs.uuids n

variable [IsTrans (UploadRows F) R]

theorem goesFrom_gets_bind {β : Type} {g : UploadState F → β} {f : β → Ingest F α}
    (hf : ∀ b, GoesFrom R rows fresh (f b)) : GoesFrom R rows fresh (gets g >>= f) :=
  leads_gets_bind fun b => (hf b).imp (fun _ hs => hs.1) fun _ _ h => h

/-- The identifier that is drawn has the property. -/
theorem leads_uuid4_bind {f : Uuid → Ingest F α} {Q : α → UploadState F → Prop}
    (hf : ∀ id, fresh id →
      Leads (Along UploadState.rows R) (UploadState.Ready rows fresh) (f id) Q) :
    Leads (Along UploadState.rows R) (UploadState.Ready rows fresh) (uuid4 >>= f) Q := by
  have hdraw : Leads (Along UploadState.rows R) (UploadState.Ready rows fresh) uuid4
      fun id s => UploadState.Ready rows fresh s ∧ fresh id := by
    refine leads_gets_bind fun id => ?_
    refine Leads.bind (leads_modify (Q := fun _ s => UploadState.Ready rows fresh s ∧ fresh id)
      (fun s _ => Std.Refl.refl s.rows) ?_) fun _ => leads_pure fun _ hs => hs
    rintro s ⟨hs, rfl⟩
    exact ⟨⟨hs.rows, fun n => hs.uuids (1 + n)⟩, hs.uuids 0⟩
  refine hdraw.bind fun id => leads_of_forall fun s hs => ?_
  exact (hf id hs.2).imp (fun t ht => ht ▸ hs.1) fun _ _ h => h

theorem goesFrom_utcNow_bind {f : Instant → Ingest F α}
    (hf : ∀ now, GoesFrom R rows fresh (f now)) : GoesFrom R rows fresh (utcNow >>= f) := by
  have hnow : Leads (Along UploadState.rows R) (UploadState.Ready rows fresh) utcNow
      fun _ => UploadState.Ready rows fresh := by
    refine leads_gets_bind fun now => ?_
    refine Leads.bind (leads_modify (Q := fun _ s => UploadState.Ready rows fresh s)
      (fun s _ => Std.Refl.refl s.rows) ?_) fun _ => leads_pure fun _ hs => hs
    rintro s ⟨hs, -⟩
    exact ⟨hs.rows, hs.uuids⟩
  exact hnow.bind hf

/-- A commit goes along what its change goes along. -/
theorem goesFrom_commit {change : UploadRows F → Option (UploadRows F)}
    (h : ∀ rows', change rows = some rows' → R rows rows') :
    GoesFrom R rows fresh (commit change) := by
  refine leads_gets_bind fun changed => ?_
  cases changed with
  | none => exact leads_raise _
  | some rows' =>
    refine leads_gets_bind fun outcome => ?_
    by_cases hreturns : outcome = .returns
    · rw [if_pos hreturns]
      refine leads_modify (fun s hs => ?_) fun _ _ => trivial
      change R s.rows rows'
      have hchange := hs.1.2
      rw [hs.1.1.rows] at hchange ⊢
      exact h rows' hchange
    · rw [if_neg hreturns]
      exact leads_raise _

end Ingest

open Program Ingest

variable {R : UploadRows F → UploadRows F → Prop} [Std.Refl R] [IsTrans (UploadRows F) R]
  {rows : UploadRows F} {fresh : Uuid → Prop} (cfg : UploadConfig)

/-! ## Photos -/

private theorem preserves_storePhotoObjects (content : Bytes)
    (objectKey thumbnailObjectKey : Text) :
    Preserves (fun s : UploadState F => (s.rows, s.world))
      (storePhotoObjects cfg content objectKey thumbnailObjectKey) := by
  unfold storePhotoObjects
  split
  · exact preserves_raise _
  · exact (preserves_putObject objectKey).bind fun _ => preserves_putObject thumbnailObjectKey

private theorem goesFrom_publishPhotoRows (photo : StoredPhoto)
    (hinsert : ∀ createdAt jobs rows',
      rows.insertPhoto? { photo with photo.createdAt := createdAt } jobs = some rows' →
        R rows rows') :
    GoesFrom R rows fresh (publishPhotoRows cfg photo) := by
  refine leads_uuid4_bind fun ocrJobId _ => leads_uuid4_bind fun faceJobId _ => ?_
  refine goesFrom_utcNow_bind fun createdAt => goesFrom_utcNow_bind fun ocrCreatedAt => ?_
  refine goesFrom_utcNow_bind fun faceCreatedAt => ?_
  refine Leads.bind (goesFrom_commit fun rows' => hinsert createdAt _ rows') fun _ => ?_
  exact ((preserves_refresh 0).bind fun _ => preserves_pure _).leads_along

private theorem goesFrom_ingestNewPhoto (eventId : Uuid) (fileName contentType : Text)
    (content : Bytes) (idempotencyKey : Option Text) (sha256 : Text)
    (hinsert : ∀ photo thumbnailObjectKey jobs rows',
      photo.thumbnailObjectKey = some thumbnailObjectKey →
        thumbnailObjectKey ≠ photo.photo.originalObjectKey →
          DrawnKey fresh thumbnailObjectKey → DrawnKey fresh photo.photo.originalObjectKey →
            rows.insertPhoto? photo jobs = some rows' → R rows rows') :
    GoesFrom R rows fresh (ingestNewPhoto cfg eventId fileName contentType content idempotencyKey
      sha256) := by
  refine leads_uuid4_bind fun photoId hfresh => ?_
  refine (leads_keep (preserves_storePhotoObjects cfg _ _ _)).attempt_bind (fun e => ?_) fun _ => ?_
  · exact ((preserves_compensate _).bind fun _ => preserves_pure _).leads_along
  · refine Leads.attempt_bind (goesFrom_publishPhotoRows cfg _ fun createdAt jobs rows' => ?_)
      (fun e => ?_) fun _ => ?_
    · exact hinsert _ _ jobs rows' rfl (buildThumbnailObjectKey_ne cfg.tools eventId photoId _)
        ⟨photoId, hfresh, infix_buildThumbnailObjectKey eventId photoId _⟩
        ⟨photoId, hfresh, infix_buildOriginalObjectKey cfg.tools eventId photoId _⟩
    · exact ((preserves_compensate _).bind fun _ => preserves_pure _).leads_along
    · exact leads_pure fun _ _ => trivial

/-- An upload of a photo commits its row. -/
theorem goesFrom_ingestPhotoUpload (eventId : Uuid) (fileName contentType : Text)
    (content : Bytes) (idempotencyKey : Option Text)
    (hinsert : ∀ photo thumbnailObjectKey jobs rows',
      photo.thumbnailObjectKey = some thumbnailObjectKey →
        thumbnailObjectKey ≠ photo.photo.originalObjectKey →
          DrawnKey fresh thumbnailObjectKey → DrawnKey fresh photo.photo.originalObjectKey →
            rows.insertPhoto? photo jobs = some rows' → R rows rows') :
    GoesFrom R rows fresh (ingestPhotoUpload cfg eventId fileName contentType content
      idempotencyKey) := by
  refine Leads.ite (leads_pure fun _ _ => trivial) ?_
  split
  · exact leads_pure fun _ _ => trivial
  · rename_i image hvalid
    refine goesFrom_gets_bind fun before => ?_
    refine (leads_keep (preserves_scalarOneOrNone _)).bind fun existing => ?_
    cases existing with
    | some row => exact leads_pure fun _ _ => trivial
    | none =>
      refine Leads.ite (leads_pure fun _ _ => trivial) ?_
      exact goesFrom_ingestNewPhoto cfg eventId _ _ _ _ _ hinsert

/-! ## Selfies -/

private theorem goesFrom_publishSelfieRows (faceImage : ParticipantFaceImage)
    (hinsert : ∀ job rows', rows.insertFaceImage? faceImage job = some rows' → R rows rows') :
    GoesFrom R rows fresh (publishSelfieRows cfg faceImage) := by
  refine leads_uuid4_bind fun jobId _ => goesFrom_utcNow_bind fun createdAt => ?_
  refine Leads.bind (goesFrom_commit fun rows' => hinsert _ rows') fun _ => ?_
  exact (preserves_refresh 0).leads_along

/-- An upload of a selfie commits its row. -/
theorem goesFrom_ingestParticipantSelfieUpload (participant : Participant)
    (fileName contentType : Text) (content : Bytes)
    (hinsert : ∀ image : ParticipantFaceImage, ∀ job rows', image.eventId = participant.eventId →
      image.participantId = participant.id → DrawnKey fresh image.objectKey →
        rows.insertFaceImage? image job = some rows' → R rows rows') :
    GoesFrom R rows fresh (ingestParticipantSelfieUpload cfg participant fileName contentType
      content) := by
  refine Leads.ite (leads_pure fun _ _ => trivial) ?_
  split
  · exact leads_pure fun _ _ => trivial
  · refine leads_uuid4_bind fun faceImageId hfresh => ?_
    refine (leads_keep (preserves_putObject _)).attempt_bind (fun e => ?_) fun _ => ?_
    · exact leads_pure fun _ _ => trivial
    · refine Leads.attempt_bind (goesFrom_publishSelfieRows cfg _ fun job rows' => ?_)
        (fun e => ?_) fun _ => ?_
      · exact hinsert _ job rows' rfl rfl
          ⟨faceImageId, hfresh, infix_buildFaceSelfieObjectKey _ _ _ _ _⟩
      · exact ((preserves_compensate _).bind fun _ => preserves_pure _).leads_along
      · exact leads_pure fun _ _ => trivial

/-! ## Searches -/

private theorem goesFrom_publishSearchRows (created : Option FaceSearchSession)
    (searchImage : FaceSearchImage)
    (hinsert : ∀ job rows', rows.insertSearchImage? created searchImage job = some rows' →
      R rows rows') :
    GoesFrom R rows fresh (publishSearchRows cfg created searchImage) := by
  refine leads_uuid4_bind fun jobId _ => goesFrom_utcNow_bind fun createdAt => ?_
  refine Leads.bind (goesFrom_commit fun rows' => hinsert _ rows') fun _ => ?_
  exact ((preserves_refresh 0).bind fun _ => preserves_refresh 1).leads_along

/-- The session is the carried one, or a new one that is not committed yet. -/
private theorem leads_openSearchSession (eventId : Uuid)
    (searchSession : Option FaceSearchSession) (participant : Option Participant) :
    Leads (Along UploadState.rows R) (UploadState.Ready rows fresh)
      (openSearchSession eventId searchSession participant) fun opened s =>
        UploadState.Ready rows fresh s ∧
          FaceSearchSession.OpenedFor eventId searchSession participant opened := by
  cases searchSession with
  | some carried => exact leads_pure fun _ hs => ⟨hs, rfl⟩
  | none =>
    refine leads_uuid4_bind fun id _ => ?_
    refine (leads_keep (preserves_flush _)).bind fun _ => ?_
    exact leads_pure fun _ hs => ⟨hs, rfl, rfl⟩

private theorem goesFrom_ingestNewSearchImage (eventId : Uuid)
    (searchSession : Option FaceSearchSession) (opened : FaceSearchSession)
    (fileName contentType : Text)
    (hinsert : ∀ image : FaceSearchImage, ∀ job rows', image.eventId = eventId →
      image.searchSessionId = opened.id → DrawnKey fresh image.objectKey →
        rows.insertSearchImage? (if searchSession.isNone then some opened else none) image job =
          some rows' → R rows rows') :
    GoesFrom R rows fresh (ingestNewSearchImage cfg eventId searchSession opened fileName
      contentType) := by
  refine leads_uuid4_bind fun searchImageId hfresh => ?_
  refine (leads_keep (preserves_putObject _)).attempt_bind (fun e => ?_) fun _ => ?_
  · exact leads_pure fun _ _ => trivial
  · refine Leads.attempt_bind (goesFrom_publishSearchRows cfg _ _ fun job rows' => ?_)
      (fun e => ?_) fun _ => ?_
    · exact hinsert _ job rows' rfl rfl
        ⟨searchImageId, hfresh, infix_buildFaceSearchObjectKey _ _ _ _ _⟩
    · exact ((preserves_compensate _).bind fun _ => preserves_pure _).leads_along
    · exact leads_pure fun _ _ => trivial

/-- An upload of a search image commits its row, and the row of the session if it opens one. -/
theorem goesFrom_ingestFaceSearchUpload (eventId : Uuid) (searchSession : Option FaceSearchSession)
    (participant : Option Participant) (fileName contentType : Text) (content : Bytes)
    (hinsert : ∀ opened, ∀ image : FaceSearchImage, ∀ job rows',
      FaceSearchSession.OpenedFor eventId searchSession participant opened →
        image.eventId = eventId → image.searchSessionId = opened.id →
          DrawnKey fresh image.objectKey →
            rows.insertSearchImage? (if searchSession.isNone then some opened else none) image job =
              some rows' → R rows rows') :
    GoesFrom R rows fresh (ingestFaceSearchUpload cfg eventId searchSession participant fileName
      contentType content) := by
  refine Leads.ite (leads_pure fun _ _ => trivial) ?_
  refine goesFrom_gets_bind fun activeJobs => ?_
  refine Leads.ite (leads_pure fun _ _ => trivial) ?_
  split
  · exact leads_pure fun _ _ => trivial
  · rename_i image hvalid
    refine (leads_openSearchSession eventId searchSession participant).bind fun opened => ?_
    refine leads_of_forall fun start hstart => ?_
    have hrest := goesFrom_ingestNewSearchImage (R := R) cfg eventId searchSession opened
      (strip fileName) image.contentType fun searchImage job rows' =>
        hinsert opened searchImage job rows' hstart.2
    exact hrest.imp (fun _ hs => hs ▸ hstart.1) fun _ _ h => h

end RaceFrame
