import RaceFrame.Upload.Compensation

/-!
# Uploads under faults

The three uploads, for every choice of the calls that raise. Each of them is all
or nothing unless its rows are committed, a refresh after the commit raises and a
deletion of the compensation takes effect.
-/

namespace RaceFrame

open Core

variable {F : Type}

/-! ## The keys of new objects -/

theorem ne_nil_of_infix_uuidText {id : Uuid} {key : Text} (h : uuidText id <:+: key) :
    key ≠ [] := by
  rintro rfl
  have hnil : uuidText id = [] := List.infix_nil.mp h
  simp [uuidText] at hnil

private theorem infix_storedName (tools : ImageTools) (id : Uuid) (fileName fallback : Text) :
    uuidText id <:+: storedName tools id fileName fallback :=
  (((List.prefix_append _ _).trans (List.prefix_append _ _)).trans (List.prefix_append _ _)).isInfix

theorem infix_buildOriginalObjectKey (tools : ImageTools) (eventId photoId : Uuid)
    (fileName : Text) :
    uuidText photoId <:+: buildOriginalObjectKey tools eventId photoId fileName :=
  (infix_storedName tools photoId fileName _).trans (List.suffix_append _ _).isInfix

theorem infix_buildThumbnailObjectKey (eventId photoId : Uuid) (fileName : Text) :
    uuidText photoId <:+: buildThumbnailObjectKey eventId photoId fileName := by
  have hfront := (List.suffix_append ("events/".toList ++ uuidText eventId ++ "/thumbnails/".toList)
    (uuidText photoId)).isInfix
  exact hfront.trans (((List.prefix_append _ ['-']).trans (List.prefix_append _ _)).trans
    (List.prefix_append _ _)).isInfix

theorem infix_buildFaceSelfieObjectKey (tools : ImageTools)
    (eventId participantId faceImageId : Uuid) (fileName : Text) :
    uuidText faceImageId <:+:
      buildFaceSelfieObjectKey tools eventId participantId faceImageId fileName :=
  (infix_storedName tools faceImageId fileName _).trans (List.suffix_append _ _).isInfix

theorem infix_buildFaceSearchObjectKey (tools : ImageTools)
    (eventId searchSessionId searchImageId : Uuid) (fileName : Text) :
    uuidText searchImageId <:+:
      buildFaceSearchObjectKey tools eventId searchSessionId searchImageId fileName :=
  (infix_storedName tools searchImageId fileName _).trans (List.suffix_append _ _).isInfix

variable {s : UploadState F}

/-- A key with an identifier that is still to be drawn is not referenced. -/
theorem UploadState.Begins.not_references (h : s.Begins) {n : Nat} {key : Text}
    (hkey : uuidText (s.world.uuids n) <:+: key) : ¬s.rows.References key :=
  fun href => h.fresh n key href hkey

/-- An upload that calls nothing is all or nothing. -/
theorem UploadState.Begins.allOrNothing (h : s.Begins) (world : World) :
    AllOrNothing s { s with world := world } := by
  refine allOrNothing_of_unchanged rfl (fun key hkey => ?_) fun key hkey => ?_
  · have hkey : key ∈ s.putKeys := hkey
    rw [h.putKeys] at hkey
    cases hkey
  · have hkey : key ∈ s.deleteTargets := hkey
    rw [h.deleteTargets] at hkey
    cases hkey

/-! ## The ends of a program -/

theorem Ingest.returnsIf_pure {α : Type} (a : α) (s : UploadState F) :
    (pure a : Ingest F α).ReturnsIf s True :=
  Or.inl ⟨trivial, a, rfl⟩

/-- A sequence returns if its parts do. -/
theorem Ingest.ReturnsIf.bind {α β : Type} {x : Ingest F α} {f : α → Ingest F β} {p q : Prop}
    (hx : x.ReturnsIf s p) (hf : ∀ a, (f a).ReturnsIf s q) : (x >>= f).ReturnsIf s (p ∧ q) := by
  rcases hx with ⟨hp, a, hrun⟩ | ⟨hp, e, hrun⟩
  · rcases hf a with ⟨hq, b, hrest⟩ | ⟨hq, e, hrest⟩
    · exact Or.inl ⟨⟨hp, hq⟩, b, (Program.run_bind_ok hrun).trans hrest⟩
    · exact Or.inr ⟨fun h => hq h.2, e, (Program.run_bind_ok hrun).trans hrest⟩
  · exact Or.inr ⟨fun h => hp h.1, e, Program.run_bind_error hrun⟩

private theorem refresh_pure_returnsIf {β : Type} (n : Nat) (b : β) (s : UploadState F) :
    (Ingest.refresh n >>= fun _ => pure b).ReturnsIf s (s.outcomes (.refresh n) = .returns) := by
  have h := (refresh_returnsIf n s).bind fun _ => Ingest.returnsIf_pure b s
  rwa [and_true] at h

/-- A handler that compensates what is raised settles the outcome. -/
theorem run_attempt_settled {α β : Type} {x : Ingest F α} {f : Except Raised α → Ingest F β}
    (keys : List Text) (hok : ∀ a u, ((f (.ok a)).run u).2 = u)
    (herror : ∀ e u, ((f (.error e)).run u).2 = u.compensated keys) (t : UploadState F) :
    ((Program.attempt x >>= f).run t).2 = Ingest.settled (x.run t) keys := by
  rw [Program.run_attempt_bind, Ingest.settled]
  rcases x.run t with ⟨e | a, u⟩
  · exact herror e u
  · exact hok a u

private theorem run_compensate_pure {β : Type} {keys : List Text} (hkeys : ∀ key ∈ keys, key ≠ [])
    (b : β) (u : UploadState F) :
    ((Ingest.compensate keys >>= fun _ => pure b).run u).2 = u.compensated keys := by
  rw [Program.run_bind_ok (run_compensate hkeys)]
  rfl

/-! ## Photos -/

variable {cfg : UploadConfig} {eventId : Uuid} {fileName contentType : Text} {content : Bytes}
  {idempotencyKey : Option Text} {sha256 : Text}

/-- The keys of the objects of a photo. -/
def photoKeys (tools : ImageTools) (eventId photoId : Uuid) (fileName : Text) : List Text :=
  [buildThumbnailObjectKey eventId photoId fileName,
    buildOriginalObjectKey tools eventId photoId fileName]

/-- The row of a new photo. -/
def newPhoto (cfg : UploadConfig) (world : World) (eventId : Uuid) (fileName contentType : Text)
    (content : Bytes) (idempotencyKey : Option Text) (sha256 : Text) : StoredPhoto where
  photo := ⟨world.uuids 0, eventId,
    buildOriginalObjectKey cfg.tools eventId (world.uuids 0) fileName, fileName, contentType,
    .processing, world.clock 0⟩
  thumbnailObjectKey := some (buildThumbnailObjectKey eventId (world.uuids 0) fileName)
  fileSize := content.length
  checksumSha256 := some sha256
  idempotencyKey := idempotencyKey

/-- The jobs of a new photo. -/
def newPhotoJobs (cfg : UploadConfig) (world : World) : List (Job F) :=
  [.queued (world.uuids 1) (.photo (world.uuids 0) .ocr) cfg.settings.workerMaxAttempts
      (world.clock 1),
    .queued (world.uuids 2) (.photo (world.uuids 0) .facePhotoScan)
      cfg.settings.workerMaxAttempts (world.clock 2)]

/-- The rows of a new photo are committed: its objects are stored, and the database accepts its
rows. -/
structure CommitsNewPhoto (cfg : UploadConfig) (eventId : Uuid) (fileName contentType : Text)
    (content : Bytes) (idempotencyKey : Option Text) (sha256 : Text) (s : UploadState F) :
    Prop where
  thumbnail : cfg.tools.createPhotoThumbnail content ≠ none
  stored : ∀ key ∈ photoKeys cfg.tools eventId (s.world.uuids 0) fileName,
    s.outcomes (.put key) = .returns
  inserted : (s.rows.insertPhoto?
    (newPhoto cfg s.world eventId fileName contentType content idempotencyKey sha256)
    (newPhotoJobs cfg s.world)).isSome
  committed : s.outcomes .commit = .returns

private theorem infix_of_mem_photoKeys {tools : ImageTools} {photoId : Uuid} {key : Text}
    (h : key ∈ photoKeys tools eventId photoId fileName) : uuidText photoId <:+: key := by
  rcases List.mem_pair.mp h with rfl | rfl
  · exact infix_buildThumbnailObjectKey eventId photoId fileName
  · exact infix_buildOriginalObjectKey tools eventId photoId fileName

/-- The objects of a photo are both stored, or what is stored of them is raised for. -/
theorem storePhotoObjects_cases (cfg : UploadConfig) (content : Bytes)
    (objectKey thumbnailObjectKey : Text) (s : UploadState F) :
    ((cfg.tools.createPhotoThumbnail content ≠ none ∧
        ∀ key ∈ [thumbnailObjectKey, objectKey], s.outcomes (.put key) = .returns) ∧
      (storePhotoObjects cfg content objectKey thumbnailObjectKey).run s = (.ok (),
        { s with
          objects := thumbnailObjectKey :: objectKey :: s.objects
          putKeys := thumbnailObjectKey :: objectKey :: s.putKeys })) ∨
    (¬(cfg.tools.createPhotoThumbnail content ≠ none ∧
        ∀ key ∈ [thumbnailObjectKey, objectKey], s.outcomes (.put key) = .returns) ∧
      ∃ e objects putKeys, (storePhotoObjects cfg content objectKey thumbnailObjectKey).run s =
        (.error e, { s with objects := objects, putKeys := putKeys }) ∧
          ∀ key ∈ putKeys, key ∈ [thumbnailObjectKey, objectKey] ∨ key ∈ s.putKeys) := by
  unfold storePhotoObjects
  cases cfg.tools.createPhotoThumbnail content with
  | none =>
    refine Or.inr ⟨fun h => h.1 rfl, _, s.objects, s.putKeys, rfl, fun key hkey => Or.inr hkey⟩
  | some thumbnail =>
    rcases Ingest.putObject_cases objectKey s with ⟨hput, hrun⟩ | ⟨hput, e, hrun⟩
    · dsimp only
      rw [Program.run_bind_ok hrun]
      rcases Ingest.putObject_cases thumbnailObjectKey
          { s with objects := objectKey :: s.objects, putKeys := objectKey :: s.putKeys } with
        ⟨hput', hrun'⟩ | ⟨hput', e, hrun'⟩
      · refine Or.inl ⟨⟨Option.some_ne_none _, fun key hkey => ?_⟩, hrun'⟩
        rcases List.mem_pair.mp hkey with rfl | rfl
        · exact hput'
        · exact hput
      · refine Or.inr ⟨fun h => hput' (h.2 _ List.mem_cons_self), e, _, _, hrun',
          fun key hkey => ?_⟩
        rcases List.mem_cons.mp hkey with rfl | hkey
        · exact Or.inl (List.mem_pair.mpr (Or.inr rfl))
        · exact Or.inr hkey
    · dsimp only
      rw [Program.run_bind_error hrun]
      exact Or.inr ⟨fun h => hput (h.2 _ (List.mem_pair.mpr (Or.inr rfl))), e, s.objects, s.putKeys,
        rfl, fun key hkey => Or.inr hkey⟩

private theorem run_publishPhotoRows (photo : StoredPhoto) (t : UploadState F) :
    (publishPhotoRows cfg photo).run t =
      (Ingest.commit (fun rows => rows.insertPhoto?
          { photo with photo.createdAt := t.world.clock 0 }
          [.queued (t.world.uuids 0) (.photo photo.id .ocr) cfg.settings.workerMaxAttempts
              (t.world.clock 1),
            .queued (t.world.uuids 1) (.photo photo.id .facePhotoScan)
              cfg.settings.workerMaxAttempts (t.world.clock 2)]) >>= fun _ =>
        Ingest.refresh 0 >>= fun _ =>
          pure { photo with photo.createdAt := t.world.clock 0 }).run
        { t with world := ((t.world.draw 1).draw 1).tick.tick.tick } := rfl

/-- A new photo is all or nothing unless it is committed, the refresh raises and a deletion takes
effect. -/
theorem ingestNewPhoto_allOrNothing_iff (hs : s.Begins) :
    AllOrNothing s ((ingestNewPhoto cfg eventId fileName contentType content idempotencyKey
        sha256).run s).2 ↔
      ¬(CommitsNewPhoto cfg eventId fileName contentType content idempotencyKey sha256 s ∧
        s.outcomes (.refresh 0) ≠ .returns ∧
          ∃ key ∈ photoKeys cfg.tools eventId (s.world.uuids 0) fileName,
            s.outcomes (.delete key) ≠ .raises) := by
  have hkeys : ∀ key ∈ photoKeys cfg.tools eventId (s.world.uuids 0) fileName, key ≠ [] :=
    fun key hkey => ne_nil_of_infix_uuidText (infix_of_mem_photoKeys hkey)
  have hfresh : ∀ key ∈ photoKeys cfg.tools eventId (s.world.uuids 0) fileName,
      ¬s.rows.References key := fun key hkey => hs.not_references (infix_of_mem_photoKeys hkey)
  unfold ingestNewPhoto
  simp only [Ingest.run_uuid4_bind, Program.run_attempt_bind]
  rcases storePhotoObjects_cases cfg content
      (buildOriginalObjectKey cfg.tools eventId (s.world.uuids 0) fileName)
      (buildThumbnailObjectKey eventId (s.world.uuids 0) fileName)
      { s with world := s.world.draw 1 } with
    ⟨⟨hthumbnail, hstored⟩, hrun⟩ | ⟨hnot, e, objects, putKeys, hrun, hput⟩
  · rw [hrun]
    dsimp only
    rw [run_attempt_settled (photoKeys cfg.tools eventId (s.world.uuids 0) fileName)
      (fun a u => rfl) fun e u => run_compensate_pure hkeys _ u, run_publishPhotoRows]
    have hstores : s.Stores
        { s with
          world := (((s.world.draw 1).draw 1).draw 1).tick.tick.tick
          objects := photoKeys cfg.tools eventId (s.world.uuids 0) fileName ++ s.objects
          putKeys := photoKeys cfg.tools eventId (s.world.uuids 0) fileName ++ s.putKeys }
        (photoKeys cfg.tools eventId (s.world.uuids 0) fileName) := by
      refine ⟨rfl, rfl, fun key hkey => List.mem_append_left s.objects hkey, ?_, hs.deleteTargets⟩
      rw [hs.putKeys, List.append_nil]
      exact fun key hkey => hkey
    refine (allOrNothing_settled_iff
      (fun rows => rows.insertPhoto?
        (newPhoto cfg s.world eventId fileName contentType content idempotencyKey sha256)
        (newPhotoJobs cfg s.world)) (s.outcomes (.refresh 0) = .returns) hstores hfresh
      (fun rows hrows => adds_insertPhoto? hrows rfl)
      fun rows => refresh_pure_returnsIf 0 _ _).trans (not_congr ?_)
    constructor
    · rintro ⟨hinserted, hcommitted, hfailure⟩
      exact ⟨⟨hthumbnail, hstored, hinserted, hcommitted⟩, hfailure⟩
    · rintro ⟨hcommits, hfailure⟩
      exact ⟨hcommits.inserted, hcommits.committed, hfailure⟩
  · rw [hrun]
    change AllOrNothing s ((Ingest.compensate (photoKeys cfg.tools eventId (s.world.uuids 0)
      fileName) >>= fun _ => pure _).run _).2 ↔ _
    rw [run_compensate_pure hkeys]
    refine iff_of_true
      (allOrNothing_of_compensated rfl (fun key hkey => ?_) hs.deleteTargets hfresh)
      fun h => hnot ⟨h.1.thumbnail, h.1.stored⟩
    rcases hput key hkey with hmem | hmem
    · exact hmem
    · have hmem : key ∈ s.putKeys := hmem
      rw [hs.putKeys] at hmem
      cases hmem

/-- The upload of a photo commits its rows: it passes the checks, is not known, finds room in the
queue, and its rows are committed. -/
structure CommitsPhoto (cfg : UploadConfig) (eventId : Uuid) (fileName contentType : Text)
    (content : Bytes) (idempotencyKey : Option Text) (image : ValidatedImage) (s : UploadState F) :
    Prop where
  upload : ValidUpload cfg fileName contentType content image
  unknown : s.rows.existingPhotos eventId (normalizeIdempotencyKey idempotencyKey) image.sha256 = []
  room : s.rows.backlog .photo < cfg.settings.maxPhotoJobBacklog
  rows : CommitsNewPhoto cfg eventId (strip fileName) image.contentType content
    (normalizeIdempotencyKey idempotencyKey) image.sha256 s

/-- The upload of a photo is all or nothing unless its rows are committed, the refresh raises and a
deletion takes effect. -/
theorem ingestPhotoUpload_allOrNothing_iff (hs : s.Begins) :
    AllOrNothing s ((ingestPhotoUpload cfg eventId fileName contentType content
        idempotencyKey).run s).2 ↔
      ¬((∃ image, CommitsPhoto cfg eventId fileName contentType content idempotencyKey image s) ∧
        s.outcomes (.refresh 0) ≠ .returns ∧
          ∃ key ∈ photoKeys cfg.tools eventId (s.world.uuids 0) (strip fileName),
            s.outcomes (.delete key) ≠ .raises) := by
  have hself : AllOrNothing s s := hs.allOrNothing s.world
  unfold ingestPhotoUpload
  dsimp only
  by_cases hnamed : strip fileName = []
  · rw [if_pos (List.isEmpty_iff.mpr hnamed)]
    refine iff_of_true hself ?_
    rintro ⟨⟨image, h⟩, -⟩
    exact h.upload.named hnamed
  · rw [if_neg (mt List.isEmpty_iff.mp hnamed)]
    cases hvalid : validatePhoto cfg (strip fileName) contentType content with
    | error message =>
      refine iff_of_true hself ?_
      rintro ⟨⟨image, h⟩, -⟩
      rw [h.upload.valid] at hvalid
      cases hvalid
    | ok image =>
      have himage : ∀ image', CommitsPhoto cfg eventId fileName contentType content idempotencyKey
          image' s → image' = image := by
        intro image' h
        rw [h.upload.valid] at hvalid
        exact Except.ok.inj hvalid
      dsimp only
      rw [Program.run_gets_bind]
      rcases hexisting : s.rows.existingPhotos eventId (normalizeIdempotencyKey idempotencyKey)
        image.sha256 with _ | ⟨row, _ | ⟨row', rows⟩⟩
      · change AllOrNothing s ((if cfg.settings.maxPhotoJobBacklog ≤ s.rows.backlog .photo then _
          else _ : Ingest F UploadedPhotoResult).run s).2 ↔ _
        by_cases hfull : cfg.settings.maxPhotoJobBacklog ≤ s.rows.backlog .photo
        · rw [if_pos hfull]
          refine iff_of_true hself ?_
          rintro ⟨⟨image', h⟩, -⟩
          exact absurd h.room (not_lt.mpr hfull)
        · rw [if_neg hfull, ingestNewPhoto_allOrNothing_iff hs]
          refine not_congr (and_congr_left fun _ => ⟨fun h => ?_, fun ⟨image', h⟩ => ?_⟩)
          · exact ⟨image, ⟨hnamed, hvalid⟩, hexisting, not_le.mp hfull, h⟩
          · have hrows := h.rows
            rwa [himage image' h] at hrows
      all_goals
        refine iff_of_true hself ?_
        rintro ⟨⟨image', h⟩, -⟩
        have hunknown := h.unknown
        rw [himage image' h, hexisting] at hunknown
        cases hunknown

/-! ## Selfies -/

/-- Storing one object and publishing its rows is all or nothing unless the rows are committed, a
refresh raises and the deletion of the object takes effect. -/
private theorem putObject_allOrNothing_iff {α β : Type} (hs : s.Begins) {world : World}
    (world' : World) {key : Text} (hfresh : ¬s.rows.References key)
    {f : Except Raised Unit → Ingest F β} (change : UploadRows F → Option (UploadRows F))
    (rest : Ingest F α) (refreshed : Prop)
    (hlost : ∀ e u, ((f (.error e)).run u).2 = u)
    (hpublish : ((f (.ok ())).run { s with
        world := world, objects := key :: s.objects, putKeys := key :: s.putKeys }).2 =
      Ingest.settled ((Ingest.commit change >>= fun _ => rest).run { s with
        world := world', objects := key :: s.objects, putKeys := key :: s.putKeys }) [key])
    (hadds : ∀ rows, change s.rows = some rows → s.rows.Adds rows [key])
    (hrest : ∀ u : UploadState F, u.outcomes = s.outcomes → rest.ReturnsIf u refreshed) :
    AllOrNothing s
        ((Program.attempt (Ingest.putObject key) >>= f).run { s with world := world }).2 ↔
      ¬((s.outcomes (.put key) = .returns ∧ (change s.rows).isSome ∧
          s.outcomes .commit = .returns) ∧ ¬refreshed ∧ s.outcomes (.delete key) ≠ .raises) := by
  rw [Program.run_attempt_bind]
  rcases Ingest.putObject_cases key { s with world := world } with ⟨hput, hrun⟩ | ⟨hput, e, hrun⟩
  · rw [hrun]
    dsimp only
    rw [hpublish]
    have hstores : s.Stores { s with
        world := world', objects := key :: s.objects, putKeys := key :: s.putKeys } [key] := by
      refine ⟨rfl, rfl, fun k hk => ?_, fun k hk => ?_, hs.deleteTargets⟩
      · rw [List.mem_singleton.mp hk]
        exact List.mem_cons_self
      · rwa [hs.putKeys] at hk
    have hnew : ∀ k ∈ [key], ¬s.rows.References k := fun k hk => List.mem_singleton.mp hk ▸ hfresh
    refine (allOrNothing_settled_iff change refreshed hstores hnew hadds
      fun rows => hrest _ rfl).trans (not_congr ?_)
    constructor
    · rintro ⟨hinserted, hcommitted, hrefreshed, k, hk, heffect⟩
      exact ⟨⟨hput, hinserted, hcommitted⟩, hrefreshed, List.mem_singleton.mp hk ▸ heffect⟩
    · rintro ⟨⟨-, hinserted, hcommitted⟩, hrefreshed, heffect⟩
      exact ⟨hinserted, hcommitted, hrefreshed, key, List.mem_singleton_self key, heffect⟩
  · rw [hrun]
    dsimp only
    rw [hlost]
    exact iff_of_true (hs.allOrNothing world) fun h => hput h.1.1

/-- The row of a new selfie. -/
def newSelfie (cfg : UploadConfig) (world : World) (participant : Participant)
    (fileName contentType : Text) : ParticipantFaceImage :=
  ⟨world.uuids 0, participant.eventId, participant.id,
    buildFaceSelfieObjectKey cfg.tools participant.eventId participant.id (world.uuids 0) fileName,
    fileName, contentType, .queued, none⟩

/-- The job of a new selfie. -/
def newSelfieJob (cfg : UploadConfig) (world : World) (participant : Participant) : Job F :=
  .queued (world.uuids 1)
    (.participantFace participant.eventId participant.id (world.uuids 0))
    cfg.settings.workerMaxAttempts (world.clock 0)

/-- The upload of a selfie commits its rows: it passes the checks, its object is stored, and the
database accepts its rows. -/
structure CommitsSelfie (cfg : UploadConfig) (participant : Participant)
    (fileName contentType : Text) (content : Bytes) (image : ValidatedImage) (s : UploadState F) :
    Prop where
  named : strip fileName ≠ []
  valid : validateSelfie cfg (strip fileName) contentType content = .ok image
  stored : s.outcomes (.put (newSelfie cfg s.world participant (strip fileName)
    image.contentType).objectKey) = .returns
  inserted : (s.rows.insertFaceImage?
    (newSelfie cfg s.world participant (strip fileName) image.contentType)
    (newSelfieJob cfg s.world participant)).isSome
  committed : s.outcomes .commit = .returns

private theorem ingestNewSelfie_allOrNothing_iff (hs : s.Begins) {participant : Participant} :
    AllOrNothing s ((ingestNewSelfie cfg participant fileName contentType).run s).2 ↔
      ¬((s.outcomes (.put (newSelfie cfg s.world participant fileName contentType).objectKey) =
            .returns ∧
          (s.rows.insertFaceImage? (newSelfie cfg s.world participant fileName contentType)
            (newSelfieJob cfg s.world participant)).isSome ∧ s.outcomes .commit = .returns) ∧
        s.outcomes (.refresh 0) ≠ .returns ∧
          s.outcomes (.delete (newSelfie cfg s.world participant fileName contentType).objectKey) ≠
            .raises) := by
  have hinfix := infix_buildFaceSelfieObjectKey cfg.tools participant.eventId participant.id
    (s.world.uuids 0) fileName
  have hkeys : ∀ key ∈ [(newSelfie cfg s.world participant fileName contentType).objectKey],
      key ≠ [] := fun key hkey => List.mem_singleton.mp hkey ▸ ne_nil_of_infix_uuidText hinfix
  unfold ingestNewSelfie
  rw [Ingest.run_uuid4_bind]
  refine putObject_allOrNothing_iff hs ((s.world.draw 1).draw 1).tick (hs.not_references hinfix)
    (fun rows => rows.insertFaceImage? (newSelfie cfg s.world participant fileName contentType)
      (newSelfieJob cfg s.world participant)) (Ingest.refresh 0)
    (s.outcomes (.refresh 0) = .returns) (fun e u => rfl) ?_
    (fun rows hrows => adds_insertFaceImage? hrows) fun u hu => ?_
  · dsimp only
    rw [run_attempt_settled [(newSelfie cfg s.world participant fileName contentType).objectKey]
      (fun a u => rfl) fun e u => run_compensate_pure hkeys _ u]
    rfl
  · rw [← hu]
    exact refresh_returnsIf 0 u

/-- The upload of a selfie is all or nothing unless its rows are committed, the refresh raises and
the deletion takes effect. -/
theorem ingestParticipantSelfieUpload_allOrNothing_iff (hs : s.Begins)
    {participant : Participant} :
    AllOrNothing s
        ((ingestParticipantSelfieUpload cfg participant fileName contentType content).run s).2 ↔
      ¬((∃ image, CommitsSelfie cfg participant fileName contentType content image s) ∧
        s.outcomes (.refresh 0) ≠ .returns ∧
          s.outcomes (.delete (buildFaceSelfieObjectKey cfg.tools participant.eventId
            participant.id (s.world.uuids 0) (strip fileName))) ≠ .raises) := by
  have hself : AllOrNothing s s := hs.allOrNothing s.world
  unfold ingestParticipantSelfieUpload
  dsimp only
  by_cases hnamed : strip fileName = []
  · rw [if_pos (List.isEmpty_iff.mpr hnamed)]
    refine iff_of_true hself ?_
    rintro ⟨⟨image, h⟩, -⟩
    exact h.named hnamed
  · rw [if_neg (mt List.isEmpty_iff.mp hnamed)]
    cases hvalid : validateSelfie cfg (strip fileName) contentType content with
    | error message =>
      refine iff_of_true hself ?_
      rintro ⟨⟨image, h⟩, -⟩
      rw [h.valid] at hvalid
      cases hvalid
    | ok image =>
      refine (ingestNewSelfie_allOrNothing_iff hs).trans (not_congr ?_)
      refine and_congr_left fun _ => ⟨fun h => ?_, fun ⟨image', h⟩ => ?_⟩
      · exact ⟨image, hnamed, hvalid, h.1, h.2.1, h.2.2⟩
      · have himage : image' = image := by
          rw [h.valid] at hvalid
          exact Except.ok.inj hvalid
        rw [himage] at h
        exact ⟨h.stored, h.inserted, h.committed⟩

/-! ## Searches -/

/-- The row of a new search image. -/
def newSearchImage (cfg : UploadConfig) (world : World) (eventId : Uuid)
    (opened : FaceSearchSession) (fileName contentType : Text) : FaceSearchImage :=
  ⟨world.uuids 0, eventId, opened.id,
    buildFaceSearchObjectKey cfg.tools eventId opened.id (world.uuids 0) fileName, fileName,
    contentType, .queued, none⟩

/-- The job of a new search image. -/
def newSearchJob (cfg : UploadConfig) (world : World) (eventId : Uuid)
    (opened : FaceSearchSession) : Job F :=
  .queued (world.uuids 1) (.faceSearch eventId opened.id (world.uuids 0))
    cfg.settings.workerMaxAttempts (world.clock 0)

/-- The rows of a new search image are committed: its object is stored, and the database accepts its
rows. -/
structure CommitsNewSearchImage (cfg : UploadConfig) (world : World) (eventId : Uuid)
    (searchSession : Option FaceSearchSession) (opened : FaceSearchSession)
    (fileName contentType : Text) (s : UploadState F) : Prop where
  stored : s.outcomes (.put (newSearchImage cfg world eventId opened fileName
    contentType).objectKey) = .returns
  inserted : (s.rows.insertSearchImage? (if searchSession.isNone then some opened else none)
    (newSearchImage cfg world eventId opened fileName contentType)
    (newSearchJob cfg world eventId opened)).isSome
  committed : s.outcomes .commit = .returns

private theorem ingestNewSearchImage_allOrNothing_iff (hs : s.Begins) {n : Nat}
    {searchSession : Option FaceSearchSession} {opened : FaceSearchSession} :
    AllOrNothing s ((ingestNewSearchImage cfg eventId searchSession opened fileName
        contentType).run { s with world := s.world.draw n }).2 ↔
      ¬(CommitsNewSearchImage cfg (s.world.draw n) eventId searchSession opened fileName
          contentType s ∧
        ¬(s.outcomes (.refresh 0) = .returns ∧ s.outcomes (.refresh 1) = .returns) ∧
          s.outcomes (.delete (newSearchImage cfg (s.world.draw n) eventId opened fileName
            contentType).objectKey) ≠ .raises) := by
  have hinfix := infix_buildFaceSearchObjectKey cfg.tools eventId opened.id
    (s.world.uuids (n + 0)) fileName
  have hkeys : ∀ key ∈ [(newSearchImage cfg (s.world.draw n) eventId opened fileName
      contentType).objectKey], key ≠ [] :=
    fun key hkey => List.mem_singleton.mp hkey ▸ ne_nil_of_infix_uuidText hinfix
  unfold ingestNewSearchImage
  rw [Ingest.run_uuid4_bind]
  refine (putObject_allOrNothing_iff hs (((s.world.draw n).draw 1).draw 1).tick
    (hs.not_references hinfix)
    (fun rows => rows.insertSearchImage? (if searchSession.isNone then some opened else none)
      (newSearchImage cfg (s.world.draw n) eventId opened fileName contentType)
      (newSearchJob cfg (s.world.draw n) eventId opened))
    (Ingest.refresh 0 >>= fun _ => Ingest.refresh 1)
    (s.outcomes (.refresh 0) = .returns ∧ s.outcomes (.refresh 1) = .returns) (fun e u => rfl) ?_
    (fun rows hrows => adds_insertSearchImage? hrows) fun u hu => ?_).trans (not_congr ?_)
  · dsimp only
    rw [run_attempt_settled [(newSearchImage cfg (s.world.draw n) eventId opened fileName
      contentType).objectKey] (fun a u => rfl) fun e u => run_compensate_pure hkeys _ u]
    rfl
  · rw [← hu]
    exact (refresh_returnsIf 0 u).bind fun _ => refresh_returnsIf 1 u
  · exact and_congr_left fun _ => ⟨fun h => ⟨h.1, h.2.1, h.2.2⟩,
      fun h => ⟨h.stored, h.inserted, h.committed⟩⟩

/-- The number of identifiers that are drawn for the session of a search. -/
def sessionDraws : Option FaceSearchSession → Nat
  | some _ => 0
  | none => 1

/-- The session of a search. -/
def openedSession (world : World) (eventId : Uuid) (searchSession : Option FaceSearchSession)
    (participant : Option Participant) : FaceSearchSession :=
  searchSession.getD ⟨world.uuids 0, eventId, participant.map (·.id), .queued, none⟩

/-- The upload of a search image commits its rows: it finds room in the queue, passes the checks,
and its rows are committed. -/
structure CommitsSearch (cfg : UploadConfig) (eventId : Uuid)
    (searchSession : Option FaceSearchSession) (participant : Option Participant)
    (fileName contentType : Text) (content : Bytes) (image : ValidatedImage) (s : UploadState F) :
    Prop where
  named : strip fileName ≠ []
  room : s.rows.backlog .faceSearch < cfg.settings.maxFaceSearchBacklog
  valid : validateSelfie cfg (strip fileName) contentType content = .ok image
  rows : CommitsNewSearchImage cfg (s.world.draw (sessionDraws searchSession)) eventId
    searchSession (openedSession s.world eventId searchSession participant) (strip fileName)
    image.contentType s

/-- The session is open, or the database refuses it and with it the rows of the search. -/
private theorem openSearchSession_cases (s : UploadState F) (eventId : Uuid)
    (searchSession : Option FaceSearchSession) (participant : Option Participant) :
    ((openSearchSession eventId searchSession participant).run s =
        (.ok (openedSession s.world eventId searchSession participant),
          { s with world := s.world.draw (sessionDraws searchSession) })) ∨
      (searchSession = none ∧
        s.rows.insertSession? (openedSession s.world eventId searchSession participant) = none ∧
          ∃ e, (openSearchSession eventId searchSession participant).run s =
            (.error e, { s with world := s.world.draw 1 })) := by
  cases searchSession with
  | some searchSession =>
    left
    rw [sessionDraws, World.draw_zero]
    rfl
  | none =>
    cases hinsert : s.rows.insertSession? (openedSession s.world eventId none participant) with
    | none =>
      have hflush : (Ingest.flush fun rows => rows.insertSession?
          (openedSession s.world eventId none participant)).run
            { s with world := s.world.draw 1 } =
          (.error .integrityError, { s with world := s.world.draw 1 }) := by
        simp [Ingest.flush, hinsert]
      exact Or.inr ⟨rfl, rfl, .integrityError,
        (Ingest.run_uuid4_bind s _).trans (Program.run_bind_error hflush)⟩
    | some rows =>
      have hflush : (Ingest.flush fun rows => rows.insertSession?
          (openedSession s.world eventId none participant)).run
            { s with world := s.world.draw 1 } = (.ok (), { s with world := s.world.draw 1 }) := by
        simp [Ingest.flush, hinsert]
      exact Or.inl ((Ingest.run_uuid4_bind s _).trans (Program.run_bind_ok hflush))

private theorem insertSearchImage?_eq_none {rows : UploadRows F} {created : FaceSearchSession}
    {image : FaceSearchImage} {job : Job F} (h : rows.insertSession? created = none) :
    rows.insertSearchImage? (some created) image job = none := by
  have hsession : rows.faceSearchSessions.insert? created = none := by
    cases hinsert : rows.faceSearchSessions.insert? created with
    | none => rfl
    | some sessions =>
      rw [UploadRows.insertSession?, hinsert] at h
      cases h
  have hall : rows.faceSearchSessions.insertAll? (some created).toList = none := by
    change (rows.faceSearchSessions.insert? created).bind _ = none
    rw [hsession]
    rfl
  rw [UploadRows.insertSearchImage?, hall]
  rfl

/-- The upload of a search image is all or nothing unless its rows are committed, a refresh raises
and the deletion takes effect. -/
theorem ingestFaceSearchUpload_allOrNothing_iff (hs : s.Begins)
    {searchSession : Option FaceSearchSession} {participant : Option Participant} :
    AllOrNothing s ((ingestFaceSearchUpload cfg eventId searchSession participant fileName
        contentType content).run s).2 ↔
      ¬((∃ image, CommitsSearch cfg eventId searchSession participant fileName contentType content
          image s) ∧
        ¬(s.outcomes (.refresh 0) = .returns ∧ s.outcomes (.refresh 1) = .returns) ∧
          s.outcomes (.delete (buildFaceSearchObjectKey cfg.tools eventId
            (openedSession s.world eventId searchSession participant).id
            (s.world.uuids (sessionDraws searchSession)) (strip fileName))) ≠ .raises) := by
  have hself : AllOrNothing s s := hs.allOrNothing s.world
  unfold ingestFaceSearchUpload
  dsimp only
  by_cases hnamed : strip fileName = []
  · rw [if_pos (List.isEmpty_iff.mpr hnamed)]
    refine iff_of_true hself ?_
    rintro ⟨⟨image, h⟩, -⟩
    exact h.named hnamed
  · rw [if_neg (mt List.isEmpty_iff.mp hnamed), Program.run_gets_bind]
    by_cases hfull : cfg.settings.maxFaceSearchBacklog ≤ s.rows.backlog .faceSearch
    · rw [if_pos hfull]
      refine iff_of_true hself ?_
      rintro ⟨⟨image, h⟩, -⟩
      exact absurd h.room (not_lt.mpr hfull)
    · rw [if_neg hfull]
      cases hvalid : validateSelfie cfg (strip fileName) contentType content with
      | error message =>
        refine iff_of_true hself ?_
        rintro ⟨⟨image, h⟩, -⟩
        rw [h.valid] at hvalid
        cases hvalid
      | ok image =>
        have himage : ∀ image', CommitsSearch cfg eventId searchSession participant fileName
            contentType content image' s → image' = image := by
          intro image' h
          rw [h.valid] at hvalid
          exact Except.ok.inj hvalid
        dsimp only
        rcases openSearchSession_cases s eventId searchSession participant with
          hopen | ⟨rfl, hrefused, e, hopen⟩
        · rw [Program.run_bind_ok hopen]
          refine (ingestNewSearchImage_allOrNothing_iff hs).trans (not_congr ?_)
          refine and_congr_left fun _ => ⟨fun h => ?_, fun ⟨image', h⟩ => ?_⟩
          · exact ⟨image, hnamed, not_le.mp hfull, hvalid, h⟩
          · have hrows := h.rows
            rwa [himage image' h] at hrows
        · rw [Program.run_bind_error hopen]
          refine iff_of_true (hs.allOrNothing _) ?_
          rintro ⟨⟨image', h⟩, -⟩
          have hinserted := h.rows.inserted
          rw [Option.isNone_none, if_pos rfl, insertSearchImage?_eq_none hrefused] at hinserted
          cases hinserted

end RaceFrame
