import RaceFrame.Upload.Ingestion

/-!
# Deduplication of photos

What `ingest_photo_upload` answers for content that an event already holds. The
database keeps two unique indexes, but each upload looks up only one of them: its
idempotency key if it has one, its checksum otherwise.
-/

namespace RaceFrame

open Core

variable {F : Type}

/-! ## Calls that raise or return -/

namespace Ingest

@[simp] theorem run_uuid4_bind {β : Type} (s : UploadState F) (f : Uuid → Ingest F β) :
    (uuid4 >>= f).run s = (f (s.world.uuids 0)).run { s with world := s.world.draw 1 } := rfl

@[simp] theorem run_utcNow_bind {β : Type} (s : UploadState F) (f : Instant → Ingest F β) :
    (utcNow >>= f).run s = (f (s.world.clock 0)).run { s with world := s.world.tick } := rfl

/-- A put stores its object or leaves everything as it is. -/
theorem putObject_cases (objectKey : Text) (s : UploadState F) :
    (s.outcomes (.put objectKey) = .returns ∧ (putObject objectKey).run s = (.ok (),
      { s with objects := objectKey :: s.objects, putKeys := objectKey :: s.putKeys })) ∨
    (s.outcomes (.put objectKey) ≠ .returns ∧
      ∃ raised, (putObject objectKey).run s = (.error raised, s)) := by
  by_cases h : s.outcomes (.put objectKey) = .returns
  · refine Or.inl ⟨h, ?_⟩
    simp [putObject, h]
  · refine Or.inr ⟨h, .runtimeError "put_object", ?_⟩
    simp [putObject, h]

/-- A commit persists the change or leaves everything as it is. -/
theorem commit_cases (change : UploadRows F → Option (UploadRows F)) (s : UploadState F) :
    (∃ rows, change s.rows = some rows ∧ s.outcomes .commit = .returns ∧
      (commit change).run s = (.ok (), { s with rows := rows })) ∨
    ((change s.rows = none ∨ s.outcomes .commit ≠ .returns) ∧
      ∃ raised, (commit change).run s = (.error raised, s)) := by
  cases hchange : change s.rows with
  | none =>
    refine Or.inr ⟨Or.inl rfl, .integrityError, ?_⟩
    simp [commit, hchange]
  | some rows =>
    by_cases h : s.outcomes .commit = .returns
    · refine Or.inl ⟨rows, rfl, h, ?_⟩
      simp [commit, hchange, h]
    · refine Or.inr ⟨Or.inr h, .runtimeError "commit", ?_⟩
      simp [commit, hchange, h]

/-- A refresh changes nothing. -/
theorem refresh_cases (n : Nat) (s : UploadState F) :
    (s.outcomes (.refresh n) = .returns ∧ (refresh n).run s = (.ok (), s)) ∨
    (s.outcomes (.refresh n) ≠ .returns ∧ ∃ raised, (refresh n).run s = (.error raised, s)) := by
  by_cases h : s.outcomes (.refresh n) = .returns
  · refine Or.inl ⟨h, ?_⟩
    simp [refresh, h]
  · refine Or.inr ⟨h, .runtimeError "refresh", ?_⟩
    simp [refresh, h]

end Ingest

/-! ## The two indexes -/

/-- Under a unique index, the rows with a key are one row or none. -/
private theorem filter_index_eq_singleton {α κ : Type} [BEq κ] [LawfulBEq κ] {index : α → Option κ}
    {rows : List α} (hnodup : (rows.filterMap index).Nodup) {row : α} (hrow : row ∈ rows) {k : κ}
    (hk : index row = some k) : (rows.filter fun r => index r == some k) = [row] := by
  induction rows with
  | nil => cases hrow
  | cons first rows ih =>
    rcases List.mem_cons.mp hrow with rfl | hrow
    · rw [List.filterMap_cons_some hk, List.nodup_cons] at hnodup
      rw [List.filter_cons_of_pos (by rw [hk, beq_self_eq_true])]
      refine congrArg _ (List.filter_eq_nil_iff.mpr fun r hr heq => hnodup.1 ?_)
      exact List.mem_filterMap.mpr ⟨r, hr, beq_iff_eq.mp heq⟩
    · have hrest : (rows.filterMap index).Nodup := by
        cases hfirst : index first with
        | none => rwa [List.filterMap_cons_none hfirst] at hnodup
        | some k' =>
          rw [List.filterMap_cons_some hfirst, List.nodup_cons] at hnodup
          exact hnodup.2
      have hfirst : index first ≠ some k := by
        intro heq
        rw [List.filterMap_cons_some heq, List.nodup_cons] at hnodup
        exact hnodup.1 (List.mem_filterMap.mpr ⟨row, hrow, hk⟩)
      rw [List.filter_cons_of_neg (by simpa using hfirst)]
      exact ih hrest hrow

/-- Two rows with the same key under a unique index are the same. -/
private theorem eq_of_index_eq {α κ : Type} [BEq κ] [LawfulBEq κ] {index : α → Option κ}
    {rows : List α} (hnodup : (rows.filterMap index).Nodup) {row row' : α} (hrow : row ∈ rows)
    (hrow' : row' ∈ rows) {k : κ} (hk : index row = some k) (hk' : index row' = some k) :
    row' = row := by
  have hmem : row' ∈ rows.filter fun r => index r == some k :=
    List.mem_filter.mpr ⟨hrow', beq_iff_eq.mpr hk'⟩
  rwa [filter_index_eq_singleton hnodup hrow hk, List.mem_singleton] at hmem

variable {cfg : UploadConfig} {eventId : Uuid} {fileName contentType : Text} {content : Bytes}
  {idempotencyKey : Option Text} {image : ValidatedImage} {s : UploadState F}

/-- The index entry that an upload looks up. -/
def StoredPhoto.FoundBy (row : StoredPhoto) (eventId : Uuid) (idempotencyKey : Option Text)
    (sha256 : Text) : Prop :=
  match idempotencyKey with
  | some key => row.eventIdempotencyKey = some (eventId, key)
  | none => row.eventChecksum = some (eventId, sha256)

private theorem existingPhotos_of_mem {rows : UploadRows F} {row : StoredPhoto} {sha256 : Text}
    (hrow : row ∈ rows.photos.rows) (hfound : row.FoundBy eventId idempotencyKey sha256) :
    rows.existingPhotos eventId idempotencyKey sha256 = [row] := by
  cases idempotencyKey with
  | some key => exact filter_index_eq_singleton rows.idempotencyKeys_nodup hrow hfound
  | none => exact filter_index_eq_singleton rows.checksums_nodup hrow hfound

private theorem existingPhotos_of_none {rows : UploadRows F} {sha256 : Text}
    (hnone : ∀ row ∈ rows.photos.rows, ¬ row.FoundBy eventId idempotencyKey sha256) :
    rows.existingPhotos eventId idempotencyKey sha256 = [] := by
  cases idempotencyKey with
  | some key =>
    exact List.filter_eq_nil_iff.mpr fun row hrow heq => hnone row hrow (beq_iff_eq.mp heq)
  | none =>
    exact List.filter_eq_nil_iff.mpr fun row hrow heq => hnone row hrow (beq_iff_eq.mp heq)

/-! ## Runs -/

/-- An upload that passes the checks. -/
structure ValidUpload (cfg : UploadConfig) (fileName contentType : Text) (content : Bytes)
    (image : ValidatedImage) : Prop where
  named : strip fileName ≠ []
  valid : validatePhoto cfg (strip fileName) contentType content = .ok image

/-- An upload that is found is answered with the photo that is there. -/
private theorem ingestPhotoUpload_of_found (h : ValidUpload cfg fileName contentType content image)
    {row : StoredPhoto} (hrow : row ∈ s.rows.photos.rows)
    (hfound : row.FoundBy eventId (normalizeIdempotencyKey idempotencyKey) image.sha256) :
    (ingestPhotoUpload cfg eventId fileName contentType content idempotencyKey).run s =
      (.ok ⟨strip fileName, some row, true,
        "This photo was already accepted; the existing upload was reused."⟩, s) := by
  have hnamed : (strip fileName).isEmpty = false := List.isEmpty_eq_false_iff.mpr h.named
  unfold ingestPhotoUpload
  simp only [hnamed, Bool.false_eq_true, if_false, h.valid, Program.run_gets_bind,
    existingPhotos_of_mem hrow hfound]
  rfl

/-- An upload that is not found is ingested while the queue has room. -/
private theorem ingestPhotoUpload_of_new (h : ValidUpload cfg fileName contentType content image)
    (hroom : s.rows.backlog .photo < cfg.settings.maxPhotoJobBacklog)
    (hnone : ∀ row ∈ s.rows.photos.rows,
      ¬ row.FoundBy eventId (normalizeIdempotencyKey idempotencyKey) image.sha256) :
    (ingestPhotoUpload cfg eventId fileName contentType content idempotencyKey).run s =
      (ingestNewPhoto cfg eventId (strip fileName) image.contentType content
        (normalizeIdempotencyKey idempotencyKey) image.sha256).run s := by
  have hnamed : (strip fileName).isEmpty = false := List.isEmpty_eq_false_iff.mpr h.named
  unfold ingestPhotoUpload
  simp only [hnamed, Bool.false_eq_true, if_false, h.valid, Program.run_gets_bind,
    existingPhotos_of_none hnone, Ingest.scalarOneOrNone, Program.run_pure_bind,
    if_neg (Nat.not_le_of_lt hroom)]

/-- What a successful commit of a photo leaves. -/
theorem rows_of_insertPhoto? {rows rows' : UploadRows F} {photo : StoredPhoto}
    {jobs : List (Job F)} (h : rows.insertPhoto? photo jobs = some rows') :
    rows'.photos.rows = rows.photos.rows ++ [photo] := by
  unfold UploadRows.insertPhoto? at h
  obtain ⟨photos, hphotos, h⟩ := Option.bind_eq_some_iff.mp h
  obtain ⟨inserted, -, h⟩ := Option.bind_eq_some_iff.mp h
  split at h
  · rw [← Option.some.inj h]
    exact Table.rows_of_insert? hphotos
  · cases h

/-- A photo whose checksum the event holds is not inserted. -/
private theorem insertPhoto?_eq_none {rows : UploadRows F} {photo row : StoredPhoto}
    {jobs : List (Job F)} (hrow : row ∈ rows.photos.rows) {entry : Uuid × Text}
    (hrowEntry : row.eventChecksum = some entry) (hentry : photo.eventChecksum = some entry) :
    rows.insertPhoto? photo jobs = none := by
  rw [Option.eq_none_iff_forall_ne_some]
  intro rows' h
  have hnodup := rows'.checksums_nodup
  rw [rows_of_insertPhoto? h, List.filterMap_append, List.nodup_append] at hnodup
  refine hnodup.2.2 entry (List.mem_filterMap.mpr ⟨row, hrow, hrowEntry⟩) entry ?_ rfl
  exact List.mem_filterMap.mpr ⟨photo, List.mem_singleton_self photo, hentry⟩

/-- The rows of a new photo are published only by a commit that inserts them. -/
private theorem publishPhotoRows_ok {photo photo' : StoredPhoto} {s' : UploadState F}
    (h : (publishPhotoRows cfg photo).run s = (.ok photo', s')) :
    ∃ createdAt jobs, photo' = { photo with photo.createdAt := createdAt } ∧
      s.rows.insertPhoto? photo' jobs = some s'.rows ∧ s'.outcomes = s.outcomes := by
  unfold publishPhotoRows at h
  simp only [Ingest.run_uuid4_bind, Ingest.run_utcNow_bind] at h
  rcases Ingest.commit_cases (fun rows => rows.insertPhoto? _ _) _ with
    ⟨rows, hrows, -, hcommit⟩ | ⟨-, raised, hcommit⟩
  · rw [Program.run_bind_ok hcommit] at h
    rcases Ingest.refresh_cases 0 _ with ⟨-, hrefresh⟩ | ⟨-, raised, hrefresh⟩
    · rw [Program.run_bind_ok hrefresh] at h
      obtain ⟨hphoto, rfl⟩ := Prod.mk.inj h
      have hphoto := Except.ok.inj hphoto
      subst hphoto
      exact ⟨_, _, rfl, hrows, rfl⟩
    · rw [Program.run_bind_error hrefresh] at h
      cases (Prod.mk.inj h).1
  · rw [Program.run_bind_error hcommit] at h
    cases (Prod.mk.inj h).1

/-- What the calls to the object storage leave alone. -/
def UploadState.published (s : UploadState F) : UploadRows F × (ExternalCall → CallOutcome) :=
  (s.rows, s.outcomes)

private theorem published_putObject (objectKey : Text) :
    (Ingest.putObject objectKey).Preserves (UploadState.published (F := F)) := by
  unfold Ingest.putObject
  refine (Program.preserves_gets _).bind fun outcome => ?_
  refine Program.Preserves.ite ?_ (Program.preserves_raise _)
  exact Program.preserves_modify fun _ => rfl

private theorem published_storePhotoObjects (cfg : UploadConfig) (content : Bytes)
    (objectKey thumbnailObjectKey : Text) :
    (storePhotoObjects cfg content objectKey thumbnailObjectKey).Preserves
      (UploadState.published (F := F)) := by
  unfold storePhotoObjects
  cases cfg.tools.createPhotoThumbnail content with
  | none => exact Program.preserves_raise _
  | some thumbnail =>
    exact (published_putObject objectKey).bind fun _ => published_putObject thumbnailObjectKey

private theorem eq_of_bind_pure {α β : Type} {x : Ingest F α} {a b : β} {s' : UploadState F}
    (h : (x >>= fun _ => pure b).run s = (.ok a, s')) : a = b := by
  rw [Program.run_bind] at h
  rcases hx : x.run s with ⟨raised | value, t⟩
  · rw [hx] at h
    cases (Prod.mk.inj h).1
  · rw [hx] at h
    exact (Except.ok.inj (Prod.mk.inj h).1).symm

/-- A new photo that is reported as accepted has been inserted with the checksum and the key of
the upload. -/
private theorem ingestNewPhoto_success {key : Option Text} {sha256 : Text}
    {result : UploadedPhotoResult} {s' : UploadState F}
    (h : (ingestNewPhoto cfg eventId fileName contentType content key sha256).run s =
      (.ok result, s')) (hsuccess : result.success = true) :
    ∃ photo jobs, result.photo = some photo ∧ photo.checksumSha256 = some sha256 ∧
      photo.eventChecksum = some (eventId, sha256) ∧
      photo.eventIdempotencyKey = key.map (eventId, ·) ∧
      s.rows.insertPhoto? photo jobs = some s'.rows ∧ s'.outcomes = s.outcomes := by
  unfold ingestNewPhoto at h
  simp only [Ingest.run_uuid4_bind, Program.run_attempt_bind] at h
  have hstored := (published_storePhotoObjects (F := F) cfg content
    (buildOriginalObjectKey cfg.tools eventId (s.world.uuids 0) fileName)
    (buildThumbnailObjectKey eventId (s.world.uuids 0) fileName)
    { s with world := s.world.draw 1 }).2
  rcases hstore : (storePhotoObjects cfg content
    (buildOriginalObjectKey cfg.tools eventId (s.world.uuids 0) fileName)
    (buildThumbnailObjectKey eventId (s.world.uuids 0) fileName)).run
      { s with world := s.world.draw 1 } with ⟨raised | stored, t⟩
  · rw [hstore] at h
    rw [eq_of_bind_pure h] at hsuccess
    cases hsuccess
  · rw [hstore] at h hstored
    obtain ⟨hrows, houtcomes⟩ := Prod.mk.inj hstored
    dsimp only at h
    rw [Program.run_attempt_bind] at h
    rcases hpublish : (publishPhotoRows cfg _).run t with ⟨raised | photo, u⟩
    · rw [hpublish] at h
      rw [eq_of_bind_pure h] at hsuccess
      cases hsuccess
    · rw [hpublish] at h
      obtain ⟨createdAt, jobs, rfl, hinsert, hsame⟩ := publishPhotoRows_ok hpublish
      obtain ⟨hresult, rfl⟩ := Prod.mk.inj h
      rw [← Except.ok.inj hresult]
      refine ⟨_, jobs, rfl, rfl, rfl, rfl, ?_, hsame.trans houtcomes⟩
      rw [← hrows]
      exact hinsert

/-! ## Agreement with the content -/

/-- An upload is deduplicated by its content: content that the event holds is answered with its
photo and changes nothing, an accepted photo has the checksum of the content, and repeating an
accepted upload gives the same photo and changes nothing. -/
structure Deduplicates (cfg : UploadConfig) (eventId : Uuid) (fileName contentType : Text)
    (content : Bytes) (idempotencyKey : Option Text) (s : UploadState F) : Prop where
  known : ∀ photo ∈ s.rows.photos.rows,
    photo.eventChecksum = some (eventId, hexdigest (cfg.tools.sha256 content)) →
      ∃ result, (ingestPhotoUpload cfg eventId fileName contentType content idempotencyKey).run s =
        (.ok result, s) ∧ result.success = true ∧ result.photo = some photo
  agrees : ∀ result s',
    (ingestPhotoUpload cfg eventId fileName contentType content idempotencyKey).run s =
      (.ok result, s') → result.success = true →
        ∃ photo, result.photo = some photo ∧
          photo.checksumSha256 = some (hexdigest (cfg.tools.sha256 content))
  repeats : ∀ result s',
    (ingestPhotoUpload cfg eventId fileName contentType content idempotencyKey).run s =
      (.ok result, s') → result.success = true →
        ∃ result', (ingestPhotoUpload cfg eventId fileName contentType content
          idempotencyKey).run s' = (.ok result', s') ∧ result'.success = true ∧
            result'.photo = result.photo

/-- The two indexes of the event say the same about an upload: it has no idempotency key, or the
photo with that key has the checksum, or no photo has either. -/
def UploadRows.IndexesAgree (rows : UploadRows F) (eventId : Uuid) (idempotencyKey : Option Text)
    (sha256 : Text) : Prop :=
  ∀ key, idempotencyKey = some key →
    (∃ photo ∈ rows.photos.rows, photo.eventIdempotencyKey = some (eventId, key) ∧
      photo.eventChecksum = some (eventId, sha256)) ∨
    ∀ photo ∈ rows.photos.rows, photo.eventIdempotencyKey ≠ some (eventId, key) ∧
      photo.eventChecksum ≠ some (eventId, sha256)

private theorem checksum_of_eventChecksum {photo : StoredPhoto} {sha256 : Text}
    (h : photo.eventChecksum = some (eventId, sha256)) : photo.checksumSha256 = some sha256 := by
  obtain ⟨checksum, hchecksum, hpair⟩ := Option.map_eq_some_iff.mp h
  rw [hchecksum, (Prod.mk.inj hpair).2]

private theorem eventId_of_foundBy {photo : StoredPhoto} {key : Text}
    (h : photo.eventIdempotencyKey = some (eventId, key)) : photo.photo.eventId = eventId := by
  obtain ⟨_, -, hpair⟩ := Option.map_eq_some_iff.mp h
  exact (Prod.mk.inj hpair).1

/-- The answer to an upload that is found. -/
private theorem found_or_new (rows : UploadRows F) (eventId : Uuid) (key : Option Text)
    (sha256 : Text) :
    (∃ row ∈ rows.photos.rows, row.FoundBy eventId key sha256) ∨
      ∀ row ∈ rows.photos.rows, ¬ row.FoundBy eventId key sha256 := by
  by_cases h : ∃ row ∈ rows.photos.rows, row.FoundBy eventId key sha256
  · exact Or.inl h
  · exact Or.inr fun row hrow hfound => h ⟨row, hrow, hfound⟩

/-- An accepted upload is found when it is repeated. -/
private theorem repeats_of_valid (h : ValidUpload cfg fileName contentType content image)
    (hroom : s.rows.backlog .photo < cfg.settings.maxPhotoJobBacklog) :
    ∀ result s',
      (ingestPhotoUpload cfg eventId fileName contentType content idempotencyKey).run s =
        (.ok result, s') → result.success = true →
          ∃ result', (ingestPhotoUpload cfg eventId fileName contentType content
            idempotencyKey).run s' = (.ok result', s') ∧ result'.success = true ∧
              result'.photo = result.photo := by
  intro result s' hrun hsuccess
  rcases found_or_new s.rows eventId (normalizeIdempotencyKey idempotencyKey) image.sha256 with
    ⟨row, hrow, hfound⟩ | hnone
  · have hanswer := ingestPhotoUpload_of_found h hrow hfound
    rw [hanswer] at hrun
    obtain ⟨hresult, rfl⟩ := Prod.mk.inj hrun
    rw [← Except.ok.inj hresult]
    exact ⟨_, hanswer, rfl, rfl⟩
  · rw [ingestPhotoUpload_of_new h hroom hnone] at hrun
    obtain ⟨photo, jobs, hphoto, -, hchecksum, hkey, hinsert, -⟩ :=
      ingestNewPhoto_success hrun hsuccess
    have hmem : photo ∈ s'.rows.photos.rows := by
      rw [rows_of_insertPhoto? hinsert]
      exact List.mem_append_right _ (List.mem_singleton_self photo)
    have hfound : photo.FoundBy eventId (normalizeIdempotencyKey idempotencyKey)
        image.sha256 := by
      cases hnormalized : normalizeIdempotencyKey idempotencyKey with
      | none => exact hchecksum
      | some key =>
        rw [hnormalized] at hkey
        exact hkey
    exact ⟨_, ingestPhotoUpload_of_found h hmem hfound, rfl, hphoto.symm⟩

private theorem sha256_of_validUpload (h : ValidUpload cfg fileName contentType content image) :
    image.sha256 = hexdigest (cfg.tools.sha256 content) := by
  have hvalid := h.valid
  unfold validatePhoto at hvalid
  rcases hfirst : validateImageUpload cfg.tools cfg.limits (strip fileName) contentType
    content.length with message | checked
  · rw [hfirst] at hvalid
    cases hvalid
  · rw [hfirst] at hvalid
    exact sha256_of_validateImageBytes cfg.tools cfg.limits hvalid

/-- Where the upload is deduplicated, the indexes agree. -/
private theorem indexesAgree_of_deduplicates
    (h : ValidUpload cfg fileName contentType content image)
    (hroom : s.rows.backlog .photo < cfg.settings.maxPhotoJobBacklog)
    (hd : Deduplicates cfg eventId fileName contentType content idempotencyKey s) :
    s.rows.IndexesAgree eventId (normalizeIdempotencyKey idempotencyKey)
      (hexdigest (cfg.tools.sha256 content)) := by
  intro key hkey
  have hsha := sha256_of_validUpload h
  rcases found_or_new s.rows eventId (some key) image.sha256 with ⟨row, hrow, hfound⟩ | hnone
  · have hlookup : row.FoundBy eventId (normalizeIdempotencyKey idempotencyKey)
        image.sha256 := by
      rw [hkey]
      exact hfound
    have hanswer := ingestPhotoUpload_of_found h hrow hlookup
    obtain ⟨photo, hphoto, hchecksum⟩ := hd.agrees _ _ hanswer rfl
    rw [← Option.some.inj hphoto] at hchecksum
    refine Or.inl ⟨row, hrow, hfound, ?_⟩
    rw [StoredPhoto.eventChecksum, hchecksum, eventId_of_foundBy hfound]
    rfl
  · refine Or.inr fun photo hphoto => ⟨hnone photo hphoto, fun hchecksum => ?_⟩
    obtain ⟨result, hrun, hsuccess, -⟩ := hd.known photo hphoto hchecksum
    rw [ingestPhotoUpload_of_new h hroom (by rw [hkey]; exact hnone)] at hrun
    obtain ⟨added, jobs, -, -, hadded, -, hinsert, -⟩ := ingestNewPhoto_success hrun hsuccess
    rw [insertPhoto?_eq_none hphoto hchecksum (by rw [← hsha]; exact hadded)] at hinsert
    cases hinsert

/-- Where the indexes agree, the upload is deduplicated. -/
private theorem deduplicates_of_indexesAgree
    (h : ValidUpload cfg fileName contentType content image)
    (hroom : s.rows.backlog .photo < cfg.settings.maxPhotoJobBacklog)
    (hagree : s.rows.IndexesAgree eventId (normalizeIdempotencyKey idempotencyKey)
      (hexdigest (cfg.tools.sha256 content))) :
    Deduplicates cfg eventId fileName contentType content idempotencyKey s := by
  have hsha := sha256_of_validUpload h
  refine ⟨?_, ?_, repeats_of_valid h hroom⟩
  · intro photo hphoto hchecksum
    have hfound : photo.FoundBy eventId (normalizeIdempotencyKey idempotencyKey)
        image.sha256 := by
      cases hkey : normalizeIdempotencyKey idempotencyKey with
      | none =>
        rw [← hsha] at hchecksum
        exact hchecksum
      | some key =>
        rcases hagree key hkey with ⟨row, hrow, hrowKey, hrowChecksum⟩ | hneither
        · rw [eq_of_index_eq s.rows.checksums_nodup hrow hphoto hrowChecksum hchecksum]
          exact hrowKey
        · exact absurd hchecksum (hneither photo hphoto).2
    exact ⟨_, ingestPhotoUpload_of_found h hphoto hfound, rfl, rfl⟩
  · intro result s' hrun hsuccess
    rcases found_or_new s.rows eventId (normalizeIdempotencyKey idempotencyKey) image.sha256 with
      ⟨row, hrow, hfound⟩ | hnone
    · rw [ingestPhotoUpload_of_found h hrow hfound] at hrun
      rw [← Except.ok.inj (Prod.mk.inj hrun).1]
      refine ⟨row, rfl, ?_⟩
      cases hkey : normalizeIdempotencyKey idempotencyKey with
      | none =>
        rw [hkey, hsha] at hfound
        exact checksum_of_eventChecksum hfound
      | some key =>
        rw [hkey] at hfound
        rcases hagree key hkey with ⟨row', hrow', hrowKey, hrowChecksum⟩ | hneither
        · rw [eq_of_index_eq s.rows.idempotencyKeys_nodup hrow' hrow hrowKey hfound]
          exact checksum_of_eventChecksum hrowChecksum
        · exact absurd hfound (hneither row hrow).1
    · rw [ingestPhotoUpload_of_new h hroom hnone] at hrun
      obtain ⟨photo, jobs, hphoto, hchecksum, -⟩ := ingestNewPhoto_success hrun hsuccess
      exact ⟨photo, hphoto, by rw [← hsha]; exact hchecksum⟩

/-- A valid upload into a queue with room is deduplicated by its content exactly when the two
indexes agree on it. -/
theorem deduplicates_iff_indexesAgree (cfg : UploadConfig) (eventId : Uuid)
    (fileName contentType : Text) (content : Bytes) (idempotencyKey : Option Text)
    (image : ValidatedImage) (s : UploadState F)
    (h : ValidUpload cfg fileName contentType content image)
    (hroom : s.rows.backlog .photo < cfg.settings.maxPhotoJobBacklog) :
    Deduplicates cfg eventId fileName contentType content idempotencyKey s ↔
      s.rows.IndexesAgree eventId (normalizeIdempotencyKey idempotencyKey)
        (hexdigest (cfg.tools.sha256 content)) :=
  ⟨indexesAgree_of_deduplicates h hroom, deduplicates_of_indexesAgree h hroom⟩

/-- A PNG file of one black pixel. -/
def blackPixel : Bytes :=
  [137, 80, 78, 71, 13, 10, 26, 10, 0, 0, 0, 13, 73, 72, 68, 82, 0, 0, 0, 1, 0, 0, 0, 1, 8, 0,
    0, 0, 0, 58, 126, 155, 85, 0, 0, 0, 10, 73, 68, 65, 84, 120, 218, 99, 96, 0, 0, 0, 2, 0, 1,
    229, 39, 222, 252, 0, 0, 0, 0, 73, 69, 78, 68, 174, 66, 96, 130]

/-- The digest of the file. -/
def blackPixelDigest : Bytes :=
  [164, 212, 192, 9, 97, 147, 17, 217, 184, 57, 4, 172, 253, 98, 254, 59, 127, 145, 140, 49, 37,
    34, 187, 204, 106, 213, 28, 222, 196, 253, 30, 223]

/-- An installation, with what the packages compute for the file. -/
def pixelConfig : UploadConfig where
  tools :=
    { openImage := fun _ => .ok ⟨"PNG", 1, 1, 1⟩
      createPhotoThumbnail := fun content => some content
      sha256 := fun _ => blackPixelDigest
      lower := fun text => text.map Char.toLower }
  limits := ⟨25000000, 8000000, 20000, 80000000⟩
  settings := ⟨2000, 200, 50, 5, 5⟩

/-- The upload of the file to an event, under a key. -/
def uploadPixel (idempotencyKey : Text) : Ingest ℚ UploadedPhotoResult :=
  ingestPhotoUpload pixelConfig 7 "start.png".toList "image/png".toList blackPixel
    (some idempotencyKey)

/-- Nothing is stored, and every call returns. -/
def freshUploads : UploadState ℚ where
  world := World.still 0 fun n => n + 1
  outcomes _ := .returns
  rows := .empty
  objects := []
  putKeys := []
  deleteTargets := []

/-- The file is uploaded under one key and again under another: the second upload is told to retry
later, although the event holds the photo. -/
theorem duplicate_under_other_key :
    ((uploadPixel ['a']).run freshUploads).1.toOption.map (·.success) = some true ∧
      ¬ Deduplicates pixelConfig 7 "start.png".toList "image/png".toList blackPixel (some ['b'])
        ((uploadPixel ['a']).run freshUploads).2 := by
  refine ⟨by decide +kernel, fun h => ?_⟩
  have hheld : (((uploadPixel ['a']).run freshUploads).2.rows.photos.rows.any fun photo =>
      photo.eventChecksum == some (7, hexdigest blackPixelDigest)) = true := by
    decide +kernel
  have hsecond : ((uploadPixel ['b']).run
      ((uploadPixel ['a']).run freshUploads).2).1.toOption.map (·.success) = some false := by
    decide +kernel
  obtain ⟨photo, hphoto, hchecksum⟩ := List.any_eq_true.mp hheld
  obtain ⟨result, hrun, hsuccess, -⟩ := h.known photo hphoto (beq_iff_eq.mp hchecksum)
  have hrun : (uploadPixel ['b']).run ((uploadPixel ['a']).run freshUploads).2 = _ := hrun
  rw [hrun] at hsecond
  change some result.success = some false at hsecond
  rw [hsuccess] at hsecond
  cases hsecond

/-- Event 7 holds another photo under the key `b`; event 8 holds the file under the key `a`. -/
def heldUploads : UploadState ℚ where
  __ := freshUploads
  rows :=
    { UploadRows.empty with
      photos := ⟨[⟨⟨100, 7, "x".toList, "x.png".toList, "image/png".toList, .ready, 0⟩, none, 70,
          some "00".toList, some ['b']⟩,
        ⟨⟨101, 8, "y".toList, "y.png".toList, "image/png".toList, .ready, 0⟩, none, 67,
          some (hexdigest blackPixelDigest), some ['a']⟩], by decide⟩
      idempotencyKeys_nodup := by decide
      checksums_nodup := by decide +kernel }

/-- When the file has been uploaded to event 7 under the key `a`, uploading it again under that key
or without a key is answered with the photo that is there. -/
theorem heldPhoto_deduplicated :
    let uploaded := (uploadPixel ['a']).run heldUploads
    uploaded.1.toOption.map (·.success) = some true ∧
      uploaded.2.rows.photos.rows.length = 3 ∧
      ∀ idempotencyKey ∈ [some ['a'], none],
        Deduplicates pixelConfig 7 "start.png".toList "image/png".toList blackPixel idempotencyKey
          uploaded.2 := by
  intro uploaded
  have hvalid : ValidUpload pixelConfig "start.png".toList "image/png".toList blackPixel
      ⟨"image/png".toList, 1, 1, hexdigest blackPixelDigest⟩ := by
    refine ⟨by decide +kernel, ?_⟩
    rfl
  have hheld : ∃ photo ∈ uploaded.2.rows.photos.rows,
      photo.eventIdempotencyKey = some (7, ['a']) ∧
        photo.eventChecksum = some (7, hexdigest blackPixelDigest) := by
    decide +kernel
  refine ⟨by decide +kernel, by decide +kernel, fun idempotencyKey hkey => ?_⟩
  refine (deduplicates_iff_indexesAgree pixelConfig 7 _ _ blackPixel idempotencyKey _ uploaded.2
    hvalid (by decide +kernel)).mpr fun key hnormalized => ?_
  rcases List.mem_pair.mp hkey with rfl | rfl
  · obtain rfl : ['a'] = key := Option.some.inj hnormalized
    exact Or.inl hheld
  · cases hnormalized

end RaceFrame
