import RaceFrame.Matching.BibIndex
import RaceFrame.Matching.Rebuild
import RaceFrame.Roster.Ownership
import RaceFrame.Text.Readings
import RaceFrame.Worker.Completion

/-!
# Recorded and rebuilt matches

`complete_photo_ocr_job` records the OCR matches of a photo with the extractor
of `face.py`; the rebuild reads the stored detections again with the extractor
of `photographer.py`. For a sound roster with ASCII bibs, each resolves exactly
the participants whose lookup key it reads in a detection, so the rebuild
reproduces the recorded pairs exactly when the two readings agree photo by
photo.
-/

namespace RaceFrame

open Core

variable {F : Type}

/-! ## Pairs with OCR evidence -/

/-- The match of a pair of a photo and a participant carries OCR evidence. -/
def HasOcr (table : Table (PhotoParticipantMatch F) PhotoParticipantMatch.key)
    (key : Uuid × Uuid) : Prop :=
  ∃ row, table.get? key = some row ∧ row.matchSource ≠ .face

/-- The event of a stored photo. -/
def Database.photoEvent? (db : Database F) (photoId : Uuid) : Option Uuid :=
  (db.photos.get? photoId).map Photo.eventId

theorem photoEvent?_of_mem {db : Database F} {photo : Photo} (h : photo ∈ db.photos.rows) :
    db.photoEvent? photo.id = some photo.eventId := by
  rw [Database.photoEvent?, Table.mem_iff_get?.mp h, Option.map_some]

/-- The foreign keys of a match and `raceframe_assert_event_scope`: its photo is stored and belongs
to the event of the match. -/
def Database.MatchesScoped (db : Database F) : Prop :=
  ∀ row ∈ db.photoParticipantMatches.rows, db.photoEvent? row.photoId = some row.eventId

/-- The pairs of an event with OCR evidence are those of its photos. -/
theorem mem_ocrRows_keys_iff {db : Database F} (h : db.MatchesScoped) (eventId : Uuid)
    (key : Uuid × Uuid) :
    key ∈ (db.ocrRows eventId).map PhotoParticipantMatch.key ↔
      db.photoEvent? key.1 = some eventId ∧ HasOcr db.photoParticipantMatches key := by
  rw [List.mem_map]
  constructor
  · rintro ⟨row, hrow, rfl⟩
    obtain ⟨hmem, rfl, hsource⟩ := Database.mem_ocrRows.mp hrow
    exact ⟨h row hmem, row, Table.mem_iff_get?.mp hmem, hsource⟩
  · rintro ⟨hevent, row, hrow, hsource⟩
    obtain ⟨hmem, rfl⟩ := Table.get?_eq_some_iff.mp hrow
    have hscope := (h row hmem).symm.trans hevent
    exact ⟨row, Database.mem_ocrRows.mpr ⟨hmem, Option.some.inj hscope, hsource⟩, rfl⟩

/-- What every match has and losing OCR evidence keeps, every match has afterwards. -/
theorem forall_foldl_dropOcrRow {P : PhotoParticipantMatch F → Prop}
    (hpreserved : ∀ row, P row → P row.facePreserved) {rows : List (PhotoParticipantMatch F)}
    (hrows : ∀ row ∈ rows, P row)
    {table : Table (PhotoParticipantMatch F) PhotoParticipantMatch.key}
    (htable : ∀ row ∈ table.rows, P row) : ∀ row ∈ (rows.foldl dropOcrRow table).rows, P row := by
  induction rows generalizing table with
  | nil => exact htable
  | cons first rows ih =>
    refine ih (fun row hrow => hrows row (List.mem_cons_of_mem first hrow)) fun row hrow => ?_
    rw [dropOcrRow] at hrow
    cases hsource : first.matchSource with
    | ocr =>
      rw [hsource] at hrow
      exact htable row (Table.mem_deleteWhere.mp hrow).1
    | ocrFace =>
      rw [hsource] at hrow
      rcases Table.mem_put.mp hrow with ⟨rfl, -⟩ | ⟨hrow, -⟩
      · exact hpreserved first (hrows first List.mem_cons_self)
      · exact htable row hrow
    | face =>
      rw [hsource] at hrow
      exact htable row hrow

theorem Database.MatchesScoped.withoutOcr {db : Database F} (h : db.MatchesScoped)
    (eventId : Uuid) : (db.withoutOcr eventId).MatchesScoped := by
  intro row hrow
  exact forall_foldl_dropOcrRow
    (P := fun row => db.photoEvent? row.photoId = some row.eventId) (fun _ hrow => hrow)
    (fun row hrow => h row (List.mem_of_mem_filter hrow)) h row hrow

/-- The text detections of a photo. -/
def Database.textDetectionsOf (db : Database F) (photoId : Uuid) : List (PhotoTextDetection F) :=
  db.photoTextDetections.filter fun detection => detection.photoId == photoId

/-- The photos that are read again are those of the event, each with its detections. -/
theorem mem_photosNewestFirst {db : Database F} {eventId : Uuid}
    {entry : Photo × List (PhotoTextDetection F)} :
    entry ∈ db.photosNewestFirst eventId ↔ entry.1 ∈ db.photos.rows ∧
      entry.1.eventId = eventId ∧ entry.2 = db.textDetectionsOf entry.1.id := by
  rw [Database.photosNewestFirst, List.mem_map]
  constructor
  · rintro ⟨photo, hphoto, rfl⟩
    rw [List.mem_insertionSort, List.mem_filter, beq_iff_eq] at hphoto
    exact ⟨hphoto.1, hphoto.2, rfl⟩
  · rintro ⟨hphoto, hevent, hdetections⟩
    refine ⟨entry.1, ?_, Prod.ext rfl hdetections.symm⟩
    rw [List.mem_insertionSort, List.mem_filter, beq_iff_eq]
    exact ⟨hphoto, hevent⟩

/-! ## Resolved participants -/

/-- A matcher resolves a text of the photo to the participant. -/
def Resolves (normalizeMatchToken : Text → Text) (extractMatchCandidates : Text → List Text)
    (participants : List Participant) (detections : List (PhotoTextDetection F))
    (participantId : Uuid) : Prop :=
  ∃ detection ∈ detections, ∃ value ∈ extractMatchCandidates detection.detectedText,
    ∃ entry, (participantsByBib normalizeMatchToken participants).get? value = some entry ∧
      entry.2.id = participantId

variable {normalizeMatchToken : Text → Text} {extractMatchCandidates : Text → List Text}

/-- Where every match token is the lookup key, a participant of a sound roster is resolved exactly
when its key is a candidate. -/
theorem resolves_iff {db : Database F} (h : RosterSound db.participants.rows) {eventId : Uuid}
    (htokens : ∀ p ∈ db.participantsOf eventId, normalizeMatchToken p.bibNumber = p.bibLookup)
    {detections : List (PhotoTextDetection F)} {participantId : Uuid} :
    Resolves normalizeMatchToken extractMatchCandidates (db.participantsOf eventId) detections
        participantId ↔
      ∃ p ∈ db.participantsOf eventId, p.id = participantId ∧ ∃ detection ∈ detections,
        p.bibLookup ∈ extractMatchCandidates detection.detectedText := by
  constructor
  · rintro ⟨detection, hdetection, value, hvalue, entry, hentry, hid⟩
    obtain ⟨-, hmem, hkey⟩ := of_get?_participantsByBib hentry
    refine ⟨entry.2, hmem, hid, detection, hdetection, ?_⟩
    rw [← htokens entry.2 hmem, hkey]
    exact hvalue
  · rintro ⟨p, hp, hid, detection, hdetection, hvalue⟩
    have hstored := Database.mem_participantsOf.mp hp
    refine ⟨detection, hdetection, p.bibLookup, hvalue, (p.bibLookup, p), ?_, hid⟩
    refine get?_participantsByBib_of_unique hp (h.nonempty p hstored.1) (htokens p hp) ?_
    intro q hq hkey
    rw [htokens q hq] at hkey
    have hstored' := Database.mem_participantsOf.mp hq
    exact h.unique q hstored'.1 p hstored.1 (hstored'.2.trans hstored.2.symm) hkey

/-! ## What a matcher records -/

/-- The matches of a photo are OCR matches of the photo in its event. -/
theorem of_mem_ocrMatches {photo : Photo} {participants : List Participant}
    {detections : List (PhotoTextDetection F)} {row : PhotoParticipantMatch F}
    (h : row ∈ ocrMatches normalizeMatchToken extractMatchCandidates photo participants
      detections) :
    row.photoId = photo.id ∧ row.eventId = photo.eventId ∧ row.matchSource = .ocr := by
  obtain ⟨detection, -, h⟩ := List.mem_flatMap.mp h
  obtain ⟨value, -, h⟩ := List.mem_filterMap.mp h
  obtain ⟨entry, -, rfl⟩ := Option.map_eq_some_iff.mp h
  exact ⟨rfl, rfl, rfl⟩

/-- The matches of a photo are those of the participants that its texts are resolved to. -/
theorem exists_ocrMatch_iff {photo : Photo} {participants : List Participant}
    {detections : List (PhotoTextDetection F)} {key : Uuid × Uuid} :
    (∃ row ∈ ocrMatches normalizeMatchToken extractMatchCandidates photo participants detections,
      row.key = key) ↔ key.1 = photo.id ∧
        Resolves normalizeMatchToken extractMatchCandidates participants detections key.2 := by
  constructor
  · rintro ⟨row, hrow, rfl⟩
    obtain ⟨detection, hdetection, hrow⟩ := List.mem_flatMap.mp hrow
    obtain ⟨value, hvalue, hrow⟩ := List.mem_filterMap.mp hrow
    obtain ⟨entry, hentry, rfl⟩ := Option.map_eq_some_iff.mp hrow
    exact ⟨rfl, detection, hdetection, value, hvalue, entry, hentry, rfl⟩
  · rintro ⟨hphoto, detection, hdetection, value, hvalue, entry, hentry, hid⟩
    refine ⟨ocrMatch photo entry.2 value detection.confidence, ?_, ?_⟩
    · refine List.mem_flatMap.mpr ⟨detection, hdetection, ?_⟩
      refine List.mem_filterMap.mpr ⟨value, hvalue, ?_⟩
      exact Option.map_eq_some_iff.mpr ⟨entry, hentry, rfl⟩
    · exact Prod.ext hphoto.symm hid

variable [Scalar F]

theorem mergedSource_ocr_ne_face (stored : MatchSource) : mergedSource stored .ocr ≠ .face := by
  cases stored <;> decide

private theorem foldl_mergeMatch_hasOcr {rows : List (PhotoParticipantMatch F)}
    (hrows : ∀ row ∈ rows, row.matchSource = .ocr) (stored : Option (PhotoParticipantMatch F)) :
    (∃ row, rows.foldl (mergeInto mergeMatch) stored = some row ∧ row.matchSource ≠ .face) ↔
      (∃ row, stored = some row ∧ row.matchSource ≠ .face) ∨ rows ≠ [] := by
  induction rows generalizing stored with
  | nil => simp
  | cons row rows ih =>
    rw [List.foldl_cons, ih fun r hr => hrows r (List.mem_cons_of_mem row hr)]
    have hocr : row.matchSource = .ocr := hrows row List.mem_cons_self
    have hmerged : ∃ r, mergeInto mergeMatch stored row = some r ∧ r.matchSource ≠ .face := by
      refine ⟨_, rfl, ?_⟩
      cases stored with
      | none =>
        dsimp only
        rw [hocr]
        exact MatchSource.noConfusion
      | some old =>
        change mergedSource old.matchSource row.matchSource ≠ .face
        rw [hocr]
        exact mergedSource_ocr_ne_face old.matchSource
    constructor
    · intro _
      exact Or.inr (List.cons_ne_nil row rows)
    · intro _
      exact Or.inl hmerged

/-- OCR matches that are upserted add OCR evidence to their keys, and to no others. -/
theorem hasOcr_upsertedMatches {rows : List (PhotoParticipantMatch F)}
    (hrows : ∀ row ∈ rows, row.matchSource = .ocr)
    (table : Table (PhotoParticipantMatch F) PhotoParticipantMatch.key) (key : Uuid × Uuid) :
    HasOcr (upsertedMatches table rows) key ↔
      HasOcr table key ∨ ∃ row ∈ rows, row.key = key := by
  rw [HasOcr, get?_upsertedMatches, foldl_mergeMatch_hasOcr]
  · refine or_congr Iff.rfl ?_
    rw [Ne, List.filter_eq_nil_iff, not_forall]
    constructor
    · rintro ⟨row, hrow⟩
      rw [Classical.not_imp, not_not, decide_eq_true_eq] at hrow
      obtain ⟨found, hfound, rfl⟩ := List.mem_map.mp hrow.1
      exact ⟨found, hfound, hrow.2⟩
    · rintro ⟨row, hrow, hkey⟩
      refine ⟨row.clamped, ?_⟩
      rw [Classical.not_imp, not_not, decide_eq_true_eq]
      exact ⟨List.mem_map_of_mem hrow, hkey⟩
  · intro row hrow
    obtain ⟨found, hfound, rfl⟩ := List.mem_map.mp (List.mem_filter.mp hrow).1
    exact hrows found hfound

/-- Recording the matches of a photo adds the pairs that its texts are resolved to. -/
theorem hasOcr_upsertMatches_ocrMatches (db : Database F) (photo : Photo)
    (participants : List Participant) (detections : List (PhotoTextDetection F))
    (key : Uuid × Uuid) :
    HasOcr (db.upsertMatches (ocrMatches normalizeMatchToken extractMatchCandidates photo
        participants detections)).photoParticipantMatches key ↔
      HasOcr db.photoParticipantMatches key ∨ (key.1 = photo.id ∧
        Resolves normalizeMatchToken extractMatchCandidates participants detections key.2) := by
  rw [Database.upsertMatches_eq]
  change HasOcr (upsertedMatches _ _) key ↔ _
  rw [hasOcr_upsertedMatches fun row hrow => (of_mem_ocrMatches hrow).2.2, exists_ocrMatch_iff]

private theorem foldl_mergeMatch_eventId {rows : List (PhotoParticipantMatch F)} {eventId : Uuid}
    (hrows : ∀ row ∈ rows, row.eventId = eventId) {stored : Option (PhotoParticipantMatch F)}
    (hstored : ∀ row, stored = some row → row.eventId = eventId) {row : PhotoParticipantMatch F}
    (h : rows.foldl (mergeInto mergeMatch) stored = some row) : row.eventId = eventId := by
  induction rows generalizing stored with
  | nil => exact hstored row h
  | cons first rows ih =>
    refine ih (fun r hr => hrows r (List.mem_cons_of_mem first hr)) (fun r hr => ?_) h
    rw [← Option.some.inj hr]
    cases stored with
    | none => exact hrows first List.mem_cons_self
    | some old => exact hstored old rfl

/-- Matches of a stored photo that are upserted keep the scopes. -/
theorem Database.MatchesScoped.upsertMatches {db : Database F} (h : db.MatchesScoped)
    {photoId eventId : Uuid} (hphoto : db.photoEvent? photoId = some eventId)
    {rows : List (PhotoParticipantMatch F)}
    (hrows : ∀ row ∈ rows, row.photoId = photoId ∧ row.eventId = eventId) :
    (db.upsertMatches rows).MatchesScoped := by
  rw [Database.upsertMatches_eq]
  intro row hrow
  change row ∈ (upsertedMatches db.photoParticipantMatches rows).rows at hrow
  change db.photoEvent? row.photoId = some row.eventId
  have hget := Table.mem_iff_get?.mp hrow
  rw [get?_upsertedMatches] at hget
  by_cases hhere : row.photoId = photoId
  · rw [hhere, hphoto]
    refine congrArg some (foldl_mergeMatch_eventId (fun r hr => ?_) (fun r hr => ?_) hget).symm
    · obtain ⟨found, hfound, rfl⟩ := List.mem_map.mp (List.mem_filter.mp hr).1
      exact (hrows found hfound).2
    · obtain ⟨hmem, hkey⟩ := Table.get?_eq_some_iff.mp hr
      have hsame : r.photoId = photoId := (congrArg Prod.fst hkey).trans hhere
      have hscope := h r hmem
      rw [hsame, hphoto] at hscope
      exact (Option.some.inj hscope).symm
  · have hnone : ((rows.map PhotoParticipantMatch.clamped).filter fun r =>
        r.key = row.key) = [] := by
      refine List.filter_eq_nil_iff.mpr fun r hr hkey => hhere ?_
      obtain ⟨found, hfound, rfl⟩ := List.mem_map.mp hr
      exact (congrArg Prod.fst (of_decide_eq_true hkey)).symm.trans (hrows found hfound).1
    rw [hnone] at hget
    exact h row (Table.mem_of_get? hget)

theorem Database.MatchesScoped.upsertOcrMatches {db : Database F} (h : db.MatchesScoped)
    {photo : Photo} (hphoto : db.photoEvent? photo.id = some photo.eventId)
    (participants : List Participant) (detections : List (PhotoTextDetection F)) :
    (db.upsertMatches (ocrMatches normalizeMatchToken extractMatchCandidates photo participants
      detections)).MatchesScoped :=
  h.upsertMatches hphoto fun _ hrow =>
    ⟨(of_mem_ocrMatches hrow).1, (of_mem_ocrMatches hrow).2.1⟩

/-! ## The pairs that a rebuild leaves -/

private theorem foldl_matchPhoto_frame (photos : List (Photo × List (PhotoTextDetection F)))
    (db : Database F) :
    (photos.foldl Database.matchPhoto db).participants = db.participants ∧
      (photos.foldl Database.matchPhoto db).photos = db.photos := by
  induction photos generalizing db with
  | nil => exact ⟨rfl, rfl⟩
  | cons entry photos ih =>
    rw [List.foldl_cons, (ih _).1, (ih _).2, Database.matchPhoto, Database.upsertMatches_eq]
    exact ⟨rfl, rfl⟩

/-- Reading photos again adds the pairs that their texts are resolved to. -/
theorem hasOcr_foldl_matchPhoto (photos : List (Photo × List (PhotoTextDetection F)))
    (db : Database F) (key : Uuid × Uuid) :
    HasOcr (photos.foldl Database.matchPhoto db).photoParticipantMatches key ↔
      HasOcr db.photoParticipantMatches key ∨ ∃ entry ∈ photos, key.1 = entry.1.id ∧
        Resolves Photographer.normalizeMatchToken Photographer.extractMatchCandidates
          (db.participantsOf entry.1.eventId) entry.2 key.2 := by
  induction photos generalizing db with
  | nil => simp
  | cons entry photos ih =>
    have hroster : (db.matchPhoto entry).participants = db.participants :=
      (foldl_matchPhoto_frame [entry] db).1
    have hsame : ∀ eventId, (db.matchPhoto entry).participantsOf eventId =
        db.participantsOf eventId := by
      intro eventId
      rw [Database.participantsOf, hroster, Database.participantsOf]
    have hfirst : HasOcr (db.matchPhoto entry).photoParticipantMatches key ↔
        HasOcr db.photoParticipantMatches key ∨ (key.1 = entry.1.id ∧
          Resolves Photographer.normalizeMatchToken Photographer.extractMatchCandidates
            (db.participantsOf entry.1.eventId) entry.2 key.2) :=
      hasOcr_upsertMatches_ocrMatches db entry.1 _ entry.2 key
    rw [List.foldl_cons, ih, hfirst, or_assoc, List.exists_mem_cons_iff]
    simp only [hsame]

private theorem foldl_matchPhoto_scoped {photos : List (Photo × List (PhotoTextDetection F))}
    {db : Database F} (h : db.MatchesScoped)
    (hphotos : ∀ entry ∈ photos, entry.1 ∈ db.photos.rows) :
    (photos.foldl Database.matchPhoto db).MatchesScoped := by
  induction photos generalizing db with
  | nil => exact h
  | cons entry photos ih =>
    have hstored := photoEvent?_of_mem (hphotos entry List.mem_cons_self)
    refine ih (h.upsertOcrMatches hstored _ _) fun later hlater => ?_
    have hsame : (db.matchPhoto entry).photos = db.photos := (foldl_matchPhoto_frame [entry] db).2
    rw [hsame]
    exact hphotos later (List.mem_cons_of_mem entry hlater)

/-- A rebuild keeps the scopes. -/
theorem Database.MatchesScoped.rebuilt {db : Database F} (h : db.MatchesScoped) (eventId : Uuid) :
    (db.rebuildStage eventId (db.photosNewestFirst eventId)).MatchesScoped :=
  foldl_matchPhoto_scoped (h.withoutOcr eventId) fun _ hentry =>
    (mem_photosNewestFirst.mp hentry).1

/-- After a rebuild a photo has OCR evidence for the participants that `photographer` resolves
its texts to. -/
theorem hasOcr_rebuilt {db : Database F} (h : db.MatchesScoped) {photo : Photo}
    (hphoto : photo ∈ db.photos.rows) (participantId : Uuid) :
    HasOcr (db.rebuildStage photo.eventId
        (db.photosNewestFirst photo.eventId)).photoParticipantMatches (photo.id, participantId) ↔
      Resolves Photographer.normalizeMatchToken Photographer.extractMatchCandidates
        (db.participantsOf photo.eventId) (db.textDetectionsOf photo.id) participantId := by
  rw [Database.rebuildStage, hasOcr_foldl_matchPhoto]
  have hnone : ¬ HasOcr (db.withoutOcr photo.eventId).photoParticipantMatches
      (photo.id, participantId) := by
    intro hocr
    have hkey := (mem_ocrRows_keys_iff (h.withoutOcr photo.eventId) photo.eventId
      (photo.id, participantId)).mpr ⟨photoEvent?_of_mem hphoto, hocr⟩
    rw [ocrRows_withoutOcr] at hkey
    exact absurd hkey List.not_mem_nil
  constructor
  · rintro (hocr | ⟨entry, hentry, hid, hresolves⟩)
    · exact absurd hocr hnone
    · obtain ⟨hmem, hevent, hdetections⟩ := mem_photosNewestFirst.mp hentry
      rw [hevent, hdetections, ← hid] at hresolves
      exact hresolves
  · intro hresolves
    refine Or.inr ⟨(photo, db.textDetectionsOf photo.id), ?_, rfl, hresolves⟩
    exact mem_photosNewestFirst.mpr ⟨hphoto, rfl, rfl⟩

/-! ## Recording the matches of an event -/

/-- The matches of an event are recorded: its pairs with OCR evidence are those that
`create_ocr_participant_matches` resolves from the stored detections against the current roster. -/
def Database.OcrRecorded (db : Database F) (eventId : Uuid) : Prop :=
  ∀ photoId, db.photoEvent? photoId = some eventId → ∀ participantId,
    HasOcr db.photoParticipantMatches (photoId, participantId) ↔
      Resolves Face.normalizeMatchToken Face.extractMatchCandidates (db.participantsOf eventId)
        (db.textDetectionsOf photoId) participantId

omit [Scalar F] in
/-- An event without OCR evidence and without text detections is recorded. -/
theorem ocrRecorded_of_nothing {db : Database F} {eventId : Uuid}
    (hmatches : ∀ row ∈ db.photoParticipantMatches.rows, row.matchSource = .face)
    (hdetections : ∀ photoId, db.photoEvent? photoId = some eventId →
      db.textDetectionsOf photoId = []) : db.OcrRecorded eventId := by
  intro photoId hphoto participantId
  rw [hdetections photoId hphoto]
  constructor
  · rintro ⟨row, hrow, hsource⟩
    exact absurd (hmatches row (Table.mem_of_get? hrow)) hsource
  · rintro ⟨detection, hdetection, -⟩
    exact absurd hdetection List.not_mem_nil

/-- A call of `complete_photo_ocr_job`. -/
structure OcrCompletion (F : Type) where
  job : Job F
  photoId : Uuid
  detections : List (OCRDetectionPayload F)
  rawResponseJson : Option (JsonDict F)

/-- What the call leaves committed. -/
def OcrCompletion.serve (world : World) (call : OcrCompletion F) (db : Database F) : Database F :=
  (Request.serve world (completePhotoOcrJob call.job call.photoId call.detections
    call.rawResponseJson) db).2

/-- OCR completions one after the other. -/
def runOcrCompletions (db : Database F) (calls : List (World × OcrCompletion F)) : Database F :=
  calls.foldl (fun db call => call.2.serve call.1 db) db

omit [Scalar F] in
/-- Finishing a photo job changes jobs and the status of its photo. -/
theorem finishPhotoJob_frame (db : Database F) (photo : Photo) (job : Job F)
    (rawResponseJson : JsonDict F) (finishedAt : Instant) :
    let finished := db.finishPhotoJob photo job rawResponseJson finishedAt
    finished.participants = db.participants ∧
      finished.photoTextDetections = db.photoTextDetections ∧
      finished.photoParticipantMatches = db.photoParticipantMatches ∧
      ∀ photoId, finished.photoEvent? photoId = db.photoEvent? photoId := by
  intro finished
  change (db.finishPhotoJob photo job rawResponseJson finishedAt).participants = _ ∧
    (db.finishPhotoJob photo job rawResponseJson finishedAt).photoTextDetections = _ ∧
    (db.finishPhotoJob photo job rawResponseJson finishedAt).photoParticipantMatches = _ ∧
    ∀ photoId, (db.finishPhotoJob photo job rawResponseJson finishedAt).photoEvent? photoId = _
  unfold Database.finishPhotoJob Database.markPhoto
  dsimp only
  cases markedPhotoStatus ((db.putJob
      (completedJob job rawResponseJson finishedAt)).photoJobStatuses photo.id) with
  | none => exact ⟨rfl, rfl, rfl, fun _ => rfl⟩
  | some status =>
    refine ⟨rfl, rfl, rfl, fun photoId => ?_⟩
    have hkey : ∀ photo : Photo, ({ photo with status := status } : Photo).id = photo.id :=
      fun _ => rfl
    dsimp only
    rw [Database.photoEvent?, Database.setPhotoStatus_photos, Table.get?_update hkey]
    split
    · rw [Option.map_map]
      rfl
    · rfl

theorem upsertMatches_eq_setPhotoMatches (db : Database F)
    (rows : List (PhotoParticipantMatch F)) :
    db.upsertMatches rows =
      db.setPhotoMatches (db.upsertMatches rows).photoParticipantMatches := by
  rw [Database.upsertMatches_eq]
  rfl

/-- A completion of a stored photo stores its detections and records their matches. -/
theorem OcrCompletion.serve_of_some (world : World) {call : OcrCompletion F} {db : Database F}
    {photo : Photo} (hphoto : db.photos.get? call.photoId = some photo) :
    let stored := storedTextDetections photo call.job call.detections
    let matched := (db.storeTextDetections call.job stored).upsertMatches
      (ocrMatches Face.normalizeMatchToken Face.extractMatchCandidates photo
        (db.participantsOf photo.eventId) stored)
    (call.serve world db).participants = db.participants ∧
      (call.serve world db).photoTextDetections =
        (db.photoTextDetections.filter fun d => d.photoJobId != call.job.id) ++ stored ∧
      (call.serve world db).photoParticipantMatches = matched.photoParticipantMatches ∧
      ∀ photoId, (call.serve world db).photoEvent? photoId = db.photoEvent? photoId := by
  intro stored matched
  obtain ⟨-, hcommitted⟩ := run_completePhotoOcrJob (s := Session.sessionLocal world db) hphoto
    call.job call.detections call.rawResponseJson
  have hserved : call.serve world db = matched.finishPhotoJob photo call.job
      (compactWorkerDiagnostics call.rawResponseJson [("detection_count", .int stored.length)])
      (world.clock 0) := hcommitted
  have hmatched : matched = (db.storeTextDetections call.job stored).setPhotoMatches
      matched.photoParticipantMatches := upsertMatches_eq_setPhotoMatches _ _
  obtain ⟨hparticipants, hdetections, hmatches, hevents⟩ := finishPhotoJob_frame matched photo
    call.job (compactWorkerDiagnostics call.rawResponseJson
      [("detection_count", .int stored.length)]) (world.clock 0)
  rw [hserved, hparticipants, hdetections, hmatches]
  refine ⟨?_, ?_, rfl, fun photoId => ?_⟩
  · rw [hmatched]
    rfl
  · rw [hmatched]
    rfl
  · rw [hevents, hmatched]
    rfl

/-- Without its photo a completion changes nothing. -/
theorem OcrCompletion.serve_of_none {world : World} {call : OcrCompletion F} {db : Database F}
    (hphoto : db.photos.get? call.photoId = none) : call.serve world db = db := by
  have hrun := run_completePhotoOcrJob_of_none (s := Session.sessionLocal world db) hphoto call.job
    call.detections call.rawResponseJson
  rw [OcrCompletion.serve, Request.serve, hrun]
  rfl

/-- Nothing is stored yet for the job of a completion, nor for its photo. -/
structure OcrCompletion.Fresh (db : Database F) (call : OcrCompletion F) : Prop where
  job : ∀ detection ∈ db.photoTextDetections, detection.photoJobId ≠ call.job.id
  photo : ∀ detection ∈ db.photoTextDetections, detection.photoId ≠ call.photoId

omit [Scalar F] in
/-- The detections of a completion are stored for its job and its photo. -/
theorem of_mem_storedTextDetections {photo : Photo} {job : Job F}
    {detections : List (OCRDetectionPayload F)} {detection : PhotoTextDetection F}
    (h : detection ∈ storedTextDetections photo job detections) :
    detection.photoJobId = job.id ∧ detection.photoId = photo.id := by
  obtain ⟨payload, -, hpayload⟩ := List.mem_filterMap.mp h
  rw [storedTextDetection] at hpayload
  split at hpayload
  · cases hpayload
  · rw [← Option.some.inj hpayload]
    exact ⟨rfl, rfl⟩

theorem OcrCompletion.mem_textDetections_serve (call : OcrCompletion F) (world : World)
    {db : Database F} {detection : PhotoTextDetection F}
    (h : detection ∈ (call.serve world db).photoTextDetections) :
    detection ∈ db.photoTextDetections ∨
      (detection.photoJobId = call.job.id ∧ detection.photoId = call.photoId) := by
  cases hphoto : db.photos.get? call.photoId with
  | none =>
    rw [OcrCompletion.serve_of_none hphoto] at h
    exact Or.inl h
  | some photo =>
    rw [(OcrCompletion.serve_of_some world hphoto).2.1] at h
    rcases List.mem_append.mp h with hkept | hstored
    · exact Or.inl (List.mem_of_mem_filter hkept)
    · rw [← Table.get?_key hphoto]
      exact Or.inr (of_mem_storedTextDetections hstored)

omit [Scalar F] in
private theorem filter_append_stored {db : Database F} {call : OcrCompletion F} (h : call.Fresh db)
    (photo : Photo) (hphoto : photo.id = call.photoId) (photoId : Uuid) :
    ((db.photoTextDetections.filter fun d => d.photoJobId != call.job.id) ++
        storedTextDetections photo call.job call.detections).filter
        (fun detection => detection.photoId == photoId) =
      if photoId = call.photoId then storedTextDetections photo call.job call.detections
      else db.textDetectionsOf photoId := by
  have hstored : ∀ detection ∈ storedTextDetections photo call.job call.detections,
      detection.photoId = call.photoId := fun detection hdetection =>
    (of_mem_storedTextDetections hdetection).2.trans hphoto
  have hkept : db.photoTextDetections.filter (fun d => d.photoJobId != call.job.id) =
      db.photoTextDetections :=
    List.filter_eq_self.mpr fun d hd => bne_iff_ne.mpr (h.job d hd)
  rw [hkept, List.filter_append]
  by_cases hhere : photoId = call.photoId
  · rw [if_pos hhere, hhere, List.filter_eq_nil_iff.mpr, List.nil_append]
    · exact List.filter_eq_self.mpr fun d hd => beq_iff_eq.mpr (hstored d hd)
    · intro d hd hsame
      exact h.photo d hd (beq_iff_eq.mp hsame)
  · have hnone : (storedTextDetections photo call.job call.detections).filter
        (fun detection => detection.photoId == photoId) = [] :=
      List.filter_eq_nil_iff.mpr fun d hd hsame =>
        hhere ((beq_iff_eq.mp hsame).symm.trans (hstored d hd))
    rw [if_neg hhere, hnone, List.append_nil]
    rfl

/-- A fresh completion keeps the matches of an event scoped and recorded. -/
theorem OcrCompletion.serve_recorded (world : World) {call : OcrCompletion F} {db : Database F}
    {eventId : Uuid} (hfresh : call.Fresh db) (hscoped : db.MatchesScoped)
    (hrecorded : db.OcrRecorded eventId) :
    (call.serve world db).MatchesScoped ∧ (call.serve world db).OcrRecorded eventId := by
  cases hphoto : db.photos.get? call.photoId with
  | none =>
    rw [OcrCompletion.serve_of_none hphoto]
    exact ⟨hscoped, hrecorded⟩
  | some photo =>
    obtain ⟨hparticipants, hdetections, hmatches, hevents⟩ :=
      OcrCompletion.serve_of_some world hphoto
    have hid : photo.id = call.photoId := Table.get?_key hphoto
    have hevent : db.photoEvent? photo.id = some photo.eventId :=
      photoEvent?_of_mem (Table.mem_of_get? hphoto)
    have hlisted : ∀ photoId, (call.serve world db).textDetectionsOf photoId =
        if photoId = call.photoId then storedTextDetections photo call.job call.detections
        else db.textDetectionsOf photoId := by
      intro photoId
      rw [Database.textDetectionsOf, hdetections]
      exact filter_append_stored hfresh photo hid photoId
    have hroster : (call.serve world db).participantsOf eventId = db.participantsOf eventId := by
      rw [Database.participantsOf, hparticipants, Database.participantsOf]
    generalize storedTextDetections photo call.job call.detections = stored at *
    constructor
    · have hstart : (db.storeTextDetections call.job stored).MatchesScoped := hscoped
      have hkept : ((db.storeTextDetections call.job stored).upsertMatches
          (ocrMatches Face.normalizeMatchToken Face.extractMatchCandidates photo
            (db.participantsOf photo.eventId) stored)).MatchesScoped :=
        hstart.upsertOcrMatches hevent _ _
      intro row hrow
      rw [hmatches] at hrow
      rw [hevents]
      have hrow' := hkept row hrow
      rw [upsertMatches_eq_setPhotoMatches] at hrow'
      exact hrow'
    · intro photoId hphotoId participantId
      rw [hevents] at hphotoId
      rw [hmatches, hasOcr_upsertMatches_ocrMatches, hlisted, hroster]
      have hbefore := hrecorded photoId hphotoId participantId
      by_cases hhere : photoId = call.photoId
      · have hsame : photo.eventId = eventId := by
          rw [hhere, ← hid, hevent] at hphotoId
          exact Option.some.inj hphotoId
        have hnone : db.textDetectionsOf photoId = [] :=
          List.filter_eq_nil_iff.mpr fun d hd heq =>
            hfresh.photo d hd ((beq_iff_eq.mp heq).trans hhere)
        have hnothing : ¬ HasOcr db.photoParticipantMatches (photoId, participantId) := by
          rw [hbefore, hnone]
          rintro ⟨detection, hdetection, -⟩
          exact absurd hdetection List.not_mem_nil
        rw [if_pos hhere, ← hsame]
        constructor
        · rintro (hocr | ⟨-, hresolves⟩)
          · exact absurd hocr hnothing
          · exact hresolves
        · intro hresolves
          exact Or.inr ⟨hhere.trans hid.symm, hresolves⟩
      · rw [if_neg hhere, ← hbefore]
        constructor
        · rintro (hocr | ⟨heq, -⟩)
          · exact hocr
          · exact absurd (heq.trans hid) hhere
        · exact Or.inl

/-- OCR completions of different jobs and photos keep the matches of an event scoped and
recorded. -/
theorem runOcrCompletions_recorded {calls : List (World × OcrCompletion F)} {db : Database F}
    {eventId : Uuid} (hscoped : db.MatchesScoped) (hrecorded : db.OcrRecorded eventId)
    (hfresh : ∀ call ∈ calls, call.2.Fresh db)
    (hdistinct : calls.Pairwise fun a b => a.2.job.id ≠ b.2.job.id ∧ a.2.photoId ≠ b.2.photoId) :
    (runOcrCompletions db calls).MatchesScoped ∧
      (runOcrCompletions db calls).OcrRecorded eventId := by
  induction calls generalizing db with
  | nil => exact ⟨hscoped, hrecorded⟩
  | cons call calls ih =>
    obtain ⟨hscoped', hrecorded'⟩ :=
      call.2.serve_recorded call.1 (hfresh call List.mem_cons_self) hscoped hrecorded
    obtain ⟨hfirst, hrest⟩ := List.pairwise_cons.mp hdistinct
    refine ih hscoped' hrecorded' (fun later hlater => ?_) hrest
    have hold := hfresh later (List.mem_cons_of_mem call hlater)
    constructor
    · intro detection hdetection
      rcases call.2.mem_textDetections_serve call.1 hdetection with hkept | ⟨hjob, -⟩
      · exact hold.job detection hkept
      · rw [hjob]
        exact (hfirst later hlater).1
    · intro detection hdetection
      rcases call.2.mem_textDetections_serve call.1 hdetection with hkept | ⟨-, hphoto⟩
      · exact hold.photo detection hkept
      · rw [hphoto]
        exact (hfirst later hlater).2

/-! ## Recorded against rebuilt -/

omit [Scalar F] in
/-- The keys of a sound roster with ASCII bibs are the match tokens of `face`. -/
theorem faceToken_of_ascii {db : Database F} (h : RosterSound db.participants.rows) {eventId : Uuid}
    (hascii : ∀ p ∈ db.participantsOf eventId, ∀ c ∈ p.bibNumber, c.toNat < 128) :
    ∀ p ∈ db.participantsOf eventId, Face.normalizeMatchToken p.bibNumber = p.bibLookup := by
  intro p hp
  have hstored := (Database.mem_participantsOf.mp hp).1
  rw [h.lookup p hstored]
  exact (normalizeMatchToken_eq_lookup_iff (h.length p hstored)).mpr fun c hc =>
    isLossy_of_ascii (hascii p hp c hc)

omit [Scalar F] in
/-- A key of a sound roster has the shape of a bib key. -/
theorem RosterSound.isBibKey {rows : List Participant} (h : RosterSound rows) {p : Participant}
    (hp : p ∈ rows) : IsBibKey p.bibLookup := by
  have hne := h.nonempty p hp
  rw [h.lookup p hp] at hne ⊢
  exact isBibKey_normalizeBibLookup hne

omit [Scalar F] in
private theorem resolvesSame_iff {db : Database F} (h : RosterSound db.participants.rows)
    {eventId : Uuid}
    (hascii : ∀ p ∈ db.participantsOf eventId, ∀ c ∈ p.bibNumber, c.toNat < 128)
    (detections : List (PhotoTextDetection F)) :
    (∀ participantId,
      Resolves Photographer.normalizeMatchToken Photographer.extractMatchCandidates
          (db.participantsOf eventId) detections participantId ↔
        Resolves Face.normalizeMatchToken Face.extractMatchCandidates
          (db.participantsOf eventId) detections participantId) ↔
      ∀ p ∈ db.participantsOf eventId,
        ((∃ d ∈ detections, p.bibLookup ∈ Photographer.extractMatchCandidates d.detectedText) ↔
          ∃ d ∈ detections, p.bibLookup ∈ Face.extractMatchCandidates d.detectedText) := by
  have htokens : ∀ p ∈ db.participantsOf eventId,
      Photographer.normalizeMatchToken p.bibNumber = p.bibLookup := fun p hp =>
    (h.lookup p (Database.mem_participantsOf.mp hp).1).symm
  simp only [resolves_iff h htokens, resolves_iff h (faceToken_of_ascii h hascii)]
  constructor
  · intro hsame p hp
    have howner : ∀ q ∈ db.participantsOf eventId, q.id = p.id → q = p := fun q hq hid =>
      Table.eq_of_key_eq (Database.mem_participantsOf.mp hq).1
        (Database.mem_participantsOf.mp hp).1 hid
    constructor
    · intro hread
      obtain ⟨q, hq, hid, hread'⟩ := (hsame p.id).mp ⟨p, hp, rfl, hread⟩
      rw [howner q hq hid] at hread'
      exact hread'
    · intro hread
      obtain ⟨q, hq, hid, hread'⟩ := (hsame p.id).mpr ⟨p, hp, rfl, hread⟩
      rw [howner q hq hid] at hread'
      exact hread'
  · intro hsame participantId
    constructor
    · rintro ⟨p, hp, hid, hread⟩
      exact ⟨p, hp, hid, (hsame p hp).mp hread⟩
    · rintro ⟨p, hp, hid, hread⟩
      exact ⟨p, hp, hid, (hsame p hp).mpr hread⟩

omit [Scalar F] in
private theorem readingsAgree_iff {k : Text} (hk : IsBibKey k)
    (detections : List (PhotoTextDetection F)) :
    ((∃ d ∈ detections, k ∈ Photographer.extractMatchCandidates d.detectedText) ↔
        ∃ d ∈ detections, k ∈ Face.extractMatchCandidates d.detectedText) ↔
      (∃ d ∈ detections, ReadByBoth k d.detectedText) ∨
        ((∃ d ∈ detections, ReadOnCompletion k d.detectedText) ↔
          ∃ d ∈ detections, ReadOnRebuild k d.detectedText) := by
  simp only [mem_photographerCandidates_iff_read hk, mem_faceCandidates_iff_read hk, and_or_left,
    exists_or]
  by_cases hboth : ∃ d ∈ detections, ReadByBoth k d.detectedText
  · simp [hboth]
  · simp only [hboth, false_or]
    exact Iff.comm

/-- A rebuild of recorded matches reproduces the pairs with OCR evidence exactly when, for each
photo and each participant of the event, both extractors read the key of the participant in one
detection, or each reads it in some detection on its own grounds, or neither does. -/
theorem rebuild_reproduces_iff (world : World) {db : Database F} {eventId : Uuid}
    (hroster : RosterSound db.participants.rows)
    (hascii : ∀ p ∈ db.participantsOf eventId, ∀ c ∈ p.bibNumber, c.toNat < 128)
    (hscoped : db.MatchesScoped) (hrecorded : db.OcrRecorded eventId) :
    let rebuilt := (Request.serve world (rebuildEventPhotoMatches eventId) db).2
    (∀ key, key ∈ (rebuilt.ocrRows eventId).map PhotoParticipantMatch.key ↔
        key ∈ (db.ocrRows eventId).map PhotoParticipantMatch.key) ↔
      ∀ photo ∈ db.photos.rows, photo.eventId = eventId → ∀ p ∈ db.participantsOf eventId,
        (∃ d ∈ db.textDetectionsOf photo.id, ReadByBoth p.bibLookup d.detectedText) ∨
          ((∃ d ∈ db.textDetectionsOf photo.id, ReadOnCompletion p.bibLookup d.detectedText) ↔
            ∃ d ∈ db.textDetectionsOf photo.id, ReadOnRebuild p.bibLookup d.detectedText) := by
  intro rebuilt
  obtain ⟨-, n, t, hrun, -, hend⟩ := rebuildEventPhotoMatches_spec eventId
    (⟨rfl, rfl⟩ : (Session.sessionLocal world db).Settled)
  have hrebuilt : rebuilt = db.rebuildStage eventId (db.photosNewestFirst eventId) := by
    change (Request.serve world (rebuildEventPhotoMatches eventId) db).2 = _
    rw [Request.serve, hrun, hend]
    rfl
  have hevents : ∀ photoId, rebuilt.photoEvent? photoId = db.photoEvent? photoId := by
    intro photoId
    rw [hrebuilt, rebuildStage_eq]
    rfl
  have hscoped' : rebuilt.MatchesScoped := hrebuilt ▸ hscoped.rebuilt eventId
  have hphoto : ∀ photo ∈ db.photos.rows, photo.eventId = eventId →
      ((∀ participantId, HasOcr rebuilt.photoParticipantMatches (photo.id, participantId) ↔
          HasOcr db.photoParticipantMatches (photo.id, participantId)) ↔
        ∀ p ∈ db.participantsOf eventId,
          (∃ d ∈ db.textDetectionsOf photo.id, ReadByBoth p.bibLookup d.detectedText) ∨
            ((∃ d ∈ db.textDetectionsOf photo.id, ReadOnCompletion p.bibLookup d.detectedText) ↔
              ∃ d ∈ db.textDetectionsOf photo.id, ReadOnRebuild p.bibLookup d.detectedText)) := by
    intro photo hmem hevent
    subst hevent
    rw [hrebuilt]
    simp only [hasOcr_rebuilt hscoped hmem, hrecorded photo.id (photoEvent?_of_mem hmem)]
    rw [resolvesSame_iff hroster hascii]
    refine forall₂_congr fun p hp => readingsAgree_iff ?_ _
    exact hroster.isBibKey (Database.mem_participantsOf.mp hp).1
  simp only [mem_ocrRows_keys_iff hscoped', mem_ocrRows_keys_iff hscoped, hevents]
  constructor
  · intro hsame photo hmem hevent
    refine (hphoto photo hmem hevent).mp fun participantId => ?_
    have hkey := hsame (photo.id, participantId)
    rw [photoEvent?_of_mem hmem, hevent] at hkey
    simpa using hkey
  · intro hagree key
    refine and_congr_right fun hevent => ?_
    obtain ⟨photo, hget, hof⟩ := Option.map_eq_some_iff.mp hevent
    obtain ⟨hmem, hid⟩ := Table.get?_eq_some_iff.mp hget
    have hsame := (hphoto photo hmem hof).mpr (hagree photo hmem hof) key.2
    rw [hid] at hsame
    exact hsame

/-- The OCR job of the only photo of an event. -/
def finisherJob : Job ℚ := .queued 3 (.photo 1 .ocr) 3 0

/-- An event with one photo and a participant with the bib `12`. -/
def finisherEvent : Database ℚ :=
  { Database.empty with
    participants := ⟨[⟨5, 7, "12".toList, "Ada".toList, "12".toList, "ada".toList⟩],
      List.nodup_singleton _⟩
    photos := ⟨[⟨1, 7, ['k'], ['f'], ['t'], .processing, 0⟩], List.nodup_singleton _⟩
    jobs := ⟨[finisherJob], List.nodup_singleton _⟩ }

/-- The completion that brings a text of the photo. -/
def finisherCompletion (text : Text) : OcrCompletion ℚ where
  job := finisherJob
  photoId := 1
  detections := [⟨text, text, some (9 / 10), none⟩]
  rawResponseJson := none

/-- The event after the text of its photo has come in. -/
def finisherRead (text : Text) : Database ℚ :=
  runOcrCompletions finisherEvent [(World.still 0 fun _ => 0, finisherCompletion text)]

theorem finisherRead_roster (text : Text) :
    (finisherRead text).participants = finisherEvent.participants := by
  have hphoto : finisherEvent.photos.get? (finisherCompletion text).photoId =
      some ⟨1, 7, ['k'], ['f'], ['t'], .processing, 0⟩ := rfl
  exact (OcrCompletion.serve_of_some _ hphoto).1

theorem finisherRead_rosterSound (text : Text) :
    RosterSound (finisherRead text).participants.rows := by
  rw [finisherRead_roster]
  exact ⟨by decide, by decide, by decide, by decide⟩

theorem finisherRead_ascii (text : Text) :
    ∀ p ∈ (finisherRead text).participantsOf 7, ∀ c ∈ p.bibNumber, c.toNat < 128 := by
  rw [Database.participantsOf, finisherRead_roster]
  simp [finisherEvent]

theorem finisherRead_recorded (text : Text) :
    (finisherRead text).MatchesScoped ∧ (finisherRead text).OcrRecorded 7 := by
  refine runOcrCompletions_recorded (fun row hrow => absurd hrow List.not_mem_nil)
    (ocrRecorded_of_nothing (fun row hrow => absurd hrow List.not_mem_nil) fun _ _ => rfl)
    (fun call _ => ?_) (List.pairwise_singleton _ _)
  exact ⟨fun _ hdetection => absurd hdetection List.not_mem_nil,
    fun _ hdetection => absurd hdetection List.not_mem_nil⟩

/-- A rebuild reproduces the match that the text `BIB 12` has brought. -/
theorem finisherRead_reproduces_iff :
    let db := finisherRead "BIB 12".toList
    let rebuilt := (Request.serve (World.still 0 fun _ => 0) (rebuildEventPhotoMatches 7) db).2
    (db.ocrRows 7).map PhotoParticipantMatch.key = [(1, 5)] ∧
      ∀ key, key ∈ (rebuilt.ocrRows 7).map PhotoParticipantMatch.key ↔
        key ∈ (db.ocrRows 7).map PhotoParticipantMatch.key := by
  intro db rebuilt
  refine ⟨by decide +kernel, (rebuild_reproduces_iff (World.still 0 fun _ => 0)
    (finisherRead_rosterSound _) (finisherRead_ascii _) (finisherRead_recorded _).1
    (finisherRead_recorded _).2).mpr fun photo hphoto _ p hp => Or.inl ?_⟩
  have hone : ∀ photo ∈ db.photos.rows, photo.id = 1 := by decide +kernel
  have hroster : ∀ p ∈ db.participantsOf 7, p.bibLookup = "12".toList := by decide +kernel
  have htext : ∃ d ∈ db.textDetectionsOf 1, d.detectedText = "BIB 12".toList := by
    decide +kernel
  obtain ⟨d, hd, hdetected⟩ := htext
  rw [hone photo hphoto, hroster p hp]
  refine ⟨d, hd, Or.inl ?_⟩
  rw [hdetected]
  decide +kernel

/-- The bib `12` that was read in the text `A12` is lost in a rebuild without any roster change. -/
theorem rebuild_loses_digits :
    ∃ (world : World) (db : Database ℚ),
      RosterSound db.participants.rows ∧
        (∀ p ∈ db.participantsOf 7, ∀ c ∈ p.bibNumber, c.toNat < 128) ∧
        db.MatchesScoped ∧ db.OcrRecorded 7 ∧
        (db.ocrRows 7).map PhotoParticipantMatch.key = [(1, 5)] ∧
        (Request.serve world (rebuildEventPhotoMatches 7) db).2.ocrRows 7 = [] := by
  refine ⟨World.still 0 fun _ => 0, finisherRead "A12".toList, finisherRead_rosterSound _,
    finisherRead_ascii _, (finisherRead_recorded _).1, (finisherRead_recorded _).2, ?_, ?_⟩
  · decide +kernel
  · decide +kernel

end RaceFrame
