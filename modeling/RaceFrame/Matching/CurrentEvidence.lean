import RaceFrame.Matching.FaceBacking
import RaceFrame.Matching.Reproduction

/-!
# Current evidence

OCR completions, enrolments and roster edits, each followed by a rebuild. The
rebuild drops the OCR evidence of a match but cannot tell the part of the
confidence that came from it: a match with both sources keeps its confidence. So
the matches of an event carry current evidence only after a rebuild exactly when
no match with both sources had a confidence above all evidence for it.
-/

namespace RaceFrame

open Core

variable {F : Type}

/-- A text detection of a photo that is resolved to a participant has this confidence. -/
def Database.OcrEvidence (db : Database F) (eventId : Uuid) (key : Uuid × Uuid)
    (confidence : Option F) : Prop :=
  ∃ detection ∈ db.textDetectionsOf key.1, detection.confidence = confidence ∧
    Resolves Photographer.normalizeMatchToken Photographer.extractMatchCandidates
      (db.participantsOf eventId) [detection] key.2

theorem exists_ocrMatch_confidence_iff {normalizeMatchToken : Text → Text}
    {extractMatchCandidates : Text → List Text} {photo : Photo} {participants : List Participant}
    {detections : List (PhotoTextDetection F)} {key : Uuid × Uuid} {confidence : Option F} :
    (∃ row ∈ ocrMatches normalizeMatchToken extractMatchCandidates photo participants detections,
      row.key = key ∧ row.confidence = confidence) ↔
      key.1 = photo.id ∧ ∃ detection ∈ detections, detection.confidence = confidence ∧
        Resolves normalizeMatchToken extractMatchCandidates participants [detection] key.2 := by
  constructor
  · rintro ⟨row, hrow, rfl, rfl⟩
    obtain ⟨detection, hdetection, hrow⟩ := List.mem_flatMap.mp hrow
    obtain ⟨value, hvalue, hrow⟩ := List.mem_filterMap.mp hrow
    obtain ⟨entry, hentry, rfl⟩ := Option.map_eq_some_iff.mp hrow
    exact ⟨rfl, detection, hdetection, rfl, detection, List.mem_singleton_self _, value, hvalue,
      entry, hentry, rfl⟩
  · rintro ⟨hphoto, detection, hdetection, rfl, other, hother, value, hvalue, entry, hentry, hid⟩
    rw [List.mem_singleton.mp hother] at hvalue
    refine ⟨ocrMatch photo entry.2 value detection.confidence, ?_, ?_, rfl⟩
    · refine List.mem_flatMap.mpr ⟨detection, hdetection, ?_⟩
      refine List.mem_filterMap.mpr ⟨value, hvalue, ?_⟩
      exact Option.map_eq_some_iff.mpr ⟨entry, hentry, rfl⟩
    · exact Prod.ext hphoto.symm hid

/-! ## Dropping OCR evidence -/

/-- What the first loop of a rebuild leaves of a match of the event. -/
def PhotoParticipantMatch.dropped (row : PhotoParticipantMatch F) :
    Option (PhotoParticipantMatch F) :=
  match row.matchSource with
  | .ocr => none
  | .ocrFace => some row.facePreserved
  | .face => some row

theorem get?_dropOcrRow {table : Table (PhotoParticipantMatch F) PhotoParticipantMatch.key}
    {row : PhotoParticipantMatch F} (hrow : table.get? row.key = some row) (key : Uuid × Uuid) :
    (dropOcrRow table row).get? key = if key = row.key then row.dropped else table.get? key := by
  rw [dropOcrRow, PhotoParticipantMatch.dropped]
  cases hsource : row.matchSource with
  | ocr =>
    dsimp only
    rw [Table.get?_deleteWhere]
    cases hget : table.get? key with
    | none =>
      split <;> rfl
    | some other =>
      rw [Option.filter_some, Table.get?_key hget]
      by_cases hkey : key = row.key
      · simp [hkey]
      · simp [hkey]
  | ocrFace =>
    dsimp only
    have hkey : row.facePreserved.key = row.key := rfl
    rw [Table.get?_put, hkey]
    split
    next hhere =>
      rw [hhere, hrow]
      rfl
    next => rfl
  | face =>
    dsimp only
    split
    next hhere => rw [hhere, hrow]
    next => rfl

private theorem get?_foldl_dropOcrRow {rows : List (PhotoParticipantMatch F)}
    (hnodup : (rows.map PhotoParticipantMatch.key).Nodup)
    {table : Table (PhotoParticipantMatch F) PhotoParticipantMatch.key}
    (hrows : ∀ row ∈ rows, table.get? row.key = some row) :
    (∀ row ∈ rows, (rows.foldl dropOcrRow table).get? row.key = row.dropped) ∧
      ∀ key ∉ rows.map PhotoParticipantMatch.key,
        (rows.foldl dropOcrRow table).get? key = table.get? key := by
  induction rows generalizing table with
  | nil => exact ⟨fun row hrow => absurd hrow List.not_mem_nil, fun _ _ => rfl⟩
  | cons first rows ih =>
    rw [List.map_cons, List.nodup_cons] at hnodup
    have hfirst := get?_dropOcrRow (hrows first List.mem_cons_self)
    have hrest : ∀ row ∈ rows, (dropOcrRow table first).get? row.key = some row := by
      intro row hrow
      rw [hfirst, if_neg, hrows row (List.mem_cons_of_mem first hrow)]
      intro heq
      exact hnodup.1 (heq ▸ List.mem_map_of_mem hrow)
    obtain ⟨hdropped, hother⟩ := ih hnodup.2 hrest
    constructor
    · intro row hrow
      rcases List.mem_cons.mp hrow with rfl | hrow
      · rw [List.foldl_cons, hother _ hnodup.1, hfirst, if_pos rfl]
      · exact hdropped row hrow
    · intro key hkey
      rw [List.map_cons, List.mem_cons, not_or] at hkey
      rw [List.foldl_cons, hother key hkey.2, hfirst, if_neg hkey.1]

/-- The match under a key without the OCR evidence of an event. -/
theorem get?_withoutOcr (db : Database F) (eventId : Uuid) (key : Uuid × Uuid) :
    (db.withoutOcr eventId).photoParticipantMatches.get? key =
      (db.photoParticipantMatches.get? key).bind fun row =>
        if row.eventId = eventId then row.dropped else some row := by
  have hmem : ∀ row ∈ db.photoParticipantMatches.rows.filter fun row => row.eventId == eventId,
      db.photoParticipantMatches.get? row.key = some row := fun row hrow =>
    Table.mem_iff_get?.mp (List.mem_filter.mp hrow).1
  have hnodup : ((db.photoParticipantMatches.rows.filter fun row =>
      row.eventId == eventId).map PhotoParticipantMatch.key).Nodup :=
    db.photoParticipantMatches.nodup.sublist (List.filter_sublist.map _)
  obtain ⟨hdropped, hother⟩ := get?_foldl_dropOcrRow hnodup hmem
  rw [Database.withoutOcr, Database.setPhotoMatches_photoParticipantMatches]
  cases hrow : db.photoParticipantMatches.get? key with
  | none =>
    refine (hother key ?_).trans hrow
    intro hkey
    obtain ⟨row, hlisted, rfl⟩ := List.mem_map.mp hkey
    rw [hmem row hlisted] at hrow
    cases hrow
  | some row =>
    obtain ⟨hstored, rfl⟩ := Table.get?_eq_some_iff.mp hrow
    rw [Option.bind_some]
    by_cases hevent : row.eventId = eventId
    · rw [if_pos hevent]
      exact hdropped row (List.mem_filter.mpr ⟨hstored, beq_iff_eq.mpr hevent⟩)
    · rw [if_neg hevent]
      refine (hother row.key ?_).trans hrow
      intro hkey
      obtain ⟨other, hlisted, hsame⟩ := List.mem_map.mp hkey
      obtain ⟨hother, hevent'⟩ := List.mem_filter.mp hlisted
      rw [Table.eq_of_key_eq hother hstored hsame] at hevent'
      exact hevent (beq_iff_eq.mp hevent')

/-! ## A rebuild -/

variable [Scalar F]

/-- The OCR matches that are read from some photos. -/
def Database.rebuiltRows (db : Database F)
    (photos : List (Photo × List (PhotoTextDetection F))) : List (PhotoParticipantMatch F) :=
  photos.flatMap fun entry => ocrMatches Photographer.normalizeMatchToken
    Photographer.extractMatchCandidates entry.1 (db.participantsOf entry.1.eventId) entry.2

/-- The database after a rebuild of the event. -/
def Database.rebuilt (db : Database F) (eventId : Uuid) : Database F :=
  db.rebuildStage eventId (db.photosNewestFirst eventId)

theorem serve_rebuildEventPhotoMatches (world : World) (db : Database F) (eventId : Uuid) :
    (Request.serve world (rebuildEventPhotoMatches eventId) db).2 = db.rebuilt eventId := by
  have hsettled : (Session.sessionLocal world db).Settled := ⟨rfl, rfl⟩
  obtain ⟨-, n, t, hrun, -, hend⟩ := rebuildEventPhotoMatches_spec eventId hsettled
  rw [Request.serve, hrun]
  exact hend

private theorem foldl_matchPhoto_eq (photos : List (Photo × List (PhotoTextDetection F)))
    (db : Database F) :
    photos.foldl Database.matchPhoto db = db.upsertMatches (db.rebuiltRows photos) := by
  induction photos generalizing db with
  | nil => rfl
  | cons entry photos ih =>
    have hroster : (db.matchPhoto entry).rebuiltRows photos = db.rebuiltRows photos := by
      rw [Database.matchPhoto, Database.upsertMatches_eq]
      rfl
    have hrows : db.upsertMatches (db.rebuiltRows (entry :: photos)) =
        (db.matchPhoto entry).upsertMatches (db.rebuiltRows photos) := by
      rw [Database.rebuiltRows, List.flatMap_cons, Database.upsertMatches, List.foldl_append]
      rfl
    rw [List.foldl_cons, ih, hroster, hrows]

/-- A rebuild upserts the OCR matches of the photos of the event, and nothing else. -/
theorem rebuilt_eq (db : Database F) (eventId : Uuid) :
    db.rebuilt eventId = db.setPhotoMatches
      (upsertedMatches (db.withoutOcr eventId).photoParticipantMatches
        (db.rebuiltRows (db.photosNewestFirst eventId))) := by
  rw [Database.rebuilt, Database.rebuildStage, foldl_matchPhoto_eq, Database.upsertMatches_eq]
  rfl

omit [Scalar F] in
/-- The OCR matches of an event are its current OCR evidence. -/
theorem exists_rebuiltRow_iff {db : Database F} {eventId : Uuid} {key : Uuid × Uuid}
    {confidence : Option F} :
    (∃ row ∈ db.rebuiltRows (db.photosNewestFirst eventId),
      row.key = key ∧ row.confidence = confidence) ↔
      db.photoEvent? key.1 = some eventId ∧ db.OcrEvidence eventId key confidence := by
  constructor
  · rintro ⟨row, hrow, hmatch⟩
    obtain ⟨entry, hentry, hrow⟩ := List.mem_flatMap.mp hrow
    obtain ⟨hphoto, hevent, hdetections⟩ := mem_photosNewestFirst.mp hentry
    obtain ⟨hid, hevidence⟩ := exists_ocrMatch_confidence_iff.mp ⟨row, hrow, hmatch⟩
    rw [hdetections, hevent, ← hid] at hevidence
    refine ⟨?_, hevidence⟩
    rw [hid, photoEvent?_of_mem hphoto, hevent]
  · rintro ⟨hevent, hevidence⟩
    obtain ⟨photo, hphoto, rfl⟩ := Option.map_eq_some_iff.mp hevent
    have hid : photo.id = key.1 := Table.get?_key hphoto
    rw [Database.OcrEvidence, ← hid] at hevidence
    obtain ⟨row, hrow, hmatch⟩ := exists_ocrMatch_confidence_iff.mpr ⟨hid.symm, hevidence⟩
    refine ⟨row, List.mem_flatMap.mpr ⟨(photo, db.textDetectionsOf photo.id), ?_, hrow⟩, hmatch⟩
    exact mem_photosNewestFirst.mpr ⟨Table.mem_of_get? hphoto, rfl, rfl⟩

omit [Scalar F] in
private theorem rebuiltRows_ocr {db : Database F}
    {photos : List (Photo × List (PhotoTextDetection F))} :
    ∀ row ∈ db.rebuiltRows photos, row.matchSource = .ocr := by
  intro row hrow
  obtain ⟨entry, -, hrow⟩ := List.mem_flatMap.mp hrow
  exact (of_mem_ocrMatches hrow).2.2

/-- The confidence under a key is the largest that came for it. -/
theorem confidence_foldl_mergeInto (rows : List (PhotoParticipantMatch F))
    (stored : Option (PhotoParticipantMatch F)) :
    (rows.foldl (mergeInto mergeMatch) stored).bind (·.confidence) =
      (stored.bind (·.confidence) :: rows.map (·.confidence)).reduceOption.max? := by
  rw [← foldl_larger?]
  induction rows generalizing stored with
  | nil => rfl
  | cons row rows ih =>
    have hstep : (mergeInto mergeMatch stored row).bind (·.confidence) =
        larger? (stored.bind (·.confidence)) row.confidence := by
      cases stored with
      | none => rfl
      | some old => exact mergedConfidence_eq_larger? old.confidence row.confidence
    rw [List.foldl_cons, ih, hstep, List.map_cons, List.foldl_cons]

private theorem confidence_upsertedMatches
    (table : Table (PhotoParticipantMatch F) PhotoParticipantMatch.key)
    (rows : List (PhotoParticipantMatch F)) (key : Uuid × Uuid) :
    ((upsertedMatches table rows).get? key).bind (·.confidence) =
      ((table.get? key).bind (·.confidence) ::
        (rows.filter fun row => row.key = key).map (·.confidence)).reduceOption.max? := by
  rw [get?_upsertedMatches, confidence_foldl_mergeInto, List.filter_map, List.map_map]
  rfl

/-- A confidence after a rebuild was there without OCR evidence, or is current OCR evidence. -/
theorem of_confidence_rebuilt {db : Database F} {eventId : Uuid} {row : PhotoParticipantMatch F}
    (hrow : row ∈ (db.rebuilt eventId).photoParticipantMatches.rows) {c : F}
    (hc : row.confidence = some c) :
    ((db.withoutOcr eventId).photoParticipantMatches.get? row.key).bind (·.confidence) = some c ∨
      db.OcrEvidence eventId row.key (some c) := by
  have hget := Table.mem_iff_get?.mp hrow
  rw [rebuilt_eq] at hget
  have hmax := confidence_upsertedMatches (db.withoutOcr eventId).photoParticipantMatches
    (db.rebuiltRows (db.photosNewestFirst eventId)) row.key
  rw [Database.setPhotoMatches_photoParticipantMatches] at hget
  rw [hget, Option.bind_some, hc] at hmax
  have hmem := (List.max?_eq_some_iff.mp hmax.symm).1
  rw [List.reduceOption_mem_iff] at hmem
  rcases List.mem_cons.mp hmem with hstored | hfound
  · exact Or.inl hstored.symm
  · obtain ⟨found, hfound, hconfidence⟩ := List.mem_map.mp hfound
    obtain ⟨hmem, hkey⟩ := List.mem_filter.mp hfound
    exact Or.inr (exists_rebuiltRow_iff.mp ⟨found, hmem, of_decide_eq_true hkey, hconfidence⟩).2

/-- No confidence that was there without OCR evidence, and none of the current OCR evidence,
exceeds the one after a rebuild. -/
theorem le_confidence_rebuilt {db : Database F} {eventId : Uuid} {key : Uuid × Uuid} {c : F}
    (h : ((db.withoutOcr eventId).photoParticipantMatches.get? key).bind (·.confidence) = some c ∨
      db.photoEvent? key.1 = some eventId ∧ db.OcrEvidence eventId key (some c)) :
    ∃ row c', (db.rebuilt eventId).photoParticipantMatches.get? key = some row ∧
      row.confidence = some c' ∧ c ≤ c' := by
  have hmax := confidence_upsertedMatches (db.withoutOcr eventId).photoParticipantMatches
    (db.rebuiltRows (db.photosNewestFirst eventId)) key
  have hmem : c ∈ (((db.withoutOcr eventId).photoParticipantMatches.get? key).bind (·.confidence) ::
      ((db.rebuiltRows (db.photosNewestFirst eventId)).filter fun row =>
        row.key = key).map (·.confidence)).reduceOption := by
    rw [List.reduceOption_mem_iff, List.mem_cons]
    rcases h with hstored | hevidence
    · exact Or.inl hstored.symm
    · obtain ⟨row, hrow, hkey, hconfidence⟩ := exists_rebuiltRow_iff.mpr hevidence
      refine Or.inr (List.mem_map.mpr ⟨row, List.mem_filter.mpr ⟨hrow, ?_⟩, hconfidence⟩)
      exact decide_eq_true hkey
  obtain ⟨c', hc'⟩ : ∃ c', (((db.withoutOcr eventId).photoParticipantMatches.get? key).bind
      (·.confidence) :: ((db.rebuiltRows (db.photosNewestFirst eventId)).filter fun row =>
        row.key = key).map (·.confidence)).reduceOption.max? = some c' := by
    rw [← Option.ne_none_iff_exists', Ne, List.max?_eq_none_iff]
    exact List.ne_nil_of_mem hmem
  have hle := (List.max?_eq_some_iff.mp hc').2 c hmem
  rw [hc'] at hmax
  obtain ⟨row, hrow, hconfidence⟩ := Option.bind_eq_some_iff.mp hmax
  refine ⟨row, c', ?_, hconfidence, hle⟩
  rw [rebuilt_eq]
  exact hrow

/-- A match without OCR evidence after a rebuild has no current OCR evidence and was there without
it. -/
theorem of_face_rebuilt {db : Database F} {eventId : Uuid} {row : PhotoParticipantMatch F}
    (hrow : row ∈ (db.rebuilt eventId).photoParticipantMatches.rows)
    (hface : row.matchSource = .face) :
    (db.withoutOcr eventId).photoParticipantMatches.get? row.key = some row ∧
      (db.photoEvent? row.photoId = some eventId →
        ∀ confidence, ¬db.OcrEvidence eventId row.key confidence) := by
  have hget := Table.mem_iff_get?.mp hrow
  rw [rebuilt_eq] at hget
  refine ⟨get?_of_upsertedOcr rebuiltRows_ocr hget hface, fun hevent confidence hevidence => ?_⟩
  obtain ⟨found, hfound, hkey, -⟩ := exists_rebuiltRow_iff.mpr ⟨hevent, hevidence⟩
  obtain ⟨row', hrow', hocr⟩ := (hasOcr_upsertedMatches rebuiltRows_ocr
    (db.withoutOcr eventId).photoParticipantMatches row.key).mpr (Or.inr ⟨found, hfound, hkey⟩)
  rw [Database.setPhotoMatches_photoParticipantMatches] at hget
  rw [Option.some.inj (hrow'.symm.trans hget)] at hocr
  exact hocr hface

/-- A match with OCR evidence after a rebuild has current OCR evidence. -/
theorem exists_ocrEvidence_of_rebuilt {db : Database F} (h : db.MatchesScoped) {eventId : Uuid}
    {row : PhotoParticipantMatch F} (hrow : row ∈ (db.rebuilt eventId).photoParticipantMatches.rows)
    (hevent : db.photoEvent? row.photoId = some eventId) (hocr : row.matchSource ≠ .face) :
    ∃ confidence, db.OcrEvidence eventId row.key confidence := by
  have hhas : HasOcr (db.rebuilt eventId).photoParticipantMatches row.key :=
    ⟨row, Table.mem_iff_get?.mp hrow, hocr⟩
  rw [rebuilt_eq] at hhas
  rcases (hasOcr_upsertedMatches rebuiltRows_ocr _ _).mp hhas with hstored | ⟨found, hfound, hkey⟩
  · have hnone := (mem_ocrRows_keys_iff (h.withoutOcr eventId) eventId row.key).mpr
      ⟨hevent, hstored⟩
    rw [ocrRows_withoutOcr] at hnone
    exact absurd hnone List.not_mem_nil
  · exact ⟨found.confidence, (exists_rebuiltRow_iff.mp ⟨found, hfound, hkey, rfl⟩).2⟩

/-! ## One rebuild -/

/-- The matches of an event carry current evidence only: one that no text detection supports has the
source `face` and the best recorded similarity, and every confidence is current evidence. -/
structure Database.CurrentEvidence (db : Database F) (eventId : Uuid) : Prop where
  unsupported : ∀ row ∈ db.photoParticipantMatches.rows, row.eventId = eventId →
    (∀ confidence, ¬db.OcrEvidence eventId row.key confidence) →
      row.matchSource = .face ∧ ∃ best, row.confidence = some best ∧
        IsGreatest {similarity | FaceEvidence db.faceParticipantMatches row.key similarity} best
  current : ∀ row ∈ db.photoParticipantMatches.rows, row.eventId = eventId →
    ∀ c, row.confidence = some c →
      FaceEvidence db.faceParticipantMatches row.key c ∨ db.OcrEvidence eventId row.key (some c)

/-- No match of the event with both sources has a confidence above all evidence for it. -/
def Database.EvidenceReaches (db : Database F) (eventId : Uuid) : Prop :=
  ∀ row ∈ db.photoParticipantMatches.rows, row.eventId = eventId → row.matchSource = .ocrFace →
    ∀ c, row.confidence = some c → ∃ c' ≥ c,
      FaceEvidence db.faceParticipantMatches row.key c' ∨ db.OcrEvidence eventId row.key (some c')

/-- What every step keeps: the event scopes, and the two match tables together. -/
structure Database.EvidenceSound (db : Database F) : Prop where
  matchScopes : db.MatchesScoped
  faceScopes : ∀ detection ∈ db.photoFaceDetections.rows,
    db.photoEvent? detection.photoId = some detection.eventId
  detected : ∀ detection ∈ db.photoFaceDetections.rows,
    FacesDetected db.faceParticipantMatches detection
  backed : FaceBacked db.photoParticipantMatches db.faceParticipantMatches
  unmixed : FaceExact db.photoParticipantMatches db.faceParticipantMatches

omit [Scalar F] in
/-- Where a match without OCR evidence comes from. -/
theorem of_get?_withoutOcr {db : Database F} {eventId : Uuid} {key : Uuid × Uuid}
    {row : PhotoParticipantMatch F}
    (h : (db.withoutOcr eventId).photoParticipantMatches.get? key = some row) :
    ∃ stored, db.photoParticipantMatches.get? key = some stored ∧
      stored.eventId = row.eventId ∧ stored.confidence = row.confidence ∧
      (row = stored ∧ (stored.eventId = eventId → stored.matchSource = .face) ∨
        stored.matchSource = .ocrFace ∧ stored.eventId = eventId) := by
  rw [get?_withoutOcr] at h
  obtain ⟨stored, hstored, h⟩ := Option.bind_eq_some_iff.mp h
  refine ⟨stored, hstored, ?_⟩
  split at h
  next hevent =>
    rw [PhotoParticipantMatch.dropped] at h
    cases hsource : stored.matchSource with
    | ocr =>
      rw [hsource] at h
      cases h
    | ocrFace =>
      rw [hsource] at h
      rw [← Option.some.inj h]
      exact ⟨rfl, rfl, Or.inr ⟨rfl, hevent⟩⟩
    | face =>
      rw [hsource] at h
      rw [← Option.some.inj h]
      exact ⟨rfl, rfl, Or.inl ⟨rfl, fun _ => rfl⟩⟩
  next hother =>
    rw [← Option.some.inj h]
    exact ⟨rfl, rfl, Or.inl ⟨rfl, fun hevent => absurd hevent hother⟩⟩

namespace Database.EvidenceSound

variable {db : Database F} {eventId : Uuid}

/-- A confidence that is left without OCR evidence is recorded, or below current OCR evidence. -/
private theorem of_reaches (h : db.EvidenceSound) (hreaches : db.EvidenceReaches eventId)
    {key : Uuid × Uuid} {row : PhotoParticipantMatch F}
    (hrow : (db.withoutOcr eventId).photoParticipantMatches.get? key = some row)
    (hevent : row.eventId = eventId) {c : F} (hc : row.confidence = some c) :
    FaceEvidence db.faceParticipantMatches key c ∨
      ∃ c' ≥ c, db.OcrEvidence eventId key (some c') := by
  obtain ⟨stored, hstored, hevent', hconfidence, ⟨rfl, hface⟩ | ⟨hboth, -⟩⟩ :=
    of_get?_withoutOcr hrow
  · obtain ⟨c', hc', hrecorded⟩ := h.unmixed key row hstored (hface hevent)
    rw [hc] at hc'
    rw [Option.some.inj hc']
    exact Or.inl hrecorded
  · obtain ⟨hmem, rfl⟩ := Table.get?_eq_some_iff.mp hstored
    have hstoredc := hconfidence.trans hc
    obtain ⟨c', hge, hrecorded | hocr⟩ :=
      hreaches stored hmem (hevent'.trans hevent) hboth c hstoredc
    · rw [le_antisymm hge (h.backed.le_confidence hstored hstoredc hrecorded)]
      exact Or.inl hrecorded
    · exact Or.inr ⟨c', hge, hocr⟩

omit [Scalar F] in
private theorem eventId_of_key (h : db.MatchesScoped) {key : Uuid × Uuid}
    {row : PhotoParticipantMatch F} (hrow : db.photoParticipantMatches.get? key = some row) :
    db.photoEvent? key.1 = some row.eventId := by
  obtain ⟨hmem, rfl⟩ := Table.get?_eq_some_iff.mp hrow
  exact h row hmem

/-- A rebuild leaves current evidence only, if no match had a confidence above all evidence for
it. -/
theorem rebuilt_current (h : db.EvidenceSound) (hreaches : db.EvidenceReaches eventId) :
    (db.rebuilt eventId).CurrentEvidence eventId := by
  have hrebuilt := h.matchScopes.rebuilt eventId
  have hframe := rebuilt_eq db eventId
  have hfaces : (db.rebuilt eventId).faceParticipantMatches = db.faceParticipantMatches := by
    rw [hframe]
    rfl
  have hocr : ∀ key confidence, (db.rebuilt eventId).OcrEvidence eventId key confidence ↔
      db.OcrEvidence eventId key confidence := by
    intro key confidence
    rw [hframe]
    rfl
  have hevents : ∀ row ∈ (db.rebuilt eventId).photoParticipantMatches.rows,
      row.eventId = eventId → db.photoEvent? row.photoId = some eventId := by
    intro row hrow hevent
    have hphoto := hrebuilt row hrow
    change (db.rebuilt eventId).photoEvent? row.photoId = some row.eventId at hphoto
    rw [hframe, hevent] at hphoto
    exact hphoto
  constructor
  case unsupported =>
    intro row hrow hevent hnone
    have hphoto := hevents row hrow hevent
    have hface : row.matchSource = .face := by
      by_contra hnot
      obtain ⟨confidence, hevidence⟩ := exists_ocrEvidence_of_rebuilt h.matchScopes hrow hphoto hnot
      exact hnone confidence ((hocr row.key confidence).mpr hevidence)
    obtain ⟨hkept, hunread⟩ := of_face_rebuilt hrow hface
    obtain ⟨stored, hstored, hevent', hconfidence, hsource⟩ := of_get?_withoutOcr hkept
    have hbacked : stored.matchSource ≠ .ocr := by
      rcases hsource with ⟨-, hsource⟩ | ⟨hsource, -⟩
      · rw [hsource (hevent'.trans hevent)]
        exact MatchSource.noConfusion
      · rw [hsource]
        exact MatchSource.noConfusion
    obtain ⟨similarity, hsimilarity⟩ := h.backed.backed row.key stored hstored hbacked
    obtain ⟨stored', best, hstored', -, hbest, -⟩ :=
      h.backed.recorded row.key similarity hsimilarity
    rw [Option.some.inj (hstored'.symm.trans hstored)] at hbest
    refine ⟨hface, best, hconfidence.symm.trans hbest, ?_⟩
    rw [hfaces]
    refine ⟨?_, fun other hother => h.backed.le_confidence hstored hbest hother⟩
    rcases h.of_reaches hreaches hkept hevent (hconfidence.symm.trans hbest) with
      hrecorded | ⟨c', -, hevidence⟩
    · exact hrecorded
    · exact absurd hevidence (hunread hphoto (some c'))
  case current =>
    intro row hrow hevent c hc
    rw [hfaces, hocr]
    rcases of_confidence_rebuilt hrow hc with hkept | hevidence
    · have hphoto := hevents row hrow hevent
      obtain ⟨kept, hkept, hkeptc⟩ := Option.bind_eq_some_iff.mp hkept
      have hscope := eventId_of_key (h.matchScopes.withoutOcr eventId) hkept
      have hkeptEvent : kept.eventId = eventId :=
        Option.some.inj (hscope.symm.trans hphoto)
      rcases h.of_reaches hreaches hkept hkeptEvent hkeptc with hrecorded | ⟨c', hge, hevidence⟩
      · exact Or.inl hrecorded
      · obtain ⟨row', c'', hrow', hc'', hle⟩ :=
          le_confidence_rebuilt (Or.inr ⟨hphoto, hevidence⟩)
        rw [Option.some.inj (hrow'.symm.trans (Table.mem_iff_get?.mp hrow)), hc] at hc''
        rw [← Option.some.inj hc''] at hle
        rw [le_antisymm hge hle]
        exact Or.inr hevidence
    · exact Or.inr hevidence

/-- Where a rebuild leaves current evidence only, no match had a confidence above all evidence for
it. -/
theorem reaches_of_current (h : db.EvidenceSound)
    (hcurrent : (db.rebuilt eventId).CurrentEvidence eventId) : db.EvidenceReaches eventId := by
  intro row hrow hevent hboth c hc
  have hget := Table.mem_iff_get?.mp hrow
  have hkept : ((db.withoutOcr eventId).photoParticipantMatches.get? row.key).bind
      (·.confidence) = some c := by
    rw [get?_withoutOcr, hget, Option.bind_some, if_pos hevent, PhotoParticipantMatch.dropped,
      hboth]
    exact hc
  obtain ⟨after, c', hafter, hc', hle⟩ := le_confidence_rebuilt (Or.inl hkept)
  obtain ⟨hmem, hkey⟩ := Table.get?_eq_some_iff.mp hafter
  have hscope := eventId_of_key (h.matchScopes.rebuilt eventId) hafter
  change (db.rebuilt eventId).photoEvent? row.photoId = some after.eventId at hscope
  have hafterEvent : after.eventId = eventId := by
    rw [rebuilt_eq] at hscope
    have hphoto := h.matchScopes row hrow
    rw [hevent] at hphoto
    exact Option.some.inj (hscope.symm.trans hphoto)
  have hevidence := hcurrent.current after hmem hafterEvent c' hc'
  rw [hkey, rebuilt_eq] at hevidence
  exact ⟨c', hle, hevidence⟩

/-- A rebuild that leaves current evidence only keeps the tables together. -/
theorem rebuilt (h : db.EvidenceSound)
    (hcurrent : (db.rebuilt eventId).CurrentEvidence eventId) :
    (db.rebuilt eventId).EvidenceSound := by
  have hunmixed : FaceExact (db.rebuilt eventId).photoParticipantMatches
      db.faceParticipantMatches := by
    intro key row hrow hface
    obtain ⟨hmem, rfl⟩ := Table.get?_eq_some_iff.mp hrow
    obtain ⟨hkept, hunread⟩ := of_face_rebuilt hmem hface
    by_cases hevent : row.eventId = eventId
    · have hphoto := eventId_of_key (h.matchScopes.withoutOcr eventId) hkept
      change db.photoEvent? row.photoId = some row.eventId at hphoto
      rw [hevent] at hphoto
      obtain ⟨-, best, hbest, hgreatest⟩ := hcurrent.unsupported row hmem hevent (by
        rw [rebuilt_eq]
        exact hunread hphoto)
      rw [rebuilt_eq] at hgreatest
      exact ⟨best, hbest, hgreatest.1⟩
    · obtain ⟨stored, hstored, hevent', -, ⟨rfl, -⟩ | ⟨-, hhere⟩⟩ := of_get?_withoutOcr hkept
      · exact h.unmixed row.key row hstored hface
      · exact absurd (hevent'.symm.trans hhere) hevent
  have hbacked : FaceBacked (db.withoutOcr eventId).photoParticipantMatches
      db.faceParticipantMatches := by
    constructor
    case recorded =>
      intro key similarity hsimilarity
      obtain ⟨stored, c, hstored, hface, hc, hle⟩ := h.backed.recorded key similarity hsimilarity
      rw [get?_withoutOcr, hstored, Option.bind_some]
      split
      · rw [PhotoParticipantMatch.dropped]
        cases hsource : stored.matchSource with
        | ocr => exact absurd hsource hface
        | ocrFace => exact ⟨_, c, rfl, MatchSource.noConfusion, hc, hle⟩
        | face => exact ⟨stored, c, rfl, hface, hc, hle⟩
      · exact ⟨stored, c, rfl, hface, hc, hle⟩
    case backed =>
      intro key row hrow hface
      obtain ⟨stored, hstored, -, -, ⟨rfl, -⟩ | ⟨hboth, -⟩⟩ := of_get?_withoutOcr hrow
      · exact h.backed.backed key row hstored hface
      · refine h.backed.backed key stored hstored ?_
        rw [hboth]
        exact MatchSource.noConfusion
  have hscopes := h.matchScopes.rebuilt eventId
  change (db.rebuilt eventId).MatchesScoped at hscopes
  rw [rebuilt_eq] at hscopes hunmixed ⊢
  exact ⟨hscopes, h.faceScopes, h.detected, hbacked.upsertedOcr rebuiltRows_ocr, hunmixed⟩

end Database.EvidenceSound

end RaceFrame
