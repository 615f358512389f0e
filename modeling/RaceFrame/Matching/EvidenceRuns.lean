import RaceFrame.Matching.CurrentEvidence
import RaceFrame.Roster.Erasure

/-!
# Runs with rebuilds

OCR completions, enrolments, roster edits and deletions of participants, each
followed by a rebuild of an event. Every operation keeps the two match tables
together, and so does a rebuild that leaves current evidence only.
-/

namespace RaceFrame

open Core

variable {F : Type} [Scalar F]

/-- The operations that change the evidence of an event or its roster. -/
inductive EvidenceCall (F : Type)
  | ocr (completion : OcrCompletion F)
  | enrol (job : Job F) (eventId participantId faceImageId : Uuid) (result : EmbeddingResult F)
  | roster (call : RosterCall)
  | deleteParticipant (participant : Participant)
  | deleteAllParticipants (eventId : Uuid)

/-- What an operation leaves committed. -/
def EvidenceCall.serve (cfg : Settings F) (lower : Text → Text) (world : World)
    (db : Database F) : EvidenceCall F → Database F
  | ocr completion => completion.serve world db
  | enrol job eventId participantId faceImageId result =>
    (Request.serve world
      (completeParticipantFaceJob cfg job eventId participantId faceImageId result) db).2
  | roster call => (call.serve lower world db).2
  | deleteParticipant participant =>
    (Request.serve world (RaceFrame.deleteParticipant participant) db).2
  | deleteAllParticipants eventId =>
    (Request.serve world (RaceFrame.deleteAllParticipants eventId) db).2

/-! ## One operation -/

namespace Database.EvidenceSound

variable {db : Database F}

/-- Soundness is about the photos, the detections and the two match tables. -/
theorem of_eq {db' : Database F} (h : db.EvidenceSound)
    (hevents : ∀ photoId, db'.photoEvent? photoId = db.photoEvent? photoId)
    (hdetections : db'.photoFaceDetections = db.photoFaceDetections)
    (hmatches : db'.photoParticipantMatches = db.photoParticipantMatches)
    (hfaces : db'.faceParticipantMatches = db.faceParticipantMatches) : db'.EvidenceSound where
  matchScopes := by
    intro row hrow
    rw [hmatches] at hrow
    rw [hevents]
    exact h.matchScopes row hrow
  faceScopes := by
    intro detection hdetection
    rw [hdetections] at hdetection
    rw [hevents]
    exact h.faceScopes detection hdetection
  detected := by
    intro detection hdetection
    rw [hdetections] at hdetection
    rw [hfaces]
    exact h.detected detection hdetection
  backed := by
    rw [hmatches, hfaces]
    exact h.backed
  unmixed := by
    rw [hmatches, hfaces]
    exact h.unmixed

/-- Without matches the tables are together. -/
theorem of_none (hmatches : db.photoParticipantMatches.rows = [])
    (hfaces : db.faceParticipantMatches.rows = [])
    (hscopes : ∀ detection ∈ db.photoFaceDetections.rows,
      db.photoEvent? detection.photoId = some detection.eventId) : db.EvidenceSound := by
  have hnone : ∀ key, db.photoParticipantMatches.get? key = none := by
    intro key
    rw [Table.get?, hmatches]
    rfl
  refine ⟨?_, hscopes, ?_, ⟨?_, ?_⟩, ?_⟩
  · intro row hrow
    rw [hmatches] at hrow
    exact absurd hrow List.not_mem_nil
  · intro detection _ row hrow
    rw [hfaces] at hrow
    exact absurd hrow List.not_mem_nil
  · rintro key similarity ⟨row, hrow, -⟩
    rw [hfaces] at hrow
    exact absurd hrow List.not_mem_nil
  · intro key row hrow
    rw [hnone] at hrow
    cases hrow
  · intro key row hrow
    rw [hnone] at hrow
    cases hrow

/-- The OCR matches of a photo keep the tables together. -/
theorem upsertOcrMatches (h : db.EvidenceSound) {photo : Photo}
    (hphoto : db.photoEvent? photo.id = some photo.eventId)
    (normalizeMatchToken : Text → Text) (extractMatchCandidates : Text → List Text)
    (participants : List Participant) (detections : List (PhotoTextDetection F)) :
    (db.upsertMatches (ocrMatches normalizeMatchToken extractMatchCandidates photo participants
      detections)).EvidenceSound := by
  have hscopes := @Database.MatchesScoped.upsertOcrMatches F normalizeMatchToken
    extractMatchCandidates _ db h.matchScopes photo hphoto participants detections
  have hrows : ∀ row ∈ ocrMatches normalizeMatchToken extractMatchCandidates photo participants
      detections, row.matchSource = .ocr := fun row hrow => (of_mem_ocrMatches hrow).2.2
  rw [Database.upsertMatches_eq] at hscopes ⊢
  exact ⟨hscopes, h.faceScopes, h.detected, h.backed.upsertedOcr hrows,
    fun key row hrow hface => h.unmixed key row (get?_of_upsertedOcr hrows hrow hface) hface⟩

/-- A face that is recorded keeps the tables together. -/
theorem recordFaceMatch (h : db.EvidenceSound) {detection : PhotoFaceDetection F}
    (hdetection : detection ∈ db.photoFaceDetections.rows) (entry : Uuid × F) :
    (db.recordFaceMatch detection entry).EvidenceSound := by
  have hdetected := h.detected detection hdetection
  constructor
  case matchScopes =>
    have hstart : (db.upsertFaceMatch (faceMatch detection entry.1 entry.2)).MatchesScoped :=
      h.matchScopes
    have hrows : ∀ row ∈ [faceEvidence detection entry.1 entry.2],
        row.photoId = detection.photoId ∧ row.eventId = detection.eventId := by
      intro row hrow
      rw [List.mem_singleton.mp hrow]
      exact ⟨rfl, rfl⟩
    exact hstart.upsertMatches (h.faceScopes detection hdetection) hrows
  case faceScopes => exact h.faceScopes
  case detected =>
    intro other hother
    refine hdetected.upsert (h.detected other hother) fun hid => ?_
    rw [Table.eq_of_key_eq hdetection hother hid]
  case backed => exact h.backed.upsertFace hdetected rfl rfl rfl
  case unmixed => exact h.unmixed.upsertFace h.backed hdetected rfl rfl

/-- An enrolment keeps the tables together. -/
theorem matchParticipant (h : db.EvidenceSound) (cfg : Settings F) (participantId eventId : Uuid) :
    (db.matchParticipant cfg participantId eventId).EvidenceSound := by
  rw [Database.matchParticipant]
  generalize (db.participantFaceEmbeddings.rows.filter fun e =>
    e.eventId == eventId && e.participantId == participantId) = embeddings
  have hlisted : ∀ detection ∈ db.photoFaceDetections.rows.filter fun d => d.eventId == eventId,
      detection ∈ db.photoFaceDetections.rows := fun _ hd => List.mem_of_mem_filter hd
  generalize (db.photoFaceDetections.rows.filter fun d => d.eventId == eventId) = detections
    at hlisted ⊢
  have hentries : ∀ (entries : List (Uuid × F)) (db' : Database F), db'.EvidenceSound →
      ∀ detection ∈ db'.photoFaceDetections.rows,
      (entries.foldl (fun db entry => db.recordFaceMatch detection entry) db').EvidenceSound ∧
        (entries.foldl (fun db entry => db.recordFaceMatch detection entry)
          db').photoFaceDetections = db'.photoFaceDetections := by
    intro entries
    induction entries with
    | nil => exact fun db' h' _ _ => ⟨h', rfl⟩
    | cons entry entries ih =>
      intro db' h' detection hdetection
      exact ih _ (h'.recordFaceMatch hdetection entry) detection hdetection
  induction detections generalizing db with
  | nil => exact h
  | cons detection detections ih =>
    obtain ⟨hsound, hsame⟩ := hentries (bestByParticipant cfg detection embeddings).rows db h
      detection (hlisted detection List.mem_cons_self)
    refine ih hsound fun other hother => ?_
    have hmem := hlisted other (List.mem_cons_of_mem detection hother)
    rw [← hsame] at hmem
    exact hmem

/-- An OCR completion keeps the tables together. -/
theorem serveOcr (h : db.EvidenceSound) (world : World) (completion : OcrCompletion F) :
    (completion.serve world db).EvidenceSound := by
  cases hphoto : db.photos.get? completion.photoId with
  | none =>
    rw [OcrCompletion.serve_of_none hphoto]
    exact h
  | some photo =>
    obtain ⟨-, hcommitted⟩ := run_completePhotoOcrJob (s := Session.sessionLocal world db) hphoto
      completion.job completion.detections completion.rawResponseJson
    change completion.serve world db = _ at hcommitted
    have hevent := photoEvent?_of_mem (Table.mem_of_get? hphoto)
    obtain ⟨-, -, -, hevents⟩ := OcrCompletion.serve_of_some world hphoto
    have hstored : (db.storeTextDetections completion.job
        (storedTextDetections photo completion.job completion.detections)).EvidenceSound :=
      h.of_eq (fun _ => rfl) rfl rfl rfl
    have hmatched := hstored.upsertOcrMatches hevent Face.normalizeMatchToken
      Face.extractMatchCandidates (db.participantsOf photo.eventId)
      (storedTextDetections photo completion.job completion.detections)
    refine hmatched.of_eq (fun photoId => ?_) ?_ ?_ ?_
    · rw [hevents, upsertMatches_eq_setPhotoMatches]
      rfl
    all_goals
      rw [hcommitted]
      simp only [Database.finishPhotoJob, Database.markPhoto]
      split <;> rfl

/-- An enrolment keeps the tables together. -/
theorem serveEnrol (h : db.EvidenceSound) (cfg : Settings F) (world : World) (job : Job F)
    (eventId participantId faceImageId : Uuid) (result : EmbeddingResult F) :
    (Request.serve world (completeParticipantFaceJob cfg job eventId participantId faceImageId
      result) db).2.EvidenceSound := by
  rcases run_completeParticipantFaceJob cfg (Session.sessionLocal world db) job eventId
    participantId faceImageId result with ⟨-, hcommitted⟩ | ⟨rows, -, -, -, hcommitted⟩
  · rw [Request.serve, hcommitted]
    exact h
  · rw [Request.serve, hcommitted]
    have hstart : (((db.setFaceImage faceImageId .ready none).putJob (completedJob job
        (compactWorkerDiagnostics result.rawResponseJson [("face_count", .int 1)])
        (world.clock 0))).setFaceEmbeddings rows).EvidenceSound :=
      h.of_eq (fun _ => rfl) rfl rfl rfl
    exact hstart.matchParticipant cfg participantId eventId

/-- The deletion of some participants keeps the tables together. -/
theorem erased {db' : Database F} (h : db.EvidenceSound) {ids : Set Uuid}
    (herased : (db.participantTraces ids).ErasedFrom db db') : db'.EvidenceSound := by
  have hphotos : db'.photos.rows = db.photos.rows :=
    herased.photos.eq_of_none fun _ _ hfalse => hfalse
  have hdetections : db'.photoFaceDetections.rows = db.photoFaceDetections.rows :=
    herased.faceDetections.eq_of_none fun _ _ hfalse => hfalse
  have hevents : ∀ photoId, db'.photoEvent? photoId = db.photoEvent? photoId := by
    intro photoId
    rw [Database.photoEvent?, Table.get?, hphotos]
    rfl
  have hmatches : ∀ key row, db'.photoParticipantMatches.get? key = some row ↔
      db.photoParticipantMatches.get? key = some row ∧ row.participantId ∉ ids := by
    intro key row
    rw [Table.get?_eq_some_iff, Table.get?_eq_some_iff, herased.photoMatches.mem_iff]
    exact and_right_comm
  have hfaces : ∀ key similarity, FaceEvidence db'.faceParticipantMatches key similarity ↔
      FaceEvidence db.faceParticipantMatches key similarity ∧ key.2 ∉ ids := by
    intro key similarity
    constructor
    · rintro ⟨row, hrow, rfl, rfl⟩
      obtain ⟨hold, hout⟩ := herased.faceMatches.mem_iff.mp hrow
      exact ⟨⟨row, hold, rfl, rfl⟩, hout⟩
    · rintro ⟨⟨row, hrow, rfl, rfl⟩, hout⟩
      exact ⟨row, herased.faceMatches.mem_iff.mpr ⟨hrow, hout⟩, rfl, rfl⟩
  constructor
  case matchScopes =>
    intro row hrow
    rw [hevents]
    exact h.matchScopes row (herased.photoMatches.mem_iff.mp hrow).1
  case faceScopes =>
    intro detection hdetection
    rw [hdetections] at hdetection
    rw [hevents]
    exact h.faceScopes detection hdetection
  case detected =>
    intro detection hdetection row hrow
    rw [hdetections] at hdetection
    exact h.detected detection hdetection row (herased.faceMatches.mem_iff.mp hrow).1
  case backed =>
    constructor
    case recorded =>
      intro key similarity hsimilarity
      obtain ⟨hold, hout⟩ := (hfaces key similarity).mp hsimilarity
      obtain ⟨row, c, hrow, hface, hc, hle⟩ := h.backed.recorded key similarity hold
      have hparticipant : row.participantId = key.2 := congrArg Prod.snd (Table.get?_key hrow)
      rw [← hparticipant] at hout
      exact ⟨row, c, (hmatches key row).mpr ⟨hrow, hout⟩, hface, hc, hle⟩
    case backed =>
      intro key row hrow hface
      obtain ⟨hold, hout⟩ := (hmatches key row).mp hrow
      obtain ⟨similarity, hsimilarity⟩ := h.backed.backed key row hold hface
      have hparticipant : row.participantId = key.2 := congrArg Prod.snd (Table.get?_key hold)
      rw [hparticipant] at hout
      exact ⟨similarity, (hfaces key similarity).mpr ⟨hsimilarity, hout⟩⟩
  case unmixed =>
    intro key row hrow hface
    obtain ⟨hold, hout⟩ := (hmatches key row).mp hrow
    obtain ⟨c, hc, hrecorded⟩ := h.unmixed key row hold hface
    have hparticipant : row.participantId = key.2 := congrArg Prod.snd (Table.get?_key hold)
    rw [hparticipant] at hout
    exact ⟨c, hc, (hfaces key c).mpr ⟨hrecorded, hout⟩⟩

/-- Every operation keeps the tables together. -/
theorem serve (h : db.EvidenceSound) (cfg : Settings F) (lower : Text → Text) (world : World)
    (call : EvidenceCall F) : (call.serve cfg lower world db).EvidenceSound := by
  cases call with
  | ocr completion => exact h.serveOcr world completion
  | enrol job eventId participantId faceImageId result =>
    exact h.serveEnrol cfg world job eventId participantId faceImageId result
  | roster call =>
    change (call.serve lower world db).2.EvidenceSound
    rcases RosterCall.serve_edits lower world call db with hsame | ⟨participants, hsame, -⟩
    · rw [hsame]
      exact h
    · rw [hsame]
      exact h.of_eq (fun _ => rfl) rfl rfl rfl
  | deleteParticipant participant =>
    obtain ⟨keys, db', hserved, herased⟩ := deleteParticipant_erases world db participant
    change (Request.serve world (RaceFrame.deleteParticipant participant) db).2.EvidenceSound
    rw [hserved]
    exact h.erased herased
  | deleteAllParticipants eventId =>
    obtain ⟨answer, db', hserved, herased⟩ := deleteAllParticipants_erases world db eventId
    change (Request.serve world (RaceFrame.deleteAllParticipants eventId) db).2.EvidenceSound
    rw [hserved]
    exact h.erased herased

end Database.EvidenceSound

/-! ## Runs -/

/-- An operation, and the rebuild that follows it. -/
structure EvidenceTurn (F : Type) where
  world : World
  call : EvidenceCall F
  rebuildWorld : World

namespace EvidenceTurn

variable (cfg : Settings F) (lower : Text → Text) (eventId : Uuid)

/-- The database in which the rebuild of a turn starts. -/
def served (db : Database F) (turn : EvidenceTurn F) : Database F :=
  turn.call.serve cfg lower turn.world db

/-- The database after a turn. -/
def ended (db : Database F) (turn : EvidenceTurn F) : Database F :=
  (Request.serve turn.rebuildWorld (rebuildEventPhotoMatches eventId)
    (turn.served cfg lower db)).2

/-- The matches of the event carry current evidence only after every rebuild. -/
def CurrentThroughout : Database F → List (EvidenceTurn F) → Prop
  | _, [] => True
  | db, turn :: turns =>
    (turn.ended cfg lower eventId db).CurrentEvidence eventId ∧
      CurrentThroughout (turn.ended cfg lower eventId db) turns

/-- No match of the event with both sources has a confidence above all evidence for it, before any
rebuild. -/
def ReachesThroughout : Database F → List (EvidenceTurn F) → Prop
  | _, [] => True
  | db, turn :: turns =>
    (turn.served cfg lower db).EvidenceReaches eventId ∧
      ReachesThroughout (turn.ended cfg lower eventId db) turns

variable {cfg lower eventId}

/-- In a run from sound tables the rebuilds leave current evidence only exactly when no match had a
confidence above all evidence for it. -/
theorem currentThroughout_iff_of_sound {db : Database F} (h : db.EvidenceSound)
    (turns : List (EvidenceTurn F)) :
    CurrentThroughout cfg lower eventId db turns ↔
      ReachesThroughout cfg lower eventId db turns := by
  induction turns generalizing db with
  | nil => exact Iff.rfl
  | cons turn turns ih =>
    have hserved : (turn.served cfg lower db).EvidenceSound :=
      h.serve cfg lower turn.world turn.call
    have hended : turn.ended cfg lower eventId db = (turn.served cfg lower db).rebuilt eventId :=
      serve_rebuildEventPhotoMatches turn.rebuildWorld _ eventId
    have hiff : (turn.ended cfg lower eventId db).CurrentEvidence eventId ↔
        (turn.served cfg lower db).EvidenceReaches eventId := by
      rw [hended]
      exact ⟨hserved.reaches_of_current, hserved.rebuilt_current⟩
    rw [CurrentThroughout, ReachesThroughout, hiff]
    refine and_congr_right fun hreaches => ih ?_
    have hcurrent := hiff.mpr hreaches
    rw [hended] at hcurrent ⊢
    exact hserved.rebuilt hcurrent

end EvidenceTurn

/-- In every run from a database without matches, the rebuilds leave current evidence only exactly
when no match with both sources had a confidence above all evidence for it. -/
theorem currentThroughout_iff (cfg : Settings F) (lower : Text → Text) (eventId : Uuid)
    {db : Database F} (hmatches : db.photoParticipantMatches.rows = [])
    (hfaces : db.faceParticipantMatches.rows = [])
    (hscopes : ∀ detection ∈ db.photoFaceDetections.rows,
      db.photoEvent? detection.photoId = some detection.eventId)
    (turns : List (EvidenceTurn F)) :
    EvidenceTurn.CurrentThroughout cfg lower eventId db turns ↔
      EvidenceTurn.ReachesThroughout cfg lower eventId db turns :=
  EvidenceTurn.currentThroughout_iff_of_sound (.of_none hmatches hfaces hscopes) turns

/-! ## A runner who is renumbered -/

/-- An event with one runner, and one photo with a face. -/
def unreadEvent : Database ℚ :=
  { Database.empty with
    participants := ⟨[⟨5, 7, "12".toList, "Eve".toList, "12".toList, "eve".toList⟩], by decide⟩
    photos := ⟨[⟨1, 7, ['k'], ['f'], ['t'], .processing, 0⟩], by decide⟩
    photoFaceDetections := ⟨[⟨3, 7, 1, 4, 0, 4 / 5 :: 3 / 5 :: List.replicate 510 0, none, none,
      none⟩], by decide⟩
    participantFaceImages := ⟨[⟨8, 7, 5, ['s'], ['f'], ['t'], .processing, none⟩], by decide⟩ }

/-- The selfie of the runner is enrolled. -/
def enrolTurn : EvidenceTurn ℚ where
  world := World.still 0 fun _ => 0
  call := .enrol (.queued 9 (.participantFace 7 5 8) 3 0) 7 5 8
    ⟨firstUnit ℚ, none, none, none, none⟩
  rebuildWorld := World.still 0 fun _ => 0

/-- The bib is read on the photo. -/
def readTurn : EvidenceTurn ℚ where
  world := World.still 0 fun _ => 0
  call := .ocr ⟨.queued 2 (.photo 1 .ocr) 3 0, 1,
    [⟨"12".toList, "12".toList, some (95 / 100), none⟩], none⟩
  rebuildWorld := World.still 0 fun _ => 0

/-- The runner gets another bib. -/
def renumberTurn : EvidenceTurn ℚ where
  world := World.still 0 fun _ => 0
  call := .roster (.update 7 5 "13".toList "Eve".toList)
  rebuildWorld := World.still 0 fun _ => 0

/-- The event after a run. -/
def eventAfter (turns : List (EvidenceTurn ℚ)) : Database ℚ :=
  turns.foldl (fun db turn => turn.ended (Settings.environment ℚ) id 7 db) unreadEvent

private theorem unreadEvent_scopes : ∀ detection ∈ unreadEvent.photoFaceDetections.rows,
    unreadEvent.photoEvent? detection.photoId = some detection.eventId := by
  decide +kernel

/-- The bib is read on the photo with less confidence than the face has. -/
def faintReadTurn : EvidenceTurn ℚ where
  world := World.still 0 fun _ => 0
  call := .ocr ⟨.queued 2 (.photo 1 .ocr) 3 0, 1,
    [⟨"12".toList, "12".toList, some (70 / 100), none⟩], none⟩
  rebuildWorld := World.still 0 fun _ => 0

private theorem reaches_of_faces {db : Database ℚ} {eventId : Uuid}
    (h : ∀ row ∈ db.photoParticipantMatches.rows, ∃ face ∈ db.faceParticipantMatches.rows,
      (face.photoId, face.participantId) = row.key ∧ row.confidence = some face.similarityScore) :
    db.EvidenceReaches eventId := by
  intro row hrow _ _ c hc
  obtain ⟨face, hface, hkey, hconfidence⟩ := h row hrow
  obtain rfl := Option.some.inj (hconfidence.symm.trans hc)
  exact ⟨face.similarityScore, le_refl _, Or.inl ⟨face, hface, hkey, rfl⟩⟩

/-- The selfie is enrolled before the bib is read with less confidence and the runner renumbered:
the match has both sources, then only the face, and always the similarity of the face. -/
theorem readRunner_current :
    [[enrolTurn], [enrolTurn, faintReadTurn], [enrolTurn, faintReadTurn, renumberTurn]].map
        (fun turns => (eventAfter turns).photoParticipantMatches.rows.map fun row =>
          (row.matchSource, row.confidence)) =
      [[(.face, some (4 / 5))], [(.ocrFace, some (4 / 5))], [(.face, some (4 / 5))]] ∧
    EvidenceTurn.CurrentThroughout (Settings.environment ℚ) id 7 unreadEvent
      [enrolTurn, faintReadTurn, renumberTurn] := by
  refine ⟨by decide +kernel, (currentThroughout_iff (Settings.environment ℚ) id 7 rfl rfl
    unreadEvent_scopes [enrolTurn, faintReadTurn, renumberTurn]).mpr ⟨reaches_of_faces ?_,
      reaches_of_faces ?_, reaches_of_faces ?_, trivial⟩⟩
  · decide +kernel
  · decide +kernel
  · decide +kernel

/-- After an enrolled runner has got another bib, the match keeps the confidence of the old one,
which neither the face nor a text of the photo supports. -/
theorem enrolledRunner_not_current :
    (unreadEvent.photoParticipantMatches.rows = [] ∧ unreadEvent.faceParticipantMatches.rows = [] ∧
      ∀ detection ∈ unreadEvent.photoFaceDetections.rows,
        unreadEvent.photoEvent? detection.photoId = some detection.eventId) ∧
      (eventAfter [enrolTurn, readTurn, renumberTurn]).photoParticipantMatches.rows =
        [⟨7, 1, 5, .face, "face-preserved-after-ocr-rebuild".toList, some (95 / 100)⟩] ∧
      (eventAfter [enrolTurn, readTurn, renumberTurn]).faceParticipantMatches.rows.map
        (·.similarityScore) = [4 / 5] ∧
      ¬EvidenceTurn.CurrentThroughout (Settings.environment ℚ) id 7 unreadEvent
        [enrolTurn, readTurn, renumberTurn] := by
  have hrows : (eventAfter [enrolTurn, readTurn, renumberTurn]).photoParticipantMatches.rows =
      [⟨7, 1, 5, .face, "face-preserved-after-ocr-rebuild".toList, some (95 / 100)⟩] := by
    decide +kernel
  have hsimilarities : (eventAfter [enrolTurn, readTurn,
      renumberTurn]).faceParticipantMatches.rows.map (·.similarityScore) = [4 / 5] := by
    decide +kernel
  have hunread : (eventAfter [enrolTurn, readTurn, renumberTurn]).rebuiltRows
      ((eventAfter [enrolTurn, readTurn, renumberTurn]).photosNewestFirst 7) = [] := by
    decide +kernel
  have hphoto : (eventAfter [enrolTurn, readTurn, renumberTurn]).photoEvent? 1 = some 7 := by
    decide +kernel
  refine ⟨⟨rfl, rfl, unreadEvent_scopes⟩, hrows, hsimilarities, fun hthroughout => ?_⟩
  have hcurrent : (eventAfter [enrolTurn, readTurn, renumberTurn]).CurrentEvidence 7 :=
    hthroughout.2.2.1
  generalize eventAfter [enrolTurn, readTurn, renumberTurn] = db at *
  have hmem : ⟨7, 1, 5, .face, "face-preserved-after-ocr-rebuild".toList, some (95 / 100)⟩ ∈
      db.photoParticipantMatches.rows := by
    rw [hrows]
    exact List.mem_singleton_self _
  rcases hcurrent.current _ hmem rfl (95 / 100) rfl with ⟨row, hrow, -, hsimilarity⟩ | hevidence
  · have hlisted := List.mem_map_of_mem (f := fun row => row.similarityScore) hrow
    rw [hsimilarities, List.mem_singleton, hsimilarity] at hlisted
    norm_num at hlisted
  · obtain ⟨row, hrow, -⟩ := exists_rebuiltRow_iff.mpr ⟨hphoto, hevidence⟩
    rw [hunread] at hrow
    exact List.not_mem_nil hrow

end RaceFrame
