import RaceFrame.Core.Erasure
import RaceFrame.Matching.FaceJoin

/-!
# Orders of face jobs

An enrolment joins its participant with every stored face; a scan adds faces
whose pairs are missed until the participant is enrolled once more. Whatever the
order, the stored faces and embeddings are the same, so two orders leave the same
matches as soon as both leave the full join.
-/

namespace RaceFrame

open Core

variable {F : Type} [Scalar F] {cfg : Settings F} {db : Database F}

/-! ## Scores -/

/-- A face reaches the threshold for a participant with one of the embeddings of its event. -/
theorem reachedScores_ne_nil_iff {detection : PhotoFaceDetection F} {participantId : Uuid} :
    db.reachedScores cfg detection participantId ≠ [] ↔
      ∃ e ∈ db.participantFaceEmbeddings.rows, e.eventId = detection.eventId ∧
        e.participantId = participantId ∧ cfg.faceMatchSimilarityThreshold ≤
          cosineSimilarity detection.embeddingJson e.embeddingJson := by
  have hmem : ∀ score, score ∈ db.reachedScores cfg detection participantId ↔
      (∃ e, (e ∈ db.participantFaceEmbeddings.rows ∧ e.eventId = detection.eventId ∧
        e.participantId = participantId) ∧
          cosineSimilarity detection.embeddingJson e.embeddingJson = score) ∧
        cfg.faceMatchSimilarityThreshold ≤ score := by
    intro score
    simp only [Database.reachedScores, List.mem_filter, List.mem_map, Bool.and_eq_true,
      beq_iff_eq, decide_eq_true_eq]
  constructor
  · intro hne
    obtain ⟨score, hscore⟩ := List.exists_mem_of_ne_nil _ hne
    obtain ⟨⟨e, ⟨he, hevent, hparticipant⟩, rfl⟩, hreached⟩ := (hmem score).mp hscore
    exact ⟨e, he, hevent, hparticipant, hreached⟩
  · rintro ⟨e, he, hevent, hparticipant, hreached⟩
    exact List.ne_nil_of_mem ((hmem _).mpr ⟨⟨e, ⟨he, hevent, hparticipant⟩, rfl⟩, hreached⟩)

section NewEmbedding

variable {db' : Database F} {e : ParticipantFaceEmbedding F}
  (hrows : db'.participantFaceEmbeddings.rows = db.participantFaceEmbeddings.rows ++ [e])
  {detection : PhotoFaceDetection F} {participantId : Uuid}

include hrows

/-- A new embedding keeps the scores that reach the threshold. -/
theorem mem_reachedScores_of_mem {score : F}
    (h : score ∈ db.reachedScores cfg detection participantId) :
    score ∈ db'.reachedScores cfg detection participantId := by
  rw [Database.reachedScores, hrows, List.filter_append, List.map_append, List.filter_append]
  exact List.mem_append_left _ h

/-- A new embedding concerns the faces of its event and its participant only. -/
theorem reachedScores_of_other
    (hother : ¬(detection.eventId = e.eventId ∧ participantId = e.participantId)) :
    db'.reachedScores cfg detection participantId =
      db.reachedScores cfg detection participantId := by
  have hnone : [e].filter (fun e => e.eventId == detection.eventId &&
      e.participantId == participantId) = [] := by
    rw [List.filter_eq_nil_iff]
    intro e' he' hboth
    rw [List.mem_singleton.mp he', Bool.and_eq_true, beq_iff_eq, beq_iff_eq] at hboth
    exact hother ⟨hboth.1.symm, hboth.2.symm⟩
  rw [Database.reachedScores, hrows, List.filter_append, hnone, List.append_nil]
  rfl

end NewEmbedding

/-! ## One completion -/

/-- The faces that a completion stores. -/
def FaceCompletion.storedFaces (world : World) (db : Database F) :
    FaceCompletion F → List (PhotoFaceDetection F)
  | enrol .. => []
  | scan job photoId faceDetections _ =>
    match db.photos.get? photoId with
    | none => []
    | some photo => storedFaceDetections photo job
      ((List.range (usableFaces faceDetections).length).map world.uuids) faceDetections

/-- The embeddings that a completion stores. -/
def FaceCompletion.storedEmbeddings : FaceCompletion F → List (ParticipantFaceEmbedding F)
  | enrol _ eventId participantId faceImageId result =>
    [enrolledEmbedding eventId participantId faceImageId result]
  | scan .. => []

/-- An enrolment that is committed stores its embedding, then matches the participant. -/
theorem serve_enrol {world : World} {job : Job F} {eventId participantId faceImageId : Uuid}
    {result : EmbeddingResult F}
    (hok : ((FaceCompletion.enrol job eventId participantId faceImageId result).serve cfg world
      db).1 = .ok ()) :
    ∃ start : Database F,
      start.participantFaceEmbeddings.rows = db.participantFaceEmbeddings.rows ++
        [enrolledEmbedding eventId participantId faceImageId result] ∧
      start.photoFaceDetections = db.photoFaceDetections ∧
      start.faceParticipantMatches = db.faceParticipantMatches ∧
      start.photoParticipantMatches = db.photoParticipantMatches ∧
      start.photos = db.photos ∧
      ((FaceCompletion.enrol job eventId participantId faceImageId result).serve cfg world db).2 =
        start.matchParticipant cfg participantId eventId := by
  rcases run_completeParticipantFaceJob cfg (Session.sessionLocal world db) job eventId
    participantId faceImageId result with ⟨⟨e, he⟩, -⟩ | ⟨rows, -, hrows, -, hcommitted⟩
  · rw [FaceCompletion.serve, Request.serve, he] at hok
    cases hok
  · exact ⟨((db.setFaceImage faceImageId .ready none).putJob (completedJob job
      (compactWorkerDiagnostics result.rawResponseJson [("face_count", .int 1)])
      (world.clock 0))).setFaceEmbeddings rows, Table.rows_of_insert? hrows, rfl, rfl, rfl, rfl,
      hcommitted⟩

/-- A scan that is committed appends its faces. -/
theorem serve_scan {world : World} {job : Job F} {photoId : Uuid}
    {faceDetections : List (FaceDetectionPayload F)} {rawResponseJson : Option (JsonDict F)}
    (hok : ((FaceCompletion.scan job photoId faceDetections rawResponseJson).serve cfg world
      db).1 = .ok ())
    (hfresh : ∀ detection ∈ db.photoFaceDetections.rows, detection.photoJobId ≠ job.id) :
    let scanned :=
      ((FaceCompletion.scan job photoId faceDetections rawResponseJson).serve cfg world db).2
    ∃ photo, db.photos.get? photoId = some photo ∧
      scanned.photoFaceDetections.rows = db.photoFaceDetections.rows ++
        storedFaceDetections photo job
          ((List.range (usableFaces faceDetections).length).map world.uuids) faceDetections ∧
      scanned.participantFaceEmbeddings = db.participantFaceEmbeddings ∧
      scanned.faceParticipantMatches = db.faceParticipantMatches ∧
      scanned.photoParticipantMatches = db.photoParticipantMatches ∧
      ∀ photoId, scanned.photoEvent? photoId = db.photoEvent? photoId := by
  intro scanned
  have hnone : ∀ detection ∈ db.photoFaceDetections.rows,
      (detection.photoJobId == job.id) = false := fun detection hdetection =>
    beq_eq_false_iff_ne.mpr (hfresh detection hdetection)
  have hkept : db.photoFaceDetections.deleteWhere (fun d => d.photoJobId == job.id) =
      db.photoFaceDetections := Table.deleteWhere_of_none hnone
  have hgone : (db.photoFaceDetections.rows.filter fun d => d.photoJobId == job.id).map
      PhotoFaceDetection.id = [] := by
    rw [List.map_eq_nil_iff, List.filter_eq_nil_iff]
    exact fun detection hdetection => Bool.eq_false_iff.mp (hnone detection hdetection)
  rcases run_completePhotoFaceJob (Session.sessionLocal world db) photoId job faceDetections
    rawResponseJson with ⟨⟨e, he⟩, -⟩ | ⟨photo, rows, hphoto, hrows, -, hcommitted⟩
  · rw [FaceCompletion.serve, Request.serve, he] at hok
    cases hok
  · have hstored := Table.rows_of_insertAll? hrows
    rw [Database.deletePhotoFaceDetections_photoFaceDetections] at hstored
    change rows.rows = (db.photoFaceDetections.deleteWhere _).rows ++ _ at hstored
    rw [hkept] at hstored
    have hserved : scanned = _ := hcommitted
    have hfaces : (db.deletePhotoFaceDetections fun d =>
        d.photoJobId == job.id).faceParticipantMatches = db.faceParticipantMatches := by
      rw [Database.deletePhotoFaceDetections_faceParticipantMatches, hgone]
      exact Table.deleteWhere_contains_nil _ _
    refine ⟨photo, hphoto, ?_, ?_, ?_, ?_, fun photoId => ?_⟩
    · refine Eq.trans ?_ hstored
      rw [hserved]
      simp only [Database.finishPhotoJob, Database.markPhoto]
      split <;> rfl
    · rw [hserved]
      simp only [Database.finishPhotoJob, Database.markPhoto]
      split <;> rfl
    · rw [hserved, ← hfaces]
      simp only [Database.finishPhotoJob, Database.markPhoto]
      split <;> rfl
    · rw [hserved]
      simp only [Database.finishPhotoJob, Database.markPhoto]
      split <;> rfl
    · rw [hserved, (finishPhotoJob_frame _ _ _ _ _).2.2.2]
      rfl

/-! ## What a completion leaves missed -/

private theorem faceOnly_upsertedMatches
    {table : Table (PhotoParticipantMatch F) PhotoParticipantMatch.key}
    (h : ∀ key row, table.get? key = some row → row.matchSource = .face)
    {rows : List (PhotoParticipantMatch F)} (hrows : ∀ row ∈ rows, row.matchSource = .face) :
    ∀ key row, (upsertedMatches table rows).get? key = some row → row.matchSource = .face := by
  induction rows generalizing table with
  | nil => exact h
  | cons first rows ih =>
    have hfirst : first.clamped.matchSource = .face := hrows first List.mem_cons_self
    refine @ih (table.upsert mergeMatch first.clamped) ?_ fun row hrow =>
      hrows row (List.mem_cons_of_mem first hrow)
    intro key row hrow
    rw [get?_upsert_mergeMatch] at hrow
    split at hrow
    · cases hstored : table.get? key with
      | none =>
        rw [hstored] at hrow
        rw [← Option.some.inj hrow]
        exact hfirst
      | some stored =>
        rw [hstored] at hrow
        rw [← Option.some.inj hrow]
        exact mergedSource_eq_face_iff.mpr ⟨h key stored hstored, hfirst⟩
    · exact h key row hrow

private theorem stored_matchParticipant {participantId eventId : Uuid}
    (h : ∀ row ∈ db.faceParticipantMatches.rows,
      row.photoFaceDetectionId ∈ db.photoFaceDetections.rows.map PhotoFaceDetection.id)
    {row : FaceParticipantMatch F}
    (hrow : row ∈ (db.matchParticipant cfg participantId eventId).faceParticipantMatches.rows) :
    row.photoFaceDetectionId ∈ db.photoFaceDetections.rows.map PhotoFaceDetection.id := by
  have hscore := scoreOf_eq_some_iff.mpr ⟨row, hrow, rfl, rfl, rfl⟩
  rw [matchParticipant_eq] at hscore
  change scoreOf (upsertedFaceMatches _ _) _ = _ at hscore
  rw [scoreOf_upsertedFaceMatches] at hscore
  rcases List.mem_append.mp (List.max?_eq_some_iff.mp hscore).1 with hold | hnew
  · obtain ⟨old, hold, hid, -⟩ := scoreOf_eq_some_iff.mp (Option.mem_toList.mp hold)
    rw [← hid]
    exact h old hold
  · obtain ⟨added, hadded, -⟩ := List.mem_map.mp hnew
    obtain ⟨hadded, hkey⟩ := List.mem_filter.mp hadded
    obtain ⟨finding, hfinding, rfl⟩ := List.mem_map.mp hadded
    obtain ⟨detection, hdetection, hfinding⟩ := List.mem_flatMap.mp hfinding
    obtain ⟨entry, -, rfl⟩ := List.mem_map.mp hfinding
    have hid : detection.id = row.photoFaceDetectionId :=
      congrArg Prod.fst (of_decide_eq_true hkey)
    rw [← hid]
    exact List.mem_map_of_mem (List.mem_of_mem_filter hdetection)

namespace Database.FacesMatched

variable {missed : Uuid → Uuid → Prop}

/-- An enrolment matches the faces of its event with its participant. -/
theorem enrolled (h : db.FacesMatched cfg missed) {world : World} {job : Job F}
    {eventId participantId faceImageId : Uuid} {result : EmbeddingResult F}
    (hok : ((FaceCompletion.enrol job eventId participantId faceImageId result).serve cfg world
      db).1 = .ok ()) :
    ((FaceCompletion.enrol job eventId participantId faceImageId result).serve cfg world
      db).2.FacesMatched cfg fun detectionId otherId => missed detectionId otherId ∧
        ¬(otherId = participantId ∧ ∃ detection ∈ db.photoFaceDetections.rows,
          detection.id = detectionId ∧ detection.eventId = eventId) := by
  have hsound : ((FaceCompletion.enrol job eventId participantId faceImageId result).serve cfg
      world db).2.EvidenceSound :=
    h.sound.serveEnrol cfg world job eventId participantId faceImageId result
  obtain ⟨start, hembeddings, hdetections, hfaces, hmatches, -, hserved⟩ := serve_enrol hok
  rw [hserved] at hsound ⊢
  have hframe : (start.matchParticipant cfg participantId eventId).photoFaceDetections =
      start.photoFaceDetections := by
    rw [matchParticipant_eq]
  have hbest : ∀ detection otherId,
      (start.matchParticipant cfg participantId eventId).bestScore cfg detection otherId =
        start.bestScore cfg detection otherId := by
    intro detection otherId
    rw [matchParticipant_eq]
    rfl
  have hscore : ∀ detection ∈ db.photoFaceDetections.rows, ∀ otherId,
      scoreOf (start.matchParticipant cfg participantId eventId).faceParticipantMatches
          (detection.id, otherId) =
        if detection.eventId = eventId ∧ otherId = participantId then
          start.bestScore cfg detection otherId
        else scoreOf db.faceParticipantMatches (detection.id, otherId) := by
    intro detection hdetection otherId
    rw [← hfaces]
    refine scoreOf_matchParticipant (by rwa [hdetections]) fun score hrecorded => ?_
    rw [hfaces] at hrecorded
    have hreached := (h.reached hdetection hrecorded).2
    exact mem_reachedScores_of_mem hembeddings (List.max?_eq_some_iff.mp hreached).1
  have hhere : ∀ detection ∈ db.photoFaceDetections.rows, ∀ otherId,
      (otherId = participantId ∧ ∃ other ∈ db.photoFaceDetections.rows,
        other.id = detection.id ∧ other.eventId = eventId) ↔
        detection.eventId = eventId ∧ otherId = participantId := by
    intro detection hdetection otherId
    constructor
    · rintro ⟨hparticipant, other, hother, hid, hevent⟩
      rw [Table.eq_of_key_eq hother hdetection hid] at hevent
      exact ⟨hevent, hparticipant⟩
    · rintro ⟨hevent, hparticipant⟩
      exact ⟨hparticipant, detection, hdetection, rfl, hevent⟩
  constructor
  case sound => exact hsound
  case faceOnly =>
    rw [matchParticipant_eq]
    refine faceOnly_upsertedMatches ?_ fun row hrow => ?_
    · rw [hmatches]
      exact h.faceOnly
    · obtain ⟨finding, -, rfl⟩ := List.mem_map.mp hrow
      rfl
  case stored =>
    intro row hrow
    rw [hframe]
    refine stored_matchParticipant ?_ hrow
    rw [hfaces, hdetections]
    exact h.stored
  case hit =>
    intro detection hdetection otherId hjoined
    rw [hframe, hdetections] at hdetection
    rw [hhere detection hdetection] at hjoined
    rw [hbest, hscore detection hdetection]
    split
    next => rfl
    next hother =>
      have hnot : ¬missed detection.id otherId := fun hmissed => hjoined ⟨hmissed, hother⟩
      rw [h.hit detection hdetection otherId hnot, Database.bestScore, Database.bestScore,
        reachedScores_of_other hembeddings hother]
  case miss =>
    intro detection hdetection otherId hmissed
    rw [hframe, hdetections] at hdetection
    rw [hhere detection hdetection] at hmissed
    rw [hscore detection hdetection, if_neg hmissed.2]
    exact h.miss detection hdetection otherId hmissed.1

/-- A scan leaves every pair with a new face missed. -/
theorem scanned (h : db.FacesMatched cfg missed) {world : World} {job : Job F} {photoId : Uuid}
    {faceDetections : List (FaceDetectionPayload F)} {rawResponseJson : Option (JsonDict F)}
    (hok : ((FaceCompletion.scan job photoId faceDetections rawResponseJson).serve cfg world
      db).1 = .ok ())
    (hfresh : ∀ detection ∈ db.photoFaceDetections.rows, detection.photoJobId ≠ job.id) :
    ((FaceCompletion.scan job photoId faceDetections rawResponseJson).serve cfg world
      db).2.FacesMatched cfg fun detectionId otherId => missed detectionId otherId ∨
        detectionId ∉ db.photoFaceDetections.rows.map PhotoFaceDetection.id := by
  obtain ⟨photo, hphoto, hdetections, hembeddings, hfaces, hmatches, hevents⟩ :=
    serve_scan hok hfresh
  generalize ((FaceCompletion.scan job photoId faceDetections rawResponseJson).serve cfg world
    db).2 = scanned at hdetections hembeddings hfaces hmatches hevents ⊢
  have hbest : ∀ detection otherId,
      scanned.bestScore cfg detection otherId = db.bestScore cfg detection otherId := by
    intro detection otherId
    rw [Database.bestScore, Database.reachedScores, hembeddings]
    rfl
  have hold : ∀ detection ∈ scanned.photoFaceDetections.rows,
      detection.id ∈ db.photoFaceDetections.rows.map PhotoFaceDetection.id →
        detection ∈ db.photoFaceDetections.rows := by
    intro detection hdetection hid
    obtain ⟨old, hold, hsame⟩ := List.mem_map.mp hid
    have hlisted : old ∈ scanned.photoFaceDetections.rows := by
      rw [hdetections]
      exact List.mem_append_left _ hold
    rwa [← Table.eq_of_key_eq hlisted hdetection hsame]
  have hnew : ∀ detection ∈ scanned.photoFaceDetections.rows,
      detection ∉ db.photoFaceDetections.rows →
        detection.photoId = photo.id ∧ detection.eventId = photo.eventId := by
    intro detection hdetection hnot
    rw [hdetections] at hdetection
    rcases List.mem_append.mp hdetection with hdetection | hdetection
    · exact absurd hdetection hnot
    · obtain ⟨id, face, -, rfl⟩ := exists_of_mem_storedFaceDetections hdetection
      exact ⟨rfl, rfl⟩
  constructor
  case sound =>
    refine ⟨?_, ?_, ?_, ?_, ?_⟩
    · intro row hrow
      rw [hmatches] at hrow
      rw [hevents]
      exact h.sound.matchScopes row hrow
    · intro detection hdetection
      rw [hevents]
      by_cases hlisted : detection ∈ db.photoFaceDetections.rows
      · exact h.sound.faceScopes detection hlisted
      · obtain ⟨hphotoId, heventId⟩ := hnew detection hdetection hlisted
        rw [hphotoId, heventId]
        exact photoEvent?_of_mem (Table.mem_of_get? hphoto)
    · intro detection hdetection row hrow hid
      rw [hfaces] at hrow
      have hstored := h.stored row hrow
      rw [hid] at hstored
      exact h.sound.detected detection (hold detection hdetection hstored) row hrow hid
    · rw [hmatches, hfaces]
      exact h.sound.backed
    · rw [hmatches, hfaces]
      exact h.sound.unmixed
  case faceOnly =>
    rw [hmatches]
    exact h.faceOnly
  case stored =>
    intro row hrow
    rw [hfaces] at hrow
    rw [hdetections, List.map_append]
    exact List.mem_append_left _ (h.stored row hrow)
  case hit =>
    intro detection hdetection otherId hjoined
    rw [not_or, not_not] at hjoined
    rw [hbest, hfaces]
    exact h.hit detection (hold detection hdetection hjoined.2) otherId hjoined.1
  case miss =>
    intro detection hdetection otherId hmissed
    rw [hfaces]
    by_cases hlisted : detection ∈ db.photoFaceDetections.rows
    · have hid := List.mem_map_of_mem (f := PhotoFaceDetection.id) hlisted
      exact h.miss detection hlisted otherId (hmissed.resolve_right (not_not_intro hid))
    · rw [Option.eq_none_iff_forall_ne_some]
      intro score hrecorded
      obtain ⟨row, hrow, hid, -⟩ := scoreOf_eq_some_iff.mp hrecorded
      have hstored := h.stored row hrow
      rw [hid] at hstored
      exact hlisted (hold detection hdetection hstored)

end Database.FacesMatched

/-! ## What the completions store -/

namespace FaceCompletion

private theorem storedFaces_congr {db' : Database F}
    (hevents : ∀ photoId, db'.photoEvent? photoId = db.photoEvent? photoId) (world : World)
    (completion : FaceCompletion F) :
    completion.storedFaces world db' = completion.storedFaces world db := by
  cases completion with
  | enrol => rfl
  | scan job photoId faceDetections rawResponseJson =>
    have hevent := hevents photoId
    rw [Database.photoEvent?, Database.photoEvent?] at hevent
    cases hphoto : db.photos.get? photoId with
    | none =>
      rw [hphoto, Option.map_none, Option.map_eq_none_iff] at hevent
      simp only [storedFaces, hevent, hphoto]
    | some photo =>
      rw [hphoto, Option.map_some, Option.map_eq_some_iff] at hevent
      obtain ⟨photo', hphoto', hsame⟩ := hevent
      have hid : photo'.id = photo.id := (Table.get?_key hphoto').trans (Table.get?_key hphoto).symm
      have hstored : storedFaceDetection photo' job = storedFaceDetection photo job := by
        funext id face
        rw [storedFaceDetection, storedFaceDetection, hid, hsame]
      simp only [storedFaces, hphoto', hphoto, storedFaceDetections, hstored]

/-- A completion that is committed appends its faces and its embeddings, and moves no photo to
another event. -/
theorem serve_stores {world : World} {completion : FaceCompletion F}
    (hok : (completion.serve cfg world db).1 = .ok ())
    (hfresh : ∀ detection ∈ db.photoFaceDetections.rows,
      completion.photoJobId? ≠ some detection.photoJobId) :
    (completion.serve cfg world db).2.photoFaceDetections.rows =
        db.photoFaceDetections.rows ++ completion.storedFaces world db ∧
      (completion.serve cfg world db).2.participantFaceEmbeddings.rows =
        db.participantFaceEmbeddings.rows ++ completion.storedEmbeddings ∧
      ∀ photoId, (completion.serve cfg world db).2.photoEvent? photoId =
        db.photoEvent? photoId := by
  cases completion with
  | enrol job eventId participantId faceImageId result =>
    obtain ⟨start, hembeddings, hdetections, -, -, hphotos, hserved⟩ := serve_enrol hok
    rw [hserved, matchParticipant_eq]
    refine ⟨?_, hembeddings, fun photoId => ?_⟩
    · rw [storedFaces, List.append_nil, ← hdetections]
    · rw [Database.photoEvent?, Database.photoEvent?, ← hphotos]
  | scan job photoId faceDetections rawResponseJson =>
    obtain ⟨photo, hphoto, hdetections, hembeddings, -, -, hevents⟩ := serve_scan hok
      fun detection hdetection hsame => hfresh detection hdetection (congrArg some hsame.symm)
    refine ⟨?_, ?_, hevents⟩
    · rw [hdetections, storedFaces, hphoto]
    · rw [hembeddings, storedEmbeddings, List.append_nil]

omit [Scalar F] in
private theorem fresh_head {step : World × FaceCompletion F}
    {steps : List (World × FaceCompletion F)}
    (hfresh : ∀ detection ∈ db.photoFaceDetections.rows,
      detection.photoJobId ∉ scanJobIds (step :: steps)) :
    ∀ detection ∈ db.photoFaceDetections.rows,
      step.2.photoJobId? ≠ some detection.photoJobId :=
  fun detection hdetection hsame => hfresh detection hdetection
    (List.mem_filterMap.mpr ⟨step, List.mem_cons_self, hsame⟩)

private theorem photoJobId?_of_mem_storedFaces {world : World} {completion : FaceCompletion F}
    {detection : PhotoFaceDetection F} (h : detection ∈ completion.storedFaces world db) :
    completion.photoJobId? = some detection.photoJobId := by
  cases completion with
  | enrol => cases h
  | scan job photoId faceDetections rawResponseJson =>
    cases hphoto : db.photos.get? photoId with
    | none =>
      simp only [storedFaces, hphoto] at h
      cases h
    | some photo =>
      simp only [storedFaces, hphoto] at h
      obtain ⟨id, face, -, rfl⟩ := exists_of_mem_storedFaceDetections h
      rfl

private theorem fresh_tail {step : World × FaceCompletion F}
    {steps : List (World × FaceCompletion F)}
    (hok : (step.2.serve cfg step.1 db).1 = .ok ())
    (honce : (scanJobIds (step :: steps)).Nodup)
    (hfresh : ∀ detection ∈ db.photoFaceDetections.rows,
      detection.photoJobId ∉ scanJobIds (step :: steps)) :
    (scanJobIds steps).Nodup ∧
      ∀ detection ∈ (step.2.serve cfg step.1 db).2.photoFaceDetections.rows,
        detection.photoJobId ∉ scanJobIds steps := by
  have hsub : (scanJobIds steps).Sublist (scanJobIds (step :: steps)) :=
    (List.sublist_cons_self step steps).filterMap _
  refine ⟨honce.sublist hsub, fun detection hdetection hlater => ?_⟩
  rw [(serve_stores hok (fresh_head hfresh)).1] at hdetection
  rcases List.mem_append.mp hdetection with hdetection | hdetection
  · exact hfresh detection hdetection (hsub.mem hlater)
  · have hhead : scanJobIds (step :: steps) = detection.photoJobId :: scanJobIds steps :=
      List.filterMap_cons_some (photoJobId?_of_mem_storedFaces hdetection)
    rw [hhead] at honce
    exact (List.nodup_cons.mp honce).1 hlater

/-- The faces and the embeddings that a run stores do not depend on its order. -/
theorem run_stores {steps : List (World × FaceCompletion F)} (hcommitted : Committed cfg db steps)
    (honce : (scanJobIds steps).Nodup)
    (hfresh : ∀ detection ∈ db.photoFaceDetections.rows,
      detection.photoJobId ∉ scanJobIds steps) :
    (run cfg db steps).photoFaceDetections.rows = db.photoFaceDetections.rows ++
        steps.flatMap (fun step => step.2.storedFaces step.1 db) ∧
      (run cfg db steps).participantFaceEmbeddings.rows = db.participantFaceEmbeddings.rows ++
        steps.flatMap (fun step => step.2.storedEmbeddings) := by
  induction steps generalizing db with
  | nil => exact ⟨(List.append_nil _).symm, (List.append_nil _).symm⟩
  | cons step steps ih =>
    obtain ⟨hfaces, hembeddings, hevents⟩ := serve_stores hcommitted.1 (fresh_head hfresh)
    obtain ⟨honce', hfresh'⟩ := fresh_tail hcommitted.1 honce hfresh
    obtain ⟨ihfaces, ihembeddings⟩ := ih hcommitted.2 honce' hfresh'
    have hsame : (fun later : World × FaceCompletion F =>
        later.2.storedFaces later.1 (step.2.serve cfg step.1 db).2) =
        fun later => later.2.storedFaces later.1 db :=
      funext fun later => storedFaces_congr hevents later.1 later.2
    rw [hfaces, hsame] at ihfaces
    rw [hembeddings] at ihembeddings
    rw [List.flatMap_cons, List.flatMap_cons, ← List.append_assoc, ← List.append_assoc]
    exact ⟨ihfaces, ihembeddings⟩

end FaceCompletion

/-! ## Runs -/

namespace Database.FacesMatched

open FaceCompletion

variable {missed : Uuid → Uuid → Prop}

private theorem reachedScores_congr {db' : Database F}
    (hrows : db'.participantFaceEmbeddings.rows = db.participantFaceEmbeddings.rows)
    (detection : PhotoFaceDetection F) (participantId : Uuid) :
    db'.reachedScores cfg detection participantId =
      db.reachedScores cfg detection participantId := by
  rw [Database.reachedScores, hrows, Database.reachedScores]

private theorem missed_enrolled_iff {world : World} {job : Job F}
    {eventId participantId faceImageId : Uuid} {result : EmbeddingResult F}
    (hok : ((enrol job eventId participantId faceImageId result).serve cfg world db).1 = .ok ())
    (steps : List (World × FaceCompletion F)) :
    (∀ detection ∈ ((enrol job eventId participantId faceImageId result).serve cfg world
        db).2.photoFaceDetections.rows, ∀ otherId,
      (missed detection.id otherId ∧ ¬(otherId = participantId ∧
        ∃ other ∈ db.photoFaceDetections.rows, other.id = detection.id ∧
          other.eventId = eventId)) →
        ((enrol job eventId participantId faceImageId result).serve cfg world
          db).2.reachedScores cfg detection otherId ≠ [] →
          ∃ step ∈ steps, step.2.Enrols detection.eventId otherId) ↔
      ∀ detection ∈ db.photoFaceDetections.rows, ∀ otherId, missed detection.id otherId →
        db.reachedScores cfg detection otherId ≠ [] →
          ∃ step ∈ (world, enrol job eventId participantId faceImageId result) :: steps,
            step.2.Enrols detection.eventId otherId := by
  obtain ⟨start, hembeddings, hdetections, -, -, -, hserved⟩ := serve_enrol hok
  have hframe : (start.matchParticipant cfg participantId eventId).photoFaceDetections =
      db.photoFaceDetections := by
    rw [matchParticipant_eq]
    exact hdetections
  have hscores : ∀ detection otherId,
      ¬(detection.eventId = eventId ∧ otherId = participantId) →
        (start.matchParticipant cfg participantId eventId).reachedScores cfg detection otherId =
          db.reachedScores cfg detection otherId := by
    intro detection otherId hother
    rw [matchParticipant_eq]
    exact reachedScores_of_other hembeddings hother
  rw [hserved, hframe]
  constructor
  · intro h detection hdetection otherId hmissed hreached
    by_cases hhere : detection.eventId = eventId ∧ otherId = participantId
    · exact ⟨_, List.mem_cons_self, hhere.1.symm, hhere.2.symm⟩
    · rw [← hscores detection otherId hhere] at hreached
      have hnot : ¬(otherId = participantId ∧ ∃ other ∈ db.photoFaceDetections.rows,
          other.id = detection.id ∧ other.eventId = eventId) := by
        rintro ⟨hparticipant, other, hother, hid, hevent⟩
        rw [Table.eq_of_key_eq hother hdetection hid] at hevent
        exact hhere ⟨hevent, hparticipant⟩
      obtain ⟨step, hstep, henrols⟩ := h detection hdetection otherId ⟨hmissed, hnot⟩ hreached
      exact ⟨step, List.mem_cons_of_mem _ hstep, henrols⟩
  · rintro h detection hdetection otherId ⟨hmissed, hnot⟩ hreached
    have hhere : ¬(detection.eventId = eventId ∧ otherId = participantId) :=
      fun hhere => hnot ⟨hhere.2, detection, hdetection, rfl, hhere.1⟩
    rw [hscores detection otherId hhere] at hreached
    obtain ⟨step, hstep, henrols⟩ := h detection hdetection otherId hmissed hreached
    rcases List.mem_cons.mp hstep with rfl | hstep
    · exact absurd ⟨henrols.1.symm, henrols.2.symm⟩ hhere
    · exact ⟨step, hstep, henrols⟩

private theorem missed_scanned_iff {world : World} {job : Job F} {photoId : Uuid}
    {faceDetections : List (FaceDetectionPayload F)} {rawResponseJson : Option (JsonDict F)}
    (hok : ((scan job photoId faceDetections rawResponseJson).serve cfg world db).1 = .ok ())
    (hfresh : ∀ detection ∈ db.photoFaceDetections.rows, detection.photoJobId ≠ job.id)
    (steps : List (World × FaceCompletion F)) :
    (∀ detection ∈ ((scan job photoId faceDetections rawResponseJson).serve cfg world
        db).2.photoFaceDetections.rows, ∀ participantId,
      (missed detection.id participantId ∨
        detection.id ∉ db.photoFaceDetections.rows.map PhotoFaceDetection.id) →
        ((scan job photoId faceDetections rawResponseJson).serve cfg world
          db).2.reachedScores cfg detection participantId ≠ [] →
          ∃ step ∈ steps, step.2.Enrols detection.eventId participantId) ↔
      (∀ detection ∈ db.photoFaceDetections.rows, ∀ participantId,
        missed detection.id participantId → db.reachedScores cfg detection participantId ≠ [] →
          ∃ step ∈ (world, scan job photoId faceDetections rawResponseJson) :: steps,
            step.2.Enrols detection.eventId participantId) ∧
        (scan job photoId faceDetections rawResponseJson).Followed cfg db steps := by
  obtain ⟨photo, hphoto, hdetections, hembeddings, -, -, -⟩ := serve_scan hok hfresh
  generalize ((scan job photoId faceDetections rawResponseJson).serve cfg world db).2 = scanned
    at hdetections hembeddings ⊢
  have hscores : ∀ detection participantId,
      scanned.reachedScores cfg detection participantId =
        db.reachedScores cfg detection participantId :=
    reachedScores_congr (congrArg Table.rows hembeddings)
  simp only [hscores]
  have hnew : ∀ detection ∈ storedFaceDetections photo job
      ((List.range (usableFaces faceDetections).length).map world.uuids) faceDetections,
      detection.id ∉ db.photoFaceDetections.rows.map PhotoFaceDetection.id := by
    intro detection hdetection hid
    have hnodup := scanned.photoFaceDetections.nodup
    rw [hdetections, List.map_append, List.nodup_append] at hnodup
    exact hnodup.2.2 _ hid _ (List.mem_map_of_mem hdetection) rfl
  constructor
  · intro h
    refine ⟨fun detection hdetection participantId hmissed hreached => ?_, ?_⟩
    · have hlisted : detection ∈ scanned.photoFaceDetections.rows := by
        rw [hdetections]
        exact List.mem_append_left _ hdetection
      obtain ⟨step, hstep, henrols⟩ := h detection hlisted participantId (Or.inl hmissed) hreached
      exact ⟨step, List.mem_cons_of_mem _ hstep, henrols⟩
    · intro photo' hphoto' face hface e he hevent hreached
      have hsame : photo = photo' := Option.some.inj (hphoto.symm.trans hphoto')
      subst hsame
      obtain ⟨id, hstored⟩ := @exists_mem_storedFaceDetections F _ photo job
        ((List.range (usableFaces faceDetections).length).map world.uuids) faceDetections
        (by rw [List.length_map, List.length_range]) face hface
      have hlisted : storedFaceDetection photo job id face ∈ scanned.photoFaceDetections.rows := by
        rw [hdetections]
        exact List.mem_append_right _ hstored
      exact h _ hlisted e.participantId (Or.inr (hnew _ hstored))
        (reachedScores_ne_nil_iff.mpr ⟨e, he, hevent, rfl, hreached⟩)
  · rintro ⟨hold, hfollowed⟩ detection hdetection participantId hmissed hreached
    rw [hdetections] at hdetection
    rcases List.mem_append.mp hdetection with hdetection | hdetection
    · have hid := List.mem_map_of_mem (f := PhotoFaceDetection.id) hdetection
      obtain ⟨step, hstep, henrols⟩ := hold detection hdetection participantId
        (hmissed.resolve_right (not_not_intro hid)) hreached
      rcases List.mem_cons.mp hstep with rfl | hstep
      · exact henrols.elim
      · exact ⟨step, hstep, henrols⟩
    · obtain ⟨id, face, hface, rfl⟩ := exists_of_mem_storedFaceDetections hdetection
      obtain ⟨e, he, hevent, rfl, hscore⟩ := reachedScores_ne_nil_iff.mp hreached
      exact hfollowed photo hphoto face hface e he hevent hscore

/-- A run ends in the full join exactly when an enrolment follows for every pair that is missed at
its start or by one of its scans and that reaches the threshold. -/
theorem joined_run_iff (h : db.FacesMatched cfg missed) {steps : List (World × FaceCompletion F)}
    (hcommitted : Committed cfg db steps) (honce : (scanJobIds steps).Nodup)
    (hfresh : ∀ detection ∈ db.photoFaceDetections.rows,
      detection.photoJobId ∉ scanJobIds steps) :
    (run cfg db steps).FacesJoined cfg ↔
      (∀ detection ∈ db.photoFaceDetections.rows, ∀ participantId,
        missed detection.id participantId → db.reachedScores cfg detection participantId ≠ [] →
          ∃ step ∈ steps, step.2.Enrols detection.eventId participantId) ∧
        FacesFollowed cfg db steps := by
  induction steps generalizing db missed with
  | nil =>
    constructor
    · intro hjoined
      refine ⟨fun detection hdetection participantId hmissed hreached => ?_, trivial⟩
      exact absurd (h.not_reached_of_joined hjoined hdetection hmissed) hreached
    · rintro ⟨hnone, -⟩
      refine h.joined fun detection hdetection participantId hmissed => ?_
      by_contra hreached
      obtain ⟨step, hstep, -⟩ := hnone detection hdetection participantId hmissed hreached
      exact List.not_mem_nil hstep
  | cons step steps ih =>
    obtain ⟨honce', hfresh'⟩ := fresh_tail hcommitted.1 honce hfresh
    obtain ⟨world, completion⟩ := step
    cases completion with
    | enrol job eventId participantId faceImageId result =>
      refine (ih (h.enrolled hcommitted.1) hcommitted.2 honce' hfresh').trans ?_
      rw [missed_enrolled_iff hcommitted.1, FacesFollowed, Followed, true_and]
    | scan job photoId faceDetections rawResponseJson =>
      have hhead : ∀ detection ∈ db.photoFaceDetections.rows, detection.photoJobId ≠ job.id :=
        fun detection hdetection hsame =>
          (fresh_head hfresh) detection hdetection (congrArg some hsame.symm)
      refine (ih (h.scanned hcommitted.1 hhead) hcommitted.2 honce' hfresh').trans ?_
      rw [missed_scanned_iff hcommitted.1 hhead, FacesFollowed, and_assoc]

end Database.FacesMatched

/-! ## Two orders -/

/-- The full join depends on the stored faces and embeddings only, not on their order. -/
theorem Database.FacesJoined.sameMatches {db' : Database F} (h : db.FacesJoined cfg)
    (h' : db'.FacesJoined cfg)
    (hfaces : db'.photoFaceDetections.rows.Perm db.photoFaceDetections.rows)
    (hembeddings :
      db'.participantFaceEmbeddings.rows.Perm db.participantFaceEmbeddings.rows) :
    db.SameMatches db' := by
  have hbest : ∀ detection participantId,
      db'.bestScore cfg detection participantId = db.bestScore cfg detection participantId := by
    intro detection participantId
    refine max?_congr fun score => ?_
    exact (((hembeddings.filter _).map _).filter _).mem_iff
  constructor
  · intro detectionId participantId similarity
    rw [h.faces, h'.faces]
    simp only [hfaces.mem_iff, hbest]
  · intro photoId participantId source confidence
    rw [h.photos, h'.photos]
    simp only [hfaces.mem_iff, hbest]

open FaceCompletion in
/-- From a database without faces and matches, two orders of the same completions end in the same
matches, and these are the full join, exactly when in both orders every face that a scan stores is
followed by the enrolments of the participants for whom it reaches the threshold already. -/
theorem faceCompletions_commute_iff (cfg : Settings F) {db : Database F}
    (hdetections : db.photoFaceDetections.rows = []) (hfaces : db.faceParticipantMatches.rows = [])
    (hmatches : db.photoParticipantMatches.rows = [])
    {steps steps' : List (World × FaceCompletion F)} (hperm : steps'.Perm steps)
    (honce : (scanJobIds steps).Nodup) (hcommitted : Committed cfg db steps)
    (hcommitted' : Committed cfg db steps') :
    ((run cfg db steps).FacesJoined cfg ∧ (run cfg db steps').FacesJoined cfg ∧
        (run cfg db steps).SameMatches (run cfg db steps')) ↔
      FacesFollowed cfg db steps ∧ FacesFollowed cfg db steps' := by
  have hnone : ∀ detection, detection ∉ db.photoFaceDetections.rows := by
    intro detection hdetection
    rw [hdetections] at hdetection
    exact List.not_mem_nil hdetection
  have hmatched : db.FacesMatched cfg fun _ _ => False := by
    refine ⟨.of_none hmatches hfaces fun detection hdetection => (hnone detection hdetection).elim,
      fun key row hrow => ?_, fun row hrow => ?_,
      fun detection hdetection => (hnone detection hdetection).elim, fun _ _ _ => False.elim⟩
    · rw [Table.get?, hmatches] at hrow
      cases hrow
    · rw [hfaces] at hrow
      exact absurd hrow List.not_mem_nil
  have hfresh : ∀ jobIds : List Uuid, ∀ detection ∈ db.photoFaceDetections.rows,
      detection.photoJobId ∉ jobIds :=
    fun _ detection hdetection => (hnone detection hdetection).elim
  have honce' : (scanJobIds steps').Nodup := ((hperm.filterMap _).nodup_iff).mpr honce
  have hjoined : ∀ {steps}, Committed cfg db steps → (scanJobIds steps).Nodup →
      ((run cfg db steps).FacesJoined cfg ↔ FacesFollowed cfg db steps) := by
    intro steps hcommitted honce
    rw [hmatched.joined_run_iff hcommitted honce (hfresh _), and_iff_right_iff_imp]
    exact fun _ _ _ _ => False.elim
  rw [← hjoined hcommitted honce, ← hjoined hcommitted' honce', ← and_assoc, and_iff_left_iff_imp]
  rintro ⟨hfirst, hsecond⟩
  obtain ⟨hrows, hembeddings⟩ := run_stores hcommitted honce (hfresh _)
  obtain ⟨hrows', hembeddings'⟩ := run_stores hcommitted' honce' (hfresh _)
  refine hfirst.sameMatches hsecond ?_ ?_
  · rw [hrows, hrows']
    exact (hperm.flatMap_right _).append_left _
  · rw [hembeddings, hembeddings']
    exact (hperm.flatMap_right _).append_left _

/-! ## A runner on two photos -/

/-- An event with one runner, whose selfie is not enrolled yet, and two photos. -/
def unscannedEvent : Database ℚ :=
  { unreadEvent with
    photos := ⟨[⟨1, 7, ['k'], ['f'], ['t'], .processing, 0⟩,
      ⟨2, 7, ['l'], ['f'], ['t'], .processing, 0⟩], by decide⟩
    photoFaceDetections := .empty }

/-- The selfie of the runner is enrolled. -/
def enrolRunner : World × FaceCompletion ℚ :=
  (World.still 0 fun _ => 0, .enrol (.queued 9 (.participantFace 7 5 8) 3 0) 7 5 8
    ⟨firstUnit ℚ, none, none, none, none⟩)

/-- The face of the runner is found on a photo. -/
def scanRunner (photoId : Uuid) : World × FaceCompletion ℚ :=
  (World.still 0 fun _ => photoId,
    .scan (.queued (photoId + 10) (.photo photoId .facePhotoScan) 3 0) photoId
      [⟨0, firstUnit ℚ, none, none, none⟩] none)

private theorem committed_scansFirst : FaceCompletion.Committed (Settings.environment ℚ)
    unscannedEvent [scanRunner 1, scanRunner 2, enrolRunner] := by
  refine ⟨?_, ?_, ?_, trivial⟩ <;> decide +kernel

private theorem committed_otherScanFirst : FaceCompletion.Committed (Settings.environment ℚ)
    unscannedEvent [scanRunner 2, scanRunner 1, enrolRunner] := by
  refine ⟨?_, ?_, ?_, trivial⟩ <;> decide +kernel

private theorem followed_of_none {db : Database ℚ} {completion : FaceCompletion ℚ}
    {later : List (World × FaceCompletion ℚ)}
    (h : db.participantFaceEmbeddings.rows = []) :
    completion.Followed (Settings.environment ℚ) db later := by
  cases completion with
  | enrol => trivial
  | scan =>
    intro photo _ face _ e he
    rw [h] at he
    exact absurd he List.not_mem_nil

/-- Scans in any order before the enrolment leave the same matches. -/
theorem scannedRunner_joined :
    let run := FaceCompletion.run (Settings.environment ℚ) unscannedEvent
    (run [scanRunner 1, scanRunner 2, enrolRunner]).FacesJoined (Settings.environment ℚ) ∧
      (run [scanRunner 2, scanRunner 1, enrolRunner]).FacesJoined (Settings.environment ℚ) ∧
      (run [scanRunner 1, scanRunner 2, enrolRunner]).SameMatches
        (run [scanRunner 2, scanRunner 1, enrolRunner]) := by
  refine (faceCompletions_commute_iff (Settings.environment ℚ) rfl rfl rfl (.swap _ _ _)
    (by decide) committed_scansFirst committed_otherScanFirst).mpr
      ⟨⟨?_, ?_, trivial, trivial⟩, ?_, ?_, trivial, trivial⟩
  all_goals
    refine followed_of_none ?_
    decide +kernel

/-- The scan of a photo matches nobody when the selfie is enrolled before it, and the runner when it
is enrolled after it. -/
theorem enrolledRunner_missed :
    let run := FaceCompletion.run (Settings.environment ℚ) unscannedEvent
    (unscannedEvent.photoFaceDetections.rows = [] ∧
      unscannedEvent.faceParticipantMatches.rows = [] ∧
      unscannedEvent.photoParticipantMatches.rows = []) ∧
      [enrolRunner, scanRunner 1].Perm [scanRunner 1, enrolRunner] ∧
      (FaceCompletion.scanJobIds [scanRunner 1, enrolRunner]).Nodup ∧
      FaceCompletion.Committed (Settings.environment ℚ) unscannedEvent
        [scanRunner 1, enrolRunner] ∧
      FaceCompletion.Committed (Settings.environment ℚ) unscannedEvent
        [enrolRunner, scanRunner 1] ∧
      (run [scanRunner 1, enrolRunner]).photoParticipantMatches.rows.map
        (fun row => (row.photoId, row.participantId, row.confidence)) = [(1, 5, some 1)] ∧
      (run [enrolRunner, scanRunner 1]).photoParticipantMatches.rows = [] ∧
      ¬((run [scanRunner 1, enrolRunner]).FacesJoined (Settings.environment ℚ) ∧
        (run [enrolRunner, scanRunner 1]).FacesJoined (Settings.environment ℚ) ∧
        (run [scanRunner 1, enrolRunner]).SameMatches (run [enrolRunner, scanRunner 1])) := by
  intro run
  have hmatched : (run [scanRunner 1, enrolRunner]).photoParticipantMatches.rows.map
      (fun row => (row.photoId, row.participantId, row.confidence)) = [(1, 5, some 1)] := by
    decide +kernel
  have hmissed : (run [enrolRunner, scanRunner 1]).photoParticipantMatches.rows = [] := by
    decide +kernel
  refine ⟨⟨rfl, rfl, rfl⟩, .swap _ _ _, by decide, ⟨?_, ?_, trivial⟩, ⟨?_, ?_, trivial⟩, hmatched,
    hmissed, ?_⟩
  iterate 4 decide +kernel
  rintro ⟨-, -, hsame⟩
  generalize run [scanRunner 1, enrolRunner] = joined at *
  generalize run [enrolRunner, scanRunner 1] = missing at *
  have hmem : (1, 5, some (1 : ℚ)) ∈ joined.photoParticipantMatches.rows.map
      fun row => (row.photoId, row.participantId, row.confidence) := by
    rw [hmatched]
    exact List.mem_singleton_self _
  obtain ⟨row, hrow, -⟩ := List.mem_map.mp hmem
  obtain ⟨other, hother, -⟩ := (hsame.photos row.photoId row.participantId row.matchSource
    row.confidence).mp ⟨row, hrow, rfl, rfl, rfl, rfl⟩
  rw [hmissed] at hother
  exact List.not_mem_nil hother

end RaceFrame
