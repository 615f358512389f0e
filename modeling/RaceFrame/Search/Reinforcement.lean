import RaceFrame.Search.Selection
import RaceFrame.Core.Upserts

/-!
# The second round of reinforcement

`apply_adaptive_reinforcement` queries the results of a session twice. The first
round raises stored scores behind the objects it has loaded, and the second query
returns those objects as they were loaded. The decisions of the second round are
the ones for the stored scores exactly when the first round lifts no result that
it had loaded over its threshold.
-/

namespace RaceFrame

open Core

variable {F : Type} [Scalar F]

section Decisions

variable (cfg : Settings F) (participant : Participant) (requireExactBib : Bool)

/-- The decision of the loop for a result whose score it reads as `score`. -/
def reinforces (db : Database F) (result : FaceSearchResult F) (score : F) : Bool :=
  match db.photos.get? result.photoId, db.photoFaceDetections.get? result.photoFaceDetectionId with
  | some photo, some _ =>
    admitsReinforcement cfg requireExactBib participant
      (db.photoTextDetections.filter fun d => d.photoId == photo.id) score
  | _, _ => false

/-- The embedding that the loop searches with for a result. -/
def probeOf (db : Database F) (result : FaceSearchResult F) : Option (List F) :=
  match db.photoFaceDetections.get? result.photoFaceDetectionId with
  | none => none
  | some detection =>
    if reinforces cfg participant requireExactBib db result result.similarityScore &&
        !(normalizeEmbeddingPayload detection.embeddingJson).isEmpty then
      some (normalizeEmbeddingPayload detection.embeddingJson)
    else none

/-- Every result that a round has loaded is decided on as its stored score says. -/
def DecidesOnStored (db : Database F) (loaded : List (FaceSearchResult F)) : Prop :=
  ∀ result ∈ loaded, ∀ stored, db.faceSearchResults.get? result.key = some stored →
    reinforces cfg participant requireExactBib db result result.similarityScore =
      reinforces cfg participant requireExactBib db result stored.similarityScore

/-- A better score never turns a decision down. -/
theorem reinforces_mono {db : Database F} {result : FaceSearchResult F} {score score' : F}
    (hle : score ≤ score')
    (h : reinforces cfg participant requireExactBib db result score = true) :
    reinforces cfg participant requireExactBib db result score' = true := by
  unfold reinforces at h ⊢
  split at h
  · unfold admitsReinforcement shouldReinforceFace at h ⊢
    cases requireExactBib
    · simp only [Bool.false_eq_true, if_false, Bool.or_eq_true, Bool.and_eq_true,
        decide_eq_true_eq] at h ⊢
      rcases h with h | ⟨hstrong, h⟩
      · exact Or.inl (h.trans hle)
      · exact Or.inr ⟨hstrong, h.trans hle⟩
    · simp only [if_true, Bool.and_eq_true, decide_eq_true_eq] at h ⊢
      exact ⟨h.1, h.2.trans hle⟩
  · cases h

/-- The better of two scores is decided on as one of them. -/
theorem reinforces_best (db : Database F) (result : FaceSearchResult F) (score score' : F) :
    reinforces cfg participant requireExactBib db result
        (if score' ≤ score then score else score') = true ↔
      reinforces cfg participant requireExactBib db result score = true ∨
        reinforces cfg participant requireExactBib db result score' = true := by
  by_cases hle : score' ≤ score
  · rw [if_pos hle]
    exact ⟨Or.inl, fun h => h.elim id (reinforces_mono cfg participant requireExactBib hle)⟩
  · rw [if_neg hle]
    have hlt := le_of_not_ge hle
    exact ⟨Or.inr, fun h => h.elim (reinforces_mono cfg participant requireExactBib hlt) id⟩

end Decisions

/-! ## What the searches of a round write -/

/-- The candidates that a search keeps. -/
def keptBy (cfg : Settings F) (db : Database F) (eventId : Uuid) (embedding : List F) :
    List (SearchCandidate F) :=
  (keepCandidates cfg embedding (db.eventFaces eventId)).toOption.getD []

theorem keepCandidates_eq_keptBy {cfg : Settings F} (hsize : 1 ≤ cfg.maxSearchResults)
    (db : Database F) (eventId : Uuid) (embedding : List F) :
    keepCandidates cfg embedding (db.eventFaces eventId) =
      .ok (keptBy cfg db eventId embedding) := by
  obtain ⟨kept, hkept, -⟩ := keepCandidates_strongest hsize embedding (db.eventFaces eventId)
  rw [keptBy, hkept]
  rfl

/-- The results of a list of candidates, written one after the other. -/
def writeSearchResults (eventId searchSessionId : Uuid) (candidates : List (SearchCandidate F))
    (db : Database F) : Database F :=
  candidates.foldl (fun db c => writeSearchResult eventId searchSessionId c db) db

theorem exceptSearchResults_write (eventId searchSessionId : Uuid)
    (candidates : List (SearchCandidate F)) (db : Database F) :
    (writeSearchResults eventId searchSessionId candidates db).exceptSearchResults =
      db.exceptSearchResults := by
  induction candidates generalizing db with
  | nil => rfl
  | cons candidate candidates ih =>
    exact ih (writeSearchResult eventId searchSessionId candidate db)

/-- A candidate is merged into the result of its detection. -/
theorem get?_writeSearchResult (eventId : Uuid) {searchSessionId detectionId : Uuid}
    (candidate : SearchCandidate F) {db : Database F} {result : FaceSearchResult F}
    (h : db.faceSearchResults.get? (searchSessionId, detectionId) = some result) :
    (writeSearchResult eventId searchSessionId candidate db).faceSearchResults.get?
        (searchSessionId, detectionId) =
      some (if candidate.detectionId = detectionId then
        mergeSearchResult result
          ⟨eventId, searchSessionId, candidate.photoId, candidate.detectionId, candidate.score⟩
        else result) := by
  have hkey : ∀ old r : FaceSearchResult F, old.key = r.key →
      (mergeSearchResult old r).key = old.key := fun _ _ _ => rfl
  have hget := Table.get?_upsert hkey db.faceSearchResults
    ⟨eventId, searchSessionId, candidate.photoId, candidate.detectionId, candidate.score⟩
    (searchSessionId, detectionId)
  refine hget.trans ?_
  rw [h]
  by_cases hsame : candidate.detectionId = detectionId
  · have hkeys : (searchSessionId, candidate.detectionId) = (searchSessionId, detectionId) :=
      congrArg (Prod.mk searchSessionId) hsame
    rw [if_pos hsame]
    exact if_pos hkeys
  · rw [if_neg hsame]
    exact if_neg fun hkeys => hsame (congrArg Prod.snd hkeys)

/-- After the searches a score counts as high enough when it did before or when one of the
candidates of its detection does. -/
theorem get?_writeSearchResults {eventId searchSessionId detectionId : Uuid} (high : F → Prop)
    (hhigh : ∀ score score', high (if score' ≤ score then score else score') ↔
      high score ∨ high score') (candidates : List (SearchCandidate F)) {db : Database F}
    {result : FaceSearchResult F}
    (h : db.faceSearchResults.get? (searchSessionId, detectionId) = some result) :
    ∃ stored, (writeSearchResults eventId searchSessionId candidates db).faceSearchResults.get?
        (searchSessionId, detectionId) = some stored ∧
      (high stored.similarityScore ↔ high result.similarityScore ∨
        ∃ candidate ∈ candidates, candidate.detectionId = detectionId ∧ high candidate.score) := by
  induction candidates generalizing db result with
  | nil =>
    refine ⟨result, h, Or.inl, ?_⟩
    rintro (hresult | ⟨candidate, hmem, -⟩)
    · exact hresult
    · cases hmem
  | cons candidate candidates ih =>
    obtain ⟨stored, hstored, hiff⟩ := ih (get?_writeSearchResult eventId candidate h)
    refine ⟨stored, hstored, hiff.trans ?_⟩
    by_cases hsame : candidate.detectionId = detectionId
    · rw [if_pos hsame]
      change (high (if candidate.score ≤ result.similarityScore then result.similarityScore
        else candidate.score) ∨ _) ↔ _
      rw [hhigh]
      simp only [List.mem_cons, exists_eq_or_imp, hsame, true_and, or_assoc]
    · rw [if_neg hsame]
      simp only [List.mem_cons, exists_eq_or_imp, hsame, false_and, false_or]

/-! ## The first round -/

section FirstRound

variable (cfg : Settings F) (searchSession : FaceSearchSession) (participant : Participant)
  (requireExactBib : Bool)

/-- The searches of a round, on the database that the round starts from. -/
def roundCandidates (db : Database F) (loaded : List (FaceSearchResult F)) :
    List (SearchCandidate F) :=
  (loaded.filterMap (probeOf cfg participant requireExactBib db)).flatMap fun embedding =>
    (keptBy cfg db searchSession.eventId embedding).reverse

/-- The decisions and the faces do not depend on the search results. -/
theorem probeOf_congr {db db' : Database F} (h : db.exceptSearchResults = db'.exceptSearchResults)
    (result : FaceSearchResult F) :
    probeOf cfg participant requireExactBib db result =
      probeOf cfg participant requireExactBib db' result := by
  change probeOf cfg participant requireExactBib db.exceptSearchResults result =
    probeOf cfg participant requireExactBib db'.exceptSearchResults result
  rw [h]

theorem reinforces_congr {db db' : Database F}
    (h : db.exceptSearchResults = db'.exceptSearchResults) (result : FaceSearchResult F)
    (score : F) :
    reinforces cfg participant requireExactBib db result score =
      reinforces cfg participant requireExactBib db' result score := by
  change reinforces cfg participant requireExactBib db.exceptSearchResults result score =
    reinforces cfg participant requireExactBib db'.exceptSearchResults result score
  rw [h]

variable {cfg}

/-- A result that is not searched with changes nothing. -/
theorem run_reinforceWith_of_none {progress : Reinforcement} {result : FaceSearchResult F}
    {s : Session F} (hreturned : progress.returned = false)
    (hbudget : progress.createdTotal < cfg.faceReinforcementMaxEmbeddings)
    (hprobe : probeOf cfg participant requireExactBib s.flushed result = none) :
    (reinforceWith cfg searchSession participant requireExactBib progress result).run s =
      (.ok progress, s) := by
  unfold probeOf reinforces at hprobe
  unfold reinforceWith
  rw [if_neg (by rw [hreturned]; exact Bool.false_ne_true), if_neg (Nat.not_le.mpr hbudget),
    Request.run_query_bind, Request.run_query_bind]
  cases hphoto : s.flushed.photos.get? result.photoId with
  | none => rfl
  | some photo =>
    cases hdetection : s.flushed.photoFaceDetections.get? result.photoFaceDetectionId with
    | none => rfl
    | some detection =>
      rw [hphoto, hdetection] at hprobe
      dsimp only at hprobe ⊢
      rw [Request.run_query_bind]
      cases hadmits : admitsReinforcement cfg requireExactBib participant
        (s.flushed.photoTextDetections.filter fun d => d.photoId == photo.id)
        result.similarityScore with
      | false => rfl
      | true =>
        cases hempty : (normalizeEmbeddingPayload detection.embeddingJson).isEmpty with
        | true => rfl
        | false =>
          simp only [hadmits, hempty, Bool.not_false, Bool.and_self, if_true] at hprobe
          cases hprobe

/-- A result that is searched with writes its candidates, unless the event is too large. -/
theorem run_reinforceWith_of_some {progress : Reinforcement} {result : FaceSearchResult F}
    {embedding : List F} {s : Session F} (hsize : 1 ≤ cfg.maxSearchResults)
    (hreturned : progress.returned = false)
    (hbudget : progress.createdTotal < cfg.faceReinforcementMaxEmbeddings)
    (hfresh : result.photoFaceDetectionId ∉ progress.reinforcedDetectionIds)
    (hprobe : probeOf cfg participant requireExactBib s.flushed result = some embedding) :
    (reinforceWith cfg searchSession participant requireExactBib progress result).run s =
      if cfg.maxSearchFacesPerEvent < (s.flushed.eventFaces searchSession.eventId).length then
        (.error (.runtimeError
          "This event is still being indexed for face search. Please try again later."), s)
      else (.ok { progress with
          createdTotal := progress.createdTotal + 1
          createdThisRound := progress.createdThisRound + 1
          reinforcedDetectionIds :=
            result.photoFaceDetectionId :: progress.reinforcedDetectionIds },
        s.execute (writeSearchResults searchSession.eventId searchSession.id
          (keptBy cfg s.flushed searchSession.eventId embedding).reverse)) := by
  unfold probeOf reinforces at hprobe
  unfold reinforceWith
  rw [if_neg (by rw [hreturned]; exact Bool.false_ne_true), if_neg (Nat.not_le.mpr hbudget),
    Request.run_query_bind, Request.run_query_bind]
  cases hdetection : s.flushed.photoFaceDetections.get? result.photoFaceDetectionId with
  | none =>
    rw [hdetection] at hprobe
    cases hprobe
  | some detection =>
    have hid : detection.id = result.photoFaceDetectionId := Table.get?_key hdetection
    cases hphoto : s.flushed.photos.get? result.photoId with
    | none =>
      rw [hphoto, hdetection] at hprobe
      cases hprobe
    | some photo =>
      rw [hphoto, hdetection] at hprobe
      dsimp only at hprobe ⊢
      rw [Request.run_query_bind]
      split at hprobe
      · rename_i hadmits
        rw [Bool.and_eq_true, Bool.not_eq_true'] at hadmits
        have hsame := Option.some.inj hprobe
        have hseen : progress.reinforcedDetectionIds.contains detection.id = false := by
          rw [hid, ← Bool.not_eq_true, List.contains_iff_mem]
          exact hfresh
        have hrun : (createFaceSearchResults cfg searchSession.eventId searchSession.id
            embedding).run s = _ :=
          run_createFaceSearchResults (keepCandidates_eq_keptBy hsize s.flushed _ embedding)
        rw [← hsame] at hrun ⊢
        simp only [hadmits.1, hadmits.2, hseen, Bool.not_true, Bool.or_self, Bool.false_eq_true,
          if_false]
        rw [Request.run_discard_bind]
        by_cases hlarge : cfg.maxSearchFacesPerEvent <
            (s.flushed.eventFaces searchSession.eventId).length
        · rw [if_pos hlarge] at hrun ⊢
          exact Program.run_bind_error hrun
        · rw [if_neg hlarge] at hrun ⊢
          rw [Program.run_bind_ok hrun, Program.run_pure, hid]
          rfl
      · cases hprobe

theorem run_reinforceWith_of_fits {progress : Reinforcement} {result : FaceSearchResult F}
    {embedding : List F} {s : Session F} (hsize : 1 ≤ cfg.maxSearchResults)
    (hfits : (s.flushed.eventFaces searchSession.eventId).length ≤ cfg.maxSearchFacesPerEvent)
    (hreturned : progress.returned = false)
    (hbudget : progress.createdTotal < cfg.faceReinforcementMaxEmbeddings)
    (hfresh : result.photoFaceDetectionId ∉ progress.reinforcedDetectionIds)
    (hprobe : probeOf cfg participant requireExactBib s.flushed result = some embedding) :
    ∃ progress₁ s₁, (reinforceWith cfg searchSession participant requireExactBib progress
        result).run s = (.ok progress₁, s₁) ∧
      s₁.flushed = writeSearchResults searchSession.eventId searchSession.id
        (keptBy cfg s.flushed searchSession.eventId embedding).reverse s.flushed ∧
      progress₁.returned = false ∧ progress₁.createdTotal = progress.createdTotal + 1 ∧
      progress₁.createdThisRound = progress.createdThisRound + 1 ∧
      progress₁.reinforcedDetectionIds =
        result.photoFaceDetectionId :: progress.reinforcedDetectionIds := by
  have hstep := run_reinforceWith_of_some searchSession participant requireExactBib hsize hreturned
    hbudget hfresh hprobe
  rw [if_neg (Nat.not_lt.mpr hfits)] at hstep
  exact ⟨_, _, hstep, rfl, hreturned, rfl, rfl, rfl⟩

/-- Once the loop has returned nothing happens any more. -/
theorem run_foldlM_of_returned (results : List (FaceSearchResult F)) {progress : Reinforcement}
    (h : progress.returned = true) (s : Session F) :
    (results.foldlM (reinforceWith cfg searchSession participant requireExactBib) progress).run s =
      (.ok progress, s) := by
  induction results with
  | nil => rfl
  | cons result results ih =>
    have hstep :
        (reinforceWith cfg searchSession participant requireExactBib progress result).run s =
        (.ok progress, s) := by
      unfold reinforceWith
      rw [if_pos h]
      rfl
    rw [List.foldlM_cons, Program.run_bind_ok hstep, ih]

/-- When the budget is spent the loop returns. -/
theorem run_foldlM_of_spent (results : List (FaceSearchResult F)) {progress : Reinforcement}
    (hbudget : cfg.faceReinforcementMaxEmbeddings ≤ progress.createdTotal) (s : Session F) :
    ∃ progress', (results.foldlM (reinforceWith cfg searchSession participant requireExactBib)
        progress).run s = (.ok progress', s) ∧ progress'.createdTotal = progress.createdTotal ∧
      progress'.createdThisRound = progress.createdThisRound := by
  cases results with
  | nil => exact ⟨progress, rfl, rfl, rfl⟩
  | cons result results =>
    cases hreturned : progress.returned with
    | true => exact ⟨progress, run_foldlM_of_returned _ _ _ _ hreturned s, rfl, rfl⟩
    | false =>
      have hstep : (reinforceWith cfg searchSession participant requireExactBib progress result).run
          s = (.ok { progress with returned := true }, s) := by
        unfold reinforceWith
        rw [if_neg (by rw [hreturned]; exact Bool.false_ne_true), if_pos hbudget]
        rfl
      refine ⟨{ progress with returned := true }, ?_, rfl, rfl⟩
      rw [List.foldlM_cons, Program.run_bind_ok hstep, run_foldlM_of_returned _ _ _ results rfl]

theorem roundCandidates_congr {db db' : Database F}
    (h : db.exceptSearchResults = db'.exceptSearchResults) (loaded : List (FaceSearchResult F)) :
    roundCandidates cfg searchSession participant requireExactBib db loaded =
      roundCandidates cfg searchSession participant requireExactBib db' loaded := by
  change roundCandidates cfg searchSession participant requireExactBib db.exceptSearchResults
    loaded =
    roundCandidates cfg searchSession participant requireExactBib db'.exceptSearchResults loaded
  rw [h]

omit [Scalar F] in
private theorem eventFaces_congr {db db' : Database F}
    (h : db.exceptSearchResults = db'.exceptSearchResults) (eventId : Uuid) :
    db.eventFaces eventId = db'.eventFaces eventId := by
  change db.exceptSearchResults.eventFaces eventId = db'.exceptSearchResults.eventFaces eventId
  rw [h]

private theorem roundCandidates_cons_of_none {db : Database F} {result : FaceSearchResult F}
    (results : List (FaceSearchResult F))
    (hprobe : probeOf cfg participant requireExactBib db result = none) :
    roundCandidates cfg searchSession participant requireExactBib db (result :: results) =
      roundCandidates cfg searchSession participant requireExactBib db results := by
  rw [roundCandidates, roundCandidates, List.filterMap_cons_none hprobe]

private theorem roundCandidates_cons_of_some {db : Database F} {result : FaceSearchResult F}
    (results : List (FaceSearchResult F)) {embedding : List F}
    (hprobe : probeOf cfg participant requireExactBib db result = some embedding) :
    roundCandidates cfg searchSession participant requireExactBib db (result :: results) =
      (keptBy cfg db searchSession.eventId embedding).reverse ++
        roundCandidates cfg searchSession participant requireExactBib db results := by
  rw [roundCandidates, roundCandidates, List.filterMap_cons_some hprobe, List.flatMap_cons]

/-- A round in an event that is not too large searches with every result that it may, up to the
budget. -/
theorem run_round (hsize : 1 ≤ cfg.maxSearchResults) (results : List (FaceSearchResult F))
    {progress : Reinforcement} {s : Session F}
    (hfits : (s.flushed.eventFaces searchSession.eventId).length ≤ cfg.maxSearchFacesPerEvent)
    (hreturned : progress.returned = false)
    (hdistinct : (results.map (·.photoFaceDetectionId)).Nodup)
    (hfresh : ∀ result ∈ results, result.photoFaceDetectionId ∉ progress.reinforcedDetectionIds) :
    ∃ progress' s', (results.foldlM (reinforceWith cfg searchSession participant requireExactBib)
        progress).run s = (.ok progress', s') ∧
      (progress.createdTotal + (results.filterMap
          (probeOf cfg participant requireExactBib s.flushed)).length <
          cfg.faceReinforcementMaxEmbeddings →
        progress'.returned = false ∧
        progress'.createdTotal = progress.createdTotal +
          (results.filterMap (probeOf cfg participant requireExactBib s.flushed)).length ∧
        progress'.createdThisRound = progress.createdThisRound +
          (results.filterMap (probeOf cfg participant requireExactBib s.flushed)).length ∧
        s'.flushed = writeSearchResults searchSession.eventId searchSession.id
          (roundCandidates cfg searchSession participant requireExactBib s.flushed results)
          s.flushed) ∧
      (cfg.faceReinforcementMaxEmbeddings ≤ progress.createdTotal + (results.filterMap
          (probeOf cfg participant requireExactBib s.flushed)).length →
        cfg.faceReinforcementMaxEmbeddings ≤ progress'.createdTotal) := by
  induction results generalizing progress s with
  | nil =>
    refine ⟨progress, s, rfl, fun _ => ⟨hreturned, rfl, rfl, rfl⟩, fun h => h⟩
  | cons result results ih =>
    have hrest := (List.nodup_cons.mp hdistinct)
    by_cases hbudget : progress.createdTotal < cfg.faceReinforcementMaxEmbeddings
    · cases hprobe : probeOf cfg participant requireExactBib s.flushed result with
      | none =>
        have hstep := run_reinforceWith_of_none searchSession participant requireExactBib hreturned
          hbudget hprobe
        obtain ⟨progress', s', hrun, hsome, hspent⟩ := ih hfits hreturned hrest.2
          fun later hlater => hfresh later (List.mem_cons_of_mem _ hlater)
        have hsame := roundCandidates_cons_of_none searchSession participant requireExactBib
          results hprobe
        refine ⟨progress', s', ?_, ?_, ?_⟩
        · rw [List.foldlM_cons, Program.run_bind_ok hstep, hrun]
        · rw [List.filterMap_cons_none hprobe, hsame]
          exact hsome
        · rw [List.filterMap_cons_none hprobe]
          exact hspent
      | some embedding =>
        obtain ⟨progress₁, s₁, hstep, hflushed, hreturned₁, htotal₁, hround₁, hids₁⟩ :=
          run_reinforceWith_of_fits searchSession participant requireExactBib hsize hfits hreturned
            hbudget (hfresh result List.mem_cons_self) hprobe
        have hframe : s₁.flushed.exceptSearchResults = s.flushed.exceptSearchResults := by
          rw [hflushed]
          exact exceptSearchResults_write _ _ _ _
        have hprobes : probeOf cfg participant requireExactBib s₁.flushed =
            probeOf cfg participant requireExactBib s.flushed :=
          funext fun later => probeOf_congr cfg participant requireExactBib hframe later
        have hfits₁ : (s₁.flushed.eventFaces searchSession.eventId).length ≤
            cfg.maxSearchFacesPerEvent := by
          rw [eventFaces_congr hframe]
          exact hfits
        have hfresh₁ : ∀ later ∈ results,
            later.photoFaceDetectionId ∉ progress₁.reinforcedDetectionIds := by
          intro later hlater hmem
          rw [hids₁] at hmem
          rcases List.mem_cons.mp hmem with hsame | hmem
          · exact hrest.1 (List.mem_map.mpr ⟨later, hlater, hsame⟩)
          · exact hfresh later (List.mem_cons_of_mem _ hlater) hmem
        obtain ⟨progress', s', hrun, hsome, hspent⟩ := ih hfits₁ hreturned₁ hrest.2 hfresh₁
        rw [hprobes, htotal₁] at hsome hspent
        rw [hround₁, roundCandidates_congr _ _ _ hframe] at hsome
        have hcandidates := roundCandidates_cons_of_some searchSession participant requireExactBib
          results hprobe
        rw [List.filterMap_cons_some hprobe, List.length_cons]
        refine ⟨progress', s', ?_, ?_, ?_⟩
        · rw [List.foldlM_cons, Program.run_bind_ok hstep, hrun]
        · intro hlt
          obtain ⟨hreturned', htotal', hround', hflushed'⟩ := hsome (by omega)
          refine ⟨hreturned', by omega, by omega, ?_⟩
          rw [hflushed', hflushed, hcandidates, writeSearchResults, writeSearchResults,
            writeSearchResults, List.foldl_append]
        · intro hle
          exact hspent (by omega)
    · have hspent := Nat.le_of_not_lt hbudget
      obtain ⟨progress', hrun, htotal, -⟩ := run_foldlM_of_spent searchSession participant
        requireExactBib (result :: results) hspent s
      refine ⟨progress', s, hrun, ?_, ?_⟩
      · intro hlt
        omega
      · intro _
        rw [htotal]
        exact hspent

/-- In an event that is too large a round ends without a search or raises. -/
theorem run_round_of_large (hsize : 1 ≤ cfg.maxSearchResults) (results : List (FaceSearchResult F))
    {progress progress' : Reinforcement} {s s' : Session F}
    (hlarge : cfg.maxSearchFacesPerEvent < (s.flushed.eventFaces searchSession.eventId).length)
    (hreturned : progress.returned = false)
    (hfresh : ∀ result ∈ results, result.photoFaceDetectionId ∉ progress.reinforcedDetectionIds)
    (hrun : (results.foldlM (reinforceWith cfg searchSession participant requireExactBib)
      progress).run s = (.ok progress', s')) :
    progress'.createdThisRound = progress.createdThisRound := by
  induction results with
  | nil =>
    have hsame : progress = progress' := Except.ok.inj (congrArg Prod.fst hrun)
    rw [hsame]
  | cons result results ih =>
    by_cases hbudget : progress.createdTotal < cfg.faceReinforcementMaxEmbeddings
    · cases hprobe : probeOf cfg participant requireExactBib s.flushed result with
      | none =>
        have hstep := run_reinforceWith_of_none searchSession participant requireExactBib hreturned
          hbudget hprobe
        rw [List.foldlM_cons, Program.run_bind_ok hstep] at hrun
        exact ih (fun later hlater => hfresh later (List.mem_cons_of_mem _ hlater)) hrun
      | some embedding =>
        have hstep := run_reinforceWith_of_some searchSession participant requireExactBib hsize
          hreturned hbudget (hfresh result List.mem_cons_self) hprobe
        rw [if_pos hlarge] at hstep
        rw [List.foldlM_cons, Program.run_bind_error hstep] at hrun
        cases hrun
    · obtain ⟨progress₁, hspent, -, hround⟩ := run_foldlM_of_spent searchSession participant
        requireExactBib (result :: results) (Nat.le_of_not_lt hbudget) s
      rw [hspent] at hrun
      have hsame : progress₁ = progress' := Except.ok.inj (congrArg Prod.fst hrun)
      rw [← hsame, hround]

end FirstRound

/-! ## Both rounds -/

section BothRounds

variable (cfg : Settings F) (searchSession : FaceSearchSession) (participant : Participant)
  (requireExactBib : Bool)

/-- In both rounds every result that is loaded is decided on as its stored score says. The second
round is reached when the first one has searched and left some of the budget. -/
def UsesStoredScores (s : Session F) : Prop :=
  DecidesOnStored cfg participant requireExactBib s.flushed
      (loadSearchResults cfg searchSession.id [] s.flushed) ∧
    ∀ progress s', ((loadSearchResults cfg searchSession.id [] s.flushed).foldlM
        (reinforceWith cfg searchSession participant requireExactBib) ⟨0, 0, [], false⟩).run s =
        (.ok progress, s') →
      progress.returned = false → progress.createdThisRound ≠ 0 →
      progress.createdTotal < cfg.faceReinforcementMaxEmbeddings →
      DecidesOnStored cfg participant requireExactBib s'.flushed
        (loadSearchResults cfg searchSession.id
          (loadSearchResults cfg searchSession.id [] s.flushed) s'.flushed)

/-- No result that the first query loads with a score too low to be reinforced is lifted: no search
of the first round keeps its detection at a score high enough, while it stays among the results
that the second query loads. -/
def NoneLifted (db : Database F) : Prop :=
  let loaded := loadSearchResults cfg searchSession.id [] db
  let candidates := roundCandidates cfg searchSession participant requireExactBib db loaded
  (db.eventFaces searchSession.eventId).length ≤ cfg.maxSearchFacesPerEvent →
  (loaded.filterMap (probeOf cfg participant requireExactBib db)).length <
    cfg.faceReinforcementMaxEmbeddings →
  ∀ result ∈ loaded,
    reinforces cfg participant requireExactBib db result result.similarityScore = false →
    result.key ∈ (loadSearchResults cfg searchSession.id [] (writeSearchResults
      searchSession.eventId searchSession.id candidates db)).map (·.key) →
    ∀ candidate ∈ candidates, candidate.detectionId = result.photoFaceDetectionId →
      reinforces cfg participant requireExactBib db result candidate.score = false

variable {cfg searchSession participant requireExactBib}

/-- A round's query selects rows of the session. -/
theorem mem_loadSearchResults {db : Database F} {row : FaceSearchResult F}
    (h : row ∈ loadSearchResults cfg searchSession.id [] db) :
    db.faceSearchResults.get? row.key = some row ∧ row.searchSessionId = searchSession.id := by
  obtain ⟨selected, hselected, rfl⟩ := List.mem_map.mp h
  have hsorted := List.mem_of_mem_take hselected
  rw [List.mem_insertionSort, List.mem_filter] at hsorted
  exact ⟨Table.mem_iff_get?.mp hsorted.1, beq_iff_eq.mp hsorted.2⟩

/-- The second query returns what the first one loaded, and the rows that are new. -/
theorem loadSearchResults_cached (cached : List (FaceSearchResult F)) (db : Database F) :
    loadSearchResults cfg searchSession.id cached db =
      (loadSearchResults cfg searchSession.id [] db).map fun row =>
        (cached.find? fun object => object.key == row.key).getD row := by
  rw [loadSearchResults, loadSearchResults, List.map_map]
  rfl

theorem nodup_loadSearchResults (db : Database F) :
    ((loadSearchResults cfg searchSession.id [] db).map (·.photoFaceDetectionId)).Nodup := by
  have hids : (loadSearchResults cfg searchSession.id [] db).Nodup := by
    rw [loadSearchResults]
    refine List.Nodup.map (fun row row' h => h) ?_
    refine List.Nodup.sublist (List.take_sublist _ _) ?_
    refine (List.perm_insertionSort _ _).nodup_iff.mpr ?_
    exact (List.Nodup.of_map _ db.faceSearchResults.nodup).sublist List.filter_sublist
  refine List.Nodup.map_on ?_ hids
  intro row hrow row' hrow' hdetection
  obtain ⟨hget, hsession⟩ := mem_loadSearchResults hrow
  obtain ⟨hget', hsession'⟩ := mem_loadSearchResults hrow'
  have hkey : row.key = row'.key := Prod.ext (hsession.trans hsession'.symm) hdetection
  rw [hkey, hget'] at hget
  exact (Option.some.inj hget).symm

/-- What the first round stores for a result that it has loaded. -/
theorem stored_after_round {db : Database F} {result : FaceSearchResult F}
    (h : result ∈ loadSearchResults cfg searchSession.id [] db)
    (candidates : List (SearchCandidate F)) :
    ∃ stored, (writeSearchResults searchSession.eventId searchSession.id candidates
        db).faceSearchResults.get? result.key = some stored ∧
      (reinforces cfg participant requireExactBib db result stored.similarityScore = true ↔
        reinforces cfg participant requireExactBib db result result.similarityScore = true ∨
          ∃ candidate ∈ candidates, candidate.detectionId = result.photoFaceDetectionId ∧
            reinforces cfg participant requireExactBib db result candidate.score = true) := by
  obtain ⟨hget, hsession⟩ := mem_loadSearchResults h
  have hkey : result.key = (searchSession.id, result.photoFaceDetectionId) :=
    congrArg (Prod.mk · result.photoFaceDetectionId) hsession
  rw [hkey] at hget ⊢
  exact get?_writeSearchResults
    (fun score => reinforces cfg participant requireExactBib db result score = true)
    (reinforces_best cfg participant requireExactBib db result) candidates hget

theorem one_le_of_mem_loadSearchResults {cached : List (FaceSearchResult F)} {db : Database F}
    {result : FaceSearchResult F} (h : result ∈ loadSearchResults cfg searchSession.id cached db) :
    1 ≤ cfg.maxSearchResults := by
  obtain ⟨selected, hselected, -⟩ := List.mem_map.mp h
  have hlength := List.length_pos_of_mem hselected
  rw [List.length_take] at hlength
  omega

/-- The second query returns a loaded result as it was loaded. -/
theorem mem_loadSearchResults_cached {db db' : Database F} {result row : FaceSearchResult F}
    (hloaded : result ∈ loadSearchResults cfg searchSession.id [] db)
    (hrow : row ∈ loadSearchResults cfg searchSession.id [] db') (hkey : row.key = result.key) :
    result ∈ loadSearchResults cfg searchSession.id (loadSearchResults cfg searchSession.id [] db)
      db' := by
  rw [loadSearchResults_cached]
  refine List.mem_map.mpr ⟨row, hrow, ?_⟩
  cases hfind : (loadSearchResults cfg searchSession.id [] db).find? fun object =>
      object.key == row.key with
  | none =>
    have hnone := List.find?_eq_none.mp hfind result hloaded
    rw [hkey, beq_self_eq_true] at hnone
    exact absurd rfl hnone
  | some object =>
    have hobject := (mem_loadSearchResults (List.mem_of_find?_eq_some hfind)).1
    have hfound := List.find?_some hfind
    have hsame : object.key = row.key := beq_iff_eq.mp hfound
    rw [hsame, hkey, (mem_loadSearchResults hloaded).1] at hobject
    exact (Option.some.inj hobject).symm

/-- A result that is lifted and loaded again is decided on by its old score. -/
theorem noneLifted_of_usesStoredScores {s : Session F}
    (h : UsesStoredScores cfg searchSession participant requireExactBib s) :
    NoneLifted cfg searchSession participant requireExactBib s.flushed := by
  have hdistinct : ((loadSearchResults cfg searchSession.id [] s.flushed).map
      (·.photoFaceDetectionId)).Nodup := nodup_loadSearchResults s.flushed
  have hfresh : ∀ result ∈ loadSearchResults cfg searchSession.id [] s.flushed,
      result.photoFaceDetectionId ∉ (⟨0, 0, [], false⟩ : Reinforcement).reinforcedDetectionIds :=
    fun _ _ => List.not_mem_nil
  intro hfits hbudget result hresult hlow hranked candidate hcandidate hdetection
  by_contra hhigh
  have hsize := one_le_of_mem_loadSearchResults hresult
  obtain ⟨progress, s', hrun, hround, -⟩ := run_round searchSession participant requireExactBib
    hsize _ hfits rfl hdistinct hfresh
  obtain ⟨hreturned, htotal, hcreated, hflushed⟩ := hround (by rwa [Nat.zero_add])
  have hsearched : 0 < ((loadSearchResults cfg searchSession.id [] s.flushed).filterMap
      (probeOf cfg participant requireExactBib s.flushed)).length := by
    obtain ⟨embedding, hembedding, -⟩ := List.mem_flatMap.mp hcandidate
    exact List.length_pos_of_mem hembedding
  rw [Nat.zero_add] at htotal hcreated
  have hdecides := h.2 progress s' hrun hreturned (by omega) (by omega)
  obtain ⟨row, hrow, hkey⟩ := List.mem_map.mp hranked
  obtain ⟨stored, hstored, hiff⟩ := stored_after_round hresult
    (roundCandidates cfg searchSession participant requireExactBib s.flushed
      (loadSearchResults cfg searchSession.id [] s.flushed))
  rw [← hflushed] at hrow hstored
  have hframe : s'.flushed.exceptSearchResults = s.flushed.exceptSearchResults := by
    rw [hflushed]
    exact exceptSearchResults_write _ _ _ _
  have hsame := hdecides result (mem_loadSearchResults_cached hresult hrow hkey) stored hstored
  rw [reinforces_congr _ _ _ hframe, reinforces_congr _ _ _ hframe, hlow] at hsame
  rw [hiff.mpr (Or.inr ⟨candidate, hcandidate, hdetection, by simpa using hhigh⟩)] at hsame
  cases hsame

/-- When no result is lifted the old scores decide like the stored ones. -/
theorem usesStoredScores_of_noneLifted {s : Session F}
    (h : NoneLifted cfg searchSession participant requireExactBib s.flushed) :
    UsesStoredScores cfg searchSession participant requireExactBib s := by
  have hdistinct : ((loadSearchResults cfg searchSession.id [] s.flushed).map
      (·.photoFaceDetectionId)).Nodup := nodup_loadSearchResults s.flushed
  have hfresh : ∀ result ∈ loadSearchResults cfg searchSession.id [] s.flushed,
      result.photoFaceDetectionId ∉ (⟨0, 0, [], false⟩ : Reinforcement).reinforcedDetectionIds :=
    fun _ _ => List.not_mem_nil
  constructor
  · intro result hresult stored hstored
    rw [(mem_loadSearchResults hresult).1] at hstored
    rw [Option.some.inj hstored]
  · intro progress s' hrun hreturned hcreated htotal result hresult stored hstored
    have hsize := one_le_of_mem_loadSearchResults hresult
    by_cases hlarge : cfg.maxSearchFacesPerEvent <
        (s.flushed.eventFaces searchSession.eventId).length
    · exact absurd (run_round_of_large searchSession participant requireExactBib hsize _ hlarge rfl
        hfresh hrun) hcreated
    · have hfits := Nat.le_of_not_lt hlarge
      obtain ⟨progress', s'', hrun', hround, hspent⟩ := run_round searchSession participant
        requireExactBib hsize _ hfits rfl hdistinct hfresh
      rw [hrun'] at hrun
      obtain rfl : progress' = progress := Except.ok.inj (congrArg Prod.fst hrun)
      obtain rfl : s'' = s' := congrArg Prod.snd hrun
      rw [Nat.zero_add] at hround hspent
      have hbudget : ((loadSearchResults cfg searchSession.id [] s.flushed).filterMap
          (probeOf cfg participant requireExactBib s.flushed)).length <
          cfg.faceReinforcementMaxEmbeddings := by
        by_contra hnot
        exact absurd (hspent (Nat.le_of_not_lt hnot)) (Nat.not_le.mpr htotal)
      obtain ⟨-, -, -, hflushed⟩ := hround hbudget
      have hframe : s''.flushed.exceptSearchResults = s.flushed.exceptSearchResults := by
        rw [hflushed]
        exact exceptSearchResults_write _ _ _ _
      rw [reinforces_congr _ _ _ hframe, reinforces_congr _ _ _ hframe]
      rw [loadSearchResults_cached] at hresult
      obtain ⟨row, hrow, hobject⟩ := List.mem_map.mp hresult
      have hrowKey := (mem_loadSearchResults hrow).1
      cases hfind : (loadSearchResults cfg searchSession.id [] s.flushed).find? fun object =>
          object.key == row.key with
      | none =>
        rw [hfind, Option.getD_none] at hobject
        rw [← hobject, hrowKey] at hstored
        rw [← hobject, ← Option.some.inj hstored]
      | some object =>
        rw [hfind, Option.getD_some] at hobject
        rw [← hobject] at hstored ⊢
        have hloaded := List.mem_of_find?_eq_some hfind
        have hfound := List.find?_some hfind
        have hsame : object.key = row.key := beq_iff_eq.mp hfound
        obtain ⟨after, hafter, hiff⟩ := stored_after_round hloaded
          (roundCandidates cfg searchSession participant requireExactBib s.flushed
            (loadSearchResults cfg searchSession.id [] s.flushed))
        rw [← hflushed, hstored] at hafter
        obtain rfl := Option.some.inj hafter
        cases hlow : reinforces cfg participant requireExactBib s.flushed object
            object.similarityScore with
        | true => exact (hiff.mpr (Or.inl hlow)).symm
        | false =>
          have hranked : object.key ∈ (loadSearchResults cfg searchSession.id []
              (writeSearchResults searchSession.eventId searchSession.id
                (roundCandidates cfg searchSession participant requireExactBib s.flushed
                  (loadSearchResults cfg searchSession.id [] s.flushed)) s.flushed)).map
              (·.key) := by
            rw [← hflushed, hsame]
            exact List.mem_map_of_mem hrow
          have hnone := h hfits hbudget object hloaded hlow hranked
          cases hhigh : reinforces cfg participant requireExactBib s.flushed object
              stored.similarityScore with
          | false => rfl
          | true =>
            rcases hiff.mp hhigh with hobjectHigh | ⟨candidate, hmem, hdetection, hcandidate⟩
            · rw [hlow] at hobjectHigh
              cases hobjectHigh
            · rw [hnone candidate hmem hdetection] at hcandidate
              cases hcandidate

/-- The two rounds of `apply_adaptive_reinforcement`. -/
theorem run_applyAdaptiveReinforcement {s s' : Session F} {participantId : Uuid}
    {progress : Reinforcement} (hparticipantId : searchSession.participantId = some participantId)
    (hparticipant : s.current.participants.get? participantId = some participant)
    (hfirst : ((loadSearchResults cfg searchSession.id [] s.flushed).foldlM
      (reinforceWith cfg searchSession participant requireExactBib) ⟨0, 0, [], false⟩).run s =
      (.ok progress, s'))
    (hreturned : progress.returned = false) (hcreated : progress.createdThisRound ≠ 0) :
    (applyAdaptiveReinforcement cfg searchSession requireExactBib).run s =
      ((loadSearchResults cfg searchSession.id (loadSearchResults cfg searchSession.id [] s.flushed)
        s'.flushed).foldlM (reinforceWith cfg searchSession participant requireExactBib)
          { progress with createdThisRound := 0 } >>= fun progress =>
            pure progress.createdTotal).run s' := by
  have hcontinue : (progress.returned || progress.createdThisRound == 0) = false := by
    rw [hreturned, Bool.false_or, beq_eq_false_iff_ne]
    exact hcreated
  unfold applyAdaptiveReinforcement
  rw [hparticipantId]
  dsimp only
  rw [Request.run_loaded_bind, hparticipant]
  dsimp only
  rw [Request.run_query_bind, Program.run_bind_ok hfirst,
    if_neg (by rw [hcontinue]; exact Bool.false_ne_true),
    Request.run_query_bind]

/-- The second round decides on the stored scores exactly when the first round lifts no result that
it had loaded over its threshold. -/
theorem usesStoredScores_iff_noneLifted (s : Session F) :
    UsesStoredScores cfg searchSession participant requireExactBib s ↔
      NoneLifted cfg searchSession participant requireExactBib s.flushed :=
  ⟨noneLifted_of_usesStoredScores, usesStoredScores_of_noneLifted⟩

end BothRounds

/-! ## A result that is lifted -/

/-- A face at cosine 3/5 of the first unit vector. -/
def tiltedFace : List ℚ := 3 / 5 :: 4 / 5 :: List.replicate (embeddingDimensions - 2) 0

/-- The search of a runner without a bib in the texts. -/
def liftSearch : FaceSearchSession := ⟨2, 1, some 3, .processing, none⟩

/-- The runner who searches. -/
def liftRunner : Participant := ⟨3, 1, "7".toList, "Ada".toList, "7".toList, "ada".toList⟩

/-- A strong result, and one that is too weak until the strong one is searched with. -/
def strongAndWeak : Database ℚ :=
  { Database.empty with
    participants := ⟨[liftRunner], List.nodup_singleton _⟩
    photos := ⟨[⟨4, 1, "a".toList, "a.jpg".toList, "image/jpeg".toList, .ready, 0⟩,
      ⟨5, 1, "b".toList, "b.jpg".toList, "image/jpeg".toList, .ready, 0⟩], by decide⟩
    photoFaceDetections := ⟨[⟨6, 1, 4, 8, 0, firstUnit ℚ, none, none, none⟩,
      ⟨7, 1, 5, 9, 0, tiltedFace, none, none, none⟩], by decide⟩
    faceSearchSessions := ⟨[liftSearch], List.nodup_singleton _⟩
    faceSearchResults := ⟨[⟨1, 2, 4, 6, 3 / 5⟩, ⟨1, 2, 5, 7, 2 / 5⟩], by decide⟩ }

/-- The first round lifts the weak result to 3/5; the second one still decides on 2/5. -/
theorem lifted_result_not_reinforced :
    ¬UsesStoredScores (Settings.environment ℚ) liftSearch liftRunner false
      (Session.sessionLocal (World.still 0 id) strongAndWeak) := by
  intro h
  have hnone : NoneLifted (Settings.environment ℚ) liftSearch liftRunner false strongAndWeak :=
    noneLifted_of_usesStoredScores h
  have hlifted : ((roundCandidates (Settings.environment ℚ) liftSearch liftRunner false
      strongAndWeak (loadSearchResults (Settings.environment ℚ) 2 [] strongAndWeak)).any fun c =>
        c.detectionId == 7 && decide (1 / 2 ≤ c.score)) = true := by
    decide +kernel
  obtain ⟨candidate, hcandidate, hlift⟩ := List.any_eq_true.mp hlifted
  rw [Bool.and_eq_true, beq_iff_eq, decide_eq_true_eq] at hlift
  have hloaded : (⟨1, 2, 5, 7, 2 / 5⟩ : FaceSearchResult ℚ) ∈
      loadSearchResults (Settings.environment ℚ) 2 [] strongAndWeak := by decide +kernel
  have hhalf : reinforces (Settings.environment ℚ) liftRunner false strongAndWeak
      ⟨1, 2, 5, 7, 2 / 5⟩ (1 / 2) = true := by decide +kernel
  have hlow := hnone (by decide +kernel) (by decide +kernel) _ hloaded (by decide +kernel)
    (by decide +kernel) candidate hcandidate hlift.1
  rw [reinforces_mono _ _ _ hlift.2 hhalf] at hlow
  cases hlow

end RaceFrame
