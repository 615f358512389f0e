import RaceFrame.Core.Maxima
import RaceFrame.Search.Selection

/-!
# Probing again

Retries and reinforcement run further probes through `create_face_search_results`
for one session. Which detections a probe keeps depends on the detections of the
event alone, and a result is only ever raised, so the results are the pointwise
maximum over the probes.
-/

namespace RaceFrame

open Core

variable {F : Type} [Scalar F]

/-- How much a detection looks like a probe. -/
def probeScore (probe : List F) (detection : PhotoFaceDetection F) : F :=
  cosineSimilarity probe detection.embeddingJson

/-- A probe keeps a detection that reaches the threshold and that fewer detections surpass than
there are results. -/
def probeKeeps (cfg : Settings F) (faces : List (PhotoFaceDetection F)) (probe : List F)
    (detection : PhotoFaceDetection F) : Bool :=
  decide (cfg.faceCandidateSimilarityThreshold ≤ probeScore probe detection) &&
    decide (faces.countP (fun other => probeScore probe detection < probeScore probe other) <
      cfg.maxSearchResults)

/-- The score in the last place that a probe keeps. -/
structure IsCutOff (cfg : Settings F) (faces : List (PhotoFaceDetection F)) (probe : List F)
    (value : F) : Prop where
  candidate : cfg.faceCandidateSimilarityThreshold ≤ value
  above : faces.countP (fun other => value < probeScore probe other) < cfg.maxSearchResults
  reached : cfg.maxSearchResults ≤ faces.countP (fun other => value ≤ probeScore probe other)

/-- No two detections tie at the cut-off score of a probe. -/
def NoTies (cfg : Settings F) (faces : List (PhotoFaceDetection F)) (probe : List F) : Prop :=
  ∀ value, IsCutOff cfg faces probe value → ∀ detection ∈ faces, ∀ other ∈ faces,
    probeScore probe detection = value → probeScore probe other = value → detection = other

/-- Different scores do not tie. -/
theorem noTies_of_nodup {cfg : Settings F} {faces : List (PhotoFaceDetection F)} {probe : List F}
    (h : (faces.map (probeScore probe)).Nodup) : NoTies cfg faces probe :=
  fun _ _ _ hdetection _ hother hscore hscore' =>
    List.inj_on_of_nodup_map h hdetection hother (hscore.trans hscore'.symm)

/-- The candidate of a detection. -/
def searchCandidate (probe : List F) (detection : PhotoFaceDetection F) : SearchCandidate F :=
  ⟨probeScore probe detection, detection.id, detection.photoId⟩

theorem candidateOf_eq (cfg : Settings F) (probe : List F) (detection : PhotoFaceDetection F) :
    candidateOf cfg probe detection =
      if probeScore probe detection < cfg.faceCandidateSimilarityThreshold then none
      else some (searchCandidate probe detection) := rfl

theorem mem_candidatesOf {cfg : Settings F} {faces : List (PhotoFaceDetection F)} {probe : List F}
    {candidate : SearchCandidate F} :
    candidate ∈ candidatesOf cfg probe faces ↔ ∃ detection ∈ faces,
      cfg.faceCandidateSimilarityThreshold ≤ probeScore probe detection ∧
        searchCandidate probe detection = candidate := by
  rw [candidatesOf, List.mem_filterMap]
  refine exists_congr fun detection => and_congr_right fun _ => ?_
  rw [candidateOf_eq]
  by_cases hlow : probeScore probe detection < cfg.faceCandidateSimilarityThreshold
  · rw [if_pos hlow]
    exact iff_of_false (Option.some_ne_none _).symm fun h => absurd hlow (not_lt_of_ge h.1)
  · rw [if_neg hlow, Option.some.injEq]
    exact (and_iff_right (not_lt.mp hlow)).symm

private theorem countP_candidatesOf {cfg : Settings F} (probe : List F) {above : F → Bool}
    (habove : ∀ value, value < cfg.faceCandidateSimilarityThreshold → above value = false)
    (faces : List (PhotoFaceDetection F)) :
    (candidatesOf cfg probe faces).countP (fun candidate => above candidate.score) =
      faces.countP fun detection => above (probeScore probe detection) := by
  induction faces with
  | nil => rfl
  | cons detection faces ih =>
    rw [candidatesOf, List.filterMap_cons, candidateOf_eq, List.countP_cons]
    by_cases hlow : probeScore probe detection < cfg.faceCandidateSimilarityThreshold
    · rw [if_pos hlow, habove _ hlow]
      exact ih
    · rw [if_neg hlow, List.countP_cons]
      exact congrArg (· + _) ih

private theorem eq_of_searchCandidate_eq {faces : List (PhotoFaceDetection F)}
    (hdistinct : (faces.map (·.id)).Nodup) {probe : List F} {detection other : PhotoFaceDetection F}
    (hdetection : detection ∈ faces) (hother : other ∈ faces)
    (h : searchCandidate probe detection = searchCandidate probe other) : detection = other :=
  List.inj_on_of_nodup_map hdistinct hdetection hother
    (congrArg SearchCandidate.detectionId h)

/-- Without ties at the cut-off, what the heap keeps does not depend on the order of the rows. -/
theorem mem_kept_iff {cfg : Settings F} {faces : List (PhotoFaceDetection F)} {probe : List F}
    (hdistinct : (faces.map (·.id)).Nodup) (hties : NoTies cfg faces probe)
    {kept : List (SearchCandidate F)}
    (hstrong : Strongest SearchCandidate.score cfg.maxSearchResults
      (candidatesOf cfg probe faces).reverse kept) {detection : PhotoFaceDetection F}
    (hdetection : detection ∈ faces) :
    searchCandidate probe detection ∈ kept ↔ probeKeeps cfg faces probe detection = true := by
  have hcount : ∀ above : F → Bool,
      (∀ value, value < cfg.faceCandidateSimilarityThreshold → above value = false) →
      (candidatesOf cfg probe faces).reverse.countP (fun candidate => above candidate.score) =
        faces.countP fun detection => above (probeScore probe detection) := by
    intro above habove
    rw [List.countP_reverse]
    exact countP_candidatesOf probe habove faces
  have hscore : (searchCandidate probe detection).score = probeScore probe detection := rfl
  have hbelow : cfg.faceCandidateSimilarityThreshold ≤ probeScore probe detection →
      ∀ value, value < cfg.faceCandidateSimilarityThreshold →
        decide (probeScore probe detection < value) = false ∧
          decide (probeScore probe detection ≤ value) = false := fun hhigh value hvalue =>
    ⟨decide_eq_false (not_lt_of_ge (hvalue.le.trans hhigh)),
      decide_eq_false (not_le_of_gt (hvalue.trans_le hhigh))⟩
  rw [probeKeeps, Bool.and_eq_true, decide_eq_true_eq, decide_eq_true_eq]
  constructor
  · intro hkept
    obtain ⟨other, hother, hhigh, hsame⟩ :=
      mem_candidatesOf.mp (List.mem_reverse.mp (hstrong.subset hkept))
    rw [eq_of_searchCandidate_eq hdistinct hother hdetection hsame] at hhigh
    have hlt := hstrong.countP_lt_of_mem hkept
    rw [hscore, hcount (fun value => decide (probeScore probe detection < value))
      fun value hvalue => (hbelow hhigh value hvalue).1] at hlt
    exact ⟨hhigh, hlt⟩
  · rintro ⟨hhigh, hlt⟩
    have hmem : searchCandidate probe detection ∈ (candidatesOf cfg probe faces).reverse :=
      List.mem_reverse.mpr (mem_candidatesOf.mpr ⟨detection, hdetection, hhigh, rfl⟩)
    refine hstrong.mem_of_countP_lt hmem ?_ ?_
    · rw [hscore, hcount (fun value => decide (probeScore probe detection < value))
        fun value hvalue => (hbelow hhigh value hvalue).1]
      exact hlt
    · rw [hscore, hcount (fun value => decide (probeScore probe detection ≤ value))
        fun value hvalue => (hbelow hhigh value hvalue).2]
      intro hreached candidate hcandidate hequal
      obtain ⟨other, hother, -, rfl⟩ := mem_candidatesOf.mp (List.mem_reverse.mp hcandidate)
      rw [hties _ ⟨hhigh, hlt, hreached⟩ other hother detection hdetection hequal rfl]

/-! ## The results of a probe -/

/-- The result row of a detection. -/
def searchResult (eventId searchSessionId : Uuid) (detection : PhotoFaceDetection F) (score : F) :
    FaceSearchResult F where
  eventId := eventId
  searchSessionId := searchSessionId
  photoId := detection.photoId
  photoFaceDetectionId := detection.id
  similarityScore := score

/-- The row that is written for a candidate. -/
def SearchCandidate.toResult (eventId searchSessionId : Uuid) (candidate : SearchCandidate F) :
    FaceSearchResult F where
  eventId := eventId
  searchSessionId := searchSessionId
  photoId := candidate.photoId
  photoFaceDetectionId := candidate.detectionId
  similarityScore := candidate.score

/-- A repeated result keeps the larger score. -/
theorem mergeSearchResult_searchResult (eventId searchSessionId : Uuid)
    (detection : PhotoFaceDetection F) (stored excluded : F) :
    mergeSearchResult (searchResult eventId searchSessionId detection stored)
        (searchResult eventId searchSessionId detection excluded) =
      searchResult eventId searchSessionId detection (max stored excluded) := by
  have hscore : (if excluded ≤ stored then stored else excluded) = max stored excluded := by
    by_cases hle : excluded ≤ stored
    · rw [if_pos hle, max_eq_left hle]
    · rw [if_neg hle, max_eq_right (le_of_not_ge hle)]
  rw [← hscore]
  rfl

private theorem foldl_writeSearchResult (eventId searchSessionId : Uuid)
    (candidates : List (SearchCandidate F)) (db : Database F) :
    candidates.foldl (fun db c => writeSearchResult eventId searchSessionId c db) db =
      { db with
        faceSearchResults := (candidates.map (·.toResult eventId searchSessionId)).foldl
          (fun table row => table.upsert mergeSearchResult row) db.faceSearchResults } := by
  induction candidates generalizing db with
  | nil => rfl
  | cons candidate candidates ih =>
    exact ih (writeSearchResult eventId searchSessionId candidate db)

/-- What one probe does to the session: it writes the results of the detections that it keeps. -/
structure ProbeStep (cfg : Settings F) (eventId searchSessionId : Uuid) (probe : List F)
    (s t : Session F) : Prop where
  faces : t.flushed.eventFaces eventId = s.flushed.eventFaces eventId
  /-- A result is never removed or lowered. -/
  grows : ∀ row ∈ s.flushed.faceSearchResults.rows, ∃ row' ∈ t.flushed.faceSearchResults.rows,
    row'.key = row.key ∧ row.similarityScore ≤ row'.similarityScore
  /-- A new result is one of a detection of the event. -/
  of_mem : ∀ row ∈ t.flushed.faceSearchResults.rows, row.searchSessionId = searchSessionId →
    (∃ row' ∈ s.flushed.faceSearchResults.rows, row'.key = row.key) ∨
      ∃ detection ∈ s.flushed.eventFaces eventId, row.photoFaceDetectionId = detection.id
  /-- Without ties the results are those of the detections that the probe keeps. -/
  get? : NoTies cfg (s.flushed.eventFaces eventId) probe →
    ∀ detection ∈ s.flushed.eventFaces eventId,
      t.flushed.faceSearchResults.get? (searchSessionId, detection.id) =
        if probeKeeps cfg (s.flushed.eventFaces eventId) probe detection then
          mergeInto mergeSearchResult
            (s.flushed.faceSearchResults.get? (searchSessionId, detection.id))
            (searchResult eventId searchSessionId detection (probeScore probe detection))
        else s.flushed.faceSearchResults.get? (searchSessionId, detection.id)

omit [Scalar F] in
theorem nodup_eventFaces (db : Database F) (eventId : Uuid) :
    ((db.eventFaces eventId).map (·.id)).Nodup :=
  db.photoFaceDetections.nodup.sublist (List.filter_sublist.map _)

private theorem foldl_mergeSearchResult_grows {rows : List (FaceSearchResult F)}
    {stored : FaceSearchResult F} {row : FaceSearchResult F}
    (h : rows.foldl (mergeInto mergeSearchResult) (some stored) = some row) :
    stored.similarityScore ≤ row.similarityScore := by
  induction rows generalizing stored with
  | nil => rw [Option.some.inj h]
  | cons first rows ih =>
    refine le_trans ?_ (ih h)
    change stored.similarityScore ≤
      if first.similarityScore ≤ stored.similarityScore then stored.similarityScore
      else first.similarityScore
    split
    · exact le_rfl
    · rename_i hlt
      exact (not_le.mp hlt).le

omit [Scalar F] in
private theorem filter_toResult (eventId searchSessionId : Uuid)
    (candidates : List (SearchCandidate F)) (detectionId : Uuid) :
    ((candidates.map (·.toResult eventId searchSessionId)).filter fun row =>
        row.key = (searchSessionId, detectionId)) =
      (candidates.filter fun candidate => candidate.detectionId = detectionId).map
        (·.toResult eventId searchSessionId) := by
  rw [List.filter_map]
  refine congrArg (List.map _) (List.filter_congr fun candidate _ => ?_)
  simp [SearchCandidate.toResult, FaceSearchResult.key]

private theorem get?_written (eventId searchSessionId : Uuid)
    (candidates : List (SearchCandidate F))
    (table : Table (FaceSearchResult F) FaceSearchResult.key) (key : Uuid × Uuid) :
    ((candidates.map (·.toResult eventId searchSessionId)).foldl
        (fun table row => table.upsert mergeSearchResult row) table).get? key =
      ((candidates.map (·.toResult eventId searchSessionId)).filter fun row =>
        row.key = key).foldl (mergeInto mergeSearchResult) (table.get? key) := by
  have hmerge : ∀ old row : FaceSearchResult F, old.key = row.key →
      (mergeSearchResult old row).key = old.key := fun _ _ _ => rfl
  exact Table.get?_foldl_upsert hmerge _ table key

section Kept

variable {cfg : Settings F} {faces : List (PhotoFaceDetection F)} {probe : List F}
  {kept : List (SearchCandidate F)}
  (hstrong : Strongest SearchCandidate.score cfg.maxSearchResults
    (candidatesOf cfg probe faces).reverse kept)

include hstrong

private theorem exists_detection_of_mem_kept {candidate : SearchCandidate F}
    (hcandidate : candidate ∈ kept) :
    ∃ detection ∈ faces, searchCandidate probe detection = candidate := by
  obtain ⟨detection, hdetection, -, hsame⟩ :=
    mem_candidatesOf.mp (List.mem_reverse.mp (hstrong.subset hcandidate))
  exact ⟨detection, hdetection, hsame⟩

/-- Without ties the candidate of a detection is written once if the probe keeps the detection. -/
private theorem filter_kept (hdistinct : (faces.map (·.id)).Nodup)
    (hties : NoTies cfg faces probe) {detection : PhotoFaceDetection F}
    (hdetection : detection ∈ faces) :
    (kept.reverse.filter fun candidate => candidate.detectionId = detection.id) =
      if probeKeeps cfg faces probe detection then [searchCandidate probe detection] else [] := by
  have hkeeps := mem_kept_iff hdistinct hties hstrong hdetection
  by_cases hkeep : probeKeeps cfg faces probe detection = true
  · have hnodup : (kept.reverse.map (·.detectionId)).Nodup := by
      rw [List.map_reverse, List.nodup_reverse]
      refine hstrong.nodup_map ?_
      rw [List.map_reverse, List.nodup_reverse]
      exact nodup_candidatesOf hdistinct
    have hmem := List.mem_reverse.mpr (hkeeps.mpr hkeep)
    rw [if_pos hkeep]
    refine filter_eq_singleton (List.Nodup.of_map _ hnodup) hmem (decide_eq_true rfl) ?_
    intro other hother h
    exact List.inj_on_of_nodup_map hnodup hother hmem (of_decide_eq_true h)
  · rw [if_neg hkeep, List.filter_eq_nil_iff]
    intro candidate hcandidate hid
    have hcandidate := List.mem_reverse.mp hcandidate
    obtain ⟨other, hother, rfl⟩ := exists_detection_of_mem_kept hstrong hcandidate
    have hsame : other = detection :=
      List.inj_on_of_nodup_map hdistinct hother hdetection (of_decide_eq_true hid)
    rw [hsame] at hcandidate
    exact hkeep (hkeeps.mp hcandidate)

end Kept

/-- A probe of an event that is not too large succeeds. -/
theorem run_probe {cfg : Settings F} (hsize : 1 ≤ cfg.maxSearchResults)
    (eventId searchSessionId : Uuid) (probe : List F) {s : Session F}
    (hfits : (s.flushed.eventFaces eventId).length ≤ cfg.maxSearchFacesPerEvent) :
    ∃ n t, (createFaceSearchResults cfg eventId searchSessionId probe).run s = (.ok n, t) ∧
      ProbeStep cfg eventId searchSessionId probe s t := by
  obtain ⟨kept, hkept, hstrong⟩ :=
    keepCandidates_strongest hsize probe (s.flushed.eventFaces eventId)
  have hrun := @run_createFaceSearchResults F _ cfg eventId searchSessionId probe s kept hkept
  rw [if_neg (not_lt_of_ge hfits)] at hrun
  have htable : ∀ db : Database F,
      (kept.reverse.foldl (fun db c => writeSearchResult eventId searchSessionId c db)
        db).faceSearchResults =
        (kept.reverse.map (·.toResult eventId searchSessionId)).foldl
          (fun table row => table.upsert mergeSearchResult row) db.faceSearchResults := by
    intro db
    rw [foldl_writeSearchResult]
  refine ⟨_, _, hrun, ?_, fun row hrow => ?_, fun row hrow hsession => ?_,
    fun hties detection hdetection => ?_⟩
  · rw [Session.execute_flushed, foldl_writeSearchResult]
    rfl
  · have hstored := Table.mem_iff_get?.mp hrow
    have hafter := get?_written eventId searchSessionId kept.reverse s.flushed.faceSearchResults
      row.key
    rw [hstored, foldl_mergeInto_some] at hafter
    rw [Session.execute_flushed, htable]
    refine ⟨_, Table.mem_of_get? hafter, Table.get?_key hafter, ?_⟩
    exact foldl_mergeSearchResult_grows (foldl_mergeInto_some mergeSearchResult _ row)
  · rw [Session.execute_flushed, htable] at hrow
    have hafter := Table.mem_iff_get?.mp hrow
    rw [get?_written] at hafter
    cases hstored : s.flushed.faceSearchResults.get? row.key with
    | some old => exact Or.inl ⟨old, Table.mem_of_get? hstored, Table.get?_key hstored⟩
    | none =>
      refine Or.inr ?_
      rw [hstored] at hafter
      cases hwritten : (kept.reverse.map (·.toResult eventId searchSessionId)).filter fun r =>
          r.key = row.key with
      | nil =>
        rw [hwritten] at hafter
        cases hafter
      | cons first rest =>
        have hfirst : first ∈ (kept.reverse.map (·.toResult eventId searchSessionId)).filter
            fun r => r.key = row.key := by
          rw [hwritten]
          exact List.mem_cons_self
        obtain ⟨hmem, hkey⟩ := List.mem_filter.mp hfirst
        obtain ⟨candidate, hcandidate, rfl⟩ := List.mem_map.mp hmem
        obtain ⟨detection, hdetection, rfl⟩ :=
          exists_detection_of_mem_kept hstrong (List.mem_reverse.mp hcandidate)
        exact ⟨detection, hdetection, (congrArg Prod.snd (of_decide_eq_true hkey)).symm⟩
  · rw [Session.execute_flushed, htable, get?_written, filter_toResult,
      filter_kept hstrong (nodup_eventFaces s.flushed eventId) hties hdetection]
    split
    · rfl
    · rfl

/-! ## Sequences of probes -/

/-- Probes of one session, one after the other. -/
def runProbes (cfg : Settings F) (eventId searchSessionId : Uuid) (probes : List (List F)) :
    Request F PUnit :=
  probes.forM fun probe => discard (createFaceSearchResults cfg eventId searchSessionId probe)

/-- The scores of the probes that keep a detection. -/
def keptScores (cfg : Settings F) (faces : List (PhotoFaceDetection F)) (probes : List (List F))
    (detection : PhotoFaceDetection F) : List F :=
  (probes.filter fun probe => probeKeeps cfg faces probe detection).map fun probe =>
    probeScore probe detection

theorem run_runProbes_cons {cfg : Settings F} {eventId searchSessionId : Uuid} {probe : List F}
    {probes : List (List F)} {n : Nat} {s t : Session F}
    (h : (createFaceSearchResults cfg eventId searchSessionId probe).run s = (.ok n, t)) :
    (runProbes cfg eventId searchSessionId (probe :: probes)).run s =
      (runProbes cfg eventId searchSessionId probes).run t := by
  change (discard (createFaceSearchResults cfg eventId searchSessionId probe) >>= fun _ =>
    runProbes cfg eventId searchSessionId probes).run s = _
  rw [Request.run_discard_bind, Program.run_bind_ok h]

/-- What a sequence of probes does to the session. -/
theorem runProbes_spec {cfg : Settings F} (hsize : 1 ≤ cfg.maxSearchResults)
    (eventId searchSessionId : Uuid) (probes : List (List F)) {s : Session F}
    (hfits : (s.flushed.eventFaces eventId).length ≤ cfg.maxSearchFacesPerEvent) :
    ∃ t, (runProbes cfg eventId searchSessionId probes).run s = (.ok (), t) ∧
      t.flushed.eventFaces eventId = s.flushed.eventFaces eventId ∧
      (∀ row ∈ t.flushed.faceSearchResults.rows, row.searchSessionId = searchSessionId →
        (∃ row' ∈ s.flushed.faceSearchResults.rows, row'.key = row.key) ∨
          ∃ detection ∈ s.flushed.eventFaces eventId,
            row.photoFaceDetectionId = detection.id) ∧
      ((∀ probe ∈ probes, NoTies cfg (s.flushed.eventFaces eventId) probe) →
        ∀ detection ∈ s.flushed.eventFaces eventId,
          t.flushed.faceSearchResults.get? (searchSessionId, detection.id) =
            ((keptScores cfg (s.flushed.eventFaces eventId) probes detection).map
              (searchResult eventId searchSessionId detection)).foldl
                (mergeInto mergeSearchResult)
                (s.flushed.faceSearchResults.get? (searchSessionId, detection.id))) := by
  induction probes generalizing s with
  | nil =>
    exact ⟨s, rfl, rfl, fun row hrow _ => Or.inl ⟨row, hrow, rfl⟩, fun _ _ _ => rfl⟩
  | cons probe probes ih =>
    obtain ⟨n, u, hrun, hstep⟩ := run_probe hsize eventId searchSessionId probe hfits
    have hfits' : (u.flushed.eventFaces eventId).length ≤ cfg.maxSearchFacesPerEvent := by
      rw [hstep.faces]
      exact hfits
    obtain ⟨t, hrest, hfaces, hof, hget⟩ := ih hfits'
    rw [hstep.faces] at hfaces hof hget
    refine ⟨t, (run_runProbes_cons hrun).trans hrest, hfaces, fun row hrow hsession => ?_,
      fun hties detection hdetection => ?_⟩
    · rcases hof row hrow hsession with ⟨row', hrow', hkey⟩ | hnew
      · have hsession' : row'.searchSessionId = searchSessionId :=
          (congrArg Prod.fst hkey).trans hsession
        rcases hstep.of_mem row' hrow' hsession' with ⟨old, hold, hkey'⟩ | ⟨d, hd, hid⟩
        · exact Or.inl ⟨old, hold, hkey'.trans hkey⟩
        · exact Or.inr ⟨d, hd, (congrArg Prod.snd hkey).symm.trans hid⟩
      · exact Or.inr hnew
    · rw [hget (fun p hp => hties p (List.mem_cons_of_mem probe hp)) detection hdetection,
        hstep.get? (hties probe List.mem_cons_self) detection hdetection, keptScores, keptScores,
        List.filter_cons]
      split
      · rfl
      · rfl

private theorem foldl_searchResult (eventId searchSessionId : Uuid)
    (detection : PhotoFaceDetection F) (scores : List F) :
    (scores.map (searchResult eventId searchSessionId detection)).foldl
        (mergeInto mergeSearchResult) none =
      scores.max?.map (searchResult eventId searchSessionId detection) := by
  cases scores with
  | nil => rfl
  | cons first scores =>
    have hfold : ∀ (scores : List F) (stored : F),
        (scores.map (searchResult eventId searchSessionId detection)).foldl mergeSearchResult
            (searchResult eventId searchSessionId detection stored) =
          searchResult eventId searchSessionId detection (scores.foldl max stored) := by
      intro scores
      induction scores with
      | nil => exact fun _ => rfl
      | cons score scores ih =>
        intro stored
        rw [List.map_cons, List.foldl_cons, mergeSearchResult_searchResult, ih, List.foldl_cons]
    change ((scores.map _).foldl (mergeInto mergeSearchResult)
      (some (searchResult eventId searchSessionId detection first))) = _
    rw [foldl_mergeInto_some, hfold, List.max?_cons', Option.map_some]

/-- The results of a session after probes without ties are the pointwise maximum: one row for each
detection that some probe keeps, with its largest score among those probes. They depend on the set
of the probes only, and a further probe never removes a row or lowers a score. -/
theorem probes_pointwise_max {cfg : Settings F} (hsize : 1 ≤ cfg.maxSearchResults)
    {eventId searchSessionId : Uuid} {probes : List (List F)} {s : Session F}
    (hfits : (s.flushed.eventFaces eventId).length ≤ cfg.maxSearchFacesPerEvent)
    (hties : ∀ probe ∈ probes, NoTies cfg (s.flushed.eventFaces eventId) probe)
    (hnew : ∀ row ∈ s.flushed.faceSearchResults.rows, row.searchSessionId ≠ searchSessionId) :
    let results := fun probes =>
      ((runProbes cfg eventId searchSessionId probes).run s).2.flushed.faceSearchResults
    ((runProbes cfg eventId searchSessionId probes).run s).1 = .ok () ∧
      (∀ row ∈ (results probes).rows, row.searchSessionId = searchSessionId →
        ∃ detection ∈ s.flushed.eventFaces eventId, row.photoFaceDetectionId = detection.id) ∧
      (∀ detection ∈ s.flushed.eventFaces eventId,
        (results probes).get? (searchSessionId, detection.id) =
          (keptScores cfg (s.flushed.eventFaces eventId) probes detection).max?.map
            (searchResult eventId searchSessionId detection)) ∧
      (∀ probes' : List (List F), (∀ probe, probe ∈ probes' ↔ probe ∈ probes) →
        ∀ detectionId, (results probes').get? (searchSessionId, detectionId) =
          (results probes).get? (searchSessionId, detectionId)) ∧
      ∀ probe, ∀ row ∈ (results probes).rows, ∃ row' ∈ (results (probes ++ [probe])).rows,
        row'.key = row.key ∧ row.similarityScore ≤ row'.similarityScore := by
  intro results
  have hspec := fun probes => runProbes_spec hsize eventId searchSessionId probes hfits
  have hof : ∀ probes, ∀ row ∈ (results probes).rows, row.searchSessionId = searchSessionId →
      ∃ detection ∈ s.flushed.eventFaces eventId, row.photoFaceDetectionId = detection.id := by
    intro probes row hrow hsession
    obtain ⟨t, hrun, -, hof, -⟩ := hspec probes
    change row ∈ ((runProbes cfg eventId searchSessionId probes).run
      s).2.flushed.faceSearchResults.rows at hrow
    rw [hrun] at hrow
    refine (hof row hrow hsession).resolve_left ?_
    rintro ⟨old, hold, hkey⟩
    exact hnew old hold ((congrArg Prod.fst hkey).trans hsession)
  have hnone : ∀ detectionId, s.flushed.faceSearchResults.get? (searchSessionId, detectionId) =
      none := fun detectionId => Table.get?_eq_none_iff.mpr fun row hrow hkey =>
    hnew row hrow (congrArg Prod.fst hkey)
  have hmax : ∀ probes, (∀ probe ∈ probes, NoTies cfg (s.flushed.eventFaces eventId) probe) →
      ∀ detection ∈ s.flushed.eventFaces eventId,
        (results probes).get? (searchSessionId, detection.id) =
          (keptScores cfg (s.flushed.eventFaces eventId) probes detection).max?.map
            (searchResult eventId searchSessionId detection) := by
    intro probes hties detection hdetection
    obtain ⟨t, hrun, -, -, hget⟩ := hspec probes
    change ((runProbes cfg eventId searchSessionId probes).run
      s).2.flushed.faceSearchResults.get? _ = _
    rw [hrun, hget hties detection hdetection, hnone, foldl_searchResult]
  refine ⟨?_, hof probes, hmax probes hties, fun probes' hsame detectionId => ?_,
    fun probe row hrow => ?_⟩
  · obtain ⟨t, hrun, -⟩ := hspec probes
    rw [hrun]
  · have hties' : ∀ probe ∈ probes', NoTies cfg (s.flushed.eventFaces eventId) probe :=
      fun probe hprobe => hties probe ((hsame probe).mp hprobe)
    by_cases hface : ∃ detection ∈ s.flushed.eventFaces eventId, detection.id = detectionId
    · obtain ⟨detection, hdetection, rfl⟩ := hface
      rw [hmax probes' hties' detection hdetection, hmax probes hties detection hdetection]
      refine congrArg _ (max?_congr fun score => ?_)
      simp only [keptScores, List.mem_map, List.mem_filter, hsame]
    · have habsent : ∀ probes, (results probes).get? (searchSessionId, detectionId) = none := by
        intro probes
        refine Table.get?_eq_none_iff.mpr fun row hrow hkey => hface ?_
        obtain ⟨detection, hdetection, hid⟩ := hof probes row hrow (congrArg Prod.fst hkey)
        exact ⟨detection, hdetection, hid.symm.trans (congrArg Prod.snd hkey)⟩
      rw [habsent, habsent]
  · obtain ⟨t, hrun, hfaces, -⟩ := hspec probes
    have hfits' : (t.flushed.eventFaces eventId).length ≤ cfg.maxSearchFacesPerEvent := by
      rw [hfaces]
      exact hfits
    obtain ⟨n, u, hlast, hstep⟩ := run_probe hsize eventId searchSessionId probe hfits'
    have happend : (runProbes cfg eventId searchSessionId (probes ++ [probe])).run s =
        (.ok (), u) := by
      rw [runProbes, List.forM_eq_forM, List.forM_append]
      exact (Program.run_bind_ok hrun).trans (run_runProbes_cons hlast)
    change row ∈ ((runProbes cfg eventId searchSessionId probes).run
      s).2.flushed.faceSearchResults.rows at hrow
    rw [hrun] at hrow
    obtain ⟨row', hrow', hkey, hle⟩ := hstep.grows row hrow
    refine ⟨row', ?_, hkey, hle⟩
    change row' ∈ ((runProbes cfg eventId searchSessionId (probes ++ [probe])).run
      s).2.flushed.faceSearchResults.rows
    rw [happend]
    exact hrow'

/-- An event with three faces. -/
def threeFacesEvent : Session ℚ :=
  Session.sessionLocal (World.still 0 fun _ => 0)
    { Database.empty with photoFaceDetections := ⟨threeFaces, by decide⟩ }

/-- A face that two probes keep has the larger one of its scores. -/
theorem threeFaces_probed_twice :
    ((runProbes twoResults 0 5 [[1, 0], [0, 1]]).run
        threeFacesEvent).2.flushed.faceSearchResults.get? (5, 1) =
      some ⟨0, 5, 7, 1, 4 / 5⟩ := by
  have hsize : 1 ≤ twoResults.maxSearchResults := by decide
  have hfits : (threeFacesEvent.flushed.eventFaces 0).length ≤ twoResults.maxSearchFacesPerEvent :=
    by decide
  have hties : ∀ probe ∈ ([[1, 0], [0, 1]] : List (List ℚ)),
      NoTies twoResults (threeFacesEvent.flushed.eventFaces 0) probe := by
    intro probe hprobe
    refine noTies_of_nodup ?_
    rcases List.mem_cons.mp hprobe with rfl | hprobe
    · decide +kernel
    · rw [List.mem_singleton.mp hprobe]
      decide +kernel
  have hnew : ∀ row ∈ threeFacesEvent.flushed.faceSearchResults.rows, row.searchSessionId ≠ 5 :=
    fun row hrow => absurd hrow List.not_mem_nil
  obtain ⟨-, -, hmax, -⟩ := probes_pointwise_max hsize hfits hties hnew
  have hface : (⟨1, 0, 7, 8, 1, [4, 3], none, none, none⟩ : PhotoFaceDetection ℚ) ∈
      threeFacesEvent.flushed.eventFaces 0 := by
    have hfaces : threeFacesEvent.flushed.eventFaces 0 = threeFaces := rfl
    rw [hfaces]
    simp [threeFaces]
  rw [hmax _ hface]
  decide +kernel

end RaceFrame
