import RaceFrame.Core.Strongest
import RaceFrame.Schema.Rational
import RaceFrame.Search.Results

/-!
# The detections that a search keeps

The bounded heap of `create_face_search_results` compares scores strictly and
orders its entries by score and identifier. For every order of the stream and
every pattern of ties it ends with the scores that sorting the whole stream would
have put first.
-/

namespace RaceFrame

open Core

variable {F : Type} [Scalar F]

/-- The candidate that a detection makes, if it scores well enough. -/
def candidateOf (cfg : Settings F) (embedding : List F) (detection : PhotoFaceDetection F) :
    Option (SearchCandidate F) :=
  if cosineSimilarity embedding detection.embeddingJson < cfg.faceCandidateSimilarityThreshold then
    none
  else some
    ⟨cosineSimilarity embedding detection.embeddingJson, detection.id, detection.photoId⟩

/-- The candidates of a stream of detections. -/
def candidatesOf (cfg : Settings F) (embedding : List F) (stream : List (PhotoFaceDetection F)) :
    List (SearchCandidate F) :=
  stream.filterMap (candidateOf cfg embedding)

/-- The heap that the streaming loop ends with. -/
def keepCandidates (cfg : Settings F) (embedding : List F) (stream : List (PhotoFaceDetection F)) :
    Except Raised (List (SearchCandidate F)) :=
  stream.foldlM (considerDetection cfg embedding) []

/-- The upsert of a candidate that was kept. -/
def writeSearchResult (eventId searchSessionId : Uuid) (candidate : SearchCandidate F)
    (db : Database F) : Database F :=
  { db with
    faceSearchResults := db.faceSearchResults.upsert mergeSearchResult
      { eventId := eventId
        searchSessionId := searchSessionId
        photoId := candidate.photoId
        photoFaceDetectionId := candidate.detectionId
        similarityScore := candidate.score } }

/-! ## The heap -/

instance : Std.Total (SearchCandidate.Le (F := F)) where
  total a b := by
    rcases lt_trichotomy a.score b.score with hlt | heq | hgt
    · exact Or.inl (Or.inl hlt)
    · rcases Nat.le_total a.detectionId b.detectionId with hle | hle
      · exact Or.inl (Or.inr ⟨heq, hle⟩)
      · exact Or.inr (Or.inr ⟨heq.symm, hle⟩)
    · exact Or.inr (Or.inl hgt)

instance : IsTrans (SearchCandidate F) SearchCandidate.Le where
  trans a b c := by
    rintro (hab | ⟨hab, hid⟩) (hbc | ⟨hbc, hid'⟩)
    · exact Or.inl (hab.trans hbc)
    · exact Or.inl (hbc ▸ hab)
    · exact Or.inl (hab ▸ hbc)
    · exact Or.inr ⟨hab.trans hbc, Nat.le_trans hid hid'⟩

theorem SearchCandidate.Le.score_le {a b : SearchCandidate F} (h : a.Le b) : a.score ≤ b.score := by
  rcases h with hlt | ⟨heq, -⟩
  · exact hlt.le
  · exact heq.le

/-- The heap's entries in order, and the strongest of the candidates seen. -/
structure HeapOf (cfg : Settings F) (seen heap : List (SearchCandidate F)) : Prop where
  ordered : heap.Pairwise SearchCandidate.Le
  strongest : Strongest SearchCandidate.score cfg.maxSearchResults seen heap

/-- A detection that scores too low changes nothing. -/
theorem considerDetection_of_none {cfg : Settings F} {embedding : List F}
    {detection : PhotoFaceDetection F} (h : candidateOf cfg embedding detection = none)
    (heap : List (SearchCandidate F)) :
    considerDetection cfg embedding heap detection = .ok heap := by
  have hlow : cosineSimilarity embedding detection.embeddingJson <
      cfg.faceCandidateSimilarityThreshold := by
    by_contra hnot
    rw [candidateOf, if_neg hnot] at h
    cases h
  simp only [considerDetection, if_pos hlow]

/-- One turn of the loop keeps the strongest of one more candidate. -/
theorem HeapOf.consider {cfg : Settings F} {embedding : List F}
    {seen heap : List (SearchCandidate F)}
    (h : HeapOf cfg seen heap) (hsize : 1 ≤ cfg.maxSearchResults)
    {detection : PhotoFaceDetection F} {item : SearchCandidate F}
    (hitem : candidateOf cfg embedding detection = some item) :
    ∃ heap', considerDetection cfg embedding heap detection = .ok heap' ∧
      HeapOf cfg (item :: seen) heap' := by
  have hhigh : ¬cosineSimilarity embedding detection.embeddingJson <
      cfg.faceCandidateSimilarityThreshold := by
    intro hlow
    rw [candidateOf, if_pos hlow] at hitem
    cases hitem
  rw [candidateOf, if_neg hhigh] at hitem
  have hsame := Option.some.inj hitem
  by_cases hroom : heap.length < cfg.maxSearchResults
  · refine ⟨heappush heap item, ?_, h.ordered.orderedInsert item, ?_⟩
    · simp only [considerDetection, if_neg hhigh, if_pos hroom, hsame]
    · exact h.strongest.push hroom (List.perm_orderedInsert _ _ _)
  · cases heap with
    | nil =>
      rw [List.length_nil] at hroom
      omega
    | cons least rest =>
      have hpairs := List.pairwise_cons.mp h.ordered
      have hleast : ∀ strong ∈ rest, least.score ≤ strong.score :=
        fun strong hstrong => (hpairs.1 strong hstrong).score_le
      have hscore : cosineSimilarity embedding detection.embeddingJson = item.score :=
        congrArg SearchCandidate.score hsame
      by_cases hbetter : least.score < item.score
      · refine ⟨heappush rest item, ?_, hpairs.2.orderedInsert item, ?_⟩
        · rw [← hscore] at hbetter
          simp only [considerDetection, if_neg hhigh, if_neg hroom, if_pos hbetter, hsame]
        · exact h.strongest.replace hleast (Nat.le_of_not_lt hroom) hbetter.le
            (List.perm_orderedInsert _ _ _)
      · refine ⟨least :: rest, ?_, h.ordered, ?_⟩
        · rw [← hscore] at hbetter
          simp only [considerDetection, if_neg hhigh, if_neg hroom, if_neg hbetter]
        · apply h.strongest.skip (Nat.le_of_not_lt hroom)
          intro strong hstrong
          rcases List.mem_cons.mp hstrong with rfl | hstrong
          · exact not_lt.mp hbetter
          · exact (not_lt.mp hbetter).trans (hleast strong hstrong)

/-- A run of the loop keeps the strongest of everything it has seen. -/
theorem HeapOf.run {cfg : Settings F} (hsize : 1 ≤ cfg.maxSearchResults) (embedding : List F)
    (stream : List (PhotoFaceDetection F)) {seen heap : List (SearchCandidate F)}
    (h : HeapOf cfg seen heap) :
    ∃ kept, stream.foldlM (considerDetection cfg embedding) heap = .ok kept ∧
      HeapOf cfg ((candidatesOf cfg embedding stream).reverse ++ seen) kept := by
  induction stream generalizing seen heap with
  | nil => exact ⟨heap, rfl, h⟩
  | cons detection stream ih =>
    cases hitem : candidateOf cfg embedding detection with
    | none =>
      obtain ⟨kept, hkept, hheap⟩ := ih h
      refine ⟨kept, ?_, ?_⟩
      · rw [List.foldlM_cons, considerDetection_of_none hitem]
        exact hkept
      · rw [candidatesOf, List.filterMap_cons_none hitem]
        exact hheap
    | some item =>
      obtain ⟨heap', hstep, hheap'⟩ := h.consider hsize hitem
      obtain ⟨kept, hkept, hheap⟩ := ih hheap'
      refine ⟨kept, ?_, ?_⟩
      · rw [List.foldlM_cons, hstep]
        exact hkept
      · rw [candidatesOf, List.filterMap_cons_some hitem, List.reverse_cons, List.append_assoc]
        exact hheap

/-- The loop ends with the strongest of the candidates. -/
theorem keepCandidates_strongest {cfg : Settings F} (hsize : 1 ≤ cfg.maxSearchResults)
    (embedding : List F) (stream : List (PhotoFaceDetection F)) :
    ∃ kept, keepCandidates cfg embedding stream = .ok kept ∧
      Strongest SearchCandidate.score cfg.maxSearchResults
        (candidatesOf cfg embedding stream).reverse kept := by
  obtain ⟨kept, hkept, hheap⟩ :=
    HeapOf.run hsize embedding stream ⟨List.Pairwise.nil, Strongest.nil⟩
  rw [List.append_nil] at hheap
  exact ⟨kept, hkept, hheap.strongest⟩

/-! ## The search -/

theorem nodup_candidatesOf {cfg : Settings F} {embedding : List F}
    {stream : List (PhotoFaceDetection F)} (h : (stream.map (·.id)).Nodup) :
    ((candidatesOf cfg embedding stream).map (·.detectionId)).Nodup := by
  have hids : ∀ stream : List (PhotoFaceDetection F),
      List.Sublist ((candidatesOf cfg embedding stream).map (·.detectionId))
        (stream.map (·.id)) := by
    intro stream
    induction stream with
    | nil => exact List.Sublist.refl _
    | cons detection stream ih =>
      cases hitem : candidateOf cfg embedding detection with
      | none =>
        rw [candidatesOf, List.filterMap_cons_none hitem]
        exact ih.cons _
      | some item =>
        have hid : item.detectionId = detection.id := by
          rw [candidateOf] at hitem
          split at hitem
          · cases hitem
          · exact (congrArg SearchCandidate.detectionId (Option.some.inj hitem)).symm
        rw [candidatesOf, List.filterMap_cons_some hitem, List.map_cons, List.map_cons, hid]
        exact ih.cons_cons _
  exact h.sublist (hids stream)

/-- What a search does: it refuses an event that is too large, or writes what it kept. -/
theorem run_createFaceSearchResults {cfg : Settings F} {eventId searchSessionId : Uuid}
    {embedding : List F} {s : Session F} {kept : List (SearchCandidate F)}
    (hkept : keepCandidates cfg embedding (s.flushed.eventFaces eventId) = .ok kept) :
    (createFaceSearchResults cfg eventId searchSessionId embedding).run s =
      if cfg.maxSearchFacesPerEvent < (s.flushed.eventFaces eventId).length then
        (.error (.runtimeError
          "This event is still being indexed for face search. Please try again later."), s)
      else (.ok kept.length, s.execute fun db =>
        kept.reverse.foldl (fun db c => writeSearchResult eventId searchSessionId c db) db) := by
  by_cases hlarge : cfg.maxSearchFacesPerEvent < (s.flushed.eventFaces eventId).length
  · rw [if_pos hlarge, run_createFaceSearchResults_of_lt searchSessionId embedding hlarge]
  · rw [if_neg hlarge, createFaceSearchResults, Request.run_query_bind, if_neg hlarge]
    rw [keepCandidates] at hkept
    have hloop : (kept.reverse.forM fun candidate =>
        Request.execute (writeSearchResult eventId searchSessionId candidate)).run s =
        (.ok (), s.execute fun db =>
          kept.reverse.foldl (fun db c => writeSearchResult eventId searchSessionId c db) db) :=
      Request.run_forM_execute s (fun _ _ => rfl) kept.reverse
    rw [hkept]
    exact Program.run_bind_ok hloop

/-- A search keeps distinct detections with the largest scores, whatever the order of the rows,
and returns how many they are. -/
theorem search_keeps_largest {cfg : Settings F} (hsize : 1 ≤ cfg.maxSearchResults)
    (embedding : List F) {stream : List (PhotoFaceDetection F)}
    (hdistinct : (stream.map (·.id)).Nodup) :
    ∃ kept, keepCandidates cfg embedding stream = .ok kept ∧
      kept ⊆ candidatesOf cfg embedding stream ∧ (kept.map (·.detectionId)).Nodup ∧
      (kept.map (·.score)).Perm
        (largest cfg.maxSearchResults ((candidatesOf cfg embedding stream).map (·.score))) ∧
      (∀ candidate ∈ candidatesOf cfg embedding stream,
        (∀ value ∈ ranked cfg.maxSearchResults
          ((candidatesOf cfg embedding stream).map (·.score)), value < candidate.score) →
        candidate ∈ kept) ∧
      (∀ stream' : List (PhotoFaceDetection F), stream'.Perm stream →
        ∃ kept', keepCandidates cfg embedding stream' = .ok kept' ∧
          (kept'.map (·.score)).Perm (kept.map (·.score))) ∧
      ∀ (eventId searchSessionId : Uuid) (s : Session F), s.flushed.eventFaces eventId = stream →
        (createFaceSearchResults cfg eventId searchSessionId embedding).run s =
          if cfg.maxSearchFacesPerEvent < stream.length then
            (.error (.runtimeError
              "This event is still being indexed for face search. Please try again later."), s)
          else (.ok (min cfg.maxSearchResults (candidatesOf cfg embedding stream).length),
            s.execute fun db =>
              kept.reverse.foldl (fun db c => writeSearchResult eventId searchSessionId c db)
                db) := by
  obtain ⟨kept, hkept, hstrong⟩ := keepCandidates_strongest hsize embedding stream
  have hscores : ∀ stream : List (PhotoFaceDetection F),
      ((candidatesOf cfg embedding stream).reverse.map SearchCandidate.score).Perm
        ((candidatesOf cfg embedding stream).map SearchCandidate.score) :=
    fun stream => (List.reverse_perm _).map _
  have hlargest := hstrong.map_perm
  rw [largest_eq_of_perm (hscores stream)] at hlargest
  refine ⟨kept, hkept, ?_, ?_, hlargest, ?_, ?_, ?_⟩
  · exact fun candidate hmem => List.mem_reverse.mp (hstrong.subset hmem)
  · apply hstrong.nodup_map
    rw [List.map_reverse, List.nodup_reverse]
    exact nodup_candidatesOf hdistinct
  · intro candidate hmem habove
    apply hstrong.mem_of_lt hsize (List.mem_reverse.mpr hmem)
    rwa [ranked_eq_of_perm (hscores stream)]
  · intro stream' hperm
    obtain ⟨kept', hkept', hstrong'⟩ := keepCandidates_strongest hsize embedding stream'
    refine ⟨kept', hkept', ?_⟩
    have hlargest' := hstrong'.map_perm
    rw [largest_eq_of_perm ((hscores stream').trans ((hperm.filterMap _).map _))] at hlargest'
    exact hlargest'.trans hlargest.symm
  · intro eventId searchSessionId s hstream
    subst hstream
    rw [run_createFaceSearchResults hkept, hstrong.length, List.length_reverse]

/-- A search that keeps two results. -/
def twoResults : Settings ℚ := { Settings.environment ℚ with maxSearchResults := 2 }

/-- Three faces in one photo, the weakest first. -/
def threeFaces : List (PhotoFaceDetection ℚ) :=
  [[3, 4], [4, 3], [1, 0]].zipIdx.map fun face =>
    ⟨face.2, 0, 7, 8, face.2, face.1, none, none, none⟩

/-- Of three candidates the two strongest are kept. -/
theorem weakest_face_dropped :
    ∃ kept, keepCandidates twoResults [1, 0] threeFaces = .ok kept ∧
      (kept.map (·.score)).Perm [1, 4 / 5] := by
  have hsize : 1 ≤ twoResults.maxSearchResults := by decide
  have hdistinct : (threeFaces.map (·.id)).Nodup := by decide
  have hscores : largest twoResults.maxSearchResults
      ((candidatesOf twoResults [1, 0] threeFaces).map (·.score)) = [1, 4 / 5] := by
    decide +kernel
  obtain ⟨kept, hkept, -, -, hlargest, -⟩ := search_keeps_largest hsize [1, 0] hdistinct
  rw [hscores] at hlargest
  exact ⟨kept, hkept, hlargest⟩

end RaceFrame
