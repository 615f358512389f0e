import Mathlib.Data.List.Sort
import RaceFrame.Matching.Embedding
import RaceFrame.Orm.Frame
import RaceFrame.Search.BibEvidence

/-!
# Face search results

`create_face_search_results` streams the detections of an event past a probe and
keeps the strongest ones in a bounded heap; `apply_adaptive_reinforcement` probes
again with the detections that the evidence supports.
-/

namespace RaceFrame

open Core

variable {F : Type} [Scalar F]

/-- An entry of the heap; the text of the identifier that breaks ties is ordered like the
identifier. -/
structure SearchCandidate (F : Type) where
  score : F
  detectionId : Uuid
  photoId : Uuid

/-- The order of the heap's tuples. -/
def SearchCandidate.Le (a b : SearchCandidate F) : Prop :=
  a.score < b.score ∨ (a.score = b.score ∧ a.detectionId ≤ b.detectionId)

instance : DecidableRel (SearchCandidate.Le (F := F)) :=
  fun a b => inferInstanceAs (Decidable (a.score < b.score ∨ _))

/-- `heapq.heappush`, on the ascending list of the heap's entries. -/
def heappush (heap : List (SearchCandidate F)) (item : SearchCandidate F) :
    List (SearchCandidate F) :=
  heap.orderedInsert SearchCandidate.Le item

/-- One turn of the streaming loop: the least entry leaves a full heap for a better one. -/
def considerDetection (cfg : Settings F) (embedding : List F) (heap : List (SearchCandidate F))
    (detection : PhotoFaceDetection F) : Except Raised (List (SearchCandidate F)) :=
  let score := cosineSimilarity embedding detection.embeddingJson
  if score < cfg.faceCandidateSimilarityThreshold then .ok heap
  else
    let item : SearchCandidate F := ⟨score, detection.id, detection.photoId⟩
    if heap.length < cfg.maxSearchResults then .ok (heappush heap item)
    else
      match heap with
      | [] => .error .indexError
      | least :: rest => .ok (if least.score < score then heappush rest item else least :: rest)

/-- The `ON CONFLICT DO UPDATE` clause of the search result upsert. -/
def mergeSearchResult (stored excluded : FaceSearchResult F) : FaceSearchResult F :=
  { stored with
    similarityScore :=
      if excluded.similarityScore ≤ stored.similarityScore then stored.similarityScore
      else excluded.similarityScore
    photoId := excluded.photoId }

/-- The face detections of an event. -/
def Database.eventFaces (db : Database F) (eventId : Uuid) : List (PhotoFaceDetection F) :=
  db.photoFaceDetections.rows.filter fun d => d.eventId == eventId

/-- `create_face_search_results`. -/
def createFaceSearchResults (cfg : Settings F) (eventId searchSessionId : Uuid)
    (embedding : List F) : Request F Nat := do
  let detections ← Request.query fun db => db.eventFaces eventId
  if cfg.maxSearchFacesPerEvent < detections.length then
    Program.raise (.runtimeError
      "This event is still being indexed for face search. Please try again later.")
  else
    let candidates ← Request.ofExcept (detections.foldlM (considerDetection cfg embedding) [])
    candidates.reverse.forM fun candidate => Request.execute fun db => { db with
      faceSearchResults := db.faceSearchResults.upsert mergeSearchResult
        { eventId := eventId
          searchSessionId := searchSessionId
          photoId := candidate.photoId
          photoFaceDetectionId := candidate.detectionId
          similarityScore := candidate.score } }
    return candidates.length

/-- An event with too many faces is not searched. -/
theorem run_createFaceSearchResults_of_lt {cfg : Settings F} {eventId : Uuid} {s : Session F}
    (searchSessionId : Uuid) (embedding : List F)
    (h : cfg.maxSearchFacesPerEvent < (s.flushed.eventFaces eventId).length) :
    (createFaceSearchResults cfg eventId searchSessionId embedding).run s =
      (.error (.runtimeError
        "This event is still being indexed for face search. Please try again later."), s) := by
  simp only [createFaceSearchResults, Request.run_query_bind, if_pos h, Program.run_raise]

/-- `should_reinforce_face`. -/
def shouldReinforceFace (cfg : Settings F) (faceScore : F) (bibStrength : BibStrength) : Bool :=
  decide (cfg.faceStrongSimilarityThreshold ≤ faceScore) ||
    (bibStrength == .strong && decide (cfg.faceReinforcementSimilarityThreshold ≤ faceScore))

/-- The accumulators of the reinforcement loop. -/
structure Reinforcement where
  createdTotal : Nat
  createdThisRound : Nat
  reinforcedDetectionIds : List Uuid
  /-- The loop has returned because the budget is spent. -/
  returned : Bool

/-- Whether the evidence admits a result as a further probe. -/
def admitsReinforcement (cfg : Settings F) (requireExactBib : Bool) (participant : Participant)
    (detections : List (PhotoTextDetection F)) (similarityScore : F) : Bool :=
  if requireExactBib then
    hasExactBibMatch detections participant.bibNumber &&
      decide (cfg.faceReinforcementSimilarityThreshold ≤ similarityScore)
  else
    shouldReinforceFace cfg similarityScore
      (scoreBibEvidence detections participant.bibNumber).strength

/-- One turn of the inner loop of `apply_adaptive_reinforcement`. -/
def reinforceWith (cfg : Settings F) (searchSession : FaceSearchSession)
    (participant : Participant) (requireExactBib : Bool) (progress : Reinforcement)
    (result : FaceSearchResult F) : Request F Reinforcement := do
  if progress.returned then return progress
  if cfg.faceReinforcementMaxEmbeddings ≤ progress.createdTotal then
    return { progress with returned := true }
  let photo ← Request.query fun db => db.photos.get? result.photoId
  let detection ← Request.query fun db => db.photoFaceDetections.get? result.photoFaceDetectionId
  match photo, detection with
  | some photo, some detection =>
    let detections ← Request.query fun db =>
      db.photoTextDetections.filter fun d => d.photoId == photo.id
    if !admitsReinforcement cfg requireExactBib participant detections result.similarityScore then
      return progress
    let embedding := normalizeEmbeddingPayload detection.embeddingJson
    if embedding.isEmpty || progress.reinforcedDetectionIds.contains detection.id then
      return progress
    discard (createFaceSearchResults cfg searchSession.eventId searchSession.id embedding)
    return { progress with
      createdTotal := progress.createdTotal + 1
      createdThisRound := progress.createdThisRound + 1
      reinforcedDetectionIds := detection.id :: progress.reinforcedDetectionIds }
  | _, _ => return progress

/-- The rows that a round's query returns, as objects: a row that the session has loaded
before keeps the attributes it was loaded with. -/
def loadSearchResults (cfg : Settings F) (searchSessionId : Uuid)
    (identityMap : List (FaceSearchResult F)) (db : Database F) : List (FaceSearchResult F) :=
  let selected := ((db.faceSearchResults.rows.filter fun r =>
    r.searchSessionId == searchSessionId).insertionSort fun a b =>
      b.similarityScore ≤ a.similarityScore).take cfg.maxSearchResults
  selected.map fun row => (identityMap.find? fun object => object.key == row.key).getD row

/-- `apply_adaptive_reinforcement`. -/
def applyAdaptiveReinforcement (cfg : Settings F) (searchSession : FaceSearchSession)
    (requireExactBib : Bool) : Request F Nat := do
  match searchSession.participantId with
  | none => return 0
  | some participantId =>
    match ← Request.loaded fun db => db.participants.get? participantId with
    | none => return 0
    | some participant =>
      let reinforce := reinforceWith cfg searchSession participant requireExactBib
      let first ← Request.query (loadSearchResults cfg searchSession.id [])
      let progress ← first.foldlM reinforce ⟨0, 0, [], false⟩
      if progress.returned || progress.createdThisRound == 0 then return progress.createdTotal
      let second ← Request.query (loadSearchResults cfg searchSession.id first)
      let progress ← second.foldlM reinforce { progress with createdThisRound := 0 }
      return progress.createdTotal

/-! ## What a search leaves alone -/

/-- Everything but the search results. -/
def Database.exceptSearchResults (db : Database F) : Database F :=
  { db with faceSearchResults := .empty }

/-- A probe writes search results only. -/
theorem keeps_createFaceSearchResults (cfg : Settings F) (eventId searchSessionId : Uuid)
    (embedding : List F) :
    Request.Keeps Database.exceptSearchResults
      (createFaceSearchResults cfg eventId searchSessionId embedding) := by
  refine Program.Preserves.bind (Request.keeps_query _) fun detections => ?_
  refine Program.Preserves.ite (Request.keeps_raise _) ?_
  refine Program.Preserves.bind (Request.keeps_ofExcept _) fun candidates => ?_
  refine Program.Preserves.bind (Program.Preserves.forM fun candidate _ => ?_) fun _ =>
    Request.keeps_pure _
  exact Request.keeps_execute fun _ => rfl

private theorem keeps_reinforceWith (cfg : Settings F) (searchSession : FaceSearchSession)
    (participant : Participant) (requireExactBib : Bool) (progress : Reinforcement)
    (result : FaceSearchResult F) :
    Request.Keeps Database.exceptSearchResults
      (reinforceWith cfg searchSession participant requireExactBib progress result) := by
  unfold reinforceWith
  refine Program.Preserves.ite (Request.keeps_pure _) ?_
  refine Program.Preserves.ite (Request.keeps_pure _) ?_
  refine Program.Preserves.bind (Request.keeps_query _) fun photo => ?_
  refine Program.Preserves.bind (Request.keeps_query _) fun detection => ?_
  cases photo with
  | none => exact Request.keeps_pure _
  | some photo =>
    cases detection with
    | none => exact Request.keeps_pure _
    | some detection =>
      refine Program.Preserves.bind (Request.keeps_query _) fun detections => ?_
      refine Program.Preserves.ite (Request.keeps_pure _) ?_
      refine Program.Preserves.ite (Request.keeps_pure _) ?_
      exact Program.Preserves.bind (keeps_createFaceSearchResults _ _ _ _).discard fun _ =>
        Request.keeps_pure _

/-- Reinforcement writes search results only. -/
theorem keeps_applyAdaptiveReinforcement (cfg : Settings F) (searchSession : FaceSearchSession)
    (requireExactBib : Bool) :
    Request.Keeps Database.exceptSearchResults
      (applyAdaptiveReinforcement cfg searchSession requireExactBib) := by
  unfold applyAdaptiveReinforcement
  cases searchSession.participantId with
  | none => exact Request.keeps_pure _
  | some participantId =>
    refine Program.Preserves.bind (Request.keeps_loaded _) fun participant => ?_
    cases participant with
    | none => exact Request.keeps_pure _
    | some participant =>
      refine Program.Preserves.bind (Request.keeps_query _) fun first => ?_
      refine Program.Preserves.bind (Program.Preserves.foldlM
        (fun _ _ => keeps_reinforceWith _ _ _ _ _ _) _) fun progress => ?_
      refine Program.Preserves.ite (Request.keeps_pure _) ?_
      refine Program.Preserves.bind (Request.keeps_query _) fun second => ?_
      exact Program.Preserves.bind (Program.Preserves.foldlM
        (fun _ _ => keeps_reinforceWith _ _ _ _ _ _) _) fun _ => Request.keeps_pure _

end RaceFrame
