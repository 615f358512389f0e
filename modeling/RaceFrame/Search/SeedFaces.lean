import Mathlib.Data.List.Dedup
import Mathlib.Data.List.Sort
import RaceFrame.Matching.Embedding
import RaceFrame.Orm.Session
import RaceFrame.Schema.Real
import RaceFrame.Search.BibEvidence

/-!
# Seeds of a bib-only search

Without a selfie, a search starts from the faces on the photos that show the bib
of the participant. `select_bib_only_seed_embeddings` gathers candidate faces
from the newest of these photos, clusters them and returns the embeddings of a
cluster that is on enough photos and clearly ahead of the others.
-/

namespace RaceFrame

variable {F : Type} [CeilScalar F]

/-- `Settings` with the fields of the bib-only search. -/
structure SeedSettings (F : Type) extends Settings F where
  bibOnlySeedPhotoLimit : Int
  bibOnlySeedClusterMinPhotos : Int
  bibOnlySeedClusterMajorityRatio : F
  bibOnlySeedClusterLeadRatio : F

/-- The settings of an empty environment. -/
def SeedSettings.environment (F : Type) [Scalar F] : SeedSettings F where
  toSettings := Settings.environment F
  bibOnlySeedPhotoLimit := 10
  bibOnlySeedClusterMinPhotos := 2
  bibOnlySeedClusterMajorityRatio := Scalar.ofRat (60 / 100)
  bibOnlySeedClusterLeadRatio := Scalar.ofRat (150 / 100)

/-- A photo with its detections, each list in the order in which the query loads it. -/
structure LoadedPhoto (F : Type) where
  photo : Photo
  detections : List (PhotoTextDetection F)
  faceDetections : List (PhotoFaceDetection F)

/-- The results that the query for the candidate photos may have: the photos of the event, newest
first, each with its own detections. -/
structure Database.LoadsEventPhotos (db : Database F) (eventId : Uuid)
    (loaded : List (LoadedPhoto F)) : Prop where
  photos : (loaded.map LoadedPhoto.photo).Perm
    (db.photos.rows.filter fun p => p.eventId == eventId)
  newestFirst : (loaded.map LoadedPhoto.photo).Pairwise fun p q => q.createdAt ≤ p.createdAt
  detections : ∀ p ∈ loaded, p.detections.Perm
    (db.photoTextDetections.filter fun d => d.photoId == p.photo.id)
  faceDetections : ∀ p ∈ loaded, p.faceDetections.Perm
    (db.photoFaceDetections.rows.filter fun d => d.photoId == p.photo.id)

/-- `float(value or 0)` of a JSON value, over `float` of a string. -/
def Json.orZero (parseFloat : Text → Option F) : Json F → Except Raised F
  | .null => .ok 0
  | .bool b => .ok (if b then 1 else 0)
  | .int n => .ok (Scalar.ofRat n)
  | .float x => .ok x
  | .str [] => .ok 0
  | .str s =>
    match parseFloat s with
    | some x => .ok x
    | none => .error (.valueError "could not convert string to float")
  | .list [] => .ok 0
  | .dict [] => .ok 0
  | .list _ => .error .typeError
  | .dict _ => .error .typeError

/-- `value or other` for optional floats. -/
def orScore (value other : Option F) : Option F :=
  match value with
  | some x => if x = 0 then other else some x
  | none => other

variable (parseFloat : Text → Option F)

/-- `face_seed_quality`. -/
def faceSeedQuality (face : PhotoFaceDetection F) : Except Raised F := do
  let box := face.boundingBoxJson.getD []
  let width ← ((box.lookup "width").getD (.int 0)).orZero parseFloat
  let height ← ((box.lookup "height").getD (.int 0)).orZero parseFloat
  let quality := (orScore (orScore face.qualityScore face.detectionScore) none).getD 0
  return width * height * max quality (Scalar.ofRat (25 / 100))

/-- `sorted(faces, key=face_seed_quality, reverse=True)`. -/
def sortedByQuality (faces : List (PhotoFaceDetection F)) :
    Except Raised (List (PhotoFaceDetection F)) := do
  let keyed ← faces.mapM fun face => do
    let quality ← faceSeedQuality parseFloat face
    return (quality, face)
  return (keyed.insertionSort fun a b => b.1 ≤ a.1).map Prod.snd

/-- `is_dominant_face`. -/
def isDominantFace (faces : List (PhotoFaceDetection F)) : Except Raised Bool := do
  match faces with
  | first :: second :: _ =>
    let best ← faceSeedQuality parseFloat first
    let next ← faceSeedQuality parseFloat second
    return decide (0 < best) && decide (next * Scalar.ofRat (18 / 10) ≤ best)
  | _ => return true

/-- A cluster of `cluster_seed_faces`: the face that opened it and those appended to it. -/
structure SeedCluster (F : Type) where
  first : PhotoFaceDetection F
  appended : List (PhotoFaceDetection F)

namespace SeedCluster

variable {F : Type}

/-- The faces of a cluster. -/
def faces (cluster : SeedCluster F) : List (PhotoFaceDetection F) :=
  cluster.first :: cluster.appended

/-- `best_cluster.append(face)`. -/
def append (face : PhotoFaceDetection F) (cluster : SeedCluster F) : SeedCluster F :=
  { cluster with appended := cluster.appended ++ [face] }

/-- `len({face.photo_id for face in cluster})`. -/
def photoCount (cluster : SeedCluster F) : Nat :=
  (cluster.faces.map PhotoFaceDetection.photoId).dedup.length

/-- `max(cosine_similarity(embedding, other.embedding_json) for other in cluster)`. -/
def score [Scalar F] (embedding : List F) (cluster : SeedCluster F) : F :=
  cluster.appended.foldl
    (fun best other => max best (cosineSimilarity embedding other.embeddingJson))
    (cosineSimilarity embedding cluster.first.embeddingJson)

end SeedCluster

/-- The loop of `cluster_seed_faces` over the clusters: the position of the best one, if any scores
above zero, and its score. -/
def bestSeedCluster (embedding : List F) (clusters : List (SeedCluster F)) : Option Nat × F :=
  clusters.zipIdx.foldl (fun best entry =>
    let score := entry.1.score embedding
    if best.2 < score then (some entry.2, score) else best) (none, 0)

/-- One turn of the loop of `cluster_seed_faces` over the faces. -/
def clusterSeedFace (cfg : Settings F) (clusters : List (SeedCluster F))
    (face : PhotoFaceDetection F) : List (SeedCluster F) :=
  let embedding := normalizeEmbeddingPayload face.embeddingJson
  if embedding.isEmpty then clusters
  else
    match bestSeedCluster embedding clusters with
    | (some best, score) =>
      if cfg.faceReinforcementSimilarityThreshold ≤ score then
        clusters.modify best (SeedCluster.append face)
      else clusters ++ [⟨face, []⟩]
    | (none, _) => clusters ++ [⟨face, []⟩]

/-- `cluster_seed_faces`. -/
def clusterSeedFaces (cfg : Settings F) (faces : List (PhotoFaceDetection F)) :
    List (SeedCluster F) :=
  faces.foldl (clusterSeedFace cfg) []

/-- The usable embeddings of faces, normalised. -/
def usableEmbeddings (faces : List (PhotoFaceDetection F)) : List (List F) :=
  (faces.map fun face => normalizeEmbeddingPayload face.embeddingJson).filter
    fun embedding => !embedding.isEmpty

/-- The list `averaged` of `average_face_embeddings`: the mean of every coordinate. -/
def meanEmbedding (dimension : Nat) (embeddings : List (List F)) : List F :=
  (List.range dimension).map fun index =>
    Scalar.sum (embeddings.map fun embedding => embedding.getD index 0) /
      Scalar.ofRat embeddings.length

/-- The last step of `average_face_embeddings`: divide by the norm, if there is one. -/
def divideByNorm (averaged : List F) : List F :=
  let norm := euclideanNorm averaged
  if norm ≤ 0 then [] else averaged.map (· / norm)

/-- `average_face_embeddings`. -/
def averageFaceEmbeddings (faces : List (PhotoFaceDetection F)) : List F :=
  let embeddings := usableEmbeddings faces
  match embeddings with
  | [] => []
  | first :: _ =>
    let dimension := first.length
    if embeddings.any fun embedding => embedding.length != dimension then []
    else divideByNorm (meanEmbedding dimension embeddings)

/-- One turn of the loop of `dedupe_seed_embeddings`. -/
def dedupeSeedEmbedding (deduped : List (List F)) (embedding : List F) : List (List F) :=
  let normalized := normalizeEmbeddingPayload embedding
  if normalized.isEmpty then deduped
  else if deduped.any fun existing =>
      decide (Scalar.ofRat (995 / 1000) ≤ cosineSimilarity normalized existing) then deduped
  else deduped ++ [normalized]

/-- `dedupe_seed_embeddings`. -/
def dedupeSeedEmbeddings (embeddings : List (List F)) : List (List F) :=
  embeddings.foldl dedupeSeedEmbedding []

/-- A cluster with the keys it is ranked by. -/
structure RankedCluster (F : Type) where
  photoCount : Nat
  averageQuality : F
  cluster : SeedCluster F

/-- The descending order of the keys. -/
def RankedCluster.Before (a b : RankedCluster F) : Prop :=
  b.photoCount < a.photoCount ∨ (a.photoCount = b.photoCount ∧ b.averageQuality ≤ a.averageQuality)

instance : DecidableRel (RankedCluster.Before (F := F)) :=
  fun a b => inferInstanceAs (Decidable (b.photoCount < a.photoCount ∨ _))

/-- Whether a cluster is on enough photos to be ranked. -/
def SeedSettings.isEligible {F : Type} (cfg : SeedSettings F) (cluster : SeedCluster F) : Bool :=
  decide (cfg.bibOnlySeedClusterMinPhotos ≤ cluster.photoCount)

/-- The loop that collects the eligible clusters. -/
def eligibleClusters (cfg : SeedSettings F) (clusters : List (SeedCluster F)) :
    Except Raised (List (RankedCluster F)) :=
  (clusters.filter cfg.isEligible).mapM fun cluster => do
      let qualities ← cluster.faces.mapM (faceSeedQuality parseFloat)
      return ⟨cluster.photoCount, Scalar.sum qualities / Scalar.ofRat cluster.faces.length, cluster⟩

/-- The majority test. -/
def requiredSupport (cfg : SeedSettings F) (supportPhotoCount : Nat) : Int :=
  max cfg.bibOnlySeedClusterMinPhotos
    (CeilScalar.ceil (Scalar.ofRat supportPhotoCount * cfg.bibOnlySeedClusterMajorityRatio))

/-- Whether the best cluster is clearly ahead of the second one. -/
def hasClearLead (cfg : SeedSettings F) (best second : Nat) : Bool :=
  decide (second + 2 ≤ best) ||
    decide (CeilScalar.ceil (Scalar.ofRat second * cfg.bibOnlySeedClusterLeadRatio) ≤ (best : Int))

/-- `select_consensus_seed_embeddings`. -/
def selectConsensusSeedEmbeddings (cfg : SeedSettings F) (faces : List (PhotoFaceDetection F))
    (supportPhotoCount : Nat) : Except Raised (List (List F)) := do
  if faces.isEmpty || supportPhotoCount == 0 then return []
  let eligible ← eligibleClusters parseFloat cfg (clusterSeedFaces cfg.toSettings faces)
  match eligible.insertionSort RankedCluster.Before with
  | [] => return []
  | best :: others =>
    if (best.photoCount : Int) < requiredSupport cfg supportPhotoCount then return []
    if others.head?.any fun second => !hasClearLead cfg best.photoCount second.photoCount then
      return []
    let bestFaces ← sortedByQuality parseFloat best.cluster.faces
    let embeddings := averageFaceEmbeddings bestFaces ::
      (bestFaces.take 2).map PhotoFaceDetection.embeddingJson
    return (dedupeSeedEmbeddings embeddings).take 3

/-- The local variables of the loop over the candidate photos. -/
structure SeedScan (F : Type) where
  candidateFaces : List (PhotoFaceDetection F)
  exactBibPhotoCount : Nat
  usableFacePhotoCount : Nat
  singlePhotoSingleFaceEmbedding : Option (List F)

/-- The loop over the candidate photos. -/
def scanCandidatePhotos (cfg : SeedSettings F) (bibNumber : Text) :
    List (LoadedPhoto F) → SeedScan F → Except Raised (SeedScan F)
  | [], scan => .ok scan
  | photo :: photos, scan =>
    if !hasExactBibMatch photo.detections bibNumber then
      scanCandidatePhotos cfg bibNumber photos scan
    else
      let scan := { scan with exactBibPhotoCount := scan.exactBibPhotoCount + 1 }
      if cfg.bibOnlySeedPhotoLimit < scan.exactBibPhotoCount then .ok scan
      else do
        let goodFaces ← sortedByQuality parseFloat (photo.faceDetections.filter fun face =>
          !(normalizeEmbeddingPayload face.embeddingJson).isEmpty)
        match goodFaces with
        | [] => scanCandidatePhotos cfg bibNumber photos scan
        | [face] =>
          scanCandidatePhotos cfg bibNumber photos { scan with
            usableFacePhotoCount := scan.usableFacePhotoCount + 1
            candidateFaces := scan.candidateFaces ++ [face]
            singlePhotoSingleFaceEmbedding :=
              if scan.exactBibPhotoCount = 1 then
                some (normalizeEmbeddingPayload face.embeddingJson)
              else scan.singlePhotoSingleFaceEmbedding }
        | face :: others =>
          let dominant ← isDominantFace parseFloat (face :: others)
          scanCandidatePhotos cfg bibNumber photos { scan with
            usableFacePhotoCount := scan.usableFacePhotoCount + 1
            candidateFaces := scan.candidateFaces ++
              if dominant then [face] else (face :: others).take 4 }

/-- `select_bib_only_seed_embeddings` on the candidate photos that its query returns. -/
def selectBibOnlySeedEmbeddings (cfg : SeedSettings F) (candidatePhotos : List (LoadedPhoto F))
    (bibNumber : Text) : Except Raised (List (List F)) := do
  let scan ← scanCandidatePhotos parseFloat cfg bibNumber candidatePhotos ⟨[], 0, 0, none⟩
  let consensus ← selectConsensusSeedEmbeddings parseFloat cfg scan.candidateFaces
    scan.usableFacePhotoCount
  if !consensus.isEmpty then return consensus
  match scan.singlePhotoSingleFaceEmbedding with
  | some (x :: xs) =>
    if scan.exactBibPhotoCount = 1 ∧ scan.usableFacePhotoCount = 1 then return [x :: xs]
    else return []
  | _ => return []

end RaceFrame
