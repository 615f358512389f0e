import RaceFrame.Core.Linkage
import RaceFrame.Search.SeedConsensus

/-!
# Seed clusters

`cluster_seed_faces` partitions the usable faces by linkage: a face joins the
cluster with the most similar face when that one is similar enough, and opens a
cluster otherwise. The score of a cluster is the largest similarity to one of its
faces, and the initial best score of zero only hides clusters below the
threshold, which is positive.
-/

namespace RaceFrame

open Core

variable {F : Type} [CeilScalar F]

/-- The similarity of a face to an earlier one. -/
def seedSimilarity (face earlier : PhotoFaceDetection F) : F :=
  cosineSimilarity (normalizeEmbeddingPayload face.embeddingJson) earlier.embeddingJson

/-- The embedding of the face normalises. -/
def isUsableFace (face : PhotoFaceDetection F) : Bool :=
  !(normalizeEmbeddingPayload face.embeddingJson).isEmpty

/-- The score of a cluster is the similarity to one of its faces. -/
theorem SeedCluster.exists_score (embedding : List F) (cluster : SeedCluster F) :
    ∃ other ∈ cluster.faces,
      cluster.score embedding = cosineSimilarity embedding other.embeddingJson := by
  rw [score, faces]
  induction cluster.appended using List.reverseRecOn with
  | nil => exact ⟨cluster.first, List.mem_cons_self, rfl⟩
  | append_singleton appended other ih =>
    obtain ⟨best, hbest, hscore⟩ := ih
    rw [List.foldl_concat]
    rcases max_choice (appended.foldl (fun best other =>
        max best (cosineSimilarity embedding other.embeddingJson))
        (cosineSimilarity embedding cluster.first.embeddingJson))
      (cosineSimilarity embedding other.embeddingJson) with hmax | hmax
    · refine ⟨best, ?_, hmax.trans hscore⟩
      rw [← List.cons_append]
      exact List.mem_append_left _ hbest
    · exact ⟨other, List.mem_cons_of_mem _ (List.mem_append_right _ List.mem_cons_self), hmax⟩

/-- No face of a cluster is more similar than its score. -/
theorem SeedCluster.le_score (embedding : List F) {cluster : SeedCluster F}
    {other : PhotoFaceDetection F} (h : other ∈ cluster.faces) :
    cosineSimilarity embedding other.embeddingJson ≤ cluster.score embedding := by
  rw [faces] at h
  rw [score]
  induction hfaces : cluster.appended using List.reverseRecOn generalizing cluster with
  | nil =>
    rw [hfaces, List.mem_singleton] at h
    rw [h]
    exact le_refl _
  | append_singleton appended last ih =>
    rw [hfaces, ← List.cons_append, List.mem_append, List.mem_singleton] at h
    rw [List.foldl_concat]
    rcases h with h | rfl
    · exact (@ih ⟨cluster.first, appended⟩ h rfl).trans (le_max_left _ _)
    · exact le_max_right _ _

/-- What the loop over the clusters returns: the best cluster with its score, or none and the
initial score; and no cluster scores above it. -/
structure BestSeed (embedding : List F) (clusters : List (SeedCluster F)) (best : Option Nat × F) :
    Prop where
  found : ∀ k, best.1 = some k →
    ∃ cluster, clusters[k]? = some cluster ∧ best.2 = cluster.score embedding
  initial : best.1 = none → best.2 = 0
  greatest : ∀ cluster ∈ clusters, cluster.score embedding ≤ best.2

theorem bestSeedCluster_concat (embedding : List F) (clusters : List (SeedCluster F))
    (cluster : SeedCluster F) :
    bestSeedCluster embedding (clusters ++ [cluster]) =
      if (bestSeedCluster embedding clusters).2 < cluster.score embedding then
        (some clusters.length, cluster.score embedding)
      else bestSeedCluster embedding clusters := by
  rw [bestSeedCluster, List.zipIdx_append, List.foldl_append, Nat.zero_add]
  rfl

theorem bestSeed_bestSeedCluster (embedding : List F) (clusters : List (SeedCluster F)) :
    BestSeed embedding clusters (bestSeedCluster embedding clusters) := by
  induction clusters using List.reverseRecOn with
  | nil =>
    refine ⟨fun k hk => ?_, fun _ => rfl, fun _ h => absurd h List.not_mem_nil⟩
    cases hk
  | append_singleton clusters cluster ih =>
    rw [bestSeedCluster_concat]
    split
    next hbetter =>
      constructor
      case found =>
        intro k hk
        rw [← Option.some.inj hk]
        exact ⟨cluster, List.getElem?_concat_length, rfl⟩
      case initial =>
        intro hnone
        cases hnone
      case greatest =>
        intro other hother
        rcases List.mem_append.mp hother with hother | hother
        · exact (ih.greatest other hother).trans hbetter.le
        · rw [List.mem_singleton.mp hother]
    next hworse =>
      constructor
      case found =>
        intro k hk
        obtain ⟨other, hother, hscore⟩ := ih.found k hk
        have hlt := (List.getElem?_eq_some_iff.mp hother).1
        exact ⟨other, (List.getElem?_append_left hlt).trans hother, hscore⟩
      case initial => exact ih.initial
      case greatest =>
        intro other hother
        rcases List.mem_append.mp hother with hother | hother
        · exact ih.greatest other hother
        · rw [List.mem_singleton.mp hother]
          exact not_lt.mp hworse

section Partition

variable {cfg : Settings F}

/-- The clusters of faces. -/
def seedFaces {F : Type} (clusters : List (SeedCluster F)) : List (List (PhotoFaceDetection F)) :=
  clusters.map SeedCluster.faces

theorem seedFaces_modify {F : Type} (clusters : List (SeedCluster F)) (k : Nat)
    (face : PhotoFaceDetection F) :
    seedFaces (clusters.modify k (SeedCluster.append face)) =
      (seedFaces clusters).modify k (· ++ [face]) := by
  apply List.ext_getElem?
  intro i
  rw [seedFaces, seedFaces, List.getElem?_map, List.getElem?_modify, List.getElem?_modify,
    List.getElem?_map]
  cases clusters[i]? with
  | none => rfl
  | some cluster =>
    by_cases hk : k = i
    · simp only [hk, ite_true, Option.map_eq_map, Option.map_some]
      rfl
    · simp only [hk, ite_false, Option.map_eq_map, Option.map_some]

/-- The clusters partition the faces by linkage. -/
def LinkageClusters (cfg : Settings F) (faces : List (PhotoFaceDetection F))
    (clusters : List (SeedCluster F)) : Prop :=
  ∃ labels, LinkagePartition seedSimilarity cfg.faceReinforcementSimilarityThreshold faces
    (seedFaces clusters) labels

/-- A turn of the loop places a usable face. -/
theorem linkageClusters_clusterSeedFace (hpositive : 0 < cfg.faceReinforcementSimilarityThreshold)
    {faces : List (PhotoFaceDetection F)} {clusters : List (SeedCluster F)}
    (h : LinkageClusters cfg faces clusters) {face : PhotoFaceDetection F}
    (husable : isUsableFace face = true) :
    LinkageClusters cfg (faces ++ [face]) (clusterSeedFace cfg clusters face) := by
  obtain ⟨labels, h⟩ := h
  have hbest := bestSeed_bestSeedCluster (normalizeEmbeddingPayload face.embeddingJson) clusters
  have hopened (hbelow : (bestSeedCluster (normalizeEmbeddingPayload face.embeddingJson)
      clusters).2 < cfg.faceReinforcementSimilarityThreshold) :
      LinkageClusters cfg (faces ++ [face]) (clusters ++ [⟨face, []⟩]) := by
    refine ⟨labels ++ [(seedFaces clusters).length], ?_⟩
    rw [seedFaces, List.map_append]
    refine h.start fun earlier hearlier => ?_
    obtain ⟨cluster, hcluster, hmem⟩ := h.exists_cluster hearlier
    obtain ⟨seed, hseed, rfl⟩ := List.mem_map.mp hcluster
    exact ((seed.le_score _ hmem).trans (hbest.greatest seed hseed)).trans_lt hbelow
  rw [isUsableFace, Bool.not_eq_true'] at husable
  simp only [clusterSeedFace, husable, Bool.false_eq_true, ite_false]
  split
  next best score hfound =>
    rw [hfound] at hbest hopened
    split
    next habove =>
      obtain ⟨cluster, hcluster, hscore⟩ := hbest.found best rfl
      obtain ⟨other, hother, hsimilarity⟩ :=
        cluster.exists_score (normalizeEmbeddingPayload face.embeddingJson)
      have hfaces : (seedFaces clusters)[best]? = some cluster.faces := by
        rw [seedFaces, List.getElem?_map, hcluster, Option.map_some]
      refine ⟨labels ++ [best], ?_⟩
      rw [seedFaces_modify]
      refine h.join hfaces hother ?_
      rw [seedSimilarity, ← hsimilarity, ← hscore]
      exact habove
    next hbelow => exact hopened (not_le.mp hbelow)
  next score hnone =>
    rw [hnone] at hbest hopened
    have hzero : score = 0 := hbest.initial rfl
    exact hopened (hzero.trans_lt hpositive)

/-- Clustering partitions the usable faces by linkage. -/
theorem linkageClusters_clusterSeedFaces (cfg : Settings F)
    (hpositive : 0 < cfg.faceReinforcementSimilarityThreshold)
    (faces : List (PhotoFaceDetection F)) :
    LinkageClusters cfg (faces.filter isUsableFace) (clusterSeedFaces cfg faces) := by
  rw [clusterSeedFaces]
  induction faces using List.reverseRecOn with
  | nil => exact ⟨[], .nil⟩
  | append_singleton faces face ih =>
    rw [List.foldl_concat, List.filter_append]
    by_cases husable : isUsableFace face = true
    · rw [List.filter_cons_of_pos husable]
      exact linkageClusters_clusterSeedFace hpositive ih husable
    · have hskip : clusterSeedFace cfg (faces.foldl (clusterSeedFace cfg) []) face =
          faces.foldl (clusterSeedFace cfg) [] := by
        rw [isUsableFace, Bool.not_eq_true', Bool.not_eq_false] at husable
        simp only [clusterSeedFace, husable, ite_true]
      rw [List.filter_cons_of_neg husable, List.filter_nil, List.append_nil, hskip]
      exact ih

end Partition

/-- The seed set of the two faces is clustered by linkage. -/
theorem onlyFace_clustered :
    LinkageClusters (Settings.environment ℝ) ([onlyFace, onlyFace].filter isUsableFace)
      (clusterSeedFaces (Settings.environment ℝ) [onlyFace, onlyFace]) := by
  apply linkageClusters_clusterSeedFaces
  change (0 : ℝ) < ((48 / 100 : ℚ) : ℝ)
  norm_num

end RaceFrame
