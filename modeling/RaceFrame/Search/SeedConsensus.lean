import RaceFrame.Search.SeedFaces

/-!
# Seeds come from a clear consensus

The loop over the candidate photos counts what it should: the exact-bib photos
up to the limit, and those of them with a usable face. The consensus step returns
seeds only for a cluster on a majority of these photos that is strictly ahead of
every other cluster; the only other seed is the single face of the single
exact-bib photo of the event.
-/

namespace RaceFrame

section Vectors

/-! ## Vectors of reals -/

theorem euclideanNorm_eq (v : List ℝ) :
    euclideanNorm v = Real.sqrt (v.map fun x => x * x).sum := by
  rw [euclideanNorm, Scalar.sum_eq_sum]
  rfl

private theorem sum_map_div_mul_div (v : List ℝ) (n : ℝ) :
    ((v.map (· / n)).map fun x => x * x).sum = (v.map fun x => x * x).sum / (n * n) := by
  induction v with
  | nil => simp only [List.map_nil, List.sum_nil, zero_div]
  | cons x v ih =>
    simp only [List.map_cons, List.sum_cons, ih, add_div, div_mul_div_comm]

/-- A vector divided by its norm has norm one. -/
theorem euclideanNorm_map_div {v : List ℝ} (h : 0 < euclideanNorm v) :
    euclideanNorm (v.map (· / euclideanNorm v)) = 1 := by
  rw [euclideanNorm_eq] at h
  have hsum : 0 < (v.map fun x => x * x).sum := Real.sqrt_pos.mp h
  rw [euclideanNorm_eq, sum_map_div_mul_div, euclideanNorm_eq, Real.mul_self_sqrt hsum.le,
    div_self hsum.ne', Real.sqrt_one]

/-- A usable embedding is divided by its norm. -/
theorem normalizeEmbeddingPayload_of_ne_nil {v : List ℝ} (h : normalizeEmbeddingPayload v ≠ []) :
    normalizeEmbeddingPayload v = v.map (· / euclideanNorm v) := by
  simp only [normalizeEmbeddingPayload] at h ⊢
  split at h
  · exact absurd rfl h
  · split at h
    · exact absurd rfl h
    · split at h
      · exact absurd rfl h
      next h1 h2 h3 => rw [if_neg h1, if_neg h2, if_neg h3]

/-- A usable embedding of norm one is its own normalisation. -/
theorem normalizeEmbeddingPayload_of_norm_eq_one {v : List ℝ} (h : euclideanNorm v = 1)
    (hne : normalizeEmbeddingPayload v ≠ []) : normalizeEmbeddingPayload v = v := by
  rw [normalizeEmbeddingPayload_of_ne_nil hne, h]
  simp only [div_one, List.map_id']

private theorem any_isLarge_eq_false_iff (v : List ℝ) :
    (v.any fun x => !Scalar.isFinite x || decide (Scalar.ofRat 100 < max x (-x))) = false ↔
      ∀ x ∈ v, |x| ≤ 100 := by
  have hhundred : (Scalar.ofRat 100 : ℝ) = 100 := Rat.cast_ofNat 100
  have hfinite : ∀ x : ℝ, Scalar.isFinite x = true := fun _ => rfl
  rw [List.any_eq_false]
  refine forall₂_congr fun x _ => ?_
  rw [hfinite, hhundred, Bool.not_true, Bool.false_or, decide_eq_true_iff, not_lt]
  rfl

private theorem norm_isTiny_eq_false_iff (v : List ℝ) :
    (!Scalar.isFinite (euclideanNorm v) ||
        decide (euclideanNorm v ≤ Scalar.ofRat (1 / 10 ^ 12))) = false ↔
      1 / 10 ^ 24 < (v.map fun x => x * x).sum := by
  have htiny : (Scalar.ofRat (1 / 10 ^ 12) : ℝ) = 1 / 10 ^ 12 := by
    change ((1 / 10 ^ 12 : ℚ) : ℝ) = _
    push_cast
    rfl
  have hfinite : Scalar.isFinite (euclideanNorm v) = true := rfl
  have hsquare : (1 / 10 ^ 12 : ℝ) ^ 2 = 1 / 10 ^ 24 := by norm_num
  rw [hfinite, Bool.not_true, Bool.false_or, decide_eq_false_iff_not, htiny, not_le,
    euclideanNorm_eq, Real.lt_sqrt (by positivity), hsquare]

/-- A vector is usable when it has 512 coordinates between −100 and 100 and a norm above 10⁻¹². -/
theorem normalizeEmbeddingPayload_ne_nil_iff (v : List ℝ) :
    normalizeEmbeddingPayload v ≠ [] ↔
      v.length = embeddingDimensions ∧ (∀ x ∈ v, |x| ≤ 100) ∧
        1 / 10 ^ 24 < (v.map fun x => x * x).sum := by
  rw [← any_isLarge_eq_false_iff, ← norm_isTiny_eq_false_iff, normalizeEmbeddingPayload]
  by_cases hlength : v.length = embeddingDimensions
  swap
  · rw [if_pos hlength]
    exact iff_of_false (fun h => h rfl) fun h => hlength h.1
  rw [if_neg (not_not_intro hlength)]
  cases v.any fun x => !Scalar.isFinite x || decide (Scalar.ofRat 100 < max x (-x)) with
  | true => exact iff_of_false (fun h => h rfl) fun h => absurd h.2.1 (by decide)
  | false =>
    rw [if_neg Bool.false_ne_true]
    dsimp only
    cases !Scalar.isFinite (euclideanNorm v) ||
        decide (euclideanNorm v ≤ Scalar.ofRat (1 / 10 ^ 12)) with
    | true => exact iff_of_false (fun h => h rfl) fun h => absurd h.2.2 (by decide)
    | false =>
      refine iff_of_true (fun h => ?_) ⟨hlength, rfl, rfl⟩
      rw [if_neg Bool.false_ne_true] at h
      rw [List.map_eq_nil_iff.mp h] at hlength
      cases hlength

end Vectors

/-- Usable embeddings have 512 coordinates. -/
theorem length_normalizeEmbeddingPayload {F : Type} [Scalar F] {v : List F}
    (hne : normalizeEmbeddingPayload v ≠ []) :
    (normalizeEmbeddingPayload v).length = embeddingDimensions := by
  simp only [normalizeEmbeddingPayload] at hne ⊢
  split at hne
  · exact absurd rfl hne
  next hlength =>
    split at hne
    · exact absurd rfl hne
    · split at hne
      · exact absurd rfl hne
      next h2 h3 =>
        rw [if_neg hlength, if_neg h2, if_neg h3, List.length_map]
        exact not_not.mp hlength

private theorem length_eq_of_mem_usableEmbeddings {F : Type} [CeilScalar F]
    {faces : List (PhotoFaceDetection F)} {v : List F} (h : v ∈ usableEmbeddings faces) :
    v.length = embeddingDimensions := by
  obtain ⟨hmem, hne⟩ := List.mem_filter.mp h
  obtain ⟨face, -, rfl⟩ := List.mem_map.mp hmem
  apply length_normalizeEmbeddingPayload
  intro hnil
  rw [hnil] at hne
  cases hne

/-- The embeddings of a cluster all have the same length, so only the norm decides. -/
theorem averageFaceEmbeddings_eq {F : Type} [CeilScalar F]
    (faces : List (PhotoFaceDetection F)) :
    averageFaceEmbeddings faces = if usableEmbeddings faces = [] then []
      else divideByNorm (meanEmbedding embeddingDimensions (usableEmbeddings faces)) := by
  rw [averageFaceEmbeddings]
  cases h : usableEmbeddings faces with
  | nil => rfl
  | cons first rest =>
    have hlength : ∀ v ∈ first :: rest, v.length = embeddingDimensions := by
      rw [← h]
      exact fun v hv => length_eq_of_mem_usableEmbeddings hv
    have hfirst := hlength first List.mem_cons_self
    have hsame : ((first :: rest).any fun v => v.length != embeddingDimensions) = false := by
      rw [List.any_eq_false]
      intro v hv
      rw [hlength v hv]
      simp
    simp only [hfirst, hsame, Bool.false_eq_true, ite_false, reduceCtorEq]

private theorem ne_nil_of_normalize {F : Type} [Scalar F] {v : List F}
    (hne : normalizeEmbeddingPayload v ≠ []) : v ≠ [] := by
  rintro rfl
  exact hne rfl

/-- The mean of a cluster has norm one, when it is defined. -/
theorem euclideanNorm_averageFaceEmbeddings {faces : List (PhotoFaceDetection ℝ)}
    (hne : averageFaceEmbeddings faces ≠ []) : euclideanNorm (averageFaceEmbeddings faces) = 1 := by
  rw [averageFaceEmbeddings_eq] at hne ⊢
  split at hne
  · exact absurd rfl hne
  next hembeddings =>
    rw [divideByNorm] at hne
    rw [if_neg hembeddings, divideByNorm]
    split at hne
    · exact absurd rfl hne
    next hnorm =>
      rw [if_neg hnorm]
      exact euclideanNorm_map_div (not_le.mp hnorm)

/-- The mean of a cluster does not depend on the order of its faces. -/
theorem averageFaceEmbeddings_perm {faces faces' : List (PhotoFaceDetection ℝ)}
    (h : faces.Perm faces') : averageFaceEmbeddings faces = averageFaceEmbeddings faces' := by
  have hembeddings : (usableEmbeddings faces).Perm (usableEmbeddings faces') :=
    (h.map _).filter _
  have hmean : meanEmbedding embeddingDimensions (usableEmbeddings faces) =
      meanEmbedding embeddingDimensions (usableEmbeddings faces') := by
    rw [meanEmbedding, meanEmbedding, hembeddings.length_eq]
    refine List.map_congr_left fun index _ => ?_
    rw [Scalar.sum_eq_sum, Scalar.sum_eq_sum, (hembeddings.map _).sum_eq]
  have hempty : usableEmbeddings faces = [] ↔ usableEmbeddings faces' = [] := by
    rw [← List.length_eq_zero_iff, hembeddings.length_eq, List.length_eq_zero_iff]
  rw [averageFaceEmbeddings_eq, averageFaceEmbeddings_eq, hmean]
  by_cases hnil : usableEmbeddings faces = []
  · rw [if_pos hnil, if_pos (hempty.mp hnil)]
  · rw [if_neg hnil, if_neg (mt hempty.mpr hnil)]

private theorem mem_dedupeSeedEmbedding {F : Type} [CeilScalar F] {deduped : List (List F)}
    {v seed : List F} (h : seed ∈ dedupeSeedEmbedding deduped v) :
    seed ∈ deduped ∨ (seed ≠ [] ∧ seed = normalizeEmbeddingPayload v) := by
  simp only [dedupeSeedEmbedding] at h
  split at h
  · exact Or.inl h
  next hne =>
    split at h
    · exact Or.inl h
    · rcases List.mem_append.mp h with h | h
      · exact Or.inl h
      · rw [List.mem_singleton.mp h]
        exact Or.inr ⟨fun hnil => hne (by rw [hnil]; rfl), rfl⟩

/-- What `dedupe_seed_embeddings` returns are normalisations of what it is given. -/
theorem mem_dedupeSeedEmbeddings {F : Type} [CeilScalar F] {embeddings : List (List F)}
    {seed : List F} (h : seed ∈ dedupeSeedEmbeddings embeddings) :
    seed ≠ [] ∧ ∃ v ∈ embeddings, seed = normalizeEmbeddingPayload v := by
  have hfold : ∀ vs deduped : List (List F), seed ∈ vs.foldl dedupeSeedEmbedding deduped →
      seed ∈ deduped ∨ (seed ≠ [] ∧ ∃ v ∈ vs, seed = normalizeEmbeddingPayload v) := by
    intro vs
    induction vs with
    | nil => exact fun deduped h => Or.inl h
    | cons v vs ih =>
      intro deduped h
      rcases ih _ h with hmem | ⟨hne, w, hw, heq⟩
      · rcases mem_dedupeSeedEmbedding hmem with hmem | ⟨hne, heq⟩
        · exact Or.inl hmem
        · exact Or.inr ⟨hne, v, List.mem_cons_self, heq⟩
      · exact Or.inr ⟨hne, w, List.mem_cons_of_mem v hw, heq⟩
  rcases hfold embeddings [] h with hnil | hseed
  · exact absurd hnil List.not_mem_nil
  · exact hseed

/-! ## Ranking -/

private theorem forall₂_of_mapM {α β ε : Type} {f : α → Except ε β} {xs : List α} {ys : List β}
    (h : xs.mapM f = .ok ys) : List.Forall₂ (fun x y => f x = .ok y) xs ys := by
  induction xs generalizing ys with
  | nil =>
    cases h
    exact List.Forall₂.nil
  | cons x xs ih =>
    rw [List.mapM_cons] at h
    cases hx : f x with
    | error e =>
      rw [hx] at h
      cases h
    | ok y =>
      cases hxs : xs.mapM f with
      | error e =>
        rw [hx, hxs] at h
        cases h
      | ok rest =>
        rw [hx, hxs] at h
        cases h
        exact List.Forall₂.cons hx (ih hxs)

/-- Sorting by quality only rearranges the faces. -/
theorem perm_of_sortedByQuality {F : Type} [CeilScalar F] {parseFloat : Text → Option F}
    {faces sorted : List (PhotoFaceDetection F)}
    (h : sortedByQuality parseFloat faces = .ok sorted) : sorted.Perm faces := by
  simp only [sortedByQuality] at h
  cases hkeyed : faces.mapM (fun face => do
      let quality ← faceSeedQuality parseFloat face
      return (quality, face)) with
  | error e =>
    rw [hkeyed] at h
    cases h
  | ok keyed =>
    rw [hkeyed] at h
    cases h
    have hsnd : keyed.map Prod.snd = faces := by
      have hkeys := forall₂_of_mapM hkeyed
      clear hkeyed
      induction hkeys with
      | nil => rfl
      | @cons face key _ _ hkey _ ih =>
        cases hquality : faceSeedQuality parseFloat face with
        | error e =>
          rw [hquality] at hkey
          cases hkey
        | ok quality =>
          rw [hquality] at hkey
          cases hkey
          rw [List.map_cons, ih]
    have hperm := (List.perm_insertionSort (fun a b : F × PhotoFaceDetection F => b.1 ≤ a.1)
      keyed).map Prod.snd
    rwa [hsnd] at hperm

/-! ## Clusters -/

theorem SeedCluster.photoCount_pos {F : Type} (cluster : SeedCluster F) :
    0 < cluster.photoCount := by
  apply List.length_pos_of_mem
  rw [List.mem_dedup]
  exact List.mem_map_of_mem List.mem_cons_self

section Clusters

variable {F : Type} [CeilScalar F]

/-- The clusters are made of the faces they were built from. -/
theorem mem_of_mem_clusterSeedFaces {cfg : Settings F} {faces : List (PhotoFaceDetection F)}
    {cluster : SeedCluster F} (h : cluster ∈ clusterSeedFaces cfg faces) :
    ∀ face ∈ cluster.faces, face ∈ faces := by
  have hstep : ∀ (clusters : List (SeedCluster F)) (face : PhotoFaceDetection F),
      (∀ c ∈ clusters, ∀ f ∈ c.faces, f ∈ faces) → face ∈ faces →
      ∀ c ∈ clusterSeedFace cfg clusters face, ∀ f ∈ c.faces, f ∈ faces := by
    intro clusters face hclusters hface
    have hopened : ∀ c ∈ clusters ++ [⟨face, []⟩], ∀ f ∈ c.faces, f ∈ faces := by
      intro c hc
      rcases List.mem_append.mp hc with hc | hc
      · exact hclusters c hc
      · rw [List.mem_singleton.mp hc]
        intro f hf
        rwa [List.mem_singleton.mp hf]
    simp only [clusterSeedFace]
    split
    · exact hclusters
    · split
      next best score _ =>
        split
        · intro c hc
          obtain ⟨i, hi⟩ := List.mem_iff_getElem?.mp hc
          rw [List.getElem?_modify] at hi
          obtain ⟨d, hd, hcd⟩ := Option.map_eq_some_iff.mp hi
          have hdfaces := hclusters d (List.mem_of_getElem? hd)
          split at hcd
          · rw [← hcd]
            intro f hf
            rcases List.mem_cons.mp hf with rfl | hf
            · exact hdfaces _ List.mem_cons_self
            · rcases List.mem_append.mp hf with hf | hf
              · exact hdfaces f (List.mem_cons_of_mem _ hf)
              · rwa [List.mem_singleton.mp hf]
          · rw [← hcd]
            exact hdfaces
        · exact hopened
      · exact hopened
  have hfold : ∀ (rest : List (PhotoFaceDetection F)) (clusters : List (SeedCluster F)),
      (∀ c ∈ clusters, ∀ f ∈ c.faces, f ∈ faces) → (∀ f ∈ rest, f ∈ faces) →
      ∀ c ∈ rest.foldl (clusterSeedFace cfg) clusters, ∀ f ∈ c.faces, f ∈ faces := by
    intro rest
    induction rest with
    | nil => exact fun clusters hclusters _ => hclusters
    | cons face rest ih =>
      intro clusters hclusters hrest
      exact ih _ (hstep clusters face hclusters (hrest face List.mem_cons_self))
        fun f hf => hrest f (List.mem_cons_of_mem face hf)
  exact hfold faces [] (fun _ h => absurd h List.not_mem_nil) (fun _ h => h) cluster h

/-- The eligible clusters are those on enough photos, ranked by their photo counts. -/
theorem eligibleClusters_eq_ok {parseFloat : Text → Option F} {cfg : SeedSettings F}
    {clusters : List (SeedCluster F)} {eligible : List (RankedCluster F)}
    (h : eligibleClusters parseFloat cfg clusters = .ok eligible) :
    eligible.map RankedCluster.cluster = clusters.filter cfg.isEligible ∧
      ∀ ranked ∈ eligible, ranked.photoCount = ranked.cluster.photoCount := by
  unfold eligibleClusters at h
  generalize clusters.filter cfg.isEligible = filtered at h ⊢
  have hforall := forall₂_of_mapM h
  clear h
  induction hforall with
  | nil => exact ⟨rfl, fun _ h => absurd h List.not_mem_nil⟩
  | @cons cluster ranked _ _ hranked _ ih =>
    cases hqualities : cluster.faces.mapM (faceSeedQuality parseFloat) with
    | error e =>
      rw [hqualities] at hranked
      cases hranked
    | ok qualities =>
      rw [hqualities] at hranked
      cases hranked
      rw [List.map_cons, ih.1]
      refine ⟨rfl, fun ranked hmem => ?_⟩
      rcases List.mem_cons.mp hmem with rfl | hmem
      · rfl
      · exact ih.2 ranked hmem

private theorem before_total (a b : RankedCluster F) :
    RankedCluster.Before a b ∨ RankedCluster.Before b a := by
  rcases lt_trichotomy a.photoCount b.photoCount with h | h | h
  · exact Or.inr (Or.inl h)
  · rcases le_total a.averageQuality b.averageQuality with hq | hq
    · exact Or.inr (Or.inr ⟨h.symm, hq⟩)
    · exact Or.inl (Or.inr ⟨h, hq⟩)
  · exact Or.inl (Or.inl h)

private theorem before_trans (a b c : RankedCluster F) (hab : RankedCluster.Before a b)
    (hbc : RankedCluster.Before b c) : RankedCluster.Before a c := by
  rcases hab with hab | ⟨hab, hqab⟩
  · rcases hbc with hbc | ⟨hbc, -⟩
    · exact Or.inl (hbc.trans hab)
    · exact Or.inl (hbc ▸ hab)
  · rcases hbc with hbc | ⟨hbc, hqbc⟩
    · exact Or.inl (hab ▸ hbc)
    · exact Or.inr ⟨hab.trans hbc, hqbc.trans hqab⟩

instance : Std.Total (RankedCluster.Before (F := F)) := ⟨before_total⟩

instance : IsTrans (RankedCluster F) RankedCluster.Before := ⟨before_trans⟩

private theorem photoCount_le_of_before {a b : RankedCluster F} (h : RankedCluster.Before a b) :
    b.photoCount ≤ a.photoCount := by
  rcases h with h | ⟨h, -⟩
  · exact h.le
  · exact h.ge

end Clusters

/-- A clear lead over a cluster is a strict one. -/
theorem lt_of_hasClearLead {cfg : SeedSettings ℝ} {best second : Nat}
    (hratio : 1 < cfg.bibOnlySeedClusterLeadRatio) (hsecond : 0 < second)
    (h : hasClearLead cfg best second = true) : second < best := by
  rcases Bool.or_eq_true_iff.mp h with h | h
  · have hle := of_decide_eq_true h
    omega
  · have hle : ⌈((second : ℚ) : ℝ) * cfg.bibOnlySeedClusterLeadRatio⌉ ≤ (best : ℤ) :=
      of_decide_eq_true h
    have hreal : ((second : ℚ) : ℝ) * cfg.bibOnlySeedClusterLeadRatio ≤ ((best : ℤ) : ℝ) :=
      Int.ceil_le.mp hle
    push_cast at hreal
    have hpos : (0 : ℝ) < second := Nat.cast_pos.mpr hsecond
    have hstrict : (second : ℝ) < best :=
      calc (second : ℝ) = second * 1 := (mul_one _).symm
        _ < second * cfg.bibOnlySeedClusterLeadRatio := mul_lt_mul_of_pos_left hratio hpos
        _ ≤ best := hreal
    exact Nat.cast_lt.mp hstrict

/-- Seeds come from a clear consensus: a cluster on the required number of photos, strictly ahead
of every other cluster, whose mean and two best faces are the seeds. -/
structure ClearConsensus (parseFloat : Text → Option ℝ) (cfg : SeedSettings ℝ)
    (candidateFaces : List (PhotoFaceDetection ℝ)) (supportPhotoCount : Nat)
    (cluster : SeedCluster ℝ) (seeds : List (List ℝ)) : Prop where
  support : max cfg.bibOnlySeedClusterMinPhotos
    ⌈(supportPhotoCount : ℝ) * cfg.bibOnlySeedClusterMajorityRatio⌉ ≤ cluster.photoCount
  lead : ∃ before after, clusterSeedFaces cfg.toSettings candidateFaces =
      before ++ cluster :: after ∧
    ∀ other ∈ before ++ after, other.photoCount < cluster.photoCount
  seeds : ∃ best, sortedByQuality parseFloat cluster.faces = .ok best ∧
    ∀ seed ∈ seeds, seed = averageFaceEmbeddings cluster.faces ∨
      ∃ face ∈ best.take 2, seed = normalizeEmbeddingPayload face.embeddingJson

private theorem lead_of_sorted {cfg : SeedSettings ℝ} {clusters : List (SeedCluster ℝ)}
    {best : RankedCluster ℝ} {others : List (RankedCluster ℝ)}
    (hratio : 1 < cfg.bibOnlySeedClusterLeadRatio)
    (hperm : ((best :: others).map RankedCluster.cluster).Perm (clusters.filter cfg.isEligible))
    (hcounts : ∀ ranked ∈ best :: others, ranked.photoCount = ranked.cluster.photoCount)
    (hsorted : (best :: others).Pairwise RankedCluster.Before)
    (hlead : ∀ second, others.head? = some second →
      hasClearLead cfg best.photoCount second.photoCount = true) :
    ∃ before after, clusters = before ++ best.cluster :: after ∧
      ∀ other ∈ before ++ after, other.photoCount < best.cluster.photoCount := by
  have hbest : best.cluster ∈ clusters.filter cfg.isEligible := hperm.subset List.mem_cons_self
  obtain ⟨hmem, heligible⟩ := List.mem_filter.mp hbest
  obtain ⟨before, after, rfl⟩ := List.append_of_mem hmem
  refine ⟨before, after, rfl, fun other hother => ?_⟩
  have hbestCount := hcounts best List.mem_cons_self
  by_cases hothereligible : cfg.isEligible other = true
  · have hrest : (others.map RankedCluster.cluster).Perm
        ((before ++ after).filter cfg.isEligible) := by
      have hmiddle : (before ++ best.cluster :: after).Perm (best.cluster :: (before ++ after)) :=
        List.perm_middle
      have hfilter := hperm.trans (hmiddle.filter cfg.isEligible)
      rw [List.filter_cons_of_pos heligible, List.map_cons] at hfilter
      exact hfilter.cons_inv
    have hin : other ∈ others.map RankedCluster.cluster :=
      hrest.symm.subset (List.mem_filter.mpr ⟨hother, hothereligible⟩)
    obtain ⟨ranked, hranked, rfl⟩ := List.mem_map.mp hin
    cases others with
    | nil => exact absurd hranked List.not_mem_nil
    | cons second rest =>
      have hsecondCount := hcounts second (List.mem_cons_of_mem _ List.mem_cons_self)
      have hpos : 0 < second.photoCount := hsecondCount ▸ second.cluster.photoCount_pos
      have hstrict := lt_of_hasClearLead hratio hpos (hlead second rfl)
      have hle : ranked.photoCount ≤ second.photoCount := by
        rcases List.mem_cons.mp hranked with rfl | hranked
        · exact le_refl _
        · have htail := (List.pairwise_cons.mp hsorted).2
          exact photoCount_le_of_before ((List.pairwise_cons.mp htail).1 ranked hranked)
      have hrankedCount := hcounts ranked (List.mem_cons_of_mem _ hranked)
      omega
  · have hbestEligible := of_decide_eq_true heligible
    have hotherBelow : ¬cfg.bibOnlySeedClusterMinPhotos ≤ (other.photoCount : Int) := fun hle =>
      hothereligible (decide_eq_true hle)
    omega

private theorem requiredSupport_eq (cfg : SeedSettings ℝ) (supportPhotoCount : Nat) :
    requiredSupport cfg supportPhotoCount = max cfg.bibOnlySeedClusterMinPhotos
      ⌈(supportPhotoCount : ℝ) * cfg.bibOnlySeedClusterMajorityRatio⌉ := by
  have hcast : ((supportPhotoCount : ℚ) : ℝ) = supportPhotoCount := Rat.cast_natCast _
  rw [← hcast]
  rfl

/-- Seeds of the consensus step come from a clear consensus. -/
theorem clearConsensus_of_select {parseFloat : Text → Option ℝ} {cfg : SeedSettings ℝ}
    {faces : List (PhotoFaceDetection ℝ)} {supportPhotoCount : Nat} {seeds : List (List ℝ)}
    (hratio : 1 < cfg.bibOnlySeedClusterLeadRatio)
    (h : selectConsensusSeedEmbeddings parseFloat cfg faces supportPhotoCount = .ok seeds)
    (hne : seeds ≠ []) :
    seeds.length ≤ 3 ∧
      ∃ cluster, ClearConsensus parseFloat cfg faces supportPhotoCount cluster seeds := by
  rw [selectConsensusSeedEmbeddings] at h
  split at h
  · cases h
    exact absurd rfl hne
  cases heligible : eligibleClusters parseFloat cfg (clusterSeedFaces cfg.toSettings faces) with
  | error e =>
    rw [heligible] at h
    cases h
  | ok eligible =>
    obtain ⟨hclusters, hcounts⟩ := eligibleClusters_eq_ok heligible
    rw [heligible, Core.ok_bind] at h
    have hperm := List.perm_insertionSort RankedCluster.Before eligible
    have hsorted := List.pairwise_insertionSort RankedCluster.Before eligible
    cases hranked : eligible.insertionSort RankedCluster.Before with
    | nil =>
      rw [hranked] at h
      cases h
      exact absurd rfl hne
    | cons best others =>
      rw [hranked] at h hperm hsorted
      dsimp only at h
      split at h
      · cases h
        exact absurd rfl hne
      next hsupport =>
        split at h
        · cases h
          exact absurd rfl hne
        next hlead =>
          cases hbest : sortedByQuality parseFloat best.cluster.faces with
          | error e =>
            rw [hbest] at h
            cases h
          | ok bestFaces =>
            rw [hbest, Core.ok_bind] at h
            cases h
            refine ⟨List.length_take_le 3 _, best.cluster, ⟨?_, ?_, ⟨bestFaces, hbest, ?_⟩⟩⟩
            · have hcount := hcounts best (hperm.subset List.mem_cons_self)
              rw [← hcount]
              rw [← requiredSupport_eq]
              exact not_lt.mp hsupport
            · refine lead_of_sorted hratio ?_ ?_ hsorted ?_
              · rw [← hclusters]
                exact hperm.map _
              · exact fun ranked hmem => hcounts ranked (hperm.subset hmem)
              · intro second hsecond
                rw [hsecond, Option.any_some, Bool.not_eq_true', Bool.not_eq_false] at hlead
                exact hlead
            · intro seed hseed
              obtain ⟨hseedNe, v, hv, rfl⟩ := mem_dedupeSeedEmbeddings (List.mem_of_mem_take hseed)
              rcases List.mem_cons.mp hv with rfl | hv
              · left
                rw [← averageFaceEmbeddings_perm (perm_of_sortedByQuality hbest)]
                exact normalizeEmbeddingPayload_of_norm_eq_one
                  (euclideanNorm_averageFaceEmbeddings (ne_nil_of_normalize hseedNe)) hseedNe
              · right
                obtain ⟨face, hface, rfl⟩ := List.mem_map.mp hv
                exact ⟨face, hface, rfl⟩

/-! ## The loop over the candidate photos -/

section Scan

variable {F : Type}

/-- The photos that show the bib. -/
def exactBibPhotos (bibNumber : Text) (photos : List (LoadedPhoto F)) : List (LoadedPhoto F) :=
  photos.filter fun photo => hasExactBibMatch photo.detections bibNumber

private theorem exactBibPhotos_cons_of_exact {bibNumber : Text} {photo : LoadedPhoto F}
    {photos : List (LoadedPhoto F)} (h : hasExactBibMatch photo.detections bibNumber = true) :
    exactBibPhotos bibNumber (photo :: photos) = photo :: exactBibPhotos bibNumber photos :=
  List.filter_cons_of_pos h

variable [CeilScalar F]

/-- The faces of a photo with a usable embedding. -/
def LoadedPhoto.usableFaces (photo : LoadedPhoto F) : List (PhotoFaceDetection F) :=
  photo.faceDetections.filter fun face => !(normalizeEmbeddingPayload face.embeddingJson).isEmpty

/-- The photos with a usable face among the first exact-bib photos. -/
def supportPhotos (room : Nat) (bibNumber : Text) (photos : List (LoadedPhoto F)) :
    List (LoadedPhoto F) :=
  ((exactBibPhotos bibNumber photos).take room).filter fun photo => !photo.usableFaces.isEmpty

/-- What the loop adds to its local variables, with room for so many more exact-bib photos. -/
structure Scanned (room : Nat) (bibNumber : Text) (photos : List (LoadedPhoto F))
    (scan result : SeedScan F) : Prop where
  exactBib : result.exactBibPhotoCount =
    scan.exactBibPhotoCount + min (exactBibPhotos bibNumber photos).length (room + 1)
  usable : result.usableFacePhotoCount =
    scan.usableFacePhotoCount + (supportPhotos room bibNumber photos).length
  candidates : ∀ face ∈ result.candidateFaces, face ∈ scan.candidateFaces ∨
    ∃ photo ∈ supportPhotos room bibNumber photos, face ∈ photo.usableFaces
  single : result.singlePhotoSingleFaceEmbedding = scan.singlePhotoSingleFaceEmbedding ∨
    scan.exactBibPhotoCount = 0 ∧ ∃ photo face,
      ((exactBibPhotos bibNumber photos).take room).head? = some photo ∧
      photo.usableFaces = [face] ∧ result.singlePhotoSingleFaceEmbedding =
        some (normalizeEmbeddingPayload face.embeddingJson)

private theorem supportPhotos_cons_of_usable {room : Nat} {bibNumber : Text}
    {photo : LoadedPhoto F} {photos : List (LoadedPhoto F)}
    (hexact : hasExactBibMatch photo.detections bibNumber = true) (hne : photo.usableFaces ≠ []) :
    supportPhotos (room + 1) bibNumber (photo :: photos) =
      photo :: supportPhotos room bibNumber photos := by
  have husable : (!photo.usableFaces.isEmpty) = true := by
    cases h : photo.usableFaces with
    | nil => exact absurd h hne
    | cons => rfl
  rw [supportPhotos, exactBibPhotos_cons_of_exact hexact, List.take_succ_cons]
  exact List.filter_cons_of_pos husable

private theorem supportPhotos_cons_of_unusable {room : Nat} {bibNumber : Text}
    {photo : LoadedPhoto F} {photos : List (LoadedPhoto F)}
    (hexact : hasExactBibMatch photo.detections bibNumber = true) (hnil : photo.usableFaces = []) :
    supportPhotos (room + 1) bibNumber (photo :: photos) = supportPhotos room bibNumber photos := by
  have hunusable : ¬(!photo.usableFaces.isEmpty) = true := by
    rw [hnil]
    exact Bool.false_ne_true
  rw [supportPhotos, exactBibPhotos_cons_of_exact hexact, List.take_succ_cons]
  exact List.filter_cons_of_neg hunusable

/-- An exact-bib photo with usable faces that adds candidates: the rest of the loop, with the
photo, does what it should. -/
private theorem Scanned.cons {room : Nat} {bibNumber : Text} {photo : LoadedPhoto F}
    {photos : List (LoadedPhoto F)} {scan added result : SeedScan F}
    (h : Scanned room bibNumber photos added result)
    (hexact : hasExactBibMatch photo.detections bibNumber = true) (hne : photo.usableFaces ≠ [])
    (hcount : added.exactBibPhotoCount = scan.exactBibPhotoCount + 1)
    (husable : added.usableFacePhotoCount = scan.usableFacePhotoCount + 1)
    (hcandidates : ∀ face ∈ added.candidateFaces,
      face ∈ scan.candidateFaces ∨ face ∈ photo.usableFaces)
    (hsingle : added.singlePhotoSingleFaceEmbedding = scan.singlePhotoSingleFaceEmbedding ∨
      scan.exactBibPhotoCount = 0 ∧ ∃ face, photo.usableFaces = [face] ∧
        added.singlePhotoSingleFaceEmbedding =
          some (normalizeEmbeddingPayload face.embeddingJson)) :
    Scanned (room + 1) bibNumber (photo :: photos) scan result := by
  have hfilter : exactBibPhotos bibNumber (photo :: photos) =
      photo :: exactBibPhotos bibNumber photos := exactBibPhotos_cons_of_exact hexact
  have hkept : result.singlePhotoSingleFaceEmbedding = added.singlePhotoSingleFaceEmbedding := by
    rcases h.single with hsame | ⟨hzero, -⟩
    · exact hsame
    · omega
  refine ⟨?_, ?_, ?_, ?_⟩
  · rw [h.exactBib, hcount, hfilter, List.length_cons]
    omega
  · rw [h.usable, husable, supportPhotos_cons_of_usable hexact hne, List.length_cons]
    omega
  · intro face hface
    rw [supportPhotos_cons_of_usable hexact hne]
    rcases h.candidates face hface with hface | ⟨p, hp, hface⟩
    · rcases hcandidates face hface with hface | hface
      · exact Or.inl hface
      · exact Or.inr ⟨photo, List.mem_cons_self, hface⟩
    · exact Or.inr ⟨p, List.mem_cons_of_mem _ hp, hface⟩
  · rw [hkept, hfilter]
    rcases hsingle with hsame | ⟨hzero, face, hfaces, hsome⟩
    · exact Or.inl hsame
    · exact Or.inr ⟨hzero, photo, face, rfl, hfaces, hsome⟩

/-- The loop has nothing left to look at. -/
private theorem scanned_nil {bibNumber : Text} {room : Nat} {scan : SeedScan F} :
    Scanned room bibNumber [] scan scan := by
  refine ⟨?_, ?_, fun face hface => Or.inl hface, Or.inl rfl⟩
  · simp only [exactBibPhotos, List.filter_nil, List.length_nil, Nat.zero_min, Nat.add_zero]
  · simp only [supportPhotos, exactBibPhotos, List.filter_nil, List.take_nil, List.length_nil,
      Nat.add_zero]

/-- A photo without the bib is passed over. -/
private theorem Scanned.skip {room : Nat} {bibNumber : Text} {photo : LoadedPhoto F}
    {photos : List (LoadedPhoto F)} {scan result : SeedScan F}
    (h : Scanned room bibNumber photos scan result)
    (hexact : hasExactBibMatch photo.detections bibNumber = false) :
    Scanned room bibNumber (photo :: photos) scan result := by
  have hfilter : exactBibPhotos bibNumber (photo :: photos) =
      exactBibPhotos bibNumber photos := by
    rw [exactBibPhotos, List.filter_cons_of_neg (by rw [hexact]; exact Bool.false_ne_true)]
    rfl
  refine ⟨?_, ?_, ?_, ?_⟩
  · rw [hfilter]
    exact h.exactBib
  · rw [supportPhotos, hfilter]
    exact h.usable
  · rw [supportPhotos, hfilter]
    exact h.candidates
  · rw [hfilter]
    exact h.single

/-- The first exact-bib photo past the limit is counted and ends the loop. -/
private theorem scanned_of_limit {bibNumber : Text} {photo : LoadedPhoto F}
    {photos : List (LoadedPhoto F)} (scan : SeedScan F)
    (hexact : hasExactBibMatch photo.detections bibNumber = true) :
    Scanned 0 bibNumber (photo :: photos) scan
      { scan with exactBibPhotoCount := scan.exactBibPhotoCount + 1 } := by
  refine ⟨?_, ?_, fun face hface => Or.inl hface, Or.inl rfl⟩
  · rw [exactBibPhotos_cons_of_exact hexact, List.length_cons]
    dsimp only
    omega
  · rw [supportPhotos, List.take_zero]
    rfl

/-- An exact-bib photo without usable faces is only counted. -/
private theorem Scanned.unusable {room : Nat} {bibNumber : Text} {photo : LoadedPhoto F}
    {photos : List (LoadedPhoto F)} {scan result : SeedScan F}
    (h : Scanned room bibNumber photos
      { scan with exactBibPhotoCount := scan.exactBibPhotoCount + 1 } result)
    (hexact : hasExactBibMatch photo.detections bibNumber = true) (hnil : photo.usableFaces = []) :
    Scanned (room + 1) bibNumber (photo :: photos) scan result := by
  refine ⟨?_, ?_, ?_, ?_⟩
  · rw [h.exactBib, exactBibPhotos_cons_of_exact hexact, List.length_cons]
    dsimp only
    omega
  · rw [h.usable, supportPhotos_cons_of_unusable hexact hnil]
  · rw [supportPhotos_cons_of_unusable hexact hnil]
    exact h.candidates
  · rcases h.single with hsame | ⟨hzero, -⟩
    · exact Or.inl hsame
    · exact absurd hzero (Nat.succ_ne_zero _)

/-- The loop counts the exact-bib photos, stops after the limit and gathers its candidates from
the photos that count as support. -/
theorem scanned_of_scanCandidatePhotos {parseFloat : Text → Option F} {cfg : SeedSettings F}
    {bibNumber : Text} {photos : List (LoadedPhoto F)} {scan result : SeedScan F}
    (h : scanCandidatePhotos parseFloat cfg bibNumber photos scan = .ok result) :
    Scanned (cfg.bibOnlySeedPhotoLimit - scan.exactBibPhotoCount).toNat bibNumber photos scan
      result := by
  induction photos generalizing scan with
  | nil =>
    cases h
    exact scanned_nil
  | cons photo photos ih =>
    rw [scanCandidatePhotos] at h
    cases hexact : hasExactBibMatch photo.detections bibNumber with
    | false =>
      rw [hexact] at h
      exact (ih h).skip hexact
    | true =>
      rw [hexact] at h
      simp only [Bool.not_true, Bool.false_eq_true, ite_false] at h
      split at h
      next hlimit =>
        cases h
        have hroom : (cfg.bibOnlySeedPhotoLimit - scan.exactBibPhotoCount).toNat = 0 := by
          push_cast at hlimit
          omega
        rw [hroom]
        exact scanned_of_limit scan hexact
      next hlimit =>
        have hroom : (cfg.bibOnlySeedPhotoLimit - scan.exactBibPhotoCount).toNat =
            (cfg.bibOnlySeedPhotoLimit - (scan.exactBibPhotoCount + 1 : Nat)).toNat + 1 := by
          push_cast at hlimit ⊢
          omega
        rw [hroom]
        cases hsorted : sortedByQuality parseFloat photo.usableFaces with
        | error e =>
          rw [LoadedPhoto.usableFaces] at hsorted
          rw [hsorted] at h
          cases h
        | ok goodFaces =>
          have hperm := perm_of_sortedByQuality hsorted
          rw [LoadedPhoto.usableFaces] at hsorted
          rw [hsorted, Core.ok_bind] at h
          match goodFaces, hperm, h with
          | [], hperm, h =>
            exact (ih h).unusable hexact hperm.symm.eq_nil
          | [face], hperm, h =>
            have hfaces : photo.usableFaces = [face] := List.perm_singleton.mp hperm.symm
            refine (ih h).cons hexact (by rw [hfaces]; exact List.cons_ne_nil _ _) rfl rfl ?_ ?_
            · intro f hf
              rw [hfaces]
              exact List.mem_append.mp hf
            · dsimp only
              split
              next hone => exact Or.inr ⟨by omega, face, hfaces, rfl⟩
              next => exact Or.inl rfl
          | face :: other :: others, hperm, h =>
            dsimp only at h
            cases hdominant : isDominantFace parseFloat (face :: other :: others) with
            | error e =>
              rw [hdominant] at h
              cases h
            | ok dominant =>
              rw [hdominant, Core.ok_bind] at h
              refine (ih h).cons hexact ?_ rfl rfl ?_ (Or.inl rfl)
              · intro hnil
                rw [hnil] at hperm
                exact absurd hperm.eq_nil (List.cons_ne_nil _ _)
              · intro f hf
                rcases List.mem_append.mp hf with hf | hf
                · exact Or.inl hf
                · right
                  apply hperm.subset
                  split at hf
                  · rw [List.mem_singleton.mp hf]
                    exact List.mem_cons_self
                  · exact List.mem_of_mem_take hf

end Scan

/-- The event has one exact-bib photo, this photo has one usable face, and its embedding is the
only seed. -/
def SinglePhotoSeed (bibNumber : Text) (photos : List (LoadedPhoto ℝ)) (seeds : List (List ℝ)) :
    Prop :=
  ∃ photo face, exactBibPhotos bibNumber photos = [photo] ∧ photo.usableFaces = [face] ∧
    seeds = [normalizeEmbeddingPayload face.embeddingJson]

private theorem singlePhotoSeed_of_scanned {room : Nat} {bibNumber : Text}
    {photos : List (LoadedPhoto ℝ)} {result : SeedScan ℝ} {seed : List ℝ}
    (hscanned : Scanned room bibNumber photos ⟨[], 0, 0, none⟩ result)
    (hexact : result.exactBibPhotoCount = 1) (husable : result.usableFacePhotoCount = 1)
    (hsingle : result.singlePhotoSingleFaceEmbedding = some seed) :
    SinglePhotoSeed bibNumber photos [seed] := by
  have hsupport : (supportPhotos room bibNumber photos).length = 1 := by
    have h := hscanned.usable
    rw [husable] at h
    dsimp only at h
    omega
  have hroom : 0 < room := by
    rcases Nat.eq_zero_or_pos room with rfl | hpos
    · rw [supportPhotos, List.take_zero] at hsupport
      cases hsupport
    · exact hpos
  have hlength : (exactBibPhotos bibNumber photos).length = 1 := by
    have h := hscanned.exactBib
    rw [hexact] at h
    dsimp only at h
    omega
  rcases hscanned.single with hnone | ⟨-, photo, face, hhead, hfaces, hsome⟩
  · rw [hsingle] at hnone
    cases hnone
  · obtain ⟨only, honly⟩ := List.length_eq_one_iff.mp hlength
    refine ⟨photo, face, ?_, hfaces, ?_⟩
    · rw [honly, List.take_of_length_le (by rw [List.length_singleton]; exact hroom)] at hhead
      rw [honly, Option.some.inj hhead]
    · rw [hsingle] at hsome
      rw [Option.some.inj hsome]

/-- Whatever the query returns for the photos of an event, a bib-only search has at most three
seeds, and it has seeds only in two cases. Either a cluster of the candidate faces, all of them on
the supporting photos, is on the required number of photos and strictly ahead of every other
cluster, and the seeds are its normalised mean and the embeddings of its two best faces; with a
minimum of two photos, such a cluster spans two photos. Or the event has a single exact-bib photo
with a single usable face. -/
theorem seeds_of_clear_consensus {parseFloat : Text → Option ℝ} {cfg : SeedSettings ℝ}
    {db : Database ℝ} {eventId : Uuid} {loaded : List (LoadedPhoto ℝ)} {participant : Participant}
    {seeds : List (List ℝ)} (hload : db.LoadsEventPhotos eventId loaded)
    (hratio : 1 < cfg.bibOnlySeedClusterLeadRatio)
    (h : selectBibOnlySeedEmbeddings parseFloat cfg loaded participant.bibNumber = .ok seeds)
    (hne : seeds ≠ []) :
    seeds.length ≤ 3 ∧ ∃ scan,
      scanCandidatePhotos parseFloat cfg participant.bibNumber loaded ⟨[], 0, 0, none⟩ = .ok scan ∧
      ((∃ cluster,
        ClearConsensus parseFloat cfg scan.candidateFaces
          (supportPhotos cfg.bibOnlySeedPhotoLimit.toNat participant.bibNumber loaded).length
          cluster seeds ∧
        (∀ face ∈ cluster.faces, ∃ photo ∈
          supportPhotos cfg.bibOnlySeedPhotoLimit.toNat participant.bibNumber loaded,
          face ∈ photo.usableFaces ∧ face.photoId = photo.photo.id) ∧
        (2 ≤ cfg.bibOnlySeedClusterMinPhotos → 2 ≤ cluster.photoCount)) ∨
      SinglePhotoSeed participant.bibNumber loaded seeds) := by
  rw [selectBibOnlySeedEmbeddings] at h
  cases hscan : scanCandidatePhotos parseFloat cfg participant.bibNumber loaded
      ⟨[], 0, 0, none⟩ with
  | error e =>
    rw [hscan] at h
    cases h
  | ok scan =>
    have hscanned := scanned_of_scanCandidatePhotos hscan
    have hroom : (cfg.bibOnlySeedPhotoLimit - ((0 : Nat) : Int)).toNat =
        cfg.bibOnlySeedPhotoLimit.toNat := by omega
    rw [hroom] at hscanned
    have husable := hscanned.usable
    rw [Nat.zero_add] at husable
    rw [hscan, Core.ok_bind] at h
    cases hconsensus : selectConsensusSeedEmbeddings parseFloat cfg scan.candidateFaces
        scan.usableFacePhotoCount with
    | error e =>
      rw [hconsensus] at h
      cases h
    | ok consensus =>
      rw [hconsensus, Core.ok_bind] at h
      split at h
      next hsome =>
        cases h
        rw [husable] at hconsensus
        obtain ⟨hlength, cluster, hclear⟩ := clearConsensus_of_select hratio hconsensus hne
        refine ⟨hlength, scan, rfl, Or.inl ⟨cluster, hclear, ?_, ?_⟩⟩
        · intro face hface
          obtain ⟨before, after, hclusters, -⟩ := hclear.lead
          have hcluster : cluster ∈ clusterSeedFaces cfg.toSettings scan.candidateFaces := by
            rw [hclusters]
            exact List.mem_append_right before List.mem_cons_self
          have hcandidate := mem_of_mem_clusterSeedFaces hcluster face hface
          rcases hscanned.candidates face hcandidate with hnil | ⟨photo, hphoto, hmem⟩
          · exact absurd hnil List.not_mem_nil
          · have hloaded : photo ∈ loaded :=
              List.mem_of_mem_filter (List.mem_of_mem_take (List.mem_of_mem_filter hphoto))
            have hrow := (hload.faceDetections photo hloaded).subset (List.mem_of_mem_filter hmem)
            exact ⟨photo, hphoto, hmem, by simpa using (List.mem_filter.mp hrow).2⟩
        · intro htwo
          have hsupport := le_of_max_le_left hclear.support
          omega
      next =>
        split at h
        next x xs hsingle =>
          split at h
          next hcounts =>
            cases h
            exact ⟨by simp, scan, rfl,
              Or.inr (singlePhotoSeed_of_scanned hscanned hcounts.1 hcounts.2 hsingle)⟩
          next =>
            cases h
            exact absurd rfl hne
        next =>
          cases h
          exact absurd rfl hne

/-! ## A runner and a stranger -/

/-- A vector in the plane of the first two coordinates. -/
noncomputable def planeVector (x y : ℝ) : List ℝ :=
  x :: y :: List.replicate (embeddingDimensions - 2) 0

private theorem length_planeVector (x y : ℝ) : (planeVector x y).length = embeddingDimensions := by
  rw [planeVector, List.length_cons, List.length_cons, List.length_replicate]
  rfl

private theorem sum_zipWith_planeVector (x y z w : ℝ) :
    (List.zipWith (· * ·) (planeVector x y) (planeVector z w)).sum = x * z + y * w := by
  rw [planeVector, planeVector]
  generalize embeddingDimensions - 2 = n
  simp only [List.zipWith_cons_cons, List.zipWith_replicate, List.sum_cons, List.sum_replicate,
    mul_zero, smul_zero, add_zero]

private theorem sum_squares_planeVector (x y : ℝ) :
    ((planeVector x y).map fun z => z * z).sum = x * x + y * y := by
  rw [← sum_zipWith_planeVector, List.zipWith_self]

section Plane

variable {x y z w : ℝ}

private theorem euclideanNorm_planeVector (h : x * x + y * y = 1) :
    euclideanNorm (planeVector x y) = 1 := by
  rw [euclideanNorm_eq, sum_squares_planeVector, h, Real.sqrt_one]

private theorem normalize_planeVector (h : x * x + y * y = 1) :
    normalizeEmbeddingPayload (planeVector x y) = planeVector x y := by
  refine normalizeEmbeddingPayload_of_norm_eq_one (euclideanNorm_planeVector h) ?_
  refine (normalizeEmbeddingPayload_ne_nil_iff _).mpr
    ⟨length_planeVector x y, fun t ht => abs_le.mpr ?_, ?_⟩
  · rw [planeVector, List.mem_cons, List.mem_cons, List.mem_replicate] at ht
    rcases ht with rfl | rfl | ⟨-, rfl⟩
    · constructor <;> nlinarith [mul_self_nonneg y]
    · constructor <;> nlinarith [mul_self_nonneg x]
    · norm_num
  · rw [sum_squares_planeVector, h]
    norm_num

private theorem cosineSimilarity_planeVector (h : x * x + y * y = 1) (h' : z * z + w * w = 1) :
    cosineSimilarity (planeVector x y) (planeVector z w) = max (-1) (min 1 (x * z + y * w)) := by
  have hpos : ¬(1 : ℝ) ≤ 0 := not_le.mpr one_pos
  have hempty : ∀ x y : ℝ, (planeVector x y).isEmpty = false := fun _ _ => rfl
  rw [cosineSimilarity, hempty, hempty, length_planeVector, length_planeVector,
    bne_self_eq_false]
  simp only [Bool.or_self, Bool.false_eq_true, ite_false, euclideanNorm_planeVector h,
    euclideanNorm_planeVector h', decide_eq_false hpos, mul_one, div_one, Scalar.sum_eq_sum,
    sum_zipWith_planeVector]

end Plane

/-- Without a box every face has quality zero. -/
private theorem faceSeedQuality_of_noBox (parseFloat : Text → Option ℝ)
    {face : PhotoFaceDetection ℝ} (h : face.boundingBoxJson = none) :
    faceSeedQuality parseFloat face = .ok 0 := by
  have hzero : (Scalar.ofRat ((0 : ℤ) : ℚ) : ℝ) = 0 := Rat.cast_zero
  rw [faceSeedQuality, h]
  simp only [Option.getD_none, List.lookup_nil, Json.orZero, Core.ok_bind, hzero, zero_mul]
  rfl

/-- Faces without boxes stay in their order. -/
private theorem sortedByQuality_of_noBox (parseFloat : Text → Option ℝ)
    {faces : List (PhotoFaceDetection ℝ)} (h : ∀ face ∈ faces, face.boundingBoxJson = none) :
    sortedByQuality parseFloat faces = .ok faces := by
  have hkeyed : (faces.mapM fun face => do
      let quality ← faceSeedQuality parseFloat face
      return (quality, face)) = .ok (faces.map fun face => ((0 : ℝ), face)) := by
    induction faces with
    | nil => rfl
    | cons face faces ih =>
      rw [List.mapM_cons, faceSeedQuality_of_noBox parseFloat (h face List.mem_cons_self),
        ih fun f hf => h f (List.mem_cons_of_mem face hf)]
      rfl
  have hsorted : (faces.map fun face => ((0 : ℝ), face)).Pairwise fun a b => b.1 ≤ a.1 :=
    List.pairwise_map.mpr (List.pairwise_of_forall fun _ _ => le_refl _)
  rw [sortedByQuality, hkeyed, Core.ok_bind, hsorted.insertionSort_eq, List.map_map]
  exact congrArg Except.ok (List.map_id faces)

private theorem isDominantFace_of_noBox (parseFloat : Text → Option ℝ)
    {first second : PhotoFaceDetection ℝ} (hfirst : first.boundingBoxJson = none)
    (hsecond : second.boundingBoxJson = none) (faces : List (PhotoFaceDetection ℝ)) :
    isDominantFace parseFloat (first :: second :: faces) = .ok false := by
  rw [isDominantFace, faceSeedQuality_of_noBox parseFloat hfirst,
    faceSeedQuality_of_noBox parseFloat hsecond, Core.ok_bind, Core.ok_bind,
    decide_eq_false (lt_irrefl (0 : ℝ)), Bool.false_and]
  rfl

private def onlyPhoto : Photo where
  id := 1
  eventId := 7
  originalObjectKey := []
  fileName := []
  contentType := []
  status := .ready
  createdAt := 0

private def runner : Participant where
  id := 5
  eventId := 7
  bibNumber := "12".toList
  fullName := []
  bibLookup := "12".toList
  nameLookup := []

/-- A face with a usable embedding. -/
noncomputable def onlyFace : PhotoFaceDetection ℝ where
  id := 3
  eventId := 7
  photoId := 1
  photoJobId := 4
  faceIndex := 0
  embeddingJson := firstUnit ℝ
  boundingBoxJson := none
  detectionScore := none
  qualityScore := none

private noncomputable def runnerFace (photoId : Uuid) : PhotoFaceDetection ℝ :=
  { onlyFace with id := 10 + photoId, photoId := photoId, embeddingJson := planeVector 1 0 }

private noncomputable def strangerFace (photoId : Uuid) : PhotoFaceDetection ℝ :=
  { onlyFace with
    id := 20 + photoId, photoId := photoId, faceIndex := 1, embeddingJson := planeVector 0 1 }

private noncomputable def bibPhotoOf (photoId : Uuid) (faces : List (PhotoFaceDetection ℝ)) :
    LoadedPhoto ℝ where
  photo := { onlyPhoto with id := photoId }
  detections := [⟨photoId, 2, "12".toList, "12".toList, none, none⟩]
  faceDetections := faces

private noncomputable def threePhotos : List (LoadedPhoto ℝ) :=
  [bibPhotoOf 1 [runnerFace 1, strangerFace 1], bibPhotoOf 2 [runnerFace 2, strangerFace 2],
    bibPhotoOf 3 [runnerFace 3]]

private noncomputable def threePhotosDatabase : Database ℝ :=
  { Database.empty with
    photos := ⟨threePhotos.map LoadedPhoto.photo, by decide⟩
    photoTextDetections := threePhotos.flatMap LoadedPhoto.detections
    photoFaceDetections := ⟨threePhotos.flatMap LoadedPhoto.faceDetections, by decide⟩ }

private theorem loads_threePhotos : threePhotosDatabase.LoadsEventPhotos 7 threePhotos where
  photos := List.Perm.refl _
  newestFirst := by decide
  detections p hp := by
    simp only [threePhotos, List.mem_cons, List.not_mem_nil, or_false] at hp
    rcases hp with rfl | rfl | rfl <;> exact List.Perm.refl _
  faceDetections p hp := by
    simp only [threePhotos, List.mem_cons, List.not_mem_nil, or_false] at hp
    rcases hp with rfl | rfl | rfl <;> exact List.Perm.refl _

private theorem normalize_runnerFace (photoId : Uuid) :
    normalizeEmbeddingPayload (runnerFace photoId).embeddingJson = planeVector 1 0 :=
  normalize_planeVector (by norm_num)

private theorem normalize_strangerFace (photoId : Uuid) :
    normalizeEmbeddingPayload (strangerFace photoId).embeddingJson = planeVector 0 1 :=
  normalize_planeVector (by norm_num)

private theorem usable_of_eq (photoId : Uuid) {face : PhotoFaceDetection ℝ}
    (h : face = runnerFace photoId ∨ face = strangerFace photoId) :
    (!(normalizeEmbeddingPayload face.embeddingJson).isEmpty) = true := by
  rcases h with rfl | rfl
  · rw [normalize_runnerFace]
    rfl
  · rw [normalize_strangerFace]
    rfl

section Turns

variable {photoId : Uuid} {photos : List (LoadedPhoto ℝ)} {scan : SeedScan ℝ}

/-- A photo with two faces of the same size adds both. -/
private theorem scan_pair
    (hexact : hasExactBibMatch (bibPhotoOf photoId []).detections runner.bibNumber = true)
    (hlimit : scan.exactBibPhotoCount < 10) :
    scanCandidatePhotos (fun _ => none) (SeedSettings.environment ℝ) runner.bibNumber
        (bibPhotoOf photoId [runnerFace photoId, strangerFace photoId] :: photos) scan =
      scanCandidatePhotos (fun _ => none) (SeedSettings.environment ℝ) runner.bibNumber photos
        ⟨scan.candidateFaces ++ [runnerFace photoId, strangerFace photoId],
          scan.exactBibPhotoCount + 1, scan.usableFacePhotoCount + 1,
          scan.singlePhotoSingleFaceEmbedding⟩ := by
  have hroom : ¬(SeedSettings.environment ℝ).bibOnlySeedPhotoLimit <
      ((scan.exactBibPhotoCount + 1 : Nat) : Int) := not_lt.mpr (Int.ofNat_le.mpr hlimit)
  have hfilter : [runnerFace photoId, strangerFace photoId].filter (fun face =>
      !(normalizeEmbeddingPayload face.embeddingJson).isEmpty) =
        [runnerFace photoId, strangerFace photoId] :=
    List.filter_eq_self.mpr fun face hface => usable_of_eq photoId (by simpa using hface)
  have hsorted : sortedByQuality (fun _ => none) [runnerFace photoId, strangerFace photoId] =
      .ok [runnerFace photoId, strangerFace photoId] :=
    sortedByQuality_of_noBox _ (by simp [runnerFace, strangerFace, onlyFace])
  have hdominant : isDominantFace (fun _ => none) [runnerFace photoId, strangerFace photoId] =
      .ok false := isDominantFace_of_noBox _ rfl rfl []
  rw [bibPhotoOf] at hexact
  rw [bibPhotoOf, scanCandidatePhotos, hexact]
  simp only [Bool.not_true, Bool.false_eq_true, ite_false, hroom, hfilter, hsorted, Core.ok_bind,
    hdominant]
  rfl

/-- A later photo with one face adds it. -/
private theorem scan_single
    (hexact : hasExactBibMatch (bibPhotoOf photoId []).detections runner.bibNumber = true)
    (hlimit : scan.exactBibPhotoCount < 10) (hlater : 0 < scan.exactBibPhotoCount) :
    scanCandidatePhotos (fun _ => none) (SeedSettings.environment ℝ) runner.bibNumber
        (bibPhotoOf photoId [runnerFace photoId] :: photos) scan =
      scanCandidatePhotos (fun _ => none) (SeedSettings.environment ℝ) runner.bibNumber photos
        ⟨scan.candidateFaces ++ [runnerFace photoId], scan.exactBibPhotoCount + 1,
          scan.usableFacePhotoCount + 1, scan.singlePhotoSingleFaceEmbedding⟩ := by
  have hroom : ¬(SeedSettings.environment ℝ).bibOnlySeedPhotoLimit <
      ((scan.exactBibPhotoCount + 1 : Nat) : Int) := not_lt.mpr (Int.ofNat_le.mpr hlimit)
  have hfilter : [runnerFace photoId].filter (fun face =>
      !(normalizeEmbeddingPayload face.embeddingJson).isEmpty) = [runnerFace photoId] :=
    List.filter_eq_self.mpr fun face hface =>
      usable_of_eq photoId (Or.inl (List.mem_singleton.mp hface))
  have hsorted : sortedByQuality (fun _ => none) [runnerFace photoId] =
      .ok [runnerFace photoId] :=
    sortedByQuality_of_noBox _ (by simp [runnerFace, onlyFace])
  rw [bibPhotoOf] at hexact
  rw [bibPhotoOf, scanCandidatePhotos, hexact]
  simp only [Bool.not_true, Bool.false_eq_true, ite_false, hroom, hfilter, hsorted, Core.ok_bind,
    Nat.add_eq_right, hlater.ne']

end Turns

private theorem scan_threePhotos :
    scanCandidatePhotos (fun _ => none) (SeedSettings.environment ℝ) runner.bibNumber threePhotos
        ⟨[], 0, 0, none⟩ =
      .ok ⟨[runnerFace 1, strangerFace 1, runnerFace 2, strangerFace 2, runnerFace 3], 3, 3,
        none⟩ := by
  rw [threePhotos, scan_pair (by decide +kernel) (by decide), scan_pair (by decide +kernel)
    (by dsimp only; decide), scan_single (by decide +kernel) (by dsimp only; decide)
    (by dsimp only; decide)]
  rfl

/-- The score of a cluster whose faces all have the same embedding. -/
private theorem score_of_same {v w : List ℝ} {cluster : SeedCluster ℝ}
    (h : ∀ face ∈ cluster.faces, face.embeddingJson = w) :
    cluster.score v = cosineSimilarity v w := by
  obtain ⟨first, appended⟩ := cluster
  have hfirst : first.embeddingJson = w := h first List.mem_cons_self
  have happended : ∀ face ∈ appended, face.embeddingJson = w :=
    fun face hface => h face (List.mem_cons_of_mem first hface)
  clear h
  rw [SeedCluster.score]
  dsimp only
  rw [hfirst]
  induction appended with
  | nil => rfl
  | cons face faces ih =>
    rw [List.foldl_cons, happended face List.mem_cons_self, max_self]
    exact ih fun f hf => happended f (List.mem_cons_of_mem face hf)

/-- The clusters of the runner and of the stranger. -/
private noncomputable def twoClusters (runnerPhotos strangerPhotos : List Uuid) :
    List (SeedCluster ℝ) :=
  [⟨runnerFace 1, runnerPhotos.map runnerFace⟩, ⟨strangerFace 1, strangerPhotos.map strangerFace⟩]

private theorem cosineSimilarity_axes :
    cosineSimilarity (planeVector 1 0) (planeVector 1 0) = 1 ∧
      cosineSimilarity (planeVector 0 1) (planeVector 0 1) = 1 ∧
      cosineSimilarity (planeVector 1 0) (planeVector 0 1) = 0 ∧
      cosineSimilarity (planeVector 0 1) (planeVector 1 0) = 0 := by
  refine ⟨?_, ?_, ?_, ?_⟩ <;>
  · rw [cosineSimilarity_planeVector (by norm_num) (by norm_num)]
    norm_num

section TwoClusters

variable (runnerPhotos strangerPhotos : List Uuid)

private theorem score_runners (v : List ℝ) :
    SeedCluster.score v ⟨runnerFace 1, runnerPhotos.map runnerFace⟩ =
      cosineSimilarity v (planeVector 1 0) := by
  refine score_of_same fun face hface => ?_
  rcases List.mem_cons.mp hface with rfl | hface
  · rfl
  · obtain ⟨photoId, -, rfl⟩ := List.mem_map.mp hface
    rfl

private theorem score_strangers (v : List ℝ) :
    SeedCluster.score v ⟨strangerFace 1, strangerPhotos.map strangerFace⟩ =
      cosineSimilarity v (planeVector 0 1) := by
  refine score_of_same fun face hface => ?_
  rcases List.mem_cons.mp hface with rfl | hface
  · rfl
  · obtain ⟨photoId, -, rfl⟩ := List.mem_map.mp hface
    rfl

private theorem threshold_le_one :
    (SeedSettings.environment ℝ).faceReinforcementSimilarityThreshold ≤ 1 := by
  change ((48 / 100 : ℚ) : ℝ) ≤ 1
  norm_num

private theorem clusterSeedFace_runner (photoId : Uuid) :
    clusterSeedFace (SeedSettings.environment ℝ).toSettings
        (twoClusters runnerPhotos strangerPhotos) (runnerFace photoId) =
      twoClusters (runnerPhotos ++ [photoId]) strangerPhotos := by
  obtain ⟨hrr, -, hrs, -⟩ := cosineSimilarity_axes
  have hbest : bestSeedCluster (planeVector 1 0) (twoClusters runnerPhotos strangerPhotos) =
      (some 0, 1) := by
    simp only [bestSeedCluster, twoClusters, List.zipIdx_cons, List.zipIdx_nil, List.foldl_cons,
      List.foldl_nil, score_runners, score_strangers, hrr, hrs]
    norm_num
  rw [clusterSeedFace, normalize_runnerFace, hbest]
  simp only [if_pos threshold_le_one]
  simp [twoClusters, SeedCluster.append, planeVector]

private theorem clusterSeedFace_stranger (photoId : Uuid) :
    clusterSeedFace (SeedSettings.environment ℝ).toSettings
        (twoClusters runnerPhotos strangerPhotos) (strangerFace photoId) =
      twoClusters runnerPhotos (strangerPhotos ++ [photoId]) := by
  obtain ⟨-, hss, -, hsr⟩ := cosineSimilarity_axes
  have hbest : bestSeedCluster (planeVector 0 1) (twoClusters runnerPhotos strangerPhotos) =
      (some 1, 1) := by
    simp only [bestSeedCluster, twoClusters, List.zipIdx_cons, List.zipIdx_nil, List.foldl_cons,
      List.foldl_nil, score_runners, score_strangers, hss, hsr]
    norm_num
  rw [clusterSeedFace, normalize_strangerFace, hbest]
  simp only [if_pos threshold_le_one]
  simp [twoClusters, SeedCluster.append, planeVector]

end TwoClusters

private theorem clusters_threePhotos :
    clusterSeedFaces (SeedSettings.environment ℝ).toSettings
        [runnerFace 1, strangerFace 1, runnerFace 2, strangerFace 2, runnerFace 3] =
      twoClusters [2, 3] [2] := by
  obtain ⟨-, -, -, hsr⟩ := cosineSimilarity_axes
  have hrunner : clusterSeedFace (SeedSettings.environment ℝ).toSettings [] (runnerFace 1) =
      [⟨runnerFace 1, []⟩] := by
    rw [clusterSeedFace, normalize_runnerFace]
    rfl
  have hstranger : clusterSeedFace (SeedSettings.environment ℝ).toSettings [⟨runnerFace 1, []⟩]
      (strangerFace 1) = twoClusters [] [] := by
    have hbest : bestSeedCluster (planeVector 0 1) [⟨runnerFace 1, []⟩] = (none, 0) := by
      have hscore := score_runners [] (planeVector 0 1)
      rw [List.map_nil] at hscore
      simp only [bestSeedCluster, List.zipIdx_cons, List.zipIdx_nil, List.foldl_cons,
        List.foldl_nil, hscore, hsr, lt_self_iff_false, ite_false]
    rw [clusterSeedFace, normalize_strangerFace, hbest]
    rfl
  rw [clusterSeedFaces, List.foldl_cons, hrunner, List.foldl_cons, hstranger, List.foldl_cons,
    clusterSeedFace_runner, List.foldl_cons, clusterSeedFace_stranger, List.foldl_cons,
    clusterSeedFace_runner]
  rfl

/-- The mean of faces with one embedding of norm one is this embedding. -/
private theorem averageFaceEmbeddings_of_same {x y : ℝ} (h : x * x + y * y = 1)
    {faces : List (PhotoFaceDetection ℝ)} (hne : faces ≠ [])
    (hsame : ∀ face ∈ faces, face.embeddingJson = planeVector x y) :
    averageFaceEmbeddings faces = planeVector x y := by
  have hmap : (faces.map fun face => normalizeEmbeddingPayload face.embeddingJson) =
      List.replicate faces.length (planeVector x y) := by
    refine List.eq_replicate_iff.mpr ⟨List.length_map _, fun v hv => ?_⟩
    obtain ⟨face, hface, rfl⟩ := List.mem_map.mp hv
    rw [hsame face hface, normalize_planeVector h]
  have husable : usableEmbeddings faces = List.replicate faces.length (planeVector x y) := by
    rw [usableEmbeddings, hmap]
    refine List.filter_eq_self.mpr fun v hv => ?_
    rw [List.eq_of_mem_replicate hv]
    rfl
  have hlength : (0 : ℝ) < faces.length := Nat.cast_pos.mpr (List.length_pos_of_ne_nil hne)
  have hmean : meanEmbedding embeddingDimensions (usableEmbeddings faces) = planeVector x y := by
    have hcount : (Scalar.ofRat (faces.length : ℚ) : ℝ) = faces.length := Rat.cast_natCast _
    rw [meanEmbedding, husable, List.length_replicate]
    refine List.ext_getElem ?_ fun i hi hi' => ?_
    · rw [List.length_map, List.length_range, length_planeVector]
    · rw [List.getElem_map, List.getElem_range, List.map_replicate, Scalar.sum_eq_sum,
        List.sum_replicate, nsmul_eq_mul, hcount, mul_div_cancel_left₀ _ hlength.ne',
        List.getD_eq_getElem?_getD,
        List.getElem?_eq_getElem hi', Option.getD_some]
  have hnonempty : usableEmbeddings faces ≠ [] := by
    rw [husable]
    exact mt (List.replicate_eq_nil_iff _).mp (mt List.length_eq_zero_iff.mp hne)
  have hpos : ¬(1 : ℝ) ≤ 0 := not_le.mpr one_pos
  rw [averageFaceEmbeddings_eq, if_neg hnonempty, hmean, divideByNorm, euclideanNorm_planeVector h,
    if_neg hpos]
  simp only [div_one, List.map_id']

private theorem dedupe_runnerVector :
    dedupeSeedEmbeddings [planeVector 1 0, planeVector 1 0, planeVector 1 0] =
      [planeVector 1 0] := by
  obtain ⟨hrr, -, -, -⟩ := cosineSimilarity_axes
  have hnormalize : normalizeEmbeddingPayload (planeVector 1 0) = planeVector 1 0 :=
    normalize_planeVector (by norm_num)
  have hclose : (Scalar.ofRat (995 / 1000) : ℝ) ≤ 1 := by
    change ((995 / 1000 : ℚ) : ℝ) ≤ 1
    norm_num
  have hfirst : dedupeSeedEmbedding [] (planeVector 1 0) = [planeVector 1 0] := by
    rw [dedupeSeedEmbedding, hnormalize]
    rfl
  have hagain : dedupeSeedEmbedding [planeVector 1 0] (planeVector 1 0) = [planeVector 1 0] := by
    rw [dedupeSeedEmbedding, hnormalize, List.any_cons, hrr, decide_eq_true hclose]
    rfl
  rw [dedupeSeedEmbeddings, List.foldl_cons, hfirst, List.foldl_cons, hagain, List.foldl_cons,
    hagain, List.foldl_nil]

private theorem consensus_threePhotos :
    selectConsensusSeedEmbeddings (fun _ => none) (SeedSettings.environment ℝ)
        [runnerFace 1, strangerFace 1, runnerFace 2, strangerFace 2, runnerFace 3] 3 =
      .ok [planeVector 1 0] := by
  have hboxes : ∀ face ∈ [runnerFace 1, runnerFace 2, runnerFace 3],
      face.boundingBoxJson = none := by
    simp [runnerFace, onlyFace]
  obtain ⟨runners, strangers, heligible, hrunners, hstrangers, hfaces⟩ :
      ∃ runners strangers : RankedCluster ℝ,
        eligibleClusters (fun _ => none) (SeedSettings.environment ℝ) (twoClusters [2, 3] [2]) =
          .ok [runners, strangers] ∧ runners.photoCount = 3 ∧ strangers.photoCount = 2 ∧
        runners.cluster.faces = [runnerFace 1, runnerFace 2, runnerFace 3] :=
    ⟨_, _, rfl, rfl, rfl, rfl⟩
  have hrequired : requiredSupport (SeedSettings.environment ℝ) 3 = 2 := by
    have hceil : (⌈((3 : ℕ) : ℝ) * ((60 / 100 : ℚ) : ℝ)⌉ : ℤ) = 2 := by
      rw [Int.ceil_eq_iff]
      norm_num
    rw [requiredSupport_eq]
    exact (congrArg (max 2) hceil).trans (max_self 2)
  have hlead : hasClearLead (SeedSettings.environment ℝ) 3 2 = true := by
    have hceil : (⌈(((2 : ℕ) : ℚ) : ℝ) * ((150 / 100 : ℚ) : ℝ)⌉ : ℤ) ≤ ((3 : ℕ) : ℤ) := by
      rw [Int.ceil_le]
      norm_num
    rw [hasClearLead, Bool.or_eq_true]
    exact Or.inr (decide_eq_true hceil)
  have hsorted : [runners, strangers].insertionSort RankedCluster.Before =
      [runners, strangers] := by
    refine List.Pairwise.insertionSort_eq (List.pairwise_pair.mpr (Or.inl ?_))
    rw [hrunners, hstrangers]
    decide
  have haverage : averageFaceEmbeddings [runnerFace 1, runnerFace 2, runnerFace 3] =
      planeVector 1 0 :=
    averageFaceEmbeddings_of_same (by norm_num) (List.cons_ne_nil _ _) (by simp [runnerFace])
  rw [selectConsensusSeedEmbeddings, clusters_threePhotos, heligible, Core.ok_bind, hsorted]
  simp only [hrequired, List.head?_cons, Option.any_some, hrunners, hstrangers, hlead,
    hfaces, sortedByQuality_of_noBox (fun _ => none) hboxes, Core.ok_bind, haverage,
    Bool.not_true, Bool.false_eq_true, ite_false]
  exact congrArg Except.ok (congrArg (List.take 3) dedupe_runnerVector)

/-- On three photos with the bib a runner is seen three times and a stranger twice: the runner is on
the required number of photos and clearly ahead, and her embedding is the seed. -/
theorem threePhotos_seeds :
    selectBibOnlySeedEmbeddings (fun _ => none) (SeedSettings.environment ℝ) threePhotos
        runner.bibNumber = .ok [planeVector 1 0] ∧
      ∃ cluster, ClearConsensus (fun _ => none) (SeedSettings.environment ℝ)
        [runnerFace 1, strangerFace 1, runnerFace 2, strangerFace 2, runnerFace 3] 3 cluster
        [planeVector 1 0] ∧ 2 ≤ cluster.photoCount := by
  have hselect : selectBibOnlySeedEmbeddings (fun _ => none) (SeedSettings.environment ℝ)
      threePhotos runner.bibNumber = .ok [planeVector 1 0] := by
    rw [selectBibOnlySeedEmbeddings, scan_threePhotos, Core.ok_bind, consensus_threePhotos,
      Core.ok_bind]
    rfl
  have hratio : 1 < (SeedSettings.environment ℝ).bibOnlySeedClusterLeadRatio := by
    change (1 : ℝ) < ((150 / 100 : ℚ) : ℝ)
    norm_num
  have hscanned := scanned_of_scanCandidatePhotos scan_threePhotos
  have hroom : ((SeedSettings.environment ℝ).bibOnlySeedPhotoLimit - ((0 : Nat) : Int)).toNat =
      (SeedSettings.environment ℝ).bibOnlySeedPhotoLimit.toNat := by omega
  rw [hroom] at hscanned
  have hsupport : (supportPhotos (SeedSettings.environment ℝ).bibOnlySeedPhotoLimit.toNat
      runner.bibNumber threePhotos).length = 3 := by
    have husable := hscanned.usable
    dsimp only at husable
    omega
  obtain ⟨-, scan, hscan, ⟨cluster, hclear, -, htwo⟩ | ⟨photo, face, hexact, -, -⟩⟩ :=
    seeds_of_clear_consensus loads_threePhotos hratio hselect (List.cons_ne_nil _ _)
  · obtain rfl := Except.ok.inj (scan_threePhotos.symm.trans hscan)
    rw [hsupport] at hclear
    exact ⟨hselect, cluster, hclear, htwo (le_refl 2)⟩
  · have hcount := hscanned.exactBib
    rw [hexact] at hcount
    cases hcount

end RaceFrame
