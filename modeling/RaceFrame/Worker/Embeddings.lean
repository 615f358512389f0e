import RaceFrame.Core.Raises
import RaceFrame.Search.SeedConsensus
import RaceFrame.Worker.OcrAcceptance

/-!
# Embeddings that the backend accepts

`_validate_embedding` admits any finite vector of 512 numbers that is not zero;
the completions work with `normalize_embedding_payload`, which also bounds the
numbers and the norm. An embedding between the two is accepted and cannot be
completed.
-/

namespace RaceFrame

open Core

/-! ## What the completions raise -/

/-- Every exception but `ValueError`. -/
def Raised.NotValueError (e : Raised) : Prop := ∀ message, e ≠ .valueError message

section

variable {F : Type} [Scalar F]

omit [Scalar F] in
private theorem raisesOnly_ofOption {α : Type} {P : Raised → Prop} {e : Raised} (h : P e)
    (o : Option α) : (Request.ofOption e o : Request F α).RaisesOnly P := by
  cases o with
  | none => exact Program.raisesOnly_raise h
  | some a => exact Program.raisesOnly_pure a

omit [Scalar F] in
private theorem raisesOnly_utcNow {P : Raised → Prop} :
    (Request.utcNow : Request F Instant).RaisesOnly P :=
  (Program.raisesOnly_gets _).bind fun _ => (Program.raisesOnly_modify _).bind fun _ =>
    Program.raisesOnly_pure _

private theorem considerDetection_raises {cfg : Settings F} {embedding : List F}
    {heap : List (SearchCandidate F)} {detection : PhotoFaceDetection F} {e : Raised}
    (h : considerDetection cfg embedding heap detection = .error e) : e.NotValueError := by
  simp only [considerDetection] at h
  split at h
  · cases h
  · split at h
    · cases h
    · split at h
      · cases h
        rintro message ⟨⟩
      · cases h

private theorem foldlM_considerDetection_raises {cfg : Settings F} {embedding : List F}
    {detections : List (PhotoFaceDetection F)} {heap : List (SearchCandidate F)} {e : Raised}
    (h : detections.foldlM (considerDetection cfg embedding) heap = .error e) :
    e.NotValueError := by
  induction detections generalizing heap with
  | nil => cases h
  | cons detection detections ih =>
    rw [List.foldlM_cons] at h
    cases hstep : considerDetection cfg embedding heap detection with
    | error e' =>
      rw [hstep] at h
      cases h
      exact considerDetection_raises hstep
    | ok heap' =>
      rw [hstep] at h
      exact ih h

/-- A probe raises no `ValueError`. -/
theorem createFaceSearchResults_raises (cfg : Settings F) (eventId searchSessionId : Uuid)
    (embedding : List F) :
    (createFaceSearchResults cfg eventId searchSessionId embedding).RaisesOnly
      Raised.NotValueError := by
  refine (Program.raisesOnly_gets _).bind fun detections => ?_
  refine Program.RaisesOnly.ite (Program.raisesOnly_raise (by rintro message ⟨⟩)) ?_
  refine Program.RaisesOnly.bind ?_ fun candidates => ?_
  · cases hfold : detections.foldlM (considerDetection cfg embedding) [] with
    | error e => exact Program.raisesOnly_raise (foldlM_considerDetection_raises hfold)
    | ok candidates => exact Program.raisesOnly_pure candidates
  · exact (Program.RaisesOnly.forM fun _ => Program.raisesOnly_modify _).bind fun _ =>
      Program.raisesOnly_pure _

private theorem reinforceWith_raises (cfg : Settings F) (searchSession : FaceSearchSession)
    (participant : Participant) (requireExactBib : Bool) (progress : Reinforcement)
    (result : FaceSearchResult F) :
    (reinforceWith cfg searchSession participant requireExactBib progress result).RaisesOnly
      Raised.NotValueError := by
  unfold reinforceWith
  refine Program.RaisesOnly.ite (Program.raisesOnly_pure _) ?_
  refine Program.RaisesOnly.ite (Program.raisesOnly_pure _) ?_
  refine (Program.raisesOnly_gets _).bind fun photo => ?_
  refine (Program.raisesOnly_gets _).bind fun detection => ?_
  cases photo with
  | none => exact Program.raisesOnly_pure _
  | some photo =>
    cases detection with
    | none => exact Program.raisesOnly_pure _
    | some detection =>
      refine (Program.raisesOnly_gets _).bind fun detections => ?_
      refine Program.RaisesOnly.ite (Program.raisesOnly_pure _) ?_
      refine Program.RaisesOnly.ite (Program.raisesOnly_pure _) ?_
      exact (createFaceSearchResults_raises _ _ _ _).discard.bind fun _ =>
        Program.raisesOnly_pure _

/-- Reinforcement raises no `ValueError`. -/
theorem applyAdaptiveReinforcement_raises (cfg : Settings F) (searchSession : FaceSearchSession)
    (requireExactBib : Bool) :
    (applyAdaptiveReinforcement cfg searchSession requireExactBib).RaisesOnly
      Raised.NotValueError := by
  unfold applyAdaptiveReinforcement
  cases searchSession.participantId with
  | none => exact Program.raisesOnly_pure _
  | some participantId =>
    refine (Program.raisesOnly_gets _).bind fun participant => ?_
    cases participant with
    | none => exact Program.raisesOnly_pure _
    | some participant =>
      refine (Program.raisesOnly_gets _).bind fun first => ?_
      refine (Program.RaisesOnly.foldlM (fun _ _ => reinforceWith_raises _ _ _ _ _ _) _).bind
        fun progress => ?_
      refine Program.RaisesOnly.ite (Program.raisesOnly_pure _) ?_
      refine (Program.raisesOnly_gets _).bind fun second => ?_
      exact (Program.RaisesOnly.foldlM (fun _ _ => reinforceWith_raises _ _ _ _ _ _) _).bind
        fun _ => Program.raisesOnly_pure _

omit [Scalar F] in
private theorem markFaceSearchSessionDoneIfJobsDone_raises {P : Raised → Prop}
    (searchSessionId : Uuid) :
    (markFaceSearchSessionDoneIfJobsDone searchSessionId : Request F Unit).RaisesOnly P := by
  refine (Program.raisesOnly_gets _).bind fun statuses => ?_
  refine Program.RaisesOnly.ite ?_ ?_
  · exact raisesOnly_utcNow.bind fun _ => Program.raisesOnly_modify _
  · exact Program.RaisesOnly.ite (Program.raisesOnly_modify _) (Program.raisesOnly_pure _)

/-- A search completion with a usable embedding raises no `ValueError`. -/
theorem completeFaceSearchJob_raises (cfg : Settings F) (job : Job F)
    (eventId searchSessionId searchImageId : Uuid) {result : EmbeddingResult F}
    (h : normalizeEmbeddingPayload result.embedding ≠ []) :
    (completeFaceSearchJob cfg job eventId searchSessionId searchImageId result).RaisesOnly
      Raised.NotValueError := by
  have hattribute : Raised.attributeError.NotValueError := by rintro message ⟨⟩
  rw [completeFaceSearchJob, if_neg (by rwa [List.isEmpty_iff])]
  refine (createFaceSearchResults_raises _ _ _ _).bind fun matchedCount => ?_
  refine (Program.raisesOnly_gets _).bind fun image => ?_
  refine (raisesOnly_ofOption hattribute _).discard.bind fun _ => ?_
  refine (Program.raisesOnly_modify _).bind fun _ => ?_
  refine raisesOnly_utcNow.bind fun finishedAt => ?_
  refine (Program.raisesOnly_modify _).bind fun _ => ?_
  refine (Program.raisesOnly_gets _).bind fun session => ?_
  refine (raisesOnly_ofOption hattribute _).bind fun searchSession => ?_
  have hend : (do
      markFaceSearchSessionDoneIfJobsDone searchSession.id
      Request.commit : Request F Unit).RaisesOnly Raised.NotValueError :=
    (markFaceSearchSessionDoneIfJobsDone_raises _).bind fun _ => Program.raisesOnly_modify _
  exact Program.RaisesOnly.ite
    ((applyAdaptiveReinforcement_raises _ _ _).discard.bind fun _ => hend) hend

/-- An enrolment with a usable embedding raises no `ValueError`. -/
theorem completeParticipantFaceJob_raises (cfg : Settings F) (job : Job F)
    (eventId participantId faceImageId : Uuid) {result : EmbeddingResult F}
    (h : normalizeEmbeddingPayload result.embedding ≠ []) :
    (completeParticipantFaceJob cfg job eventId participantId faceImageId result).RaisesOnly
      Raised.NotValueError := by
  rw [completeParticipantFaceJob, if_neg (by rwa [List.isEmpty_iff])]
  refine (Program.raisesOnly_gets _).bind fun image => ?_
  refine (raisesOnly_ofOption (by rintro message ⟨⟩) _).discard.bind fun _ => ?_
  refine (Program.raisesOnly_modify _).bind fun _ => ?_
  refine raisesOnly_utcNow.bind fun finishedAt => ?_
  refine (Program.raisesOnly_modify _).bind fun _ => ?_
  refine (Program.raisesOnly_gets _).bind fun inserted => ?_
  refine (raisesOnly_ofOption (by rintro message ⟨⟩) _).bind fun rows => ?_
  refine (Program.raisesOnly_modify _).bind fun _ => ?_
  refine (Program.raisesOnly_modify _).bind fun _ => ?_
  refine Program.RaisesOnly.bind ?_ fun _ => Program.raisesOnly_modify _
  refine Program.RaisesOnly.discard ?_
  refine (Program.raisesOnly_gets _).bind fun detections => ?_
  refine (Program.raisesOnly_gets _).bind fun embeddings => ?_
  refine Program.RaisesOnly.foldlM (fun _ detection => ?_) _
  refine Program.RaisesOnly.bind ?_ fun _ => Program.raisesOnly_pure _
  refine (Program.RaisesOnly.forM fun entry => ?_).bind fun _ => Program.raisesOnly_pure _
  exact (Program.raisesOnly_modify _).bind fun _ => Program.raisesOnly_modify _

/-! ## What the completions do with an embedding -/

/-- Every completion can work with an embedding: it has a normalisation, the two completions of a
single face raise no `ValueError` for it, and a face scan that returns has stored it. -/
structure Completable (cfg : Settings F) (embedding : List F) : Prop where
  usable : normalizeEmbeddingPayload embedding ≠ []
  participantFace : ∀ (job : Job F) (eventId participantId faceImageId : Uuid)
    (result : EmbeddingResult F), result.embedding = embedding →
    (completeParticipantFaceJob cfg job eventId participantId faceImageId result).RaisesOnly
      Raised.NotValueError
  faceSearch : ∀ (job : Job F) (eventId searchSessionId searchImageId : Uuid)
    (result : EmbeddingResult F), result.embedding = embedding →
    (completeFaceSearchJob cfg job eventId searchSessionId searchImageId result).RaisesOnly
      Raised.NotValueError
  photoFace : ∀ (job : Job F) (photoId : Uuid) (faces : List (FaceDetectionPayload F))
    (rawResponseJson : Option (JsonDict F)) (s : Session F),
    ((completePhotoFaceJob job photoId faces rawResponseJson).run s).1 = .ok () →
    ∀ face ∈ faces, face.embedding = embedding →
    ∃ row ∈ ((completePhotoFaceJob job photoId faces rawResponseJson).run
        s).2.committed.photoFaceDetections.rows,
      row.photoJobId = job.id ∧ row.faceIndex = face.faceIndex ∧
        row.embeddingJson = normalizeEmbeddingPayload embedding

omit [Scalar F] in
private theorem photoFaceDetections_finishPhotoJob (db : Database F) (photo : Photo) (job : Job F)
    (rawResponseJson : JsonDict F) (finishedAt : Instant) :
    (db.finishPhotoJob photo job rawResponseJson finishedAt).photoFaceDetections =
      db.photoFaceDetections := by
  simp only [Database.finishPhotoJob, Database.markPhoto]
  split <;> rfl

/-- A face scan that returns has stored every usable face. -/
theorem completePhotoFaceJob_stores {job : Job F} {photoId : Uuid}
    {faces : List (FaceDetectionPayload F)} {rawResponseJson : Option (JsonDict F)}
    {s : Session F}
    (hok : ((completePhotoFaceJob job photoId faces rawResponseJson).run s).1 = .ok ())
    {face : FaceDetectionPayload F} (hmem : face ∈ faces)
    (husable : normalizeEmbeddingPayload face.embedding ≠ []) :
    ∃ row ∈ ((completePhotoFaceJob job photoId faces rawResponseJson).run
        s).2.committed.photoFaceDetections.rows,
      row.photoJobId = job.id ∧ row.faceIndex = face.faceIndex ∧
        row.embeddingJson = normalizeEmbeddingPayload face.embedding := by
  rcases run_completePhotoFaceJob s photoId job faces rawResponseJson with
    ⟨⟨e, he⟩, -⟩ | ⟨photo, rows, -, hrows, -, hcommitted⟩
  · rw [hok] at he
    cases he
  · have hface : face ∈ usableFaces faces := by
      rw [usableFaces, List.mem_filter, Bool.not_eq_true', List.isEmpty_eq_false_iff]
      exact ⟨hmem, husable⟩
    obtain ⟨id, hid⟩ := @exists_mem_storedFaceDetections F _ photo job
      ((List.range (usableFaces faces).length).map s.world.uuids) faces
      (by rw [List.length_map, List.length_range]) face hface
    refine ⟨storedFaceDetection photo job id face, ?_, rfl, rfl, rfl⟩
    rw [hcommitted, photoFaceDetections_finishPhotoJob,
      Database.setPhotoFaceDetections_photoFaceDetections, Table.rows_of_insertAll? hrows]
    exact List.mem_append_right _ hid

/-- The completions can work with an embedding when it has a normalisation. -/
theorem completable_iff_usable (cfg : Settings F) (embedding : List F) :
    Completable cfg embedding ↔ normalizeEmbeddingPayload embedding ≠ [] := by
  refine ⟨Completable.usable, fun husable => ⟨husable, ?_, ?_, ?_⟩⟩
  · rintro job eventId participantId faceImageId result rfl
    exact completeParticipantFaceJob_raises cfg job eventId participantId faceImageId husable
  · rintro job eventId searchSessionId searchImageId result rfl
    exact completeFaceSearchJob_raises cfg job eventId searchSessionId searchImageId husable
  · rintro job photoId faces rawResponseJson s hok face hmem rfl
    exact completePhotoFaceJob_stores hok hmem husable

end

/-! ## Which accepted embeddings are usable -/

/-- An embedding that the request validators accept can be completed when its numbers are between
−100 and 100 and its norm is above 10⁻¹². -/
theorem completable_iff_bounded (cfg : Settings ℝ) {embedding : List ℝ}
    (h : validateEmbedding embedding = .ok ()) :
    Completable cfg embedding ↔
      (∀ x ∈ embedding, |x| ≤ 100) ∧ 1 / 10 ^ 24 < (embedding.map fun x => x * x).sum := by
  have hlength : embedding.length = embeddingDimensions := by
    by_contra hne
    rw [validateEmbedding, if_pos hne] at h
    cases h
  rw [completable_iff_usable, normalizeEmbeddingPayload_ne_nil_iff]
  exact and_iff_right hlength

/-- A vector along the first axis. -/
def alongFirst (c : ℝ) : List ℝ := c :: List.replicate (embeddingDimensions - 1) 0

private theorem length_alongFirst (c : ℝ) : (alongFirst c).length = embeddingDimensions := by
  rw [alongFirst, List.length_cons, List.length_replicate]
  rfl

private theorem sum_alongFirst (c : ℝ) : ((alongFirst c).map fun x => x * x).sum = c * c := by
  rw [alongFirst, List.map_cons, List.map_replicate, List.sum_cons, List.sum_replicate, mul_zero,
    smul_zero, add_zero]

private theorem validateEmbedding_alongFirst {c : ℝ} (h : c ≠ 0) :
    validateEmbedding (alongFirst c) = .ok () := by
  have hfinite : (alongFirst c).all Scalar.isFinite = true :=
    List.all_eq_true.mpr fun _ _ => rfl
  rw [validateEmbedding, if_neg (not_not_intro (length_alongFirst c)), hfinite, Bool.not_true,
    if_neg Bool.false_ne_true, Scalar.sum_eq_sum, sum_alongFirst,
    if_neg (not_le.mpr (mul_self_pos.mpr h))]

/-- The unit embedding along the first axis is not refused. -/
theorem firstAxis_completable : Completable (Settings.environment ℝ) (alongFirst 1) := by
  refine (completable_iff_bounded _ (validateEmbedding_alongFirst one_ne_zero)).mpr
    ⟨fun x hx => ?_, ?_⟩
  · rcases List.mem_cons.mp hx with rfl | hx
    · norm_num
    · rw [List.eq_of_mem_replicate hx]
      norm_num
  · rw [sum_alongFirst]
    norm_num

theorem longEmbedding_accepted_not_completable :
    validateEmbedding (alongFirst 200) = .ok () ∧
      normalizeEmbeddingPayload (alongFirst 200) = [] ∧
      (∀ (cfg : Settings ℝ) (job : Job ℝ) (eventId participantId faceImageId : Uuid)
        (result : EmbeddingResult ℝ) (s : Session ℝ), result.embedding = alongFirst 200 →
        (completeParticipantFaceJob cfg job eventId participantId faceImageId result).run s =
          (.error (.valueError "Face enrollment result did not include an embedding."), s)) ∧
      (∀ (cfg : Settings ℝ) (job : Job ℝ) (eventId searchSessionId searchImageId : Uuid)
        (result : EmbeddingResult ℝ) (s : Session ℝ), result.embedding = alongFirst 200 →
        (completeFaceSearchJob cfg job eventId searchSessionId searchImageId result).run s =
          (.error (.valueError "Face search result did not include an embedding."), s)) ∧
      ∀ face : FaceDetectionPayload ℝ, face.embedding = alongFirst 200 →
        usableFaces [face] = [] := by
  have hempty : normalizeEmbeddingPayload (alongFirst 200) = [] := by
    by_contra hne
    have hbound := ((normalizeEmbeddingPayload_ne_nil_iff _).mp hne).2.1 200 List.mem_cons_self
    norm_num at hbound
  refine ⟨validateEmbedding_alongFirst (by norm_num), hempty, ?_, ?_, ?_⟩
  · intro cfg job eventId participantId faceImageId result s hresult
    rw [completeParticipantFaceJob, if_pos (by rw [hresult, hempty]; rfl), Program.run_raise]
  · intro cfg job eventId searchSessionId searchImageId result s hresult
    rw [completeFaceSearchJob, if_pos (by rw [hresult, hempty]; rfl), Program.run_raise]
  · intro face hface
    simp only [usableFaces, List.filter_cons, hface, hempty, List.isEmpty_nil, Bool.not_true,
      Bool.false_eq_true, ite_false, List.filter_nil]

end RaceFrame
