import RaceFrame.Schema.Real
import RaceFrame.Worker.Embeddings
import RaceFrame.Worker.ImageSizes
import RaceFrame.Worker.Reporting

/-!
# Faces that the backend stores

`FaceProcessor` of the worker, and what becomes of its results: whatever the
detector finds, the request with the faces passes the validators of the backend
exactly when the scores are between 0 and 1, and every face in it can be
completed with the embedding that the worker has sent, up to its rounding.
-/

namespace RaceFrame

open Core

variable {F ι : Type}

/-! ## The detector -/

/-- Scalars with `int`. -/
class IntScalar (F : Type) extends Scalar F where
  /-- `int(x)`, which raises when `x` is not finite. -/
  int : F → Except JobError ℤ

noncomputable instance : IntScalar ℝ where
  int x := .ok (if 0 ≤ x then ⌊x⌋ else ⌈x⌉)

instance : IntScalar ℚ where
  int x := .ok (truncate x)

/-- A face that InsightFace has found. -/
structure DetectedFace (F : Type) where
  normedEmbedding : Option (List F)
  embedding : Option (List F)
  /-- The left, top, right and bottom edges. -/
  bbox : Option (F × F × F × F)
  detScore : Option F

/-- Pillow, OpenCV and InsightFace, with images of type `ι`. -/
structure FaceTools (F ι : Type) where
  openImage : Bytes → Except PillowError OpenedImage
  imdecode : Bytes → Option ι
  /-- The width and the height. -/
  size : ι → ℤ × ℤ
  resize : ι → ℤ × ℤ → Except JobError ι
  /-- `self.app.get`. -/
  detect : ι → Except JobError (List (DetectedFace F))

section Processor

variable [IntScalar F]

/-- `normalize_embedding`. -/
def normalizeEmbedding (value : Option (List F)) : Option (List F) :=
  value.bind fun array =>
    let norm := euclideanNorm array
    if norm ≤ 0 then none else some (array.map (· / norm))

/-- The `bounding_box_json` of a face. -/
def faceBox (bbox : F × F × F × F) : Except JobError (JsonDict F) := do
  let (left, top, right, bottom) := bbox
  let leftEdge ← IntScalar.int left
  let topEdge ← IntScalar.int top
  let rightEdge ← IntScalar.int right
  let bottomEdge ← IntScalar.int bottom
  let width ← IntScalar.int (max 0 (right + -left))
  let height ← IntScalar.int (max 0 (bottom + -top))
  return [("left", .int leftEdge), ("top", .int topEdge), ("right", .int rightEdge),
    ("bottom", .int bottomEdge), ("width", .int width), ("height", .int height)]

/-- The embedding of a face, if it is usable. -/
def DetectedFace.usableEmbedding (face : DetectedFace F) : Option (List F) :=
  (face.normedEmbedding.or (normalizeEmbedding face.embedding)).filter fun embedding =>
    embedding.length == 512 && embedding.all Scalar.isFinite

/-- One turn of the loop of `_scan_with_detection_count`. -/
def DetectedFace.result (face : DetectedFace F) (index : Nat) :
    Except JobError (Option (FaceResult F)) :=
  match face.usableEmbedding with
  | none => .ok none
  | some embedding => do
    let box ← faceBox (face.bbox.getD (0, 0, 0, 0))
    let score := face.detScore.filter Scalar.isFinite
    return some ⟨index, embedding, box, score, score⟩

/-- The loop of `_scan_with_detection_count`, over the faces with their indexes. -/
def collectFaces : List (DetectedFace F × Nat) → Except JobError (List (FaceResult F))
  | [] => .ok []
  | (face, index) :: rest => do
    let result ← face.result index
    let results ← collectFaces rest
    return result.toList ++ results

/-- `MAX_FACE_DETECTIONS` of the worker. -/
def workerMaxFaceDetections : Nat := 256

variable (limits : WorkerImageLimits) (maxEdge : ℤ) (tools : FaceTools F ι)

/-- `resize_image`. -/
def FaceTools.resizeImage (image : ι) : Except JobError ι :=
  let (width, height) := tools.size image
  if max height width ≤ maxEdge then .ok image
  else tools.resize image (RaceFrame.resizeImage maxEdge width height)

/-- `_scan_with_detection_count`. -/
def scanWithDetectionCount (imageBytes : Bytes) : Except JobError (List (FaceResult F) × Nat) := do
  discard ((validateImageHeader limits (tools.openImage imageBytes)).mapError fun message =>
    .worker (.permanentJob (String.ofList message)))
  match tools.imdecode imageBytes with
  | none =>
    throw (.worker (.permanentJob "Could not decode the source image for face recognition."))
  | some image =>
    let resized ← tools.resizeImage maxEdge image
    let faces ← tools.detect resized
    let results ← collectFaces (faces.take workerMaxFaceDetections).zipIdx
    return (results, faces.length)

/-- `scan`. -/
def scanFaces (imageBytes : Bytes) : Except JobError (List (FaceResult F)) :=
  Prod.fst <$> scanWithDetectionCount limits maxEdge tools imageBytes

/-- The settings of a search selfie. -/
structure SearchFaceSettings (F : Type) where
  /-- `SEARCH_FACE_MIN_EDGE`. -/
  minEdge : ℤ
  /-- `SEARCH_FACE_MIN_DETECTION_SCORE`. -/
  minDetectionScore : F

/-- `int(face.bounding_box_json.get(key, 0) or 0)`. -/
def FaceResult.boxEdge (face : FaceResult F) (key : String) : ℤ :=
  (Json.dict face.boundingBoxJson).intMember key

/-- `enroll_single_search_face`. -/
def enrollSingleSearchFace (settings : SearchFaceSettings F) (imageBytes : Bytes) :
    Except JobError (FaceResult F) := do
  let (faces, detectedFaceCount) ← scanWithDetectionCount limits maxEdge tools imageBytes
  let reject {α : Type} (message : String) : Except JobError α :=
    throw (.worker (.permanentJob message))
  if detectedFaceCount = 0 then
    reject "Exactly one clear face is required; no face was detected."
  if detectedFaceCount ≠ 1 then
    reject "Exactly one face is required; group selfies are not accepted."
  match faces with
  | [face] =>
    if min (face.boxEdge "width") (face.boxEdge "height") < settings.minEdge then
      reject ("The face is too small; use a closer photo with a face at least " ++
        toString settings.minEdge ++ "px wide and tall.")
    if face.detectionScore.getD 0 < settings.minDetectionScore then
      reject "The face is not clear enough; use a well-lit, front-facing selfie."
    return face
  | _ => reject "The detected face did not produce a valid recognition embedding."

/-- Whether the key of a face in `enroll_best_face` is less than that of another one. -/
def FaceResult.ranksBelow (face other : FaceResult F) : Bool :=
  let quality := face.qualityScore.getD 0
  let otherQuality := other.qualityScore.getD 0
  quality < otherQuality || (quality == otherQuality &&
    face.boxEdge "width" * face.boxEdge "height" < other.boxEdge "width" * other.boxEdge "height")

/-- `enroll_best_face`. -/
def enrollBestFace (imageBytes : Bytes) : Except JobError (FaceResult F) := do
  match ← scanFaces limits maxEdge tools imageBytes with
  | [] => throw (.worker (.permanentJob "No face was detected in the selfie."))
  | face :: faces =>
    return faces.foldl (fun best other => if best.ranksBelow other then other else best) face

/-- `face_processor` with its settings. -/
structure FaceProcessor (F ι : Type) where
  tools : FaceTools F ι
  limits : WorkerImageLimits
  /-- `FACE_MAX_IMAGE_EDGE`. -/
  maxImageEdge : ℤ
  settings : SearchFaceSettings F

/-- The work of a worker whose faces come from a processor. -/
def LocalWork.withFaces (work : LocalWork F) (processor : FaceProcessor F ι) : LocalWork F where
  download := work.download
  ensureOwned := work.ensureOwned
  ocrScan := work.ocrScan
  faceScan := scanFaces processor.limits processor.maxImageEdge processor.tools
  enrollBestFace :=
    RaceFrame.enrollBestFace processor.limits processor.maxImageEdge processor.tools
  enrollSingleSearchFace :=
    RaceFrame.enrollSingleSearchFace processor.limits processor.maxImageEdge processor.tools
      processor.settings
  faceModelName := work.faceModelName

private theorem ite_throw_eq_ok_iff {ε α β : Type} {p : Prop} [Decidable p] {e : ε}
    {rest : α → Except ε β} {x : Except ε β} {b : β} :
    (if p then throw e >>= rest else x) = .ok b ↔ ¬p ∧ x = .ok b := by
  by_cases h : p
  · rw [if_pos h]
    exact iff_of_false (fun hthrow => by cases hthrow) fun hboth => hboth.1 h
  · rw [if_neg h, and_iff_right h]

/-! ## What is collected -/

/-- A usable embedding is one of the two, of the right length. -/
theorem DetectedFace.of_usableEmbedding {face : DetectedFace F} {embedding : List F}
    (h : face.usableEmbedding = some embedding) :
    embedding.length = embeddingDimensions ∧ embedding.all Scalar.isFinite = true ∧
      (face.normedEmbedding = some embedding ∨
        normalizeEmbedding face.embedding = some embedding) := by
  rw [usableEmbedding, Option.filter_eq_some_iff, Bool.and_eq_true, beq_iff_eq] at h
  obtain ⟨hsome, hlength, hfinite⟩ := h
  refine ⟨hlength, hfinite, ?_⟩
  rcases Option.or_eq_some_iff.mp hsome with hnormed | ⟨-, hnormalized⟩
  · exact Or.inl hnormed
  · exact Or.inr hnormalized

/-- A result is made of a usable embedding, the box of the face and its score. -/
structure DetectedFace.Gives (face : DetectedFace F) (index : Nat) (result : FaceResult F) :
    Prop where
  faceIndex : result.faceIndex = index
  embedding : face.usableEmbedding = some result.embedding
  box : faceBox (face.bbox.getD (0, 0, 0, 0)) = .ok result.boundingBoxJson
  score : result.detectionScore = face.detScore.filter Scalar.isFinite
  quality : result.qualityScore = result.detectionScore

theorem DetectedFace.gives_of_result {face : DetectedFace F} {index : Nat}
    {result : FaceResult F} (h : face.result index = .ok (some result)) :
    face.Gives index result := by
  unfold DetectedFace.result at h
  cases husable : face.usableEmbedding with
  | none =>
    rw [husable] at h
    cases h
  | some embedding =>
    rw [husable] at h
    obtain ⟨box, hbox, h⟩ := bind_eq_ok_iff.mp h
    cases h
    exact ⟨rfl, husable, hbox, rfl, rfl⟩

/-- The results are those of some of the faces, in their order. -/
theorem collectFaces_spec {entries : List (DetectedFace F × Nat)} {results : List (FaceResult F)}
    (h : collectFaces entries = .ok results) :
    (results.map FaceResult.faceIndex).Sublist (entries.map Prod.snd) ∧
      ∀ result ∈ results, ∃ entry ∈ entries, entry.1.Gives entry.2 result := by
  induction entries generalizing results with
  | nil =>
    cases h
    exact ⟨List.Sublist.slnil, by simp⟩
  | cons entry entries ih =>
    obtain ⟨face, index⟩ := entry
    obtain ⟨result, hresult, h⟩ := bind_eq_ok_iff.mp h
    obtain ⟨later, hlater, h⟩ := bind_eq_ok_iff.mp h
    cases h
    obtain ⟨hsublist, hgives⟩ := ih hlater
    cases result with
    | none =>
      refine ⟨hsublist.cons index, fun other hother => ?_⟩
      obtain ⟨entry, hentry, hgive⟩ := hgives other hother
      exact ⟨entry, List.mem_cons_of_mem _ hentry, hgive⟩
    | some result =>
      have hgive := DetectedFace.gives_of_result hresult
      refine ⟨?_, fun other hother => ?_⟩
      · rw [Option.toList_some, List.singleton_append, List.map_cons, List.map_cons,
          hgive.faceIndex]
        exact hsublist.cons_cons index
      · rcases List.mem_cons.mp hother with rfl | hother
        · exact ⟨_, List.mem_cons_self, hgive⟩
        · obtain ⟨entry, hentry, hgive⟩ := hgives other hother
          exact ⟨entry, List.mem_cons_of_mem _ hentry, hgive⟩

end Processor

/-! ## Embeddings of norm one -/

/-- Norm one, up to what is left of the rounding in `float32`. -/
def NearUnit (embedding : List ℝ) : Prop := |euclideanNorm embedding - 1| ≤ (1 / 1000 : ℚ)

/-- What is documented of InsightFace: normed embeddings have norm one up to rounding, and boxes
are numbers of moderate size. -/
structure FaceTools.Documented (tools : FaceTools ℝ ι) : Prop where
  normed : ∀ image faces, tools.detect image = .ok faces → ∀ face ∈ faces, ∀ embedding,
    face.normedEmbedding = some embedding → NearUnit embedding
  box : ∀ image faces, tools.detect image = .ok faces → ∀ face ∈ faces,
    ∀ left top right bottom, face.bbox = some (left, top, right, bottom) →
      |left| ≤ 10 ^ 100 ∧ |top| ≤ 10 ^ 100 ∧ |right| ≤ 10 ^ 100 ∧ |bottom| ≤ 10 ^ 100

/-- What the backend stores of an embedding: its quotient by its norm, which changes no coordinate
by more than a thousandth. -/
structure StoredNearly (cfg : Settings ℝ) (embedding : List ℝ) : Prop where
  normalized :
    normalizeEmbeddingPayload embedding = embedding.map (· / euclideanNorm embedding)
  near : ∀ x ∈ embedding, |x / euclideanNorm embedding - x| ≤ (1 / 1000 : ℚ)
  completable : Completable cfg embedding

private theorem abs_le_norm {embedding : List ℝ} {x : ℝ} (hx : x ∈ embedding) :
    |x| ≤ euclideanNorm embedding := by
  rw [euclideanNorm_eq]
  refine Real.abs_le_sqrt ?_
  rw [sq]
  exact List.single_le_sum (fun y hy => by
    obtain ⟨z, -, rfl⟩ := List.mem_map.mp hy
    exact mul_self_nonneg z) _ (List.mem_map_of_mem hx)

private theorem NearUnit.bounds {embedding : List ℝ} (h : NearUnit embedding) :
    1 / 2 ≤ euclideanNorm embedding ∧ euclideanNorm embedding ≤ 2 := by
  rw [NearUnit, abs_le] at h
  push_cast at h
  constructor <;> linarith

private theorem NearUnit.le_sum {embedding : List ℝ} (h : NearUnit embedding) :
    1 / 4 ≤ (embedding.map fun x => x * x).sum := by
  have hhalf := h.bounds.1
  rw [euclideanNorm_eq, Real.le_sqrt' (by norm_num)] at hhalf
  calc (1 / 4 : ℝ) = (1 / 2) ^ 2 := by norm_num
    _ ≤ _ := hhalf

/-- A vector of 512 coordinates whose norm is nearly one is accepted and stored. -/
theorem NearUnit.accepted (cfg : Settings ℝ) {embedding : List ℝ} (h : NearUnit embedding)
    (hlength : embedding.length = embeddingDimensions) :
    validateEmbedding embedding = .ok () ∧ StoredNearly cfg embedding := by
  have hfinite : embedding.all Scalar.isFinite = true := List.all_eq_true.mpr fun _ _ => rfl
  obtain ⟨hlow, hhigh⟩ := h.bounds
  have hsum := h.le_sum
  have hvalid : validateEmbedding embedding = .ok () := by
    rw [validateEmbedding, if_neg (not_not_intro hlength), hfinite, Bool.not_true,
      if_neg Bool.false_ne_true, Scalar.sum_eq_sum, if_neg (by linarith)]
  have husable : normalizeEmbeddingPayload embedding ≠ [] := by
    rw [normalizeEmbeddingPayload_ne_nil_iff]
    refine ⟨hlength, fun x hx => ?_, by linarith⟩
    exact (abs_le_norm hx).trans (hhigh.trans (by norm_num))
  refine ⟨hvalid, normalizeEmbeddingPayload_of_ne_nil husable, fun x hx => ?_,
    (completable_iff_usable cfg embedding).mpr husable⟩
  have hpos : 0 < euclideanNorm embedding := by linarith
  have hquotient : x / euclideanNorm embedding - x =
      x / euclideanNorm embedding * -(euclideanNorm embedding - 1) := by
    field_simp
    ring
  have hunit : |x / euclideanNorm embedding| ≤ 1 := by
    rw [abs_div, abs_of_pos hpos]
    exact (div_le_one hpos).mpr (abs_le_norm hx)
  calc |x / euclideanNorm embedding - x|
      = |x / euclideanNorm embedding| * |euclideanNorm embedding - 1| := by
        rw [hquotient, abs_mul, abs_neg]
    _ ≤ 1 * |euclideanNorm embedding - 1| :=
        mul_le_mul_of_nonneg_right hunit (abs_nonneg _)
    _ ≤ _ := by
        rw [one_mul]
        exact h

/-- A usable embedding has norm one, up to rounding. -/
theorem DetectedFace.nearUnit_of_usableEmbedding {face : DetectedFace ℝ}
    (hnormed : ∀ embedding, face.normedEmbedding = some embedding → NearUnit embedding)
    {embedding : List ℝ} (h : face.usableEmbedding = some embedding) : NearUnit embedding := by
  obtain ⟨-, -, hgiven | hmade⟩ := DetectedFace.of_usableEmbedding h
  · exact hnormed embedding hgiven
  · obtain ⟨array, -, hmade⟩ := Option.bind_eq_some_iff.mp hmade
    by_cases hnorm : euclideanNorm array ≤ 0
    · rw [if_pos hnorm] at hmade
      cases hmade
    · rw [if_neg hnorm] at hmade
      cases hmade
      rw [NearUnit, euclideanNorm_map_div (not_le.mp hnorm), sub_self, abs_zero]
      norm_num

/-! ## Boxes of faces -/

private theorem natAbs_int_le {x : ℝ} {bound : Nat} (h : |x| ≤ bound) {n : ℤ}
    (hn : IntScalar.int x = .ok n) : n.natAbs ≤ bound := by
  obtain ⟨hlow, hhigh⟩ := abs_le.mp h
  have hvalue : n = if 0 ≤ x then ⌊x⌋ else ⌈x⌉ := (Except.ok.inj hn).symm
  rw [hvalue]
  split_ifs with hpos
  · have hfloor : ⌊x⌋ ≤ (bound : ℤ) := by
      have hcast : ((⌊x⌋ : ℤ) : ℝ) ≤ ((bound : ℤ) : ℝ) := by
        rw [Int.cast_natCast]
        exact (Int.floor_le x).trans hhigh
      exact Int.cast_le.mp hcast
    have hzero : 0 ≤ ⌊x⌋ := Int.floor_nonneg.mpr hpos
    omega
  · have hceil : -(bound : ℤ) ≤ ⌈x⌉ := by
      have hcast : ((-(bound : ℤ) : ℤ) : ℝ) ≤ ((⌈x⌉ : ℤ) : ℝ) := by
        rw [Int.cast_neg, Int.cast_natCast]
        exact hlow.trans (Int.le_ceil x)
      exact Int.cast_le.mp hcast
    have hzero : ⌈x⌉ ≤ 0 := Int.ceil_le.mpr (by rw [Int.cast_zero]; exact (not_le.mp hpos).le)
    omega

private theorem natAbs_int_lt {x : ℝ} (h : |x| ≤ 2 * 10 ^ 100) {n : ℤ}
    (hn : IntScalar.int x = .ok n) : n.natAbs < 10 ^ 101 := by
  have hbound : |x| ≤ ((2 * 10 ^ 100 : Nat) : ℝ) := by exact_mod_cast h
  exact (natAbs_int_le hbound hn).trans_lt (by norm_num)

/-- An integer of few digits is written in few bytes. -/
private theorem intText_of_natAbs_lt {encoder : JsonEncoder ℝ} {n : ℤ} (h : n.natAbs < 10 ^ 101) :
    (intText n).length ≤ 102 ∧ (dumpsJson encoder.reprFloat (.int n)).isSome := by
  have hdigits := (Nat.length_toDigits_le_iff (by decide : 1 < 10) (by decide : 0 < 101)).mpr h
  constructor
  · rw [intText]
    split
    · rw [List.length_cons]
      omega
    · omega
  · rw [dumpsJson, if_pos (hdigits.trans (by decide)), Option.isSome_some]

/-- The box of a face passes. -/
theorem validateBoundedJson_faceBox {encoder : JsonEncoder ℝ}
    (hfloat : ∀ x, (encodeUtf8 (encoder.reprFloat x)).length ≤ 32) {left top right bottom : ℝ}
    (hleft : |left| ≤ 10 ^ 100) (htop : |top| ≤ 10 ^ 100) (hright : |right| ≤ 10 ^ 100)
    (hbottom : |bottom| ≤ 10 ^ 100) {box : JsonDict ℝ}
    (hbox : faceBox (left, top, right, bottom) = .ok box) :
    validateBoundedJson encoder (some (.dict box)) maxBoundingBoxBytes "Bounding box" =
      .ok () := by
  have hedge : ∀ {x : ℝ}, |x| ≤ 10 ^ 100 → |x| ≤ 2 * 10 ^ 100 := fun h => h.trans (by norm_num)
  have hextent : ∀ {x y : ℝ}, |x| ≤ 10 ^ 100 → |y| ≤ 10 ^ 100 →
      |max 0 (y + -x)| ≤ 2 * 10 ^ 100 := by
    intro x y hx hy
    have hsum : |y + -x| ≤ 2 * 10 ^ 100 := by
      refine (abs_add_le y (-x)).trans ?_
      rw [abs_neg]
      linarith
    rw [abs_of_nonneg (le_max_left 0 _)]
    exact max_le (by positivity) ((le_abs_self _).trans hsum)
  obtain ⟨leftEdge, hleftEdge, hbox⟩ := bind_eq_ok_iff.mp hbox
  obtain ⟨topEdge, htopEdge, hbox⟩ := bind_eq_ok_iff.mp hbox
  obtain ⟨rightEdge, hrightEdge, hbox⟩ := bind_eq_ok_iff.mp hbox
  obtain ⟨bottomEdge, hbottomEdge, hbox⟩ := bind_eq_ok_iff.mp hbox
  obtain ⟨width, hwidth, hbox⟩ := bind_eq_ok_iff.mp hbox
  obtain ⟨height, hheight, hbox⟩ := bind_eq_ok_iff.mp hbox
  cases hbox
  have hl := @intText_of_natAbs_lt encoder _ (natAbs_int_lt (hedge hleft) hleftEdge)
  have ht := @intText_of_natAbs_lt encoder _ (natAbs_int_lt (hedge htop) htopEdge)
  have hr := @intText_of_natAbs_lt encoder _ (natAbs_int_lt (hedge hright) hrightEdge)
  have hb := @intText_of_natAbs_lt encoder _ (natAbs_int_lt (hedge hbottom) hbottomEdge)
  have hw := @intText_of_natAbs_lt encoder _ (natAbs_int_lt (hextent hleft hright) hwidth)
  have hh := @intText_of_natAbs_lt encoder _ (natAbs_int_lt (hextent htop hbottom) hheight)
  refine validateBoundedJson_of_le hfloat ?_ ?_ ?_
  · rw [isSome_dumpsJson_dict]
    simp only [List.forall_mem_cons]
    exact ⟨hl.2, ht.2, hr.2, hb.2, hw.2, hh.2, fun _ h => absurd h List.not_mem_nil⟩
  · simp [jsonBound, membersBound, maxBoundingBoxBytes]
    omega
  · simp [walkJson, Json.children]

/-! ## The requests -/

private theorem bind_check_eq_ok_iff {β : Type} {check : Except Raised Unit}
    {rest : Unit → Except Raised β} {b : β} :
    (check >>= rest) = .ok b ↔ check = .ok () ∧ rest () = .ok b := by
  rw [bind_eq_ok_iff]
  exact ⟨fun ⟨_, hcheck, hrest⟩ => ⟨hcheck, hrest⟩, fun h => ⟨(), h.1, h.2⟩⟩

private theorem forM_eq_ok_iff {α : Type} {check : α → Except Raised Unit} {xs : List α} :
    xs.forM check = .ok () ↔ ∀ x ∈ xs, check x = .ok () := by
  induction xs with
  | nil => exact iff_of_true rfl (by simp)
  | cons x xs ih =>
    rw [List.forall_mem_cons, ← ih]
    exact bind_check_eq_ok_iff

/-- What `CompletePhotoJobRequest` accepts. -/
theorem CompletePhotoJobRequest.validate_eq_ok_iff {encoder : JsonEncoder ℝ}
    {payload : CompletePhotoJobRequest ℝ} :
    payload.validate encoder = .ok () ↔
      (∀ detection ∈ payload.detections, detection.validate encoder = .ok ()) ∧
      payload.detections.length ≤ maxOcrDetections ∧
      (∀ face ∈ payload.faceDetections, face.validate encoder = .ok ()) ∧
      payload.faceDetections.length ≤ maxFaceDetections ∧
      (payload.faceDetections.map (·.faceIndex)).Nodup ∧
      validateBoundedJson encoder (payload.rawResponseJson.map .dict) maxRawJsonBytes
        "Raw response" = .ok () := by
  unfold CompletePhotoJobRequest.validate
  simp only [bind_check_eq_ok_iff, forM_eq_ok_iff, ite_throw_eq_ok_iff, not_lt, not_not]

/-- The score of a face is missing or between 0 and 1. -/
def FaceResult.Scored (face : FaceResult ℝ) : Prop :=
  ∀ score, face.detectionScore = some score → 0 ≤ score ∧ score ≤ 1

private theorem validateScore_eq_ok_iff (face : FaceResult ℝ) :
    validateScore face.detectionScore = .ok () ↔ face.Scored := by
  cases hscore : face.detectionScore with
  | none => exact iff_of_true rfl fun score h => by rw [hscore] at h; cases h
  | some score =>
    have hfinite : Scalar.isFinite score = true := rfl
    rw [validateScore, hfinite, FaceResult.Scored, hscore]
    constructor
    · intro h other hother
      obtain rfl := Option.some.inj hother
      by_contra hnot
      rw [not_and_or, not_le, not_le] at hnot
      rw [if_pos (by simpa using hnot)] at h
      cases h
    · intro h
      obtain ⟨hlow, hhigh⟩ := h score rfl
      rw [if_neg (by simp [not_lt.mpr hlow, not_lt.mpr hhigh])]

section Requests

variable {limits : WorkerImageLimits} {maxEdge : ℤ} {tools : FaceTools ℝ ι}

/-- A result that is made of a face which the detector has found. -/
def FaceTools.Found (tools : FaceTools ℝ ι) (result : FaceResult ℝ) : Prop :=
  ∃ image faces face, tools.detect image = .ok faces ∧ face ∈ faces ∧
    ∃ index < workerMaxFaceDetections, face.Gives index result

/-- What a scan returns: results of found faces, with indexes of their own. -/
theorem found_of_scan {imageBytes : Bytes} {results : List (FaceResult ℝ)} {count : Nat}
    (h : scanWithDetectionCount limits maxEdge tools imageBytes = .ok (results, count)) :
    (results.map FaceResult.faceIndex).Nodup ∧ results.length ≤ workerMaxFaceDetections ∧
      ∀ result ∈ results, tools.Found result := by
  obtain ⟨_, -, h⟩ := bind_eq_ok_iff.mp h
  cases hdecoded : tools.imdecode imageBytes with
  | none =>
    rw [hdecoded] at h
    cases h
  | some image =>
    rw [hdecoded] at h
    obtain ⟨resized, -, h⟩ := bind_eq_ok_iff.mp h
    obtain ⟨faces, hfaces, h⟩ := bind_eq_ok_iff.mp h
    obtain ⟨collected, hcollected, h⟩ := bind_eq_ok_iff.mp h
    cases h
    obtain ⟨hsublist, hgives⟩ := collectFaces_spec hcollected
    have hlength : (faces.take workerMaxFaceDetections).length ≤ workerMaxFaceDetections :=
      List.length_take_le _ _
    have hindexes : ((faces.take workerMaxFaceDetections).zipIdx.map Prod.snd) =
        List.range' 0 (faces.take workerMaxFaceDetections).length := List.zipIdx_map_snd 0 _
    rw [hindexes] at hsublist
    refine ⟨hsublist.nodup List.nodup_range', ?_, fun result hresult => ?_⟩
    · have hle := hsublist.length_le
      rw [List.length_map, List.length_range'] at hle
      exact hle.trans hlength
    · obtain ⟨⟨face, index⟩, hentry, hgive⟩ := hgives result hresult
      have hindex : index < (faces.take workerMaxFaceDetections).length := by
        simpa using (List.mem_zipIdx' hentry).1
      have hface : face ∈ faces.take workerMaxFaceDetections := List.fst_mem_of_mem_zipIdx hentry
      exact ⟨resized, faces, face, hfaces, List.mem_of_mem_take hface, index,
        hindex.trans_le hlength, hgive⟩

variable (hdoc : tools.Documented) {encoder : JsonEncoder ℝ}
  (hfloat : ∀ x, (encodeUtf8 (encoder.reprFloat x)).length ≤ 32)

include hdoc

/-- A found face can be completed with its embedding. -/
theorem FaceTools.Found.embedding_accepted (cfg : Settings ℝ) {result : FaceResult ℝ}
    (h : tools.Found result) :
    validateEmbedding result.embedding = .ok () ∧ StoredNearly cfg result.embedding := by
  obtain ⟨image, faces, face, hfaces, hface, index, -, hgive⟩ := h
  obtain ⟨hlength, -, -⟩ := DetectedFace.of_usableEmbedding hgive.embedding
  exact (DetectedFace.nearUnit_of_usableEmbedding
    (hdoc.normed image faces hfaces face hface) hgive.embedding).accepted cfg hlength

include hfloat

/-- The box of a found face passes. -/
theorem FaceTools.Found.box_accepted {result : FaceResult ℝ} (h : tools.Found result) :
    validateBoundedJson encoder (some (.dict result.boundingBoxJson)) maxBoundingBoxBytes
      "Bounding box" = .ok () := by
  obtain ⟨image, faces, face, hfaces, hface, index, -, hgive⟩ := h
  have hbox := hgive.box
  cases hbbox : face.bbox with
  | none =>
    rw [hbbox] at hbox
    have hzero : |(0 : ℝ)| ≤ 10 ^ 100 := by rw [abs_zero]; positivity
    exact validateBoundedJson_faceBox hfloat hzero hzero hzero hzero hbox
  | some bbox =>
    obtain ⟨left, top, right, bottom⟩ := bbox
    rw [hbbox] at hbox
    obtain ⟨hleft, htop, hright, hbottom⟩ :=
      hdoc.box image faces hfaces face hface left top right bottom hbbox
    exact validateBoundedJson_faceBox hfloat hleft htop hright hbottom hbox

omit hdoc in
/-- The summary of a face processor passes. -/
private theorem validateBoundedJson_model {name : Text} (hname : name.length ≤ 40000)
    {rest : JsonDict ℝ} (hrest : rest = [] ∨ ∃ n : Nat, n ≤ 256 ∧ rest = [("face_count", .int n)]) :
    validateBoundedJson encoder
      (some (.dict ([("provider", .str "insightface".toList), ("model", .str name)] ++ rest)))
      maxRawJsonBytes "Raw response" = .ok () := by
  refine validateBoundedJson_of_le hfloat ?_ ?_ ?_
  · rw [isSome_dumpsJson_dict]
    rcases hrest with rfl | ⟨n, hn, rfl⟩
    · simp only [List.append_nil, List.forall_mem_cons]
      exact ⟨isSome_dumpsJson_str _, isSome_dumpsJson_str _, fun _ h => absurd h List.not_mem_nil⟩
    · simp only [List.cons_append, List.nil_append, List.forall_mem_cons]
      exact ⟨isSome_dumpsJson_str _, isSome_dumpsJson_str _, isSome_dumpsJson_int (by omega),
        fun _ h => absurd h List.not_mem_nil⟩
  · rcases hrest with rfl | ⟨n, hn, rfl⟩
    · simp [jsonBound, membersBound, maxRawJsonBytes]
      omega
    · have hdigits : (intText n).length ≤ 12 := length_intText_le (by omega)
      simp [jsonBound, membersBound, maxRawJsonBytes]
      omega
  · rcases hrest with rfl | ⟨n, -, rfl⟩ <;> simp [walkJson, Json.children]

/-- A found face passes as a detection when its score is between 0 and 1. -/
private theorem FaceTools.Found.validate_iff {face : FaceResult ℝ} (h : tools.Found face) :
    (FaceDetectionPayload.validate encoder ⟨face.faceIndex, face.embedding,
        some face.boundingBoxJson, face.detectionScore, face.qualityScore⟩ = .ok () ↔
      face.Scored) := by
  have hembedding := h.embedding_accepted hdoc (Settings.environment ℝ)
  have hbox := h.box_accepted hdoc hfloat
  obtain ⟨_, _, _, _, _, index, hindex, hgive⟩ := h
  have hsmall : ¬maxFaceDetections - 1 < face.faceIndex := by
    rw [hgive.faceIndex, maxFaceDetections]
    rw [workerMaxFaceDetections] at hindex
    omega
  simp only [FaceDetectionPayload.validate, if_neg hsmall, bind_check_eq_ok_iff, hembedding.1,
    Option.map_some, hbox, hgive.quality, true_and, and_self]
  exact validateScore_eq_ok_iff face

/-- The request with the faces of a photo passes when their scores are between 0 and 1. -/
theorem faceScanPayload_validate_iff {faces : List (FaceResult ℝ)}
    (hnodup : (faces.map FaceResult.faceIndex).Nodup) (hlength : faces.length ≤ 256)
    (hfound : ∀ face ∈ faces, tools.Found face) {name : Text} (hname : name.length ≤ 40000)
    (attemptId : Uuid) :
    (faceScanPayload attemptId name faces).validate encoder = .ok () ↔
      ∀ face ∈ faces, face.Scored := by
  have hraw := @validateBoundedJson_model encoder hfloat name hname
    [("face_count", .int faces.length)] (Or.inr ⟨faces.length, hlength, rfl⟩)
  rw [CompletePhotoJobRequest.validate_eq_ok_iff]
  simp only [faceScanPayload, List.forall_mem_map, List.length_map, List.map_map]
  constructor
  · rintro ⟨-, -, hfaces, -⟩ face hface
    exact ((hfound face hface).validate_iff hdoc hfloat).mp (hfaces face hface)
  · intro hscored
    refine ⟨by simp, Nat.zero_le _, fun face hface => ?_, hlength, hnodup, hraw⟩
    exact ((hfound face hface).validate_iff hdoc hfloat).mpr (hscored face hface)

/-- The request with the face of a selfie passes when its score is between 0 and 1. -/
theorem embeddingCompletionPayload_validate_iff {face : FaceResult ℝ} (hface : tools.Found face)
    {name : Text} (hname : name.length ≤ 40000) (attemptId : Uuid) :
    (embeddingCompletionPayload attemptId name face).validate encoder = .ok () ↔
      face.Scored := by
  have hembedding := hface.embedding_accepted hdoc (Settings.environment ℝ)
  have hbox := hface.box_accepted hdoc hfloat
  obtain ⟨_, _, _, _, _, index, hindex, hgive⟩ := hface
  have hraw := @validateBoundedJson_model encoder hfloat name hname [] (Or.inl rfl)
  rw [List.append_nil] at hraw
  simp only [CompleteEmbeddingJobRequest.validate, embeddingCompletionPayload,
    bind_check_eq_ok_iff, hembedding.1, Option.map_some, hbox, hgive.quality, hraw, true_and,
    and_true, and_self]
  exact validateScore_eq_ok_iff face

end Requests

/-! ## The end of a job -/

section Jobs

variable {processor : FaceProcessor ℝ ι}

private theorem found_of_scanFaces {imageBytes : Bytes} {faces : List (FaceResult ℝ)}
    (h : scanFaces processor.limits processor.maxImageEdge processor.tools imageBytes =
      .ok faces) :
    (faces.map FaceResult.faceIndex).Nodup ∧ faces.length ≤ workerMaxFaceDetections ∧
      ∀ face ∈ faces, processor.tools.Found face := by
  rcases hscanned : scanWithDetectionCount processor.limits processor.maxImageEdge
    processor.tools imageBytes with _ | ⟨found, count⟩
  · rw [scanFaces, hscanned] at h
    cases h
  · rw [scanFaces, hscanned] at h
    obtain rfl : found = faces := Except.ok.inj h
    exact found_of_scan hscanned

/-- The best face is one of the faces. -/
private theorem foldl_ranksBelow_mem (best : FaceResult ℝ) (faces : List (FaceResult ℝ)) :
    faces.foldl (fun best other => if best.ranksBelow other then other else best) best ∈
      best :: faces := by
  induction faces generalizing best with
  | nil => exact List.mem_cons_self
  | cons face faces ih =>
    rw [List.foldl_cons]
    rcases List.mem_cons.mp (ih (if best.ranksBelow face then face else best)) with h | h
    · rw [h]
      split
      · exact List.mem_cons_of_mem _ List.mem_cons_self
      · exact List.mem_cons_self
    · exact List.mem_cons_of_mem _ (List.mem_cons_of_mem _ h)

theorem found_of_enrollBestFace {imageBytes : Bytes} {face : FaceResult ℝ}
    (h : enrollBestFace processor.limits processor.maxImageEdge processor.tools imageBytes =
      .ok face) : processor.tools.Found face := by
  obtain ⟨faces, hscan, h⟩ := bind_eq_ok_iff.mp h
  obtain ⟨-, -, hfound⟩ := found_of_scanFaces hscan
  cases faces with
  | nil => cases h
  | cons first rest =>
    cases h
    exact hfound _ (foldl_ranksBelow_mem first rest)

theorem found_of_enrollSingleSearchFace {imageBytes : Bytes} {face : FaceResult ℝ}
    (h : enrollSingleSearchFace processor.limits processor.maxImageEdge processor.tools
      processor.settings imageBytes = .ok face) : processor.tools.Found face := by
  obtain ⟨⟨faces, count⟩, hscan, h⟩ := bind_eq_ok_iff.mp h
  obtain ⟨-, -, hfound⟩ := found_of_scan hscan
  obtain ⟨-, h⟩ := ite_throw_eq_ok_iff.mp h
  obtain ⟨-, h⟩ := ite_throw_eq_ok_iff.mp h
  cases faces with
  | nil => cases h
  | cons first rest =>
    cases rest with
    | nil =>
      obtain ⟨-, h⟩ := ite_throw_eq_ok_iff.mp h
      obtain ⟨-, h⟩ := ite_throw_eq_ok_iff.mp h
      cases h
      exact hfound _ List.mem_cons_self
    | cons second rest => cases h

/-- The request that the processing of a job ends with, and the faces in it. -/
inductive FaceRequest (processor : FaceProcessor ℝ ι) (name : Text) (job : ClaimedJob) :
    List (FaceResult ℝ) → JobPayload ℝ → Prop
  | embedding {face : FaceResult ℝ} (kind : job.subject.kind ≠ .photo)
    (found : processor.tools.Found face) :
    FaceRequest processor name job [face]
      (.completeEmbedding (embeddingCompletionPayload job.attempt name face))
  | scan {faces : List (FaceResult ℝ)} (kind : job.subject.kind = .photo)
    (nodup : (faces.map FaceResult.faceIndex).Nodup)
    (length_le : faces.length ≤ workerMaxFaceDetections)
    (found : ∀ face ∈ faces, processor.tools.Found face) :
    FaceRequest processor name job faces
      (.completePhoto (faceScanPayload job.attempt name faces))

theorem faceRequest_of_prepare {work : LocalWork ℝ} {job : ClaimedJob}
    {jobProcessor : JobProcessor} {request : Text × JobPayload ℝ}
    (h : jobProcessor.prepare (work.withFaces processor) job = .ok request)
    (hjob : job.jobType ≠ "ocr".toList) :
    ∃ faces, FaceRequest processor work.faceModelName job faces request.2 := by
  have hface : ∀ enroll, (∀ imageBytes face, enroll imageBytes = .ok face →
      processor.tools.Found face) → processFace (work.withFaces processor) job enroll =
        .ok request → ∃ faces, FaceRequest processor work.faceModelName job faces request.2 := by
    intro enroll henroll h
    obtain ⟨image, himage, h⟩ := bind_eq_ok_iff.mp h
    obtain ⟨imageBytes, -, h⟩ := bind_eq_ok_iff.mp h
    obtain ⟨_, -, h⟩ := bind_eq_ok_iff.mp h
    obtain ⟨face, hface, h⟩ := bind_eq_ok_iff.mp h
    obtain ⟨_, -, h⟩ := bind_eq_ok_iff.mp h
    obtain ⟨_, -, h⟩ := bind_eq_ok_iff.mp h
    cases h
    refine ⟨[face], .embedding (fun hkind => ?_) (henroll imageBytes face hface)⟩
    cases hsubject : job.subject with
    | photo => rw [hsubject] at himage; cases himage
    | participantFace | faceSearch => rw [hsubject] at hkind; cases hkind
  cases jobProcessor with
  | processFaceJob => exact hface _ (fun _ _ hfound => found_of_enrollBestFace hfound) h
  | processFaceSearchJob =>
    exact hface _ (fun _ _ hfound => found_of_enrollSingleSearchFace hfound) h
  | processPhotoJob =>
    obtain ⟨photo, hphoto, h⟩ := bind_eq_ok_iff.mp h
    obtain ⟨imageBytes, -, h⟩ := bind_eq_ok_iff.mp h
    obtain ⟨_, -, h⟩ := bind_eq_ok_iff.mp h
    rw [if_neg hjob] at h
    split at h
    · obtain ⟨faces, hscan, h⟩ := bind_eq_ok_iff.mp h
      obtain ⟨_, -, h⟩ := bind_eq_ok_iff.mp h
      obtain ⟨_, -, h⟩ := bind_eq_ok_iff.mp h
      cases h
      obtain ⟨hnodup, hlength, hfound⟩ := found_of_scanFaces hscan
      refine ⟨faces, .scan ?_ hnodup hlength hfound⟩
      cases hsubject : job.subject with
      | photo => rfl
      | participantFace | faceSearch => rw [hsubject] at hphoto; cases hphoto
    · cases h

private theorem routeJobRequest_completePhoto {job : ClaimedJob}
    (hkind : job.subject.kind = .photo) (payload : CompletePhotoJobRequest ℝ) :
    routeJobRequest (jobPath job.key "complete".toList) (.completePhoto payload) =
      .ok (.completePhoto job.id payload) := by
  rw [routeJobRequest, parseJobPath_jobPath _ (by decide)]
  simp only [ClaimedJob.key, hkind, parseUuid_uuidText job.id_lt]
  rfl

private theorem routeJobRequest_completeEmbedding {job : ClaimedJob}
    (hkind : job.subject.kind ≠ .photo) (payload : CompleteEmbeddingJobRequest ℝ) :
    ∃ call, routeJobRequest (jobPath job.key "complete".toList) (.completeEmbedding payload) =
        .ok call ∧ call.names = some (job.key, payload.attemptId) ∧
          ∀ encoder, call.validate encoder = payload.validate encoder := by
  rw [routeJobRequest, parseJobPath_jobPath _ (by decide)]
  simp only [ClaimedJob.key, parseUuid_uuidText job.id_lt]
  cases hsubject : job.subject.kind with
  | photo => exact absurd hsubject hkind
  | participantFace =>
    exact ⟨.completeParticipantFace job.id payload, rfl, rfl, fun _ => rfl⟩
  | faceSearch => exact ⟨.completeFaceSearch job.id payload, rfl, rfl, fun _ => rfl⟩

/-- What becomes of a request with faces: it reaches its job, it is accepted when the scores are
between 0 and 1, and the embeddings are stored nearly as they are. -/
structure FaceRequest.Accepted (encoder : JsonEncoder ℝ) (cfg : Settings ℝ) (job : ClaimedJob)
    (request : Text × JobPayload ℝ) (faces : List (FaceResult ℝ)) (call : WorkerCall ℝ) :
    Prop where
  routed : routeJobRequest request.1 request.2 = .ok call
  names : call.names = some (job.key, job.attempt)
  valid_iff : call.validate encoder = .ok () ↔ ∀ face ∈ faces, face.Scored
  stored : ∀ face ∈ faces, StoredNearly cfg face.embedding

theorem FaceRequest.accepted {encoder : JsonEncoder ℝ} (hdoc : processor.tools.Documented)
    (hfloat : ∀ x, (encodeUtf8 (encoder.reprFloat x)).length ≤ 32) {name : Text}
    (hname : name.length ≤ 40000) (cfg : Settings ℝ) {job : ClaimedJob}
    {faces : List (FaceResult ℝ)} {request : Text × JobPayload ℝ}
    (hpath : request.1 = jobPath job.key "complete".toList)
    (h : FaceRequest processor name job faces request.2) :
    ∃ call, Accepted encoder cfg job request faces call := by
  obtain ⟨path, payload⟩ := request
  obtain rfl : path = jobPath job.key "complete".toList := hpath
  cases h with
  | @embedding face kind found =>
    obtain ⟨call, hroute, hnames, hvalidate⟩ := routeJobRequest_completeEmbedding kind
      (embeddingCompletionPayload job.attempt name face)
    refine ⟨call, hroute, hnames, ?_, ?_⟩
    · rw [hvalidate, embeddingCompletionPayload_validate_iff hdoc hfloat found hname,
        List.forall_mem_singleton]
    · rw [List.forall_mem_singleton]
      exact (found.embedding_accepted hdoc cfg).2
  | scan kind nodup length_le found =>
    refine ⟨_, routeJobRequest_completePhoto kind _, ?_, ?_, ?_⟩
    · rw [WorkerCall.names, ClaimedJob.key, kind]
      rfl
    · exact faceScanPayload_validate_iff hdoc hfloat nodup length_le found hname job.attempt
    · exact fun face hface => ((found face hface).embedding_accepted hdoc cfg).2

/-- Whatever the detector finds, the request that a job on faces ends with reaches its job. It is
accepted exactly when the scores of its faces are between 0 and 1, and the embeddings in it are
usable and stored nearly as they are. -/
theorem preparedFaces_accepted {encoder : JsonEncoder ℝ} (hdoc : processor.tools.Documented)
    (hfloat : ∀ x, (encodeUtf8 (encoder.reprFloat x)).length ≤ 32) (cfg : Settings ℝ)
    {work : LocalWork ℝ} (hname : work.faceModelName.length ≤ 40000) {job : ClaimedJob}
    {jobProcessor : JobProcessor} {request : Text × JobPayload ℝ}
    (h : jobProcessor.prepare (work.withFaces processor) job = .ok request)
    (hjob : job.jobType ≠ "ocr".toList) :
    ∃ faces call, FaceRequest processor work.faceModelName job faces request.2 ∧
      FaceRequest.Accepted encoder cfg job request faces call := by
  obtain ⟨hpath, -⟩ := prepare_eq_ok h
  obtain ⟨faces, hrequest⟩ := faceRequest_of_prepare h hjob
  obtain ⟨call, haccepted⟩ := hrequest.accepted hdoc hfloat hname cfg hpath
  exact ⟨faces, call, hrequest, haccepted⟩

end Jobs

/-! ## A selfie -/

/-- A norm that rounding has left below one. -/
noncomputable def roundedNorm : ℝ := (9999 / 10000 : ℚ)

/-- A face straight ahead. -/
noncomputable def onePerson : DetectedFace ℝ := ⟨some (alongFirst roundedNorm), none, none, some 1⟩

private theorem nearUnit_roundedNorm : NearUnit (alongFirst roundedNorm) := by
  have hpos : 0 ≤ roundedNorm := by
    rw [roundedNorm]
    positivity
  have hsum : ((alongFirst roundedNorm).map fun x => x * x).sum = roundedNorm * roundedNorm := by
    rw [alongFirst, List.map_cons, List.map_replicate, List.sum_cons, List.sum_replicate, mul_zero,
      smul_zero, add_zero]
  rw [NearUnit, euclideanNorm_eq, hsum, Real.sqrt_mul_self hpos, roundedNorm]
  norm_num [abs_le]

/-- A detector that finds the face in every image. -/
noncomputable def onePersonProcessor : FaceProcessor ℝ Unit where
  tools := {
    openImage := fun _ => .ok ⟨100, 100, none, .ok ()⟩
    imdecode := fun _ => some ()
    size := fun _ => (100, 100)
    resize := fun image _ => .ok image
    detect := fun _ => .ok [onePerson] }
  limits := .environment
  maxImageEdge := 1600
  settings := ⟨64, 0⟩

private theorem onePersonProcessor_documented : onePersonProcessor.tools.Documented where
  normed image faces hfaces face hface embedding hembedding := by
    obtain rfl := Except.ok.inj hfaces
    rw [List.mem_singleton.mp hface] at hembedding
    obtain rfl := Option.some.inj hembedding
    exact nearUnit_roundedNorm
  box image faces hfaces face hface left top right bottom hbox := by
    obtain rfl := Except.ok.inj hfaces
    rw [List.mem_singleton.mp hface] at hbox
    cases hbox

/-- A worker that gets every image and keeps its lease. -/
def idleWork : LocalWork ℝ where
  download _ := .ok []
  ensureOwned _ := .ok ()
  ocrScan _ := .ok ([], [])
  faceScan _ := .ok []
  enrollBestFace _ := .error (.transientJob [])
  enrollSingleSearchFace _ := .error (.transientJob [])
  faceModelName := "buffalo_l".toList

/-- A claimed job on a selfie. -/
def selfieJob : ClaimedJob where
  id := 7
  jobType := "face_selfie_enroll".toList
  attemptCount := 1
  maxAttempts := 3
  attemptId := some 1
  leaseExpiresAt := none
  leaseSeconds := 300
  heartbeatPath := jobPath (.participantFace, 7) "heartbeat".toList
  subject := .participantFace 1 2 ⟨3, [], none, [], []⟩
  attempt := 1
  attempt_eq := rfl
  id_lt := by norm_num
  path_eq := rfl

private theorem onePerson_result (index : Nat) :
    ∃ result, onePerson.result index = .ok (some result) := by
  have hlength : (alongFirst roundedNorm).length = 512 := by
    rw [alongFirst, List.length_cons, List.length_replicate]
    rfl
  have hfinite : (alongFirst roundedNorm).all Scalar.isFinite = true :=
    List.all_eq_true.mpr fun _ _ => rfl
  have husable : onePerson.usableEmbedding = some (alongFirst roundedNorm) := by
    rw [DetectedFace.usableEmbedding, onePerson, Option.some_or, Option.filter_some, hlength,
      hfinite]
    rfl
  rw [DetectedFace.result, husable]
  exact ⟨_, rfl⟩

private theorem onePersonProcessor_scan :
    ∃ result, scanFaces onePersonProcessor.limits onePersonProcessor.maxImageEdge
      onePersonProcessor.tools [] = .ok [result] := by
  obtain ⟨result, hresult⟩ := onePerson_result 0
  have hcollected : collectFaces [(onePerson, 0)] = .ok [result] := by
    rw [collectFaces, hresult]
    rfl
  have hscan : scanWithDetectionCount onePersonProcessor.limits onePersonProcessor.maxImageEdge
      onePersonProcessor.tools [] = .ok ([result], 1) := by
    have hheader : validateImageHeader onePersonProcessor.limits
        (onePersonProcessor.tools.openImage []) = .ok (100, 100) := by decide
    rw [scanWithDetectionCount, hheader]
    refine bind_eq_ok_iff.mpr ⟨⟨⟩, rfl, ?_⟩
    refine bind_eq_ok_iff.mpr ⟨(), rfl, bind_eq_ok_iff.mpr ⟨[onePerson], rfl, ?_⟩⟩
    exact bind_eq_ok_iff.mpr ⟨_, hcollected, rfl⟩
  rw [scanFaces, hscan]
  exact ⟨result, rfl⟩

private theorem prepare_selfieJob :
    ∃ request, JobProcessor.processFaceJob.prepare (idleWork.withFaces onePersonProcessor)
      selfieJob = .ok request := by
  obtain ⟨result, hscan⟩ := onePersonProcessor_scan
  have henroll : (idleWork.withFaces onePersonProcessor).enrollBestFace [] = .ok result :=
    bind_eq_ok_iff.mpr ⟨[result], hscan, rfl⟩
  have hpath : selfieJob.completePath = .ok (jobPath selfieJob.key "complete".toList) := by
    rw [ClaimedJob.completePath, operationPath_heartbeatPath]
    rfl
  refine ⟨(jobPath selfieJob.key "complete".toList, .completeEmbedding (embeddingCompletionPayload
    selfieJob.attempt idleWork.faceModelName result)), ?_⟩
  refine bind_eq_ok_iff.mpr ⟨_, rfl, bind_eq_ok_iff.mpr ⟨[], rfl, ?_⟩⟩
  refine bind_eq_ok_iff.mpr ⟨(), rfl, bind_eq_ok_iff.mpr ⟨result, henroll, ?_⟩⟩
  exact bind_eq_ok_iff.mpr ⟨(), rfl, bind_eq_ok_iff.mpr ⟨_, hpath, rfl⟩⟩

/-- The face of the selfie is accepted, although its norm is not exactly one. -/
theorem selfieJob_accepted :
    ∃ request faces call,
      JobProcessor.processFaceJob.prepare (idleWork.withFaces onePersonProcessor) selfieJob =
        .ok request ∧
      FaceRequest onePersonProcessor "buffalo_l".toList selfieJob faces request.2 ∧
      FaceRequest.Accepted (zeroEncoder 1000 (by decide)) (Settings.environment ℝ) selfieJob
        request faces call := by
  obtain ⟨request, hprepare⟩ := prepare_selfieJob
  obtain ⟨faces, call, hrequest, haccepted⟩ := preparedFaces_accepted
    onePersonProcessor_documented (length_reprFloat_zeroEncoder _)
    (Settings.environment ℝ) (by decide) hprepare (by decide)
  exact ⟨request, faces, call, hprepare, hrequest, haccepted⟩

end RaceFrame
