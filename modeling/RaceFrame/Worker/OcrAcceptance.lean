import RaceFrame.Text.JsonBounds
import RaceFrame.Worker.Api
import RaceFrame.Worker.Vision

/-!
# Results that the backend accepts

The validators of `CompletePhotoJobRequest` on one side, the payload that
`process_photo_job` builds from a Vision response on the other. What the worker
extracts passes every check but one: the worker does not bound the number of its
detections, the backend does.
-/

namespace RaceFrame

open Core

variable {F : Type}

/-! ## How long a box is -/

theorem length_intText_le {n : Int} (h : n.natAbs < 10 ^ 11) : (intText n).length ≤ 12 := by
  have hdigits := (Nat.length_toDigits_le_iff (by decide : 1 < 10) (by decide : 0 < 11)).mpr h
  rw [intText]
  split
  · rw [List.length_cons]
    omega
  · omega

private theorem natAbs_minOrZero_le {xs : List Int} {bound : Nat} (h : ∀ x ∈ xs, x.natAbs ≤ bound) :
    (minOrZero xs).natAbs ≤ bound := by
  rw [minOrZero]
  cases hmin : xs.min? with
  | none => exact Nat.zero_le _
  | some x => exact h x (List.min?_mem hmin)

private theorem natAbs_maxOrZero_le {xs : List Int} {bound : Nat} (h : ∀ x ∈ xs, x.natAbs ≤ bound) :
    (maxOrZero xs).natAbs ≤ bound := by
  rw [maxOrZero]
  cases hmax : xs.max? with
  | none => exact Nat.zero_le _
  | some x => exact h x (List.max?_mem hmax)

theorem isSome_dumpsJson_int [Scalar F] {reprFloat : F → Text} {n : Int} (h : n.natAbs < 10 ^ 11) :
    (dumpsJson reprFloat (.int n)).isSome := by
  have hdigits := (Nat.length_toDigits_le_iff (by decide : 1 < 10) (by decide : 0 < 11)).mpr h
  rw [dumpsJson, if_pos (hdigits.trans (by decide)), Option.isSome_some]

theorem isSome_dumpsJson_str [Scalar F] {reprFloat : F → Text} (s : Text) :
    (dumpsJson reprFloat (.str s)).isSome := by
  rw [dumpsJson, Option.isSome_some]

theorem membersBound_append (floatBytes : Nat) (entries later : List (String × Json F)) :
    membersBound floatBytes (entries ++ later) =
      membersBound floatBytes entries + membersBound floatBytes later := by
  induction entries with
  | nil => rw [List.nil_append, membersBound, Nat.zero_add]
  | cons entry entries ih =>
    rw [List.cons_append, membersBound, membersBound, ih]
    omega

theorem PlaceMetadata.membersBound_le {metadata : JsonDict F} (h : PlaceMetadata metadata)
    (floatBytes : Nat) : membersBound floatBytes metadata ≤ 1000 := by
  have hindex : ∀ n : Nat, n < 2 ^ 31 → (intText n).length ≤ 12 :=
    fun n hn => length_intText_le (by omega)
  cases h with
  | word hpage hblock hparagraph hword =>
    have hpage' := hindex _ hpage
    have hblock' := hindex _ hblock
    have hparagraph' := hindex _ hparagraph
    have hword' := hindex _ hword
    simp [membersBound, jsonBound]
    omega
  | textLabel hindexed =>
    have hindexed' := hindex _ hindexed
    simp [membersBound, jsonBound]
    omega

/-- The json of a vertex. -/
def Vertex.toJson (vertex : Vertex) : Json F := .dict [("x", .int vertex.x), ("y", .int vertex.y)]

/-- The payload of a box before its metadata. -/
def boxEntries (vertices : List Vertex) : JsonDict F :=
  let xs := vertices.map (·.x)
  let ys := vertices.map (·.y)
  [("vertices", .list (vertices.map Vertex.toJson)), ("left", .int (minOrZero xs)),
    ("top", .int (minOrZero ys)), ("right", .int (maxOrZero xs)), ("bottom", .int (maxOrZero ys)),
    ("width", .int (maxOrZero xs - minOrZero xs)), ("height", .int (maxOrZero ys - minOrZero ys))]

theorem jsonBound_vertex_le (vertex : Vertex) (floatBytes : Nat) :
    jsonBound floatBytes (vertex.toJson : Json F) ≤ 46 := by
  have hx : (intText vertex.x).length ≤ 12 := length_intText_le (by
    have hmem := vertex.x_mem
    omega)
  have hy : (intText vertex.y).length ≤ 12 := length_intText_le (by
    have hmem := vertex.y_mem
    omega)
  simp [Vertex.toJson, membersBound, jsonBound]
  omega

theorem itemsBound_vertices_le (vertices : List Vertex) (floatBytes : Nat) :
    itemsBound floatBytes (vertices.map (Vertex.toJson (F := F))) ≤ 47 * vertices.length := by
  induction vertices with
  | nil => exact Nat.le_refl _
  | cons vertex vertices ih =>
    have hvertex := jsonBound_vertex_le (F := F) vertex floatBytes
    rw [List.map_cons, itemsBound, List.length_cons]
    omega

/-- The corners of a box are written in few digits. -/
theorem length_intText_extent_le {xs : List Int} (h : ∀ x ∈ xs, -2 ^ 31 ≤ x ∧ x < 2 ^ 31) :
    (intText (minOrZero xs)).length ≤ 12 ∧ (intText (maxOrZero xs)).length ≤ 12 ∧
      (intText (maxOrZero xs - minOrZero xs)).length ≤ 12 := by
  have hbound : ∀ x ∈ xs, x.natAbs ≤ 2 ^ 31 := fun x hx => by
    have hmem := h x hx
    omega
  have hmin := natAbs_minOrZero_le hbound
  have hmax := natAbs_maxOrZero_le hbound
  exact ⟨length_intText_le (by omega), length_intText_le (by omega), length_intText_le (by omega)⟩

/-- The length of a box grows with its vertices only. -/
theorem membersBound_boxEntries_le (vertices : List Vertex) (floatBytes : Nat) :
    membersBound floatBytes (boxEntries vertices : JsonDict F) ≤ 47 * vertices.length + 600 := by
  have hvertices := itemsBound_vertices_le (F := F) vertices floatBytes
  have hxs : ∀ x ∈ vertices.map (·.x), -2 ^ 31 ≤ x ∧ x < 2 ^ 31 := by
    rw [List.forall_mem_map]
    exact fun vertex _ => vertex.x_mem
  have hys : ∀ y ∈ vertices.map (·.y), -2 ^ 31 ≤ y ∧ y < 2 ^ 31 := by
    rw [List.forall_mem_map]
    exact fun vertex _ => vertex.y_mem
  have hx := length_intText_extent_le hxs
  have hy := length_intText_extent_le hys
  generalize hentries : vertices.map (Vertex.toJson (F := F)) = entries at hvertices
  simp [boxEntries, membersBound, jsonBound, hentries]
  omega

variable [Scalar F]

/-- The metadata of a place can be written. -/
theorem PlaceMetadata.isSome_dumpsJson {reprFloat : F → Text} {metadata : JsonDict F}
    (h : PlaceMetadata metadata) :
    ∀ entry ∈ metadata, (dumpsJson reprFloat entry.2).isSome := by
  cases h with
  | word hpage hblock hparagraph hword =>
    simp only [List.forall_mem_cons]
    exact ⟨isSome_dumpsJson_str _, isSome_dumpsJson_int (by omega),
      isSome_dumpsJson_int (by omega), isSome_dumpsJson_int (by omega),
      isSome_dumpsJson_int (by omega), fun _ h => absurd h List.not_mem_nil⟩
  | textLabel hindex =>
    simp only [List.forall_mem_cons]
    exact ⟨isSome_dumpsJson_str _, isSome_dumpsJson_int (by omega),
      fun _ h => absurd h List.not_mem_nil⟩

/-- The payload of a box can be written. -/
theorem isSome_dumpsJson_boxEntries {reprFloat : F → Text} (vertices : List Vertex) :
    ∀ entry ∈ (boxEntries vertices : JsonDict F), (dumpsJson reprFloat entry.2).isSome := by
  have hvertex : ∀ vertex : Vertex, (dumpsJson reprFloat (vertex.toJson : Json F)).isSome := by
    intro vertex
    have hx := vertex.x_mem
    have hy := vertex.y_mem
    rw [Vertex.toJson, isSome_dumpsJson_dict]
    simp only [List.forall_mem_cons]
    exact ⟨isSome_dumpsJson_int (by omega), isSome_dumpsJson_int (by omega),
      fun _ h => absurd h List.not_mem_nil⟩
  have hvertices : (dumpsJson reprFloat (.list (vertices.map Vertex.toJson) : Json F)).isSome := by
    rw [isSome_dumpsJson_list, List.forall_mem_map]
    exact fun vertex _ => hvertex vertex
  have hbound : ∀ z ∈ vertices.map (·.x) ++ vertices.map (·.y), z.natAbs ≤ 2 ^ 31 := by
    intro z hz
    rcases List.mem_append.mp hz with hz | hz
    · obtain ⟨vertex, -, rfl⟩ := List.mem_map.mp hz
      have hx := vertex.x_mem
      omega
    · obtain ⟨vertex, -, rfl⟩ := List.mem_map.mp hz
      have hy := vertex.y_mem
      omega
  have hleft := natAbs_minOrZero_le fun z hz => hbound z (List.mem_append_left _ hz)
  have htop := natAbs_minOrZero_le fun z hz => hbound z (List.mem_append_right _ hz)
  have hright := natAbs_maxOrZero_le fun z hz => hbound z (List.mem_append_left _ hz)
  have hbottom := natAbs_maxOrZero_le fun z hz => hbound z (List.mem_append_right _ hz)
  simp only [boxEntries, List.forall_mem_cons]
  exact ⟨hvertices, isSome_dumpsJson_int (by omega), isSome_dumpsJson_int (by omega),
    isSome_dumpsJson_int (by omega), isSome_dumpsJson_int (by omega),
    isSome_dumpsJson_int (by omega), isSome_dumpsJson_int (by omega),
    fun _ h => absurd h List.not_mem_nil⟩

/-! ## The validators -/

/-- `MAX_OCR_DETECTIONS`. -/
def maxOcrDetections : Nat := 2000

/-- `MAX_FACE_DETECTIONS`. -/
def maxFaceDetections : Nat := 256

/-- `MAX_RAW_JSON_BYTES`. -/
def maxRawJsonBytes : Nat := 256 * 1024

/-- `MAX_BOUNDING_BOX_BYTES`. -/
def maxBoundingBoxBytes : Nat := 16 * 1024

/-- `_validate_score`. -/
def validateScore : Option F → Except Raised Unit
  | none => .ok ()
  | some value =>
    if !Scalar.isFinite value || decide (value < 0) || decide (1 < value) then
      .error (.valueError "Score must be a finite number between 0 and 1.")
    else .ok ()

/-- `_validate_embedding`. -/
def validateEmbedding (value : List F) : Except Raised Unit :=
  if value.length ≠ embeddingDimensions then
    .error (.valueError "Embedding must have exactly 512 dimensions.")
  else if !value.all Scalar.isFinite then
    .error (.valueError "Embedding values must all be finite.")
  else if Scalar.sum (value.map fun item => item * item) ≤ 0 then
    .error (.valueError "Embedding must have a non-zero norm.")
  else .ok ()

/-- `Field(min_length=1, max_length=4_096)`. -/
def validateText (value : Text) : Except Raised Unit :=
  if value.length < 1 then .error (.valueError "String should have at least 1 character")
  else if 4096 < value.length then
    .error (.valueError "String should have at most 4096 characters")
  else .ok ()

/-- The validators of `OCRDetectionPayload`. -/
def OCRDetectionPayload.validate (encoder : JsonEncoder F) (detection : OCRDetectionPayload F) :
    Except Raised Unit := do
  validateText detection.detectedText
  validateText detection.normalizedText
  validateScore detection.confidence
  validateBoundedJson encoder (detection.boundingBoxJson.map .dict) maxBoundingBoxBytes
    "Bounding box"

/-- The validators of `FaceDetectionPayload`. -/
def FaceDetectionPayload.validate (encoder : JsonEncoder F) (detection : FaceDetectionPayload F) :
    Except Raised Unit := do
  if maxFaceDetections - 1 < detection.faceIndex then
    throw (.valueError "Input should be less than or equal to 255")
  validateEmbedding detection.embedding
  validateBoundedJson encoder (detection.boundingBoxJson.map .dict) maxBoundingBoxBytes
    "Bounding box"
  validateScore detection.detectionScore
  validateScore detection.qualityScore

/-- The validators of `CompletePhotoJobRequest`; the first error stands for all of them. -/
def CompletePhotoJobRequest.validate (encoder : JsonEncoder F)
    (payload : CompletePhotoJobRequest F) : Except Raised Unit := do
  payload.detections.forM (OCRDetectionPayload.validate encoder)
  if maxOcrDetections < payload.detections.length then
    throw (.valueError "At most 2000 OCR detections are accepted.")
  payload.faceDetections.forM (FaceDetectionPayload.validate encoder)
  if maxFaceDetections < payload.faceDetections.length then
    throw (.valueError "At most 256 face detections are accepted.")
  if ¬(payload.faceDetections.map (·.faceIndex)).Nodup then
    throw (.valueError "Face indexes must be unique within a result.")
  validateBoundedJson encoder (payload.rawResponseJson.map .dict) maxRawJsonBytes "Raw response"

/-- The status of the answer when a validator raises: only a `ValueError` is a finding. -/
def invalidStatus : Raised → Nat
  | .valueError _ => 422
  | _ => 500

/-- The status of the answer before the route runs. -/
def CompletePhotoJobRequest.requestStatus (encoder : JsonEncoder F)
    (payload : CompletePhotoJobRequest F) : Nat :=
  match payload.validate encoder with
  | .ok _ => 200
  | .error raised => invalidStatus raised

/-! ## The worker -/

/-- `raw_summary` of `OCRProcessor.scan`. -/
def rawSummary (durationMs : F) (width height detectionCount : Nat) : JsonDict F :=
  [("provider", .str "google_vision".toList),
    ("request", .str "document_text_detection".toList),
    ("model", .str "google_vision_builtin".toList), ("duration_ms", .float durationMs),
    ("image_width", .int width), ("image_height", .int height),
    ("detection_count", .int detectionCount)]

/-- The completion payload of `process_photo_job` for an OCR job. -/
def ocrCompletion (attemptId : Uuid) (response : VisionResponse F) (durationMs : F)
    (width height : Nat) : CompletePhotoJobRequest F where
  attemptId := attemptId
  detections := extractGoogleOcrDetections response
  faceDetections := []
  rawResponseJson :=
    some (rawSummary durationMs width height (extractGoogleOcrDetections response).length)

/-- The exceptions of the worker. -/
inductive WorkerError
  | workerConfig (message : String)
  | permanentJob (message : String)
  | controlPlane (message : String)
  | leaseLost (message : String)
  deriving DecidableEq

/-- `BackendClient.post`: one outcome for each attempt, a status or a failed request. -/
def BackendClient.post : List (Option Nat) → Except WorkerError Unit
  | [] => .error (.controlPlane "Backend request exhausted its retry budget.")
  | none :: rest =>
    if rest.isEmpty then .error (.controlPlane "Backend request failed after bounded retries.")
    else BackendClient.post rest
  | some status :: rest =>
    if 200 ≤ status ∧ status < 300 then .ok ()
    else if status = 409 then
      .error (.leaseLost "Backend rejected a stale or expired worker attempt.")
    else if status = 401 ∨ status = 403 then
      .error (.workerConfig "Backend rejected WORKER_API_TOKEN.")
    else if status = 404 then .error (.leaseLost "The claimed job no longer exists.")
    else if status = 429 ∨ 500 ≤ status then
      if rest.isEmpty then
        .error (.controlPlane ("Backend returned transient HTTP " ++ toString status ++ "."))
      else BackendClient.post rest
    else
      .error (.permanentJob
        ("Backend rejected the worker result with HTTP " ++ toString status ++ "."))

/-! ## Boxes -/

/-- A value passes when it can be written, is short enough and is neither deep nor large. -/
theorem validateBoundedJson_of_le {encoder : JsonEncoder F} {floatBytes maxBytes : Nat}
    {label : String} {value : Json F}
    (hfloat : ∀ x, (encodeUtf8 (encoder.reprFloat x)).length ≤ floatBytes)
    (hdumps : (dumpsJson encoder.reprFloat value).isSome)
    (hbound : jsonBound floatBytes value ≤ maxBytes)
    (hwalk : walkJson label [(value, 0)] 0 = .ok ()) :
    validateBoundedJson encoder (some value) maxBytes label = .ok () := by
  obtain ⟨encoded, hencoded⟩ := Option.isSome_iff_exists.mp hdumps
  have hlength := length_dumpsJson_le hfloat value encoded hencoded
  obtain ⟨hdepth, helements⟩ := (walkJson_value_eq_ok_iff label value).mp hwalk
  exact (validateBoundedJson_eq_ok_iff encoder value maxBytes label).mpr
    ⟨⟨encoded, hencoded, hlength.trans hbound⟩, allFinite_of_dumpsJson value hdumps, hdepth,
      helements⟩

/-- The box of a polygon of four vertices passes. -/
theorem validateBoundedJson_box {encoder : JsonEncoder F} {floatBytes : Nat}
    (hfloat : ∀ x, (encodeUtf8 (encoder.reprFloat x)).length ≤ floatBytes) {vertices : List Vertex}
    (hvertices : vertices.length = 4) {metadata : JsonDict F} (hmetadata : PlaceMetadata metadata) :
    validateBoundedJson encoder ((boundingPolyToJson vertices metadata).map .dict)
      maxBoundingBoxBytes "Bounding box" = .ok () := by
  have hbox : boundingPolyToJson vertices metadata = some (boxEntries vertices ++ metadata) := by
    rw [boundingPolyToJson, if_neg]
    · rfl
    · rw [List.isEmpty_iff]
      rintro rfl
      cases hvertices
  rw [hbox]
  refine validateBoundedJson_of_le hfloat ?_ ?_ ?_
  · rw [isSome_dumpsJson_dict]
    intro entry hentry
    rcases List.mem_append.mp hentry with hbox | hplace
    · exact isSome_dumpsJson_boxEntries vertices entry hbox
    · exact hmetadata.isSome_dumpsJson entry hplace
  · have hentries := membersBound_boxEntries_le (F := F) vertices floatBytes
    have hplace := hmetadata.membersBound_le floatBytes
    rw [jsonBound, membersBound_append, maxBoundingBoxBytes]
    omega
  · obtain ⟨a, b, c, d, rfl⟩ := List.length_eq_four.mp hvertices
    cases hmetadata <;> simp [boxEntries, Vertex.toJson, walkJson, Json.children]

/-! ## Detections -/

/-- A text of at most 4096 characters before and after normalisation, with a score between
0 and 1 if it has one and a polygon of four vertices. -/
structure RawText.Readable (raw : RawText F) : Prop where
  text : (strip raw.text).length ≤ 4096
  normalized : (normalizeDetectedText (strip raw.text)).length ≤ 4096
  confidence : ∀ c, raw.confidence = some c → Scalar.isFinite c = true ∧ 0 ≤ c ∧ c ≤ 1
  vertices : raw.vertices.length = 4

theorem validateText_of_length {value : Text} (hpos : value ≠ []) (hle : value.length ≤ 4096) :
    validateText value = .ok () := by
  have hlength := List.length_pos_iff.mpr hpos
  rw [validateText, if_neg (by omega), if_neg (by omega)]

theorem validateScore_of_mem {value : Option F}
    (h : ∀ c, value = some c → Scalar.isFinite c = true ∧ 0 ≤ c ∧ c ≤ 1) :
    validateScore value = .ok () := by
  cases value with
  | none => rfl
  | some c =>
    obtain ⟨hfinite, hlow, hhigh⟩ := h c rfl
    rw [validateScore, if_neg]
    rw [hfinite, decide_eq_false (not_lt.mpr hlow), decide_eq_false (not_lt.mpr hhigh)]
    decide

/-- The detection of a readable text passes. -/
theorem detectionOf_validate {encoder : JsonEncoder F} {floatBytes : Nat}
    (hfloat : ∀ x, (encodeUtf8 (encoder.reprFloat x)).length ≤ floatBytes) {raw : RawText F}
    (hplace : PlaceMetadata raw.metadata) (hread : raw.Readable) (hkey : (textKey raw).isSome) :
    (detectionOf raw).validate encoder = .ok () := by
  have hfull : normalizeDetectedText (strip raw.text) ≠ [] := by
    intro hblank
    rw [textKey, if_pos (List.isEmpty_iff.mpr hblank)] at hkey
    cases hkey
  have htext : strip raw.text ≠ [] := by
    intro hblank
    rw [hblank] at hfull
    exact hfull rfl
  rw [OCRDetectionPayload.validate, detectionOf, validateText_of_length htext hread.text,
    validateText_of_length hfull hread.normalized, validateScore_of_mem hread.confidence,
    validateBoundedJson_box hfloat hread.vertices hplace]
  rfl

private theorem forM_ok {α : Type} {check : α → Except Raised Unit} {xs : List α}
    (h : ∀ x ∈ xs, check x = .ok ()) : xs.forM check = .ok () := by
  induction xs with
  | nil => rfl
  | cons x xs ih =>
    change (check x >>= fun _ => xs.forM check) = _
    rw [h x List.mem_cons_self]
    exact ih fun y hy => h y (List.mem_cons_of_mem x hy)

/-- The summary of a scan passes. -/
theorem validateBoundedJson_rawSummary {encoder : JsonEncoder F}
    (hfloat : ∀ x, (encodeUtf8 (encoder.reprFloat x)).length ≤ 32) {durationMs : F}
    (hduration : Scalar.isFinite durationMs = true) {width height count : Nat}
    (hwidth : width ≤ 32768) (hheight : height ≤ 32768) (hcount : count ≤ maxOcrDetections) :
    validateBoundedJson encoder (some (.dict (rawSummary durationMs width height count)))
      maxRawJsonBytes "Raw response" = .ok () := by
  refine validateBoundedJson_of_le hfloat ?_ ?_ ?_
  · rw [isSome_dumpsJson_dict]
    have hcount' : count < 10 ^ 11 := by
      rw [maxOcrDetections] at hcount
      omega
    have hfloat : (dumpsJson encoder.reprFloat (.float durationMs)).isSome := by
      rw [dumpsJson, if_pos hduration, Option.isSome_some]
    simp only [rawSummary, List.forall_mem_cons]
    exact ⟨isSome_dumpsJson_str _, isSome_dumpsJson_str _, isSome_dumpsJson_str _, hfloat,
      isSome_dumpsJson_int (by omega), isSome_dumpsJson_int (by omega),
      isSome_dumpsJson_int (by omega), fun _ h => absurd h List.not_mem_nil⟩
  · have hwidth' : (intText width).length ≤ 12 := length_intText_le (by omega)
    have hheight' : (intText height).length ≤ 12 := length_intText_le (by omega)
    have hcount' : (intText count).length ≤ 12 := length_intText_le (by
      rw [maxOcrDetections] at hcount
      omega)
    simp [rawSummary, jsonBound, membersBound, maxRawJsonBytes]
    omega
  · simp [rawSummary, walkJson, Json.children]

/-! ## Acceptance -/

section

variable {encoder : JsonEncoder F} {response : VisionResponse F} {durationMs : F}
  {width height : Nat}

/-- Every detection of a readable response passes. -/
theorem forM_validate_detections (hfloat : ∀ x, (encodeUtf8 (encoder.reprFloat x)).length ≤ 32)
    (hread : ∀ raw ∈ response.texts, raw.Readable) :
    (extractGoogleOcrDetections response).forM (OCRDetectionPayload.validate encoder) =
      .ok () := by
  apply forM_ok
  intro detection hdetection
  obtain ⟨raw, hraw, hkey, rfl⟩ := (extractGoogleOcrDetections_spec response).2 detection hdetection
  exact detectionOf_validate hfloat (place_of_mem_texts hraw) (hread raw hraw) hkey

/-- The checks of the backend come down to the number of detections. -/
theorem ocrCompletion_validate (hfloat : ∀ x, (encodeUtf8 (encoder.reprFloat x)).length ≤ 32)
    (hread : ∀ raw ∈ response.texts, raw.Readable) (hduration : Scalar.isFinite durationMs = true)
    (hwidth : width ≤ 32768) (hheight : height ≤ 32768) (attemptId : Uuid) :
    (ocrCompletion attemptId response durationMs width height).validate encoder =
      if (response.texts.filterMap textKey).dedup.length ≤ maxOcrDetections then .ok ()
      else .error (.valueError "At most 2000 OCR detections are accepted.") := by
  have hdetections := forM_validate_detections hfloat hread
  have hlength := (extractGoogleOcrDetections_spec response).1
  rw [CompletePhotoJobRequest.validate, ocrCompletion]
  simp only [hdetections, hlength]
  by_cases hcount : (response.texts.filterMap textKey).dedup.length ≤ maxOcrDetections
  · rw [if_pos hcount, if_neg (Nat.not_lt.mpr hcount)]
    have hsummary := validateBoundedJson_rawSummary hfloat hduration hwidth hheight hcount
    exact hsummary
  · rw [if_neg hcount, if_pos (Nat.lt_of_not_le hcount)]
    rfl

/-- The answer to a scan that a validator finds fault with is HTTP 422, a permanent failure. -/
theorem post_requestStatus {payload : CompletePhotoJobRequest F} {message : String}
    (h : payload.validate encoder = .error (.valueError message)) (rest : List (Option Nat)) :
    BackendClient.post (some (payload.requestStatus encoder) :: rest) =
      .error (.permanentJob "Backend rejected the worker result with HTTP 422.") := by
  rw [CompletePhotoJobRequest.requestStatus, h]
  change BackendClient.post (some 422 :: rest) = _
  simp only [BackendClient.post]
  rfl

/-- What the worker makes of a response of readable texts passes every validator, and the job
does not fail with HTTP 422, exactly when at most 2000 texts differ in their normalised text or
in their place. -/
theorem ocrCompletion_accepted_iff (hfloat : ∀ x, (encodeUtf8 (encoder.reprFloat x)).length ≤ 32)
    (hread : ∀ raw ∈ response.texts, raw.Readable) (hduration : Scalar.isFinite durationMs = true)
    (hwidth : width ≤ 32768) (hheight : height ≤ 32768) (attemptId : Uuid)
    (rest : List (Option Nat)) :
    ((ocrCompletion attemptId response durationMs width height).validate encoder = .ok () ∧
        BackendClient.post (some ((ocrCompletion attemptId response durationMs width
          height).requestStatus encoder) :: rest) ≠
            .error (.permanentJob "Backend rejected the worker result with HTTP 422.")) ↔
      (response.texts.filterMap textKey).dedup.length ≤ maxOcrDetections := by
  have hvalid := ocrCompletion_validate hfloat hread hduration hwidth hheight attemptId
  by_cases hcount : (response.texts.filterMap textKey).dedup.length ≤ maxOcrDetections
  · rw [if_pos hcount] at hvalid
    have hpost : BackendClient.post (some 200 :: rest) = .ok () := rfl
    rw [CompletePhotoJobRequest.requestStatus, hvalid]
    exact ⟨fun _ => hcount, fun _ => ⟨rfl, by rw [hpost]; simp⟩⟩
  · rw [if_neg hcount] at hvalid
    rw [hvalid]
    refine ⟨fun h => ?_, fun h => absurd h hcount⟩
    cases h.1

end

/-! ## An accepted and a rejected response -/

/-- A response with one page, one block and one paragraph. -/
def oneParagraph (words : Repeated (VisionWord ℚ)) : VisionResponse ℚ where
  pages := ⟨[⟨[⟨[words], by simp⟩], by simp⟩], by simp⟩
  textAnnotations := ⟨[], by simp⟩

/-- A vertex of an image. -/
def vertexAt (x y : Fin 32768) : Vertex where
  x := x
  y := y
  x_mem := by omega
  y_mem := by omega

/-- The word "A" in a square of its own; a thousand squares are in a row. -/
def wordAt (i : Fin 2001) : VisionWord ℚ :=
  let left : Fin 32768 := ⟨10 * (i % 1000), by omega⟩
  let right : Fin 32768 := ⟨10 * (i % 1000) + 8, by omega⟩
  let top : Fin 32768 := ⟨10 * (i / 1000), by omega⟩
  let bottom : Fin 32768 := ⟨10 * (i / 1000) + 8, by omega⟩
  { symbols := [['A']]
    boundingBox := [vertexAt left top, vertexAt right top, vertexAt right bottom,
      vertexAt left bottom]
    confidence := some (99 / 100) }

/-- The bib "A7" and a word behind it. -/
def bibWords : Repeated (VisionWord ℚ) :=
  ⟨[{ wordAt 0 with symbols := [['A'], ['7']] }, wordAt 1], by simp⟩

/-- The word "A" at 2001 places. -/
def crowdedWords : Repeated (VisionWord ℚ) := ⟨(List.finRange 2001).map wordAt, by simp⟩

/-- The texts of a paragraph. -/
theorem words_oneParagraph (words : Repeated (VisionWord ℚ)) :
    (oneParagraph words).words = words.val.zipIdx.map fun word =>
      { text := word.1.symbols.flatten
        vertices := word.1.boundingBox
        confidence := word.1.confidence
        metadata := [("source", .str "word".toList), ("page_index", .int (0 : Nat)),
          ("block_index", .int (0 : Nat)), ("paragraph_index", .int (0 : Nat)),
          ("word_index", .int word.2)] } := by
  simp [VisionResponse.words, oneParagraph]

theorem filterMap_textKey_oneParagraph (words : Repeated (VisionWord ℚ)) :
    (oneParagraph words).words.filterMap textKey = words.val.filterMap fun word =>
      textKey ⟨word.symbols.flatten, word.boundingBox, word.confidence, []⟩ := by
  rw [words_oneParagraph, List.filterMap_map]
  conv_rhs => rw [← List.zipIdx_map_fst 0 words.val, List.filterMap_map]
  rfl

theorem texts_oneParagraph {words : Repeated (VisionWord ℚ)}
    (h : (oneParagraph words).words.filterMap textKey ≠ []) :
    (oneParagraph words).texts = (oneParagraph words).words := by
  rw [VisionResponse.texts, if_neg]
  rwa [List.isEmpty_iff]

theorem oneParagraph_readable {words : Repeated (VisionWord ℚ)}
    (hkeys : (oneParagraph words).words.filterMap textKey ≠ [])
    (h : ∀ word ∈ words.val,
      RawText.Readable ⟨word.symbols.flatten, word.boundingBox, word.confidence, []⟩) :
    ∀ raw ∈ (oneParagraph words).texts, raw.Readable := by
  intro raw hraw
  rw [texts_oneParagraph hkeys, words_oneParagraph] at hraw
  obtain ⟨entry, hentry, rfl⟩ := List.mem_map.mp hraw
  have hword := h entry.1 (List.fst_mem_of_mem_zipIdx hentry)
  exact ⟨hword.text, hword.normalized, hword.confidence, hword.vertices⟩

/-- The key of a word "A". -/
def wordKey (i : Fin 2001) : Text × List (Int × Int) :=
  (['A'], (wordAt i).boundingBox.map fun v => (v.x, v.y))

theorem wordKey_injective : Function.Injective wordKey := by
  intro i j h
  have hcorners := congrArg (fun key => key.2.head?) h
  simp only [wordKey, wordAt, vertexAt, List.map_cons, List.head?_cons, Option.some.injEq,
    Prod.mk.injEq] at hcorners
  apply Fin.ext
  omega

theorem filterMap_textKey_crowded :
    (oneParagraph crowdedWords).words.filterMap textKey = (List.finRange 2001).map wordKey := by
  rw [filterMap_textKey_oneParagraph, crowdedWords, List.filterMap_map, ← List.filterMap_eq_map]
  rfl

theorem wordAt_readable (i : Fin 2001) :
    RawText.Readable ⟨(wordAt i).symbols.flatten, (wordAt i).boundingBox, (wordAt i).confidence,
      []⟩ where
  text := by
    change (strip ['A']).length ≤ 4096
    decide
  normalized := by
    change (normalizeDetectedText (strip ['A'])).length ≤ 4096
    decide
  confidence c h := by
    rw [← Option.some.inj h]
    decide +kernel
  vertices := rfl

/-- An interpreter for the responses, in which zero is the only float. -/
def visionEncoder : JsonEncoder ℚ := zeroEncoder 1000 (by decide)

/-- Two readable texts are accepted. -/
theorem bib_response_accepted :
    (ocrCompletion 0 (oneParagraph bibWords) 0 100 100).validate visionEncoder = .ok () ∧
      BackendClient.post
          [some ((ocrCompletion 0 (oneParagraph bibWords) 0 100 100).requestStatus visionEncoder)] ≠
        .error (.permanentJob "Backend rejected the worker result with HTTP 422.") := by
  have hkeys : (oneParagraph bibWords).words.filterMap textKey ≠ [] := by decide
  have hread : ∀ raw ∈ (oneParagraph bibWords).texts, raw.Readable := by
    apply oneParagraph_readable hkeys
    intro word hword
    rcases List.mem_pair.mp hword with rfl | rfl
    · exact ⟨by decide, by decide, (wordAt_readable 0).confidence, rfl⟩
    · exact wordAt_readable 1
  apply (ocrCompletion_accepted_iff (length_reprFloat_zeroEncoder _) hread rfl (by omega)
    (by omega) 0 []).mpr
  decide

/-- A readable response of 2001 words fails its job. -/
theorem crowded_response_rejected :
    (∀ raw ∈ (oneParagraph crowdedWords).texts, raw.Readable) ∧
      (ocrCompletion 0 (oneParagraph crowdedWords) 0 12000 100).validate visionEncoder ≠ .ok () ∧
      BackendClient.post
          [some ((ocrCompletion 0 (oneParagraph crowdedWords) 0 12000 100).requestStatus
            visionEncoder)] =
        .error (.permanentJob "Backend rejected the worker result with HTTP 422.") := by
  have hsome : (oneParagraph crowdedWords).words.filterMap textKey ≠ [] := by
    rw [filterMap_textKey_crowded]
    simp
  have hread : ∀ raw ∈ (oneParagraph crowdedWords).texts, raw.Readable := by
    apply oneParagraph_readable hsome
    rw [crowdedWords, List.forall_mem_map]
    exact fun i _ => wordAt_readable i
  have hcount : ¬((oneParagraph crowdedWords).texts.filterMap textKey).dedup.length ≤
      maxOcrDetections := by
    have hnodup : ((List.finRange 2001).map wordKey).Nodup :=
      (List.nodup_finRange 2001).map wordKey_injective
    rw [texts_oneParagraph hsome, filterMap_textKey_crowded, List.Nodup.dedup hnodup,
      List.length_map, List.length_finRange, maxOcrDetections]
    omega
  have hvalid := @ocrCompletion_validate ℚ _ visionEncoder (oneParagraph crowdedWords) 0 12000 100
    (length_reprFloat_zeroEncoder _) hread rfl (by omega) (by omega) 0
  rw [if_neg hcount] at hvalid
  refine ⟨hread, ?_, ?_⟩
  · rw [hvalid]
    simp
  · exact post_requestStatus hvalid []

end RaceFrame
