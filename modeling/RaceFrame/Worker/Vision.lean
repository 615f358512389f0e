import Mathlib.Data.Char
import Mathlib.Data.List.Dedup
import Mathlib.Data.List.Lex
import Mathlib.Data.List.Sort
import Mathlib.Data.Prod.Lex
import RaceFrame.Worker.Completion

/-!
# Reading a Vision response

`extract_google_ocr_detections` of the worker: the words of a response in their
order, or its text annotations when it has no word, each text once for a place,
sorted from top to bottom. The messages of the provider are typed as their
protocol defines them: coordinates are 32-bit integers and a repeated field has
fewer than 2^31 items.
-/

namespace RaceFrame

open Core

/-- A repeated field of a protocol buffer message. -/
abbrev Repeated (α : Type) := { items : List α // items.length < 2 ^ 31 }

/-- `Vertex`. -/
structure Vertex where
  x : Int
  y : Int
  x_mem : -2 ^ 31 ≤ x ∧ x < 2 ^ 31
  y_mem : -2 ^ 31 ≤ y ∧ y < 2 ^ 31

/-- `Word`; a `BoundingPoly` is the list of its vertices. -/
structure VisionWord (F : Type) where
  symbols : List Text
  boundingBox : List Vertex
  confidence : Option F

/-- `EntityAnnotation`. -/
structure TextAnnotation where
  description : Text
  boundingPoly : List Vertex

/-- `AnnotateImageResponse`: the pages of the full text, each with its blocks, each with its
paragraphs, each with its words, and the text annotations. -/
structure VisionResponse (F : Type) where
  pages : Repeated (Repeated (Repeated (Repeated (VisionWord F))))
  textAnnotations : Repeated TextAnnotation

variable {F : Type}

/-- `re.sub(r"\\s+", " ", value)`. -/
def collapseSpace : Text → Text
  | [] => []
  | [c] => if isSpace c then [' '] else [c]
  | c :: d :: rest =>
    if isSpace c then
      if isSpace d then collapseSpace (d :: rest) else ' ' :: collapseSpace (d :: rest)
    else c :: collapseSpace (d :: rest)

/-- `normalize_detected_text`. -/
def normalizeDetectedText (value : Text) : Text := upper (strip (collapseSpace value))

/-- `min(xs) if xs else 0`. -/
def minOrZero (xs : List Int) : Int := xs.min?.getD 0

/-- `max(xs) if xs else 0`. -/
def maxOrZero (xs : List Int) : Int := xs.max?.getD 0

/-- `bounding_poly_to_json`; no key of the metadata is a key of the payload. -/
def boundingPolyToJson (vertices : List Vertex) (metadata : JsonDict F) : Option (JsonDict F) :=
  if vertices.isEmpty then
    if metadata.isEmpty then none else some metadata
  else
    let xs := vertices.map (·.x)
    let ys := vertices.map (·.y)
    some ([("vertices", .list (vertices.map fun v => .dict [("x", .int v.x), ("y", .int v.y)])),
      ("left", .int (minOrZero xs)), ("top", .int (minOrZero ys)),
      ("right", .int (maxOrZero xs)), ("bottom", .int (maxOrZero ys)),
      ("width", .int (maxOrZero xs - minOrZero xs)),
      ("height", .int (maxOrZero ys - minOrZero ys))] ++ metadata)

/-- `int(value.get(key, 0))` of an object. -/
def Json.intMember (key : String) : Json F → Int
  | .dict entries =>
    match entries.lookup key with
    | some (.int n) => n
    | _ => 0
  | _ => 0

/-- `vertices_key_from_box`. -/
def verticesKeyFromBox (box : Option (JsonDict F)) : List (Int × Int) :=
  match box.bind fun entries => entries.lookup "vertices" with
  | some (.list items) => items.map fun item => (item.intMember "x", item.intMember "y")
  | _ => []

/-- A text of the response before it is read: the same for a word and an annotation. -/
structure RawText (F : Type) where
  text : Text
  vertices : List Vertex
  confidence : Option F
  metadata : JsonDict F

/-- The words of the full text, with their places. -/
def VisionResponse.words (response : VisionResponse F) : List (RawText F) :=
  response.pages.val.zipIdx.flatMap fun page =>
    page.1.val.zipIdx.flatMap fun block =>
      block.1.val.zipIdx.flatMap fun paragraph =>
        paragraph.1.val.zipIdx.map fun word =>
          { text := word.1.symbols.flatten
            vertices := word.1.boundingBox
            confidence := word.1.confidence
            metadata := [("source", .str "word".toList), ("page_index", .int page.2),
              ("block_index", .int block.2), ("paragraph_index", .int paragraph.2),
              ("word_index", .int word.2)] }

/-- The text annotations but the first, which is the whole text. -/
def VisionResponse.annotations (response : VisionResponse F) : List (RawText F) :=
  (response.textAnnotations.val.zipIdx.drop 1).map fun entry =>
    { text := entry.1.description
      vertices := entry.1.boundingPoly
      confidence := none
      metadata := [("source", .str "text_annotation".toList),
        ("annotation_index", .int entry.2)] }

/-- `seen_keys` and `detections`. -/
structure Extraction (F : Type) where
  seenKeys : List (Text × List (Int × Int))
  detections : List (OCRDetectionPayload F)

/-- The body of both loops. -/
def collectText (state : Extraction F) (raw : RawText F) : Extraction F :=
  let detectedText := strip raw.text
  let normalizedText := normalizeDetectedText detectedText
  if normalizedText.isEmpty then state
  else
    let boxJson := boundingPolyToJson raw.vertices raw.metadata
    let dedupeKey := (normalizedText, verticesKeyFromBox boxJson)
    if state.seenKeys.contains dedupeKey then state
    else
      { seenKeys := dedupeKey :: state.seenKeys
        detections :=
          state.detections ++ [⟨detectedText, normalizedText, raw.confidence, boxJson⟩] }

/-- The key of `sort_ocr_detections`. -/
def detectionKey (detection : OCRDetectionPayload F) : ℤ ×ₗ ℤ ×ₗ Text :=
  let box : Json F := .dict (detection.boundingBoxJson.getD [])
  toLex (box.intMember "top", toLex (box.intMember "left", detection.detectedText))

/-- `sort_ocr_detections`. -/
def sortOcrDetections (detections : List (OCRDetectionPayload F)) : List (OCRDetectionPayload F) :=
  detections.insertionSort fun a b => detectionKey a ≤ detectionKey b

/-- `extract_google_ocr_detections`. -/
def extractGoogleOcrDetections (response : VisionResponse F) : List (OCRDetectionPayload F) :=
  let state := response.words.foldl collectText ⟨[], []⟩
  if !state.detections.isEmpty then sortOcrDetections state.detections
  else sortOcrDetections (response.annotations.foldl collectText state).detections

/-! ## What an extraction holds -/

/-- The key of a text, if it is not blank. -/
def textKey (raw : RawText F) : Option (Text × List (Int × Int)) :=
  let normalizedText := normalizeDetectedText (strip raw.text)
  if normalizedText.isEmpty then none
  else some (normalizedText, raw.vertices.map fun v => (v.x, v.y))

/-- The texts that an extraction reads: the words, or the annotations when every word is blank. -/
def VisionResponse.texts (response : VisionResponse F) : List (RawText F) :=
  if (response.words.filterMap textKey).isEmpty then response.annotations else response.words

/-- The detection that a text makes. -/
def detectionOf (raw : RawText F) : OCRDetectionPayload F :=
  ⟨strip raw.text, normalizeDetectedText (strip raw.text), raw.confidence,
    boundingPolyToJson raw.vertices raw.metadata⟩

/-- The metadata of a word or of an annotation: its place among repeated fields. -/
inductive PlaceMetadata : JsonDict F → Prop
  | word {page block paragraph word : Nat} (hpage : page < 2 ^ 31) (hblock : block < 2 ^ 31)
      (hparagraph : paragraph < 2 ^ 31) (hword : word < 2 ^ 31) :
      PlaceMetadata [("source", .str "word".toList), ("page_index", .int page),
        ("block_index", .int block), ("paragraph_index", .int paragraph), ("word_index", .int word)]
  | textLabel {index : Nat} (hindex : index < 2 ^ 31) :
      PlaceMetadata [("source", .str "text_annotation".toList), ("annotation_index", .int index)]

theorem PlaceMetadata.lookup_vertices {metadata : JsonDict F} (h : PlaceMetadata metadata) :
    metadata.lookup "vertices" = none := by
  cases h <;> rfl

private theorem index_lt {α : Type} (items : Repeated α) {entry : α × Nat}
    (h : entry ∈ items.val.zipIdx) : entry.2 < 2 ^ 31 := by
  have hlt := List.snd_lt_of_mem_zipIdx h
  have hlength := items.property
  omega

/-- Every word has a place. -/
theorem place_of_mem_words {response : VisionResponse F} {raw : RawText F}
    (h : raw ∈ response.words) : PlaceMetadata raw.metadata := by
  rw [VisionResponse.words, List.mem_flatMap] at h
  obtain ⟨page, hpage, h⟩ := h
  obtain ⟨block, hblock, h⟩ := List.mem_flatMap.mp h
  obtain ⟨paragraph, hparagraph, h⟩ := List.mem_flatMap.mp h
  obtain ⟨word, hword, rfl⟩ := List.mem_map.mp h
  exact .word (index_lt _ hpage) (index_lt _ hblock) (index_lt _ hparagraph) (index_lt _ hword)

/-- Every annotation has a place. -/
theorem place_of_mem_annotations {response : VisionResponse F} {raw : RawText F}
    (h : raw ∈ response.annotations) : PlaceMetadata raw.metadata := by
  rw [VisionResponse.annotations] at h
  obtain ⟨entry, hentry, rfl⟩ := List.mem_map.mp h
  exact .textLabel (index_lt _ (List.mem_of_mem_drop hentry))

/-- Every text that an extraction reads has a place. -/
theorem place_of_mem_texts {response : VisionResponse F} {raw : RawText F}
    (h : raw ∈ response.texts) : PlaceMetadata raw.metadata := by
  rw [VisionResponse.texts] at h
  split at h
  · exact place_of_mem_annotations h
  · exact place_of_mem_words h

/-- The key of a polygon is the list of its vertices. -/
theorem verticesKeyFromBox_boundingPolyToJson (vertices : List Vertex) {metadata : JsonDict F}
    (h : metadata.lookup "vertices" = none) :
    verticesKeyFromBox (boundingPolyToJson vertices metadata) =
      vertices.map fun v => (v.x, v.y) := by
  have hitem : ∀ v : Vertex, ((Json.dict [("x", .int v.x), ("y", .int v.y)] : Json F).intMember "x",
      (Json.dict [("x", .int v.x), ("y", .int v.y)] : Json F).intMember "y") = (v.x, v.y) :=
    fun _ => rfl
  cases vertices with
  | nil =>
    have hnone : (boundingPolyToJson [] metadata).bind (fun entries => entries.lookup "vertices") =
        none := by
      rw [boundingPolyToJson, if_pos (by rfl)]
      split
      · rfl
      · exact h
    rw [verticesKeyFromBox, hnone]
    rfl
  | cons vertex vertices =>
    rw [boundingPolyToJson, if_neg (by simp)]
    change (List.map _ _).map _ = _
    rw [List.map_map]
    exact List.map_congr_left fun v _ => hitem v

/-- The extraction after some texts: each key once, with a detection for it. -/
structure ExtractedFrom (raws : List (RawText F)) (state : Extraction F) : Prop where
  nodup : state.seenKeys.Nodup
  mem : ∀ key, key ∈ state.seenKeys ↔ key ∈ raws.filterMap textKey
  length : state.detections.length = state.seenKeys.length
  read : ∀ detection ∈ state.detections, ∃ raw ∈ raws, (textKey raw).isSome ∧
    detection = detectionOf raw

namespace ExtractedFrom

theorem nil : ExtractedFrom ([] : List (RawText F)) ⟨[], []⟩ where
  nodup := List.nodup_nil
  mem _ := Iff.rfl
  length := rfl
  read _ h := absurd h List.not_mem_nil

/-- A turn of the loop reads one more text. -/
theorem collect {raws : List (RawText F)} {state : Extraction F} (h : ExtractedFrom raws state)
    {raw : RawText F} (hmetadata : raw.metadata.lookup "vertices" = none) :
    ExtractedFrom (raws ++ [raw]) (collectText state raw) := by
  have hold : ∀ detection ∈ state.detections, ∃ other ∈ raws ++ [raw], (textKey other).isSome ∧
      detection = detectionOf other := by
    intro detection hdetection
    obtain ⟨other, hother, hread⟩ := h.read detection hdetection
    exact ⟨other, List.mem_append_left _ hother, hread⟩
  cases hkey : textKey raw with
  | none =>
    have hblank : (normalizeDetectedText (strip raw.text)).isEmpty = true := by
      by_contra hnot
      rw [textKey, if_neg hnot] at hkey
      cases hkey
    have hsame : collectText state raw = state := by
      rw [collectText, if_pos hblank]
    rw [hsame]
    refine ⟨h.nodup, fun key => ?_, h.length, hold⟩
    rw [h.mem, List.filterMap_append, List.filterMap_cons_none hkey, List.filterMap_nil,
      List.append_nil]
  | some key =>
    have hfull : ¬(normalizeDetectedText (strip raw.text)).isEmpty = true := by
      intro hblank
      rw [textKey, if_pos hblank] at hkey
      cases hkey
    have hdedupe : (normalizeDetectedText (strip raw.text),
        verticesKeyFromBox (boundingPolyToJson raw.vertices raw.metadata)) = key := by
      rw [textKey, if_neg hfull] at hkey
      rw [verticesKeyFromBox_boundingPolyToJson _ hmetadata]
      exact Option.some.inj hkey
    have hall : ∀ other, other ∈ (raws ++ [raw]).filterMap textKey ↔
        other ∈ raws.filterMap textKey ∨ other = key := by
      intro other
      rw [List.filterMap_append, List.filterMap_cons_some hkey, List.filterMap_nil, List.mem_append,
        List.mem_singleton]
    by_cases hseen : key ∈ state.seenKeys
    · have hsame : collectText state raw = state := by
        rw [collectText, if_neg hfull, if_pos]
        rw [hdedupe, List.contains_iff_mem]
        exact hseen
      rw [hsame]
      refine ⟨h.nodup, fun other => ?_, h.length, hold⟩
      rw [hall, ← h.mem]
      exact ⟨Or.inl, fun hother => hother.elim id fun hsame => hsame ▸ hseen⟩
    · have hnew : collectText state raw =
          ⟨key :: state.seenKeys, state.detections ++ [detectionOf raw]⟩ := by
        rw [collectText, if_neg hfull, if_neg, hdedupe]
        · rfl
        · rw [hdedupe, List.contains_iff_mem]
          exact hseen
      rw [hnew]
      refine ⟨List.nodup_cons.mpr ⟨hseen, h.nodup⟩, fun other => ?_, ?_, ?_⟩
      · rw [hall, List.mem_cons, h.mem, or_comm]
      · rw [List.length_append, List.length_cons, h.length]
        rfl
      · intro detection hdetection
        rcases List.mem_append.mp hdetection with hdetection | hdetection
        · exact hold detection hdetection
        · refine ⟨raw, List.mem_append_right _ List.mem_cons_self, ?_,
            List.mem_singleton.mp hdetection⟩
          rw [hkey]
          rfl

/-- A loop reads all its texts. -/
theorem foldl {raws : List (RawText F)} {state : Extraction F} (h : ExtractedFrom raws state)
    {more : List (RawText F)} (hmetadata : ∀ raw ∈ more, raw.metadata.lookup "vertices" = none) :
    ExtractedFrom (raws ++ more) (more.foldl collectText state) := by
  induction more generalizing raws state with
  | nil =>
    rw [List.append_nil]
    exact h
  | cons raw more ih =>
    have hstep := h.collect (hmetadata raw List.mem_cons_self)
    have hrest := ih hstep fun other hother => hmetadata other (List.mem_cons_of_mem _ hother)
    rwa [List.append_assoc, List.singleton_append] at hrest

/-- There are as many detections as distinct keys. -/
theorem length_detections {raws : List (RawText F)} {state : Extraction F}
    (h : ExtractedFrom raws state) :
    state.detections.length = (raws.filterMap textKey).dedup.length := by
  rw [h.length]
  apply List.Perm.length_eq
  rw [List.perm_ext_iff_of_nodup h.nodup (List.nodup_dedup _)]
  intro key
  rw [h.mem, List.mem_dedup]

end ExtractedFrom

/-- A loop over blank texts changes nothing. -/
theorem foldl_collectText_of_blank {raws : List (RawText F)} (h : raws.filterMap textKey = [])
    (state : Extraction F) : raws.foldl collectText state = state := by
  induction raws with
  | nil => rfl
  | cons raw raws ih =>
    have hblank : textKey raw = none := List.filterMap_eq_nil_iff.mp h raw List.mem_cons_self
    rw [List.filterMap_cons_none hblank] at h
    rw [List.foldl_cons, collectText, if_pos, ih h]
    by_contra hnot
    rw [textKey, if_neg hnot] at hblank
    cases hblank

/-- The loops over the texts that the extraction reads. -/
theorem extractedFrom_texts (response : VisionResponse F) :
    ExtractedFrom response.texts (response.texts.foldl collectText ⟨[], []⟩) := by
  have h := (ExtractedFrom.nil (F := F)).foldl fun raw (hraw : raw ∈ response.texts) =>
    (place_of_mem_texts hraw).lookup_vertices
  rwa [List.nil_append] at h

/-- The extraction sorts what the loop over its texts collects. -/
theorem extractGoogleOcrDetections_eq (response : VisionResponse F) :
    extractGoogleOcrDetections response =
      sortOcrDetections (response.texts.foldl collectText ⟨[], []⟩).detections := by
  have htexts := extractedFrom_texts response
  rw [VisionResponse.texts] at htexts ⊢
  rw [extractGoogleOcrDetections]
  split at htexts
  next hblank =>
    rw [List.isEmpty_iff] at hblank
    rw [foldl_collectText_of_blank hblank, if_pos (List.isEmpty_iff.mpr hblank)]
    rfl
  next hwords =>
    have hlength := htexts.length_detections
    rw [if_neg hwords, if_pos]
    rw [Bool.not_eq_true', ← Bool.not_eq_true, List.isEmpty_iff]
    intro hnone
    rw [hnone, List.length_nil, eq_comm, List.length_eq_zero_iff] at hlength
    exact hwords (List.isEmpty_iff.mpr ((List.dedup_eq_nil _).mp hlength))

/-- What the worker extracts: one detection for each distinct key of the texts that it reads. -/
theorem extractGoogleOcrDetections_spec (response : VisionResponse F) :
    (extractGoogleOcrDetections response).length =
        (response.texts.filterMap textKey).dedup.length ∧
      ∀ detection ∈ extractGoogleOcrDetections response, ∃ raw ∈ response.texts,
        (textKey raw).isSome ∧ detection = detectionOf raw := by
  have htexts := extractedFrom_texts response
  rw [extractGoogleOcrDetections_eq, sortOcrDetections, List.length_insertionSort]
  refine ⟨htexts.length_detections, fun detection hdetection => ?_⟩
  exact htexts.read detection ((List.mem_insertionSort _).mp hdetection)

end RaceFrame
