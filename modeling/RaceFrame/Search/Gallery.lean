import Mathlib.Data.Prod.Lex
import RaceFrame.Schema.Rational
import RaceFrame.Search.Results
import RaceFrame.Text.Uuids

/-!
# The photos of a search

`list_face_search_photo_items` merges the photos that a session has face results
for with the photos that the bib of its participant was read on, and lists those
that the evidence accepts. Each of the two lists and the merged one is cut off at
`max_search_results`, before anything is accepted.
-/

namespace RaceFrame

open Core

/-- The settings with the threshold that only the gallery uses. -/
structure GallerySettings (F : Type) extends Settings F where
  faceMediumSimilarityThreshold : F

/-- The database with the columns that only the gallery uses. -/
structure GalleryDatabase (F : Type) extends Database F where
  /-- `PhotoParticipantMatch.created_at`, by the key of the row. -/
  matchCreatedAt : Uuid × Uuid → Instant
  /-- `FaceSearchResult.created_at`, by the key of the row. -/
  resultCreatedAt : Uuid × Uuid → Instant

/-- `UserSearchPhotoItem`, without its labels and the address of its preview. -/
structure UserSearchPhotoItem where
  photo : Photo
  matchedParticipants : List Participant
  directMatchValues : List Text
  deriving DecidableEq

/-- The strengths of `classify_face_score`. -/
inductive FaceStrength
  | none | weak | medium | strong
  deriving DecidableEq, Repr

variable {F : Type} [Scalar F]

/-- `classify_face_score`. -/
def classifyFaceScore (cfg : GallerySettings F) : Option F → FaceStrength
  | .none => .none
  | some score =>
    if cfg.faceStrongSimilarityThreshold ≤ score then .strong
    else if cfg.faceMediumSimilarityThreshold ≤ score then .medium
    else if cfg.faceCandidateSimilarityThreshold ≤ score then .weak
    else .none

/-- `should_accept_hybrid_result`. -/
def shouldAcceptHybridResult (faceStrength : FaceStrength) (bibStrength : BibStrength) : Bool :=
  if faceStrength == .strong || bibStrength == .strong then true
  else faceStrength == .medium && bibStrength == .weak

/-- `list(dict.fromkeys(keys))`. -/
def dictFromKeys {κ : Type} [DecidableEq κ] (keys : List κ) : List κ :=
  keys.foldl (fun seen key => if key ∈ seen then seen else seen ++ [key]) []

/-- The best score that a photo has among the results of a session. -/
def bestScoreOf (results : List (FaceSearchResult F)) (photoId : Uuid) : Option F :=
  ((results.filter fun r => r.photoId == photoId).map (·.similarityScore)).max?

/-- The best score of each photo. -/
def bestScores (results : List (FaceSearchResult F)) : List (Uuid × F) :=
  (dictFromKeys (results.map (·.photoId))).filterMap fun photoId =>
    (bestScoreOf results photoId).map fun score => (photoId, score)

namespace GalleryDatabase

/-- The face results of a session in its event. -/
def sessionResults (db : GalleryDatabase F) (searchSession : FaceSearchSession) :
    List (FaceSearchResult F) :=
  db.faceSearchResults.rows.filter fun r =>
    r.searchSessionId == searchSession.id && r.eventId == searchSession.eventId

/-- `score_rows`: the photos with the best scores. -/
def scoreRows (db : GalleryDatabase F) (cfg : GallerySettings F)
    (searchSession : FaceSearchSession) :
    List (Uuid × F) :=
  ((bestScores (db.sessionResults searchSession)).insertionSort fun a b => b.2 ≤ a.2).take
    cfg.maxSearchResults

/-- The matches of a participant that rest on the bib. -/
def ocrMatches (db : GalleryDatabase F) (searchSession : FaceSearchSession)
    (participant : Participant) : List (PhotoParticipantMatch F) :=
  db.photoParticipantMatches.rows.filter fun m =>
    m.eventId == searchSession.eventId && m.participantId == participant.id &&
      (m.matchSource == .ocr || m.matchSource == .ocrFace)

/-- `ocr_photo_ids`: the photos of the newest matches. -/
def ocrPhotoIds (db : GalleryDatabase F) (cfg : GallerySettings F)
    (searchSession : FaceSearchSession) (participant : Participant) : List Uuid :=
  (((db.ocrMatches searchSession participant).insertionSort fun a b =>
    db.matchCreatedAt b.key ≤ db.matchCreatedAt a.key).take cfg.maxSearchResults).map (·.photoId)

/-- `candidate_photo_ids`. -/
def candidatePhotoIds (db : GalleryDatabase F) (cfg : GallerySettings F)
    (searchSession : FaceSearchSession) (participant : Participant) : List Uuid :=
  (dictFromKeys ((db.scoreRows cfg searchSession).map Prod.fst ++
    db.ocrPhotoIds cfg searchSession participant)).take cfg.maxSearchResults

/-- `photo.detections`. -/
def detectionsOf (db : GalleryDatabase F) (photoId : Uuid) : List (PhotoTextDetection F) :=
  db.photoTextDetections.filter fun d => d.photoId == photoId

/-- `is_bib_only_session`: no selfie was uploaded. -/
def isBibOnlySession (db : GalleryDatabase F) (searchSession : FaceSearchSession) : Bool :=
  !db.faceSearchImages.rows.any fun image => image.searchSessionId == searchSession.id

end GalleryDatabase

/-- The item of a candidate photo, if the evidence accepts it. -/
def photoItem (cfg : GallerySettings F) (participant : Participant) (isBibOnlySession : Bool)
    (detections : List (PhotoTextDetection F)) (faceScore : Option F) (photo : Photo) :
    Option UserSearchPhotoItem :=
  let faceStrength := classifyFaceScore cfg faceScore
  if isBibOnlySession then
    let exactBibValues := exactBibMatchValues detections participant.bibNumber
    let bibStrength := if exactBibValues.isEmpty then BibStrength.none else .strong
    if faceStrength != .strong && bibStrength != .strong then none
    else some ⟨photo, [participant], exactBibValues⟩
  else
    let bibEvidence := scoreBibEvidence detections participant.bibNumber
    if !shouldAcceptHybridResult faceStrength bibEvidence.strength then none
    else some ⟨photo, [participant], bibEvidence.matchedValues⟩

/-- The key that the items are sorted by, the greatest first. -/
def itemKey (db : GalleryDatabase F) (cfg : GallerySettings F) (searchSession : FaceSearchSession)
    (participant : Participant) (item : UserSearchPhotoItem) : F ×ₗ ℕ ×ₗ ℕ :=
  let detections := db.detectionsOf item.photo.id
  let exact :=
    if db.isBibOnlySession searchSession then
      !(exactBibMatchValues detections participant.bibNumber).isEmpty
    else (scoreBibEvidence detections participant.bibNumber).strength == .strong
  toLex (((db.scoreRows cfg searchSession).lookup item.photo.id).getD 0,
    toLex (if exact then 1 else 0, item.photo.createdAt))

/-- The items of a session with a participant. -/
def participantPhotoItems (db : GalleryDatabase F) (cfg : GallerySettings F)
    (searchSession : FaceSearchSession) (participant : Participant) : List UserSearchPhotoItem :=
  let candidatePhotoIds := db.candidatePhotoIds cfg searchSession participant
  let photos := (db.photos.rows.filter fun photo =>
    photo.eventId == searchSession.eventId && candidatePhotoIds.contains photo.id).insertionSort
      fun a b => b.createdAt ≤ a.createdAt
  let items := photos.filterMap fun photo =>
    photoItem cfg participant (db.isBibOnlySession searchSession) (db.detectionsOf photo.id)
      ((db.scoreRows cfg searchSession).lookup photo.id) photo
  items.insertionSort fun a b =>
    itemKey db cfg searchSession participant b ≤ itemKey db cfg searchSession participant a

/-- One row of the loop of `list_legacy_face_search_photo_items`. -/
def keepBestByPhoto (db : GalleryDatabase F) (cfg : GallerySettings F) (best : List (Photo × F))
    (result : FaceSearchResult F) : List (Photo × F) :=
  match db.photos.get? result.photoId with
  | none => best
  | some photo =>
    if result.similarityScore < cfg.faceStrongSimilarityThreshold then best
    else
      match best.find? fun entry => entry.1.id == result.photoId with
      | none => best ++ [(photo, result.similarityScore)]
      | some existing =>
        if existing.2 < result.similarityScore then
          best.map fun entry =>
            if entry.1.id == result.photoId then (photo, result.similarityScore) else entry
        else best

/-- `list_legacy_face_search_photo_items`. -/
def listLegacyFaceSearchPhotoItems (db : GalleryDatabase F) (cfg : GallerySettings F)
    (searchSession : FaceSearchSession) : List UserSearchPhotoItem :=
  let resultRows := ((db.sessionResults searchSession).insertionSort fun a b =>
    toLex (b.similarityScore, db.resultCreatedAt b.key) ≤
      toLex (a.similarityScore, db.resultCreatedAt a.key)).take cfg.maxSearchResults
  let bestByPhoto := resultRows.foldl (keepBestByPhoto db cfg) []
  (bestByPhoto.insertionSort fun a b =>
    toLex (b.2, b.1.createdAt) ≤ toLex (a.2, a.1.createdAt)).map fun entry => ⟨entry.1, [], []⟩

/-- `paginate_user_search_photo_items`. -/
def paginateUserSearchPhotoItems (items : List UserSearchPhotoItem) (offset limit : ℤ) :
    List UserSearchPhotoItem :=
  (items.drop (max 0 offset).toNat).take (max 1 (min limit 20)).toNat

/-- `list_face_search_photo_items`. -/
def listFaceSearchPhotoItems (db : GalleryDatabase F) (cfg : GallerySettings F) (eventId : Uuid)
    (faceSessionId : Text) (offset limit : ℤ) :
    Option FaceSearchSession × List UserSearchPhotoItem × Nat :=
  match parseUuid faceSessionId with
  | none => (none, [], 0)
  | some parsedId =>
    match db.faceSearchSessions.rows.find? fun s => s.id == parsedId && s.eventId == eventId with
    | none => (none, [], 0)
    | some searchSession =>
      let items :=
        match searchSession.participantId.bind db.participants.get? with
        | none => listLegacyFaceSearchPhotoItems db cfg searchSession
        | some participant => participantPhotoItems db cfg searchSession participant
      (some searchSession, paginateUserSearchPhotoItems items offset limit, items.length)

/-! ## Dictionaries and limits -/

section Lists

variable {κ : Type} [DecidableEq κ]

private theorem foldl_seen (keys seen : List κ) :
    ∃ rest, keys.foldl (fun seen key => if key ∈ seen then seen else seen ++ [key]) seen =
      seen ++ rest := by
  induction keys generalizing seen with
  | nil => exact ⟨[], (List.append_nil seen).symm⟩
  | cons key keys ih =>
    rw [List.foldl_cons]
    by_cases hkey : key ∈ seen
    · rw [if_pos hkey]
      exact ih seen
    · rw [if_neg hkey]
      obtain ⟨rest, hrest⟩ := ih (seen ++ [key])
      exact ⟨key :: rest, by rw [hrest, List.append_assoc, List.singleton_append]⟩

private theorem mem_foldl_seen (keys seen : List κ) (key : κ) :
    key ∈ keys.foldl (fun seen key => if key ∈ seen then seen else seen ++ [key]) seen ↔
      key ∈ seen ∨ key ∈ keys := by
  induction keys generalizing seen with
  | nil => simp only [List.foldl_nil, List.not_mem_nil, or_false]
  | cons first keys ih =>
    rw [List.foldl_cons, ih, List.mem_cons]
    by_cases hfirst : first ∈ seen
    · rw [if_pos hfirst]
      constructor
      · rintro (hseen | hkeys)
        · exact Or.inl hseen
        · exact Or.inr (Or.inr hkeys)
      · rintro (hseen | rfl | hkeys)
        · exact Or.inl hseen
        · exact Or.inl hfirst
        · exact Or.inr hkeys
    · rw [if_neg hfirst, List.mem_append, List.mem_singleton, or_assoc]

private theorem nodup_foldl_seen (keys : List κ) {seen : List κ} (h : seen.Nodup) :
    (keys.foldl (fun seen key => if key ∈ seen then seen else seen ++ [key]) seen).Nodup := by
  induction keys generalizing seen with
  | nil => exact h
  | cons key keys ih =>
    rw [List.foldl_cons]
    by_cases hkey : key ∈ seen
    · rw [if_pos hkey]
      exact ih h
    · rw [if_neg hkey]
      refine ih (List.nodup_append.mpr ⟨h, List.nodup_singleton key, ?_⟩)
      intro other hother last hlast
      rw [List.mem_singleton.mp hlast]
      exact fun hsame => hkey (hsame ▸ hother)

theorem mem_dictFromKeys {keys : List κ} {key : κ} : key ∈ dictFromKeys keys ↔ key ∈ keys := by
  rw [dictFromKeys, mem_foldl_seen]
  simp only [List.not_mem_nil, false_or]

theorem nodup_dictFromKeys (keys : List κ) : (dictFromKeys keys).Nodup :=
  nodup_foldl_seen keys List.nodup_nil

private theorem foldl_seen_of_nodup {keys seen : List κ} (h : (seen ++ keys).Nodup) :
    keys.foldl (fun seen key => if key ∈ seen then seen else seen ++ [key]) seen =
      seen ++ keys := by
  induction keys generalizing seen with
  | nil => exact (List.append_nil seen).symm
  | cons key keys ih =>
    have hkey : key ∉ seen := fun hmem =>
      (List.nodup_append.mp h).2.2 key hmem key List.mem_cons_self rfl
    rw [List.foldl_cons, if_neg hkey, ih (by rwa [List.append_assoc, List.singleton_append]),
      List.append_assoc, List.singleton_append]

/-- Keys that are distinct already come first, in their order. -/
theorem dictFromKeys_append {keys : List κ} (h : keys.Nodup) (later : List κ) :
    ∃ rest, dictFromKeys (keys ++ later) = keys ++ rest := by
  have hfirst : keys.foldl (fun seen key => if key ∈ seen then seen else seen ++ [key]) [] = keys :=
    foldl_seen_of_nodup h
  rw [dictFromKeys, List.foldl_append, hfirst]
  exact foldl_seen later keys

/-- A sorted list that is cut off keeps entries that are not below the ones it drops. -/
theorem mem_take_or_full {α : Type} {r : α → α → Prop} {entries : List α} (h : entries.Pairwise r)
    {entry : α} (hentry : entry ∈ entries) (limit : Nat) :
    entry ∈ entries.take limit ∨
      ((entries.take limit).length = limit ∧ ∀ kept ∈ entries.take limit, r kept entry) := by
  rw [← List.take_append_drop limit entries] at h hentry
  rcases List.mem_append.mp hentry with htake | hdrop
  · exact Or.inl htake
  · refine Or.inr ⟨?_, fun kept hkept => (List.pairwise_append.mp h).2.2 kept hkept entry hdrop⟩
    have hpos := List.length_pos_of_mem hdrop
    rw [List.length_drop] at hpos
    rw [List.length_take]
    omega

end Lists

/-! ## Best scores -/

theorem bestScoreOf_eq_none {results : List (FaceSearchResult F)} {photoId : Uuid} :
    bestScoreOf results photoId = none ↔ photoId ∉ results.map (·.photoId) := by
  rw [bestScoreOf, List.max?_eq_none_iff, List.map_eq_nil_iff, List.filter_eq_nil_iff, List.mem_map]
  constructor
  · rintro h ⟨r, hr, hid⟩
    exact h r hr (beq_iff_eq.mpr hid)
  · intro h r hr hid
    exact h ⟨r, hr, beq_iff_eq.mp hid⟩

theorem mem_bestScores {results : List (FaceSearchResult F)} {entry : Uuid × F} :
    entry ∈ bestScores results ↔ bestScoreOf results entry.1 = some entry.2 := by
  rw [bestScores, List.mem_filterMap]
  constructor
  · rintro ⟨photoId, -, hentry⟩
    obtain ⟨score, hscore, rfl⟩ := Option.map_eq_some_iff.mp hentry
    exact hscore
  · intro h
    refine ⟨entry.1, ?_, Option.map_eq_some_iff.mpr ⟨entry.2, h, rfl⟩⟩
    rw [mem_dictFromKeys]
    by_contra hnone
    rw [bestScoreOf_eq_none.mpr hnone] at h
    cases h

theorem nodup_bestScores (results : List (FaceSearchResult F)) :
    ((bestScores results).map Prod.fst).Nodup := by
  have hsub : ∀ ids : List Uuid, List.Sublist ((ids.filterMap fun photoId =>
      (bestScoreOf results photoId).map fun score => (photoId, score)).map Prod.fst) ids := by
    intro ids
    induction ids with
    | nil => exact List.Sublist.refl _
    | cons photoId ids ih =>
      cases hscore : bestScoreOf results photoId with
      | none =>
        rw [List.filterMap_cons_none (by rw [hscore, Option.map_none])]
        exact ih.cons _
      | some score =>
        rw [List.filterMap_cons_some (by rw [hscore, Option.map_some])]
        exact ih.cons_cons _
  exact (nodup_dictFromKeys _).sublist (hsub _)

/-! ## Candidates -/

namespace GalleryDatabase

variable (db : GalleryDatabase F) (cfg : GallerySettings F) (searchSession : FaceSearchSession)
  (participant : Participant)

/-- A photo with a face result of the session, or with a match of the participant that rests on the
bib. -/
def IsCandidate (photoId : Uuid) : Prop :=
  photoId ∈ (db.sessionResults searchSession).map (·.photoId) ∨
    photoId ∈ (db.ocrMatches searchSession participant).map (·.photoId)

theorem bestScoreOf_of_mem_scoreRows {row : Uuid × F} (h : row ∈ db.scoreRows cfg searchSession) :
    bestScoreOf (db.sessionResults searchSession) row.1 = some row.2 := by
  have hsorted := List.mem_of_mem_take h
  rw [List.mem_insertionSort] at hsorted
  exact mem_bestScores.mp hsorted

theorem nodup_scoreRows : ((db.scoreRows cfg searchSession).map Prod.fst).Nodup := by
  refine List.Nodup.sublist ((List.take_sublist _ _).map Prod.fst) ?_
  exact ((List.perm_insertionSort _ _).map Prod.fst).nodup_iff.mpr (nodup_bestScores _)

theorem length_scoreRows_le : (db.scoreRows cfg searchSession).length ≤ cfg.maxSearchResults :=
  List.length_take_le _ _

/-- A photo with face results has a row, unless as many rows are at least as good. -/
theorem scored_or_full {photoId : Uuid} {score : F}
    (h : bestScoreOf (db.sessionResults searchSession) photoId = some score) :
    photoId ∈ (db.scoreRows cfg searchSession).map Prod.fst ∨
      ((db.scoreRows cfg searchSession).length = cfg.maxSearchResults ∧
        ∀ row ∈ db.scoreRows cfg searchSession, score ≤ row.2) := by
  have hmem : (photoId, score) ∈ (bestScores (db.sessionResults searchSession)).insertionSort
      fun a b => b.2 ≤ a.2 := by
    rw [List.mem_insertionSort]
    exact mem_bestScores.mpr h
  have : Std.Total fun a b : Uuid × F => b.2 ≤ a.2 := ⟨fun a b => le_total b.2 a.2⟩
  have : IsTrans (Uuid × F) fun a b => b.2 ≤ a.2 := ⟨fun _ _ _ hab hbc => hbc.trans hab⟩
  rcases mem_take_or_full (List.pairwise_insertionSort (fun a b : Uuid × F => b.2 ≤ a.2) _) hmem
    cfg.maxSearchResults with hkept | ⟨hfull, hbetter⟩
  · exact Or.inl (List.mem_map_of_mem hkept)
  · exact Or.inr ⟨hfull, hbetter⟩

/-- The photos with a row come first among the candidates. -/
theorem candidatePhotoIds_eq : ∃ rest, db.candidatePhotoIds cfg searchSession participant =
    (db.scoreRows cfg searchSession).map Prod.fst ++ rest := by
  obtain ⟨rest, hrest⟩ := dictFromKeys_append (db.nodup_scoreRows cfg searchSession)
    (db.ocrPhotoIds cfg searchSession participant)
  refine ⟨rest.take (cfg.maxSearchResults - (db.scoreRows cfg searchSession).length), ?_⟩
  rw [candidatePhotoIds, hrest, List.take_append, List.length_map, List.take_of_length_le]
  rw [List.length_map]
  exact db.length_scoreRows_le cfg searchSession

theorem length_candidatePhotoIds_le :
    (db.candidatePhotoIds cfg searchSession participant).length ≤ cfg.maxSearchResults :=
  List.length_take_le _ _

theorem nodup_candidatePhotoIds : (db.candidatePhotoIds cfg searchSession participant).Nodup :=
  (nodup_dictFromKeys _).sublist (List.take_sublist _ _)

/-- When the rows fill the list, nothing else is a candidate. -/
theorem candidatePhotoIds_of_full
    (h : (db.scoreRows cfg searchSession).length = cfg.maxSearchResults) :
    db.candidatePhotoIds cfg searchSession participant =
      (db.scoreRows cfg searchSession).map Prod.fst := by
  obtain ⟨rest, hrest⟩ := db.candidatePhotoIds_eq cfg searchSession participant
  have hlength := db.length_candidatePhotoIds_le cfg searchSession participant
  rw [hrest, List.length_append, List.length_map, h] at hlength
  have hnone : rest = [] := List.length_eq_zero_iff.mp (by omega)
  rw [hrest, hnone, List.append_nil]

/-- The score that a candidate is judged by is its best one. -/
theorem lookup_scoreRows {photoId : Uuid}
    (h : photoId ∈ db.candidatePhotoIds cfg searchSession participant) :
    (db.scoreRows cfg searchSession).lookup photoId =
      bestScoreOf (db.sessionResults searchSession) photoId := by
  cases hlookup : (db.scoreRows cfg searchSession).lookup photoId with
  | some score =>
    obtain ⟨before, after, hrows, -⟩ := List.lookup_eq_some_iff.mp hlookup
    have hrow : (photoId, score) ∈ db.scoreRows cfg searchSession := by
      rw [hrows]
      exact List.mem_append_right _ List.mem_cons_self
    exact (db.bestScoreOf_of_mem_scoreRows cfg searchSession hrow).symm
  | none =>
    rw [List.lookup_eq_none_iff] at hlookup
    have hnot : photoId ∉ (db.scoreRows cfg searchSession).map Prod.fst := by
      intro hmem
      obtain ⟨row, hrow, rfl⟩ := List.mem_map.mp hmem
      exact absurd rfl (bne_iff_ne.mp (hlookup row hrow))
    cases hbest : bestScoreOf (db.sessionResults searchSession) photoId with
    | none => rfl
    | some score =>
      rcases db.scored_or_full cfg searchSession hbest with hmem | ⟨hfull, -⟩
      · exact absurd hmem hnot
      · rw [db.candidatePhotoIds_of_full cfg searchSession participant hfull] at h
        exact absurd h hnot

theorem isCandidate_of_mem {photoId : Uuid}
    (h : photoId ∈ db.candidatePhotoIds cfg searchSession participant) :
    db.IsCandidate searchSession participant photoId := by
  have hmem := mem_dictFromKeys.mp (List.mem_of_mem_take h)
  rcases List.mem_append.mp hmem with hscored | hocr
  · left
    obtain ⟨row, hrow, rfl⟩ := List.mem_map.mp hscored
    by_contra hnone
    have hbest := db.bestScoreOf_of_mem_scoreRows cfg searchSession hrow
    rw [bestScoreOf_eq_none.mpr hnone] at hbest
    cases hbest
  · right
    obtain ⟨m, hm, rfl⟩ := List.mem_map.mp hocr
    have hsorted := List.mem_of_mem_take hm
    rw [List.mem_insertionSort] at hsorted
    exact List.mem_map_of_mem hsorted

omit [Scalar F] in
/-- No two matches of a participant are of the same photo. -/
theorem nodup_ocrPhotoIds : (db.ocrPhotoIds cfg searchSession participant).Nodup := by
  have hrows := List.Nodup.of_map _ db.photoParticipantMatches.nodup
  have hmatches : ((db.ocrMatches searchSession participant).map (·.photoId)).Nodup := by
    refine List.Nodup.map_on ?_ (hrows.sublist List.filter_sublist)
    intro m hm m' hm' hphoto
    have hkeys : ∀ m ∈ db.ocrMatches searchSession participant,
        m ∈ db.photoParticipantMatches.rows ∧ m.participantId = participant.id := by
      intro m hm
      obtain ⟨hrow, hcond⟩ := List.mem_filter.mp hm
      simp only [Bool.and_eq_true, beq_iff_eq] at hcond
      exact ⟨hrow, hcond.1.2⟩
    refine Table.eq_of_key_eq (hkeys m hm).1 (hkeys m' hm').1 (Prod.ext hphoto ?_)
    exact (hkeys m hm).2.trans (hkeys m' hm').2.symm
  refine List.Nodup.sublist ((List.take_sublist _ _).map _) ?_
  exact ((List.perm_insertionSort _ _).map _).nodup_iff.mpr hmatches

/-- A photo with a face result or a match is a candidate, unless the list is full. -/
theorem candidate_or_full {photoId : Uuid} (h : db.IsCandidate searchSession participant photoId) :
    photoId ∈ db.candidatePhotoIds cfg searchSession participant ∨
      (db.candidatePhotoIds cfg searchSession participant).length = cfg.maxSearchResults := by
  obtain ⟨rest, hrest⟩ := db.candidatePhotoIds_eq cfg searchSession participant
  rcases h with hscored | hocr
  · cases hbest : bestScoreOf (db.sessionResults searchSession) photoId with
    | none => exact absurd hscored (bestScoreOf_eq_none.mp hbest)
    | some score =>
      rcases db.scored_or_full cfg searchSession hbest with hmem | ⟨hfull, -⟩
      · left
        rw [hrest]
        exact List.mem_append_left _ hmem
      · right
        rw [db.candidatePhotoIds_of_full cfg searchSession participant hfull, List.length_map,
          hfull]
  · obtain ⟨m, hm, rfl⟩ := List.mem_map.mp hocr
    by_cases hocrId : m.photoId ∈ db.ocrPhotoIds cfg searchSession participant
    · have hall : m.photoId ∈ dictFromKeys ((db.scoreRows cfg searchSession).map Prod.fst ++
          db.ocrPhotoIds cfg searchSession participant) :=
        mem_dictFromKeys.mpr (List.mem_append_right _ hocrId)
      rcases mem_take_or_full (r := fun _ _ => True) (List.pairwise_of_forall fun _ _ => trivial)
        hall cfg.maxSearchResults with hkept | ⟨hfull, -⟩
      · exact Or.inl hkept
      · exact Or.inr hfull
    · right
      have hsorted : m ∈ (db.ocrMatches searchSession participant).insertionSort fun a b =>
          db.matchCreatedAt b.key ≤ db.matchCreatedAt a.key := by
        rw [List.mem_insertionSort]
        exact hm
      rcases mem_take_or_full (r := fun _ _ => True) (List.pairwise_of_forall fun _ _ => trivial)
        hsorted cfg.maxSearchResults with hkept | ⟨hfull, -⟩
      · exact absurd (List.mem_map_of_mem hkept) hocrId
      · have hids : (db.ocrPhotoIds cfg searchSession participant).length =
            cfg.maxSearchResults := by
          rw [ocrPhotoIds, List.length_map, hfull]
        have hsubset : db.ocrPhotoIds cfg searchSession participant ⊆
            dictFromKeys ((db.scoreRows cfg searchSession).map Prod.fst ++
              db.ocrPhotoIds cfg searchSession participant) :=
          fun photoId hmem => mem_dictFromKeys.mpr (List.mem_append_right _ hmem)
        have hlength := (List.subperm_of_subset
          (db.nodup_ocrPhotoIds cfg searchSession participant) hsubset).length_le
        rw [candidatePhotoIds, List.length_take]
        omega

end GalleryDatabase

/-! ## Acceptance -/

/-- The acceptance rule: for a selfie session the hybrid rule, for a bib-only session a strong face
or the exact bib. -/
def acceptsPhoto (cfg : GallerySettings F) (participant : Participant) (isBibOnlySession : Bool)
    (detections : List (PhotoTextDetection F)) (faceScore : Option F) : Bool :=
  if isBibOnlySession then
    classifyFaceScore cfg faceScore == .strong ||
      !(exactBibMatchValues detections participant.bibNumber).isEmpty
  else
    shouldAcceptHybridResult (classifyFaceScore cfg faceScore)
      (scoreBibEvidence detections participant.bibNumber).strength

/-- The values that an item shows. -/
def bibValues (participant : Participant) (isBibOnlySession : Bool)
    (detections : List (PhotoTextDetection F)) : List Text :=
  if isBibOnlySession then exactBibMatchValues detections participant.bibNumber
  else (scoreBibEvidence detections participant.bibNumber).matchedValues

/-- A candidate becomes an item when the rule accepts it. -/
theorem photoItem_eq (cfg : GallerySettings F) (participant : Participant) (bibOnly : Bool)
    (detections : List (PhotoTextDetection F)) (faceScore : Option F) (photo : Photo) :
    photoItem cfg participant bibOnly detections faceScore photo =
      if acceptsPhoto cfg participant bibOnly detections faceScore then
        some ⟨photo, [participant], bibValues participant bibOnly detections⟩
      else none := by
  cases bibOnly with
  | true =>
    simp only [photoItem, acceptsPhoto, bibValues, if_true]
    cases (exactBibMatchValues detections participant.bibNumber).isEmpty <;>
      cases classifyFaceScore cfg faceScore <;> rfl
  | false =>
    simp only [photoItem, acceptsPhoto, bibValues, Bool.false_eq_true, if_false]
    cases shouldAcceptHybridResult (classifyFaceScore cfg faceScore)
      (scoreBibEvidence detections participant.bibNumber).strength <;> rfl

theorem photo_of_photoItem {cfg : GallerySettings F} {participant : Participant} {bibOnly : Bool}
    {detections : List (PhotoTextDetection F)} {faceScore : Option F} {photo : Photo}
    {item : UserSearchPhotoItem}
    (h : photoItem cfg participant bibOnly detections faceScore photo = some item) :
    item.photo = photo := by
  rw [photoItem_eq] at h
  split at h
  · exact congrArg UserSearchPhotoItem.photo (Option.some.inj h).symm
  · cases h

theorem isSome_photoItem (cfg : GallerySettings F) (participant : Participant) (bibOnly : Bool)
    (detections : List (PhotoTextDetection F)) (faceScore : Option F) (photo : Photo) :
    (photoItem cfg participant bibOnly detections faceScore photo).isSome =
      acceptsPhoto cfg participant bibOnly detections faceScore := by
  rw [photoItem_eq]
  cases acceptsPhoto cfg participant bibOnly detections faceScore <;> rfl

/-- A strong face is accepted whatever the texts say. -/
theorem acceptsPhoto_of_strong {cfg : GallerySettings F} {faceScore : Option F}
    (h : classifyFaceScore cfg faceScore = .strong) (participant : Participant) (bibOnly : Bool)
    (detections : List (PhotoTextDetection F)) :
    acceptsPhoto cfg participant bibOnly detections faceScore = true := by
  cases bibOnly <;> simp [acceptsPhoto, shouldAcceptHybridResult, h]

/-- What scores at least as well as a strong face is strong. -/
theorem classifyFaceScore_mono {cfg : GallerySettings F} {score score' : F}
    (h : classifyFaceScore cfg (some score) = .strong) (hle : score ≤ score') :
    classifyFaceScore cfg (some score') = .strong := by
  have hstrong : cfg.faceStrongSimilarityThreshold ≤ score := by
    by_contra hnot
    rw [classifyFaceScore, if_neg hnot] at h
    split at h
    · cases h
    · split at h <;> cases h
  rw [classifyFaceScore, if_pos (hstrong.trans hle)]

/-! ## The items -/

section Items

variable (db : GalleryDatabase F) (cfg : GallerySettings F) (searchSession : FaceSearchSession)
  (participant : Participant)

/-- The acceptance rule for a stored photo, on its best score and its texts. -/
def GalleryDatabase.Accepts (photo : Photo) : Prop :=
  acceptsPhoto cfg participant (db.isBibOnlySession searchSession) (db.detectionsOf photo.id)
    (bestScoreOf (db.sessionResults searchSession) photo.id) = true

/-- The photos listed are the candidates of the event that the rule accepts. -/
theorem mem_participantPhotoItems {photo : Photo} :
    photo ∈ (participantPhotoItems db cfg searchSession participant).map (·.photo) ↔
      photo ∈ db.photos.rows ∧ photo.eventId = searchSession.eventId ∧
        photo.id ∈ db.candidatePhotoIds cfg searchSession participant ∧
        db.Accepts cfg searchSession participant photo := by
  simp only [participantPhotoItems, List.mem_map, List.mem_insertionSort, List.mem_filterMap,
    List.mem_filter, Bool.and_eq_true, beq_iff_eq, List.contains_iff_mem]
  constructor
  · rintro ⟨item, ⟨other, ⟨hrow, hevent, hcandidate⟩, hitem⟩, rfl⟩
    rw [photo_of_photoItem hitem]
    refine ⟨hrow, hevent, hcandidate, ?_⟩
    have hsome := isSome_photoItem cfg participant (db.isBibOnlySession searchSession)
      (db.detectionsOf other.id) ((db.scoreRows cfg searchSession).lookup other.id) other
    rw [hitem, db.lookup_scoreRows cfg searchSession participant hcandidate] at hsome
    exact hsome.symm
  · rintro ⟨hrow, hevent, hcandidate, haccept⟩
    have hsome := isSome_photoItem cfg participant (db.isBibOnlySession searchSession)
      (db.detectionsOf photo.id) ((db.scoreRows cfg searchSession).lookup photo.id) photo
    rw [db.lookup_scoreRows cfg searchSession participant hcandidate] at hsome
    obtain ⟨item, hitem⟩ := Option.isSome_iff_exists.mp (hsome.trans haccept)
    refine ⟨item, ⟨photo, ⟨hrow, hevent, hcandidate⟩, ?_⟩, photo_of_photoItem hitem⟩
    rw [db.lookup_scoreRows cfg searchSession participant hcandidate]
    exact hitem

private theorem map_photo_filterMap (f : Photo → Option UserSearchPhotoItem)
    (hf : ∀ photo item, f photo = some item → item.photo = photo) (photos : List Photo) :
    List.Sublist ((photos.filterMap f).map (·.photo)) photos := by
  induction photos with
  | nil => exact List.Sublist.refl _
  | cons photo photos ih =>
    cases hitem : f photo with
    | none =>
      rw [List.filterMap_cons_none hitem]
      exact ih.cons _
    | some item =>
      rw [List.filterMap_cons_some hitem, List.map_cons, hf photo item hitem]
      exact ih.cons_cons _

/-- No photo is listed twice. -/
theorem nodup_participantPhotoItems :
    ((participantPhotoItems db cfg searchSession participant).map (·.photo.id)).Nodup := by
  have hcompose : (participantPhotoItems db cfg searchSession participant).map (·.photo.id) =
      ((participantPhotoItems db cfg searchSession participant).map (·.photo)).map (·.id) := by
    rw [List.map_map]
    rfl
  rw [hcompose, participantPhotoItems]
  refine (((List.perm_insertionSort _ _).map _).map _).nodup_iff.mpr ?_
  refine List.Nodup.sublist ((map_photo_filterMap _ (fun _ _ => photo_of_photoItem) _).map _) ?_
  refine ((List.perm_insertionSort _ _).map _).nodup_iff.mpr ?_
  exact db.photos.nodup.sublist (List.filter_sublist.map _)

theorem length_participantPhotoItems_le :
    (participantPhotoItems db cfg searchSession participant).length ≤ cfg.maxSearchResults := by
  have hsubset : (participantPhotoItems db cfg searchSession participant).map (·.photo.id) ⊆
      db.candidatePhotoIds cfg searchSession participant := by
    intro photoId hmem
    obtain ⟨item, hitem, rfl⟩ := List.mem_map.mp hmem
    exact ((mem_participantPhotoItems db cfg searchSession participant).mp
      (List.mem_map_of_mem hitem)).2.2.1
  have hlength := (List.subperm_of_subset
    (nodup_participantPhotoItems db cfg searchSession participant) hsubset).length_le
  rw [List.length_map] at hlength
  exact hlength.trans (db.length_candidatePhotoIds_le cfg searchSession participant)

/-- A strong face is left out only when the list is full of strong faces. -/
theorem strong_listed_or_full {photo : Photo} (hrow : photo ∈ db.photos.rows)
    (hevent : photo.eventId = searchSession.eventId)
    (hstored : ∀ r ∈ db.sessionResults searchSession, ∃ other ∈ db.photos.rows,
      other.id = r.photoId ∧ other.eventId = searchSession.eventId)
    (hstrong : classifyFaceScore cfg
      (bestScoreOf (db.sessionResults searchSession) photo.id) = .strong) :
    photo ∈ (participantPhotoItems db cfg searchSession participant).map (·.photo) ∨
      (participantPhotoItems db cfg searchSession participant).length = cfg.maxSearchResults := by
  cases hbest : bestScoreOf (db.sessionResults searchSession) photo.id with
  | none =>
    rw [hbest] at hstrong
    cases hstrong
  | some score =>
    rcases db.scored_or_full cfg searchSession hbest with hmem | ⟨hfull, hbetter⟩
    · left
      obtain ⟨rest, hrest⟩ := db.candidatePhotoIds_eq cfg searchSession participant
      rw [mem_participantPhotoItems]
      refine ⟨hrow, hevent, ?_, acceptsPhoto_of_strong hstrong _ _ _⟩
      rw [hrest]
      exact List.mem_append_left _ hmem
    · right
      refine le_antisymm (length_participantPhotoItems_le db cfg searchSession participant) ?_
      have hsubset : (db.scoreRows cfg searchSession).map Prod.fst ⊆
          (participantPhotoItems db cfg searchSession participant).map (·.photo.id) := by
        intro photoId hmem
        obtain ⟨row, hrow', rfl⟩ := List.mem_map.mp hmem
        have hscore := db.bestScoreOf_of_mem_scoreRows cfg searchSession hrow'
        have hresult : row.1 ∈ (db.sessionResults searchSession).map (·.photoId) := by
          by_contra hnone
          rw [bestScoreOf_eq_none.mpr hnone] at hscore
          cases hscore
        obtain ⟨r, hr, hid⟩ := List.mem_map.mp hresult
        obtain ⟨other, hother, hotherId, hotherEvent⟩ := hstored r hr
        have hsame : other.id = row.1 := hotherId.trans hid
        have hlisted : other ∈
            (participantPhotoItems db cfg searchSession participant).map (·.photo) := by
          rw [mem_participantPhotoItems]
          refine ⟨hother, hotherEvent, ?_, acceptsPhoto_of_strong ?_ _ _ _⟩
          · rw [db.candidatePhotoIds_of_full cfg searchSession participant hfull, hsame]
            exact hmem
          · rw [hsame, hscore]
            rw [hbest] at hstrong
            exact classifyFaceScore_mono hstrong (hbetter row hrow')
        obtain ⟨item, hitem, hphoto⟩ := List.mem_map.mp hlisted
        refine List.mem_map.mpr ⟨item, hitem, ?_⟩
        rw [hphoto, hsame]
      have hlength := (List.subperm_of_subset
        (db.nodup_scoreRows cfg searchSession) hsubset).length_le
      rw [List.length_map, List.length_map, hfull] at hlength
      exact hlength

end Items

/-- An accepted photo is left out only when as many other photos as may be listed fill the list of
candidates; a strong face only when as many accepted photos are listed. -/
theorem listFaceSearchPhotoItems_omits_when_full {db : GalleryDatabase F} {cfg : GallerySettings F}
    {eventId : Uuid} {faceSessionId : Text} {offset limit : ℤ} {searchSession : FaceSearchSession}
    {participant : Participant} {page : List UserSearchPhotoItem} {total : Nat}
    (hlist : listFaceSearchPhotoItems db cfg eventId faceSessionId offset limit =
      (some searchSession, page, total))
    (hparticipant : searchSession.participantId.bind db.participants.get? = some participant)
    (hstored : ∀ r ∈ db.sessionResults searchSession, ∃ photo ∈ db.photos.rows,
      photo.id = r.photoId ∧ photo.eventId = searchSession.eventId) :
    ∃ items, page = paginateUserSearchPhotoItems items offset limit ∧ total = items.length ∧
      items.length ≤ cfg.maxSearchResults ∧ (items.map (·.photo.id)).Nodup ∧
      (∀ item ∈ items, item.photo ∈ db.photos.rows ∧
        item.photo.eventId = searchSession.eventId ∧
        db.IsCandidate searchSession participant item.photo.id ∧
        db.Accepts cfg searchSession participant item.photo) ∧
      ∀ photo ∈ db.photos.rows, photo.eventId = searchSession.eventId →
        db.IsCandidate searchSession participant photo.id →
        db.Accepts cfg searchSession participant photo → photo ∉ items.map (·.photo) →
        ((db.candidatePhotoIds cfg searchSession participant).Nodup ∧
          (db.candidatePhotoIds cfg searchSession participant).length = cfg.maxSearchResults ∧
          photo.id ∉ db.candidatePhotoIds cfg searchSession participant ∧
          ∀ id ∈ db.candidatePhotoIds cfg searchSession participant,
            db.IsCandidate searchSession participant id) ∧
        (classifyFaceScore cfg (bestScoreOf (db.sessionResults searchSession) photo.id) = .strong →
          items.length = cfg.maxSearchResults) := by
  have hitems : page = paginateUserSearchPhotoItems
      (participantPhotoItems db cfg searchSession participant) offset limit ∧
      total = (participantPhotoItems db cfg searchSession participant).length := by
    unfold listFaceSearchPhotoItems at hlist
    split at hlist
    · cases hlist
    · split at hlist
      · cases hlist
      · obtain ⟨hsession, hpage⟩ := Prod.mk.inj hlist
        obtain rfl := Option.some.inj hsession
        obtain ⟨hpage, htotal⟩ := Prod.mk.inj hpage
        rw [hparticipant] at hpage htotal
        exact ⟨hpage.symm, htotal.symm⟩
  refine ⟨participantPhotoItems db cfg searchSession participant, hitems.1, hitems.2,
    length_participantPhotoItems_le db cfg searchSession participant,
    nodup_participantPhotoItems db cfg searchSession participant, ?_, ?_⟩
  · intro item hitem
    obtain ⟨hrow, hevent, hmem, haccept⟩ := (mem_participantPhotoItems db cfg searchSession
      participant).mp (List.mem_map_of_mem hitem)
    exact ⟨hrow, hevent, db.isCandidate_of_mem cfg searchSession participant hmem, haccept⟩
  · intro photo hrow hevent hcandidate haccept homitted
    constructor
    · rcases db.candidate_or_full cfg searchSession participant hcandidate with hmem | hfull
      · exact absurd ((mem_participantPhotoItems db cfg searchSession participant).mpr
          ⟨hrow, hevent, hmem, haccept⟩) homitted
      · refine ⟨db.nodup_candidatePhotoIds cfg searchSession participant, hfull, ?_, ?_⟩
        · exact fun hmem => homitted ((mem_participantPhotoItems db cfg searchSession
            participant).mpr ⟨hrow, hevent, hmem, haccept⟩)
        · exact fun id hid => db.isCandidate_of_mem cfg searchSession participant hid
    · intro hstrong
      rcases strong_listed_or_full db cfg searchSession participant hrow hevent hstored hstrong with
        hmem | hfull
      · exact absurd hmem homitted
      · exact hfull

/-! ## A weak face before an exact bib -/

/-- A gallery of one photo. -/
def singlePhotoGallery : GallerySettings ℚ where
  toSettings := { Settings.environment ℚ with maxSearchResults := 1 }
  faceMediumSimilarityThreshold := 42 / 100

/-- A search by the bib 42. -/
def bibSearch : FaceSearchSession := ⟨2, 1, some 3, .completed, none⟩

/-- The runner with the bib 42. -/
def bibRunner : Participant := ⟨3, 1, "42".toList, "Ada".toList, "42".toList, "ada".toList⟩

/-- The photo that shows the bib. -/
def bibPhoto : Photo := ⟨5, 1, "b".toList, "b.jpg".toList, "image/jpeg".toList, .ready, 0⟩

/-- A photo with a weak face and a photo with the bib. -/
def weakFaceAndBib : GalleryDatabase ℚ where
  toDatabase :=
    { Database.empty with
      participants := ⟨[bibRunner], List.nodup_singleton _⟩
      photos := ⟨[⟨4, 1, "a".toList, "a.jpg".toList, "image/jpeg".toList, .ready, 0⟩, bibPhoto],
        by decide⟩
      photoTextDetections := [⟨5, 6, "42".toList, "42".toList, none, none⟩]
      photoParticipantMatches :=
        ⟨[⟨1, 5, 3, .ocr, "42".toList, none⟩], List.nodup_singleton _⟩
      faceSearchSessions := ⟨[bibSearch], List.nodup_singleton _⟩
      faceSearchResults := ⟨[⟨1, 2, 4, 7, 2 / 5⟩], List.nodup_singleton _⟩ }
  matchCreatedAt _ := 0
  resultCreatedAt _ := 0

/-- The identifier of the search as a text. -/
def bibSearchId : Text := List.replicate 31 '0' ++ ['2']

/-- The weak face takes the only place and is rejected; the photo with the exact bib is lost. -/
theorem exact_bib_lost :
    listFaceSearchPhotoItems weakFaceAndBib singlePhotoGallery 1 bibSearchId 0 20 =
        (some bibSearch, [], 0) ∧
      bibPhoto ∈ weakFaceAndBib.photos.rows ∧ bibPhoto.eventId = bibSearch.eventId ∧
      weakFaceAndBib.IsCandidate bibSearch bibRunner bibPhoto.id ∧
      weakFaceAndBib.Accepts singlePhotoGallery bibSearch bibRunner bibPhoto ∧
      0 < singlePhotoGallery.maxSearchResults := by
  refine ⟨by decide +kernel, by decide, rfl, Or.inr (by decide), ?_, by decide⟩
  change acceptsPhoto _ _ _ _ _ = true
  decide +kernel

/-- The photo that is left out was crowded out by the weak face. -/
theorem bib_photo_crowded_out :
    let crowd := weakFaceAndBib.candidatePhotoIds singlePhotoGallery bibSearch bibRunner
    crowd = [4] ∧ crowd.length = 1 ∧ bibPhoto.id ∉ crowd ∧
      ∀ id ∈ crowd, weakFaceAndBib.IsCandidate bibSearch bibRunner id := by
  intro crowd
  have hlist : listFaceSearchPhotoItems weakFaceAndBib singlePhotoGallery 1 bibSearchId 0 20 =
      (some bibSearch, [], 0) := by decide +kernel
  have hstored : ∀ r ∈ weakFaceAndBib.sessionResults bibSearch,
      ∃ photo ∈ weakFaceAndBib.photos.rows,
        photo.id = r.photoId ∧ photo.eventId = bibSearch.eventId := by decide +kernel
  have haccept : weakFaceAndBib.Accepts singlePhotoGallery bibSearch bibRunner bibPhoto := by
    change acceptsPhoto _ _ _ _ _ = true
    decide +kernel
  obtain ⟨items, -, htotal, -, -, -, homits⟩ :=
    listFaceSearchPhotoItems_omits_when_full hlist rfl hstored
  have hnone : items = [] := List.length_eq_zero_iff.mp htotal.symm
  have hfull := (homits bibPhoto (by decide) rfl (Or.inr (by decide)) haccept
    (by rw [hnone]; exact List.not_mem_nil)).1
  exact ⟨by decide +kernel, hfull.2⟩

end RaceFrame
