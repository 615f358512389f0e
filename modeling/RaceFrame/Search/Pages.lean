import RaceFrame.Core.Pages
import RaceFrame.Search.Gallery

/-!
# Result pages

The routes of `main` that show the results of a search in pages of twenty and
that collect all of them for one archive. The page size of the routes is the
limit that `paginate_user_search_photo_items` puts on a page, and the largest
page number reaches the last of `max_search_results` results.
-/

namespace RaceFrame

open Core

/-! ## The routes -/

/-- `SEARCH_RESULTS_PAGE_SIZE`. -/
def searchResultsPageSize : ℤ := 20

/-- `search_results_page_number`, for the number that the query names, if it names one. -/
def searchResultsPageNumber (maxSearchResults : Nat) : Option ℤ → ℤ
  | none => 1
  | some page =>
    let maxPage :=
      max 1 ((maxSearchResults + searchResultsPageSize - 1) / searchResultsPageSize)
    max 1 (min page maxPage)

/-- What `authorized_search_results` returns: the session, the items of the page and the number of
all items. -/
abbrev SearchReply := Option FaceSearchSession × List UserSearchPhotoItem × Nat

/-- The answer of `user_event_results_page`. -/
structure ResultsPage where
  results : List UserSearchPhotoItem
  resultsPage : ℤ
  /-- `X-RaceFrame-Result-Count`. -/
  resultCount : Nat
  /-- `X-RaceFrame-Has-More`. -/
  hasMore : Bool

/-- The exception of a request whose results are gone. -/
def resultsGone : Raised :=
  .httpException 403 "Search results are no longer available. Start a new search."

/-- `user_event_results_page`, over the replies of `authorized_search_results` by offset. -/
def userEventResultsPage (published : Bool) (maxSearchResults : Nat)
    (authorizedSearchResults : ℤ → SearchReply) (query : Option ℤ) : Except Raised ResultsPage :=
  if !published then .error (.httpException 404 "Published event not found.")
  else
    let page := searchResultsPageNumber maxSearchResults query
    match authorizedSearchResults ((page - 1) * searchResultsPageSize) with
    | (none, _, _) => .error resultsGone
    | (some _, results, total) => .ok
      { results := results
        resultsPage := page
        resultCount := results.length
        hasMore := decide (page * searchResultsPageSize < total) }

/-- The loop of `user_download_all_photos`, for a number of turns; no result means that it has not
come to an end. -/
def collectPhotos (authorizedSearchResults : ℤ → SearchReply) :
    Nat → ℤ → Nat → List Photo → Option (Except Raised (List Photo))
  | 0, _, _, _ => none
  | turns + 1, offset, total, photos =>
    if offset < total then
      match authorizedSearchResults offset with
      | (none, _, _) => some (.error resultsGone)
      | (some _, items, total) =>
        if items.isEmpty then some (.ok photos)
        else
          collectPhotos authorizedSearchResults turns (offset + searchResultsPageSize) total
            (photos ++ items.map (·.photo))
    else some (.ok photos)

/-- `user_download_all_photos`, up to the entries of the archive. -/
def userDownloadAllPhotos (published : Bool) (fileSize : Photo → Nat)
    (authorizedSearchResults : ℤ → SearchReply) (turns : Nat) :
    Option (Except Raised (List (Text × Text))) :=
  if !published then some (.error (.httpException 404 "Published event not found."))
  else
    (collectPhotos authorizedSearchResults turns 0 1 []).map fun collected => do
      let photos ← collected
      if photos.isEmpty then
        throw (.httpException 404 "No matched photos are available to download.")
      if 3500000000 < (photos.map fileSize).sum then
        throw (.httpException 413
          "This result set is too large for one archive. Download photos individually.")
      return photos.map fun photo => (photo.originalObjectKey, photo.fileName)

/-! ## A stable list -/

/-- The replies of `authorized_search_results` while the results of the session stay as they
are. -/
def stableResults (searchSession : FaceSearchSession) (items : List UserSearchPhotoItem)
    (offset : ℤ) : SearchReply :=
  (some searchSession, paginateUserSearchPhotoItems items offset searchResultsPageSize,
    items.length)

/-- A page number that `search_results_page_number` leaves as it is. -/
def Unclamped (maxSearchResults : Nat) (page : ℤ) : Prop :=
  searchResultsPageNumber maxSearchResults (some page) = page

/-- The pages show every place of a list on one page, and announce the pages that follow. -/
structure PartitionResults (maxSearchResults : Nat) (items : List UserSearchPhotoItem)
    (pages : ℤ → ResultsPage) : Prop where
  concat : ∃ lastPage : Nat, (∀ p : ℤ, Unclamped maxSearchResults p ↔ 1 ≤ p ∧ p ≤ lastPage) ∧
    ((List.range lastPage).flatMap fun k : Nat => (pages (k + 1)).results) = items
  once : ∀ i < items.length, ∃! p : ℤ, Unclamped maxSearchResults p ∧
    ∃ j : Nat, (p - 1) * searchResultsPageSize + j = i ∧ (pages p).results[j]? = items[i]?
  hasMore : ∀ p : ℤ, Unclamped maxSearchResults p →
    ((pages p).hasMore = true ↔
      ∃ later : ℤ, p < later ∧ Unclamped maxSearchResults later ∧ (pages later).results ≠ [])

theorem unclamped_iff {maxSearchResults : Nat} {p : ℤ} :
    Unclamped maxSearchResults p ↔
      1 ≤ p ∧ p ≤ (max 1 ((maxSearchResults + 19) / 20) : Nat) := by
  rw [Unclamped, searchResultsPageNumber, searchResultsPageSize]
  omega

/-- A page is cut out at its number. -/
theorem paginate_eq_page (items : List UserSearchPhotoItem) (k : Nat) :
    paginateUserSearchPhotoItems items (k * searchResultsPageSize) searchResultsPageSize =
      page 20 items k := by
  have hoffset : (max 0 ((k : ℤ) * 20)).toNat = k * 20 := by omega
  have hlimit : (max 1 (min (20 : ℤ) 20)).toNat = 20 := rfl
  rw [paginateUserSearchPhotoItems, searchResultsPageSize, hoffset, hlimit, page]

/-- What a request for a page shows. -/
def shownPage (maxSearchResults : Nat) (items : List UserSearchPhotoItem) (p : ℤ) : ResultsPage :=
  let number := searchResultsPageNumber maxSearchResults (some p)
  let results := page 20 items (number - 1).toNat
  { results := results
    resultsPage := number
    resultCount := results.length
    hasMore := decide (number * 20 < items.length) }

theorem one_le_searchResultsPageNumber (maxSearchResults : Nat) (query : Option ℤ) :
    1 ≤ searchResultsPageNumber maxSearchResults query := by
  cases query with
  | none => exact le_refl _
  | some p => exact le_max_left _ _

/-- Every request for a page of a stable list is answered. -/
theorem userEventResultsPage_stable (maxSearchResults : Nat) (searchSession : FaceSearchSession)
    (items : List UserSearchPhotoItem) (p : ℤ) :
    userEventResultsPage true maxSearchResults (stableResults searchSession items) (some p) =
      .ok (shownPage maxSearchResults items p) := by
  have hpos := one_le_searchResultsPageNumber maxSearchResults (some p)
  obtain ⟨k, hk⟩ : ∃ k : Nat, searchResultsPageNumber maxSearchResults (some p) - 1 = k :=
    ⟨(searchResultsPageNumber maxSearchResults (some p) - 1).toNat, by omega⟩
  simp only [userEventResultsPage, stableResults, hk, paginate_eq_page, shownPage,
    Int.toNat_natCast, Bool.not_true, Bool.false_eq_true, ite_false]
  rfl

theorem shownPage_of_unclamped {maxSearchResults : Nat} {items : List UserSearchPhotoItem} {k : Nat}
    (h : Unclamped maxSearchResults (k + 1)) :
    (shownPage maxSearchResults items (k + 1)).results = page 20 items k ∧
      (shownPage maxSearchResults items (k + 1)).hasMore =
        decide ((k + 1) * 20 < items.length) := by
  rw [Unclamped] at h
  simp only [shownPage, h, add_sub_cancel_right, Int.toNat_natCast, true_and, decide_eq_decide]
  omega

/-- The pages of the unclamped numbers partition a list within the limit. -/
theorem partitionResults_shownPage {maxSearchResults : Nat} {items : List UserSearchPhotoItem}
    (h : items.length ≤ maxSearchResults) :
    PartitionResults maxSearchResults items (shownPage maxSearchResults items) := by
  have hunclamped : ∀ k : Nat, k < max 1 ((maxSearchResults + 19) / 20) →
      Unclamped maxSearchResults (k + 1) := fun k hk => unclamped_iff.mpr (by omega)
  constructor
  case concat =>
    refine ⟨max 1 ((maxSearchResults + 19) / 20), fun p => unclamped_iff, ?_⟩
    rw [List.flatMap_congr fun k hk =>
      (shownPage_of_unclamped (hunclamped k (List.mem_range.mp hk))).1]
    exact flatMap_page_of_le (by omega)
  case once =>
    intro i hi
    have hpage : (↑(i / 20) : ℤ) + 1 - 1 = (i / 20 : Nat) := add_sub_cancel_right _ _
    refine ⟨(i / 20 : Nat) + 1, ⟨hunclamped _ (by omega), i % 20, ?_, ?_⟩, ?_⟩
    · rw [hpage, searchResultsPageSize]
      omega
    · rw [(shownPage_of_unclamped (hunclamped _ (by omega))).1, getElem?_page (by omega),
        Nat.div_add_mod']
    · rintro p ⟨hp, j, hj, hitem⟩
      obtain ⟨hpos, hlast⟩ := unclamped_iff.mp hp
      obtain ⟨k, rfl⟩ : ∃ k : Nat, p = k + 1 := ⟨(p - 1).toNat, by omega⟩
      rw [(shownPage_of_unclamped hp).1, List.getElem?_eq_getElem hi] at hitem
      have hlength := (List.getElem?_eq_some_iff.mp hitem).1
      have hsize := length_page_le 20 items k
      rw [searchResultsPageSize] at hj
      omega
  case hasMore =>
    intro p hp
    obtain ⟨hpos, hlast⟩ := unclamped_iff.mp hp
    obtain ⟨k, rfl⟩ : ∃ k : Nat, p = k + 1 := ⟨(p - 1).toNat, by omega⟩
    rw [(shownPage_of_unclamped hp).2, decide_eq_true_eq]
    constructor
    · intro hmore
      refine ⟨(k + 1 : Nat) + 1, by omega, hunclamped _ (by omega), ?_⟩
      rw [(shownPage_of_unclamped (hunclamped _ (by omega))).1, page_ne_nil_iff (by decide)]
      exact hmore
    · rintro ⟨later, hlater, hlaterUnclamped, hresults⟩
      obtain ⟨m, rfl⟩ : ∃ m : Nat, later = m + 1 := ⟨(later - 1).toNat, by omega⟩
      rw [(shownPage_of_unclamped hlaterUnclamped).1, page_ne_nil_iff (by decide)] at hresults
      omega

/-- The download collects a stable list, once and in its order. -/
theorem collectPhotos_stable (searchSession : FaceSearchSession)
    (items : List UserSearchPhotoItem) {k turns : Nat} (h : items.length ≤ k * 20 + turns) :
    collectPhotos (stableResults searchSession items) (turns + 1) (k * searchResultsPageSize)
        items.length ((items.take (k * 20)).map (·.photo)) =
      some (.ok (items.map (·.photo))) := by
  induction turns generalizing k with
  | zero =>
    rw [collectPhotos, if_neg (by rw [searchResultsPageSize]; omega),
      List.take_of_length_le (by omega)]
  | succ turns ih =>
    rw [collectPhotos]
    by_cases hmore : k * 20 < items.length
    swap
    · rw [if_neg (by rw [searchResultsPageSize]; omega), List.take_of_length_le (by omega)]
    have hnext : (k : ℤ) * searchResultsPageSize + searchResultsPageSize =
        (k + 1 : Nat) * searchResultsPageSize := by
      rw [Nat.cast_succ, add_mul, one_mul]
    have hpage : page 20 items k ≠ [] := (page_ne_nil_iff (by decide)).mpr hmore
    have htake : items.take ((k + 1) * 20) = items.take (k * 20) ++ page 20 items k := by
      rw [Nat.succ_mul, List.take_add, page]
    rw [if_pos (by rw [searchResultsPageSize]; omega)]
    simp only [stableResults, paginate_eq_page]
    rw [if_neg (by rwa [List.isEmpty_iff]), hnext, ← List.map_append, ← htake]
    exact ih (by omega)

/-- The loop of the download ends with all photos of a stable list. -/
theorem collectPhotos_all (searchSession : FaceSearchSession) (items : List UserSearchPhotoItem)
    {turns : Nat} (h : items.length + 1 ≤ turns) :
    collectPhotos (stableResults searchSession items) turns 0 1 [] =
      some (.ok (items.map (·.photo))) := by
  obtain ⟨turns, rfl⟩ : ∃ n, turns = n + 1 := ⟨turns - 1, by omega⟩
  have hturns : items.length ≤ 0 * 20 + turns := by omega
  have hcollected := collectPhotos_stable searchSession items hturns
  rw [Nat.cast_zero, zero_mul, Nat.zero_mul, List.take_zero, List.map_nil] at hcollected
  cases items with
  | nil => rfl
  | cons item items =>
    rw [collectPhotos, if_pos (by rw [List.length_cons]; omega)] at hcollected
    rw [collectPhotos, if_pos (by decide)]
    exact hcollected

/-- The archive of a stable list has one entry for each photo, in the order of the list. -/
theorem userDownloadAllPhotos_stable (fileSize : Photo → Nat) (searchSession : FaceSearchSession)
    {items : List UserSearchPhotoItem} (hne : items ≠ [])
    (hsize : ((items.map (·.photo)).map fileSize).sum ≤ 3500000000) {turns : Nat}
    (h : items.length + 1 ≤ turns) :
    userDownloadAllPhotos true fileSize (stableResults searchSession items) turns =
      some (.ok (items.map fun item => (item.photo.originalObjectKey, item.photo.fileName))) := by
  have hphotos : (items.map (·.photo)).isEmpty = false := by
    rw [List.isEmpty_eq_false_iff]
    exact fun hnil => hne (List.map_eq_nil_iff.mp hnil)
  simp only [userDownloadAllPhotos, Bool.not_true, Bool.false_eq_true, ite_false,
    collectPhotos_all searchSession items h, Option.map_some, ok_bind, hphotos,
    if_neg (Nat.not_lt.mpr hsize)]
  rw [List.map_map]
  rfl

/-- The pages of a stable list within the limit partition it, and the download collects it. -/
theorem resultPages_partition {maxSearchResults : Nat} (searchSession : FaceSearchSession)
    {items : List UserSearchPhotoItem} (h : items.length ≤ maxSearchResults) :
    (∃ pages : ℤ → ResultsPage,
      (∀ p, userEventResultsPage true maxSearchResults (stableResults searchSession items)
        (some p) = .ok (pages p)) ∧ PartitionResults maxSearchResults items pages) ∧
      ∃ enough, ∀ turns ≥ enough,
        collectPhotos (stableResults searchSession items) turns 0 1 [] =
          some (.ok (items.map (·.photo))) :=
  ⟨⟨shownPage maxSearchResults items,
    userEventResultsPage_stable maxSearchResults searchSession items,
    partitionResults_shownPage h⟩, items.length + 1, fun _ hturns =>
      collectPhotos_all searchSession items hturns⟩

/-- A search with fifty results at most has found forty-five photos: two full pages announce the
next one, the third one shows the last five photos, a request for page nine shows the same, and the
download collects all of them. -/
theorem fortyFivePhotos_paged :
    let items : List UserSearchPhotoItem :=
      (List.range 45).map fun n => ⟨{ bibPhoto with id := n }, [], []⟩
    ∃ (pages : ℤ → ResultsPage) (turns : Nat),
      (∀ p, userEventResultsPage true 50 (stableResults bibSearch items) (some p) =
        .ok (pages p)) ∧
      ([1, 2, 3].map fun p => (pages p).results.map fun item => item.photo.id) =
        [List.range 20, List.range' 20 20, List.range' 40 5] ∧
      ([1, 2, 3].map fun p => (pages p).hasMore) = [true, true, false] ∧
      (∃! p : ℤ, Unclamped 50 p ∧
        ∃ j : Nat, (p - 1) * searchResultsPageSize + j = 27 ∧
          (pages p).results[j]? = items[27]?) ∧
      (pages 9).resultsPage = 3 ∧ (pages 9).resultCount = 5 ∧
      collectPhotos (stableResults bibSearch items) turns 0 1 [] =
        some (.ok (items.map (·.photo))) := by
  intro items
  obtain ⟨⟨pages, hpages, hpartition⟩, enough, henough⟩ :=
    @resultPages_partition 50 bibSearch items (by decide)
  have hshown : ∀ p, pages p = shownPage 50 items p := fun p =>
    Except.ok.inj ((hpages p).symm.trans (userEventResultsPage_stable 50 bibSearch items p))
  refine ⟨pages, enough, hpages, ?_, ?_, hpartition.once 27 (by decide), ?_, ?_,
    henough enough (le_refl _)⟩
  · simp only [hshown]
    decide +kernel
  · simp only [hshown]
    decide +kernel
  · rw [hshown]
    decide
  · rw [hshown]
    decide +kernel

/-! ## The list of a session -/

section Gallery

variable {F : Type} [Scalar F] (db : GalleryDatabase F) (cfg : GallerySettings F)

/-- The items of a session, before they are cut into pages. -/
def sessionPhotoItems (searchSession : FaceSearchSession) : List UserSearchPhotoItem :=
  match searchSession.participantId.bind db.participants.get? with
  | none => listLegacyFaceSearchPhotoItems db cfg searchSession
  | some participant => participantPhotoItems db cfg searchSession participant

private theorem length_keepBestByPhoto_le (best : List (Photo × F)) (result : FaceSearchResult F) :
    (keepBestByPhoto db cfg best result).length ≤ best.length + 1 := by
  rw [keepBestByPhoto]
  split
  · exact Nat.le_succ _
  · split
    · exact Nat.le_succ _
    · split
      · exact (List.length_append).le
      · split
        · rw [List.length_map]
          exact Nat.le_succ _
        · exact Nat.le_succ _

private theorem length_foldl_keepBestByPhoto_le (results : List (FaceSearchResult F))
    (best : List (Photo × F)) :
    (results.foldl (keepBestByPhoto db cfg) best).length ≤ best.length + results.length := by
  induction results generalizing best with
  | nil => exact le_refl _
  | cons result results ih =>
    have hstep := length_keepBestByPhoto_le db cfg best result
    have hrest := ih (keepBestByPhoto db cfg best result)
    rw [List.foldl_cons, List.length_cons]
    omega

/-- The items of a session are within the limit. -/
theorem length_sessionPhotoItems_le (searchSession : FaceSearchSession) :
    (sessionPhotoItems db cfg searchSession).length ≤ cfg.maxSearchResults := by
  rw [sessionPhotoItems]
  split
  · rw [listLegacyFaceSearchPhotoItems, List.length_map, List.length_insertionSort]
    refine (length_foldl_keepBestByPhoto_le db cfg _ _).trans ?_
    rw [List.length_nil, Nat.zero_add, List.length_take]
    exact Nat.min_le_left _ _
  · exact length_participantPhotoItems_le db cfg searchSession _

/-- While the database stays as it is, the listing of a session that is found replies from a stable
list. -/
theorem listFaceSearchPhotoItems_stable {eventId sessionId : Uuid} {faceSessionId : Text}
    {searchSession : FaceSearchSession} (hid : parseUuid faceSessionId = some sessionId)
    (hfound : (db.faceSearchSessions.rows.find? fun s =>
      s.id == sessionId && s.eventId == eventId) = some searchSession) (offset : ℤ) :
    listFaceSearchPhotoItems db cfg eventId faceSessionId offset searchResultsPageSize =
      stableResults searchSession (sessionPhotoItems db cfg searchSession) offset := by
  simp only [listFaceSearchPhotoItems, hid, hfound]
  rfl

/-- The pages of a session partition its items, and the download collects them. -/
theorem galleryPages_partition {eventId sessionId : Uuid} {faceSessionId : Text}
    {searchSession : FaceSearchSession} (hid : parseUuid faceSessionId = some sessionId)
    (hfound : (db.faceSearchSessions.rows.find? fun s =>
      s.id == sessionId && s.eventId == eventId) = some searchSession) :
    let replies := fun offset =>
      listFaceSearchPhotoItems db cfg eventId faceSessionId offset searchResultsPageSize
    let items := sessionPhotoItems db cfg searchSession
    (∀ p, userEventResultsPage true cfg.maxSearchResults replies (some p) =
      .ok (shownPage cfg.maxSearchResults items p)) ∧
      PartitionResults cfg.maxSearchResults items (shownPage cfg.maxSearchResults items) ∧
      collectPhotos replies (items.length + 1) 0 1 [] = some (.ok (items.map (·.photo))) := by
  have hreplies : (fun offset =>
      listFaceSearchPhotoItems db cfg eventId faceSessionId offset searchResultsPageSize) =
        stableResults searchSession (sessionPhotoItems db cfg searchSession) :=
    funext (listFaceSearchPhotoItems_stable db cfg hid hfound)
  simp only [hreplies]
  exact ⟨userEventResultsPage_stable _ _ _,
    partitionResults_shownPage (length_sessionPhotoItems_le db cfg searchSession),
    collectPhotos_all searchSession _ (le_refl _)⟩

end Gallery

end RaceFrame
