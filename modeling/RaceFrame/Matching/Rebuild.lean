import Mathlib.Data.List.Sort
import RaceFrame.Core.Upserts
import RaceFrame.Matching.Upsert
import RaceFrame.Orm.Frame
import RaceFrame.Schema.Rational

/-!
# Rebuilding the matches of an event

`rebuild_event_photo_matches` drops the OCR evidence of an event and commits,
then reads the detections of its photos again, newest photo first, and commits
after every photo that has a match. An exception in between leaves one of the
stages committed.
-/

namespace RaceFrame

open Core

variable {F : Type}

/-- Replace the matches. -/
@[simps] def Database.setPhotoMatches (db : Database F)
    (rows : Table (PhotoParticipantMatch F) PhotoParticipantMatch.key) : Database F :=
  { db with photoParticipantMatches := rows }

/-- A match that has lost its OCR evidence. -/
def PhotoParticipantMatch.facePreserved (row : PhotoParticipantMatch F) : PhotoParticipantMatch F :=
  { row with
    matchSource := .face
    matchedValue := "face-preserved-after-ocr-rebuild".toList }

/-- What the first loop makes of the table for one row. -/
def dropOcrRow (rows : Table (PhotoParticipantMatch F) PhotoParticipantMatch.key)
    (row : PhotoParticipantMatch F) : Table (PhotoParticipantMatch F) PhotoParticipantMatch.key :=
  match row.matchSource with
  | .ocr => rows.deleteWhere fun other => other.key == row.key
  | .ocrFace => rows.put row.facePreserved
  | .face => rows

/-- One turn of the first loop of `rebuild_event_photo_matches`. -/
def dropOcrEvidence (row : PhotoParticipantMatch F) : Request F PUnit :=
  Request.assign fun db => db.setPhotoMatches (dropOcrRow db.photoParticipantMatches row)

/-- The photos of an event, newest first, each with its detections. -/
def Database.photosNewestFirst (db : Database F) (eventId : Uuid) :
    List (Photo × List (PhotoTextDetection F)) :=
  ((db.photos.rows.filter fun photo => photo.eventId == eventId).insertionSort fun a b =>
    b.createdAt ≤ a.createdAt).map fun photo =>
      (photo, db.photoTextDetections.filter fun detection => detection.photoId == photo.id)

/-! ## Rows with OCR evidence -/

/-- The rows of an event that carry OCR evidence. -/
def Database.ocrRows (db : Database F) (eventId : Uuid) : List (PhotoParticipantMatch F) :=
  db.photoParticipantMatches.rows.filter fun row =>
    row.eventId == eventId && row.matchSource != .face

theorem Database.mem_ocrRows {db : Database F} {eventId : Uuid} {row : PhotoParticipantMatch F} :
    row ∈ db.ocrRows eventId ↔ row ∈ db.photoParticipantMatches.rows ∧ row.eventId = eventId ∧
      row.matchSource ≠ .face := by
  simp [Database.ocrRows]

/-- A row that is left was untouched, or has lost its OCR evidence. -/
theorem mem_foldl_dropOcrRow {rows : List (PhotoParticipantMatch F)}
    {table : Table (PhotoParticipantMatch F) PhotoParticipantMatch.key}
    {row : PhotoParticipantMatch F} (h : row ∈ (rows.foldl dropOcrRow table).rows) :
    (row ∈ table.rows ∧ ∀ other ∈ rows, other.key = row.key → other.matchSource = .face) ∨
      row.matchSource = .face := by
  induction rows generalizing table with
  | nil => exact Or.inl ⟨h, fun other hother => absurd hother List.not_mem_nil⟩
  | cons first rows ih =>
    rcases ih h with ⟨hmem, hface⟩ | hface
    · cases hsource : first.matchSource with
      | ocr =>
        rw [dropOcrRow, hsource] at hmem
        obtain ⟨hmem, hkey⟩ := Table.mem_deleteWhere.mp hmem
        refine Or.inl ⟨hmem, fun other hother hsame => ?_⟩
        rcases List.mem_cons.mp hother with rfl | hother
        · rw [hsame, beq_self_eq_true] at hkey
          cases hkey
        · exact hface other hother hsame
      | ocrFace =>
        rw [dropOcrRow, hsource] at hmem
        rcases Table.mem_put.mp hmem with ⟨rfl, -⟩ | ⟨hmem, hkey⟩
        · exact Or.inr rfl
        · refine Or.inl ⟨hmem, fun other hother hsame => ?_⟩
          rcases List.mem_cons.mp hother with rfl | hother
          · exact absurd hsame.symm hkey
          · exact hface other hother hsame
      | face =>
        rw [dropOcrRow, hsource] at hmem
        refine Or.inl ⟨hmem, fun other hother hsame => ?_⟩
        rcases List.mem_cons.mp hother with rfl | hother
        · exact hsource
        · exact hface other hother hsame
    · exact Or.inr hface

theorem nodup_photosNewestFirst (db : Database F) (eventId : Uuid) :
    ((db.photosNewestFirst eventId).map fun entry => entry.1.id).Nodup := by
  rw [Database.photosNewestFirst, List.map_map]
  have hperm := (List.perm_insertionSort (fun a b : Photo => b.createdAt ≤ a.createdAt)
    (db.photos.rows.filter fun photo => photo.eventId == eventId)).map Photo.id
  exact hperm.nodup_iff.mpr (db.photos.nodup.sublist (List.filter_sublist.map _))

/-- The matches without the OCR evidence of an event. -/
def Database.withoutOcr (db : Database F) (eventId : Uuid) : Database F :=
  db.setPhotoMatches
    ((db.photoParticipantMatches.rows.filter fun row => row.eventId == eventId).foldl dropOcrRow
      db.photoParticipantMatches)

/-- After the first commit the event has no OCR evidence. -/
theorem ocrRows_withoutOcr (db : Database F) (eventId : Uuid) :
    (db.withoutOcr eventId).ocrRows eventId = [] := by
  rw [List.eq_nil_iff_forall_not_mem]
  intro row hrow
  obtain ⟨hmem, hevent, hsource⟩ := Database.mem_ocrRows.mp hrow
  rcases mem_foldl_dropOcrRow hmem with ⟨hold, hface⟩ | hface
  · have hlisted : row ∈ db.photoParticipantMatches.rows.filter fun row => row.eventId == eventId :=
      List.mem_filter.mpr ⟨hold, beq_iff_eq.mpr hevent⟩
    exact hsource (hface row hlisted rfl)
  · exact hsource hface

/-! ## Statements in a row -/

theorem visits_bind_ok {σ ε α β : Type} {x : Program σ ε α} {f : α → Program σ ε β}
    {s t : σ} {a : α} (h : x.run s = (.ok a, t)) :
    (x >>= f).visits s = x.visits s ++ (f a).visits t := by
  rw [Program.visits_bind, h]

theorem Request.visits_query_bind {α β : Type} (q : Database F → α) (f : α → Request F β)
    (s : Session F) : (Request.query q >>= f).visits s = s :: (f (q s.flushed)).visits s := rfl

theorem Request.visits_commit_bind {β : Type} (f : Unit → Request F β) (s : Session F) :
    (Request.commit >>= f).visits s = s :: (f ()).visits s.commit := rfl

/-- The first loop changes loaded objects and commits nothing. -/
theorem forM_dropOcrEvidence_spec (rows : List (PhotoParticipantMatch F)) (s : Session F) :
    (∀ u ∈ (rows.forM dropOcrEvidence : Request F PUnit).visits s, u.committed = s.committed) ∧
      (rows.forM dropOcrEvidence : Request F PUnit).run s = (.ok (), s.assign fun db =>
        db.setPhotoMatches (rows.foldl dropOcrRow db.photoParticipantMatches)) := by
  constructor
  · have hkeeps : (rows.forM dropOcrEvidence : Request F PUnit).Preserves Session.committed :=
      Program.Preserves.forM fun row _ => Program.preserves_modify fun _ => rfl
    exact (hkeeps s).1
  · induction rows generalizing s with
    | nil => rfl
    | cons row rows ih =>
      change (dropOcrEvidence row >>= fun _ => rows.forM dropOcrEvidence).run s = _
      rw [dropOcrEvidence, Request.run_assign_bind, ih]
      rfl

variable [Scalar F]

/-- One turn of the second loop, with the number of photos that were read again. -/
def rebuildPhoto (rebuiltCount : Nat) (entry : Photo × List (PhotoTextDetection F)) :
    Request F Nat :=
  if entry.2.isEmpty then return rebuiltCount
  else do
    Photographer.createParticipantMatches entry.1 entry.2
    return rebuiltCount + 1

/-- `rebuild_event_photo_matches`. -/
def rebuildEventPhotoMatches (eventId : Uuid) : Request F Nat := do
  let existingMatches ← Request.query fun db =>
    db.photoParticipantMatches.rows.filter fun row => row.eventId == eventId
  existingMatches.forM dropOcrEvidence
  Request.commit
  let photos ← Request.query fun db => db.photosNewestFirst eventId
  photos.foldlM rebuildPhoto 0

/-! ## The stages -/

/-- The matches after a photo is read again. -/
def Database.matchPhoto (db : Database F) (entry : Photo × List (PhotoTextDetection F)) :
    Database F :=
  db.upsertMatches (ocrMatches Photographer.normalizeMatchToken
    Photographer.extractMatchCandidates entry.1 (db.participantsOf entry.1.eventId) entry.2)

/-- The stage of a rebuild in which some photos are read again. -/
def Database.rebuildStage (db : Database F) (eventId : Uuid)
    (done : List (Photo × List (PhotoTextDetection F))) : Database F :=
  done.foldl Database.matchPhoto (db.withoutOcr eventId)

/-- A session without pending changes. -/
structure Session.Settled (s : Session F) : Prop where
  flushed : s.flushed = s.committed
  current : s.current = s.committed

theorem commitsNothing_recordOcrMatches (normalizeMatchToken : Text → Text)
    (extractMatchCandidates : Text → List Text) (photo : Photo)
    (detections : List (PhotoTextDetection F)) :
    (recordOcrMatches normalizeMatchToken extractMatchCandidates photo detections).Preserves
      Session.committed := by
  apply Program.Preserves.bind (Program.preserves_gets _)
  intro participants
  apply Program.Preserves.bind
  · exact Program.Preserves.forM fun row _ => Program.preserves_modify fun _ => rfl
  · intro _
    exact Program.preserves_pure _

/-- The rebuild of a photo commits its matches last, and leaves nothing pending. -/
theorem createParticipantMatches_spec {s : Session F} (hs : s.Settled) (photo : Photo)
    (detections : List (PhotoTextDetection F)) :
    (∀ u ∈ (Photographer.createParticipantMatches photo detections).visits s,
        u.committed = s.committed) ∧
      ∃ t : Session F,
        (Photographer.createParticipantMatches photo detections).run s = (.ok (), t) ∧
          t.Settled ∧ t.committed = s.committed.matchPhoto (photo, detections) := by
  have hnothing := commitsNothing_recordOcrMatches Photographer.normalizeMatchToken
    Photographer.extractMatchCandidates photo detections s
  have hrun := run_recordOcrMatches Photographer.normalizeMatchToken
    Photographer.extractMatchCandidates photo detections s
  rw [hs.flushed] at hrun
  dsimp only at hrun
  have hmatch : s.committed.matchPhoto (photo, detections) =
      s.committed.upsertMatches (ocrMatches Photographer.normalizeMatchToken
        Photographer.extractMatchCandidates photo (s.committed.participantsOf photo.eventId)
        detections) := rfl
  generalize ocrMatches Photographer.normalizeMatchToken Photographer.extractMatchCandidates photo
    (s.committed.participantsOf photo.eventId) detections = found at hrun hmatch
  rw [Photographer.createParticipantMatches, Program.visits_bind, Program.run_bind_ok hrun, hrun]
  cases found with
  | nil =>
    refine ⟨fun u hu => ?_, s.execute fun db => db.upsertMatches [], rfl, ⟨?_, ?_⟩, ?_⟩
    · rcases List.mem_append.mp hu with hu | hu
      · exact hnothing.1 u hu
      · exact absurd hu List.not_mem_nil
    · exact hs.flushed
    · exact hs.current
    · rw [hmatch]
      rfl
  | cons row rows =>
    refine ⟨fun u hu => ?_, (s.execute fun db => db.upsertMatches (row :: rows)).commit, rfl,
      ⟨rfl, rfl⟩, ?_⟩
    · rcases List.mem_append.mp hu with hu | hu
      · exact hnothing.1 u hu
      · rw [List.mem_singleton.mp hu]
        rfl
    · rw [hmatch, ← hs.current]
      rfl

/-- The second loop commits one photo after the other. -/
theorem foldlM_rebuildPhoto_spec (photos : List (Photo × List (PhotoTextDetection F)))
    (rebuiltCount : Nat) {s : Session F} (hs : s.Settled) :
    (∀ u ∈ (photos.foldlM rebuildPhoto rebuiltCount : Request F Nat).visits s,
        ∃ done, done <+: photos ∧ u.committed = done.foldl Database.matchPhoto s.committed) ∧
      ∃ n t, (photos.foldlM rebuildPhoto rebuiltCount : Request F Nat).run s = (.ok n, t) ∧
        t.Settled ∧ t.committed = photos.foldl Database.matchPhoto s.committed := by
  induction photos generalizing rebuiltCount s with
  | nil => exact ⟨fun u hu => absurd hu List.not_mem_nil, rebuiltCount, s, rfl, hs, rfl⟩
  | cons entry photos ih =>
    obtain ⟨photo, detections⟩ := entry
    cases detections with
    | nil =>
      have hskip : ((photo, []) :: photos).foldlM rebuildPhoto rebuiltCount =
          (photos.foldlM rebuildPhoto rebuiltCount : Request F Nat) := rfl
      rw [hskip]
      obtain ⟨hvisits, n, t, hrun, ht, hcommitted⟩ := ih rebuiltCount hs
      refine ⟨fun u hu => ?_, n, t, hrun, ht, hcommitted⟩
      obtain ⟨done, hdone, hu⟩ := hvisits u hu
      exact ⟨(photo, []) :: done, List.cons_prefix_cons.mpr ⟨rfl, hdone⟩, hu⟩
    | cons detection detections =>
      obtain ⟨hfirst, t, hrun, ht, hcommitted⟩ :=
        createParticipantMatches_spec hs photo (detection :: detections)
      obtain ⟨hvisits, n, t', hrun', ht', hcommitted'⟩ := ih (rebuiltCount + 1) ht
      have hturn : ((photo, detection :: detections) :: photos).foldlM rebuildPhoto rebuiltCount =
          (Photographer.createParticipantMatches photo (detection :: detections) >>= fun _ =>
            photos.foldlM rebuildPhoto (rebuiltCount + 1) : Request F Nat) := by
        rw [List.foldlM_cons, rebuildPhoto, if_neg (by simp), bind_assoc]
        rfl
      rw [hturn, Program.visits_bind, Program.run_bind_ok hrun, hrun]
      refine ⟨fun u hu => ?_, n, t', hrun', ht', ?_⟩
      · rcases List.mem_append.mp hu with hu | hu
        · exact ⟨[], List.nil_prefix, hfirst u hu⟩
        · obtain ⟨done, hdone, hu⟩ := hvisits u hu
          refine ⟨_ :: done, List.cons_prefix_cons.mpr ⟨rfl, hdone⟩, ?_⟩
          rw [hu, hcommitted, List.foldl_cons]
      · rw [hcommitted', hcommitted, List.foldl_cons]

/-- The statements of a rebuild: the first loop, its commit and the second loop, which starts
without OCR evidence. -/
theorem rebuildEventPhotoMatches_statements (eventId : Uuid) {s : Session F} (hs : s.Settled) :
    ∃ (first : List (Session F)) (dropped : Session F),
      (∀ u ∈ first, u.committed = s.committed) ∧ dropped.committed = s.committed ∧
        dropped.commit.Settled ∧ dropped.commit.committed = s.committed.withoutOcr eventId ∧
        (rebuildEventPhotoMatches eventId : Request F Nat).visits s =
          first ++ dropped :: dropped.commit :: ((s.committed.photosNewestFirst eventId).foldlM
            rebuildPhoto 0 : Request F Nat).visits dropped.commit ∧
        (rebuildEventPhotoMatches eventId : Request F Nat).run s =
          ((s.committed.photosNewestFirst eventId).foldlM rebuildPhoto 0 :
            Request F Nat).run dropped.commit := by
  obtain ⟨hdrop, hdropped⟩ := forM_dropOcrEvidence_spec
    (s.flushed.photoParticipantMatches.rows.filter fun row => row.eventId == eventId) s
  have hcommitted : (s.assign fun db => db.setPhotoMatches
      ((s.flushed.photoParticipantMatches.rows.filter fun row => row.eventId == eventId).foldl
        dropOcrRow db.photoParticipantMatches)).commit.committed =
          s.committed.withoutOcr eventId := by
    rw [Session.commit_committed, Session.assign_current, hs.flushed, hs.current]
    rfl
  have hpending : (s.assign fun db => db.setPhotoMatches
      ((s.flushed.photoParticipantMatches.rows.filter fun row => row.eventId == eventId).foldl
        dropOcrRow db.photoParticipantMatches)).committed = s.committed := rfl
  generalize (s.assign fun db => db.setPhotoMatches
    ((s.flushed.photoParticipantMatches.rows.filter fun row => row.eventId == eventId).foldl
      dropOcrRow db.photoParticipantMatches)) = dropped at hdropped hcommitted hpending
  have hsettled : dropped.commit.Settled := ⟨rfl, rfl⟩
  have hphotos : dropped.commit.flushed.photosNewestFirst eventId =
      s.committed.photosNewestFirst eventId := by
    rw [hsettled.flushed, hcommitted]
    rfl
  refine ⟨s :: ((s.flushed.photoParticipantMatches.rows.filter fun row =>
    row.eventId == eventId).forM dropOcrEvidence : Request F PUnit).visits s, dropped, ?_, hpending,
    hsettled, hcommitted, ?_, ?_⟩
  · intro u hu
    rcases List.mem_cons.mp hu with rfl | hu
    · rfl
    · exact hdrop u hu
  · rw [rebuildEventPhotoMatches, Request.visits_query_bind, visits_bind_ok hdropped,
      Request.visits_commit_bind, Request.visits_query_bind, hphotos]
    rfl
  · rw [rebuildEventPhotoMatches, Request.run_query_bind, Program.run_bind_ok hdropped,
      Request.run_commit_bind, Request.run_query_bind, hphotos]

/-- The rebuild of an event: what its statements can leave committed, and what it ends with. -/
theorem rebuildEventPhotoMatches_spec (eventId : Uuid) {s : Session F} (hs : s.Settled) :
    (∀ u ∈ (rebuildEventPhotoMatches eventId : Request F Nat).visits s,
        u.committed = s.committed ∨ ∃ done, done <+: s.committed.photosNewestFirst eventId ∧
          u.committed = s.committed.rebuildStage eventId done) ∧
      ∃ n t, (rebuildEventPhotoMatches eventId : Request F Nat).run s = (.ok n, t) ∧ t.Settled ∧
        t.committed =
          s.committed.rebuildStage eventId (s.committed.photosNewestFirst eventId) := by
  obtain ⟨first, dropped, hfirst, hpending, hsettled, hcommitted, hvisits, hrun⟩ :=
    rebuildEventPhotoMatches_statements eventId hs
  obtain ⟨hloop, n, t, hlast, ht, hend⟩ :=
    foldlM_rebuildPhoto_spec (s.committed.photosNewestFirst eventId) 0 hsettled
  rw [hcommitted] at hend
  refine ⟨fun u hu => ?_, n, t, hrun.trans hlast, ht, hend⟩
  rw [hvisits] at hu
  rcases List.mem_append.mp hu with hu | hu
  · exact Or.inl (hfirst u hu)
  rcases List.mem_cons.mp hu with rfl | hu
  · exact Or.inl hpending
  rcases List.mem_cons.mp hu with rfl | hu
  · exact Or.inr ⟨[], List.nil_prefix, hcommitted⟩
  obtain ⟨done, hdone, hu⟩ := hloop u hu
  refine Or.inr ⟨done, hdone, ?_⟩
  rw [hu, hcommitted]
  rfl

/-- A row as `upsert_final_photo_participant_match` writes it. -/
def PhotoParticipantMatch.clamped (row : PhotoParticipantMatch F) : PhotoParticipantMatch F :=
  { row with matchedValue := clampMatchValue row.matchedValue }

/-- A key holds the merge of the matches that came for it. -/
theorem get?_upsertedMatches (table : Table (PhotoParticipantMatch F) PhotoParticipantMatch.key)
    (rows : List (PhotoParticipantMatch F)) (key : Uuid × Uuid) :
    (upsertedMatches table rows).get? key =
      ((rows.map PhotoParticipantMatch.clamped).filter fun row => row.key = key).foldl
        (mergeInto mergeMatch) (table.get? key) := by
  have hrows : upsertedMatches table rows =
      (rows.map PhotoParticipantMatch.clamped).foldl (fun table row => table.upsert mergeMatch row)
        table := by
    rw [List.foldl_map]
    rfl
  have hmerge : ∀ old row : PhotoParticipantMatch F, old.key = row.key →
      (mergeMatch old row).key = old.key := fun _ _ _ => rfl
  rw [hrows, Table.get?_foldl_upsert hmerge]

/-- Reading a photo again leaves the matches of other photos alone. -/
theorem get?_matchPhoto_of_ne (db : Database F) {entry : Photo × List (PhotoTextDetection F)}
    {key : Uuid × Uuid} (h : key.1 ≠ entry.1.id) :
    (db.matchPhoto entry).photoParticipantMatches.get? key =
      db.photoParticipantMatches.get? key := by
  rw [Database.matchPhoto, Database.upsertMatches_eq]
  change (upsertedMatches _ _).get? key = _
  rw [get?_upsertedMatches]
  have hnone : ∀ row ∈ ocrMatches Photographer.normalizeMatchToken
      Photographer.extractMatchCandidates entry.1 (db.participantsOf entry.1.eventId) entry.2,
      row.photoId = entry.1.id := by
    intro row hrow
    obtain ⟨detection, -, hrow⟩ := List.mem_flatMap.mp hrow
    obtain ⟨value, -, hrow⟩ := List.mem_filterMap.mp hrow
    obtain ⟨found, -, rfl⟩ := Option.map_eq_some_iff.mp hrow
    rfl
  rw [List.filter_eq_nil_iff.mpr]
  · rfl
  · intro row hrow hkey
    obtain ⟨found, hfound, rfl⟩ := List.mem_map.mp hrow
    rw [decide_eq_true_eq] at hkey
    rw [← hkey] at h
    exact h (hnone found hfound)

/-- Reading photos again leaves the matches of other photos alone. -/
theorem get?_foldl_matchPhoto {photos : List (Photo × List (PhotoTextDetection F))}
    {key : Uuid × Uuid} (h : key.1 ∉ photos.map fun entry => entry.1.id) (db : Database F) :
    (photos.foldl Database.matchPhoto db).photoParticipantMatches.get? key =
      db.photoParticipantMatches.get? key := by
  induction photos generalizing db with
  | nil => rfl
  | cons entry photos ih =>
    rw [List.map_cons, List.mem_cons, not_or] at h
    rw [List.foldl_cons, ih h.2, get?_matchPhoto_of_ne _ h.1]

/-- A stage has the complete OCR matches of the photos that are read again, and no others. -/
theorem mem_ocrRows_rebuildStage (db : Database F) (eventId : Uuid)
    {done : List (Photo × List (PhotoTextDetection F))}
    (hdone : done <+: db.photosNewestFirst eventId) (row : PhotoParticipantMatch F) :
    row ∈ (db.rebuildStage eventId done).ocrRows eventId ↔
      row ∈ (db.rebuildStage eventId (db.photosNewestFirst eventId)).ocrRows eventId ∧
        row.photoId ∈ done.map fun entry => entry.1.id := by
  obtain ⟨rest, hrest⟩ := hdone
  have hnodup := nodup_photosNewestFirst db eventId
  rw [← hrest, List.map_append, List.nodup_append] at hnodup
  have hlater : row.photoId ∈ done.map (fun entry => entry.1.id) →
      ((db.rebuildStage eventId (done ++ rest)).photoParticipantMatches.get? row.key =
        (db.rebuildStage eventId done).photoParticipantMatches.get? row.key) := by
    intro hmem
    rw [Database.rebuildStage, List.foldl_append]
    exact get?_foldl_matchPhoto (fun hlast => hnodup.2.2 _ hmem _ hlast rfl) _
  rw [← hrest, Database.mem_ocrRows, Database.mem_ocrRows]
  constructor
  · rintro ⟨hmem, hevent, hsource⟩
    have hphoto : row.photoId ∈ done.map fun entry => entry.1.id := by
      by_contra hout
      rw [Table.mem_iff_get?, Database.rebuildStage, get?_foldl_matchPhoto hout,
        ← Table.mem_iff_get?] at hmem
      have hnone := ocrRows_withoutOcr db eventId
      rw [List.eq_nil_iff_forall_not_mem] at hnone
      exact hnone row (Database.mem_ocrRows.mpr ⟨hmem, hevent, hsource⟩)
    refine ⟨⟨?_, hevent, hsource⟩, hphoto⟩
    rw [Table.mem_iff_get?, hlater hphoto, ← Table.mem_iff_get?]
    exact hmem
  · rintro ⟨⟨hmem, hevent, hsource⟩, hphoto⟩
    rw [Table.mem_iff_get?, hlater hphoto, ← Table.mem_iff_get?] at hmem
    exact ⟨hmem, hevent, hsource⟩

/-- A stage changes matches only. -/
theorem rebuildStage_eq (db : Database F) (eventId : Uuid)
    (done : List (Photo × List (PhotoTextDetection F))) :
    db.rebuildStage eventId done =
      db.setPhotoMatches (db.rebuildStage eventId done).photoParticipantMatches := by
  rw [Database.rebuildStage]
  generalize hstart : db.withoutOcr eventId = start
  have hsame : start = db.setPhotoMatches start.photoParticipantMatches := by
    rw [← hstart]
    rfl
  clear hstart
  induction done generalizing start with
  | nil => exact hsame
  | cons entry done ih =>
    apply ih
    rw [Database.matchPhoto, Database.upsertMatches_eq, hsame]
    rfl

/-- An exception at any statement of a rebuild leaves the matches as they were, or the complete
OCR matches of the photos that are read again so far, newest photo first; without an exception
the rebuild returns. -/
theorem rebuild_interrupted (world : World) (db : Database F) (eventId : Uuid) :
    let served := Request.serve world (rebuildEventPhotoMatches eventId) db
    (∃ n, served.1 = .ok n) ∧
      ∀ db', Request.RaisesTo world (rebuildEventPhotoMatches eventId) db db' →
        db' = db ∨ ∃ done, done <+: db.photosNewestFirst eventId ∧
          db' = db.setPhotoMatches db'.photoParticipantMatches ∧
          ∀ row, row ∈ db'.ocrRows eventId ↔
            row ∈ served.2.ocrRows eventId ∧ row.photoId ∈ done.map fun entry => entry.1.id := by
  intro served
  have hsettled : (Session.sessionLocal world db).Settled := ⟨rfl, rfl⟩
  obtain ⟨hvisits, n, t, hrun, -, hend⟩ := rebuildEventPhotoMatches_spec eventId hsettled
  have hserved : served = (.ok n, db.rebuildStage eventId (db.photosNewestFirst eventId)) := by
    change Request.serve world (rebuildEventPhotoMatches eventId) db = _
    rw [Request.serve, hrun, hend]
    rfl
  refine ⟨⟨n, by rw [hserved]⟩, fun db' hraises => ?_⟩
  rcases hraises with ⟨e, he⟩ | ⟨u, hu, rfl⟩
  · have hok := hserved.symm.trans he
    cases hok
  · refine (hvisits u hu).imp id fun ⟨done, hdone, hstage⟩ => ⟨done, hdone, ?_, fun row => ?_⟩
    · rw [hstage]
      exact rebuildStage_eq db eventId done
    · rw [hstage, hserved]
      exact mem_ocrRows_rebuildStage db eventId hdone row

/-- The first commit of a rebuild can be its last. -/
theorem raisesTo_withoutOcr (world : World) (db : Database F) (eventId : Uuid) :
    Request.RaisesTo world (rebuildEventPhotoMatches eventId) db (db.withoutOcr eventId) := by
  have hsettled : (Session.sessionLocal world db).Settled := ⟨rfl, rfl⟩
  obtain ⟨first, dropped, -, -, -, hcommitted, hvisits, -⟩ :=
    rebuildEventPhotoMatches_statements eventId hsettled
  refine Or.inr ⟨dropped.commit, ?_, hcommitted⟩
  rw [hvisits]
  simp

/-- An event with one photo that shows the bib of its participant, already matched. -/
def matchedEvent : Database ℚ :=
  { Database.empty with
    participants := ⟨[⟨5, 7, "12".toList, "Ada".toList, "12".toList, "ada".toList⟩], by decide⟩
    photos := ⟨[⟨1, 7, ['k'], ['f'], ['t'], .ready, 0⟩], by decide⟩
    photoTextDetections := [⟨1, 3, "12".toList, "12".toList, some (9 / 10), none⟩]
    photoParticipantMatches := ⟨[⟨7, 1, 5, .ocr, "12".toList, some (9 / 10)⟩], by decide⟩ }

/-- What an exception after the first commit leaves of the matched event. -/
theorem matchedEvent_interrupted :
    matchedEvent.withoutOcr 7 = matchedEvent ∨
      ∃ done, done <+: matchedEvent.photosNewestFirst 7 ∧
        matchedEvent.withoutOcr 7 =
          matchedEvent.setPhotoMatches (matchedEvent.withoutOcr 7).photoParticipantMatches ∧
        ∀ row, row ∈ (matchedEvent.withoutOcr 7).ocrRows 7 ↔
          row ∈ (Request.serve (World.still 0 fun _ => 0) (rebuildEventPhotoMatches 7)
            matchedEvent).2.ocrRows 7 ∧ row.photoId ∈ done.map fun entry => entry.1.id :=
  (rebuild_interrupted (World.still 0 fun _ => 0) matchedEvent 7).2 _ (raisesTo_withoutOcr _ _ _)

/-- A rebuild that raises after its first commit leaves the event without its OCR match, which it
had before and would have had at the end. -/
theorem rebuild_loses_match :
    ∃ (world : World) (db' : Database ℚ),
      Request.RaisesTo world (rebuildEventPhotoMatches 7) matchedEvent db' ∧
        db'.ocrRows 7 = [] ∧ (matchedEvent.ocrRows 7).map (·.key) = [(1, 5)] ∧
        ((Request.serve world (rebuildEventPhotoMatches 7) matchedEvent).2.ocrRows 7).map (·.key) =
          [(1, 5)] := by
  refine ⟨World.still 0 fun _ => 0, matchedEvent.withoutOcr 7, raisesTo_withoutOcr _ _ _,
    ocrRows_withoutOcr matchedEvent 7, ?_, ?_⟩
  · decide +kernel
  · decide +kernel

end RaceFrame
