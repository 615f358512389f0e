import RaceFrame.Upload.Deduplication
import RaceFrame.Upload.Selfies

/-!
# Compensation of uploads

An upload stores objects, commits the rows that reference them and refreshes the
rows; what is raised on the way is compensated by deleting the objects. That ends
as all or nothing, except that a refresh that raises after the commit is
compensated as well, which deletes the objects of the committed rows.
-/

namespace RaceFrame

open Core

variable {F : Type}

/-! ## References -/

/-- A photo references the key of an object. -/
def StoredPhoto.References (row : StoredPhoto) (key : Text) : Prop :=
  row.photo.originalObjectKey = key ∨ row.thumbnailObjectKey = some key

/-- A committed row references the key of an object. -/
def UploadRows.References (rows : UploadRows F) (key : Text) : Prop :=
  (∃ row ∈ rows.photos.rows, row.References key) ∨
    (∃ row ∈ rows.participantFaceImages.rows, row.objectKey = key) ∨
      ∃ row ∈ rows.faceSearchImages.rows, row.objectKey = key

/-- A row that was not there before references the key of an object. -/
def UploadRows.NewReference (before after : UploadRows F) (key : Text) : Prop :=
  (∃ row ∈ after.photos.rows, row ∉ before.photos.rows ∧ row.References key) ∨
    (∃ row ∈ after.participantFaceImages.rows, row ∉ before.participantFaceImages.rows ∧
      row.objectKey = key) ∨
      ∃ row ∈ after.faceSearchImages.rows, row ∉ before.faceSearchImages.rows ∧
        row.objectKey = key

/-- New rows are there, and the keys that they reference are the given ones. -/
structure UploadRows.Adds (before after : UploadRows F) (keys : List Text) : Prop where
  ne : after ≠ before
  newReference : ∀ key, before.NewReference after key ↔ key ∈ keys
  references : ∀ key, after.References key → before.References key ∨ key ∈ keys

/-- The upload has deleted an object. -/
def UploadState.Deleted (s : UploadState F) (key : Text) : Prop :=
  key ∈ s.deleteTargets ∧ s.outcomes (.delete key) ≠ .raises

/-- Before an upload: it has called nothing yet, and no committed row references a key with an
identifier that is still to be drawn. -/
structure UploadState.Begins (s : UploadState F) : Prop where
  putKeys : s.putKeys = []
  deleteTargets : s.deleteTargets = []
  fresh : ∀ n key, s.rows.References key → ¬uuidText (s.world.uuids n) <:+: key

/-- An upload is all or nothing: its new rows are committed and every object that they reference is
stored, or no new row is committed and every object that it has stored has been the target of a
deletion; and no committed row references an object that it has deleted. -/
structure AllOrNothing (s s' : UploadState F) : Prop where
  ended : (s'.rows ≠ s.rows ∧ ∀ key, s.rows.NewReference s'.rows key → key ∈ s'.objects) ∨
    (s'.rows = s.rows ∧ ∀ key ∈ s'.putKeys, key ∈ s'.deleteTargets)
  intact : ∀ key, s'.rows.References key → ¬s'.Deleted key

/-- Without new rows, what has been stored must have been the target of a deletion. -/
theorem allOrNothing_of_unchanged {s s' : UploadState F} (hrows : s'.rows = s.rows)
    (hput : ∀ key ∈ s'.putKeys, key ∈ s'.deleteTargets)
    (hfresh : ∀ key ∈ s'.deleteTargets, ¬s.rows.References key) : AllOrNothing s s' where
  ended := Or.inr ⟨hrows, hput⟩
  intact key href hdeleted := hfresh key hdeleted.1 (hrows ▸ href)

/-- With new rows and without a deletion, their objects must be stored. -/
theorem allOrNothing_of_added {s s' : UploadState F} {keys : List Text}
    (hadds : s.rows.Adds s'.rows keys) (hobjects : ∀ key ∈ keys, key ∈ s'.objects)
    (hdelete : s'.deleteTargets = []) : AllOrNothing s s' where
  ended := Or.inl ⟨hadds.ne, fun key hkey => hobjects key ((hadds.newReference key).mp hkey)⟩
  intact key _ hdeleted := by
    rw [UploadState.Deleted, hdelete] at hdeleted
    exact List.not_mem_nil hdeleted.1

/-! ## Compensation -/

/-- The state after the objects have been deleted, as far as the deletions take effect. -/
def UploadState.compensated (s : UploadState F) (keys : List Text) : UploadState F :=
  { s with
    objects := s.objects.filter fun key =>
      !(keys.contains key && decide (s.outcomes (.delete key) ≠ .raises))
    deleteTargets := keys.reverse ++ s.deleteTargets }

@[simp] theorem UploadState.compensated_rows (s : UploadState F) (keys : List Text) :
    (s.compensated keys).rows = s.rows := rfl

@[simp] theorem UploadState.compensated_outcomes (s : UploadState F) (keys : List Text) :
    (s.compensated keys).outcomes = s.outcomes := rfl

@[simp] theorem UploadState.compensated_putKeys (s : UploadState F) (keys : List Text) :
    (s.compensated keys).putKeys = s.putKeys := rfl

@[simp] theorem UploadState.mem_compensated_deleteTargets {s : UploadState F} {keys : List Text}
    {key : Text} :
    key ∈ (s.compensated keys).deleteTargets ↔ key ∈ keys ∨ key ∈ s.deleteTargets := by
  simp [UploadState.compensated]

/-- What is left of the objects. -/
theorem UploadState.mem_compensated_objects {s : UploadState F} {keys : List Text} {key : Text} :
    key ∈ (s.compensated keys).objects ↔
      key ∈ s.objects ∧ (key ∈ keys → s.outcomes (.delete key) = .raises) := by
  simp [UploadState.compensated, imp_iff_not_or]

/-- One deletion after another. -/
theorem UploadState.compensated_cons (s : UploadState F) (key : Text) (keys : List Text) :
    s.compensated (key :: keys) = (s.compensated [key]).compensated keys := by
  have hobjects : s.objects.filter (fun k =>
      !((key :: keys).contains k && decide (s.outcomes (.delete k) ≠ .raises))) =
        (s.objects.filter fun k =>
          !([key].contains k && decide (s.outcomes (.delete k) ≠ .raises))).filter fun k =>
            !(keys.contains k && decide (s.outcomes (.delete k) ≠ .raises)) := by
    rw [List.filter_filter]
    refine List.filter_congr fun k _ => ?_
    rw [List.contains_cons, List.contains_cons, List.contains_nil, Bool.or_false,
      Bool.and_or_distrib_right, Bool.not_or, Bool.and_comm]
  simp only [UploadState.compensated, hobjects, List.reverse_cons, List.append_assoc,
    List.reverse_nil, List.nil_append]

private theorem objects_of_delete (s : UploadState F) (key : Text) :
    (if s.outcomes (.delete key) = .raises then s.objects
      else s.objects.filter (· != key)) = (s.compensated [key]).objects := by
  split
  · rename_i hraises
    refine (List.filter_eq_self.mpr fun k _ => ?_).symm
    by_cases hk : k = key
    · simp [hk, hraises]
    · simp [hk]
  · rename_i heffect
    refine List.filter_congr fun k _ => ?_
    rw [List.contains_cons, List.contains_nil, Bool.or_false]
    by_cases hk : k = key
    · rw [hk, beq_self_eq_true, bne_self_eq_false, decide_eq_true heffect]
      rfl
    · rw [beq_eq_false_iff_ne.mpr hk, bne_iff_ne.mpr hk]
      rfl

private theorem run_deleteObject {s : UploadState F} {key : Text} (hkey : key ≠ []) :
    ((Ingest.deleteObject key).run s).2 = s.compensated [key] := by
  have hne : key.isEmpty = false := List.isEmpty_eq_false_iff.mpr hkey
  have hrun : ((Ingest.deleteObject key).run s).2 =
      { s with
        objects := if s.outcomes (.delete key) = .raises then s.objects
          else s.objects.filter (· != key)
        deleteTargets := key :: s.deleteTargets } := by
    rw [Ingest.deleteObject, hne]
    cases houtcome : s.outcomes (.delete key) <;> simp [Program.run_bind, houtcome]
  rw [hrun, objects_of_delete]
  rfl

/-- The compensation deletes the objects one after another, whatever the deletions raise. -/
theorem run_compensate {s : UploadState F} {keys : List Text} (hkeys : ∀ key ∈ keys, key ≠ []) :
    (Ingest.compensate keys).run s = (.ok (), s.compensated keys) := by
  induction keys generalizing s with
  | nil => simp [Ingest.compensate, UploadState.compensated]
  | cons key keys ih =>
    have hkey : key ≠ [] := hkeys key List.mem_cons_self
    have hrest := ih (s := s.compensated [key]) fun k hk => hkeys k (List.mem_cons_of_mem key hk)
    change (Ingest.compensate keys).run ((Ingest.deleteObject key).run s).2 = _
    rw [run_deleteObject hkey, hrest, UploadState.compensated_cons s key keys]

/-! ## The commit and the refreshes -/

/-- What follows the commit leaves the state as it is and returns under a condition. -/
def Ingest.ReturnsIf {α : Type} (x : Ingest F α) (s : UploadState F) (condition : Prop) : Prop :=
  (condition ∧ ∃ a, x.run s = (.ok a, s)) ∨ (¬condition ∧ ∃ e, x.run s = (.error e, s))

theorem refresh_returnsIf (n : Nat) (s : UploadState F) :
    (Ingest.refresh n).ReturnsIf s (s.outcomes (.refresh n) = .returns) := by
  rcases Ingest.refresh_cases n s with ⟨hreturns, hrun⟩ | ⟨hraises, e, hrun⟩
  · exact Or.inl ⟨hreturns, (), hrun⟩
  · exact Or.inr ⟨hraises, e, hrun⟩

/-- The ends of publishing rows: refreshed, committed but not refreshed, or not committed. -/
theorem commit_bind_cases {α : Type} (change : UploadRows F → Option (UploadRows F))
    {rest : Ingest F α} {s : UploadState F} {refreshed : Prop}
    (hrest : ∀ rows, rest.ReturnsIf { s with rows := rows } refreshed) :
    (∃ rows, change s.rows = some rows ∧ s.outcomes .commit = .returns ∧
      ((refreshed ∧ ∃ a, (Ingest.commit change >>= fun _ => rest).run s =
          (.ok a, { s with rows := rows })) ∨
        (¬refreshed ∧ ∃ e, (Ingest.commit change >>= fun _ => rest).run s =
          (.error e, { s with rows := rows })))) ∨
    ((change s.rows = none ∨ s.outcomes .commit ≠ .returns) ∧
      ∃ e, (Ingest.commit change >>= fun _ => rest).run s = (.error e, s)) := by
  rcases Ingest.commit_cases change s with ⟨rows, hrows, hreturns, hrun⟩ | ⟨hrefused, e, hrun⟩
  · refine Or.inl ⟨rows, hrows, hreturns, ?_⟩
    rw [Program.run_bind_ok hrun]
    exact hrest rows
  · exact Or.inr ⟨hrefused, e, Program.run_bind_error hrun⟩

/-- Between the storing of the objects and the commit. -/
structure UploadState.Stores (s t : UploadState F) (keys : List Text) : Prop where
  rows : t.rows = s.rows
  outcomes : t.outcomes = s.outcomes
  objects : ∀ key ∈ keys, key ∈ t.objects
  putKeys : ∀ key ∈ t.putKeys, key ∈ keys
  deleteTargets : t.deleteTargets = []

/-- The state after the rows have been published, or their objects have been compensated. -/
def Ingest.settled {α : Type} (outcome : Except Raised α × UploadState F) (keys : List Text) :
    UploadState F :=
  match outcome.1 with
  | .ok _ => outcome.2
  | .error _ => outcome.2.compensated keys

/-- Committed rows whose objects are compensated are all or nothing only if no deletion takes
effect. -/
theorem allOrNothing_compensated_iff {s t : UploadState F} {rows : UploadRows F}
    {keys : List Text} (hstores : s.Stores t keys) (hadds : s.rows.Adds rows keys) :
    AllOrNothing s (UploadState.compensated { t with rows := rows } keys) ↔
      ∀ key ∈ keys, s.outcomes (.delete key) = .raises := by
  have houtcomes := hstores.outcomes
  constructor
  · intro h key hkey
    rcases h.ended with ⟨-, hobjects⟩ | ⟨hsame, -⟩
    · have hkept := hobjects key ((hadds.newReference key).mpr hkey)
      rw [UploadState.mem_compensated_objects] at hkept
      exact houtcomes ▸ hkept.2 hkey
    · exact absurd hsame hadds.ne
  · intro hraises
    refine ⟨Or.inl ⟨hadds.ne, fun key hkey => ?_⟩, fun key _ hkey => ?_⟩
    · have hmem := (hadds.newReference key).mp hkey
      rw [UploadState.mem_compensated_objects]
      exact ⟨hstores.objects key hmem, fun _ => houtcomes.symm ▸ hraises key hmem⟩
    · obtain ⟨hmem, heffect⟩ := hkey
      rw [UploadState.mem_compensated_deleteTargets] at hmem
      rcases hmem with hmem | hmem
      · rw [UploadState.compensated_outcomes] at heffect
        exact heffect (houtcomes.symm ▸ hraises key hmem)
      · have hmem : key ∈ t.deleteTargets := hmem
        rw [hstores.deleteTargets] at hmem
        cases hmem

/-- Objects that are compensated without a commit leave nothing. -/
theorem allOrNothing_of_compensated {s t : UploadState F} {keys : List Text}
    (hrows : t.rows = s.rows) (hput : ∀ key ∈ t.putKeys, key ∈ keys)
    (hdelete : t.deleteTargets = []) (hfresh : ∀ key ∈ keys, ¬s.rows.References key) :
    AllOrNothing s (t.compensated keys) := by
  refine allOrNothing_of_unchanged hrows (fun key hkey => ?_) fun key hkey => ?_
  · exact UploadState.mem_compensated_deleteTargets.mpr (Or.inl (hput key hkey))
  · rcases UploadState.mem_compensated_deleteTargets.mp hkey with hkey | hkey
    · exact hfresh key hkey
    · rw [hdelete] at hkey
      cases hkey

/-- Publishing rows is all or nothing unless a refresh raises after the commit and an object is
deleted for it. -/
theorem allOrNothing_settled_iff {α : Type} {s t : UploadState F} {keys : List Text}
    (change : UploadRows F → Option (UploadRows F)) {rest : Ingest F α} (refreshed : Prop)
    (hstores : s.Stores t keys) (hfresh : ∀ key ∈ keys, ¬s.rows.References key)
    (hadds : ∀ rows, change s.rows = some rows → s.rows.Adds rows keys)
    (hrest : ∀ rows, rest.ReturnsIf { t with rows := rows } refreshed) :
    AllOrNothing s (Ingest.settled ((Ingest.commit change >>= fun _ => rest).run t) keys) ↔
      ¬((change s.rows).isSome ∧ s.outcomes .commit = .returns ∧ ¬refreshed ∧
        ∃ key ∈ keys, s.outcomes (.delete key) ≠ .raises) := by
  have hrows := hstores.rows
  have houtcomes := hstores.outcomes
  rcases commit_bind_cases change hrest with
    ⟨rows, hchange, hcommit, ⟨hrefreshed, a, hrun⟩ | ⟨hrefreshed, e, hrun⟩⟩ | ⟨hrefused, e, hrun⟩
  · rw [hrun]
    refine iff_of_true ?_ fun h => h.2.2.1 hrefreshed
    exact allOrNothing_of_added (hadds rows (hrows ▸ hchange)) hstores.objects
      hstores.deleteTargets
  · rw [hrun]
    rw [hrows] at hchange
    refine (allOrNothing_compensated_iff hstores (hadds rows hchange)).trans ?_
    constructor
    · rintro hraises ⟨-, -, -, key, hkey, heffect⟩
      exact heffect (hraises key hkey)
    · intro h key hkey
      by_contra heffect
      exact h ⟨by rw [hchange]; rfl, houtcomes ▸ hcommit, hrefreshed, key, hkey, heffect⟩
  · rw [hrun]
    refine iff_of_true (allOrNothing_of_compensated hrows hstores.putKeys hstores.deleteTargets
      hfresh) ?_
    rintro ⟨hsome, hcommit, -⟩
    rcases hrefused with hnone | hraises
    · rw [hrows] at hnone
      rw [hnone] at hsome
      cases hsome
    · exact hraises (houtcomes.symm ▸ hcommit)

/-! ## New rows -/

private theorem exists_new_iff {α : Type} {rows : List α} {row : α}
    (hnodup : (rows ++ [row]).Nodup) {P : α → Prop} :
    (∃ r ∈ rows ++ [row], r ∉ rows ∧ P r) ↔ P row := by
  have hnew : row ∉ rows := fun hmem =>
    (List.nodup_append.mp hnodup).2.2 row hmem row (List.mem_singleton_self row) rfl
  constructor
  · rintro ⟨r, hr, hold, hP⟩
    rcases List.mem_append.mp hr with hr | hr
    · exact absurd hr hold
    · rwa [← List.mem_singleton.mp hr]
  · exact fun hP => ⟨row, List.mem_append_right _ (List.mem_singleton_self row), hnew, hP⟩

private theorem not_exists_new {α : Type} {rows : List α} {P : α → Prop} :
    ¬∃ r ∈ rows, r ∉ rows ∧ P r := by
  rintro ⟨r, hr, hnot, -⟩
  exact hnot hr

private theorem exists_append_iff {α : Type} {rows : List α} {row : α} {P : α → Prop} :
    (∃ r ∈ rows ++ [row], P r) ↔ (∃ r ∈ rows, P r) ∨ P row := by
  simp [or_and_right, exists_or]

/-- The rows of a photo reference its two objects. -/
theorem adds_insertPhoto? {rows rows' : UploadRows F} {photo : StoredPhoto} {jobs : List (Job F)}
    (h : rows.insertPhoto? photo jobs = some rows') {thumbnailObjectKey : Text}
    (hthumbnail : photo.thumbnailObjectKey = some thumbnailObjectKey) :
    rows.Adds rows' [thumbnailObjectKey, photo.photo.originalObjectKey] := by
  have hphotos := rows_of_insertPhoto? h
  have hnodup := rows'.photos.rows_nodup
  have hothers : rows'.participantFaceImages = rows.participantFaceImages ∧
      rows'.faceSearchImages = rows.faceSearchImages := by
    unfold UploadRows.insertPhoto? at h
    obtain ⟨photos, -, h⟩ := Option.bind_eq_some_iff.mp h
    obtain ⟨inserted, -, h⟩ := Option.bind_eq_some_iff.mp h
    split at h
    · rw [← Option.some.inj h]
      exact ⟨rfl, rfl⟩
    · cases h
  have hkeys : ∀ key, photo.References key ↔
      key ∈ [thumbnailObjectKey, photo.photo.originalObjectKey] := by
    intro key
    rw [StoredPhoto.References, hthumbnail, List.mem_pair, Option.some.injEq, or_comm, eq_comm,
      @eq_comm _ _ key]
  refine ⟨fun heq => ?_, fun key => ?_, fun key => ?_⟩
  · rw [heq] at hphotos
    simp at hphotos
  · rw [hphotos] at hnodup
    rw [UploadRows.NewReference, hphotos, exists_new_iff hnodup, hothers.1, hothers.2,
      or_iff_left not_exists_new, or_iff_left not_exists_new, hkeys]
  · rw [UploadRows.References, UploadRows.References, hphotos, exists_append_iff, hothers.1,
      hothers.2, hkeys, or_right_comm]
    exact id

/-- The row of a selfie references its object. -/
theorem adds_insertFaceImage? {rows rows' : UploadRows F} {image : ParticipantFaceImage}
    {job : Job F} (h : rows.insertFaceImage? image job = some rows') :
    rows.Adds rows' [image.objectKey] := by
  unfold UploadRows.insertFaceImage? at h
  obtain ⟨images, himages, h⟩ := Option.bind_eq_some_iff.mp h
  obtain ⟨jobs, -, h⟩ := Option.bind_eq_some_iff.mp h
  rw [← Option.some.inj h]
  have hrows := Table.rows_of_insert? himages
  have hnodup := images.rows_nodup
  refine ⟨fun heq => ?_, fun key => ?_, fun key => ?_⟩
  · have hsame : images.rows = rows.participantFaceImages.rows :=
      congrArg (fun rows => rows.participantFaceImages.rows) heq
    rw [hrows] at hsame
    simp at hsame
  · rw [hrows] at hnodup
    rw [UploadRows.NewReference, hrows, exists_new_iff hnodup, or_iff_right not_exists_new,
      or_iff_left not_exists_new, List.mem_singleton, eq_comm]
  · rw [UploadRows.References, UploadRows.References, hrows, exists_append_iff, List.mem_singleton,
      @eq_comm _ key, or_right_comm, ← or_assoc, ← or_assoc]
    exact id

/-- The rows of a search image reference its object. -/
theorem adds_insertSearchImage? {rows rows' : UploadRows F} {created : Option FaceSearchSession}
    {image : FaceSearchImage} {job : Job F}
    (h : rows.insertSearchImage? created image job = some rows') :
    rows.Adds rows' [image.objectKey] := by
  unfold UploadRows.insertSearchImage? at h
  obtain ⟨sessions, -, h⟩ := Option.bind_eq_some_iff.mp h
  obtain ⟨images, himages, h⟩ := Option.bind_eq_some_iff.mp h
  obtain ⟨jobs, -, h⟩ := Option.bind_eq_some_iff.mp h
  rw [← Option.some.inj h]
  have hrows := Table.rows_of_insert? himages
  have hnodup := images.rows_nodup
  refine ⟨fun heq => ?_, fun key => ?_, fun key => ?_⟩
  · have hsame : images.rows = rows.faceSearchImages.rows :=
      congrArg (fun rows => rows.faceSearchImages.rows) heq
    rw [hrows] at hsame
    simp at hsame
  · rw [hrows] at hnodup
    rw [UploadRows.NewReference, hrows, exists_new_iff hnodup, or_iff_right not_exists_new,
      or_iff_right not_exists_new, List.mem_singleton, eq_comm]
  · rw [UploadRows.References, UploadRows.References, hrows, exists_append_iff, List.mem_singleton,
      @eq_comm _ key, or_assoc, or_assoc]
    exact id

end RaceFrame
