import Mathlib.Data.Char
import Mathlib.Data.Finset.Sort
import Mathlib.Data.List.Lex
import RaceFrame.Events.ThumbnailFaults
import RaceFrame.Orm.Session
import RaceFrame.Storage.ObjectKeys

/-!
# Reconciling the bucket

`reconcile`: the keys of the bucket are compared with those that the database
references, and the sensitive ones that no row references get a deletion task.
The database is read in one snapshot and no upload runs meanwhile. The order in
which a set of keys is gone through is a parameter.
-/

namespace RaceFrame

open Core

/-! ## The two sets of keys -/

/-- A page of `list_objects_v2`: the `Key` of each of its `Contents`, if it has any. -/
abbrev ListPage := Option (List (Option Text))

/-- The objects of a bucket and the pages in which `list_objects_v2` lists those below `events/`. -/
structure BucketListing where
  objects : List Text
  pages : List ListPage
  lists : ∀ key, (∃ contents, some contents ∈ pages ∧ some key ∈ contents) ↔
    key ∈ objects ∧ "events/".toList <+: key

/-- `list_r2_keys`. -/
def listR2Keys (pages : List ListPage) : Finset Text :=
  (pages.flatMap fun page =>
    (page.getD []).filterMap fun key => key.filter fun key => !key.isEmpty).toFinset

section References

variable {F : Type} (thumbnailObjectKey : Photo → Option Text) (db : Database F)

/-- The set `referenced` of `reconcile`. -/
def referencedKeys : Finset Text :=
  ((db.photos.rows.map (·.originalObjectKey) ++
    db.photos.rows.filterMap fun photo =>
      (thumbnailObjectKey photo).filter fun key => !key.isEmpty) ++
    db.faceSearchImages.rows.map (·.objectKey) ++
    db.participantFaceImages.rows.map (·.objectKey)).toFinset

/-- A photo, a thumbnail, a search image or a selfie has the key. -/
def ReferencesKey (key : Text) : Prop :=
  (∃ photo ∈ db.photos.rows, photo.originalObjectKey = key ∨ thumbnailObjectKey photo = some key) ∨
    (∃ image ∈ db.faceSearchImages.rows, image.objectKey = key) ∨
    ∃ image ∈ db.participantFaceImages.rows, image.objectKey = key

/-- The set `missing` of `reconcile`. -/
def missingKeys (pages : List ListPage) : Finset Text :=
  referencedKeys thumbnailObjectKey db \ listR2Keys pages

/-- The set `sensitive_orphans` of `reconcile`. -/
def sensitiveOrphans (pages : List ListPage) : Finset Text :=
  (listR2Keys pages \ referencedKeys thumbnailObjectKey db).filter (isSensitiveTemporaryKey ·)

end References

/-! ## The outbox -/

/-- The order in which the elements of a set are gone through. -/
structure SetOrder where
  elements : Finset Text → List Text
  nodup : ∀ keys, (elements keys).Nodup
  mem_iff : ∀ keys key, key ∈ elements keys ↔ key ∈ keys

/-- The identifiers and the times of the tasks that the inserts would make. -/
def stampTasks : List Text → Thumbnails (List (Text × Uuid × Instant))
  | [] => return []
  | key :: keys => do
    let id ← Thumbnails.uuid4
    let createdAt ← Thumbnails.utcNow
    let stamped ← stampTasks keys
    return (key, id, createdAt) :: stamped

/-- `reconcile(apply=True)` from the loop over the orphans to the commit. -/
def enqueueOrphans (orphans : List Text) : Thumbnails Unit := do
  let stamped ← stampTasks orphans
  Thumbnails.commit fun rows =>
    (rows.tasks.enqueueAll stamped).map fun tasks => { rows with tasks := tasks }

/-- `reconcile`. -/
def reconcile {F : Type} (thumbnailObjectKey : Photo → Option Text) (order : SetOrder)
    (apply : Bool) (pages : List ListPage) (db : Database F) : Thumbnails (Nat × Nat) := do
  let missing := missingKeys thumbnailObjectKey db pages
  let orphans := sensitiveOrphans thumbnailObjectKey db pages
  if apply then
    enqueueOrphans (order.elements orphans)
    processObjectDeletions (if orphans.card = 0 then 1 else orphans.card)
  return (missing.card, orphans.card)

/-! ## What is enqueued -/

/-- The keys have queued tasks, and the tasks of other keys are as before. -/
structure DeletionTasks.Enqueues (tasks tasks' : DeletionTasks) (keys : List Text) : Prop where
  queued : ∀ key ∈ keys, ∃ task ∈ tasks'.rows, task.objectKey = key ∧ task.status = .queued ∧
    task.attemptCount = 0
  others : ∀ task, task.objectKey ∉ keys → (task ∈ tasks'.rows ↔ task ∈ tasks.rows)

theorem DeletionTasks.enqueues_of_enqueue {tasks tasks' : DeletionTasks} {key : Text} {id : Uuid}
    {createdAt : Instant} (hkey : key ≠ [])
    (h : tasks.enqueue key id createdAt = some tasks') : tasks.Enqueues tasks' [key] := by
  rw [enqueue, if_neg (by rwa [List.isEmpty_iff])] at h
  split at h
  next task hfound =>
    have htask : task ∈ tasks.rows := List.mem_of_find?_eq_some hfound
    have htaskKey : task.objectKey = key := by simpa using List.find?_some hfound
    rw [← Option.some.inj h]
    constructor
    case queued =>
      intro key' hkey'
      rw [List.mem_singleton.mp hkey']
      exact ⟨task.requeued, Table.mem_put.mpr (Or.inl ⟨rfl, task, htask, rfl⟩), htaskKey, rfl, rfl⟩
    case others =>
      intro other hother
      rw [List.mem_singleton] at hother
      rw [Table.mem_put]
      constructor
      · rintro (⟨rfl, -⟩ | ⟨hmem, -⟩)
        · exact absurd htaskKey hother
        · exact hmem
      · refine fun hmem => Or.inr ⟨hmem, fun hid => hother ?_⟩
        rw [Table.eq_of_key_eq hmem htask hid, htaskKey]
  next =>
    have hrows := Table.rows_of_insert? h
    constructor
    case queued =>
      intro key' hkey'
      rw [List.mem_singleton.mp hkey', hrows]
      exact ⟨.enqueued id key createdAt, List.mem_append_right _ (List.mem_singleton.mpr rfl), rfl,
        rfl, rfl⟩
    case others =>
      intro other hother
      rw [hrows, List.mem_append, List.mem_singleton, or_iff_left]
      rintro rfl
      exact hother (List.mem_singleton.mpr rfl)

theorem DeletionTasks.Enqueues.trans {tasks tasks' tasks'' : DeletionTasks} {key : Text}
    {keys : List Text} (hfirst : tasks.Enqueues tasks' [key])
    (hrest : tasks'.Enqueues tasks'' keys) : tasks.Enqueues tasks'' (key :: keys) where
  queued := by
    intro key' hkey'
    by_cases hlater : key' ∈ keys
    · exact hrest.queued key' hlater
    · obtain rfl : key' = key := (List.mem_cons.mp hkey').resolve_right hlater
      obtain ⟨task, htask, htaskKey, hqueued⟩ :=
        hfirst.queued key' (List.mem_singleton.mpr rfl)
      exact ⟨task, (hrest.others task (by rwa [htaskKey])).mpr htask, htaskKey, hqueued⟩
  others := by
    intro task htask
    rw [List.mem_cons, not_or] at htask
    rw [hrest.others task htask.2, hfirst.others task (by rw [List.mem_singleton]; exact htask.1)]

theorem DeletionTasks.enqueues_of_enqueueAll {tasks tasks' : DeletionTasks}
    {stamped : List (Text × Uuid × Instant)} (hkeys : ∀ entry ∈ stamped, entry.1 ≠ [])
    (h : tasks.enqueueAll stamped = some tasks') : tasks.Enqueues tasks' (stamped.map (·.1)) := by
  induction stamped generalizing tasks with
  | nil =>
    rw [← Option.some.inj h]
    exact ⟨fun _ hmem => absurd hmem List.not_mem_nil, fun _ _ => Iff.rfl⟩
  | cons entry stamped ih =>
    obtain ⟨tasks₁, hfirst, hrest⟩ := Option.bind_eq_some_iff.mp h
    exact (enqueues_of_enqueue (hkeys entry List.mem_cons_self) hfirst).trans
      (ih (fun other hother => hkeys other (List.mem_cons_of_mem entry hother)) hrest)

/-- Enqueueing under a new identifier succeeds, and adds at most that identifier. -/
theorem DeletionTasks.exists_enqueue (tasks : DeletionTasks) (key : Text) {id : Uuid}
    (createdAt : Instant) (hid : id ∉ tasks.rows.map ObjectDeletionTask.id) :
    ∃ tasks', tasks.enqueue key id createdAt = some tasks' ∧
      ∀ id' ∈ tasks'.rows.map ObjectDeletionTask.id,
        id' ∈ tasks.rows.map ObjectDeletionTask.id ∨ id' = id := by
  rw [enqueue]
  split
  · exact ⟨tasks, rfl, fun _ h => Or.inl h⟩
  · split
    next task hfound =>
      refine ⟨tasks.put task.requeued, rfl, fun id' h => Or.inl ?_⟩
      rwa [Table.map_key_put] at h
    next =>
      have hinsert : tasks.insert? (.enqueued id key createdAt) ≠ none := by
        have hnew : (ObjectDeletionTask.enqueued id key createdAt).id ∉
            tasks.rows.map ObjectDeletionTask.id := hid
        rw [Table.insert?, dif_neg hnew]
        exact Option.some_ne_none _
      obtain ⟨tasks', htasks'⟩ := Option.ne_none_iff_exists'.mp hinsert
      refine ⟨tasks', htasks', fun id' h => ?_⟩
      rw [Table.rows_of_insert? htasks', List.map_append, List.mem_append] at h
      exact h.imp_right List.mem_singleton.mp

theorem DeletionTasks.exists_enqueueAll {tasks : DeletionTasks}
    {stamped : List (Text × Uuid × Instant)} (hnodup : (stamped.map (·.2.1)).Nodup)
    (hunused : ∀ id ∈ stamped.map (·.2.1), id ∉ tasks.rows.map ObjectDeletionTask.id) :
    ∃ tasks', tasks.enqueueAll stamped = some tasks' := by
  induction stamped generalizing tasks with
  | nil => exact ⟨tasks, rfl⟩
  | cons entry stamped ih =>
    obtain ⟨hentry, hnodup⟩ := List.nodup_cons.mp hnodup
    obtain ⟨tasks₁, hfirst, hids⟩ := tasks.exists_enqueue entry.1 entry.2.2
      (hunused entry.2.1 List.mem_cons_self)
    have hrest : ∀ id ∈ stamped.map (·.2.1), id ∉ tasks₁.rows.map ObjectDeletionTask.id := by
      intro id hid hused
      rcases hids id hused with hold | rfl
      · exact hunused id (List.mem_cons_of_mem _ hid) hold
      · exact hentry hid
    obtain ⟨tasks', htasks'⟩ := ih hnodup hrest
    exact ⟨tasks', Option.bind_eq_some_iff.mpr ⟨tasks₁, hfirst, htasks'⟩⟩

/-- Stamping draws one identifier for each key and changes nothing else. -/
theorem run_stampTasks (keys : List Text) (s : ThumbnailState) :
    ∃ stamped world, (stampTasks keys).run s = (.ok stamped, { s with world := world }) ∧
      stamped.map (·.1) = keys ∧
      stamped.map (·.2.1) = (List.range keys.length).map s.world.uuids := by
  induction keys generalizing s with
  | nil => exact ⟨[], s.world, rfl, rfl, rfl⟩
  | cons key keys ih =>
    obtain ⟨stamped, world, hrun, hkeys, hids⟩ :=
      ih { s with world := (s.world.draw 1).tick }
    refine ⟨(key, s.world.uuids 0, (s.world.draw 1).clock 0) :: stamped, world, ?_, ?_, ?_⟩
    · change (stampTasks keys >>= fun stamped =>
        pure ((key, s.world.uuids 0, (s.world.draw 1).clock 0) :: stamped)).run
          { s with world := (s.world.draw 1).tick } = _
      rw [Program.run_bind_ok hrun]
      rfl
    · rw [List.map_cons, hkeys]
    · rw [List.map_cons, hids, List.length_cons, List.range_succ_eq_map, List.map_cons,
        List.map_map]
      refine congrArg _ (List.map_congr_left fun n _ => ?_)
      change s.world.uuids (1 + n) = s.world.uuids (n + 1)
      rw [Nat.add_comm]

/-- No task has one of the identifiers that are drawn next, and no identifier is drawn twice. -/
structure ThumbnailState.DrawsUnused (s : ThumbnailState) : Prop where
  injective : Function.Injective s.world.uuids
  unused : ∀ n, s.world.uuids n ∉ s.rows.tasks.rows.map ObjectDeletionTask.id

/-- The second state has the tasks of the first one and those of the keys. -/
structure ThumbnailState.EnqueuesExactly (s s' : ThumbnailState) (keys : List Text) : Prop where
  tasks : s.rows.tasks.Enqueues s'.rows.tasks keys
  events : s'.rows.events = s.rows.events
  objects : s'.objects = s.objects

/-- All keys are enqueued, or the rows stay as they are because an identifier is taken or the commit
raises. -/
theorem enqueueOrphans_cases {orphans : List Text} (hkeys : ∀ key ∈ orphans, key ≠ [])
    (s : ThumbnailState) :
    (∃ s', (enqueueOrphans orphans).run s = (.ok (), s') ∧ s.EnqueuesExactly s' orphans) ∨
    (¬(s.DrawsUnused ∧ s.outcomes (.commit s.commits) = .returns) ∧
      ∃ raised s', (enqueueOrphans orphans).run s = (.error raised, s') ∧ s'.rows = s.rows) := by
  obtain ⟨stamped, world, hrun, hstamped, hids⟩ := run_stampTasks orphans s
  have hentries : ∀ entry ∈ stamped, entry.1 ≠ [] := by
    intro entry hentry
    refine hkeys entry.1 ?_
    rw [← hstamped]
    exact List.mem_map_of_mem hentry
  rw [enqueueOrphans, Program.run_bind_ok hrun]
  rcases Thumbnails.commit_cases (fun rows =>
      (rows.tasks.enqueueAll stamped).map fun tasks => { rows with tasks := tasks })
      { s with world := world } with
    ⟨rows, hrows, -, hcommit⟩ | ⟨hfailed, raised, hcommit⟩
  · obtain ⟨tasks', htasks', rfl⟩ := Option.map_eq_some_iff.mp hrows
    have henqueued := DeletionTasks.enqueues_of_enqueueAll hentries htasks'
    rw [hstamped] at henqueued
    exact Or.inl ⟨_, hcommit, henqueued, rfl, rfl⟩
  · refine Or.inr ⟨?_, raised, _, hcommit, rfl⟩
    rintro ⟨hdraws, hreturns⟩
    have hnodup : (stamped.map (·.2.1)).Nodup := by
      rw [hids]
      exact List.nodup_range.map hdraws.injective
    have hunused : ∀ id ∈ stamped.map (·.2.1),
        id ∉ s.rows.tasks.rows.map ObjectDeletionTask.id := by
      intro id hid
      rw [hids] at hid
      obtain ⟨n, -, rfl⟩ := List.mem_map.mp hid
      exact hdraws.unused n
    obtain ⟨tasks', htasks'⟩ := DeletionTasks.exists_enqueueAll hnodup hunused
    rcases hfailed with hnone | hraises
    · rw [Option.map_eq_none_iff] at hnone
      change s.rows.tasks.enqueueAll stamped = none at hnone
      rw [htasks'] at hnone
      cases hnone
    · exact hraises hreturns

/-! ## Exactly the orphans -/

theorem mem_listR2Keys {pages : List ListPage} {key : Text} :
    key ∈ listR2Keys pages ↔
      key ≠ [] ∧ ∃ contents, some contents ∈ pages ∧ some key ∈ contents := by
  rw [listR2Keys, List.mem_toFinset, List.mem_flatMap]
  constructor
  · rintro ⟨page, hpage, hkey⟩
    obtain ⟨key', hkey', hfilter⟩ := List.mem_filterMap.mp hkey
    obtain ⟨hkey'', hne⟩ := Option.filter_eq_some_iff.mp hfilter
    subst hkey''
    cases page with
    | none => exact absurd hkey' List.not_mem_nil
    | some contents =>
      refine ⟨?_, contents, hpage, hkey'⟩
      rintro rfl
      cases hne
  · rintro ⟨hne, contents, hpage, hkey⟩
    refine ⟨some contents, hpage, List.mem_filterMap.mpr ⟨some key, hkey, ?_⟩⟩
    refine Option.filter_eq_some_iff.mpr ⟨rfl, ?_⟩
    cases key with
    | nil => exact absurd rfl hne
    | cons => rfl

section References

variable {F : Type} (thumbnailObjectKey : Photo → Option Text) (db : Database F)

theorem mem_referencedKeys {key : Text} (hne : key ≠ []) :
    key ∈ referencedKeys thumbnailObjectKey db ↔ ReferencesKey thumbnailObjectKey db key := by
  have hkey : (!key.isEmpty) = true := by
    cases key with
    | nil => exact absurd rfl hne
    | cons => rfl
  simp only [referencedKeys, ReferencesKey, List.mem_toFinset, List.mem_append, List.mem_map,
    List.mem_filterMap, Option.filter_eq_some_iff, hkey, and_true, and_or_left, exists_or,
    or_assoc]

/-- The orphans are the biometric objects of the bucket that no row references. -/
theorem mem_sensitiveOrphans_iff (context : CaseContext) (tools : ImageTools)
    {listing : BucketListing}
    (hbuilt : ∀ key ∈ listing.objects, ∃ k : ObjectKey, key = k.key context tools) {key : Text} :
    key ∈ sensitiveOrphans thumbnailObjectKey db listing.pages ↔
      key ∈ listing.objects ∧ ¬ReferencesKey thumbnailObjectKey db key ∧
        ∃ k : ObjectKey, k.isBiometric = true ∧ key = k.key context tools := by
  rw [sensitiveOrphans, Finset.mem_filter, Finset.mem_sdiff, mem_listR2Keys, listing.lists]
  constructor
  · rintro ⟨⟨⟨hne, hobject, -⟩, hreferenced⟩, hsensitive⟩
    obtain ⟨k, rfl⟩ := hbuilt key hobject
    rw [mem_referencedKeys thumbnailObjectKey db hne] at hreferenced
    rw [k.isSensitiveTemporaryKey_key] at hsensitive
    exact ⟨hobject, hreferenced, k, hsensitive, rfl⟩
  · rintro ⟨hobject, hreferenced, k, hbiometric, rfl⟩
    have hprefix := k.events_prefix_key context tools
    have hne := k.key_ne_nil context tools
    rw [k.isSensitiveTemporaryKey_key, mem_referencedKeys thumbnailObjectKey db hne]
    exact ⟨⟨⟨hne, hobject, hprefix⟩, hreferenced⟩, hbiometric⟩

end References

/-- What `reconcile` does after its first commit. -/
def finishReconcile (missing orphans : Nat) : Thumbnails (Nat × Nat) := do
  processObjectDeletions (if orphans = 0 then 1 else orphans)
  return (missing, orphans)

/-- When every object of the bucket has a key of a builder, the selfies and the search images are
the sensitive ones, and reconciling enqueues exactly those that no row references, or fails and
leaves the rows as they are. -/
theorem reconcile_enqueues {F : Type} (context : CaseContext) (tools : ImageTools)
    (thumbnailObjectKey : Photo → Option Text) (order : SetOrder) (db : Database F)
    {listing : BucketListing}
    (hbuilt : ∀ key ∈ listing.objects, ∃ k : ObjectKey, key = k.key context tools) :
    let orphans := order.elements (sensitiveOrphans thumbnailObjectKey db listing.pages)
    (∀ k : ObjectKey, isSensitiveTemporaryKey (k.key context tools) = k.isBiometric) ∧
      (∀ key, key ∈ orphans ↔ key ∈ listing.objects ∧ ¬ReferencesKey thumbnailObjectKey db key ∧
        ∃ k : ObjectKey, k.isBiometric = true ∧ key = k.key context tools) ∧
      ∀ s : ThumbnailState,
        (∃ s' missing count, s.EnqueuesExactly s' orphans ∧
          (reconcile thumbnailObjectKey order true listing.pages db).run s =
            (finishReconcile missing count).run s') ∨
        (¬(s.DrawsUnused ∧ s.outcomes (.commit s.commits) = .returns) ∧
          ∃ raised s', (reconcile thumbnailObjectKey order true listing.pages db).run s =
            (.error raised, s') ∧ s'.rows = s.rows) := by
  intro orphans
  have hmem (key : Text) : key ∈ orphans ↔ key ∈ listing.objects ∧
      ¬ReferencesKey thumbnailObjectKey db key ∧
        ∃ k : ObjectKey, k.isBiometric = true ∧ key = k.key context tools := by
    rw [order.mem_iff]
    exact mem_sensitiveOrphans_iff thumbnailObjectKey db context tools hbuilt
  refine ⟨ObjectKey.isSensitiveTemporaryKey_key context tools, hmem, fun s => ?_⟩
  have hkeys : ∀ key ∈ orphans, key ≠ [] := by
    intro key hkey
    obtain ⟨k, -, rfl⟩ := ((hmem key).mp hkey).2.2
    exact k.key_ne_nil context tools
  rcases enqueueOrphans_cases hkeys s with ⟨s', hrun, hexact⟩ | ⟨hfails, raised, s', hrun, hrows⟩
  · refine Or.inl ⟨s', (missingKeys thumbnailObjectKey db listing.pages).card,
      (sensitiveOrphans thumbnailObjectKey db listing.pages).card, hexact, ?_⟩
    exact Program.run_bind_ok hrun
  · exact Or.inr ⟨hfails, raised, s', Program.run_bind_error hrun, hrows⟩

/-! ## A bucket -/

/-- The listing of a bucket with these objects, in one page. -/
def BucketListing.ofKeys (context : CaseContext) (tools : ImageTools) (ks : List ObjectKey) :
    BucketListing where
  objects := ks.map fun k => k.key context tools
  pages := [some (ks.map fun k => some (k.key context tools))]
  lists := by
    intro key
    simp only [List.mem_singleton, Option.some.injEq, exists_eq_left, List.mem_map]
    constructor
    · rintro ⟨k, hk, rfl⟩
      exact ⟨⟨k, hk, rfl⟩, k.events_prefix_key context tools⟩
    · rintro ⟨⟨k, hk, rfl⟩, -⟩
      exact ⟨k, hk, rfl⟩

/-- Sets are gone through in lexicographic order. -/
def sortedOrder : SetOrder where
  elements keys := keys.sort (· ≤ ·)
  nodup keys := Finset.sort_nodup keys _
  mem_iff _ _ := Finset.mem_sort _

/-- A search image that is in use, with the file name of an orphan. -/
def heldImage : FaceSearchImage :=
  ⟨3, 1, 2, (ObjectKey.search 1 2 3 "Me.JPG".toList).key ⟨Char.isAlpha, (· == '.')⟩
    ⟨fun _ => .error .unidentified, fun _ => none, fun _ => [], id⟩, "Me.JPG".toList,
    "image/jpeg".toList, .ready, none⟩

/-- A database with one search image. -/
def heldImageDatabase : Database ℚ :=
  { Database.empty with faceSearchImages := ⟨[heldImage], List.nodup_singleton _⟩ }

/-- No task is there, every call returns and every identifier is new. -/
def freshOutbox : ThumbnailState where
  world := World.still 0 id
  outcomes _ := .returns
  locked := []
  rows := ⟨.empty, .empty⟩
  commits := 0
  objects := []
  putKeys := []
  deleteTargets := []

/-- In a bucket with a photo named like the folder of search images, a search image that is in use,
another one and a selfie, the last two are the orphans, and `reconcile` enqueues them. -/
theorem orphans_enqueued :
    let context : CaseContext := ⟨Char.isAlpha, (· == '.')⟩
    let tools : ImageTools := ⟨fun _ => .error .unidentified, fun _ => none, fun _ => [], id⟩
    let photo := ObjectKey.original 1 5 "face-search.jpg".toList
    let held := ObjectKey.search 1 2 3 "Me.JPG".toList
    let lost := ObjectKey.search 1 2 4 "Me.JPG".toList
    let selfie := ObjectKey.selfie 1 6 7 "Me.JPG".toList
    let orphans := sortedOrder.elements (sensitiveOrphans (fun _ => none) heldImageDatabase
      (BucketListing.ofKeys context tools [photo, held, lost, selfie]).pages)
    lost.key context tools ∈ orphans ∧ selfie.key context tools ∈ orphans ∧
      held.key context tools ∉ orphans ∧ photo.key context tools ∉ orphans ∧
      ∃ s', freshOutbox.EnqueuesExactly s' orphans := by
  intro context tools photo held lost selfie orphans
  have hbuilt : ∀ key ∈ (BucketListing.ofKeys context tools [photo, held, lost, selfie]).objects,
      ∃ k : ObjectKey, key = k.key context tools := by
    intro key hkey
    obtain ⟨k, -, rfl⟩ := List.mem_map.mp hkey
    exact ⟨k, rfl⟩
  obtain ⟨hsensitive, hmem, hreconcile⟩ :=
    reconcile_enqueues context tools (fun _ => none) sortedOrder heldImageDatabase hbuilt
  have hunreferenced : ∀ key, key ≠ heldImage.objectKey →
      ¬ReferencesKey (fun _ => none) heldImageDatabase key := by
    rintro key hne (⟨photo, hphoto, -⟩ | ⟨image, himage, hkey⟩ | ⟨image, himage, -⟩)
    · exact List.not_mem_nil hphoto
    · rw [List.mem_singleton.mp himage] at hkey
      exact hne hkey.symm
    · exact List.not_mem_nil himage
  refine ⟨(hmem _).mpr ⟨?_, hunreferenced _ (by decide +kernel), lost, rfl, rfl⟩,
    (hmem _).mpr ⟨?_, hunreferenced _ (by decide +kernel), selfie, rfl, rfl⟩, fun hheld => ?_,
    fun hphoto => ?_, ?_⟩
  · exact List.mem_map_of_mem (by simp)
  · exact List.mem_map_of_mem (by simp)
  · exact ((hmem _).mp hheld).2.1 (Or.inr (Or.inl ⟨heldImage, List.mem_singleton.mpr rfl, rfl⟩))
  · obtain ⟨k, hbiometric, hkey⟩ := ((hmem _).mp hphoto).2.2
    have hsame := hsensitive k
    rw [← hkey, hsensitive photo, hbiometric] at hsame
    cases hsame
  · rcases hreconcile freshOutbox with ⟨s', -, -, hexact, -⟩ | ⟨hfails, -⟩
    · exact ⟨s', hexact⟩
    · exact absurd ⟨⟨fun _ _ h => h, fun _ => List.not_mem_nil⟩, rfl⟩ hfails

end RaceFrame
