import RaceFrame.Events.Thumbnails

/-!
# Thumbnails under faults

`save_event_thumbnail` for every choice of the calls that raise. Like the uploads
it is all or nothing unless the new key is committed, the refresh raises and the
deletion of the new object takes effect; the outbox that it processes afterwards
deletes only objects that no event references.
-/

namespace RaceFrame

open Core

/-! ## References and tasks -/

/-- An event references the key of an object. -/
def ThumbnailRows.References (rows : ThumbnailRows) (key : Text) : Prop :=
  ∃ event ∈ rows.events.rows, event.thumbnailObjectKey = some key

/-- An event references the key of an object, and did not before. -/
def ThumbnailRows.NewReference (before after : ThumbnailRows) (key : Text) : Prop :=
  ∃ event ∈ after.events.rows, event ∉ before.events.rows ∧ event.thumbnailObjectKey = some key

/-- There is a deletion task for the key. -/
def DeletionTasks.HasKey (tasks : DeletionTasks) (key : Text) : Prop :=
  ∃ task ∈ tasks.rows, task.objectKey = key

/-- No thumbnail that an event references has a deletion task, and no two events share one. -/
structure ThumbnailRows.Owned (rows : ThumbnailRows) : Prop where
  unqueued : ∀ key, rows.References key → ¬rows.tasks.HasKey key
  unshared : ∀ event ∈ rows.events.rows, ∀ event' ∈ rows.events.rows, ∀ key,
    event.thumbnailObjectKey = some key → event'.thumbnailObjectKey = some key → event = event'

/-- Updating rows keeps their keys. -/
theorem hasKey_mapRows {tasks : DeletionTasks} {f : ObjectDeletionTask → ObjectDeletionTask}
    {hf : ∀ task, (f task).id = task.id} (hkey : ∀ task, (f task).objectKey = task.objectKey)
    {key : Text} : DeletionTasks.HasKey (tasks.mapRows f hf) key ↔ tasks.HasKey key := by
  simp only [DeletionTasks.HasKey, Table.mapRows, List.mem_map, exists_exists_and_eq_and, hkey]

theorem hasKey_of_update {tasks : DeletionTasks} {id : Uuid}
    {f : ObjectDeletionTask → ObjectDeletionTask} (hf : ∀ task, (f task).id = task.id)
    (hkey : ∀ task, (f task).objectKey = task.objectKey) {key : Text}
    (h : DeletionTasks.HasKey (tasks.update id f) key) : tasks.HasKey key := by
  obtain ⟨task, htask, rfl⟩ := h
  rcases Table.mem_of_mem_update htask hf with ⟨hmem, -⟩ | ⟨task', htask', rfl⟩
  · exact ⟨task, hmem, rfl⟩
  · exact ⟨task', Table.mem_of_get? htask', (hkey task').symm⟩

/-- Enqueueing adds the one key. -/
theorem hasKey_of_enqueue {tasks tasks' : DeletionTasks} {objectKey key : Text} {id : Uuid}
    {createdAt : Instant} (h : tasks.enqueue objectKey id createdAt = some tasks')
    (hkey : tasks'.HasKey key) : tasks.HasKey key ∨ key = objectKey := by
  rw [DeletionTasks.enqueue] at h
  obtain ⟨task, htask, rfl⟩ := hkey
  split at h
  · rw [← Option.some.inj h] at htask
    exact Or.inl ⟨task, htask, rfl⟩
  · split at h
    · rename_i old hold
      rw [← Option.some.inj h] at htask
      rcases Table.mem_put.mp htask with ⟨rfl, -⟩ | ⟨hmem, -⟩
      · exact Or.inl ⟨old, List.mem_of_find?_eq_some hold, rfl⟩
      · exact Or.inl ⟨task, hmem, rfl⟩
    · rw [Table.rows_of_insert? h, List.mem_append, List.mem_singleton] at htask
      rcases htask with hmem | rfl
      · exact Or.inl ⟨task, hmem, rfl⟩
      · exact Or.inr rfl

/-- A new key that neither an event nor a task has. -/
structure ThumbnailRows.Unused (rows : ThumbnailRows) (key : Text) : Prop where
  unreferenced : ¬rows.References key
  unqueued : ¬rows.tasks.HasKey key

/-- What replacing a thumbnail does to the rows. -/
structure ThumbnailRows.Replaces (before after : ThumbnailRows) (event : EventRow)
    (newKey : Text) : Prop where
  events : after.events = before.events.put { event with thumbnailObjectKey := some newKey }
  known : ∃ row ∈ before.events.rows, row.id = event.id
  hasKey : ∀ key, after.tasks.HasKey key →
    before.tasks.HasKey key ∨ event.thumbnailObjectKey = some key

theorem replaces_of_replaceThumbnail? {rows rows' : ThumbnailRows} {event : EventRow}
    {newKey : Text} {taskId : Uuid} {createdAt : Instant}
    (h : rows.replaceThumbnail? event newKey taskId createdAt = some rows') :
    rows.Replaces rows' event newKey := by
  obtain ⟨row, hrow, h⟩ := Option.bind_eq_some_iff.mp h
  obtain ⟨tasks, htasks, h⟩ := Option.bind_eq_some_iff.mp h
  rw [← Option.some.inj h]
  refine ⟨rfl, ⟨row, Table.mem_of_get? hrow, Table.get?_key hrow⟩, fun key hkey => ?_⟩
  rw [DeletionTasks.enqueuePrevious] at htasks
  cases hprevious : event.previousKey with
  | none =>
    rw [hprevious] at htasks
    rw [← Option.some.inj htasks] at hkey
    exact Or.inl hkey
  | some previousKey =>
    rw [hprevious] at htasks
    refine (hasKey_of_enqueue htasks hkey).imp_right ?_
    rintro rfl
    exact (Option.filter_eq_some_iff.mp hprevious).1

section Replaces

variable {rows rows' : ThumbnailRows} {event : EventRow} {newKey : Text}

/-- The rows after a replacement: the one with the new key and those of other events. -/
theorem ThumbnailRows.Replaces.mem_iff (h : rows.Replaces rows' event newKey) {row : EventRow} :
    row ∈ rows'.events.rows ↔ row = { event with thumbnailObjectKey := some newKey } ∨
      (row ∈ rows.events.rows ∧ row.id ≠ event.id) := by
  rw [h.events, Table.mem_put]
  exact or_congr_left (and_iff_left h.known)

/-- What is referenced after a replacement. -/
theorem ThumbnailRows.Replaces.references (h : rows.Replaces rows' event newKey) {key : Text}
    (hkey : rows'.References key) : key = newKey ∨
      ∃ row ∈ rows.events.rows, row.id ≠ event.id ∧ row.thumbnailObjectKey = some key := by
  obtain ⟨row, hrow, hkey⟩ := hkey
  rcases h.mem_iff.mp hrow with rfl | ⟨hmem, hne⟩
  · exact Or.inl (Option.some.inj hkey).symm
  · exact Or.inr ⟨row, hmem, hne, hkey⟩

/-- The new key is the only one that is referenced anew. -/
theorem ThumbnailRows.Replaces.eq_of_newReference (h : rows.Replaces rows' event newKey)
    {key : Text} (hkey : rows.NewReference rows' key) : key = newKey := by
  obtain ⟨row, hrow, hnew, hkey⟩ := hkey
  rcases h.mem_iff.mp hrow with rfl | ⟨hmem, -⟩
  · exact (Option.some.inj hkey).symm
  · exact absurd hmem hnew

theorem ThumbnailRows.Replaces.newReference (h : rows.Replaces rows' event newKey)
    (hunused : ¬rows.References newKey) : rows.NewReference rows' newKey := by
  refine ⟨{ event with thumbnailObjectKey := some newKey }, h.mem_iff.mpr (Or.inl rfl), ?_, rfl⟩
  exact fun hmem => hunused ⟨_, hmem, rfl⟩

theorem ThumbnailRows.Replaces.events_ne (h : rows.Replaces rows' event newKey)
    (hunused : ¬rows.References newKey) : rows'.events ≠ rows.events := by
  intro heq
  obtain ⟨row, hrow, hnew, -⟩ := h.newReference hunused
  exact hnew (heq ▸ hrow)

/-- A replacement by a new key keeps the thumbnails owned: the previous key has a task now, but is
no longer referenced. -/
theorem ThumbnailRows.Owned.replace (howned : rows.Owned) (h : rows.Replaces rows' event newKey)
    (hevent : event ∈ rows.events.rows) (hunused : rows.Unused newKey) : rows'.Owned where
  unqueued key href hkey := by
    rcases h.hasKey key hkey with hold | hold
    · rcases h.references href with rfl | ⟨row, hrow, -, hrowKey⟩
      · exact hunused.unqueued hold
      · exact howned.unqueued key ⟨row, hrow, hrowKey⟩ hold
    · rcases h.references href with rfl | ⟨row, hrow, hne, hrowKey⟩
      · exact hunused.unreferenced ⟨event, hevent, hold⟩
      · exact hne (congrArg EventRow.id (howned.unshared row hrow event hevent key hrowKey hold))
  unshared row hrow row' hrow' key hkey hkey' := by
    rcases h.mem_iff.mp hrow with rfl | ⟨hmem, -⟩
    · rcases h.mem_iff.mp hrow' with rfl | ⟨hmem', -⟩
      · rfl
      · rw [← hkey] at hkey'
        exact absurd ⟨row', hmem', hkey'⟩ hunused.unreferenced
    · rcases h.mem_iff.mp hrow' with rfl | ⟨hmem', -⟩
      · rw [← hkey'] at hkey
        exact absurd ⟨row, hmem, hkey⟩ hunused.unreferenced
      · exact howned.unshared row hmem row' hmem' key hkey hkey'

end Replaces

/-! ## Calls -/

namespace Thumbnails

@[simp] theorem run_uuid4_bind {β : Type} (s : ThumbnailState) (f : Uuid → Thumbnails β) :
    (uuid4 >>= f).run s = (f (s.world.uuids 0)).run { s with world := s.world.draw 1 } := rfl

@[simp] theorem run_utcNow_bind {β : Type} (s : ThumbnailState) (f : Instant → Thumbnails β) :
    (utcNow >>= f).run s = (f (s.world.clock 0)).run { s with world := s.world.tick } := rfl

/-- A put stores its object or leaves everything as it is. -/
theorem putObject_cases (objectKey : Text) (s : ThumbnailState) :
    (s.outcomes (.put objectKey) = .returns ∧ (putObject objectKey).run s = (.ok (),
      { s with objects := objectKey :: s.objects, putKeys := objectKey :: s.putKeys })) ∨
    (s.outcomes (.put objectKey) ≠ .returns ∧
      ∃ raised, (putObject objectKey).run s = (.error raised, s)) := by
  by_cases h : s.outcomes (.put objectKey) = .returns
  · refine Or.inl ⟨h, ?_⟩
    simp [putObject, h]
  · refine Or.inr ⟨h, .runtimeError "put_object", ?_⟩
    simp [putObject, h]

/-- A commit persists the change or leaves everything as it is. -/
theorem commit_cases (change : ThumbnailRows → Option ThumbnailRows) (s : ThumbnailState) :
    (∃ rows, change s.rows = some rows ∧ s.outcomes (.commit s.commits) = .returns ∧
      (commit change).run s = (.ok (), { s with rows := rows, commits := s.commits + 1 })) ∨
    ((change s.rows = none ∨ s.outcomes (.commit s.commits) ≠ .returns) ∧
      ∃ raised, (commit change).run s = (.error raised, s)) := by
  cases hchange : change s.rows with
  | none =>
    refine Or.inr ⟨Or.inl rfl, .integrityError, ?_⟩
    simp [commit, hchange]
  | some rows =>
    by_cases h : s.outcomes (.commit s.commits) = .returns
    · refine Or.inl ⟨rows, rfl, h, ?_⟩
      simp [commit, hchange, h]
    · refine Or.inr ⟨Or.inr h, .runtimeError "commit", ?_⟩
      simp [commit, hchange, h]

/-- A refresh changes nothing. -/
theorem refresh_cases (s : ThumbnailState) :
    (s.outcomes .refresh = .returns ∧ refresh.run s = (.ok (), s)) ∨
    (s.outcomes .refresh ≠ .returns ∧ ∃ raised, refresh.run s = (.error raised, s)) := by
  by_cases h : s.outcomes .refresh = .returns
  · refine Or.inl ⟨h, ?_⟩
    simp [refresh, h]
  · refine Or.inr ⟨h, .runtimeError "refresh", ?_⟩
    simp [refresh, h]

/-- What a deletion leaves, whether it raises or not. -/
theorem run_deleteObject {s : ThumbnailState} {key : Text} (hkey : key ≠ []) :
    ((deleteObject key).run s).2 =
      { s with
        objects := if s.outcomes (.delete key) = .raises then s.objects
          else s.objects.filter (· != key)
        deleteTargets := key :: s.deleteTargets } := by
  have hne : key.isEmpty = false := List.isEmpty_eq_false_iff.mpr hkey
  rw [deleteObject, hne]
  cases houtcome : s.outcomes (.delete key) <;> simp [Program.run_bind, houtcome]

end Thumbnails

/-! ## The outbox -/

/-- What a part of `process_object_deletions` may do: it deletes objects of tasks. -/
structure ThumbnailState.Processes (s s' : ThumbnailState) : Prop where
  events : s'.rows.events = s.rows.events
  outcomes : s'.outcomes = s.outcomes
  hasKey : ∀ key, s'.rows.tasks.HasKey key → s.rows.tasks.HasKey key
  objects : ∀ key ∈ s.objects, key ∈ s'.objects ∨ s.rows.tasks.HasKey key
  deleteTargets : ∀ key ∈ s'.deleteTargets, key ∈ s.deleteTargets ∨ s.rows.tasks.HasKey key

namespace ThumbnailState.Processes

theorem refl (s : ThumbnailState) : s.Processes s :=
  ⟨rfl, rfl, fun _ h => h, fun _ h => Or.inl h, fun _ h => Or.inl h⟩

theorem trans {s t u : ThumbnailState} (h : s.Processes t) (h' : t.Processes u) :
    s.Processes u where
  events := h'.events.trans h.events
  outcomes := h'.outcomes.trans h.outcomes
  hasKey key hkey := h.hasKey key (h'.hasKey key hkey)
  objects key hkey := by
    rcases h.objects key hkey with hkey | hkey
    · exact (h'.objects key hkey).imp_right (h.hasKey key)
    · exact Or.inr hkey
  deleteTargets key hkey := by
    rcases h'.deleteTargets key hkey with hkey | hkey
    · exact h.deleteTargets key hkey
    · exact Or.inr (h.hasKey key hkey)

instance : Std.Refl ThumbnailState.Processes := ⟨refl⟩

instance : IsTrans ThumbnailState ThumbnailState.Processes := ⟨fun _ _ _ h h' => h.trans h'⟩

end ThumbnailState.Processes

open Program ThumbnailState

private theorem within_commit (update : DeletionTasks → DeletionTasks)
    (hkeys : ∀ tasks key, (update tasks).HasKey key → tasks.HasKey key) :
    Within Processes (Thumbnails.commit fun rows =>
      some { rows with tasks := update rows.tasks }) := by
  intro s
  rcases Thumbnails.commit_cases (fun rows => some { rows with tasks := update rows.tasks }) s with
    ⟨rows, hrows, -, hrun⟩ | ⟨-, e, hrun⟩
  · rw [hrun, ← Option.some.inj hrows]
    exact ⟨rfl, rfl, hkeys s.rows.tasks, fun _ h => Or.inl h, fun _ h => Or.inl h⟩
  · rw [hrun]
    exact Processes.refl s

private theorem within_utcNow : Within Processes Thumbnails.utcNow :=
  fun _ => ⟨rfl, rfl, fun _ h => h, fun _ h => Or.inl h, fun _ h => Or.inl h⟩

private theorem within_uuid4s (n : Nat) : Within Processes (Thumbnails.uuid4s n) :=
  fun _ => ⟨rfl, rfl, fun _ h => h, fun _ h => Or.inl h, fun _ h => Or.inl h⟩

private theorem processes_deleteObject {s : ThumbnailState} {key : Text}
    (hkey : s.rows.tasks.HasKey key) :
    s.Processes ((Thumbnails.deleteObject key).run s).2 := by
  by_cases hne : key = []
  · rw [hne]
    exact Processes.refl s
  · rw [Thumbnails.run_deleteObject hne]
    refine ⟨rfl, rfl, fun _ h => h, fun k hk => ?_, fun k hk => ?_⟩
    · by_cases hk' : k = key
      · exact Or.inr (hk' ▸ hkey)
      · left
        dsimp only
        split
        · exact hk
        · exact List.mem_filter.mpr ⟨hk, bne_iff_ne.mpr hk'⟩
    · rcases List.mem_cons.mp hk with rfl | hk
      · exact Or.inr hkey
      · exact Or.inl hk

private theorem within_processDeletion (attempt : Uuid × Uuid) :
    Within Processes (processDeletion attempt) := by
  intro s
  unfold processDeletion
  rw [run_gets_bind]
  cases hloaded : s.rows.tasks.get? attempt.1 with
  | none => exact Processes.refl s
  | some task =>
    dsimp only
    split
    · rw [run_attempt_bind]
      have hqueued : s.rows.tasks.HasKey task.objectKey :=
        ⟨task, Table.mem_of_get? hloaded, rfl⟩
      refine (processes_deleteObject hqueued).trans ?_
      refine (within_utcNow.bind fun now => ?_) _
      refine within_commit (fun tasks => tasks.update task.id fun row => .flush task _ row)
        fun tasks key hkey => ?_
      exact hasKey_of_update (fun row => ObjectDeletionTask.flush_id task _ row) (fun _ => rfl) hkey
    · exact Processes.refl s

private theorem claimed_objectKey (task : ObjectDeletionTask) (attempts : List (Uuid × Uuid))
    (now : Instant) : (match attempts.lookup task.id with
      | some attemptId => task.claimed attemptId now
      | none => task).objectKey = task.objectKey := by
  cases attempts.lookup task.id <;> rfl

/-- Processing the outbox deletes objects of tasks only. -/
theorem within_processObjectDeletions (limit : Nat) :
    Within Processes (processObjectDeletions limit) := by
  unfold processObjectDeletions
  refine within_utcNow.bind fun now => ?_
  refine (within_commit (fun tasks => tasks.mapRows (fun task => task.reaped now)
    (fun task => task.reaped_id now)) fun tasks key hkey => ?_).bind fun _ => ?_
  · refine (hasKey_mapRows fun task => ?_).mp hkey
    rw [ObjectDeletionTask.reaped]
    split <;> rfl
  · refine (within_gets _).bind fun taskIds => ?_
    refine (within_uuid4s _).bind fun attemptIds => ?_
    refine (within_commit (fun tasks => DeletionSystem.claimRows tasks _ now)
      fun tasks key hkey => ?_).bind fun _ => ?_
    · exact (hasKey_mapRows fun task => claimed_objectKey task _ now).mp hkey
    · exact Within.forM fun attempt _ => within_processDeletion attempt

/-! ## Saving -/

/-- An event's thumbnail has been deleted by the call. -/
def ThumbnailState.Deleted (s : ThumbnailState) (key : Text) : Prop :=
  key ∈ s.deleteTargets ∧ s.outcomes (.delete key) ≠ .raises

/-- Before a thumbnail of a loaded event is saved: nothing is called yet, the thumbnails are owned,
and no key has an identifier that is still to be drawn. -/
structure ThumbnailState.Begins (s : ThumbnailState) (event : EventRow) : Prop where
  loaded : event ∈ s.rows.events.rows
  commits : s.commits = 0
  putKeys : s.putKeys = []
  deleteTargets : s.deleteTargets = []
  owned : s.rows.Owned
  fresh : ∀ n key, uuidText (s.world.uuids n) <:+: key → s.rows.Unused key

/-- Saving a thumbnail is all or nothing: the new key is committed and its object is stored, or no
new key is committed and every object that was stored has been the target of a deletion; and no
event references an object that the call has deleted. -/
structure SavesAllOrNothing (s s' : ThumbnailState) : Prop where
  ended : (s'.rows.events ≠ s.rows.events ∧
      ∀ key, s.rows.NewReference s'.rows key → key ∈ s'.objects) ∨
    (s'.rows.events = s.rows.events ∧ ∀ key ∈ s'.putKeys, key ∈ s'.deleteTargets)
  intact : ∀ key, s'.rows.References key → ¬s'.Deleted key

/-- The new key is committed: the object is stored, and the database accepts the rows. -/
structure CommitsThumbnail (event : EventRow) (s : ThumbnailState) : Prop where
  stored : s.outcomes (.put (eventThumbnailKey event.id (s.world.uuids 0))) = .returns
  replaced : (s.rows.replaceThumbnail? event (eventThumbnailKey event.id (s.world.uuids 0))
    (s.world.uuids 1) (s.world.clock 0)).isSome
  committed : s.outcomes (.commit 0) = .returns

theorem infix_eventThumbnailKey (eventId id : Uuid) :
    uuidText id <:+: eventThumbnailKey eventId id :=
  (List.suffix_append _ _).isInfix.trans (List.prefix_append _ _).isInfix

variable {s : ThumbnailState} {event : EventRow}

/-- The new key has a new identifier. -/
theorem ThumbnailState.Begins.unused (hs : s.Begins event) :
    s.rows.Unused (eventThumbnailKey event.id (s.world.uuids 0)) :=
  hs.fresh 0 _ (infix_eventThumbnailKey _ _)

/-- The ends of publishing a thumbnail: refreshed, committed but not refreshed, or not
committed. -/
private theorem publishThumbnail_cases (s : ThumbnailState) (event : EventRow) (newKey : Text) :
    (∃ rows, s.rows.replaceThumbnail? event newKey (s.world.uuids 0) (s.world.clock 0) =
          some rows ∧ s.outcomes (.commit s.commits) = .returns ∧
        ((s.outcomes .refresh = .returns ∧ (publishThumbnail event newKey).run s = (.ok (),
            { s with
              world := (s.world.draw 1).tick, rows := rows, commits := s.commits + 1 })) ∨
          (s.outcomes .refresh ≠ .returns ∧ ∃ e, (publishThumbnail event newKey).run s = (.error e,
            { s with
              world := (s.world.draw 1).tick, rows := rows, commits := s.commits + 1 })))) ∨
    ((s.rows.replaceThumbnail? event newKey (s.world.uuids 0) (s.world.clock 0) = none ∨
        s.outcomes (.commit s.commits) ≠ .returns) ∧
      ∃ e, (publishThumbnail event newKey).run s =
        (.error e, { s with world := (s.world.draw 1).tick })) := by
  unfold publishThumbnail
  simp only [Thumbnails.run_uuid4_bind, Thumbnails.run_utcNow_bind]
  rcases Thumbnails.commit_cases (fun rows => rows.replaceThumbnail? event newKey
      (s.world.uuids 0) (s.world.clock 0)) { s with world := (s.world.draw 1).tick } with
    ⟨rows, hrows, hcommit, hrun⟩ | ⟨hrefused, e, hrun⟩
  · refine Or.inl ⟨rows, hrows, hcommit, ?_⟩
    rcases Thumbnails.refresh_cases { s with
      world := (s.world.draw 1).tick, rows := rows, commits := s.commits + 1 } with
      ⟨hrefresh, hrest⟩ | ⟨hrefresh, e, hrest⟩
    · exact Or.inl ⟨hrefresh, (run_bind_ok hrun).trans hrest⟩
    · exact Or.inr ⟨hrefresh, e, (run_bind_ok hrun).trans hrest⟩
  · exact Or.inr ⟨hrefused, e, run_bind_error hrun⟩

/-- A thumbnail that has been replaced stays stored, whatever is processed afterwards. -/
private theorem savesAllOrNothing_of_processes {u v : ThumbnailState} (hs : s.Begins event)
    {newKey : Text} (hunused : s.rows.Unused newKey)
    (hreplaces : s.rows.Replaces u.rows event newKey) (hstored : newKey ∈ u.objects)
    (hdelete : u.deleteTargets = []) (h : u.Processes v) : SavesAllOrNothing s v := by
  have howned := hs.owned.replace hreplaces hs.loaded hunused
  have href : ∀ key, v.rows.References key → u.rows.References key := by
    intro key hkey
    rwa [ThumbnailRows.References, h.events] at hkey
  refine ⟨Or.inl ⟨?_, fun key hkey => ?_⟩, fun key hkey hdeleted => ?_⟩
  · rw [h.events]
    exact hreplaces.events_ne hunused.unreferenced
  · have hnew : s.rows.NewReference u.rows key := by
      rwa [ThumbnailRows.NewReference, h.events] at hkey
    rw [hreplaces.eq_of_newReference hnew]
    rcases h.objects newKey hstored with hmem | hqueued
    · exact hmem
    · obtain ⟨row, hrow, -, hrowKey⟩ := hreplaces.newReference hunused.unreferenced
      exact absurd hqueued (howned.unqueued newKey ⟨row, hrow, hrowKey⟩)
  · rcases h.deleteTargets key hdeleted.1 with hmem | hqueued
    · rw [hdelete] at hmem
      cases hmem
    · exact howned.unqueued key (href key hkey) hqueued

/-- A thumbnail that has been replaced and whose object is compensated is all or nothing only if the
deletion does not take effect. -/
private theorem savesAllOrNothing_compensated_iff {u : ThumbnailState} {newKey : Text}
    (hunused : s.rows.Unused newKey) (hreplaces : s.rows.Replaces u.rows event newKey)
    (hstored : newKey ∈ u.objects) (hdelete : u.deleteTargets = []) (hne : newKey ≠ []) :
    SavesAllOrNothing s ((Thumbnails.deleteObject newKey).run u).2 ↔
      u.outcomes (.delete newKey) = .raises := by
  rw [Thumbnails.run_deleteObject hne]
  constructor
  · intro h
    rcases h.ended with ⟨-, hobjects⟩ | ⟨hsame, -⟩
    · have hkept := hobjects newKey (hreplaces.newReference hunused.unreferenced)
      dsimp only at hkept
      by_contra heffect
      rw [if_neg heffect] at hkept
      simp at hkept
    · exact absurd hsame (hreplaces.events_ne hunused.unreferenced)
  · intro hraises
    refine ⟨Or.inl ⟨hreplaces.events_ne hunused.unreferenced, fun key hkey => ?_⟩,
      fun key _ hdeleted => ?_⟩
    · rw [hreplaces.eq_of_newReference hkey]
      dsimp only
      rwa [if_pos hraises]
    · obtain ⟨hmem, heffect⟩ := hdeleted
      dsimp only at hmem heffect
      rw [hdelete, List.mem_singleton] at hmem
      exact heffect (hmem ▸ hraises)

/-- A thumbnail that is compensated before its commit leaves nothing. -/
private theorem savesAllOrNothing_of_compensated {u : ThumbnailState} {newKey : Text}
    (hunused : s.rows.Unused newKey) (hrows : u.rows = s.rows) (hput : u.putKeys = [newKey])
    (hdelete : u.deleteTargets = []) (hne : newKey ≠ []) :
    SavesAllOrNothing s ((Thumbnails.deleteObject newKey).run u).2 := by
  rw [Thumbnails.run_deleteObject hne]
  refine ⟨Or.inr ⟨congrArg ThumbnailRows.events hrows, fun key hkey => ?_⟩,
    fun key hkey hdeleted => ?_⟩
  · dsimp only at hkey ⊢
    rw [hput] at hkey
    rwa [hdelete]
  · obtain ⟨hmem, -⟩ := hdeleted
    dsimp only at hmem hkey
    rw [hdelete, List.mem_singleton] at hmem
    rw [hrows, hmem] at hkey
    exact hunused.unreferenced hkey

/-- After the object is stored. -/
def ThumbnailState.stored (s : ThumbnailState) (event : EventRow) : ThumbnailState :=
  { s with
    world := ((s.world.draw 1).draw 1).tick
    objects := eventThumbnailKey event.id (s.world.uuids 0) :: s.objects
    putKeys := eventThumbnailKey event.id (s.world.uuids 0) :: s.putKeys }

/-- After the commit of the rows. -/
def ThumbnailState.published (s : ThumbnailState) (event : EventRow) (rows : ThumbnailRows) :
    ThumbnailState :=
  { s.stored event with rows := rows, commits := s.commits + 1 }

/-- The ends of saving a thumbnail: the object is not stored; or the rows are committed, and then
refreshed and the outbox processed, or not refreshed and the object compensated; or the rows are not
committed and the object is compensated. -/
theorem saveEventThumbnail_cases (s : ThumbnailState) (event : EventRow) :
    (s.outcomes (.put (eventThumbnailKey event.id (s.world.uuids 0))) ≠ .returns ∧
      ((saveEventThumbnail event).run s).2 = { s with world := s.world.draw 1 }) ∨
    s.outcomes (.put (eventThumbnailKey event.id (s.world.uuids 0))) = .returns ∧
      ((∃ rows, s.rows.replaceThumbnail? event (eventThumbnailKey event.id (s.world.uuids 0))
            (s.world.uuids 1) (s.world.clock 0) = some rows ∧
          s.outcomes (.commit s.commits) = .returns ∧
          ((s.outcomes .refresh = .returns ∧
              (s.published event rows).Processes ((saveEventThumbnail event).run s).2) ∨
            (s.outcomes .refresh ≠ .returns ∧ ((saveEventThumbnail event).run s).2 =
              ((Thumbnails.deleteObject (eventThumbnailKey event.id (s.world.uuids 0))).run
                (s.published event rows)).2))) ∨
        ((s.rows.replaceThumbnail? event (eventThumbnailKey event.id (s.world.uuids 0))
            (s.world.uuids 1) (s.world.clock 0) = none ∨
              s.outcomes (.commit s.commits) ≠ .returns) ∧
          ((saveEventThumbnail event).run s).2 =
            ((Thumbnails.deleteObject (eventThumbnailKey event.id (s.world.uuids 0))).run
              (s.stored event)).2)) := by
  unfold saveEventThumbnail
  rw [Thumbnails.run_uuid4_bind]
  dsimp only
  rcases Thumbnails.putObject_cases (eventThumbnailKey event.id (s.world.uuids 0))
    { s with world := s.world.draw 1 } with ⟨hput, hrun⟩ | ⟨hput, e, hrun⟩
  · refine Or.inr ⟨hput, ?_⟩
    rw [run_bind_ok hrun, run_attempt_bind]
    rcases publishThumbnail_cases { s with
        world := s.world.draw 1
        objects := eventThumbnailKey event.id (s.world.uuids 0) :: s.objects
        putKeys := eventThumbnailKey event.id (s.world.uuids 0) :: s.putKeys } event
        (eventThumbnailKey event.id (s.world.uuids 0)) with
      ⟨rows, hrows, hcommit, ⟨hrefresh, hpublish⟩ | ⟨hrefresh, e, hpublish⟩⟩ |
      ⟨hrefused, e, hpublish⟩
    · refine Or.inl ⟨rows, hrows, hcommit, Or.inl ⟨hrefresh, ?_⟩⟩
      rw [hpublish]
      dsimp only
      split
      · exact within_processObjectDeletions 1 _
      · exact ThumbnailState.Processes.refl _
    · refine Or.inl ⟨rows, hrows, hcommit, Or.inr ⟨hrefresh, ?_⟩⟩
      rw [hpublish]
      rfl
    · refine Or.inr ⟨hrefused, ?_⟩
      rw [hpublish]
      rfl
  · refine Or.inl ⟨hput, ?_⟩
    rw [run_bind_error hrun]

private theorem eventThumbnailKey_ne_nil (eventId id : Uuid) :
    eventThumbnailKey eventId id ≠ [] := by
  intro hnil
  have hinfix := infix_eventThumbnailKey eventId id
  rw [hnil, List.infix_nil] at hinfix
  simp [uuidText] at hinfix

/-- Saving a thumbnail is all or nothing unless the new key is committed, the refresh raises and the
deletion of the new object takes effect. -/
theorem saveEventThumbnail_allOrNothing_iff (hs : s.Begins event) :
    SavesAllOrNothing s ((saveEventThumbnail event).run s).2 ↔
      ¬(CommitsThumbnail event s ∧ s.outcomes .refresh ≠ .returns ∧
        s.outcomes (.delete (eventThumbnailKey event.id (s.world.uuids 0))) ≠ .raises) := by
  have hne := eventThumbnailKey_ne_nil event.id (s.world.uuids 0)
  have hcommits := hs.commits
  rcases saveEventThumbnail_cases s event with ⟨hput, hrun⟩ | ⟨hput,
    ⟨rows, hrows, hcommit, ⟨hrefresh, hprocesses⟩ | ⟨hrefresh, hrun⟩⟩ | ⟨hrefused, hrun⟩⟩
  · rw [hrun]
    refine iff_of_true ⟨Or.inr ⟨rfl, fun key hkey => ?_⟩, fun key _ hdeleted => ?_⟩
      fun h => hput h.1.stored
    · have hkey : key ∈ s.putKeys := hkey
      rw [hs.putKeys] at hkey
      cases hkey
    · have hmem : key ∈ s.deleteTargets := hdeleted.1
      rw [hs.deleteTargets] at hmem
      cases hmem
  · refine iff_of_true ?_ fun h => h.2.1 hrefresh
    exact savesAllOrNothing_of_processes (u := s.published event rows) hs hs.unused
      (replaces_of_replaceThumbnail? hrows) List.mem_cons_self hs.deleteTargets hprocesses
  · rw [hrun]
    refine (savesAllOrNothing_compensated_iff (u := s.published event rows) hs.unused
      (replaces_of_replaceThumbnail? hrows) List.mem_cons_self hs.deleteTargets hne).trans ?_
    refine ⟨fun hraises h => h.2.2 hraises, fun h => ?_⟩
    by_contra heffect
    rw [hcommits] at hcommit
    exact h ⟨⟨hput, Option.isSome_iff_exists.mpr ⟨rows, hrows⟩, hcommit⟩, hrefresh, heffect⟩
  · rw [hrun]
    refine iff_of_true (savesAllOrNothing_of_compensated hs.unused rfl (congrArg _ hs.putKeys)
      hs.deleteTargets hne) fun h => ?_
    rcases hrefused with hnone | hraises
    · have hreplaced := h.1.replaced
      rw [hnone] at hreplaced
      cases hreplaced
    · rw [hcommits] at hraises
      exact hraises h.1.committed

/-- Saving a thumbnail keeps the thumbnails owned, whatever raises. -/
theorem saveEventThumbnail_owned (hs : s.Begins event) :
    ((saveEventThumbnail event).run s).2.rows.Owned := by
  have hne := eventThumbnailKey_ne_nil event.id (s.world.uuids 0)
  rcases saveEventThumbnail_cases s event with ⟨-, hrun⟩ | ⟨-,
    ⟨rows, hrows, -, ⟨-, hprocesses⟩ | ⟨-, hrun⟩⟩ | ⟨-, hrun⟩⟩
  · rw [hrun]
    exact hs.owned
  · have howned := hs.owned.replace (replaces_of_replaceThumbnail? hrows) hs.loaded hs.unused
    refine ⟨fun key href hkey => ?_, ?_⟩
    · rw [ThumbnailRows.References, hprocesses.events] at href
      exact howned.unqueued key href (hprocesses.hasKey key hkey)
    · rw [hprocesses.events]
      exact howned.unshared
  · rw [hrun, Thumbnails.run_deleteObject hne]
    exact hs.owned.replace (replaces_of_replaceThumbnail? hrows) hs.loaded hs.unused
  · rw [hrun, Thumbnails.run_deleteObject hne]
    exact hs.owned

end RaceFrame
