import RaceFrame.Core.Traces
import RaceFrame.Events.ThumbnailFaults

/-!
# Traces of thumbnails

`remove_event_thumbnail`, and what the saving and the removing of a thumbnail
commit, statement by statement: one change of the key of the event, with the
deletion task of the previous key, and after it only the outbox's bookkeeping.
-/

namespace RaceFrame

open Core

/-! ## Removing -/

/-- The flush of a removed thumbnail: the key of the event is cleared, and gets a deletion task. -/
def ThumbnailRows.removeThumbnail? (rows : ThumbnailRows) (event : EventRow) (taskId : Uuid)
    (createdAt : Instant) : Option ThumbnailRows := do
  let _ ← rows.events.get? event.id
  let tasks ← rows.tasks.enqueuePrevious event taskId createdAt
  let events := rows.events.put { event with thumbnailObjectKey := none }
  return { events := events, tasks := tasks }

/-- `remove_event_thumbnail`. -/
def removeEventThumbnail (event : EventRow) : Thumbnails Bool :=
  if event.previousKey.isNone then return false
  else do
    let taskId ← Thumbnails.uuid4
    let createdAt ← Thumbnails.utcNow
    Thumbnails.commit fun rows => rows.removeThumbnail? event taskId createdAt
    Thumbnails.refresh
    processObjectDeletions 1
    return true

/-! ## What is kept -/

/-- The rows without the state of the deletion tasks. -/
def ThumbnailRows.outline (rows : ThumbnailRows) : Table EventRow EventRow.id × List Text :=
  (rows.events, rows.tasks.rows.map ObjectDeletionTask.objectKey)

namespace Thumbnails

open Program

theorem preserves_putObject (objectKey : Text) :
    Preserves (fun s => (s.rows, s.world)) (putObject objectKey) := by
  refine (preserves_gets _).bind fun outcome => ?_
  exact Preserves.ite (preserves_modify fun _ => rfl) (preserves_raise _)

theorem preserves_deleteObject (objectKey : Text) :
    Preserves ThumbnailState.rows (deleteObject objectKey) := by
  refine Preserves.ite (preserves_pure _) ?_
  refine Preserves.bind (preserves_modify fun _ => rfl) fun _ => ?_
  refine (preserves_gets _).bind fun outcome => ?_
  have hend : Preserves ThumbnailState.rows (if outcome ≠ .returns then
      raise (.runtimeError "delete_object") else pure () : Thumbnails Unit) :=
    Preserves.ite (preserves_raise _) (preserves_pure _)
  exact Preserves.ite (Preserves.bind (preserves_modify fun _ => rfl) fun _ => hend) hend

theorem preserves_refresh : Preserves ThumbnailState.rows refresh := by
  refine (preserves_gets _).bind fun outcome => ?_
  exact Preserves.ite (preserves_pure _) (preserves_raise _)

theorem preserves_utcNow : Preserves ThumbnailState.rows utcNow :=
  (preserves_gets _).bind fun now =>
    Preserves.bind (preserves_modify fun _ => rfl) fun _ => preserves_pure now

theorem preserves_uuid4s (n : Nat) : Preserves ThumbnailState.rows (uuid4s n) :=
  (preserves_gets _).bind fun ids =>
    Preserves.bind (preserves_modify fun _ => rfl) fun _ => preserves_pure ids

/-- A commit goes along what its change goes along. -/
theorem leads_commit {R : ThumbnailRows → ThumbnailRows → Prop} [Std.Refl R]
    [IsTrans ThumbnailRows R] {P Q : ThumbnailState → Prop}
    {change : ThumbnailRows → Option ThumbnailRows}
    (hR : ∀ s rows, P s → change s.rows = some rows → R s.rows rows)
    (hQ : ∀ s rows, P s → change s.rows = some rows →
      Q { s with rows := rows, commits := s.commits + 1 }) :
    Leads (Along ThumbnailState.rows R) P (commit change) fun _ => Q := by
  refine leads_gets_bind fun changed => ?_
  cases changed with
  | none => exact leads_raise _
  | some rows =>
    refine leads_gets_bind fun outcome => ?_
    by_cases hreturns : outcome = .returns
    · rw [if_pos hreturns]
      exact leads_modify (fun s hs => hR s rows hs.1.1 hs.1.2) fun s hs =>
        hQ s rows hs.1.1 hs.1.2
    · rw [if_neg hreturns]
      exact leads_raise _

end Thumbnails

open Program Thumbnails

private theorem outlined {α : Type} {x : Thumbnails α} (h : Preserves ThumbnailState.rows x) :
    Preserves (fun s => s.rows.outline) x := h.comp ThumbnailRows.outline

/-- Bookkeeping of the deletion tasks keeps their keys. -/
private theorem preserves_commitTasks (update : DeletionTasks → DeletionTasks)
    (h : ∀ tasks, (update tasks).rows.map ObjectDeletionTask.objectKey =
      tasks.rows.map ObjectDeletionTask.objectKey) :
    Preserves (fun s => s.rows.outline)
      (Thumbnails.commit fun rows => some { rows with tasks := update rows.tasks }) := by
  refine Leads.preserves (Q := fun _ _ => True) ?_
  refine leads_commit (R := Along ThumbnailRows.outline Eq) (fun s rows _ hrows => ?_)
    fun _ _ _ _ => trivial
  rw [← Option.some.inj hrows]
  exact Prod.ext rfl (h s.rows.tasks).symm

private theorem map_objectKey_update (tasks : DeletionTasks) (id : Uuid)
    {f : ObjectDeletionTask → ObjectDeletionTask} (hf : ∀ task, (f task).id = task.id)
    (hkey : ∀ task, (f task).objectKey = task.objectKey) :
    (tasks.update id f).rows.map ObjectDeletionTask.objectKey =
      tasks.rows.map ObjectDeletionTask.objectKey := by
  rw [Table.update]
  cases hget : tasks.get? id with
  | none => rfl
  | some old =>
    dsimp only
    rw [Table.put, List.map_map]
    refine List.map_congr_left fun task htask => ?_
    by_cases hid : task.id = (f old).id
    · have hsame : task = old := by
        rw [hf] at hid
        exact Table.eq_of_key_eq htask (Table.mem_of_get? hget) hid
      rw [Function.comp_apply, if_pos hid, hkey, hsame]
    · rw [Function.comp_apply, if_neg hid]

private theorem preserves_processDeletion (attempt : Uuid × Uuid) :
    Preserves (fun s => s.rows.outline) (processDeletion attempt) := by
  refine (preserves_gets _).bind fun loaded => ?_
  cases loaded with
  | none => exact preserves_pure _
  | some task =>
    refine Preserves.ite ?_ (preserves_pure _)
    refine Preserves.bind (outlined (preserves_deleteObject _).attempt) fun outcome => ?_
    refine (outlined preserves_utcNow).bind fun now => ?_
    refine preserves_commitTasks (fun tasks =>
      tasks.update task.id fun row => .flush task _ row) fun tasks => ?_
    exact map_objectKey_update tasks task.id (fun row => ObjectDeletionTask.flush_id task _ row)
      fun _ => rfl

/-- Processing the outbox keeps the events and the keys of the tasks. -/
theorem preserves_processObjectDeletions (limit : Nat) :
    Preserves (fun s => s.rows.outline) (processObjectDeletions limit) := by
  refine (outlined preserves_utcNow).bind fun now => ?_
  refine Preserves.bind (preserves_commitTasks (fun tasks =>
    tasks.mapRows (fun task => task.reaped now) fun task => task.reaped_id now) ?_) fun _ => ?_
  · intro tasks
    rw [Table.mapRows, List.map_map]
    refine List.map_congr_left fun task _ => ?_
    change (task.reaped now).objectKey = task.objectKey
    rw [ObjectDeletionTask.reaped]
    split <;> rfl
  · refine (preserves_gets _).bind fun taskIds => ?_
    refine (outlined (preserves_uuid4s _)).bind fun attemptIds => ?_
    refine Preserves.bind (preserves_commitTasks (fun tasks =>
      DeletionSystem.claimRows tasks _ now) ?_) fun _ => ?_
    · intro tasks
      rw [DeletionSystem.claimRows, Table.mapRows, List.map_map]
      refine List.map_congr_left fun task _ => ?_
      rw [Function.comp_apply]
      split <;> rfl
    · exact Preserves.forM fun attempt _ => preserves_processDeletion attempt

/-! ## The two functions -/

/-- Nothing is written yet, and the identifiers still to be drawn have a property. -/
structure ThumbnailState.Ready (rows : ThumbnailRows) (fresh : Uuid → Prop) (s : ThumbnailState) :
    Prop where
  rows : s.rows = rows
  uuids : ∀ n, fresh (s.world.uuids n)

section Leads

variable {R : ThumbnailRows → ThumbnailRows → Prop} [Std.Refl R] {rows : ThumbnailRows}
  {fresh : Uuid → Prop} {event : EventRow}

omit [Std.Refl R] in
private theorem leads_of_outline {α : Type} {P : ThumbnailState → Prop} {x : Thumbnails α}
    (houtline : ∀ a b : ThumbnailRows, a.outline = b.outline → R a b)
    (hx : Preserves (fun s => s.rows.outline) x) :
    Leads (Along ThumbnailState.rows R) P x fun _ _ => True :=
  hx.leads (fun s u hsame => houtline s.rows u.rows hsame) fun _ _ _ _ => trivial

variable [IsTrans ThumbnailRows R]

private theorem leads_uuid4 : Leads (Along ThumbnailState.rows R)
    (ThumbnailState.Ready rows fresh) uuid4
      fun id s => ThumbnailState.Ready rows fresh s ∧ fresh id := by
  refine leads_gets_bind fun id => ?_
  refine Leads.bind (leads_modify (Q := fun _ s => ThumbnailState.Ready rows fresh s ∧ fresh id)
    (fun s _ => Std.Refl.refl s.rows) ?_) fun _ => leads_pure fun _ hs => hs
  rintro s ⟨hs, rfl⟩
  exact ⟨⟨hs.rows, fun n => hs.uuids (1 + n)⟩, hs.uuids 0⟩

private theorem leads_utcNow : Leads (Along ThumbnailState.rows R)
    (ThumbnailState.Ready rows fresh) utcNow fun _ s => ThumbnailState.Ready rows fresh s := by
  refine leads_gets_bind fun now => ?_
  refine Leads.bind (leads_modify (Q := fun _ s => ThumbnailState.Ready rows fresh s)
    (fun s _ => Std.Refl.refl s.rows) ?_) fun _ => leads_pure fun _ hs => hs
  rintro s ⟨hs, -⟩
  exact ⟨hs.rows, hs.uuids⟩

/-- The identifier and the time of a deletion task, and the commit of a change that is made of
them. -/
private theorem leads_commitChange
    (change : Uuid → Instant → ThumbnailRows → Option ThumbnailRows) (hchange :
      ∀ taskId createdAt rows', change taskId createdAt rows = some rows' → R rows rows') :
    Leads (Along ThumbnailState.rows R) (ThumbnailState.Ready rows fresh) (do
      let taskId ← uuid4
      let createdAt ← utcNow
      Thumbnails.commit (change taskId createdAt)) fun _ _ => True := by
  refine leads_uuid4.bind fun taskId => ?_
  refine Leads.bind (leads_utcNow.imp (fun _ hs => hs.1) fun _ _ hs => hs) fun createdAt => ?_
  refine leads_commit (fun s rows' hs hrows => ?_) fun _ _ _ _ => trivial
  rw [hs.rows] at hrows ⊢
  exact hchange taskId createdAt rows' hrows

/-- Saving a thumbnail commits its replacement, by a key with a new identifier. -/
theorem leads_saveEventThumbnail
    (houtline : ∀ a b : ThumbnailRows, a.outline = b.outline → R a b)
    (hreplace : ∀ id taskId createdAt rows', fresh id →
      rows.replaceThumbnail? event (eventThumbnailKey event.id id) taskId createdAt = some rows' →
        R rows rows') :
    Leads (Along ThumbnailState.rows R) (ThumbnailState.Ready rows fresh)
      (saveEventThumbnail event) fun _ _ => True := by
  refine leads_uuid4.bind fun id => ?_
  refine leads_of_forall fun start hstart => ?_
  refine Leads.bind (Preserves.leads (preserves_putObject _) (Q := ThumbnailState.Ready rows fresh)
    (fun s u hsame => ?_) ?_) fun _ => ?_
  · have hrows : s.rows = u.rows := congrArg Prod.fst hsame
    change R s.rows u.rows
    rw [hrows]
    exact Std.Refl.refl u.rows
  · rintro s u rfl hsame
    have hrows : u.rows = s.rows := congrArg Prod.fst hsame
    have hworld : u.world = s.world := congrArg Prod.snd hsame
    refine ⟨hrows.trans hstart.1.rows, fun n => ?_⟩
    rw [hworld]
    exact hstart.1.uuids n
  · have hpublish : Leads (Along ThumbnailState.rows R) (ThumbnailState.Ready rows fresh)
        (publishThumbnail event (eventThumbnailKey event.id id)) fun _ _ => True := by
      have hcommit : Leads (Along ThumbnailState.rows R) (ThumbnailState.Ready rows fresh) _ _ :=
        leads_commitChange (fun taskId createdAt rows =>
          rows.replaceThumbnail? event (eventThumbnailKey event.id id) taskId createdAt)
            fun taskId createdAt rows' => hreplace id taskId createdAt rows' hstart.2
      have hrest := hcommit.bind fun _ => preserves_refresh.leads_along
      simp only [bind_assoc] at hrest
      exact hrest
    refine Leads.bind hpublish.attempt fun outcome => ?_
    cases outcome with
    | error raised =>
      have hdelete := (preserves_deleteObject (eventThumbnailKey event.id id)).attempt
      exact (hdelete.bind fun _ => preserves_raise _).leads_along
    | ok _ =>
      refine leads_of_outline houtline ?_
      exact Preserves.ite (preserves_processObjectDeletions 1) (preserves_pure _)

/-- Removing a thumbnail commits its removal. -/
theorem leads_removeEventThumbnail
    (houtline : ∀ a b : ThumbnailRows, a.outline = b.outline → R a b)
    (hremove : ∀ taskId createdAt rows',
      rows.removeThumbnail? event taskId createdAt = some rows' → R rows rows') :
    Leads (Along ThumbnailState.rows R) (ThumbnailState.Ready rows fresh)
      (removeEventThumbnail event) fun _ _ => True := by
  unfold removeEventThumbnail
  split
  · exact leads_pure fun _ _ => trivial
  · have hcommit : Leads (Along ThumbnailState.rows R) (ThumbnailState.Ready rows fresh) _ _ :=
      leads_commitChange (fun taskId createdAt rows =>
        rows.removeThumbnail? event taskId createdAt) hremove
    have hrest := (hcommit.bind fun _ => preserves_refresh.leads_along).bind fun _ =>
      leads_of_outline houtline ((preserves_processObjectDeletions 1).bind fun _ =>
        preserves_pure true)
    simp only [bind_assoc] at hrest
    exact hrest

end Leads

end RaceFrame
