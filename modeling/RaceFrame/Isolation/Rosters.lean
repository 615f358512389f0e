import RaceFrame.Isolation.Completions
import RaceFrame.Matching.Reproduction
import RaceFrame.Roster.Erasure
import RaceFrame.Roster.Lookup

/-!
# Rosters in their event

An edit of a roster never moves a participant to another event; a deletion takes
everything along that refers to the participant. A rebuild matches the photos of
an event with its roster again, and commits after each photo.
-/

namespace RaceFrame

open Core Request

variable {F α : Type} {σ : Scopes} {db : Database F}

/-! ## Edits -/

/-- A participant that is added refers to nothing. -/
theorem Database.Extends.insertParticipant (h : db.Extends σ) {participant : Participant}
    {rows : Table Participant Participant.id}
    (hinsert : db.participants.insert? participant = some rows) :
    (db.setParticipants rows).Extends σ := by
  refine h.grow (Database.scopes_le ?_ ?_ ?_ ?_ ?_) fun hkept => { hkept with }
  · exact List.Subset.refl _
  · exact Table.subset_of_insert? hinsert
  · exact List.Subset.refl _
  · exact List.Subset.refl _
  · exact List.Subset.refl _

/-- A participant that is changed keeps its event. -/
theorem Database.InScope.putParticipant (h : db.InScope σ) {participant : Participant}
    (hparticipant : σ.participant participant.id = some participant.eventId) :
    (db.setParticipants (db.participants.put participant)).InScope σ where
  scopes := by
    rw [← h.scopes]
    have hparticipants : (db.setParticipants (db.participants.put participant)).scopes.participant =
        db.scopes.participant := by
      funext id
      change ((db.participants.put participant).get? id).map Participant.eventId = _
      rw [Table.get?_put]
      split
      · rename_i hid
        subst hid
        rw [h.scopes, hparticipant]
        rw [← h.scopes] at hparticipant
        obtain ⟨old, hold, -⟩ := Option.map_eq_some_iff.mp hparticipant
        rw [hold]
        rfl
      · rfl
    rw [Database.scopes, Database.scopes]
    congr 1
  rows := { h.rows with }

section Edits

variable {lower : Text → Text}

theorem maintains_commitParticipants :
    Maintains (Database.Extends σ) (Database.Extends σ) (commitParticipants : Request F Unit) := by
  refine Program.Maintains.bind (maintains_loaded _) fun rows => ?_
  refine Program.Maintains.ite ?_ (Program.maintains_raise _)
  refine Program.Maintains.ite ?_ (Program.maintains_raise _)
  exact maintains_commit fun _ h => h

theorem maintains_addParticipantRow (participant : Participant) :
    Maintains (Database.Extends σ) (Database.Extends σ)
      (addParticipantRow participant : Request F Unit) :=
  maintains_loaded_assign _ _ fun _ _ h hinsert => h.insertParticipant hinsert

theorem maintains_assignParticipant {participant : Participant}
    (hparticipant : σ.participant participant.id = some participant.eventId) :
    Maintains (Database.Extends σ) (Database.Extends σ)
      (assignParticipant participant : Request F Unit) := by
  refine maintains_assign fun db h => ?_
  have hput := h.rows.inScope.putParticipant (h.le.participant _ _ hparticipant)
  exact hput.extends_of_le h.le

theorem maintains_addParticipant (eventId : Uuid) (bibNumber fullName : Text) :
    Maintains (Database.Extends σ) (Database.Extends σ)
      (addParticipant lower eventId bibNumber fullName : Request F Participant) := by
  refine Program.Maintains.ite (Program.maintains_raise _) ?_
  refine Program.Maintains.bind (maintains_query _) fun rows => ?_
  refine Program.Maintains.bind (maintains_oneOrNone rows) fun existing => ?_
  refine Program.Maintains.ite (Program.maintains_raise _) ?_
  refine Program.Maintains.bind maintains_uuid4 fun id => ?_
  refine Program.Maintains.bind (maintains_addParticipantRow _) fun _ => ?_
  exact maintains_commitParticipants.bind fun _ => Program.maintains_pure _

theorem maintains_updateParticipant {participant : Participant}
    (hparticipant : σ.participant participant.id = some participant.eventId)
    (bibNumber fullName : Text) :
    Maintains (Database.Extends σ) (Database.Extends σ)
      (updateParticipant lower participant bibNumber fullName : Request F Participant) := by
  refine Program.Maintains.ite (Program.maintains_raise _) ?_
  refine Program.Maintains.bind (maintains_query _) fun rows => ?_
  refine Program.Maintains.bind (maintains_oneOrNone rows) fun existing => ?_
  refine Program.Maintains.ite (Program.maintains_raise _) ?_
  refine Program.Maintains.bind (maintains_assignParticipant hparticipant) fun _ => ?_
  exact maintains_commitParticipants.bind fun _ => Program.maintains_pure _

theorem maintains_upsertParticipantRow (eventId : Uuid)
    {existing : Table Participant Participant.bibLookup}
    (hexisting : existing.All fun p => σ.participant p.id = some p.eventId) (counts : Nat × Nat)
    (row : CleanedRow) :
    Maintains (Database.Extends σ) (Database.Extends σ)
      (upsertParticipantRow lower eventId existing counts row : Request F (Nat × Nat)) := by
  unfold upsertParticipantRow
  split
  · refine Program.Maintains.bind maintains_uuid4 fun id => ?_
    exact (maintains_addParticipantRow _).bind fun _ => Program.maintains_pure _
  · rename_i participant hget
    refine Program.Maintains.ite ?_ (Program.maintains_pure _)
    have hstored : σ.participant participant.id = some participant.eventId := hexisting.get? hget
    refine Program.Maintains.bind (maintains_assignParticipant ?_) fun _ => Program.maintains_pure _
    exact hstored

/-- The participants that an import finds are stored. -/
theorem existingByBib_all (db : Database F) (eventId : Uuid) (cleanedRows : List CleanedRow) :
    (db.existingByBib eventId cleanedRows).All (· ∈ db.participants.rows) := by
  apply List.foldlRecOn (motive := Table.All (· ∈ db.participants.rows)) _ _ Table.all_empty
  intro rows hrows participant hparticipant
  have hstored := List.mem_of_mem_filter hparticipant
  exact hrows.upsert hstored fun _ _ _ => hstored

end Edits

/-- What a request reads first is what is stored. -/
private theorem serve_query_bind {β : Type} (world : World) (q : Database F → β)
    (f : β → Request F α) : serve world (query q >>= f) db = serve world (f (q db)) db := rfl

private theorem serve_discard (world : World) (x : Request F α) :
    (serve world (discard x) db).2 = (serve world x db).2 := by
  unfold serve
  rw [Program.discard_eq, Program.run_bind]
  rcases x.run (Session.sessionLocal world db) with ⟨_ | _, t⟩ <;> rfl

/-- An edit of a roster leaves every row in agreement with its parents. -/
theorem RosterCall.serve_eventScoped (lower : Text → Text) (world : World) (call : RosterCall)
    (h : db.EventScoped) : (call.serve lower world db).2.EventScoped := by
  have hself := h.extends_self
  cases call with
  | add eventId bibNumber fullName =>
    apply Database.Extends.rows
    exact Maintains.serve (maintains_addParticipant eventId bibNumber fullName).discard world hself
  | update eventId participantId bibNumber fullName =>
    unfold RosterCall.serve RosterCall.handle
    rw [serve_query_bind]
    apply Database.Extends.rows
    refine Maintains.serve (maintains_ofOption_bind _ _ fun participant hget => ?_) world hself
    refine Program.Maintains.ite (Program.maintains_raise _) ?_
    have hparticipant := scopes_participant_of_mem (Table.mem_of_get? hget)
    exact (maintains_updateParticipant hparticipant bibNumber fullName).discard
  | upsert eventId rows =>
    unfold RosterCall.serve RosterCall.handle
    rw [serve_discard, upsertParticipants]
    dsimp only
    split
    · exact h
    · rw [serve_query_bind]
      apply Database.Extends.rows
      refine Maintains.serve (Program.Maintains.bind ?_ fun counts => ?_) world hself
      · refine Program.Maintains.foldlM (fun counts row _ => ?_) _
        apply maintains_upsertParticipantRow
        exact (existingByBib_all db eventId _).imp fun _ hp => scopes_participant_of_mem hp
      · exact maintains_commitParticipants.bind fun _ => Program.maintains_pure _

/-! ## Deletions -/

/-- What is left when the traces of some participants are erased agrees with its parents. -/
theorem Traces.ErasedFrom.eventScoped {ids : Set Uuid} {db' : Database F}
    (herased : (db.participantTraces ids).ErasedFrom db db') (h : db.EventScoped) :
    db'.EventScoped := by
  have hphoto : ∀ {id eventId}, db.scopes.photo id = some eventId →
      db'.scopes.photo id = some eventId := fun hid =>
    Table.map_get?_of_mem hid fun _ hr _ => herased.photos.mem_iff.mpr ⟨hr, fun h => h⟩
  have hface : ∀ {id scope}, db.scopes.face id = some scope →
      db'.scopes.face id = some scope := fun hid =>
    Table.map_get?_of_mem hid fun _ hr _ => herased.faceDetections.mem_iff.mpr ⟨hr, fun h => h⟩
  have hparticipant : ∀ {id eventId}, db.scopes.participant id = some eventId → id ∉ ids →
      db'.scopes.participant id = some eventId := by
    intro id eventId hid hother
    refine Table.map_get?_of_mem hid fun participant hr hkey => ?_
    exact herased.participants.mem_iff.mpr ⟨hr, fun hin => hother (hkey ▸ hin)⟩
  have hsession : ∀ {id eventId}, db.scopes.searchSession id = some eventId →
      ¬db.SessionOf ids id → db'.scopes.searchSession id = some eventId := by
    intro id eventId hid hother
    refine Table.map_get?_of_mem hid fun searchSession hr hkey => ?_
    exact herased.searchSessions.mem_iff.mpr ⟨hr, fun hin => hother ⟨searchSession, hr, hkey, hin⟩⟩
  have hphotoJob : ∀ {id photoId}, db.scopes.photoJob id = some photoId →
      db'.scopes.photoJob id = some photoId := by
    intro id photoId hid
    refine scopes_photoJob_of_kept hid fun job hjob hof => ?_
    refine herased.jobs.mem_iff.mpr ⟨hjob, fun hin => ?_⟩
    unfold Job.photoId? at hof
    split at hof
    · rename_i href
      change db.JobOfParticipants ids job.ref at hin
      rw [href] at hin
      exact hin
    · cases hof
  exact {
    photoMatches := by
      intro row hrow
      obtain ⟨hmem, hother⟩ := herased.photoMatches.mem_iff.mp hrow
      obtain ⟨hscope, hscope'⟩ := h.photoMatches row hmem
      exact ⟨hphoto hscope, hparticipant hscope' hother⟩
    faces := by
      intro row hrow
      obtain ⟨hmem, -⟩ := herased.faceDetections.mem_iff.mp hrow
      obtain ⟨hscope, hscope'⟩ := h.faces row hmem
      exact ⟨hphoto hscope, hphotoJob hscope'⟩
    faceMatches := by
      intro row hrow
      obtain ⟨hmem, hother⟩ := herased.faceMatches.mem_iff.mp hrow
      obtain ⟨hscope, hscope', hscope''⟩ := h.faceMatches row hmem
      exact ⟨hphoto hscope, hface hscope', hparticipant hscope'' hother⟩
    selfies := by
      intro row hrow
      obtain ⟨hmem, hother⟩ := herased.faceImages.mem_iff.mp hrow
      exact hparticipant (h.selfies row hmem) hother
    embeddings := by
      intro row hrow
      obtain ⟨hmem, hother⟩ := herased.embeddings.mem_iff.mp hrow
      exact hparticipant (h.embeddings row hmem) fun hin => hother (Or.inl hin)
    searchImages := by
      intro row hrow
      obtain ⟨hmem, hother⟩ := herased.searchImages.mem_iff.mp hrow
      exact hsession (h.searchImages row hmem) hother
    searchResults := by
      intro row hrow
      obtain ⟨hmem, hother⟩ := herased.searchResults.mem_iff.mp hrow
      obtain ⟨hscope, hscope'⟩ := h.searchResults row hmem
      exact ⟨hsession hscope hother, hface hscope'⟩
    jobs := by
      intro job hjob
      obtain ⟨hmem, hother⟩ := herased.jobs.mem_iff.mp hjob
      have hscope := h.jobs job hmem
      change ¬db.JobOfParticipants ids job.ref at hother
      change job.InScope db.scopes at hscope
      unfold Job.InScope at hscope ⊢
      cases href : job.ref with
      | photo photoId jobType =>
        rw [href] at hscope
        exact hphotoJob hscope
      | participantFace eventId participantId faceImageId =>
        rw [href] at hscope hother
        exact hparticipant hscope fun hin => hother (Or.inl hin)
      | faceSearch eventId searchSessionId searchImageId =>
        rw [href] at hscope hother
        exact hsession hscope fun hin => hother (Or.inl hin) }

/-- A call on a roster leaves every row in agreement with its parents. -/
theorem RosterAction.serve_eventScoped (lower : Text → Text) (world : World) (action : RosterAction)
    (h : db.EventScoped) : (action.serve lower world db).2.EventScoped := by
  cases action with
  | edit call => exact call.serve_eventScoped lower world h
  | delete eventId participantId =>
    unfold RosterAction.serve RosterAction.handle
    rw [serve_query_bind]
    cases db.participants.get? participantId with
    | none => exact h
    | some participant =>
      change (Request.serve world (if participant.eventId ≠ eventId then _ else _) db).2.EventScoped
      split
      · exact h
      · rw [serve_discard]
        obtain ⟨keys, db', hserve, herased⟩ := deleteParticipant_erases world db participant
        rw [hserve]
        exact herased.eventScoped h
  | deleteAll eventId =>
    unfold RosterAction.serve RosterAction.handle
    rw [serve_discard]
    obtain ⟨answer, db', hserve, herased⟩ := deleteAllParticipants_erases world db eventId
    rw [hserve]
    exact herased.eventScoped h

/-! ## Rebuilds -/

variable [Scalar F]

omit [Scalar F] in
theorem Database.InScope.withoutOcr (h : db.InScope σ) (eventId : Uuid) :
    (db.withoutOcr eventId).InScope σ where
  scopes := h.scopes
  rows := { h.rows with
    photoMatches := forall_foldl_dropOcrRow (fun _ hrow => hrow)
      (fun row hrow => h.rows.photoMatches row (List.mem_of_mem_filter hrow)) h.rows.photoMatches }

/-- Every stage of a rebuild is in scope. -/
theorem Database.InScope.rebuildStage (h : db.InScope σ) {eventId : Uuid}
    {done : List (Photo × List (PhotoTextDetection F))}
    (hdone : done <+: db.photosNewestFirst eventId) : (db.rebuildStage eventId done).InScope σ := by
  apply List.foldlRecOn _ _ (h.withoutOcr eventId)
  intro db' h' entry hentry
  have hphoto := scopes_photo_of_mem (mem_photosNewestFirst.mp (hdone.subset hentry)).1
  rw [h.scopes, ← h'.scopes] at hphoto
  refine h'.upsertMatches fun row hrow => ?_
  rw [← h'.scopes]
  exact inScope_of_mem_ocrMatches hphoto hrow

/-- What a rebuild can leave: what its last commit has written when it ends, or when one of its
statements does not return. -/
inductive RebuildLeaves (world : World) (eventId : Uuid) (db : Database F) : Database F → Prop
  | ended : RebuildLeaves world eventId db (serve world (rebuildEventPhotoMatches eventId) db).2
  | interrupted {s : Session F}
    (visited : s ∈ (rebuildEventPhotoMatches eventId).visits (Session.sessionLocal world db)) :
    RebuildLeaves world eventId db s.committed

/-- A rebuild leaves every row in agreement with its parents, wherever it ends. -/
theorem RebuildLeaves.eventScoped {world : World} {eventId : Uuid} {db' : Database F}
    (hleaves : RebuildLeaves world eventId db db') (h : db.EventScoped) : db'.EventScoped := by
  obtain ⟨hvisits, n, t, hrun, -, hcommitted⟩ :=
    rebuildEventPhotoMatches_spec eventId (s := Session.sessionLocal world db) ⟨rfl, rfl⟩
  cases hleaves with
  | ended =>
    unfold serve
    rw [hrun]
    dsimp only
    rw [hcommitted]
    exact (h.inScope.rebuildStage (List.prefix_refl _)).eventScoped
  | interrupted visited =>
    rcases hvisits _ visited with hsame | ⟨done, hdone, hstage⟩
    · rw [hsame]
      exact h
    · rw [hstage]
      exact (h.inScope.rebuildStage hdone).eventScoped

end RaceFrame
