import RaceFrame.Isolation.JobCalls
import RaceFrame.Search.BibOnly

/-!
# Searches in their event

A search reads the faces of the event of its session, so the results that it
writes have the event of the session, of the detection and of the photo of the
detection.
-/

namespace RaceFrame

open Core Request

variable {F : Type} {σ : Scopes} {P : Database F → Prop}

/-! ## Results -/

/-- A search of a detection is of its photo. -/
def SearchCandidate.OfFace (candidate : SearchCandidate F) (detection : PhotoFaceDetection F) :
    Prop :=
  candidate.detectionId = detection.id ∧ candidate.photoId = detection.photoId

section Scalars

variable [Scalar F]

/-- The heap keeps candidates of the stream. -/
private theorem exists_face_of_mem_kept {cfg : Settings F} {embedding : List F}
    {faces stream : List (PhotoFaceDetection F)} {heap kept : List (SearchCandidate F)}
    (h : stream.foldlM (considerDetection cfg embedding) heap = .ok kept) (hsub : stream ⊆ faces)
    (hheap : ∀ candidate ∈ heap, ∃ face ∈ faces, candidate.OfFace face) :
    ∀ candidate ∈ kept, ∃ face ∈ faces, candidate.OfFace face := by
  induction stream generalizing heap with
  | nil =>
    cases h
    exact hheap
  | cons detection stream ih =>
    rw [List.foldlM_cons] at h
    obtain ⟨heap', hstep, hrest⟩ := bind_eq_ok_iff.mp h
    refine ih hrest (fun face hface => hsub (List.mem_cons_of_mem detection hface)) ?_
    have hpush : ∀ rest : List (SearchCandidate F),
        (∀ candidate ∈ rest, ∃ face ∈ faces, candidate.OfFace face) →
        ∀ candidate ∈ heappush rest ⟨cosineSimilarity embedding detection.embeddingJson,
          detection.id, detection.photoId⟩, ∃ face ∈ faces, candidate.OfFace face := by
      intro rest hrest candidate hcandidate
      rcases (List.mem_orderedInsert _).mp hcandidate with rfl | hold
      · exact ⟨detection, hsub List.mem_cons_self, rfl, rfl⟩
      · exact hrest candidate hold
    unfold considerDetection at hstep
    dsimp only at hstep
    split at hstep
    · cases hstep
      exact hheap
    · split at hstep
      · cases hstep
        exact hpush heap hheap
      · cases heap with
        | nil => cases hstep
        | cons least rest =>
          cases hstep
          split
          · exact hpush rest fun candidate hold => hheap candidate (List.mem_cons_of_mem least hold)
          · exact hheap

omit [Scalar F] in
/-- The detections of an event have its scope. -/
theorem Database.InScope.scopes_of_mem_eventFaces {db : Database F} (h : db.InScope σ)
    {eventId : Uuid} {face : PhotoFaceDetection F} (hface : face ∈ db.eventFaces eventId) :
    σ.face face.id = some (face.photoId, eventId) := by
  obtain ⟨hmem, hevent⟩ := List.mem_filter.mp hface
  rw [← h.scopes, ← eq_of_beq hevent]
  exact scopes_face_of_mem hmem

/-- An upsert of a result keeps the references of a stored result of its session and detection. -/
theorem Database.InScope.upsertSearchResult {db : Database F} (h : db.InScope σ)
    {row : FaceSearchResult F} (hrow : row.InScope σ) :
    ({ db with faceSearchResults := db.faceSearchResults.upsert mergeSearchResult row } :
      Database F).InScope σ where
  scopes := h.scopes
  rows := { h.rows with
    searchResults := h.rows.searchResults.upsert hrow fun old hold hkey => by
      obtain ⟨hsession, hface⟩ := hold
      have hdetection : old.photoFaceDetectionId = row.photoFaceDetectionId :=
        congrArg Prod.snd hkey
      have hscope : (old.photoId, old.eventId) = (row.photoId, row.eventId) := by
        apply Option.some.inj
        rw [← hface, ← hrow.2, hdetection]
      have hphoto : old.photoId = row.photoId := congrArg Prod.fst hscope
      rw [hphoto] at hface
      exact ⟨hsession, hface⟩ }

/-- A search writes results of the event of its session. -/
theorem maintains_createFaceSearchResults (cfg : Settings F) {eventId searchSessionId : Uuid}
    (hsession : σ.searchSession searchSessionId = some eventId) (embedding : List F) :
    Maintains P (Database.InScope σ)
      (createFaceSearchResults cfg eventId searchSessionId embedding) := by
  refine maintains_query_bind _ fun db h => ?_
  refine Program.Maintains.ite (Program.maintains_raise _) ?_
  refine maintains_ofExcept_bind _ fun kept hkept => ?_
  have hfaces := exists_face_of_mem_kept hkept (List.Subset.refl _) (by simp)
  apply Program.Maintains.bind
  · refine Program.Maintains.forM fun candidate hcandidate => ?_
    obtain ⟨face, hface, hid, hphoto⟩ := hfaces candidate (List.mem_reverse.mp hcandidate)
    have hscope := h.scopes_of_mem_eventFaces hface
    rw [← hid, ← hphoto] at hscope
    exact maintains_execute fun db' h' => h'.upsertSearchResult ⟨hsession, hscope⟩
  · exact fun _ => Program.maintains_pure _

/-! ## Reinforcement -/

private theorem maintains_reinforceWith (cfg : Settings F) {searchSession : FaceSearchSession}
    (hsession : σ.searchSession searchSession.id = some searchSession.eventId)
    (participant : Participant) (requireExactBib : Bool) (progress : Reinforcement)
    (result : FaceSearchResult F) :
    Maintains P (Database.InScope σ)
      (reinforceWith cfg searchSession participant requireExactBib progress result) := by
  unfold reinforceWith
  refine Program.Maintains.ite (Program.maintains_pure _) ?_
  refine Program.Maintains.ite (Program.maintains_pure _) ?_
  refine Program.Maintains.bind (maintains_query _) fun photo => ?_
  refine Program.Maintains.bind (maintains_query _) fun detection => ?_
  cases photo with
  | none => exact Program.maintains_pure _
  | some photo =>
    cases detection with
    | none => exact Program.maintains_pure _
    | some detection =>
      refine Program.Maintains.bind (maintains_query _) fun detections => ?_
      refine Program.Maintains.ite (Program.maintains_pure _) ?_
      refine Program.Maintains.ite (Program.maintains_pure _) ?_
      exact (maintains_createFaceSearchResults cfg hsession _).discard.bind fun _ =>
        Program.maintains_pure _

/-- Reinforcement searches in the event of the session again. -/
theorem maintains_applyAdaptiveReinforcement (cfg : Settings F) {searchSession : FaceSearchSession}
    (hsession : σ.searchSession searchSession.id = some searchSession.eventId)
    (requireExactBib : Bool) :
    Maintains P (Database.InScope σ)
      (applyAdaptiveReinforcement cfg searchSession requireExactBib) := by
  unfold applyAdaptiveReinforcement
  cases searchSession.participantId with
  | none => exact Program.maintains_pure _
  | some participantId =>
    refine Program.Maintains.bind (maintains_loaded _) fun participant => ?_
    cases participant with
    | none => exact Program.maintains_pure _
    | some participant =>
      have hround : ∀ (progress : Reinforcement) (results : List (FaceSearchResult F)),
          Maintains P (Database.InScope σ)
            (results.foldlM (reinforceWith cfg searchSession participant requireExactBib)
              progress) := fun progress results =>
        Program.Maintains.foldlM
          (fun _ _ _ => maintains_reinforceWith cfg hsession participant requireExactBib _ _) _
      refine Program.Maintains.bind (maintains_query _) fun first => ?_
      refine Program.Maintains.bind (hround _ first) fun progress => ?_
      refine Program.Maintains.ite (Program.maintains_pure _) ?_
      refine Program.Maintains.bind (maintains_query _) fun second => ?_
      exact (hround _ second).bind fun _ => Program.maintains_pure _

/-! ## Selfie searches -/

omit [Scalar F] in
private theorem staysInScope_markDone (searchSessionId : Uuid) :
    StaysInScope σ (markFaceSearchSessionDoneIfJobsDone (F := F) searchSessionId) := by
  refine Program.Maintains.bind (maintains_query _) fun statuses => ?_
  refine Program.Maintains.ite ?_ ?_
  · refine Program.Maintains.bind maintains_utcNow fun finishedAt => ?_
    exact maintains_assign fun _ h => h.updateSearchSession _ (fun _ => rfl) fun _ => rfl
  · refine Program.Maintains.ite ?_ (Program.maintains_pure _)
    exact maintains_assign fun _ h => h.updateSearchSession _ (fun _ => rfl) fun _ => rfl

/-- The completion of a search job stays in the event of its session. -/
theorem staysInScope_completeFaceSearchJob (cfg : Settings F) {job : Job F} (hjob : job.InScope σ)
    {eventId searchSessionId searchImageId : Uuid}
    (href : job.ref = .faceSearch eventId searchSessionId searchImageId)
    (result : EmbeddingResult F) :
    StaysInScope σ
      (completeFaceSearchJob cfg job eventId searchSessionId searchImageId result) := by
  have hsession : σ.searchSession searchSessionId = some eventId := by
    rw [Job.InScope, href] at hjob
    exact hjob
  refine Program.Maintains.ite (Program.maintains_raise _) ?_
  refine Program.Maintains.bind (maintains_createFaceSearchResults cfg hsession _)
    fun matchedCount => ?_
  refine Program.Maintains.bind (maintains_loaded _) fun image => ?_
  refine Program.Maintains.bind (Program.Maintains.discard (maintains_ofOption _ _)) fun _ => ?_
  refine Program.Maintains.bind (maintains_assign fun _ h => h.setSearchImage _ _ _) fun _ => ?_
  refine Program.Maintains.bind maintains_utcNow fun finishedAt => ?_
  refine Program.Maintains.bind (staysInScope_putJob (hjob.of_ref rfl rfl)) fun _ => ?_
  refine maintains_loaded_bind _ fun db h =>
    maintains_ofOption_bind _ _ fun searchSession hget => ?_
  have hstored : σ.searchSession searchSession.id = some searchSession.eventId := by
    rw [← h.scopes]
    exact scopes_searchSession_of_mem (Table.mem_of_get? hget)
  have hend : StaysInScope σ (markFaceSearchSessionDoneIfJobsDone (F := F) searchSession.id >>=
      fun _ => commit) := (staysInScope_markDone searchSession.id).bind fun _ => staysInScope_commit
  refine Program.Maintains.ite ?_ hend
  exact (maintains_applyAdaptiveReinforcement cfg hstored false).discard.bind fun _ => hend

end Scalars

/-! ## Bib-only searches -/

section BibOnly

variable [CeilScalar F]

omit [CeilScalar F] in
private theorem maintains_completeBibOnlySession (searchSession : FaceSearchSession) :
    Maintains Database.EventScoped (Database.InScope σ)
      (completeBibOnlySession (F := F) searchSession) := by
  refine Program.Maintains.bind maintains_utcNow fun finishedAt => ?_
  apply Program.Maintains.bind
  · exact maintains_assign fun _ h => h.updateSearchSession _ (fun _ => rfl) fun _ => rfl
  · intro _
    exact (maintains_commit fun _ h => h.eventScoped).bind fun _ => Program.maintains_pure _

private theorem maintains_searchBibOnly (parseFloat : Text → Option F) (cfg : SeedSettings F)
    (candidatePhotos : Database F → List (LoadedPhoto F)) (participant : Participant)
    {searchSession : FaceSearchSession}
    (hsession : σ.searchSession searchSession.id = some searchSession.eventId) :
    Maintains Database.EventScoped (Database.InScope σ)
      (searchBibOnly parseFloat cfg candidatePhotos participant searchSession) := by
  refine Program.Maintains.bind (maintains_query _) fun loaded => ?_
  refine maintains_ofExcept_bind _ fun seedEmbeddings _ => ?_
  apply Program.Maintains.bind
  · exact Program.Maintains.forM fun embedding _ =>
      (maintains_createFaceSearchResults cfg.toSettings hsession embedding).discard
  · intro _
    have hend : Maintains Database.EventScoped (Database.InScope σ)
        (completeBibOnlySession (F := F) searchSession >>= fun completed =>
          pure (completed, seedEmbeddings.length)) :=
      (maintains_completeBibOnlySession searchSession).bind fun _ => Program.maintains_pure _
    refine Program.Maintains.ite ?_ hend
    exact (maintains_applyAdaptiveReinforcement cfg.toSettings hsession true).discard.bind
      fun _ => hend

/-- A bib-only search leaves every row in agreement with its parents. -/
theorem eventScoped_createBibOnlyFaceSearchSession {db : Database F} (h : db.EventScoped)
    (world : World) (parseFloat : Text → Option F) (cfg : SeedSettings F)
    (candidatePhotos : Database F → List (LoadedPhoto F)) (eventId : Uuid)
    (participant : Participant) :
    (serve world (createBibOnlyFaceSearchSession parseFloat cfg candidatePhotos eventId participant)
      db).2.EventScoped := by
  unfold serve createBibOnlyFaceSearchSession
  rw [run_discard_bind, run_utcNow_bind, run_uuid4_bind, run_loaded_bind]
  change Database.EventScoped (Program.run (ofOption _ (db.faceSearchSessions.insert?
    (bibOnlySession (world.uuids 0) eventId participant)) >>= _) _).2.committed
  cases hinsert : db.faceSearchSessions.insert? (bibOnlySession (world.uuids 0) eventId participant)
    with
  | none => exact h
  | some rows =>
    have hopened := (h.extends_self.insertSearchSession hinsert).rows
    have hsession : ({ db with faceSearchSessions := rows } : Database F).scopes.searchSession
        (bibOnlySession (world.uuids 0) eventId participant).id = some eventId :=
      scopes_searchSession_of_mem (Table.mem_of_insert? hinsert)
    rw [run_ofOption_some_bind, run_assign_bind, run_flush_bind]
    apply Session.Every.committed
    exact maintains_searchBibOnly parseFloat cfg candidatePhotos participant hsession _
      ⟨h, hopened.inScope, hopened.inScope⟩

end BibOnly

end RaceFrame
