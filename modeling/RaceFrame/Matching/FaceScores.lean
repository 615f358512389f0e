import RaceFrame.Core.Maxima
import RaceFrame.Matching.FaceBacking
import RaceFrame.Worker.Completion

/-!
# Scores

What an enrolment records: for every face of the event the best similarity to an
embedding of the participant, if it reaches the threshold. Repeated enrolments
only ever raise what is recorded.
-/

namespace RaceFrame

open Core

variable {F : Type} [Scalar F]

/-- The similarities of a face to the enrolled embeddings of a participant that reach the
threshold. -/
def Database.reachedScores (cfg : Settings F) (db : Database F)
    (detection : PhotoFaceDetection F) (participantId : Uuid) : List F :=
  ((db.participantFaceEmbeddings.rows.filter fun e =>
    e.eventId == detection.eventId && e.participantId == participantId).map fun e =>
      cosineSimilarity detection.embeddingJson e.embeddingJson).filter fun score =>
        cfg.faceMatchSimilarityThreshold ≤ score

/-- The best similarity of a face to the enrolled embeddings of a participant, if it reaches the
threshold. -/
def Database.bestScore (cfg : Settings F) (db : Database F) (detection : PhotoFaceDetection F)
    (participantId : Uuid) : Option F :=
  (db.reachedScores cfg detection participantId).max?

/-- The similarity that is recorded for a face and a participant. -/
def scoreOf (faces : Table (FaceParticipantMatch F) FaceParticipantMatch.key)
    (key : Uuid × Uuid) : Option F :=
  (faces.get? key).map (·.similarityScore)

omit [Scalar F] in
theorem scoreOf_eq_some_iff {faces : Table (FaceParticipantMatch F) FaceParticipantMatch.key}
    {detectionId participantId : Uuid} {score : F} :
    scoreOf faces (detectionId, participantId) = some score ↔
      ∃ row ∈ faces.rows, row.photoFaceDetectionId = detectionId ∧
        row.participantId = participantId ∧ row.similarityScore = score := by
  rw [scoreOf, Option.map_eq_some_iff]
  constructor
  · rintro ⟨row, hrow, hscore⟩
    obtain ⟨hmem, hkey⟩ := Table.get?_eq_some_iff.mp hrow
    exact ⟨row, hmem, congrArg Prod.fst hkey, congrArg Prod.snd hkey, hscore⟩
  · rintro ⟨row, hmem, rfl, rfl, hscore⟩
    exact ⟨row, Table.mem_iff_get?.mp hmem, hscore⟩

/-- A recorded similarity is raised to the largest that comes for it. -/
theorem scoreOf_upsertedFaceMatches
    (faces : Table (FaceParticipantMatch F) FaceParticipantMatch.key)
    (rows : List (FaceParticipantMatch F)) (key : Uuid × Uuid) :
    scoreOf (upsertedFaceMatches faces rows) key = ((scoreOf faces key).toList ++
      (rows.filter fun row => row.key = key).map (·.similarityScore)).max? := by
  have hmerge : ∀ old row : FaceParticipantMatch F, old.key = row.key →
      (mergeFaceMatch old row).key = old.key := fun _ _ _ => rfl
  have hmax : ∀ old row : FaceParticipantMatch F, (mergeFaceMatch old row).similarityScore =
      max old.similarityScore row.similarityScore := by
    intro old row
    change (if _ then _ else _) = _
    split
    next hle => exact (max_eq_left hle).symm
    next hlt => exact (max_eq_right (not_le.mp hlt).le).symm
  rw [scoreOf, upsertedFaceMatches, Table.get?_foldl_upsert hmerge, map_foldl_mergeInto hmax,
    foldl_mergeInto_max]
  rfl

/-- The entry of `best_by_participant` that an embedding makes. -/
def scoredEntry (cfg : Settings F) (detection : PhotoFaceDetection F)
    (e : ParticipantFaceEmbedding F) : Option (Uuid × F) :=
  let score := cosineSimilarity detection.embeddingJson e.embeddingJson
  if score < cfg.faceMatchSimilarityThreshold then none else some (e.participantId, score)

private theorem scoredEntries_eq (cfg : Settings F) (detection : PhotoFaceDetection F)
    (embeddings : List (ParticipantFaceEmbedding F)) (participantId : Uuid) :
    ((embeddings.filterMap (scoredEntry cfg detection)).filter fun entry =>
      entry.1 = participantId).map Prod.snd =
      (((embeddings.filter fun e => e.participantId == participantId).map fun e =>
        cosineSimilarity detection.embeddingJson e.embeddingJson).filter fun score =>
          cfg.faceMatchSimilarityThreshold ≤ score) := by
  induction embeddings with
  | nil => rfl
  | cons e embeddings ih =>
    by_cases hhere : e.participantId = participantId
    · by_cases hreached : cosineSimilarity detection.embeddingJson e.embeddingJson <
          cfg.faceMatchSimilarityThreshold
      · simp [scoredEntry, hhere, hreached, ← ih]
      · simp [scoredEntry, hhere, hreached, not_lt.mp hreached, ← ih]
    · by_cases hreached : cosineSimilarity detection.embeddingJson e.embeddingJson <
          cfg.faceMatchSimilarityThreshold
      · simp [scoredEntry, hhere, hreached, ← ih]
      · simp [scoredEntry, hhere, hreached, ← ih]

/-- `best_by_participant` holds the best similarity that reaches the threshold. -/
theorem get?_bestByParticipant (cfg : Settings F) (detection : PhotoFaceDetection F)
    (embeddings : List (ParticipantFaceEmbedding F)) (participantId : Uuid) :
    ((bestByParticipant cfg detection embeddings).get? participantId).map Prod.snd =
      (((embeddings.filter fun e => e.participantId == participantId).map fun e =>
        cosineSimilarity detection.embeddingJson e.embeddingJson).filter fun score =>
          cfg.faceMatchSimilarityThreshold ≤ score).max? := by
  have hfold : bestByParticipant cfg detection embeddings =
      (embeddings.filterMap (scoredEntry cfg detection)).foldl (fun best entry => best.upsert
        (fun current new => if current.2 < new.2 then new else current) entry) .empty := by
    rw [List.foldl_filterMap, bestByParticipant]
    congr 1
    funext best e
    dsimp only [scoredEntry]
    split <;> rfl
  have hmerge : ∀ old new : Uuid × F, old.1 = new.1 →
      (if old.2 < new.2 then new else old).1 = old.1 := by
    intro old new hkey
    split
    · exact hkey.symm
    · rfl
  have hmax : ∀ old new : Uuid × F,
      (if old.2 < new.2 then new else old).2 = max old.2 new.2 := by
    intro old new
    split
    next hlt => exact (max_eq_right hlt.le).symm
    next hle => exact (max_eq_left (not_lt.mp hle)).symm
  rw [hfold, Table.get?_foldl_upsert hmerge, Table.get?_empty, map_foldl_mergeInto hmax,
    foldl_mergeInto_max, ← scoredEntries_eq]
  rfl

/-! ## An enrolment -/

section Enrolment

variable {cfg : Settings F} {db : Database F} {detection : PhotoFaceDetection F}
  {participantId eventId : Uuid}

private theorem mem_enrolledScores_iff (hdetection : detection ∈ db.photoFaceDetections.rows)
    {otherId : Uuid} {score : F} :
    score ∈ (((db.enrolmentFindings cfg participantId eventId).map fun f =>
        faceMatch f.1 f.2.1 f.2.2).filter fun row =>
          row.key = (detection.id, otherId)).map (·.similarityScore) ↔
      (detection.eventId = eventId ∧ otherId = participantId) ∧
        db.bestScore cfg detection otherId = some score := by
  have hbest : ∀ other, ((bestByParticipant cfg detection
      (db.participantFaceEmbeddings.rows.filter fun e =>
        e.eventId == detection.eventId && e.participantId == participantId)).get? other).map
          Prod.snd = some score ↔
      other = participantId ∧ db.bestScore cfg detection other = some score := by
    intro other
    rw [get?_bestByParticipant, List.filter_filter, Database.bestScore, Database.reachedScores]
    by_cases hsame : other = participantId
    · subst hsame
      have hfilter : (db.participantFaceEmbeddings.rows.filter fun e =>
          e.participantId == other && (e.eventId == detection.eventId &&
            e.participantId == other)) =
          db.participantFaceEmbeddings.rows.filter fun e =>
            e.eventId == detection.eventId && e.participantId == other := by
        refine List.filter_congr fun e _ => ?_
        cases e.participantId == other <;> simp
      rw [hfilter, eq_self, true_and]
    · have hfilter : (db.participantFaceEmbeddings.rows.filter fun e =>
          e.participantId == other && (e.eventId == detection.eventId &&
            e.participantId == participantId)) = [] := by
        refine List.filter_eq_nil_iff.mpr fun e _ hboth => hsame ?_
        simp only [Bool.and_eq_true, beq_iff_eq] at hboth
        exact hboth.1.symm.trans hboth.2.2
      rw [hfilter]
      exact iff_of_false (fun h => by cases h) fun h => hsame h.1
  constructor
  · intro h
    obtain ⟨row, hrow, rfl⟩ := List.mem_map.mp h
    obtain ⟨hrow, hkey⟩ := List.mem_filter.mp hrow
    obtain ⟨finding, hfinding, rfl⟩ := List.mem_map.mp hrow
    obtain ⟨found, hfound, hfinding⟩ := List.mem_flatMap.mp hfinding
    obtain ⟨entry, hentry, rfl⟩ := List.mem_map.mp hfinding
    obtain ⟨hstored, hevent⟩ := List.mem_filter.mp hfound
    obtain ⟨hid, hother⟩ := Prod.ext_iff.mp (of_decide_eq_true hkey)
    have hsame : found = detection := Table.eq_of_key_eq hstored hdetection hid
    rw [hsame] at hentry hevent
    have hevent' : detection.eventId = eventId := beq_iff_eq.mp hevent
    have hget := Table.mem_iff_get?.mp hentry
    change entry.1 = otherId at hother
    rw [← hevent', hother] at hget
    obtain ⟨hparticipant, hscore⟩ := (hbest otherId).mp (by
      rw [hget]
      rfl)
    exact ⟨⟨hevent', hparticipant⟩, hscore⟩
  · rintro ⟨⟨rfl, hparticipant⟩, hscore⟩
    obtain ⟨entry, hentry, rfl⟩ := Option.map_eq_some_iff.mp
      ((hbest otherId).mpr ⟨hparticipant, hscore⟩)
    obtain ⟨hmem, hkey⟩ := Table.get?_eq_some_iff.mp hentry
    refine List.mem_map.mpr ⟨faceMatch detection entry.1 entry.2, List.mem_filter.mpr ⟨?_, ?_⟩, rfl⟩
    · refine List.mem_map.mpr ⟨(detection, entry), List.mem_flatMap.mpr ⟨detection, ?_, ?_⟩, rfl⟩
      · exact List.mem_filter.mpr ⟨hdetection, beq_self_eq_true _⟩
      · exact List.mem_map_of_mem hmem
    · exact decide_eq_true (Prod.ext rfl hkey)

/-- An enrolment records the best score of the participant with every face of the event, and
nothing else. -/
theorem scoreOf_matchParticipant (hdetection : detection ∈ db.photoFaceDetections.rows)
    {otherId : Uuid} (hreached : ∀ score,
      scoreOf db.faceParticipantMatches (detection.id, otherId) = some score →
        score ∈ db.reachedScores cfg detection otherId) :
    scoreOf (db.matchParticipant cfg participantId eventId).faceParticipantMatches
        (detection.id, otherId) =
      if detection.eventId = eventId ∧ otherId = participantId then
        db.bestScore cfg detection otherId
      else scoreOf db.faceParticipantMatches (detection.id, otherId) := by
  rw [matchParticipant_eq]
  change scoreOf (upsertedFaceMatches _ _) _ = _
  rw [scoreOf_upsertedFaceMatches]
  have hmem := fun score => @mem_enrolledScores_iff F _ cfg db detection participantId eventId
    hdetection otherId score
  generalize (((db.enrolmentFindings cfg participantId eventId).map fun f =>
    faceMatch f.1 f.2.1 f.2.2).filter fun row =>
      row.key = (detection.id, otherId)).map (·.similarityScore) = scores at hmem
  split
  next hhere =>
    have hmem' : ∀ score, score ∈ scores ↔
        db.bestScore cfg detection otherId = some score := fun score =>
      (hmem score).trans (and_iff_right hhere)
    cases hbest : db.bestScore cfg detection otherId with
    | none =>
      rw [List.max?_eq_none_iff, List.append_eq_nil_iff]
      constructor
      · rw [Option.toList_eq_nil_iff, Option.eq_none_iff_forall_ne_some]
        intro score hscore
        rw [Database.bestScore, List.max?_eq_none_iff] at hbest
        exact List.ne_nil_of_mem (hreached score hscore) hbest
      · rw [List.eq_nil_iff_forall_not_mem]
        intro score hscore
        rw [hmem', hbest] at hscore
        cases hscore
    | some best =>
      have hgreatest := (List.max?_eq_some_iff.mp hbest).2
      rw [List.max?_eq_some_iff]
      refine ⟨List.mem_append_right _ ((hmem' best).mpr hbest), fun score hscore => ?_⟩
      rcases List.mem_append.mp hscore with hold | hnew
      · exact hgreatest score (hreached score (Option.mem_toList.mp hold))
      · have hsame := (hmem' score).mp hnew
        rw [hbest] at hsame
        exact (Option.some.inj hsame).ge
  next hother =>
    have hnil : scores = [] := by
      rw [List.eq_nil_iff_forall_not_mem]
      exact fun score hscore => hother ((hmem score).mp hscore).1
    rw [hnil, List.append_nil]
    cases scoreOf db.faceParticipantMatches (detection.id, otherId) <;> rfl

end Enrolment

end RaceFrame
