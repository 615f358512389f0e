import RaceFrame.Schema.Rational
import RaceFrame.Worker.Endings

/-!
# The status of a search session

All three paths that end a face search job read the sibling statuses before the
end of the job is flushed, the completing path included. A session keeps an
agreeing status as long as no call ends its last open job; the call that does
leaves it in processing.
-/

namespace RaceFrame

open Core

variable {F : Type}

/-- The jobs of a search session. -/
def searchGroup (searchSessionId : Uuid) : JobRef → Bool
  | .faceSearch _ id _ => id == searchSessionId
  | .photo .. | .participantFace .. => false

theorem mem_searchJobStatuses {db : Database F} {searchSessionId : Uuid} {status : JobStatus} :
    status ∈ db.searchJobStatuses searchSessionId ↔
      ∃ job ∈ db.jobs.rows, searchGroup searchSessionId job.ref = true ∧ job.status = status := by
  have hgroup : ∀ job : Job F, (job.searchSessionId? == some searchSessionId) =
      searchGroup searchSessionId job.ref := by
    intro job
    unfold Job.searchSessionId? searchGroup
    cases job.ref <;> rfl
  simp only [Database.searchJobStatuses, hgroup, List.mem_map, List.mem_filter]
  constructor
  · rintro ⟨job, ⟨hmem, hjob⟩, hstatus⟩
    exact ⟨job, hmem, hjob, hstatus⟩
  · rintro ⟨job, hmem, hjob, hstatus⟩
    exact ⟨job, ⟨hmem, hjob⟩, hstatus⟩

/-- The session agrees with the statuses of its jobs. -/
structure FaceSearchSession.Agrees (session : FaceSearchSession) (statuses : List JobStatus) :
    Prop where
  done : statuses.all JobStatus.isTerminal = true →
    session.status = doneSessionStatus statuses ∧ session.finishedAt ≠ none
  busy : statuses.all JobStatus.isTerminal = false →
    session.status = .queued ∨ session.status = .processing

/-- Every session with selfies agrees with its jobs. -/
def Database.SessionsAgree (db : Database F) : Prop :=
  ∀ session ∈ db.faceSearchSessions.rows, db.searchJobStatuses session.id ≠ [] →
    session.Agrees (db.searchJobStatuses session.id)

theorem all_isTerminal_eq_false_iff {db : Database F} {searchSessionId : Uuid} :
    (db.searchJobStatuses searchSessionId).all JobStatus.isTerminal = false ↔
      db.HasOpenJob (searchGroup searchSessionId) := by
  rw [List.all_eq_false]
  constructor
  · rintro ⟨status, hmem, hopen⟩
    obtain ⟨job, hjob, hgroup, rfl⟩ := mem_searchJobStatuses.mp hmem
    exact ⟨job, hjob, hgroup, Bool.eq_false_iff.mpr hopen⟩
  · rintro ⟨job, hjob, hgroup, hopen⟩
    exact ⟨job.status, mem_searchJobStatuses.mpr ⟨job, hjob, hgroup, rfl⟩,
      Bool.eq_false_iff.mp hopen⟩

/-- A session that is queued or processing agrees with an open job. -/
theorem FaceSearchSession.agrees_of_hasOpenJob {db : Database F} {session : FaceSearchSession}
    (hstatus : session.status = .queued ∨ session.status = .processing)
    (hopen : db.HasOpenJob (searchGroup session.id)) :
    session.Agrees (db.searchJobStatuses session.id) where
  done := by
    intro hall
    rw [all_isTerminal_eq_false_iff.mpr hopen] at hall
    cases hall
  busy := fun _ => hstatus

/-- Agreement depends on which statuses occur. -/
theorem FaceSearchSession.Agrees.congr {session : FaceSearchSession}
    {statuses statuses' : List JobStatus} (h : session.Agrees statuses)
    (hmem : ∀ status, status ∈ statuses' ↔ status ∈ statuses) : session.Agrees statuses' := by
  have hall : statuses'.all JobStatus.isTerminal = statuses.all JobStatus.isTerminal := by
    rw [Bool.eq_iff_iff, List.all_eq_true, List.all_eq_true]
    simp only [hmem]
  have hdone : doneSessionStatus statuses' = doneSessionStatus statuses := by
    have hcontains : statuses'.contains .completed = statuses.contains .completed := by
      rw [Bool.eq_iff_iff, List.contains_iff_mem, List.contains_iff_mem]
      exact hmem .completed
    rw [doneSessionStatus, doneSessionStatus, hcontains]
  exact ⟨fun hall' => hdone ▸ h.done (hall ▸ hall'), fun hall' => h.busy (hall ▸ hall')⟩

variable [Scalar F]

/-- What a call can do to a session: leave it, or mark it as being processed while a job of it is
open. -/
theorem Outcome.session {cfg : Settings F} {world : World} {db db' : Database F}
    {call : WorkerCall F} {reply : Except Raised Reply} (h : Outcome cfg world db call reply db')
    {session : FaceSearchSession} (hmem : session ∈ db'.faceSearchSessions.rows) :
    session ∈ db.faceSearchSessions.rows ∨
      session.status = .processing ∧ db.HasOpenJob (searchGroup session.id) := by
  cases h with
  | raised | answered | renewed | retried => exact Or.inl hmem
  | idle reaped committed =>
    rw [faceSearchSessions_of_exceptImages committed, putJobs_faceSearchSessions] at hmem
    exact Or.inl hmem
  | ended row held ends committed =>
    rw [faceSearchSessions_of_exceptImages committed] at hmem
    exact Or.inl hmem
  | @claimed target claimedAt attemptId dead job reply _ reaped mem claimable handsOut committed =>
    rw [faceSearchSessions_of_exceptImages committed] at hmem
    cases href : job.ref with
    | faceSearch eventId searchSessionId searchImageId =>
      rw [href, Database.startParent, Database.updateSearchSession_faceSearchSessions] at hmem
      rcases Table.mem_of_mem_update hmem fun _ => rfl with ⟨hrow, -⟩ | ⟨row, hrow, rfl⟩
      · rw [Database.putJob_faceSearchSessions, putJobs_faceSearchSessions] at hrow
        exact Or.inl hrow
      · have hid : row.id = searchSessionId := Table.get?_key hrow
        refine Or.inr ⟨rfl, job, mem, by simp [href, searchGroup, hid], ?_⟩
        exact not_isTerminal_of_isAvailable (Bool.and_eq_true_iff.mp claimable).2
    | photo | participantFace =>
      rw [href] at hmem
      change session ∈ (db.putJobs dead).faceSearchSessions.rows at hmem
      rw [putJobs_faceSearchSessions] at hmem
      exact Or.inl hmem
  | recognised =>
    rw [finishPhotoJob_faceSearchSessions, matchTextDetections_eq] at hmem
    exact Or.inl hmem
  | scanned =>
    rw [finishPhotoJob_faceSearchSessions] at hmem
    exact Or.inl hmem
  | enrolled =>
    rw [matchParticipant_eq] at hmem
    exact Or.inl hmem
  | @searched jobId eventId searchSessionId searchImageId payload job rawResponseJson now
      sessionFinishedAt reply _ row held ref usable fits committed =>
    have hsessions := congrArg Database.faceSearchSessions committed
    change db'.faceSearchSessions = _ at hsessions
    rw [hsessions] at hmem
    change session ∈ (Database.markSearchSession _ _ _ _).faceSearchSessions.rows at hmem
    have hgroup : searchGroup searchSessionId job.ref = true := by simp [ref, searchGroup]
    have hopen : db.HasOpenJob (searchGroup searchSessionId) :=
      ⟨job, Table.mem_of_get? row, hgroup, by rw [held.status]; rfl⟩
    have hsome : (db.searchJobStatuses searchSessionId).isEmpty = false := by
      rw [List.isEmpty_eq_false_iff]
      exact List.ne_nil_of_mem
        (mem_searchJobStatuses.mpr ⟨job, Table.mem_of_get? row, hgroup, rfl⟩)
    simp only [Database.markSearchSession, hsome, all_isTerminal_eq_false_iff.mpr hopen,
      Bool.and_false, Bool.not_false, Bool.false_eq_true, ite_false, ite_true,
      Database.updateSearchSession_faceSearchSessions] at hmem
    rcases Table.mem_of_mem_update hmem fun _ => rfl with ⟨hrow, -⟩ | ⟨old, hold, rfl⟩
    · exact Or.inl hrow
    · have hid : old.id = searchSessionId := Table.get?_key hold
      exact Or.inr ⟨rfl, by rw [hid]; exact hopen⟩

/-- A call that ends no last open job of a session keeps the agreement. -/
theorem Outcome.sessionsAgree {cfg : Settings F} {world : World} {db db' : Database F}
    {call : WorkerCall F} {reply : Except Raised Reply} (h : Outcome cfg world db call reply db')
    (hlast : ∀ searchSessionId, ¬ call.EndsLast cfg world db (searchGroup searchSessionId))
    (hdb : db.SessionsAgree) : db'.SessionsAgree := by
  intro session hmem hne
  rcases h.session hmem with hrow | ⟨hstatus, hopen⟩
  · by_cases hopen : db.HasOpenJob (searchGroup session.id)
    · have hbefore : db.searchJobStatuses session.id ≠ [] := by
        obtain ⟨job, hjob, hgroup, -⟩ := hopen
        exact List.ne_nil_of_mem (mem_searchJobStatuses.mpr ⟨job, hjob, hgroup, rfl⟩)
      have hstatus := (hdb session hrow hbefore).busy (all_isTerminal_eq_false_iff.mpr hopen)
      exact FaceSearchSession.agrees_of_hasOpenJob hstatus (h.hasOpenJob hopen (hlast session.id))
    · have hstatuses : ∀ status, status ∈ db'.searchJobStatuses session.id ↔
          status ∈ db.searchJobStatuses session.id := by
        intro status
        rw [mem_searchJobStatuses, mem_searchJobStatuses]
        constructor
        · rintro ⟨job, hjob, hgroup, hjobStatus⟩
          exact ⟨job, (h.mem_jobs_of_ended hopen hgroup).mp hjob, hgroup, hjobStatus⟩
        · rintro ⟨job, hjob, hgroup, hjobStatus⟩
          exact ⟨job, (h.mem_jobs_of_ended hopen hgroup).mpr hjob, hgroup, hjobStatus⟩
      obtain ⟨status, hstatus⟩ := List.exists_mem_of_ne_nil _ hne
      exact (hdb session hrow (List.ne_nil_of_mem ((hstatuses status).mp hstatus))).congr hstatuses
  · exact FaceSearchSession.agrees_of_hasOpenJob (Or.inr hstatus)
      (h.hasOpenJob hopen (hlast session.id))

/-- The step ends no last open job of a session. -/
def LeavesSessionsOpen (cfg : Settings F) (db : Database F) (e : Event F) : Prop :=
  ∀ searchSessionId, ¬ e.call.EndsLast cfg e.world db (searchGroup searchSessionId)

/-- In a run in which no call ends the last open job of a session, the sessions always agree with
their jobs. -/
theorem sessionsAgree_of_leavesSessionsOpen (cfg : Settings F) {db : Database F}
    (hstart : db.SessionsAgree) {es pre post : List (Event F)}
    (hsteps : StepsMeet cfg (LeavesSessionsOpen cfg) db es) (hes : es = pre ++ post) :
    (runEvents cfg db pre).SessionsAgree :=
  hsteps.induction (fun e db hcondition hdb =>
    (outcome_serve cfg e.world db e.call).sessionsAgree hcondition hdb) hstart hes

/-! ## One session -/

/-- A session with a selfie for each of the given jobs. -/
def oneSession (jobIds : List Uuid) (hnodup : jobIds.Nodup) : Database ℚ :=
  { Database.empty with
    jobs := ⟨jobIds.map fun id => Job.queued id (.faceSearch 9 3 id) 5 0, by
      rw [List.map_map]
      exact hnodup.map fun a b hab => congrArg Prod.snd hab⟩
    faceSearchSessions := ⟨[⟨3, 9, none, .queued, none⟩], by decide⟩
    faceSearchImages := ⟨jobIds.map fun id =>
      ⟨id, 9, 3, "face.jpg".toList, "face.jpg".toList, "image/jpeg".toList, .queued, none⟩, by
        rw [List.map_map]
        exact hnodup.map fun a b hab => hab⟩ }

/-- A delivery of an embedding. -/
def oneEmbedding (attemptId : Uuid) : CompleteEmbeddingJobRequest ℚ :=
  ⟨⟨firstUnit ℚ, none, none, none, none⟩, attemptId⟩

/-- The only selfie of a session is claimed and its probe completes. -/
def claimAndComplete : List (Event ℚ) :=
  [.at 1000 101 (.claim .faceSearch), .at 2000 0 (.completeFaceSearch 21 (oneEmbedding 101))]

theorem oneSession_sessionsAgree (jobIds : List Uuid) (hnodup : jobIds.Nodup) :
    (oneSession jobIds hnodup).SessionsAgree := by
  intro session hmem hne
  obtain rfl := List.mem_singleton.mp hmem
  obtain ⟨status, hstatus⟩ := List.exists_mem_of_ne_nil _ hne
  obtain ⟨job, hjob, hgroup, -⟩ := mem_searchJobStatuses.mp hstatus
  refine FaceSearchSession.agrees_of_hasOpenJob (Or.inl rfl) ⟨job, hjob, hgroup, ?_⟩
  obtain ⟨id, -, rfl⟩ := List.mem_map.mp hjob
  rfl

/-- The only job of a session completes: its session stays in processing. -/
theorem lastSearch_leaves_processing :
    let start := oneSession [21] (by decide)
    let db := runEvents (.environment ℚ) start claimAndComplete
    start.SessionsAgree ∧ db.searchJobStatuses 3 = [.completed] ∧
      db.faceSearchSessions.rows = [⟨3, 9, none, .processing, none⟩] ∧ ¬ db.SessionsAgree := by
  intro start db
  have hstatuses : db.searchJobStatuses 3 = [.completed] := by decide +kernel
  have hsessions : db.faceSearchSessions.rows = [⟨3, 9, none, .processing, none⟩] := by
    decide +kernel
  refine ⟨oneSession_sessionsAgree [21] (by decide), hstatuses, hsessions, fun hall => ?_⟩
  have hsession := hall ⟨3, 9, none, .processing, none⟩
    (by rw [hsessions]; exact List.mem_singleton_self _) (by rw [hstatuses]; decide)
  have hdone := (hsession.done (by rw [hstatuses]; rfl)).1
  rw [hstatuses] at hdone
  cases hdone

private theorem claimAndComplete_leavesSessionsOpen :
    StepsMeet (.environment ℚ) (LeavesSessionsOpen (.environment ℚ))
      (oneSession [21, 22] (by decide)) claimAndComplete := by
  refine .cons (fun _ => not_endsLast_claim (by decide +kernel)) (.cons ?_ .nil)
  rintro searchSessionId ⟨⟨job, hmem, hgroup, -⟩, hends⟩
  have hother : ∃ other ∈ ((Event.at 1000 101 (.claim .faceSearch)).serve (.environment ℚ)
      (oneSession [21, 22] (by decide))).2.jobs.rows, other.id = 22 ∧
        other.ref = .faceSearch 9 3 22 ∧ other.status = .queued := by
    decide +kernel
  have hrefs : ∀ job ∈ ((Event.at 1000 101 (.claim .faceSearch)).serve (.environment ℚ)
      (oneSession [21, 22] (by decide))).2.jobs.rows,
        ∃ id ∈ [21, 22], job.ref = .faceSearch 9 3 id := by
    decide +kernel
  obtain ⟨other, hothermem, hid, href, hstatus⟩ := hother
  obtain ⟨id, -, hjobref⟩ := hrefs job hmem
  rw [hjobref] at hgroup
  have hkey := (hends other hothermem (by rw [href]; exact hgroup) (by rw [hstatus]; rfl)).1
  have hjobId : other.id = 21 := congrArg Prod.snd hkey
  rw [hid] at hjobId
  cases hjobId

/-- One of two selfies is done: the session is still being processed, as it should be. -/
theorem firstOfTwoSearches_agrees :
    (runEvents (.environment ℚ) (oneSession [21, 22] (by decide))
      claimAndComplete).SessionsAgree :=
  sessionsAgree_of_leavesSessionsOpen (.environment ℚ)
    (oneSession_sessionsAgree [21, 22] (by decide))
    claimAndComplete_leavesSessionsOpen (List.append_nil _).symm

end RaceFrame
