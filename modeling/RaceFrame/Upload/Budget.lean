import RaceFrame.Schema.Rational
import RaceFrame.Upload.Admission
import RaceFrame.Worker.Endings

/-!
# The budget of the job queues

The backlog together with the jobs of the files that have been counted and not
committed is a potential that only a count can raise, and a count finds the
backlog below the limit. So the backlog exceeds the limit by less than what the
files in flight insert. While one request at a time is past its check, the files
that it still has are covered by what the check has found.
-/

namespace RaceFrame

open Core

variable {F : Type}

/-! ## What is in flight -/

/-- The request is between a count and its commit. -/
def UploadStage.isStoring : UploadStage → Bool
  | .storing _ => true
  | .submitted _ | .ingesting _ | .ended => false

/-- The number of files that a request past its check may still commit. -/
def UploadStage.promised : UploadStage → Nat
  | .ingesting files => files
  | .storing files => files + 1
  | .submitted _ | .ended => 0

/-- The number of files in flight. -/
def inFlight (stages : List UploadStage) : Nat := stages.countP UploadStage.isStoring

/-- The number of files that are promised. -/
def promisedFiles (stages : List UploadStage) : Nat := (stages.map UploadStage.promised).sum

/-- The number of requests that are past their check and have files left. -/
def busyRequests (stages : List UploadStage) : Nat :=
  stages.countP fun stage => decide (0 < stage.promised)

theorem inFlight_append_cons (before after : List UploadStage) (stage : UploadStage) :
    inFlight (before ++ stage :: after) =
      inFlight before + inFlight after + if stage.isStoring then 1 else 0 := by
  rw [inFlight, inFlight, inFlight, List.countP_append, List.countP_cons]
  omega

theorem promisedFiles_append_cons (before after : List UploadStage) (stage : UploadStage) :
    promisedFiles (before ++ stage :: after) =
      promisedFiles before + promisedFiles after + stage.promised := by
  rw [promisedFiles, promisedFiles, promisedFiles, List.map_append, List.map_cons, List.sum_append,
    List.sum_cons]
  omega

theorem busyRequests_append_cons (before after : List UploadStage) (stage : UploadStage) :
    busyRequests (before ++ stage :: after) =
      busyRequests before + busyRequests after + if 0 < stage.promised then 1 else 0 := by
  rw [busyRequests, busyRequests, busyRequests, List.countP_append, List.countP_cons]
  simp only [decide_eq_true_eq]
  omega

/-- Nothing is promised when no request is past its check. -/
theorem promisedFiles_of_idle {stages : List UploadStage} (h : busyRequests stages = 0) :
    promisedFiles stages = 0 := by
  induction stages with
  | nil => rfl
  | cons stage stages ih =>
    have hsplit := busyRequests_append_cons [] stages stage
    have hsum := promisedFiles_append_cons [] stages stage
    have hnil : busyRequests [] = 0 := rfl
    have hnone : promisedFiles [] = 0 := rfl
    rw [List.nil_append] at hsplit hsum
    rw [h] at hsplit
    have hrest := ih (by omega)
    by_cases hpos : 0 < stage.promised
    · rw [if_pos hpos] at hsplit
      omega
    · omega

/-! ## What a commit adds -/

theorem backlog_publishPhoto {db db' : Database F} {cfg : UploadSettings} {photo : Photo}
    {ocrJobId faceJobId : Uuid} {createdAt : Instant}
    (h : db.publishPhoto cfg photo ocrJobId faceJobId createdAt = some db') (kind : JobKind) :
    db'.backlog kind = db.backlog kind + if kind = .photo then 2 else 0 := by
  obtain ⟨photos, -, h⟩ := Option.bind_eq_some_iff.mp h
  obtain ⟨jobs, hjobs, h⟩ := Option.bind_eq_some_iff.mp h
  obtain rfl := Option.some.inj h
  rw [Database.backlog, Table.rows_of_insertAll? hjobs, List.countP_append]
  cases kind <;> rfl

theorem backlog_publishSearchImage {db db' : Database F} {cfg : UploadSettings}
    {created : Option FaceSearchSession} {image : FaceSearchImage} {jobId : Uuid}
    {createdAt : Instant} (h : db.publishSearchImage cfg created image jobId createdAt = some db')
    (kind : JobKind) :
    db'.backlog kind = db.backlog kind + if kind = .faceSearch then 1 else 0 := by
  obtain ⟨sessions, -, h⟩ := Option.bind_eq_some_iff.mp h
  obtain ⟨images, -, h⟩ := Option.bind_eq_some_iff.mp h
  obtain ⟨jobs, hjobs, h⟩ := Option.bind_eq_some_iff.mp h
  obtain rfl := Option.some.inj h
  rw [Database.backlog, Table.rows_of_insert? hjobs, List.countP_append]
  cases kind <;> rfl

/-- A commit adds the jobs of a file to the backlog of its queue. -/
structure UploadQueue.Counts (q : UploadQueue F) : Prop where
  own : ∀ {db db' : Database F}, q.Publishes db db' →
    db'.backlog q.kind = db.backlog q.kind + q.jobsPerFile
  other : ∀ {db db' : Database F} {kind : JobKind}, q.Publishes db db' → kind ≠ q.kind →
    db'.backlog kind = db.backlog kind

theorem UploadSettings.photoQueue_counts (cfg : UploadSettings) :
    (cfg.photoQueue : UploadQueue F).Counts where
  own := by
    rintro db db' ⟨photo, ocrJobId, faceJobId, createdAt, h⟩
    exact backlog_publishPhoto h .photo
  other := by
    rintro db db' kind ⟨photo, ocrJobId, faceJobId, createdAt, h⟩ hkind
    have hother : kind ≠ .photo := hkind
    rw [backlog_publishPhoto h, if_neg hother, Nat.add_zero]

theorem UploadSettings.searchQueue_counts (cfg : UploadSettings) :
    (cfg.searchQueue : UploadQueue F).Counts where
  own := by
    rintro db db' ⟨created, image, jobId, createdAt, h⟩
    exact backlog_publishSearchImage h .faceSearch
  other := by
    rintro db db' kind ⟨created, image, jobId, createdAt, h⟩ hkind
    have hother : kind ≠ .faceSearch := hkind
    rw [backlog_publishSearchImage h, if_neg hother, Nat.add_zero]

/-- The two upload queues. -/
inductive UploadKind
  | photo | search
  deriving DecidableEq

/-- The queue of a kind. -/
def UploadSettings.queue (cfg : UploadSettings) : UploadKind → UploadQueue F
  | .photo => cfg.photoQueue
  | .search => cfg.searchQueue

theorem UploadSettings.queue_counts (cfg : UploadSettings) (kind : UploadKind) :
    (cfg.queue kind : UploadQueue F).Counts := by
  cases kind with
  | photo => exact cfg.photoQueue_counts
  | search => exact cfg.searchQueue_counts

/-! ## What a step can do to the backlog -/

section

variable {q : UploadQueue F} {db db' : Database F} {stages stages' : List UploadStage}

/-- A step of one queue leaves the backlog of the others alone. -/
theorem QueueStep.backlog_other (h : QueueStep q db stages db' stages') (hq : q.Counts)
    {kind : JobKind} (hkind : kind ≠ q.kind) : db'.backlog kind = db.backlog kind := by
  cases h with
  | submit batch stages => rfl
  | move before after moved =>
    cases moved with
    | publish committed => exact hq.other committed hkind
    | enter _ | refuse _ | skip | full _ | count _ | lose | finish _ => rfl

/-- Backlog and files in flight grow only by a count that finds room. -/
theorem QueueStep.inFlight_le (h : QueueStep q db stages db' stages') (hq : q.Counts) :
    db'.backlog q.kind + q.jobsPerFile * inFlight stages' ≤
        db.backlog q.kind + q.jobsPerFile * inFlight stages ∨
      db'.backlog q.kind < q.limit := by
  cases h with
  | submit batch stages =>
    left
    rfl
  | move before after moved =>
    rw [inFlight_append_cons, inFlight_append_cons]
    cases moved with
    | count count => exact Or.inr count
    | publish committed =>
      left
      rw [hq.own committed]
      simp only [UploadStage.isStoring, Bool.false_eq_true, if_false, if_true, Nat.mul_add,
        Nat.mul_one, Nat.mul_zero]
      omega
    | enter _ | refuse _ | skip | full _ | lose | finish _ =>
      left
      apply Nat.add_le_add_left
      apply Nat.mul_le_mul_left
      simp only [UploadStage.isStoring, Bool.false_eq_true, if_false]
      omega

/-- While one request is past its check, backlog and promised files grow only by a check that
finds room for all of them. -/
theorem QueueStep.promised_le (h : QueueStep q db stages db' stages') (hq : q.Counts)
    (hbusy : busyRequests stages' ≤ 1) :
    db'.backlog q.kind + q.jobsPerFile * promisedFiles stages' ≤
        db.backlog q.kind + q.jobsPerFile * promisedFiles stages ∨
      db'.backlog q.kind + q.jobsPerFile * promisedFiles stages' ≤ q.limit := by
  cases h with
  | @submit files batch stages =>
    left
    have hsame := promisedFiles_append_cons [] stages (.submitted files)
    have hnone : promisedFiles [] = 0 := rfl
    rw [List.nil_append, hnone, UploadStage.promised, Nat.zero_add, Nat.add_zero] at hsame
    rw [hsame]
  | @move stage stage' _ before after moved =>
    rw [busyRequests_append_cons] at hbusy
    rw [promisedFiles_append_cons, promisedFiles_append_cons]
    cases moved with
    | @enter files capacity =>
      rw [ensureJobCapacity] at capacity
      split at capacity
      · cases capacity
      · rename_i hroom
        by_cases hfiles : 0 < files
        · rw [UploadStage.promised, if_pos hfiles] at hbusy
          have hbefore : promisedFiles before = 0 := promisedFiles_of_idle (by omega)
          have hafter : promisedFiles after = 0 := promisedFiles_of_idle (by omega)
          rw [hbefore, hafter]
          right
          simp only [UploadStage.promised, Nat.zero_add]
          rw [Nat.mul_comm files] at hroom
          omega
        · left
          simp only [UploadStage.promised]
          have hzero : files = 0 := by omega
          rw [hzero]
    | publish committed =>
      left
      rw [hq.own committed]
      simp only [UploadStage.promised, Nat.mul_add, Nat.mul_one]
      omega
    | refuse _ | skip | full _ | count _ | lose | finish _ =>
      left
      apply Nat.add_le_add_left
      apply Nat.mul_le_mul_left
      simp only [UploadStage.promised]
      omega

end

variable [Scalar F]

/-- A call of a worker adds nothing to a backlog. -/
theorem backlog_serve_le (workerCfg : Settings F) (event : Event F) (db : Database F)
    (kind : JobKind) : (event.serve workerCfg db).2.backlog kind ≤ db.backlog kind := by
  have houtcome := outcome_serve workerCfg event.world db event.call
  rw [Database.backlog, Database.backlog, List.countP_eq_length_filter,
    List.countP_eq_length_filter, ← List.length_map (f := Job.key),
    ← List.length_map (f := Job.key)]
  apply List.Subperm.length_le
  apply List.subperm_of_subset
  · exact (event.serve workerCfg db).2.jobs.nodup.sublist (List.filter_sublist.map _)
  · intro key hkey
    obtain ⟨job', hjob', rfl⟩ := List.mem_map.mp hkey
    obtain ⟨hmem, hactive⟩ := List.mem_filter.mp hjob'
    obtain ⟨job, a, hrow, hmove⟩ := houtcome.exists_before hmem
    rw [Bool.and_eq_true, beq_iff_eq, Bool.not_eq_true'] at hactive
    have hopen : job.status.isTerminal = false := by
      by_contra hterminal
      obtain ⟨hsame, -⟩ := houtcome.get?_of_isTerminal hrow (Bool.not_eq_false _ ▸ hterminal)
      have heq := Option.some.inj (hsame.symm.trans (Table.mem_iff_get?.mp hmem))
      rw [heq, hactive.2] at hterminal
      exact hterminal rfl
    have hkeys := Table.get?_key hrow
    refine List.mem_map.mpr ⟨job, List.mem_filter.mpr ⟨Table.mem_of_get? hrow, ?_⟩, hkeys⟩
    have hkind : job.ref.kind = kind := (congrArg Prod.fst hkeys).trans hactive.1
    rw [hkind, hopen, beq_self_eq_true]
    rfl

/-! ## Runs -/

/-- The uploads of a kind. -/
def UploadSystem.uploads (s : UploadSystem F) : UploadKind → List UploadStage
  | .photo => s.photoUploads
  | .search => s.searchUploads

/-- The backlog of a kind. -/
def UploadSystem.backlog (s : UploadSystem F) (cfg : UploadSettings) (kind : UploadKind) : Nat :=
  s.db.backlog (cfg.queue kind : UploadQueue F).kind

/-- At most `bound` files of each kind are in flight. -/
def UploadSystem.Within (bound : UploadKind → Nat) (s : UploadSystem F) : Prop :=
  ∀ kind, inFlight (s.uploads kind) ≤ bound kind

/-- One request of each kind at a time is past its check. -/
def UploadSystem.Serial (s : UploadSystem F) : Prop := ∀ kind, busyRequests (s.uploads kind) ≤ 1

/-- A run from a database without uploads under way, whose steps all lead to states that meet a
condition. -/
def UploadRun (cfg : UploadSettings) (workerCfg : Settings F) (meets : UploadSystem F → Prop)
    (db : Database F) (s : UploadSystem F) : Prop :=
  Relation.ReflTransGen (fun s t => UploadStep cfg workerCfg s t ∧ meets t) ⟨db, [], []⟩ s

variable {cfg : UploadSettings} {workerCfg : Settings F} {s t : UploadSystem F}

/-- To one queue, a step is one of its own or leaves its uploads and adds nothing to its
backlog. -/
theorem UploadStep.queueStep (h : UploadStep cfg workerCfg s t) (kind : UploadKind) :
    QueueStep (cfg.queue kind) s.db (s.uploads kind) t.db (t.uploads kind) ∨
      (t.uploads kind = s.uploads kind ∧ t.backlog cfg kind ≤ s.backlog cfg kind) := by
  cases h with
  | photo searches step =>
    cases kind with
    | photo => exact Or.inl step
    | search =>
      have hother : JobKind.faceSearch ≠ .photo := by decide
      exact Or.inr ⟨rfl, (step.backlog_other cfg.photoQueue_counts hother).le⟩
  | search photos step =>
    cases kind with
    | photo =>
      have hother : JobKind.photo ≠ .faceSearch := by decide
      exact Or.inr ⟨rfl, (step.backlog_other cfg.searchQueue_counts hother).le⟩
    | search => exact Or.inl step
  | worker event db photos searches =>
    refine Or.inr ⟨by cases kind <;> rfl, ?_⟩
    cases kind with
    | photo => exact backlog_serve_le workerCfg event db .photo
    | search => exact backlog_serve_le workerCfg event db .faceSearch

/-- A run meets every weaker condition. -/
theorem UploadRun.weaken {meets meets' : UploadSystem F → Prop} {db : Database F}
    (h : UploadRun cfg workerCfg meets db s) (hmeets : ∀ t, meets t → meets' t) :
    UploadRun cfg workerCfg meets' db s := by
  induction h with
  | refl => exact .refl
  | tail _ hstep ih => exact ih.tail ⟨hstep.1, hmeets _ hstep.2⟩

/-- Backlog and files in flight along a run. -/
theorem UploadRun.inFlight_bound {bound : UploadKind → Nat} {db : Database F}
    (h : UploadRun cfg workerCfg (UploadSystem.Within bound) db s) (kind : UploadKind) :
    let q : UploadQueue F := cfg.queue kind
    let load := s.backlog cfg kind + q.jobsPerFile * inFlight (s.uploads kind)
    load ≤ db.backlog q.kind ∨ load < q.limit + q.jobsPerFile * bound kind := by
  intro q
  induction h with
  | refl =>
    left
    cases kind <;> exact Nat.le_refl _
  | @tail s t _ hstep ih =>
    obtain ⟨hstep, hwithin⟩ := hstep
    have hbound := Nat.mul_le_mul_left q.jobsPerFile (hwithin kind)
    rcases hstep.queueStep kind with hown | ⟨hsame, hle⟩
    · rcases hown.inFlight_le (cfg.queue_counts kind) with hle | hroom
      · exact ih.imp hle.trans hle.trans_lt
      · exact Or.inr (Nat.add_lt_add_of_lt_of_le hroom hbound)
    · have hload := Nat.add_le_add_right hle (q.jobsPerFile * inFlight (s.uploads kind))
      rw [hsame]
      exact ih.imp hload.trans hload.trans_lt

/-- Backlog and promised files along a run with one request at a time past its check. -/
theorem UploadRun.promised_bound {db : Database F}
    (h : UploadRun cfg workerCfg UploadSystem.Serial db s) (kind : UploadKind) :
    let q : UploadQueue F := cfg.queue kind
    let load := s.backlog cfg kind + q.jobsPerFile * promisedFiles (s.uploads kind)
    load ≤ db.backlog q.kind ∨ load ≤ q.limit := by
  intro q
  induction h with
  | refl =>
    left
    cases kind <;> exact Nat.le_refl _
  | @tail s t _ hstep ih =>
    obtain ⟨hstep, hserial⟩ := hstep
    rcases hstep.queueStep kind with hown | ⟨hsame, hle⟩
    · rcases hown.promised_le (cfg.queue_counts kind) (hserial kind) with hle | hroom
      · exact ih.imp hle.trans hle.trans
      · exact Or.inr hroom
    · have hload := Nat.add_le_add_right hle (q.jobsPerFile * promisedFiles (s.uploads kind))
      rw [hsame]
      exact ih.imp hload.trans hload.trans

/-- Uploads take a backlog above its limit by less than what the files in flight insert, and not
at all while one request of each kind at a time is past its capacity check. -/
theorem uploads_keep_budget (cfg : UploadSettings) (workerCfg : Settings F) (db : Database F) :
    (∀ (bound : UploadKind → Nat) (s : UploadSystem F),
        UploadRun cfg workerCfg (UploadSystem.Within bound) db s →
          (s.db.backlog .photo ≤ db.backlog .photo ∨
              s.db.backlog .photo < cfg.maxPhotoJobBacklog + 2 * bound .photo) ∧
            (s.db.backlog .faceSearch ≤ db.backlog .faceSearch ∨
              s.db.backlog .faceSearch < cfg.maxFaceSearchBacklog + bound .search)) ∧
      ∀ s : UploadSystem F, UploadRun cfg workerCfg UploadSystem.Serial db s →
        (s.db.backlog .photo ≤ db.backlog .photo ∨
            s.db.backlog .photo ≤ cfg.maxPhotoJobBacklog) ∧
          (s.db.backlog .faceSearch ≤ db.backlog .faceSearch ∨
            s.db.backlog .faceSearch ≤ cfg.maxFaceSearchBacklog) := by
  constructor
  · intro bound s h
    have hphoto : s.db.backlog .photo + 2 * inFlight s.photoUploads ≤ db.backlog .photo ∨
        s.db.backlog .photo + 2 * inFlight s.photoUploads <
          cfg.maxPhotoJobBacklog + 2 * bound .photo := h.inFlight_bound .photo
    have hsearch : s.db.backlog .faceSearch + 1 * inFlight s.searchUploads ≤
          db.backlog .faceSearch ∨
        s.db.backlog .faceSearch + 1 * inFlight s.searchUploads <
          cfg.maxFaceSearchBacklog + 1 * bound .search := h.inFlight_bound .search
    omega
  · intro s h
    have hphoto : s.db.backlog .photo + 2 * promisedFiles s.photoUploads ≤ db.backlog .photo ∨
        s.db.backlog .photo + 2 * promisedFiles s.photoUploads ≤ cfg.maxPhotoJobBacklog :=
      h.promised_bound .photo
    have hsearch : s.db.backlog .faceSearch + 1 * promisedFiles s.searchUploads ≤
          db.backlog .faceSearch ∨
        s.db.backlog .faceSearch + 1 * promisedFiles s.searchUploads ≤
          cfg.maxFaceSearchBacklog := h.promised_bound .search
    omega

/-- Two photo jobs at most. -/
def tightSettings : UploadSettings where
  maxPhotoJobBacklog := 2
  maxFaceSearchBacklog := 1
  maxPhotoBatchFiles := 50
  maxSelfieBatchFiles := 5
  workerMaxAttempts := 5

/-- An uploaded photo. -/
def uploadedPhoto (id : Uuid) : Photo := ⟨id, 7, ['k'], ['f'], ['t'], .processing, 0⟩

/-- The database with one accepted photo. -/
def onePhotoDb : Database ℚ :=
  (Database.empty.publishPhoto tightSettings (uploadedPhoto 1) 11 12 0).getD .empty

/-- The database with two accepted photos. -/
def twoPhotosDb : Database ℚ :=
  (onePhotoDb.publishPhoto tightSettings (uploadedPhoto 2) 21 22 0).getD .empty

section

variable {workerCfg : Settings ℚ} {db db' : Database ℚ}

private theorem submitStep (stages : List UploadStage) :
    UploadStep tightSettings workerCfg ⟨db, stages, []⟩ ⟨db, .submitted 1 :: stages, []⟩ := by
  apply UploadStep.photo
  apply QueueStep.submit
  decide

private theorem photoStep {stage stage' : UploadStage} (before after : List UploadStage)
    (moved : UploadMove tightSettings.photoQueue db stage db' stage') :
    UploadStep tightSettings workerCfg ⟨db, before ++ stage :: after, []⟩
      ⟨db', before ++ stage' :: after, []⟩ :=
  .photo [] (.move before after moved)

private theorem publishStep {photo : Photo} {ocrJobId faceJobId : Uuid}
    (h : db.publishPhoto tightSettings photo ocrJobId faceJobId 0 = some db') :
    UploadMove tightSettings.photoQueue db (.storing 0) db' (.ingesting 0) :=
  .publish ⟨photo, ocrJobId, faceJobId, 0, h⟩

end

/-- Two uploads of one photo each check the empty queue before either commits. -/
theorem overbooked_run (workerCfg : Settings ℚ) :
    UploadRun tightSettings workerCfg (UploadSystem.Within fun _ => 2) Database.empty
      ⟨twoPhotosDb, [.ingesting 0, .ingesting 0], []⟩ := by
  have hwithin : ∀ (db : Database ℚ) (stages : List UploadStage), stages.length ≤ 2 →
      UploadSystem.Within (fun _ => 2) (⟨db, stages, []⟩ : UploadSystem ℚ) := by
    intro db stages hlength kind
    cases kind with
    | photo => exact List.countP_le_length.trans hlength
    | search => exact Nat.zero_le 2
  have hfirst : Database.empty.publishPhoto tightSettings (uploadedPhoto 1) 11 12 0 =
      some onePhotoDb := rfl
  have hsecond : onePhotoDb.publishPhoto tightSettings (uploadedPhoto 2) 21 22 0 =
      some twoPhotosDb := rfl
  refine .head ⟨submitStep [], hwithin _ _ (by decide)⟩ ?_
  refine .head ⟨submitStep [.submitted 1], hwithin _ _ (by decide)⟩ ?_
  refine .head ⟨photoStep [] [.submitted 1] (.enter rfl), hwithin _ _ (by decide)⟩ ?_
  refine .head ⟨photoStep [.ingesting 1] [] (.enter rfl), hwithin _ _ (by decide)⟩ ?_
  refine .head ⟨photoStep [] [.ingesting 1] (.count (by decide)), hwithin _ _ (by decide)⟩ ?_
  refine .head ⟨photoStep [.storing 0] [] (.count (by decide)), hwithin _ _ (by decide)⟩ ?_
  refine .head ⟨photoStep [] [.storing 0] (publishStep hfirst), hwithin _ _ (by decide)⟩ ?_
  refine .head ⟨photoStep [.ingesting 0] [] (publishStep hsecond), hwithin _ _ (by decide)⟩ ?_
  exact .refl

/-- The two uploads stay below the limit and two jobs for each of them. -/
theorem overbooked_below :
    twoPhotosDb.backlog .photo < tightSettings.maxPhotoJobBacklog + 2 * 2 := by
  have hrun := overbooked_run (Settings.environment ℚ)
  have hbudget := uploads_keep_budget tightSettings (Settings.environment ℚ) Database.empty
  exact (hbudget.1 _ _ hrun).1.resolve_left (by decide)

/-- Two accepted uploads take the backlog from zero above its limit. -/
theorem backlog_overbooked :
    ∃ s : UploadSystem ℚ,
      UploadRun tightSettings (Settings.environment ℚ) (fun _ => True) Database.empty s ∧
        (Database.empty : Database ℚ).backlog .photo = 0 ∧
        tightSettings.maxPhotoJobBacklog < s.db.backlog .photo := by
  refine ⟨⟨twoPhotosDb, [.ingesting 0, .ingesting 0], []⟩, ?_, rfl, by decide⟩
  exact (overbooked_run (Settings.environment ℚ)).weaken fun _ _ => trivial

end RaceFrame
