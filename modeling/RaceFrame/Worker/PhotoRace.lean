import Mathlib.Data.List.Induction
import RaceFrame.Core.ReadCommitted
import RaceFrame.Worker.PhotoStatus

/-!
# Two completions for one photo

The OCR job and the face scan of a photo complete in two transactions that may
overlap. Each locks its own job row only, reads the statuses of both jobs after
flushing its own, and updates the photo if its status changes. The photo ends up
ready exactly if one of them reads after the other has committed.
-/

namespace RaceFrame

open Core

variable {F : Type}

/-- The other of the two jobs of a photo. -/
def PhotoJobType.other : PhotoJobType → PhotoJobType
  | .ocr => .facePhotoScan
  | .facePhotoScan => .ocr

theorem PhotoJobType.eq_other_of_ne {i j : PhotoJobType} (h : j ≠ i) : j = i.other := by
  cases i <;> cases j <;> first | rfl | exact absurd rfl h

/-- What two workers deliver for one photo. -/
structure PhotoDelivery (F : Type) where
  photoId : Uuid
  jobId : PhotoJobType → Uuid
  detections : List (OCRDetectionPayload F)
  faceDetections : List (FaceDetectionPayload F)
  faceIds : List Uuid
  rawResponseJson : PhotoJobType → JsonDict F
  finishedAt : PhotoJobType → Instant

/-- What a transaction keeps in memory: the objects that it has loaded and the statuses that it
has read. -/
structure CompletionMemory (F : Type) where
  job : Option (Job F)
  photo : Option Photo
  statuses : List JobStatus

/-- The update of a photo, which is sent only if the status changes. -/
def Database.updatePhotoStatus (db : Database F) (photo : Photo) (statuses : List JobStatus) :
    Database F :=
  match markedPhotoStatus statuses with
  | some status => if status = photo.status then db else db.setPhotoStatus photo.id status
  | none => db

/-- The rows of the photo and its jobs: the statuses of the two jobs and of the photo. -/
structure PhotoRows (d : PhotoDelivery F) (db : Database F) (status : PhotoJobType → JobStatus)
    (photoStatus : PhotoStatus) : Prop where
  job : ∀ i, ∃ job, db.jobs.get? (.photo, d.jobId i) = some job ∧ job.ref = .photo d.photoId i ∧
    job.status = status i
  only : ∀ job ∈ db.jobs.rows, photoGroup d.photoId job.ref = true →
    ∃ i, job.key = (.photo, d.jobId i)
  photo : ∃ photo, db.photos.get? d.photoId = some photo ∧ photo.status = photoStatus

namespace PhotoRows

variable {d : PhotoDelivery F} {db db' : Database F} {status : PhotoJobType → JobStatus}
  {photoStatus : PhotoStatus}

theorem of_eq (h : PhotoRows d db status photoStatus) (hjobs : db'.jobs = db.jobs)
    (hphotos : db'.photos = db.photos) : PhotoRows d db' status photoStatus where
  job := by
    rw [hjobs]
    exact h.job
  only := by
    rw [hjobs]
    exact h.only
  photo := by
    rw [hphotos]
    exact h.photo

/-- The jobs have different rows. -/
theorem jobId_ne (h : PhotoRows d db status photoStatus) {i j : PhotoJobType} (hne : j ≠ i) :
    d.jobId j ≠ d.jobId i := by
  intro hid
  obtain ⟨job, hjob, href, -⟩ := h.job i
  obtain ⟨job', hjob', href', -⟩ := h.job j
  rw [hid, hjob, Option.some.injEq] at hjob'
  rw [← hjob', href, JobRef.photo.injEq] at href'
  exact hne href'.2.symm

/-- Writing one of the two jobs changes its status. -/
theorem putJob (h : PhotoRows d db status photoStatus) {i : PhotoJobType} {job : Job F}
    (hid : job.id = d.jobId i) (href : job.ref = .photo d.photoId i) :
    PhotoRows d (db.putJob job) (Function.update status i job.status) photoStatus where
  job := by
    intro j
    have hkey : job.key = (.photo, d.jobId i) := by rw [Job.key, hid, href]; rfl
    rw [Database.putJob_jobs, Table.get?_put, hkey]
    by_cases hj : j = i
    · subst hj
      obtain ⟨old, hold, -⟩ := h.job j
      exact ⟨job, by simp [hold], href, by simp⟩
    · obtain ⟨old, hold, holdref, hstatus⟩ := h.job j
      refine ⟨old, ?_, holdref, by rw [Function.update_of_ne hj, hstatus]⟩
      rw [if_neg fun he => h.jobId_ne hj (congrArg Prod.snd he), hold]
  only := by
    intro row hmem hgroup
    rcases Table.mem_put.mp hmem with ⟨rfl, -⟩ | ⟨hrow, -⟩
    · exact ⟨i, by rw [Job.key, hid, href]; rfl⟩
    · exact h.only row hrow hgroup
  photo := h.photo

/-- Writing the photo changes its status. -/
theorem setPhotoStatus (h : PhotoRows d db status photoStatus) (photoStatus' : PhotoStatus) :
    PhotoRows d (db.setPhotoStatus d.photoId photoStatus') status photoStatus' where
  job := h.job
  only := h.only
  photo := by
    obtain ⟨photo, hphoto, -⟩ := h.photo
    exact ⟨{ photo with status := photoStatus' }, Table.get?_update_self hphoto fun _ => rfl, rfl⟩

/-- The status that the two jobs call for. -/
theorem marked (h : PhotoRows d db status photoStatus) :
    markedPhotoStatus (db.photoJobStatuses d.photoId) =
      some (aggregatePhotoStatus [status .ocr, status .facePhotoScan]) := by
  have hmem : ∀ s, s ∈ db.photoJobStatuses d.photoId ↔ ∃ i, status i = s := by
    intro s
    rw [mem_photoJobStatuses]
    constructor
    · rintro ⟨job, hjob, hgroup, rfl⟩
      obtain ⟨i, hkey⟩ := h.only job hjob hgroup
      obtain ⟨row, hrow, -, hstatus⟩ := h.job i
      rw [← hkey, Table.mem_iff_get?.mp hjob, Option.some.injEq] at hrow
      exact ⟨i, by rw [hrow, hstatus]⟩
    · rintro ⟨i, rfl⟩
      obtain ⟨job, hjob, href, hstatus⟩ := h.job i
      exact ⟨job, Table.mem_of_get? hjob, by simp [href, photoGroup], hstatus⟩
  rw [markedPhotoStatus_eq (List.ne_nil_of_mem ((hmem (status .ocr)).mpr ⟨.ocr, rfl⟩))]
  congr 1
  refine aggregatePhotoStatus_congr fun s => ?_
  rw [hmem, List.mem_cons, List.mem_singleton]
  constructor
  · rintro ⟨i, rfl⟩
    cases i
    · exact Or.inl rfl
    · exact Or.inr rfl
  · rintro (rfl | rfl)
    · exact ⟨.ocr, rfl⟩
    · exact ⟨.facePhotoScan, rfl⟩

end PhotoRows

variable [Scalar F]

/-- What a completion stores before it writes its job. -/
def PhotoDelivery.store (d : PhotoDelivery F) (i : PhotoJobType) (job : Job F) (photo : Photo)
    (db : Database F) : Database F :=
  match i with
  | .ocr =>
    let stored := storedTextDetections photo (releasedJob job) d.detections
    ((db.putJob (releasedJob job)).storeTextDetections job stored).matchTextDetections photo stored
  | .facePhotoScan =>
    let cleared := (db.putJob (releasedJob job)).deletePhotoFaceDetections fun row =>
      row.photoJobId == job.id
    match cleared.photoFaceDetections.insertAll?
      (storedFaceDetections photo (releasedJob job) d.faceIds d.faceDetections) with
    | some rows => cleared.setPhotoFaceDetections rows
    | none => cleared

/-- The statements of a completion: lock and load the job and its photo; store the results and
flush the status of the job; read the statuses of the jobs; update the photo; commit. -/
def PhotoDelivery.code (d : PhotoDelivery F) (i : PhotoJobType) :
    List (Statement (Database F) (CompletionMemory F)) :=
  [.read fun db memory =>
      { memory with job := db.jobs.get? (.photo, d.jobId i), photo := db.photos.get? d.photoId },
    .write fun memory db =>
      match memory.job, memory.photo with
      | some job, some photo => (d.store i job photo db).putJob
          (completedJob (releasedJob job) (d.rawResponseJson i) (d.finishedAt i))
      | _, _ => db,
    .read fun db memory => { memory with statuses := db.photoJobStatuses d.photoId },
    .write fun memory db =>
      match memory.photo with
      | some photo => db.updatePhotoStatus photo memory.statuses
      | none => db,
    .commit]

/-- The two transactions before their first statements. -/
def PhotoDelivery.start (d : PhotoDelivery F) (db : Database F) :
    System PhotoJobType (Database F) (CompletionMemory F) :=
  .start db d.code ⟨none, none, []⟩

theorem PhotoDelivery.store_jobs (d : PhotoDelivery F) (i : PhotoJobType) (job : Job F)
    (photo : Photo) (db : Database F) :
    (d.store i job photo db).jobs = db.jobs.put (releasedJob job) := by
  unfold PhotoDelivery.store
  cases i with
  | ocr =>
    simp only [matchTextDetections_eq]
    rfl
  | facePhotoScan =>
    dsimp only
    split <;> rfl

theorem PhotoDelivery.store_photos (d : PhotoDelivery F) (i : PhotoJobType) (job : Job F)
    (photo : Photo) (db : Database F) : (d.store i job photo db).photos = db.photos := by
  unfold PhotoDelivery.store
  cases i with
  | ocr =>
    simp only [matchTextDetections_eq]
    rfl
  | facePhotoScan =>
    dsimp only
    split <;> rfl

/-- Storing the results and flushing the job completes the job. -/
theorem PhotoRows.store {d : PhotoDelivery F} {db : Database F}
    {status : PhotoJobType → JobStatus} {photoStatus : PhotoStatus}
    (h : PhotoRows d db status photoStatus) {i : PhotoJobType} {job : Job F}
    (hid : job.id = d.jobId i) (href : job.ref = .photo d.photoId i) (photo : Photo) :
    PhotoRows d ((d.store i job photo db).putJob
      (completedJob (releasedJob job) (d.rawResponseJson i) (d.finishedAt i)))
      (Function.update status i .completed) photoStatus := by
  have hput : PhotoRows d
      (db.putJob (completedJob (releasedJob job) (d.rawResponseJson i) (d.finishedAt i)))
      (Function.update status i .completed) photoStatus := by
    have hcompleted : (completedJob (releasedJob job) (d.rawResponseJson i) (d.finishedAt i)).id =
        d.jobId i := hid
    exact h.putJob hcompleted href
  refine hput.of_eq ?_ (d.store_photos i job photo db)
  rw [Database.putJob_jobs, d.store_jobs, put_releasedJob_put]
  rfl

/-! ## The order of the statements -/

/-- What matters of a schedule: how many statements each transaction has run, and whether the
other had committed when it read the statuses. -/
structure Race where
  ran : PhotoJobType → Nat
  saw : PhotoJobType → Bool

namespace Race

/-- One statement of a transaction; its third one reads the statuses. -/
def step (r : Race) (i : PhotoJobType) : Race where
  ran := Function.update r.ran i (r.ran i + 1)
  saw := if r.ran i = 2 then Function.update r.saw i (decide (5 ≤ r.ran i.other)) else r.saw

theorem ran_step_self (r : Race) (i : PhotoJobType) : (r.step i).ran i = r.ran i + 1 :=
  Function.update_self _ _ _

theorem ran_step_of_ne (r : Race) {i j : PhotoJobType} (h : j ≠ i) : (r.step i).ran j = r.ran j :=
  Function.update_of_ne h _ _

theorem saw_step_of_read {r : Race} {i : PhotoJobType} (h : r.ran i = 2) :
    (r.step i).saw i = decide (5 ≤ r.ran i.other) := by
  simp [step, h]

theorem saw_step_of_ne_two {r : Race} {i : PhotoJobType} (h : r.ran i ≠ 2) :
    (r.step i).saw = r.saw := by
  simp [step, h]

theorem saw_step_of_ne (r : Race) {i j : PhotoJobType} (h : j ≠ i) :
    (r.step i).saw j = r.saw j := by
  by_cases hread : r.ran i = 2
  · simp [step, hread, Function.update_of_ne h]
  · rw [saw_step_of_ne_two hread]

/-- The race of a schedule. -/
def run (schedule : List PhotoJobType) : Race := schedule.foldl step ⟨fun _ => 0, fun _ => false⟩

theorem run_concat (schedule : List PhotoJobType) (i : PhotoJobType) :
    run (schedule ++ [i]) = (run schedule).step i := by
  rw [run, List.foldl_append]
  rfl

theorem ran_run (schedule : List PhotoJobType) (i : PhotoJobType) :
    (run schedule).ran i = schedule.count i := by
  induction schedule using List.reverseRecOn with
  | nil => rfl
  | append_singleton schedule j ih =>
    rw [run_concat, List.count_append, List.count_singleton, ← ih]
    by_cases hj : j = i
    · simp [step, hj]
    · simp [step, hj, Function.update_of_ne (Ne.symm hj)]

/-- A transaction has seen the other's commit exactly if it took its third turn after the other's
fifth. -/
theorem saw_run_iff (schedule : List PhotoJobType) (i : PhotoJobType) :
    (run schedule).saw i = true ↔ ∃ pre post, schedule = pre ++ i :: post ∧ pre.count i = 2 ∧
      5 ≤ pre.count i.other := by
  induction schedule using List.reverseRecOn with
  | nil => simp [run]
  | append_singleton schedule j ih =>
    have hstep : (run (schedule ++ [j])).saw i = true ↔
        (j = i ∧ schedule.count i = 2 ∧ 5 ≤ schedule.count i.other) ∨
          (¬ (j = i ∧ schedule.count i = 2) ∧ (run schedule).saw i = true) := by
      rw [run_concat, step]
      simp only [ran_run]
      by_cases hj : j = i
      · subst hj
        by_cases hcount : schedule.count j = 2
        · simp [hcount]
        · simp [hcount]
      · have hij : i ≠ j := Ne.symm hj
        by_cases hcount : schedule.count j = 2
        · simp [hcount, hj, Function.update_of_ne hij]
        · simp [hcount, hj]
    rw [hstep, ih]
    constructor
    · rintro (⟨rfl, hcount, hother⟩ | ⟨-, pre, post, rfl, hcount, hother⟩)
      · exact ⟨schedule, [], rfl, hcount, hother⟩
      · exact ⟨pre, post ++ [j], by simp, hcount, hother⟩
    · rintro ⟨pre, post, heq, hcount, hother⟩
      rcases List.eq_nil_or_concat post with rfl | ⟨post, k, rfl⟩
      · obtain ⟨rfl, hj⟩ := List.append_inj' heq rfl
        exact Or.inl ⟨(List.cons.inj hj).1, hcount, hother⟩
      · have heq' : schedule ++ [j] = (pre ++ i :: post) ++ [k] := by rw [heq]; simp
        obtain ⟨rfl, -⟩ := List.append_inj' heq' rfl
        refine Or.inr ⟨fun h => ?_, pre, post, rfl, hcount, hother⟩
        have hmore := h.2
        rw [List.count_append, List.count_cons_self] at hmore
        omega

/-- Some transaction has committed after it has seen the other's commit. -/
def ready (r : Race) : Prop := ∃ i, 5 ≤ r.ran i ∧ r.saw i = true

instance (r : Race) : Decidable r.ready :=
  decidable_of_iff ((5 ≤ r.ran .ocr ∧ r.saw .ocr = true) ∨
      (5 ≤ r.ran .facePhotoScan ∧ r.saw .facePhotoScan = true)) <| by
    constructor
    · rintro (h | h)
      · exact ⟨.ocr, h⟩
      · exact ⟨.facePhotoScan, h⟩
    · rintro ⟨i, h⟩
      cases i
      · exact Or.inl h
      · exact Or.inr h

end Race

/-- What is known of a transaction from its place in the race. -/
structure TransactionAt (d : PhotoDelivery F) (r : Race) (i : PhotoJobType)
    (t : Transaction (Database F) (CompletionMemory F)) : Prop where
  code : t.code = (d.code i).drop (r.ran i)
  loaded : 1 ≤ r.ran i → ∃ job photo, t.memory.job = some job ∧ t.memory.photo = some photo ∧
    job.id = d.jobId i ∧ job.ref = .photo d.photoId i ∧ photo.id = d.photoId ∧
    photo.status = .processing
  read : 3 ≤ r.ran i → markedPhotoStatus t.memory.statuses =
    some (if r.saw i then .ready else .processing)
  unwritten : r.ran i ≤ 1 ∨ 5 ≤ r.ran i → t.writes = id
  written : 2 ≤ r.ran i → r.ran i ≤ 4 → ∀ db status photoStatus,
    PhotoRows d db status photoStatus → PhotoRows d (t.writes db)
      (Function.update status i .completed) (if r.ran i = 4 ∧ r.saw i then .ready else photoStatus)

/-- The two transactions run like their race. -/
structure RunsLike (d : PhotoDelivery F) (r : Race)
    (s : System PhotoJobType (Database F) (CompletionMemory F)) : Prop where
  committed : PhotoRows d s.committed (fun i => if 5 ≤ r.ran i then .completed else .processing)
    (if r.ready then .ready else .processing)
  transaction : ∀ i, TransactionAt d r i (s.transactions i)
  saw : ∀ i, r.saw i = true → 3 ≤ r.ran i ∧ 5 ≤ r.ran i.other

theorem runsLike_start {d : PhotoDelivery F} {db : Database F}
    (h : PhotoRows d db (fun _ => .processing) .processing) :
    RunsLike d (Race.run []) (d.start db) where
  committed := h
  transaction := by
    intro i
    have hran : (Race.run []).ran i = 0 := rfl
    exact ⟨rfl, fun h => by omega, fun h => by omega, fun _ => rfl, fun h => by omega⟩
  saw := fun i h => by cases h

omit [Scalar F] in
/-- The status that a transaction reads in its third statement. -/
private theorem marked_of_written {d : PhotoDelivery F} {db : Database F}
    {status : PhotoJobType → JobStatus} {photoStatus : PhotoStatus} {i : PhotoJobType} {seen : Bool}
    (hother : status i.other = if seen then .completed else .processing)
    (h : PhotoRows d db (Function.update status i .completed) photoStatus) :
    markedPhotoStatus (db.photoJobStatuses d.photoId) =
      some (if seen then .ready else .processing) := by
  rw [h.marked]
  cases i with
  | ocr =>
    have hne : PhotoJobType.facePhotoScan ≠ .ocr := by decide
    change status .facePhotoScan = _ at hother
    rw [Function.update_self, Function.update_of_ne hne, hother]
    cases seen <;> rfl
  | facePhotoScan =>
    have hne : PhotoJobType.ocr ≠ .facePhotoScan := by decide
    change status .ocr = _ at hother
    rw [Function.update_self, Function.update_of_ne hne, hother]
    cases seen <;> rfl

/-- A transaction that rests stays where it is in the race. -/
private theorem TransactionAt.of_rest {d : PhotoDelivery F} {r : Race} {i j : PhotoJobType}
    {t : Transaction (Database F) (CompletionMemory F)} (h : TransactionAt d r j t) (hne : j ≠ i) :
    TransactionAt d (r.step i) j t := by
  have hran := r.ran_step_of_ne hne
  have hsaw := r.saw_step_of_ne hne
  refine ⟨?_, ?_, ?_, ?_, ?_⟩
  · rw [hran]; exact h.code
  · rw [hran]; exact h.loaded
  · rw [hran, hsaw]; exact h.read
  · rw [hran]; exact h.unwritten
  · rw [hran, hsaw]; exact h.written

/-- While one of the transactions is open the photo is in processing. -/
private theorem RunsLike.not_ready {d : PhotoDelivery F} {r : Race}
    {s : System PhotoJobType (Database F) (CompletionMemory F)} (h : RunsLike d r s)
    {i : PhotoJobType} (hran : r.ran i < 5) : ¬ r.ready := by
  rintro ⟨j, hj, hsawj⟩
  by_cases hij : j = i
  · subst hij
    omega
  · have hother := (h.saw j hsawj).2
    have hi : i = j.other := PhotoJobType.eq_other_of_ne (Ne.symm hij)
    rw [← hi] at hother
    omega

section Turn

variable {d : PhotoDelivery F} {r : Race}
  {s : System PhotoJobType (Database F) (CompletionMemory F)} (h : RunsLike d r s)
  {i : PhotoJobType}

include h

/-- The first statement loads the job and the photo. -/
private theorem RunsLike.loads (hn : r.ran i = 0) :
    TransactionAt d (r.step i) i ((s.step i).transactions i) ∧
      (s.step i).committed = s.committed := by
  have hran := r.ran_step_self i
  have hcode := (h.transaction i).code
  rw [hn] at hcode hran
  have hwrites := (h.transaction i).unwritten (by omega)
  rw [System.step_read hcode, System.put_self]
  refine ⟨⟨?_, ?_, ?_, ?_, ?_⟩, rfl⟩
  · rw [hran]; rfl
  · intro _
    obtain ⟨job, hjob, href, -⟩ := h.committed.job i
    obtain ⟨photo, hphoto, hstatus⟩ := h.committed.photo
    have hview : s.view i = s.committed := by rw [System.view, hwrites]; rfl
    have hopen : r.ran i < 5 := by omega
    rw [if_neg (h.not_ready hopen)] at hstatus
    rw [hview]
    exact ⟨job, photo, hjob, hphoto, congrArg Prod.snd (Table.get?_key hjob), href,
      Table.get?_key hphoto, hstatus⟩
  · intro hread; omega
  · intro _; exact hwrites
  · intro hwritten; omega

/-- The second statement writes the job. -/
private theorem RunsLike.writesJob (hn : r.ran i = 1) :
    TransactionAt d (r.step i) i ((s.step i).transactions i) ∧
      (s.step i).committed = s.committed := by
  have hran := r.ran_step_self i
  have hcode := (h.transaction i).code
  rw [hn] at hcode hran
  have hwrites := (h.transaction i).unwritten (by omega)
  obtain ⟨job, photo, hjob, hphoto, hid, href, hphotoId, hstatus⟩ :=
    (h.transaction i).loaded (by omega)
  rw [System.step_write hcode, System.put_self]
  refine ⟨⟨?_, ?_, ?_, ?_, ?_⟩, rfl⟩
  · rw [hran]; rfl
  · intro _
    exact ⟨job, photo, hjob, hphoto, hid, href, hphotoId, hstatus⟩
  · intro hread; omega
  · intro hunwritten; omega
  · intro _ _ db status photoStatus hrows
    rw [hran, if_neg (by simp)]
    simp only [hjob, hphoto, hwrites, id]
    exact hrows.store hid href photo

/-- The third statement reads the statuses of the jobs. -/
private theorem RunsLike.readsStatuses (hn : r.ran i = 2) :
    TransactionAt d (r.step i) i ((s.step i).transactions i) ∧
      (s.step i).committed = s.committed := by
  have ht := h.transaction i
  have hran := r.ran_step_self i
  have hcode := ht.code
  rw [hn] at hcode hran
  have hsaw := Race.saw_step_of_read hn
  rw [System.step_read hcode, System.put_self]
  refine ⟨⟨?_, ?_, ?_, ?_, ?_⟩, rfl⟩
  · rw [hran]; rfl
  · intro _
    exact ht.loaded (by omega)
  · intro _
    have hview := ht.written (by omega) (by omega) _ _ _ h.committed
    rw [hsaw]
    refine marked_of_written ?_ hview
    by_cases hother : 5 ≤ r.ran i.other <;> simp [hother]
  · intro hunwritten; omega
  · intro _ _ db status photoStatus hrows
    have hwritten := ht.written (by omega) (by omega) db status photoStatus hrows
    rw [hn, if_neg (by simp)] at hwritten
    rw [hran, if_neg (by simp)]
    exact hwritten

/-- The fourth statement writes the photo. -/
private theorem RunsLike.writesPhoto (hn : r.ran i = 3) :
    TransactionAt d (r.step i) i ((s.step i).transactions i) ∧
      (s.step i).committed = s.committed := by
  have ht := h.transaction i
  have hran := r.ran_step_self i
  have hcode := ht.code
  rw [hn] at hcode hran
  have hsaw := Race.saw_step_of_ne_two (r := r) (i := i) (by omega)
  obtain ⟨job, photo, hjob, hphoto, hid, href, hphotoId, hstatus⟩ := ht.loaded (by omega)
  have hmarked := ht.read (by omega)
  rw [System.step_write hcode, System.put_self]
  refine ⟨⟨?_, ?_, ?_, ?_, ?_⟩, rfl⟩
  · rw [hran]; rfl
  · intro _
    exact ⟨job, photo, hjob, hphoto, hid, href, hphotoId, hstatus⟩
  · intro _
    rw [hsaw]
    exact hmarked
  · intro hunwritten; omega
  · intro _ _ db status photoStatus hrows
    have hwritten := ht.written (by omega) (by omega) db status photoStatus hrows
    rw [hn, if_neg (by simp)] at hwritten
    rw [hran, hsaw]
    simp only [hphoto, Database.updatePhotoStatus, hmarked]
    cases hseen : r.saw i with
    | true =>
      simp only [if_true, hstatus, hphotoId]
      exact hwritten.setPhotoStatus .ready
    | false =>
      simp only [hstatus]
      exact hwritten

/-- The commit. -/
private theorem RunsLike.commits (hn : r.ran i = 4) :
    TransactionAt d (r.step i) i ((s.step i).transactions i) ∧
      (s.step i).committed = s.view i := by
  have ht := h.transaction i
  have hran := r.ran_step_self i
  have hcode := ht.code
  rw [hn] at hcode hran
  have hsaw := Race.saw_step_of_ne_two (r := r) (i := i) (by omega)
  rw [System.step_commit hcode]
  refine ⟨?_, rfl⟩
  change TransactionAt d (r.step i) i ((s.put i _).transactions i)
  rw [System.put_self]
  refine ⟨?_, ?_, ?_, ?_, ?_⟩
  · rw [hran]; rfl
  · intro _
    exact ht.loaded (by omega)
  · intro _
    rw [hsaw]
    exact ht.read (by omega)
  · intro _; rfl
  · intro _ hwritten; omega

/-- A transaction that has ended does nothing. -/
private theorem RunsLike.rests (hn : 5 ≤ r.ran i) :
    TransactionAt d (r.step i) i ((s.step i).transactions i) ∧
      (s.step i).committed = s.committed := by
  have ht := h.transaction i
  have hran := r.ran_step_self i
  have hsaw := Race.saw_step_of_ne_two (r := r) (i := i) (by omega)
  have hended (n : Nat) (hle : 5 ≤ n) : (d.code i).drop n = [] :=
    List.drop_eq_nil_of_le (by simpa [PhotoDelivery.code] using hle)
  have hnil : (s.transactions i).code = [] := by rw [ht.code, hended _ hn]
  rw [System.step_nil hnil]
  refine ⟨⟨?_, ?_, ?_, ?_, ?_⟩, rfl⟩
  · rw [hnil, hended _ (by omega)]
  · intro _
    exact ht.loaded (by omega)
  · intro _
    rw [hsaw]
    exact ht.read (by omega)
  · intro _
    exact ht.unwritten (by omega)
  · intro _ hwritten; omega

end Turn

/-- The transaction that takes its turn moves on. -/
private theorem RunsLike.transaction_step {d : PhotoDelivery F} {r : Race}
    {s : System PhotoJobType (Database F) (CompletionMemory F)} (h : RunsLike d r s)
    (i : PhotoJobType) :
    TransactionAt d (r.step i) i ((s.step i).transactions i) ∧
      (s.step i).committed = if r.ran i = 4 then s.view i else s.committed := by
  match hn : r.ran i with
  | 0 => exact h.loads hn
  | 1 => exact h.writesJob hn
  | 2 => exact h.readsStatuses hn
  | 3 => exact h.writesPhoto hn
  | 4 => exact h.commits hn
  | n + 5 =>
    rw [if_neg (by omega)]
    exact h.rests (by omega)

/-- What the turn of a transaction commits. -/
private theorem RunsLike.committed_step {d : PhotoDelivery F} {r : Race}
    {s : System PhotoJobType (Database F) (CompletionMemory F)} (h : RunsLike d r s)
    (i : PhotoJobType) :
    PhotoRows d (s.step i).committed
      (fun j => if 5 ≤ (r.step i).ran j then .completed else .processing)
      (if (r.step i).ready then .ready else .processing) := by
  rw [(h.transaction_step i).2]
  by_cases hcommit : r.ran i = 4
  · have hsaw := Race.saw_step_of_ne_two (r := r) (i := i) (by omega)
    have hrows := (h.transaction i).written (by omega) (by omega) _ _ _ h.committed
    have hstatus : (Function.update (fun j => if 5 ≤ r.ran j then JobStatus.completed
        else .processing) i .completed) =
        fun j => if 5 ≤ (r.step i).ran j then .completed else .processing := by
      funext j
      by_cases hj : j = i
      · subst hj
        simp [r.ran_step_self, hcommit]
      · rw [Function.update_of_ne hj, r.ran_step_of_ne hj]
    have hready : (r.step i).ready ↔ r.saw i = true := by
      constructor
      · rintro ⟨j, hj, hsawj⟩
        by_cases hij : j = i
        · rwa [hij, hsaw] at hsawj
        · rw [hsaw] at hsawj
          have hother := (h.saw j hsawj).2
          rw [← PhotoJobType.eq_other_of_ne (Ne.symm hij)] at hother
          omega
      · intro hsawi
        exact ⟨i, by rw [r.ran_step_self]; omega, by rw [hsaw]; exact hsawi⟩
    have hopen : r.ran i < 5 := by omega
    rw [if_pos hcommit, System.view]
    rw [hstatus, if_neg (h.not_ready hopen)] at hrows
    simpa only [hready, hcommit, true_and] using hrows
  · have hran : ∀ j, 5 ≤ (r.step i).ran j ↔ 5 ≤ r.ran j := by
      intro j
      by_cases hj : j = i
      · subst hj
        rw [r.ran_step_self]
        omega
      · rw [r.ran_step_of_ne hj]
    have hready : (r.step i).ready ↔ r.ready := by
      refine exists_congr fun j => ?_
      rw [hran]
      refine and_congr_right fun hj => ?_
      by_cases hij : j = i
      · rw [Race.saw_step_of_ne_two (by rw [← hij]; omega)]
      · rw [r.saw_step_of_ne hij]
    rw [if_neg hcommit]
    simpa only [hran, hready] using h.committed

/-- The turn of a transaction. -/
theorem RunsLike.step {d : PhotoDelivery F} {r : Race}
    {s : System PhotoJobType (Database F) (CompletionMemory F)} (h : RunsLike d r s)
    (i : PhotoJobType) : RunsLike d (r.step i) (s.step i) where
  committed := h.committed_step i
  transaction := by
    intro j
    by_cases hj : j = i
    · subst hj
      exact (h.transaction_step j).1
    · rw [s.step_ne hj]
      exact (h.transaction j).of_rest hj
  saw := by
    intro j hsawj
    have hmono : ∀ k, r.ran k ≤ (r.step i).ran k := by
      intro k
      by_cases hk : k = i
      · rw [hk, r.ran_step_self]
        omega
      · rw [r.ran_step_of_ne hk]
    have hbefore : r.saw j = true → 3 ≤ (r.step i).ran j ∧ 5 ≤ (r.step i).ran j.other := by
      intro hsaw
      have hran := h.saw j hsaw
      have hj := hmono j
      have hother := hmono j.other
      omega
    by_cases hj : j = i
    · subst hj
      by_cases hread : r.ran j = 2
      · rw [Race.saw_step_of_read hread, decide_eq_true_iff] at hsawj
        have hother := hmono j.other
        have hself := r.ran_step_self j
        omega
      · rw [Race.saw_step_of_ne_two hread] at hsawj
        exact hbefore hsawj
    · rw [r.saw_step_of_ne hj] at hsawj
      exact hbefore hsawj

/-- Every schedule runs like its race. -/
theorem runsLike_run {d : PhotoDelivery F} {db : Database F}
    (h : PhotoRows d db (fun _ => .processing) .processing) (schedule : List PhotoJobType) :
    RunsLike d (Race.run schedule) ((d.start db).run schedule) := by
  induction schedule using List.reverseRecOn with
  | nil => exact runsLike_start h
  | append_singleton schedule i ih =>
    rw [Race.run_concat, System.run_append]
    exact ih.step i

/-! ## One transaction alone -/

omit [Scalar F] in
/-- Sending an update only if the status changes makes no difference to the row. -/
theorem updatePhotoStatus_eq {db : Database F} {photo : Photo}
    (h : db.photos.get? photo.id = some photo) (statuses : List JobStatus) :
    db.updatePhotoStatus photo statuses = db.markPhoto photo.id statuses := by
  unfold Database.updatePhotoStatus Database.markPhoto
  cases markedPhotoStatus statuses with
  | none => rfl
  | some status =>
    dsimp only
    by_cases hstatus : status = photo.status
    · have hphotos : (db.photos.update photo.id fun row => { row with status := status }) =
          db.photos := Table.update_of_eq h (by rw [hstatus])
      rw [if_pos hstatus, Database.setPhotoStatus, hphotos]
    · rw [if_neg hstatus]

/-- What one transaction commits if nothing comes between its statements. -/
theorem run_alone {d : PhotoDelivery F} {db : Database F} {i : PhotoJobType} {job : Job F}
    {photo : Photo} (hjob : db.jobs.get? (.photo, d.jobId i) = some job)
    (hphoto : db.photos.get? d.photoId = some photo) :
    ((d.start db).run (List.replicate 5 i)).committed =
      (d.store i job photo db).finishPhotoJob photo (releasedJob job) (d.rawResponseJson i)
        (d.finishedAt i) := by
  have hid : photo.id = d.photoId := Table.get?_key hphoto
  have hrow : ((d.store i job photo db).putJob (completedJob (releasedJob job)
      (d.rawResponseJson i) (d.finishedAt i))).photos.get? photo.id = some photo := by
    rw [Database.putJob_photos, d.store_photos, hid, hphoto]
  rw [Database.finishPhotoJob, ← updatePhotoStatus_eq hrow, hid]
  simp [System.run, PhotoDelivery.start, System.start, PhotoDelivery.code, System.step,
    System.put, System.view, List.replicate, hjob, hphoto]

/-- An accepted completion of a live attempt commits what its transaction commits alone. -/
theorem serve_completePhoto_eq_run_alone {cfg : Settings F} {world : World} {db : Database F}
    {photoId jobId : Uuid} {payload : CompletePhotoJobRequest F} {i : PhotoJobType} {job : Job F}
    {reply : Reply} (hjob : db.jobs.get? (.photo, jobId) = some job)
    (hheld : job.HeldBy payload.attemptId (world.clock 0)) (href : job.ref = .photo photoId i)
    (haccepted : ((WorkerCall.completePhoto jobId payload).serve cfg world db).1 = .ok reply) :
    ∃ d : PhotoDelivery F, d.photoId = photoId ∧ d.jobId i = jobId ∧
      ((WorkerCall.completePhoto jobId payload).serve cfg world db).2 =
        ((d.start db).run (List.replicate 5 i)).committed := by
  have houtcome := outcome_serve cfg world db (.completePhoto jobId payload)
  rw [haccepted] at houtcome
  generalize ((WorkerCall.completePhoto jobId payload).serve cfg world db).2 = db' at houtcome ⊢
  cases houtcome with
  | answered names row attempt ended =>
    obtain ⟨rfl, -⟩ := Prod.mk.inj (Option.some.inj names)
    rw [hjob, Option.some.injEq] at row
    exact absurd (row ▸ hheld.status) ended
  | @recognised _ photoId' _ job' photo rawResponseJson now _ row held ref parent =>
    obtain rfl : job = job' := Option.some.inj (hjob.symm.trans row)
    rw [href, JobRef.photo.injEq] at ref
    obtain ⟨rfl, rfl⟩ := ref
    refine ⟨⟨photoId, fun _ => jobId, payload.detections, payload.faceDetections, [],
      fun _ => rawResponseJson, fun _ => now⟩, rfl, rfl, ?_⟩
    rw [run_alone hjob parent]
    rfl
  | @scanned _ photoId' _ job' photo rows rawResponseJson now _ row held ref parent inserted =>
    obtain rfl : job = job' := Option.some.inj (hjob.symm.trans row)
    rw [href, JobRef.photo.injEq] at ref
    obtain ⟨rfl, rfl⟩ := ref
    refine ⟨⟨photoId, fun _ => jobId, payload.detections, payload.faceDetections,
      (List.range (usableFaces payload.faceDetections).length).map world.uuids,
      fun _ => rawResponseJson, fun _ => now⟩, rfl, rfl, ?_⟩
    rw [run_alone hjob parent]
    simp only [PhotoDelivery.store, inserted]

/-! ## Both transactions -/

/-- One of the transactions reads the statuses, in its third turn, after the other has committed,
in its fifth. -/
def ReadsAfterCommit (schedule : List PhotoJobType) : Prop :=
  ∃ i pre post, schedule = pre ++ i :: post ∧ pre.count i = 2 ∧ 5 ≤ pre.count i.other

/-- After both transactions have committed, the photo is ready exactly if one of them has read the
statuses after the other had committed. -/
theorem photo_ready_iff_readsAfterCommit {d : PhotoDelivery F} {db : Database F}
    (hstart : PhotoRows d db (fun _ => .processing) .processing) {schedule : List PhotoJobType}
    (hdone : ∀ i, 5 ≤ schedule.count i) :
    (∃ photo, ((d.start db).run schedule).committed.photos.get? d.photoId = some photo ∧
      photo.status = .ready) ↔ ReadsAfterCommit schedule := by
  obtain ⟨photo, hphoto, hstatus⟩ := (runsLike_run hstart schedule).committed.photo
  have hready : (Race.run schedule).ready ↔ ReadsAfterCommit schedule := by
    refine exists_congr fun i => ?_
    rw [Race.ran_run, Race.saw_run_iff]
    exact and_iff_right (hdone i)
  constructor
  · rintro ⟨photo', hphoto', hstatus'⟩
    obtain rfl : photo = photo' := Option.some.inj (hphoto.symm.trans hphoto')
    by_contra hnot
    rw [if_neg fun h => hnot (hready.mp h), hstatus'] at hstatus
    cases hstatus
  · intro hreads
    rw [if_pos (hready.mpr hreads)] at hstatus
    exact ⟨photo, hphoto, hstatus⟩

/-- Both jobs of the photo are claimed. -/
def bothClaimed : Database ℚ :=
  runEvents (.environment ℚ) onePhoto
    [.at 1000 101 (.claim (.photo [.ocr])), .at 1000 102 (.claim (.photo [.facePhotoScan]))]

/-- Both workers have found nothing. -/
def emptyDelivery : PhotoDelivery ℚ where
  photoId := 1
  jobId
    | .ocr => 11
    | .facePhotoScan => 12
  detections := []
  faceDetections := []
  faceIds := []
  rawResponseJson := fun _ => []
  finishedAt := fun _ => 2000

theorem bothClaimed_rows :
    PhotoRows emptyDelivery bothClaimed (fun _ => .processing) .processing where
  job := by
    intro i
    cases i
    · exact ⟨_, rfl, rfl, rfl⟩
    · exact ⟨_, rfl, rfl, rfl⟩
  only := by
    have hkeys : ∀ job ∈ bothClaimed.jobs.rows,
        job.key = (.photo, 11) ∨ job.key = (.photo, 12) := by
      decide +kernel
    intro job hmem _
    rcases hkeys job hmem with hkey | hkey
    · exact ⟨.ocr, hkey⟩
    · exact ⟨.facePhotoScan, hkey⟩
  photo := ⟨_, rfl, rfl⟩

/-- One completion after the other: the photo is ready. -/
theorem sequentialCompletions_make_ready :
    ∃ photo, ((emptyDelivery.start bothClaimed).run
      (List.replicate 5 .ocr ++ List.replicate 5 .facePhotoScan)).committed.photos.get? 1 =
        some photo ∧ photo.status = .ready :=
  (photo_ready_iff_readsAfterCommit bothClaimed_rows fun i => by cases i <;> decide).mpr
    ⟨.facePhotoScan, List.replicate 5 .ocr ++ List.replicate 2 .facePhotoScan,
      List.replicate 2 .facePhotoScan, rfl, by decide, by decide⟩

/-- Each transaction reads before the other commits: both jobs are completed, and the photo stays
in processing. -/
theorem overlappingCompletions_leave_processing :
    let schedule : List PhotoJobType := List.replicate 4 .ocr ++ List.replicate 4 .facePhotoScan ++
      [.ocr, .facePhotoScan]
    let db := ((emptyDelivery.start bothClaimed).run schedule).committed
    PhotoRows emptyDelivery bothClaimed (fun _ => .processing) .processing ∧
      (∀ i, schedule.count i = 5) ∧ db.photoJobStatuses 1 = [.completed, .completed] ∧
      db.photos.rows.map Photo.status = [.processing] := by
  refine ⟨bothClaimed_rows, fun i => by cases i <;> decide, ?_, ?_⟩
  · decide +kernel
  · decide +kernel

end RaceFrame
