import RaceFrame.Worker.Handling

/-!
# One report for each attempt

Whatever happens to the requests of a worker, at most one of them commits
anything; a result that has been committed stands and is never followed by the
report of a failure; and a worker that takes a job to be completed is right.
-/

namespace RaceFrame

open Core

variable {F : Type}

/-! ## What a report does when it arrives -/

/-- What a result or a failure report of an attempt does when it arrives: it is turned down for
what it contains, or it is served as a call that names the job and the attempt. -/
inductive Report [Scalar F] (cfg : Settings F) (key : JobKey) (attemptId : Uuid)
    (completes : Bool) (receive : World → Database F → Nat × Database F) : Prop
  | turnedDown (status : Nat) (refused : 400 ≤ status)
    (received : ∀ world db, receive world db = (status, db))
  | served (call : WorkerCall F) (names : call.names = some (key, attemptId))
    (report : call.isHeartbeat = false) (complete : completes = true → call.isComplete = true)
    (received : ∀ world db, receive world db =
      (answerStatus (call.serve cfg world db).1, (call.serve cfg world db).2))

section Reports

variable [Scalar F] {cfg : Settings F} (encoder : JsonEncoder F)

private theorem report_of_route {key : JobKey} {attemptId : Uuid} {completes : Bool} {path : Text}
    {payload : JobPayload F} {call : WorkerCall F}
    (hroute : routeJobRequest path payload = .ok call)
    (hnames : call.names = some (key, attemptId)) (hreport : call.isHeartbeat = false)
    (hcomplete : completes = true → call.isComplete = true) :
    Report cfg key attemptId completes fun world db =>
      receiveJobRequest encoder cfg world path payload db := by
  cases hvalid : call.validate encoder with
  | error raised =>
    have hrefused : 400 ≤ invalidStatus raised := by
      unfold invalidStatus
      split <;> decide
    refine .turnedDown (invalidStatus raised) hrefused fun world db => ?_
    simp only [receiveJobRequest, hroute, WorkerCall.receive, hvalid]
  | ok u =>
    refine .served call hnames hreport hcomplete fun world db => ?_
    simp only [receiveJobRequest, hroute, WorkerCall.receive, hvalid]

/-- The report of a failure. -/
theorem report_fail (job : ClaimedJob) (error : JobError) (retryable : Bool) (errorCode : String) :
    Report cfg job.key job.attempt false fun world db => receiveJobRequest encoder cfg world
      (jobPath job.key "fail".toList)
      (.fail (failurePayload job.attempt error retryable errorCode)) db :=
  report_of_route encoder (routeJobRequest_fail job.id_lt _) rfl rfl (by simp)

/-- The paths that the worker derives for a claimed job. -/
theorem operationPath_heartbeatPath (job : ClaimedJob) (operation : Text) :
    operationPath job.heartbeatPath operation = .ok (jobPath job.key operation) := by
  rw [job.path_eq]
  exact operationPath_jobPath (job.subject.kind, job.id) operation

omit [Scalar F] in
private theorem isHeartbeat_of_isComplete {call : WorkerCall F} (h : call.isComplete = true) :
    call.isHeartbeat = false := by
  cases call <;> first | rfl | cases h

omit [Scalar F] in
/-- A request that a processor ends with goes to the completion of its job, for its attempt. -/
theorem prepare_eq_ok {work : LocalWork F} {job : ClaimedJob} {processor : JobProcessor}
    {request : Text × JobPayload F} (h : processor.prepare work job = .ok request) :
    request.1 = jobPath job.key "complete".toList ∧ request.2.attemptId = job.attempt := by
  have hpath : job.completePath = .ok (jobPath job.key "complete".toList) := by
    rw [ClaimedJob.completePath, operationPath_heartbeatPath]
    rfl
  have hface : ∀ enroll, processFace work job enroll = .ok request →
      request.1 = jobPath job.key "complete".toList ∧ request.2.attemptId = job.attempt := by
    intro enroll h
    obtain ⟨image, -, h⟩ := bind_eq_ok_iff.mp h
    obtain ⟨imageBytes, -, h⟩ := bind_eq_ok_iff.mp h
    obtain ⟨_, -, h⟩ := bind_eq_ok_iff.mp h
    obtain ⟨face, -, h⟩ := bind_eq_ok_iff.mp h
    obtain ⟨_, -, h⟩ := bind_eq_ok_iff.mp h
    rw [hpath] at h
    cases h
    exact ⟨rfl, rfl⟩
  cases processor with
  | processFaceJob => exact hface _ h
  | processFaceSearchJob => exact hface _ h
  | processPhotoJob =>
    obtain ⟨image, -, h⟩ := bind_eq_ok_iff.mp h
    obtain ⟨imageBytes, -, h⟩ := bind_eq_ok_iff.mp h
    obtain ⟨_, -, h⟩ := bind_eq_ok_iff.mp h
    split at h
    · obtain ⟨scanned, -, h⟩ := bind_eq_ok_iff.mp h
      obtain ⟨_, -, h⟩ := bind_eq_ok_iff.mp h
      rw [hpath] at h
      cases h
      exact ⟨rfl, rfl⟩
    · split at h
      · obtain ⟨faces, -, h⟩ := bind_eq_ok_iff.mp h
        obtain ⟨_, -, h⟩ := bind_eq_ok_iff.mp h
        rw [hpath] at h
        cases h
        exact ⟨rfl, rfl⟩
      · cases h

/-- The completion of a job. -/
theorem report_complete {work : LocalWork F} {job : ClaimedJob} {processor : JobProcessor}
    {request : Text × JobPayload F} (h : processor.prepare work job = .ok request) :
    Report cfg job.key job.attempt true fun world db =>
      receiveJobRequest encoder cfg world request.1 request.2 db := by
  obtain ⟨hpath, hattempt⟩ := prepare_eq_ok h
  rcases @routeJobRequest_complete F job.key job.id_lt request.2 with
    ⟨status, hroute, hstatus⟩ | ⟨call, hroute, hcomplete, hnames⟩
  · refine .turnedDown status hstatus fun world db => ?_
    simp only [receiveJobRequest, hpath, hroute]
  · rw [hattempt] at hnames
    rw [← hpath] at hroute
    exact report_of_route encoder hroute hnames (isHeartbeat_of_isComplete hcomplete)
      fun _ => hcomplete

end Reports

/-! ## What the reports of an attempt leave -/

/-- The attempt cannot change its job any more: the row is gone, ended, queued or held by
another. -/
def Database.Spent (db : Database F) (key : JobKey) (attemptId : Uuid) : Prop :=
  ∀ job, db.jobs.get? key = some job → job.ticket ≠ ⟨some attemptId, .held⟩

/-- The job is completed under the attempt, or gone. -/
def Database.CompletedOrGone (db : Database F) (key : JobKey) (attemptId : Uuid) : Prop :=
  ∀ job, db.jobs.get? key = some job → job.attemptId = some attemptId ∧ job.status = .completed

theorem Database.CompletedBy.completedOrGone {db : Database F} {key : JobKey} {attemptId : Uuid}
    (h : db.CompletedBy key attemptId) : db.CompletedOrGone key attemptId := by
  obtain ⟨job, hrow, hcompleted⟩ := h
  intro job' hrow'
  obtain rfl : job = job' := Option.some.inj (hrow.symm.trans hrow')
  exact hcompleted

theorem Database.CompletedOrGone.spent {db : Database F} {key : JobKey} {attemptId : Uuid}
    (h : db.CompletedOrGone key attemptId) : db.Spent key attemptId := by
  intro job hrow hheld
  have hphase := congrArg Ticket.phase hheld
  rw [Job.ticket, (h job hrow).2] at hphase
  cases hphase

section Steps

variable [Scalar F] {cfg : Settings F} {key : JobKey} {attemptId : Uuid}

/-- A call that issues the attempt to nobody leaves it spent. -/
theorem Database.Spent.serve {db : Database F} (h : db.Spent key attemptId) (e : Event F)
    (hfresh : issuedFor key (e.serve cfg db).1 ≠ some attemptId) :
    (e.serve cfg db).2.Spent key attemptId := by
  intro job hrow
  obtain ⟨start, hstart⟩ := @exists_of_get?_runEvents F _ cfg [e] db key job hrow
  obtain ⟨job', a, hrow', hmove⟩ := (outcome_serve cfg e.world db e.call).rowMove hstart
  obtain rfl : job = job' := Option.some.inj (hrow.symm.trans hrow')
  have hissued : a.issued? = issuedFor key (e.serve cfg db).1 := hmove.issued
  exact hmove.step.ticketStep.ne_held (hissued ▸ hfresh) (h start hstart)

/-- No call changes a job that is completed. -/
theorem Database.CompletedOrGone.serve {db : Database F} (h : db.CompletedOrGone key attemptId)
    (e : Event F) : (e.serve cfg db).2.CompletedOrGone key attemptId := by
  intro job hrow
  obtain ⟨start, hstart⟩ := @exists_of_get?_runEvents F _ cfg [e] db key job hrow
  have hcompleted := h start hstart
  obtain ⟨hkept, -⟩ := (outcome_serve cfg e.world db e.call).get?_of_isTerminal hstart
    (by rw [hcompleted.2]; rfl)
  obtain rfl : start = job := Option.some.inj (hkept.symm.trans hrow)
  exact hcompleted

/-- What others do leaves a spent attempt spent and a completed job completed. -/
theorem Sending.keeps (sending : Sending cfg key attemptId) (db : Database F) :
    (db.Spent key attemptId → (sending.meanwhile db).Spent key attemptId) ∧
      (db.CompletedOrGone key attemptId →
        (sending.meanwhile db).CompletedOrGone key attemptId) := by
  have hrun := sending.allowed db
  generalize sending.meanwhile db = db' at hrun
  induction hrun with
  | refl => exact ⟨id, id⟩
  | tail _ hstep ih =>
    cases hstep with
    | call e db hfresh =>
      exact ⟨fun h => (ih.1 h).serve e hfresh, fun h => (ih.2 h).serve e⟩
    | other hkept =>
      exact ⟨fun h job hrow => ih.1 h job (hkept job hrow),
        fun h job hrow => ih.2 h job (hkept job hrow)⟩

/-- A call that names a job hands nothing out. -/
theorem issuedFor_of_names {call : WorkerCall F} {named : JobKey × Uuid}
    (hnames : call.names = some named) {world : World} {db : Database F} :
    issuedFor key (call.serve cfg world db).1 = none := by
  have houtcome := outcome_serve cfg world db call
  generalize (call.serve cfg world db).1 = reply at houtcome
  generalize (call.serve cfg world db).2 = db' at houtcome
  cases houtcome with
  | idle | claimed => cases hnames
  | raised | answered | renewed | retried | ended | recognised | scanned | enrolled | searched =>
    rfl

variable {completes : Bool} {receive : World → Database F → Nat × Database F}

/-- A report leaves a spent attempt spent and a completed job completed. -/
theorem Report.keeps (h : Report cfg key attemptId completes receive) (world : World)
    (db : Database F) :
    (db.Spent key attemptId → (receive world db).2.Spent key attemptId) ∧
      (db.CompletedOrGone key attemptId →
        (receive world db).2.CompletedOrGone key attemptId) := by
  cases h with
  | turnedDown status refused received =>
    rw [received]
    exact ⟨id, id⟩
  | served call names report complete received =>
    rw [received]
    have hfresh : issuedFor key (call.serve cfg world db).1 ≠ some attemptId := by
      rw [issuedFor_of_names names]
      exact fun h => nomatch h
    exact ⟨fun hspent => hspent.serve ⟨world, call⟩ hfresh, fun hdone => hdone.serve ⟨world, call⟩⟩

/-- A spent attempt commits nothing. -/
theorem Report.eq_of_spent (h : Report cfg key attemptId completes receive) {world : World}
    {db : Database F} (hspent : db.Spent key attemptId) : (receive world db).2 = db := by
  cases h with
  | turnedDown status refused received => rw [received]
  | served call names report complete received =>
    rw [received]
    by_contra hne
    obtain ⟨job, hrow, hheld⟩ := (outcome_serve cfg world db call).heldBy_of_ne names hne
    exact hspent job hrow hheld.ticket_eq

/-- A report that is answered with a success has spent its attempt; a completion has completed its
job. -/
theorem Report.of_success (h : Report cfg key attemptId completes receive) {world : World}
    {db : Database F} (hstatus : (receive world db).1 < 400) :
    (receive world db).2.Spent key attemptId ∧
      (∃ job, (receive world db).2.jobs.get? key = some job ∧ job.attemptId = some attemptId ∧
        job.status ≠ .processing) ∧
      (completes = true → (receive world db).2.CompletedBy key attemptId) := by
  cases h with
  | turnedDown status refused received =>
    rw [received] at hstatus
    exact absurd hstatus (Nat.not_lt.mpr refused)
  | served call names report complete received =>
    rw [received] at hstatus ⊢
    cases hreply : (call.serve cfg world db).1 with
    | error e =>
      rw [hreply] at hstatus
      exact absurd hstatus (Nat.not_lt.mpr (fails_of_serve names report hreply))
    | ok reply =>
      have houtcome := outcome_serve cfg world db call
      rw [hreply] at houtcome
      obtain ⟨job, hrow, hholder, hphase⟩ := houtcome.spent names report
      refine ⟨fun job' hrow' hheld => ?_, ⟨job, hrow, hholder, fun hprocessing => ?_⟩,
        fun hcomplete => completedBy_of_serve (complete hcomplete) names hreply⟩
      · obtain rfl : job = job' := Option.some.inj (hrow.symm.trans hrow')
        exact hphase (congrArg Ticket.phase hheld)
      · exact hphase ((JobStatus.phase_eq_held_iff job.status).mpr hprocessing)

/-- A report that changes the database is answered with a success, unless its answer is lost. -/
theorem Report.status_of_ne (h : Report cfg key attemptId completes receive) {world : World}
    {db : Database F} (hne : (receive world db).2 ≠ db) : (receive world db).1 = 200 := by
  cases h with
  | turnedDown status refused received =>
    rw [received] at hne
    exact absurd rfl hne
  | served call names report complete received =>
    rw [received] at hne ⊢
    cases hreply : (call.serve cfg world db).1 with
    | error e =>
      have houtcome := outcome_serve cfg world db call
      rw [hreply] at houtcome
      exact absurd houtcome.eq_of_error hne
    | ok reply => rfl

/-- A completion that has not been turned down is answered with 200 when its job is completed
already, and with 404 when it is gone. -/
theorem Report.status_of_completedOrGone (h : Report cfg key attemptId true receive)
    (hserved : ∃ world db, (receive world db).2 ≠ db) (world : World) {db : Database F}
    (hdone : db.CompletedOrGone key attemptId) :
    (receive world db).1 = 200 ∨ (receive world db).1 = 404 := by
  cases h with
  | turnedDown status refused received =>
    obtain ⟨world', db', hne⟩ := hserved
    rw [received] at hne
    exact absurd rfl hne
  | served call names report complete received =>
    rw [received]
    cases hrow : db.jobs.get? key with
    | none =>
      obtain ⟨detail, hserve⟩ := serve_complete_of_none cfg world
        (complete rfl) names hrow
      rw [hserve]
      exact Or.inr rfl
    | some job =>
      obtain ⟨hattempt, hstatus⟩ := hdone job hrow
      rcases serve_complete_of_not_processing cfg world (complete rfl) names
        hrow (by rw [hstatus]; simp) with ⟨⟨reply, hserve⟩, -⟩ | ⟨-, hnot⟩
      · rw [hserve]
        exact Or.inl rfl
      · exact absurd ⟨hattempt, hstatus⟩ hnot

end Steps

/-! ## The tries of a report -/

section Tries

variable [Scalar F] {cfg : Settings F} {key : JobKey} {attemptId : Uuid} {completes : Bool}
  {encoder : JsonEncoder F} {path : Text} {payload : JobPayload F}

/-- What a try does to the database, a served request does. -/
private theorem tryOnce_cases (sending : Sending cfg key attemptId) (db : Database F) :
    (sending.tryOnce encoder path payload db).left =
        (sending.tryOnce encoder path payload db).met ∨
      ∃ world, (sending.tryOnce encoder path payload db).left =
        (receiveJobRequest encoder cfg world path payload
          (sending.tryOnce encoder path payload db).met).2 := by
  rw [Sending.tryOnce]
  cases sending.fate with
  | lost | turnedAway => exact Or.inl rfl
  | unanswered world | answered world => exact Or.inr ⟨world, rfl⟩

/-- An answer with a status that the routes may give comes from them. -/
private theorem outcome_tryOnce {sending : Sending cfg key attemptId} {db : Database F}
    {status : Nat} (h : (sending.tryOnce encoder path payload db).outcome = some status) :
    (status = 401 ∨ status = 403 ∨ status = 429 ∨ 500 ≤ status) ∨
      ∃ world, status = (receiveJobRequest encoder cfg world path payload
          (sending.tryOnce encoder path payload db).met).1 ∧
        (sending.tryOnce encoder path payload db).left =
          (receiveJobRequest encoder cfg world path payload
            (sending.tryOnce encoder path payload db).met).2 := by
  rw [Sending.tryOnce] at h ⊢
  cases hfate : sending.fate with
  | lost => rw [hfate] at h; cases h
  | unanswered world => rw [hfate] at h; cases h
  | turnedAway code refused =>
    rw [hfate] at h
    cases h
    exact Or.inl refused
  | answered world =>
    rw [hfate] at h
    cases h
    exact Or.inr ⟨world, rfl, rfl⟩

private theorem forall_tryOnce {P : (Database F → Try (Database F) (Option Nat)) → Prop}
    {sendings : List (Sending cfg key attemptId)}
    (hall : ∀ sending : Sending cfg key attemptId, P (sending.tryOnce encoder path payload)) :
    ∀ attempt ∈ sendings.map (Sending.tryOnce encoder path payload), P attempt := by
  rw [List.forall_mem_map]
  exact fun sending _ => hall sending

private theorem exists_tryOnce {sendings : List (Sending cfg key attemptId)} {db : Database F}
    {t : Try (Database F) (Option Nat)}
    (h : t ∈ (BackendClient.postJob encoder sendings path payload db).tries) :
    ∃ (sending : Sending cfg key attemptId) (db' : Database F),
      t = sending.tryOnce encoder path payload db' := by
  obtain ⟨attempt, hattempt, db', rfl⟩ := exists_of_mem_tries h
  obtain ⟨sending, -, rfl⟩ := List.mem_map.mp hattempt
  exact ⟨sending, db', rfl⟩

variable (h : Report cfg key attemptId completes fun world db =>
    receiveJobRequest encoder cfg world path payload db)

include h

private theorem tryOnce_keeps (sending : Sending cfg key attemptId) (db : Database F) :
    (db.Spent key attemptId →
        (sending.tryOnce encoder path payload db).met.Spent key attemptId ∧
          (sending.tryOnce encoder path payload db).left.Spent key attemptId) ∧
      (db.CompletedOrGone key attemptId →
        (sending.tryOnce encoder path payload db).met.CompletedOrGone key attemptId ∧
          (sending.tryOnce encoder path payload db).left.CompletedOrGone key attemptId) := by
  obtain ⟨hspent, hdone⟩ := sending.keeps db
  rcases @tryOnce_cases F _ cfg key attemptId encoder path payload sending db with
    heq | ⟨world, heq⟩
  · rw [heq]
    exact ⟨fun hs => ⟨hspent hs, hspent hs⟩, fun hs => ⟨hdone hs, hdone hs⟩⟩
  · rw [heq]
    have hserved := h.keeps world (sending.tryOnce encoder path payload db).met
    exact ⟨fun hs => ⟨hspent hs, hserved.1 (hspent hs)⟩,
      fun hs => ⟨hdone hs, hserved.2 (hdone hs)⟩⟩

/-- A try from a spent attempt commits nothing. -/
private theorem tryOnce_of_spent (sending : Sending cfg key attemptId) (db : Database F)
    (hspent : (sending.tryOnce encoder path payload db).met.Spent key attemptId) :
    (sending.tryOnce encoder path payload db).left =
      (sending.tryOnce encoder path payload db).met := by
  rcases @tryOnce_cases F _ cfg key attemptId encoder path payload sending db with
    heq | ⟨world, heq⟩
  · exact heq
  · rw [heq]
    exact h.eq_of_spent hspent

/-- A try that commits has spent the attempt, and a completion has completed its job. -/
private theorem tryOnce_of_ne (sending : Sending cfg key attemptId) (db : Database F)
    (hne : (sending.tryOnce encoder path payload db).left ≠
      (sending.tryOnce encoder path payload db).met) :
    (sending.tryOnce encoder path payload db).left.Spent key attemptId ∧
      (completes = true →
        (sending.tryOnce encoder path payload db).left.CompletedBy key attemptId) := by
  rcases @tryOnce_cases F _ cfg key attemptId encoder path payload sending db with
    heq | ⟨world, heq⟩
  · exact absurd heq hne
  · rw [heq] at hne ⊢
    have hstatus := h.status_of_ne hne
    obtain ⟨hspent, -, hcompleted⟩ := h.of_success (hstatus.trans_lt (by decide))
    exact ⟨hspent, hcompleted⟩

/-- At most one try commits anything. -/
theorem pairwise_tries_postJob (sendings : List (Sending cfg key attemptId)) (db : Database F) :
    (BackendClient.postJob encoder sendings path payload db).tries.Pairwise fun t u =>
      t.left ≠ t.met → ¬u.left ≠ u.met :=
  @pairwise_tries_retry _ _ _ _ _ _ (fun db : Database F => db.Spent key attemptId) _
    (fun t : Try (Database F) (Option Nat) => t.left ≠ t.met)
    (forall_tryOnce fun sending db => (tryOnce_keeps h sending db).1)
    (forall_tryOnce fun sending db hne => (tryOnce_of_ne h sending db hne).1)
    (forall_tryOnce fun sending db hspent => not_not_intro (tryOnce_of_spent h sending db hspent))
    db

/-- Requests that come to a success have spent the attempt; a completion has completed its job. -/
theorem state_postJob_of_ok {sendings : List (Sending cfg key attemptId)} {db : Database F}
    (hok : (BackendClient.postJob encoder sendings path payload db).result = .ok ()) :
    (∃ job, (BackendClient.postJob encoder sendings path payload db).state.jobs.get? key =
        some job ∧ job.attemptId = some attemptId ∧ job.status ≠ .processing) ∧
      (completes = true → (BackendClient.postJob encoder sendings path payload
        db).state.CompletedBy key attemptId) := by
  have hne : sendings.map (Sending.tryOnce encoder path payload) ≠ [] := by
    intro hnil
    rw [BackendClient.postJob, hnil] at hok
    cases hok
  obtain ⟨earlier, last, htries, hstate, -, hlast⟩ := @retry_result _ _ _ BackendClient.decisive
    BackendClient.giveUp (.error (.controlPlane "Backend request exhausted its retry budget.")) _
    hne db
  have hmem : last ∈ (BackendClient.postJob encoder sendings path payload db).tries := by
    rw [BackendClient.postJob, htries]
    exact List.mem_append_right _ List.mem_cons_self
  obtain ⟨sending, db', rfl⟩ := exists_tryOnce hmem
  rw [BackendClient.postJob] at hok ⊢
  rw [hok] at hlast
  rw [hstate]
  cases houtcome : (sending.tryOnce encoder path payload db').outcome with
  | none =>
    rw [houtcome] at hlast
    rcases hlast with hlast | ⟨-, hlast⟩ <;> cases hlast
  | some status =>
    rw [houtcome] at hlast
    have hsuccess : 200 ≤ status ∧ status < 300 := by
      by_contra hnot
      rcases hlast with hlast | ⟨-, hlast⟩
      · rw [BackendClient.decisive, if_neg hnot] at hlast
        split_ifs at hlast <;> cases hlast
      · cases hlast
    rcases outcome_tryOnce houtcome with hrefused | ⟨world, hstatus, hleft⟩
    · omega
    · rw [hleft]
      rw [hstatus] at hsuccess
      exact (h.of_success (hsuccess.2.trans (by decide))).2

/-- Once a completion has committed, its requests do not come to a rejection, and its job stays
completed. -/
theorem result_postJob_of_commits (hcompletes : completes = true)
    {sendings : List (Sending cfg key attemptId)} {db : Database F}
    {t : Try (Database F) (Option Nat)}
    (ht : t ∈ (BackendClient.postJob encoder sendings path payload db).tries)
    (hne : t.left ≠ t.met) :
    (∀ message, (BackendClient.postJob encoder sendings path payload db).result ≠
        .error (.permanentJob message)) ∧
      (BackendClient.postJob encoder sendings path payload db).state.CompletedOrGone key
        attemptId := by
  subst hcompletes
  have hkeeps : ∀ attempt ∈ sendings.map (Sending.tryOnce encoder path payload),
      ∀ db : Database F, db.CompletedOrGone key attemptId →
        (attempt db).met.CompletedOrGone key attemptId ∧
          (attempt db).left.CompletedOrGone key attemptId :=
    forall_tryOnce fun sending db => (tryOnce_keeps h sending db).2
  obtain ⟨before, after, hsplit⟩ := List.append_of_mem ht
  obtain ⟨sending, db', rfl⟩ := exists_tryOnce ht
  have hdone := ((tryOnce_of_ne h sending db' hne).2 rfl).completedOrGone
  obtain ⟨hafter, hstate⟩ := retry_keeps_after hkeeps hsplit hdone
  refine ⟨fun message hresult => ?_, hstate⟩
  have hnonempty : sendings.map (Sending.tryOnce encoder path payload) ≠ [] := by
    intro hnil
    rw [BackendClient.postJob, hnil] at hresult
    cases hresult
  obtain ⟨earlier, last, htries, -, -, hlast⟩ := @retry_result _ _ _ BackendClient.decisive
    BackendClient.giveUp (.error (.controlPlane "Backend request exhausted its retry budget.")) _
    hnonempty db
  rw [BackendClient.postJob] at hresult hsplit
  rw [hresult] at hlast
  obtain ⟨status, houtcome, hrejected⟩ : ∃ status, last.outcome = some status ∧
      ¬(200 ≤ status ∧ status < 300) ∧ status ≠ 404 ∧
        ¬(status = 401 ∨ status = 403 ∨ status = 429 ∨ 500 ≤ status) := by
    cases houtcome : last.outcome with
    | none => rw [houtcome] at hlast; rcases hlast with hlast | ⟨-, hlast⟩ <;> cases hlast
    | some status =>
      rw [houtcome] at hlast
      refine ⟨status, rfl, ?_⟩
      rcases hlast with hlast | ⟨-, hlast⟩
      · rw [BackendClient.decisive] at hlast
        split_ifs at hlast <;> first | omega | cases hlast
      · cases hlast
  have hserved : ∃ world db, (receiveJobRequest encoder cfg world path payload db).2 ≠ db := by
    rcases @tryOnce_cases F _ cfg key attemptId encoder path payload sending db' with
      heq | ⟨world, heq⟩
    · exact absurd heq hne
    · exact ⟨world, _, heq ▸ hne⟩
  have hanswer : ∀ (sending : Sending cfg key attemptId) (db' : Database F),
      (sending.tryOnce encoder path payload db').outcome = some status →
      (sending.tryOnce encoder path payload db').left ≠
          (sending.tryOnce encoder path payload db').met ∨
        (sending.tryOnce encoder path payload db').met.CompletedOrGone key attemptId →
      False := by
    intro sending db' houtcome hreason
    rcases outcome_tryOnce houtcome with hrefused | ⟨world, hstatus, hleft⟩
    · exact hrejected.2.2 hrefused
    · rcases hreason with hne | hgone
      · rw [hleft] at hne
        rw [h.status_of_ne hne] at hstatus
        omega
      · rcases h.status_of_completedOrGone hserved world hgone with hok | hmissing <;>
          omega
  rcases List.eq_nil_or_concat after with rfl | ⟨between, final, rfl⟩
  · obtain ⟨-, hlasts⟩ := List.append_inj' (hsplit.symm.trans htries) rfl
    obtain rfl := (List.cons.inj hlasts).1
    exact hanswer sending db' houtcome (Or.inl hne)
  · rw [List.concat_eq_append] at hsplit hafter
    rw [← List.cons_append, ← List.append_assoc] at hsplit
    obtain ⟨-, hlasts⟩ := List.append_inj' (hsplit.symm.trans htries) rfl
    obtain rfl := (List.cons.inj hlasts).1
    have hmem : final ∈ (BackendClient.postJob encoder sendings path payload db).tries := by
      rw [BackendClient.postJob, hsplit]
      exact List.mem_append_right _ List.mem_cons_self
    have hmet := (hafter final (List.mem_append_right _ List.mem_cons_self)).1
    obtain ⟨sending', db'', rfl⟩ := exists_tryOnce hmem
    exact hanswer sending' db'' houtcome (Or.inr hmet)

end Tries

/-! ## The handling of a job -/

/-- What is promised about the reports of one attempt. -/
structure ReportsOnce (job : ClaimedJob) (run : Handling F) : Prop where
  /-- At most one request commits anything. -/
  once : (run.completions ++ run.failures).Pairwise fun t u => t.left ≠ t.met → ¬u.left ≠ u.met
  /-- After a completion that commits no failure is reported, and the job stays completed. -/
  stands : ∀ t ∈ run.completions, t.left ≠ t.met →
    run.failures = [] ∧ run.database.CompletedOrGone job.key job.attempt
  /-- A job that the worker takes to be completed is completed under its attempt. -/
  completed : run.ending = .completed → run.database.CompletedBy job.key job.attempt
  /-- A job whose failure the worker takes to be reported is no longer processed by it. -/
  reported : run.ending = .failureReported → ∃ row, run.database.jobs.get? job.key = some row ∧
    row.attemptId = some job.attempt ∧ row.status ≠ .processing

section Handling

variable [Scalar F] {cfg : Settings F} (encoder : JsonEncoder F) (job : ClaimedJob)
  (failing : List (Sending cfg job.key job.attempt))

/-- The requests of a failure report. -/
private def failureTries (error : JobError) (retryable : Bool) (errorCode : String)
    (db : Database F) : Retried (Database F) (Option Nat) (Except WorkerError Unit) :=
  BackendClient.postJob encoder failing (jobPath job.key "fail".toList)
    (.fail (failurePayload job.attempt error retryable errorCode)) db

private theorem reportFailure_eq (error : JobError) (retryable : Bool) (errorCode : String)
    (db : Database F) :
    reportFailure encoder job failing error retryable errorCode db =
      let posted := failureTries encoder job failing error retryable errorCode db
      ⟨[], posted.tries, posted.state, .ofReport posted.result⟩ := by
  rw [reportFailure, operationPath_heartbeatPath]
  rfl

/-- An exception ends the handling, or it is reported. -/
private theorem handleJobError_cases (db : Database F) (error : JobError) :
    let run := handleJobError encoder job failing db error
    (run = ⟨[], [], db, run.ending⟩ ∧ run.ending ≠ .completed ∧
        run.ending ≠ .failureReported) ∨
      (∃ retryable errorCode,
        run = reportFailure encoder job failing error retryable errorCode db) ∧
      ∀ raised, error = .worker raised → ∃ message, raised = .permanentJob message := by
  cases error with
  | worker raised =>
    cases raised with
    | workerConfig message => exact Or.inl ⟨rfl, by simp [handleJobError], by simp [handleJobError]⟩
    | leaseLost message => exact Or.inl ⟨rfl, by simp [handleJobError], by simp [handleJobError]⟩
    | controlPlane message => exact Or.inl ⟨rfl, by simp [handleJobError], by simp [handleJobError]⟩
    | permanentJob message =>
      refine Or.inr ⟨⟨_, _, rfl⟩, fun raised h => ⟨message, ?_⟩⟩
      cases h
      rfl
  | transientJob message => exact Or.inr ⟨⟨_, _, rfl⟩, fun _ h => nomatch h⟩
  | unexpected className message => exact Or.inr ⟨⟨_, _, rfl⟩, fun _ h => nomatch h⟩

/-- The report of a failure, after completions that have left the attempt as it was or have spent
it. -/
private theorem reportsOnce_of_failure {completions : List (Try (Database F) (Option Nat))}
    (honce : completions.Pairwise fun t u => t.left ≠ t.met → ¬u.left ≠ u.met)
    {error : JobError} {retryable : Bool} {errorCode : String} {db : Database F}
    (hnone : ∀ t ∈ completions, t.left = t.met) :
    ReportsOnce job { reportFailure encoder job failing error retryable errorCode db with
      completions := completions } := by
  rw [reportFailure_eq]
  have hreport := @report_fail F _ cfg encoder job error retryable errorCode
  refine ⟨?_, fun t ht hne => absurd (hnone t ht) hne, fun hending => ?_, fun hending => ?_⟩
  · refine List.pairwise_append.mpr ⟨honce, pairwise_tries_postJob hreport failing db, ?_⟩
    exact fun t ht u _ hne => absurd (hnone t ht) hne
  · simp only [JobEnding.ofReport] at hending
    split at hending <;> cases hending
  · have hok : (failureTries encoder job failing error retryable errorCode db).result =
        .ok () := by
      simp only [JobEnding.ofReport] at hending
      split at hending
      · assumption
      · cases hending
      · cases hending
    exact (state_postJob_of_ok hreport hok).1

/-- The worker reports each attempt once, whatever happens to its requests. -/
theorem handleClaimedJob_reportsOnce (work : LocalWork F) (processor : JobProcessor)
    (completing : List (Sending cfg job.key job.attempt)) (db : Database F) :
    ReportsOnce job (handleClaimedJob encoder job failing work processor completing db) := by
  rw [handleClaimedJob]
  cases hprepare : processor.prepare work job with
  | error error =>
    simp only
    rcases handleJobError_cases encoder job failing db error with
      ⟨heq, hcompleted, hreported⟩ | ⟨⟨retryable, errorCode, heq⟩, -⟩
    · rw [heq]
      exact ⟨List.Pairwise.nil, fun _ h => absurd h List.not_mem_nil,
        fun h => absurd h hcompleted, fun h => absurd h hreported⟩
    · rw [heq]
      have honce := @reportsOnce_of_failure F _ cfg encoder job failing [] List.Pairwise.nil
        error retryable errorCode db fun t ht => absurd ht List.not_mem_nil
      rw [reportFailure_eq] at honce ⊢
      exact honce
  | ok request =>
    have hreport := @report_complete F _ cfg encoder work job processor request hprepare
    have honce := pairwise_tries_postJob hreport completing db
    simp only
    cases hresult : (BackendClient.postJob encoder completing request.1 request.2 db).result with
    | ok u =>
      obtain ⟨-, hcompleted⟩ := state_postJob_of_ok hreport hresult
      refine ⟨?_, fun t ht hne => ⟨rfl, (result_postJob_of_commits hreport rfl ht hne).2⟩,
        fun _ => hcompleted rfl, fun h => nomatch h⟩
      rw [List.append_nil]
      exact honce
    | error error =>
      simp only
      rcases handleJobError_cases encoder job failing
        (BackendClient.postJob encoder completing request.1 request.2 db).state
        (.worker error) with ⟨heq, hcompleted, hreported⟩ | ⟨⟨retryable, errorCode, heq⟩, hkind⟩
      · rw [heq]
        refine ⟨?_, fun t ht hne => ⟨rfl, (result_postJob_of_commits hreport rfl ht hne).2⟩,
          fun h => absurd h hcompleted, fun h => absurd h hreported⟩
        rw [List.append_nil]
        exact honce
      · rw [heq]
        refine reportsOnce_of_failure encoder job failing honce fun t ht => ?_
        obtain ⟨message, rfl⟩ := hkind error rfl
        by_contra hne
        exact (result_postJob_of_commits hreport rfl ht hne).1 message hresult

end Handling

end RaceFrame
