import RaceFrame.Worker.RowSteps

/-!
# Runs of worker calls

A run is any list of calls, each with the world it reads. Requests that are lost
are not in the list, duplicated ones are in it twice, delayed ones are in it
late. Along a run every job row behaves as a ticket.
-/

namespace RaceFrame

open Core

variable {F : Type} [Scalar F]

/-- One call that reaches the server. -/
structure Event (F : Type) where
  world : World
  call : WorkerCall F

/-- A call that arrives at `now`, with `attemptId` as the next identifier to be drawn. -/
def Event.at (now : Instant) (attemptId : Uuid) (call : WorkerCall F) : Event F :=
  ⟨World.still now fun _ => attemptId, call⟩

/-- Serve the call. -/
def Event.serve (cfg : Settings F) (e : Event F) (db : Database F) :
    Except Raised Reply × Database F :=
  e.call.serve cfg e.world db

/-- The database after a run. -/
def runEvents (cfg : Settings F) (db : Database F) (es : List (Event F)) : Database F :=
  es.foldl (fun db e => (e.serve cfg db).2) db

/-- The answers of a run. -/
def replies (cfg : Settings F) (db : Database F) : List (Event F) → List (Except Raised Reply)
  | [] => []
  | e :: es => (e.serve cfg db).1 :: replies cfg (e.serve cfg db).2 es

/-- The attempt that the most recent claim of a job has handed out; before the first claim of
the run, the one that the row starts with. -/
def handedOut (cfg : Settings F) (db : Database F) (es : List (Event F)) (key : JobKey) :
    Option Uuid :=
  ((replies cfg db es).filterMap (issuedFor key)).getLast?.or
    ((db.jobs.get? key).bind Job.attemptId)

@[simp] theorem runEvents_nil (cfg : Settings F) (db : Database F) : runEvents cfg db [] = db := rfl

@[simp] theorem runEvents_cons (cfg : Settings F) (db : Database F) (e : Event F)
    (es : List (Event F)) :
    runEvents cfg db (e :: es) = runEvents cfg (e.serve cfg db).2 es := rfl

theorem runEvents_append (cfg : Settings F) (db : Database F) (es es' : List (Event F)) :
    runEvents cfg db (es ++ es') = runEvents cfg (runEvents cfg db es) es' :=
  List.foldl_append

/-- What each call preserves, a run preserves. -/
theorem runEvents_induction {cfg : Settings F} {P : Database F → Prop}
    (hstep : ∀ (e : Event F) (db : Database F), P db → P (e.serve cfg db).2) (es : List (Event F))
    {db : Database F} (h : P db) : P (runEvents cfg db es) := by
  induction es generalizing db with
  | nil => exact h
  | cons e es ih => exact ih (hstep e db h)

/-- Every step of the run meets a condition on the database before it. -/
def StepsMeet (cfg : Settings F) (condition : Database F → Event F → Prop) (db : Database F)
    (es : List (Event F)) : Prop :=
  ∀ pre e post, es = pre ++ e :: post → condition (runEvents cfg db pre) e

theorem StepsMeet.nil {cfg : Settings F} {condition : Database F → Event F → Prop}
    {db : Database F} : StepsMeet cfg condition db [] := by
  intro pre e post hes
  cases pre <;> cases hes

theorem StepsMeet.cons {cfg : Settings F} {condition : Database F → Event F → Prop}
    {db : Database F} {e : Event F} {es : List (Event F)} (h : condition db e)
    (hes : StepsMeet cfg condition (e.serve cfg db).2 es) :
    StepsMeet cfg condition db (e :: es) := by
  intro pre e' post heq
  cases pre with
  | nil =>
    obtain ⟨rfl, -⟩ := List.cons.inj heq
    exact h
  | cons e'' pre =>
    obtain ⟨-, htail⟩ := List.cons.inj heq
    obtain rfl : e = e'' := (List.cons.inj heq).1
    exact hes pre e' post htail

/-- What each call that meets the condition preserves, holds in every state of a run whose steps
all meet it. -/
theorem StepsMeet.induction {cfg : Settings F} {condition : Database F → Event F → Prop}
    {P : Database F → Prop}
    (hstep : ∀ (e : Event F) (db : Database F), condition db e → P db → P (e.serve cfg db).2)
    {db : Database F} {es : List (Event F)} (hsteps : StepsMeet cfg condition db es) (hstart : P db)
    {pre post : List (Event F)} (hes : es = pre ++ post) : P (runEvents cfg db pre) := by
  induction pre generalizing db es with
  | nil => exact hstart
  | cons e pre ih =>
    subst hes
    have hrest : StepsMeet cfg condition (e.serve cfg db).2 (pre ++ post) := by
      intro pre' e' post' hes'
      exact hsteps (e :: pre') e' post' (by rw [List.cons_append, hes', List.cons_append])
    exact ih hrest (hstep e db (hsteps [] e (pre ++ post) rfl) hstart) rfl

/-- A run neither inserts nor deletes job rows. -/
theorem runEvents_jobKeys (cfg : Settings F) (es : List (Event F)) (db : Database F) :
    (runEvents cfg db es).jobs.rows.map Job.key = db.jobs.rows.map Job.key :=
  runEvents_induction (P := fun db' => db'.jobs.rows.map Job.key = db.jobs.rows.map Job.key)
    (fun e db' h => (outcome_serve cfg e.world db' e.call).jobKeys_eq.trans h) es rfl

/-- A row along a run was there at its start. -/
theorem exists_of_get?_runEvents {cfg : Settings F} {es : List (Event F)} {db : Database F}
    {key : JobKey} {job : Job F} (h : (runEvents cfg db es).jobs.get? key = some job) :
    ∃ start, db.jobs.get? key = some start := by
  cases hstart : db.jobs.get? key with
  | some start => exact ⟨start, rfl⟩
  | none =>
    rw [Table.get?_eq_none_iff_map, ← runEvents_jobKeys cfg es, ← Table.get?_eq_none_iff_map,
      h] at hstart
    cases hstart

/-- Along a run a job row is a ticket, and the answers hand out what is issued. -/
theorem ticketRun_of_runEvents (cfg : Settings F) (es : List (Event F)) {db : Database F}
    {key : JobKey} {job : Job F} (hrow : db.jobs.get? key = some job) :
    ∃ job' as, (runEvents cfg db es).jobs.get? key = some job' ∧
      TicketRun as job.ticket job'.ticket ∧
      as.filterMap TicketAction.issued? = (replies cfg db es).filterMap (issuedFor key) := by
  induction es generalizing db job with
  | nil => exact ⟨job, [], hrow, .nil _, rfl⟩
  | cons e es ih =>
    obtain ⟨next, a, hnext, hmove⟩ := (outcome_serve cfg e.world db e.call).rowMove hrow
    obtain ⟨job', as, hrow', hrun, hissued⟩ := ih hnext
    refine ⟨job', a :: as, hrow', .cons hmove.step.ticketStep hrun, ?_⟩
    have ha : a.issued? = issuedFor key (e.serve cfg db).1 := hmove.issued
    rw [replies, List.filterMap_cons, List.filterMap_cons, ha, hissued]
    rfl

/-- A row names the attempt that was handed out last. -/
theorem attemptId_eq_handedOut (cfg : Settings F) {db : Database F} {es : List (Event F)}
    {key : JobKey} {job : Job F} (hrow : (runEvents cfg db es).jobs.get? key = some job)
    {start : Job F} (hstart : db.jobs.get? key = some start) :
    job.attemptId = handedOut cfg db es key := by
  obtain ⟨job', as, hrow', hrun, hissued⟩ := ticketRun_of_runEvents cfg es hstart
  obtain rfl : job = job' := Option.some.inj (hrow.symm.trans hrow')
  have hholder : job.attemptId = _ := hrun.holder_eq
  rw [hholder, hissued, handedOut, hstart]
  rfl

/-- A job that has ended keeps its row and is not handed out. -/
theorem Outcome.get?_of_isTerminal {cfg : Settings F} {world : World} {db db' : Database F}
    {call : WorkerCall F} {reply : Except Raised Reply} (h : Outcome cfg world db call reply db')
    {key : JobKey} {job : Job F} (hrow : db.jobs.get? key = some job)
    (hterminal : job.status.isTerminal = true) :
    db'.jobs.get? key = some job ∧ issuedFor key reply = none := by
  obtain ⟨job', a, hrow', hmove⟩ := h.rowMove hrow
  have hclosed : job.ticket.phase = .closed :=
    (JobStatus.phase_eq_closed_iff job.status).mpr hterminal
  obtain ⟨rfl, -⟩ := hmove.step.ticketStep.eq_of_closed hclosed
  have hissued : none = issuedFor key reply := hmove.issued
  cases hmove.step
  exact ⟨hrow', hissued.symm⟩

/-- A call is accepted only from the attempt that the row names: from a live attempt, or as a
replay that changes nothing. -/
theorem Outcome.accepted {cfg : Settings F} {world : World} {db db' : Database F}
    {call : WorkerCall F} {reply : Reply} (h : Outcome cfg world db call (.ok reply) db')
    {key : JobKey} {attemptId : Uuid} (hnames : call.names = some (key, attemptId)) :
    ∃ job, db.jobs.get? key = some job ∧ (job.HeldBy attemptId (world.clock 0) ∨
      job.attemptId = some attemptId ∧ job.status ≠ .processing ∧ db' = db) := by
  cases h with
  | answered names row attempt ended =>
    rw [names, Option.some.injEq, Prod.mk.injEq] at hnames
    exact ⟨_, hnames.1 ▸ row, Or.inr ⟨hnames.2 ▸ attempt, ended, rfl⟩⟩
  | idle => cases hnames
  | claimed => cases hnames
  | renewed row held => cases hnames; exact ⟨_, row, Or.inl held⟩
  | retried row held => cases hnames; exact ⟨_, row, Or.inl held⟩
  | ended row held => cases hnames; exact ⟨_, row, Or.inl held⟩
  | recognised row held => cases hnames; exact ⟨_, row, Or.inl held⟩
  | scanned row held => cases hnames; exact ⟨_, row, Or.inl held⟩
  | enrolled row held => cases hnames; exact ⟨_, row, Or.inl held⟩
  | searched row held => cases hnames; exact ⟨_, row, Or.inl held⟩

/-- A call that is not accepted changes nothing. -/
theorem Outcome.eq_of_error {cfg : Settings F} {world : World} {db db' : Database F}
    {call : WorkerCall F} {e : Raised} (h : Outcome cfg world db call (.error e) db') :
    db' = db := by
  cases h
  rfl

/-- A call changes the database only for the live attempt that it names. -/
theorem Outcome.heldBy_of_ne {cfg : Settings F} {world : World} {db db' : Database F}
    {call : WorkerCall F} {reply : Except Raised Reply} (h : Outcome cfg world db call reply db')
    {key : JobKey} {attemptId : Uuid} (hnames : call.names = some (key, attemptId))
    (hne : db' ≠ db) :
    ∃ job, db.jobs.get? key = some job ∧ job.HeldBy attemptId (world.clock 0) := by
  cases reply with
  | error e => exact absurd h.eq_of_error hne
  | ok reply =>
    obtain ⟨job, hrow, held | ⟨-, -, heq⟩⟩ := h.accepted hnames
    · exact ⟨job, hrow, held⟩
    · exact absurd heq hne

/-- An accepted completion or failure spends its attempt: the job is no longer being processed
under it. -/
theorem Outcome.spent {cfg : Settings F} {world : World} {db db' : Database F}
    {call : WorkerCall F} {reply : Reply} (h : Outcome cfg world db call (.ok reply) db')
    {key : JobKey} {attemptId : Uuid} (hnames : call.names = some (key, attemptId))
    (hcall : call.isHeartbeat = false) :
    ∃ job, db'.jobs.get? key = some job ∧ job.ticket.holder = some attemptId ∧
      job.ticket.phase ≠ .held := by
  obtain ⟨job, hrow, held | ⟨hattempt, hstatus, rfl⟩⟩ := h.accepted hnames
  · obtain ⟨job', a, hrow', hmove⟩ := h.rowMove hrow
    have hactor := hmove.acts attemptId reply hnames held rfl
    have hstep := hmove.step.ticketStep
    refine ⟨job', hrow', ?_⟩
    cases a with
    | rest => cases hactor
    | issue token => cases hactor
    | close => cases hactor
    | renew token =>
      have hheartbeat := hmove.renews token rfl
      rw [hcall] at hheartbeat
      cases hheartbeat
    | giveBack token =>
      rw [hstep.eq_of_giveBack]
      exact ⟨hactor, by simp⟩
    | settle token =>
      rw [hstep.eq_of_settle]
      exact ⟨hactor, by simp⟩
  · refine ⟨job, hrow, hattempt, ?_⟩
    exact fun hphase => hstatus ((JobStatus.phase_eq_held_iff job.status).mp hphase)

/-- A completion that changes the database ends its job. -/
theorem Outcome.isTerminal_of_complete {cfg : Settings F} {world : World} {db db' : Database F}
    {call : WorkerCall F} {reply : Except Raised Reply} (h : Outcome cfg world db call reply db')
    {key : JobKey} {attemptId : Uuid} (hnames : call.names = some (key, attemptId))
    (hcall : call.isComplete = true) (hne : db' ≠ db) :
    ∃ job, db'.jobs.get? key = some job ∧ job.status.isTerminal = true := by
  cases reply with
  | error e => exact absurd h.eq_of_error hne
  | ok reply =>
    obtain ⟨job, hrow, held⟩ := h.heldBy_of_ne hnames hne
    obtain ⟨job', a, hrow', hmove⟩ := h.rowMove hrow
    have hactor := hmove.acts attemptId reply hnames held rfl
    have hstep := hmove.step.ticketStep
    refine ⟨job', hrow', (JobStatus.phase_eq_closed_iff job'.status).mp ?_⟩
    change job'.ticket.phase = .closed
    cases a with
    | rest => cases hactor
    | issue token => cases hactor
    | close => cases hactor
    | renew token =>
      have hheartbeat := hmove.renews token rfl
      cases call <;> cases hcall <;> cases hheartbeat
    | giveBack token =>
      have hgives := hmove.gives token rfl
      rw [hcall] at hgives
      cases hgives
    | settle token => rw [hstep.eq_of_settle]

end RaceFrame
