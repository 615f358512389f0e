import Mathlib.Data.Fin.VecNotation
import RaceFrame.Core.RoundRobin
import RaceFrame.Schema.Rational
import RaceFrame.Worker.OcrAcceptance

/-!
# Polling for jobs

`FairClaimPoller.work_once` and the calls that the loop of `main` makes of it.
The poller asks the claim endpoints from its cursor on until one has a job. A
job and a round without jobs move the cursor; an endpoint that raises ends the
call before the cursor has moved.
-/

namespace RaceFrame

open Core

variable {F : Type} [Scalar F]

/-! ## One call -/

/-- `bool(value)` of a decoded JSON value. -/
def Json.isTruthy : Json F → Bool
  | .null => false
  | .bool b => b
  | .int n => n != 0
  | .float x => x != 0
  | .str s => !s.isEmpty
  | .list items => !items.isEmpty
  | .dict entries => !entries.isEmpty

/-- The functions that process a claimed job. -/
inductive JobProcessor
  | processFaceJob | processFaceSearchJob | processPhotoJob
  deriving DecidableEq

/-- One member of `_claims`. -/
structure ClaimEndpoint (F : Type) where
  path : String
  payload : JsonDict F
  processor : JobProcessor

/-- What a claim request comes to. -/
inductive ClaimAnswer (F : Type)
  | noJob
  | job (job : JsonDict F)
  | raised (error : WorkerError)

/-- How `work_once` reads the reply to a claim request. -/
def claimAnswer : Except WorkerError (JsonDict F) → ClaimAnswer F
  | .error error => .raised error
  | .ok claimed =>
    match claimed.lookup "job" with
    | none => .noJob
    | some value =>
      if !value.isTruthy then .noJob
      else match value with
        | .dict job => .job job
        | _ => .raised (.controlPlane "Backend returned an invalid job payload.")

/-- `client.post` in one call of `work_once`. -/
abbrev ClaimReplies (F : Type) := String → JsonDict F → Except WorkerError (JsonDict F)

/-- The answer of an endpoint. -/
def ClaimReplies.answer (post : ClaimReplies F) (endpoint : ClaimEndpoint F) : ClaimAnswer F :=
  claimAnswer (post endpoint.path endpoint.payload)

/-- `handle_claimed_job`, which may raise. -/
abbrev JobHandler (F : Type) := JsonDict F → JobProcessor → Except WorkerError Unit

/-- A call of `work_once`: the members of `_claims` asked, the cursor left and the result. -/
structure Polled (n : Nat) where
  asked : List (Fin n)
  cursor : Fin n
  result : Except WorkerError Bool

section

variable {n : Nat} [NeZero n] (claims : Fin n → ClaimEndpoint F) (post : ClaimReplies F)
  (handle : JobHandler F)

/-- The loop of `work_once` over the offsets that remain. -/
def pollOffsets (cursor : Fin n) : List Nat → Polled n
  | [] => { asked := [], cursor := cursor + 1, result := .ok false }
  | offset :: offsets =>
    let index := stepsFrom cursor offset
    let endpoint := claims index
    match post.answer endpoint with
    | .noJob =>
      let rest := pollOffsets cursor offsets
      { rest with asked := index :: rest.asked }
    | .raised error => { asked := [index], cursor := cursor, result := .error error }
    | .job job =>
      { asked := [index]
        cursor := index + 1
        result := (handle job endpoint.processor).map fun _ => true }

/-- `work_once`. -/
def workOnce (cursor : Fin n) : Polled n := pollOffsets claims post handle cursor (List.range n)

/-- An endpoint before the given one raises, and no endpoint before that one has a job. -/
def StopsBefore (cursor q : Fin n) : Prop :=
  ∃ offset < stepsTo cursor q,
    (∀ earlier < offset, post.answer (claims (stepsFrom cursor earlier)) = .noJob) ∧
      ∃ error, post.answer (claims (stepsFrom cursor offset)) = .raised error

variable {claims post handle}

private theorem pollOffsets_of_answers {cursor q : Fin n} {offset remaining : Nat}
    (hoffset : offset ≤ stepsTo cursor q) (hremaining : stepsTo cursor q < offset + remaining)
    (hanswers : ∀ steps, offset ≤ steps → steps < stepsTo cursor q →
      (∀ earlier, offset ≤ earlier → earlier < steps →
        post.answer (claims (stepsFrom cursor earlier)) = .noJob) →
      ∀ error, post.answer (claims (stepsFrom cursor steps)) ≠ .raised error) :
    let polled := pollOffsets claims post handle cursor (List.range' offset remaining)
    q ∈ polled.asked ∨
      ∃ steps < stepsTo cursor q, polled.cursor = stepsFrom cursor (steps + 1) := by
  induction remaining generalizing offset with
  | zero => omega
  | succ remaining ih =>
    rw [List.range'_succ]
    rcases hoffset.eq_or_lt with rfl | hlt
    · refine Or.inl ?_
      rw [pollOffsets, stepsFrom_stepsTo]
      cases post.answer (claims q) <;> exact List.mem_cons_self
    · rw [pollOffsets]
      cases hanswer : post.answer (claims (stepsFrom cursor offset)) with
      | noJob =>
        simp only
        refine (ih hlt (by omega) fun steps hle hsteps hempty => ?_).imp_left
          fun hasked => List.mem_cons_of_mem _ hasked
        refine hanswers steps (by omega) hsteps fun earlier hearlier hbefore => ?_
        rcases hearlier.eq_or_lt with rfl | hafter
        · exact hanswer
        · exact hempty earlier hafter hbefore
      | job job =>
        exact Or.inr ⟨offset, hlt, (stepsFrom_succ cursor offset).symm⟩
      | raised error =>
        exact absurd hanswer (hanswers offset le_rfl hlt (by omega) error)

/-- A call that no endpoint before the given one stops asks it or comes closer to it. -/
theorem workOnce_cases {cursor q : Fin n} (h : ¬StopsBefore claims post cursor q) :
    let polled := workOnce claims post handle cursor
    q ∈ polled.asked ∨ stepsTo polled.cursor q < stepsTo cursor q := by
  have hcases := @pollOffsets_of_answers F _ n _ claims post handle cursor q 0 n
    (Nat.zero_le (stepsTo cursor q)) (by rw [Nat.zero_add]; exact stepsTo_lt cursor q)
    fun steps _ hsteps hempty error hraised =>
      h ⟨steps, hsteps, fun earlier hearlier => hempty earlier (Nat.zero_le _) hearlier,
        error, hraised⟩
  rw [← List.range_eq_range'] at hcases
  refine hcases.imp_right fun ⟨steps, hsteps, hcursor⟩ => ?_
  rw [workOnce, hcursor, stepsTo_stepsFrom (by omega)]
  omega

private theorem pollOffsets_of_raised {cursor : Fin n} {offset remaining steps : Nat}
    {error : WorkerError} (hoffset : offset ≤ steps) (hremaining : steps < offset + remaining)
    (hempty : ∀ earlier < steps, post.answer (claims (stepsFrom cursor earlier)) = .noJob)
    (hraised : post.answer (claims (stepsFrom cursor steps)) = .raised error) :
    let polled := pollOffsets claims post handle cursor (List.range' offset remaining)
    polled.cursor = cursor ∧ polled.result = .error error ∧
      ∀ index ∈ polled.asked, ∃ earlier ≤ steps, index = stepsFrom cursor earlier := by
  induction remaining generalizing offset with
  | zero => omega
  | succ remaining ih =>
    rw [List.range'_succ, pollOffsets]
    rcases hoffset.eq_or_lt with rfl | hlt
    · simp only [hraised, true_and, List.mem_singleton, forall_eq]
      exact ⟨offset, le_rfl, rfl⟩
    · simp only [hempty offset hlt]
      obtain ⟨hcursor, hresult, hasked⟩ := @ih (offset + 1) hlt (by omega)
      refine ⟨hcursor, hresult, fun index hindex => ?_⟩
      rcases List.mem_cons.mp hindex with rfl | hrest
      · exact ⟨offset, hoffset, rfl⟩
      · exact hasked index hrest

/-- A call that stops before an endpoint does not ask it and leaves the cursor where it was. -/
theorem workOnce_of_stopsBefore {cursor q : Fin n} (h : StopsBefore claims post cursor q) :
    let polled := workOnce claims post handle cursor
    q ∉ polled.asked ∧ polled.cursor = cursor := by
  obtain ⟨steps, hsteps, hempty, error, hraised⟩ := h
  have hlt := hsteps.trans (stepsTo_lt cursor q)
  have hstopped := @pollOffsets_of_raised F _ n _ claims post handle cursor 0 n steps error
    (Nat.zero_le steps) (by rw [Nat.zero_add]; exact hlt) hempty hraised
  rw [← List.range_eq_range'] at hstopped
  refine ⟨fun hasked => ?_, hstopped.1⟩
  obtain ⟨earlier, hearlier, rfl⟩ := hstopped.2.2 q hasked
  exact stepsFrom_ne (hearlier.trans_lt hsteps) rfl

end

/-! ## Runs -/

/-- `FairClaimPoller._claims`. -/
def FairClaimPoller.claims (workerJobTypes : List Text) : Fin 3 → ClaimEndpoint F :=
  ![{ path := "/internal/worker/face-jobs/claim", payload := [], processor := .processFaceJob },
    { path := "/internal/worker/face-search-jobs/claim"
      payload := []
      processor := .processFaceSearchJob },
    { path := "/internal/worker/photo-jobs/claim"
      payload := [("job_types", .list (workerJobTypes.map .str))]
      processor := .processPhotoJob }]

/-- A run of `work_once` calls: the cursor before the first call, and what the claim requests and
the handler come to in each call. -/
structure PollingRun (F : Type) where
  workerJobTypes : List Text
  start : Fin 3
  posts : Nat → ClaimReplies F
  handles : Nat → JobHandler F

namespace PollingRun

variable (run : PollingRun F)

/-- `_cursor` before a call. -/
def cursor : Nat → Fin 3
  | 0 => run.start
  | k + 1 =>
    (workOnce (FairClaimPoller.claims run.workerJobTypes) (run.posts k) (run.handles k)
      (cursor k)).cursor

/-- A call of the run. -/
def call (k : Nat) : Polled 3 :=
  workOnce (FairClaimPoller.claims run.workerJobTypes) (run.posts k) (run.handles k) (run.cursor k)

/-- A call stops before it gets to an endpoint. -/
def Stops (q : Fin 3) (k : Nat) : Prop :=
  StopsBefore (FairClaimPoller.claims run.workerJobTypes) (run.posts k) (run.cursor k) q

/-- An endpoint has a job in every call. -/
def HasJobs (q : Fin 3) : Prop :=
  ∀ k, ∃ job, (run.posts k).answer (FairClaimPoller.claims run.workerJobTypes q) = .job job

/-- An endpoint is asked within three calls, whenever one starts counting. -/
def AsksWithinThree (q : Fin 3) : Prop := ∀ k, ∃ j < 3, q ∈ (run.call (k + j)).asked

variable {run}

/-- Three calls that do not stop before an endpoint ask it. -/
theorem asked_of_not_stops {q : Fin 3} {k : Nat} (h : ∀ j < 3, ¬run.Stops q (k + j)) :
    ∃ j < 3, q ∈ (run.call (k + j)).asked := by
  have hlt := stepsTo_lt (run.cursor k) q
  have hserved := @exists_served (fun j => q ∈ (run.call (k + j)).asked)
    (fun j => stepsTo (run.cursor (k + j)) q) fun j hj hunasked =>
      (workOnce_cases (h j (by rw [Nat.add_zero] at hj; omega))).resolve_left hunasked
  obtain ⟨j, hj, hasked⟩ := hserved
  exact ⟨j, by rw [Nat.add_zero] at hj; omega, hasked⟩

/-- While every call stops before an endpoint it is not asked and the cursor stays. -/
theorem unasked_of_stops {q : Fin 3} {k : Nat} (h : ∀ j, run.Stops q (k + j)) (j : Nat) :
    q ∉ (run.call (k + j)).asked ∧ run.cursor (k + j) = run.cursor k := by
  refine ⟨(workOnce_of_stopsBefore (h j)).1, ?_⟩
  induction j with
  | zero => rfl
  | succ j ih => exact (workOnce_of_stopsBefore (h j)).2.trans ih

end PollingRun

/-- In a run whose calls do not stop before an endpoint it is asked within three calls. -/
theorem polling_fair_of_not_stops (run : PollingRun F) (q : Fin 3) (h : ∀ k, ¬run.Stops q k) :
    run.AsksWithinThree q :=
  fun k => PollingRun.asked_of_not_stops fun j _ => h (k + j)

/-- A job as the claim endpoints return it. -/
def claimedReply (F : Type) : JsonDict F := [("job", .dict [("id", .int 1)])]

/-- The run of a new poller in which every endpoint has a job in every call. -/
def busyRun (F : Type) : PollingRun F where
  workerJobTypes := ["ocr".toList]
  start := 0
  posts _ _ _ := .ok (claimedReply F)
  handles _ _ _ := .ok ()

/-- The run of a new poller whose first endpoint fails in every call, the other two having
jobs. -/
def failingRun (F : Type) : PollingRun F where
  workerJobTypes := ["ocr".toList]
  start := 0
  posts _ path _ :=
    if path = "/internal/worker/face-jobs/claim" then
      .error (.controlPlane "Backend returned transient HTTP 500.")
    else .ok (claimedReply F)
  handles _ _ _ := .ok ()

/-- With jobs at every endpoint the third one is asked within three calls. -/
theorem busyRun_asksWithinThree : (busyRun ℚ).AsksWithinThree 2 := by
  refine polling_fair_of_not_stops (busyRun ℚ) 2 fun k => ?_
  rintro ⟨steps, -, -, error, ⟨⟩⟩

theorem failingRun_starves :
    (failingRun ℚ).HasJobs 2 ∧ ¬(failingRun ℚ).AsksWithinThree 2 := by
  refine ⟨fun k => ⟨_, rfl⟩, fun h => ?_⟩
  have hstay : ∀ k, (failingRun ℚ).cursor k = 0 := by
    intro k
    induction k with
    | zero => rfl
    | succ k ih =>
      rw [PollingRun.cursor, ih]
      rfl
  have hstops : ∀ k, (failingRun ℚ).Stops 2 k := by
    intro k
    rw [PollingRun.Stops, hstay]
    exact ⟨0, by decide, fun _ h => absurd h (Nat.not_lt_zero _), _, rfl⟩
  obtain ⟨j, -, hasked⟩ := h 0
  exact (PollingRun.unasked_of_stops (fun i => hstops (0 + i)) j).1 hasked

end RaceFrame
