import Mathlib.Data.List.AList
import RaceFrame.Core.Pool
import RaceFrame.Security.Browser

/-!
# Admission of browser requests

`BrowserSecurityMiddleware.dispatch` while any number of requests are under way.
The event loop may switch between them wherever one of them waits, and a handler
may return or raise. At most four requests of a category are handled at a time,
no place is lost, and nobody is admitted more often than the limits allow.
-/

namespace RaceFrame

open Core

/-! ## Places -/

/-- `InFlightLimiter._counts`. -/
abbrev InFlight (κ : Type) := AList fun _ : κ => Nat

namespace InFlight

variable {κ : Type} [DecidableEq κ]

/-- `self._counts.get(category, 0)`. -/
def current (counts : InFlight κ) (category : κ) : Nat := (counts.lookup category).getD 0

/-- `InFlightLimiter.enter`. -/
def enter (counts : InFlight κ) (category : κ) (limit : Nat) : Bool × InFlight κ :=
  if limit ≤ counts.current category then (false, counts)
  else (true, counts.insert category (counts.current category + 1))

/-- `InFlightLimiter.leave`. -/
def leave (counts : InFlight κ) (category : κ) : InFlight κ :=
  if counts.current category ≤ 1 then counts.erase category
  else counts.insert category (counts.current category - 1)

/-- No count of zero is stored. -/
def Positive (counts : InFlight κ) : Prop := ∀ c n, counts.lookup c = some n → 0 < n

theorem current_insert (counts : InFlight κ) (category c : κ) (n : Nat) :
    InFlight.current (counts.insert category n) c =
      if c = category then n else counts.current c := by
  rw [current]
  by_cases h : c = category
  · rw [h, AList.lookup_insert, if_pos rfl]
    rfl
  · rw [AList.lookup_insert_ne h, if_neg h]
    rfl

theorem current_erase (counts : InFlight κ) (category c : κ) :
    InFlight.current (counts.erase category) c = if c = category then 0 else counts.current c := by
  rw [current]
  by_cases h : c = category
  · rw [h, AList.lookup_erase, if_pos rfl]
    rfl
  · rw [AList.lookup_erase_ne h, if_neg h]
    rfl

/-- Leaving frees one place of the category, if one is taken. -/
theorem current_leave (counts : InFlight κ) (category c : κ) :
    InFlight.current (counts.leave category) c =
      if c = category then counts.current c - 1 else counts.current c := by
  rw [leave]
  by_cases hfew : counts.current category ≤ 1
  · rw [if_pos hfew, current_erase]
    by_cases h : c = category
    · rw [if_pos h, if_pos h, h]
      omega
    · rw [if_neg h, if_neg h]
  · rw [if_neg hfew, current_insert]
    by_cases h : c = category
    · rw [if_pos h, if_pos h, h]
    · rw [if_neg h, if_neg h]

theorem Positive.insert {counts : InFlight κ} (h : counts.Positive) (category : κ) {n : Nat}
    (hn : 0 < n) : InFlight.Positive (counts.insert category n) := by
  intro c m hlookup
  by_cases hc : c = category
  · rw [hc, AList.lookup_insert] at hlookup
    obtain rfl := Option.some.inj hlookup
    exact hn
  · rw [AList.lookup_insert_ne hc] at hlookup
    exact h c m hlookup

theorem Positive.leave {counts : InFlight κ} (h : counts.Positive) (category : κ) :
    (counts.leave category).Positive := by
  rw [InFlight.leave]
  by_cases hfew : counts.current category ≤ 1
  · rw [if_pos hfew]
    intro c m hlookup
    by_cases hc : c = category
    · rw [hc, AList.lookup_erase] at hlookup
      cases hlookup
    · rw [AList.lookup_erase_ne hc] at hlookup
      exact h c m hlookup
  · rw [if_neg hfew]
    exact h.insert category (by omega)

/-- A category is stored while one of its places is taken. -/
theorem Positive.lookup_eq {counts : InFlight κ} (h : counts.Positive) (c : κ) :
    counts.lookup c = if counts.current c = 0 then none else some (counts.current c) := by
  rw [current]
  cases hlookup : counts.lookup c with
  | none => rfl
  | some n => rw [Option.getD_some, if_neg (h c n hlookup).ne']

end InFlight

/-! ## The middleware -/

/-- How a handler ends. -/
inductive HandlerEnd
  | returned
  | raised
  deriving DecidableEq

/-- What becomes of a request. -/
inductive BrowserAnswer
  /-- 429 with `Retry-After`. -/
  | tooManyRequests (retryAfter : ℤ)
  /-- 503. -/
  | capacityFull
  | handled (ending : HandlerEnd)
  /-- The limiter raises. -/
  | failed (error : Raised)

/-- Where a request is in `dispatch`. -/
inductive BrowserPhase
  /-- Before the limits that are left and before its place is taken. -/
  | checking (category : Category) (left : List RateCheck)
  /-- In `call_next`. -/
  | handling (category : Option Category)
  /-- After its handler, before its place is given back. -/
  | leaving (category : Category) (ending : HandlerEnd)
  | answered (answer : BrowserAnswer)

/-- A request under way, with the hits that it has passed. -/
structure BrowserTask where
  request : BrowserRequest
  phase : BrowserPhase
  passed : List WindowHit

/-- The limiters of the middleware, with all hits so far, which only the statements read. -/
structure BrowserSecurity where
  entries : WindowEntries
  inFlight : InFlight Category
  hits : List WindowHit

/-- `SlidingWindowLimiter.max_keys`. -/
def maxWindowKeys : Nat := 50000

/-- The places of a category. -/
def maxInFlight : Nat := 4

/-- The middleware of a process that has just started. -/
def BrowserSecurity.new : BrowserSecurity := ⟨[], ∅, []⟩

section Dispatch

variable (tools : BrowserTools) (settings : BrowserSettings)

/-- A request that arrives. -/
def BrowserTask.start (request : BrowserRequest) : BrowserTask where
  request := request
  phase := match categoryOf tools settings request with
    | none => .handling none
    | some category => .checking category (checksOf tools settings request category)
  passed := []

/-- `rate_limiter.hit` for the first of the limits that are left. -/
def BrowserTask.hit (now : ℚ) (s : BrowserSecurity) (task : BrowserTask) (category : Category)
    (check : RateCheck) (left : List RateCheck) : BrowserSecurity × BrowserTask :=
  let served := (check.at now).serve maxWindowKeys s.entries
  ({ s with entries := served.2, hits := s.hits ++ [check.at now] },
    match served.1 with
    | .ok none =>
      { task with phase := .checking category left, passed := task.passed ++ [check.at now] }
    | .ok (some retryAfter) => { task with phase := .answered (.tooManyRequests retryAfter) }
    | .error error => { task with phase := .answered (.failed error) })

/-- The next step of a request: `now` is a reading of the clock and `ending` is how its handler
ends, where the step is one of these. -/
def BrowserTask.next (now : ℚ) (ending : HandlerEnd) (s : BrowserSecurity) (task : BrowserTask) :
    Option (BrowserSecurity × BrowserTask) :=
  match task.phase with
  | .checking category (check :: left) => some (task.hit now s category check left)
  | .checking category [] =>
    let entered := s.inFlight.enter category maxInFlight
    some ({ s with inFlight := entered.2 }, { task with
      phase := if entered.1 then .handling (some category) else .answered .capacityFull })
  | .handling (some category) => some (s, { task with phase := .leaving category ending })
  | .handling none => some (s, { task with phase := .answered (.handled ending) })
  | .leaving category ending => some ({ s with inFlight := s.inFlight.leave category },
      { task with phase := .answered (.handled ending) })
  | .answered _ => none

/-- A step at a time that is not before any earlier hit. -/
def BrowserStep (s : BrowserSecurity) (task : BrowserTask) (s' : BrowserSecurity)
    (task' : BrowserTask) : Prop :=
  ∃ now ending, (∀ hit ∈ s.hits, hit.now ≤ now) ∧ task.next now ending s = some (s', task')

/-- The requests and the middleware at some time after the start of the process. -/
def BrowserReached (p : Pool BrowserSecurity BrowserTask) : Prop :=
  Pool.Reached (fun task => ∃ request, task = BrowserTask.start tools settings request)
    BrowserStep BrowserSecurity.new p

/-- The place that is held. -/
def BrowserPhase.place? : BrowserPhase → Option Category
  | .handling category => category
  | .leaving category _ => some category
  | .checking _ _ | .answered _ => none

/-- The request holds a place of the category. -/
def BrowserTask.Holds (category : Category) (task : BrowserTask) : Prop :=
  task.phase.place? = some category

instance (category : Category) : DecidablePred (BrowserTask.Holds category) := fun task =>
  inferInstanceAs (Decidable (task.phase.place? = some category))

/-- The request is handled outside the categories. -/
def BrowserTask.IsUnlimited (task : BrowserTask) : Prop := task.phase = .handling none

/-- The hit is one of the key in the window that ends at an instant. -/
def WindowHit.IsIn (key : Text × Text) (t : ℚ) (hit : WindowHit) : Prop :=
  hit.entryKey = key ∧ t - bucketWindow key.1 < hit.now ∧ hit.now ≤ t

instance (key : Text × Text) (t : ℚ) : DecidablePred (WindowHit.IsIn key t) := fun _ =>
  inferInstanceAs (Decidable (_ ∧ _ ∧ _))

/-- The arguments of a hit. -/
def WindowHit.check (hit : WindowHit) : RateCheck :=
  ⟨hit.bucket, hit.key, hit.limit, hit.windowSeconds⟩

/-- What is promised about the requests that are under way. -/
structure Admitted (p : Pool BrowserSecurity BrowserTask) : Prop where
  /-- No more requests of a category hold a place than there are. -/
  bounded : ∀ category, p.tasks.countP (BrowserTask.Holds category) ≤ maxInFlight
  /-- The stored count is the number of these requests, and nothing is stored at rest. -/
  counted : ∀ category, p.shared.inFlight.lookup category =
    if p.tasks.countP (BrowserTask.Holds category) = 0 then none
    else some (p.tasks.countP (BrowserTask.Holds category))
  /-- A request is turned away for lack of a place exactly when all places are held. -/
  admits : ∀ category, (p.shared.inFlight.enter category maxInFlight).1 = true ↔
    p.tasks.countP (BrowserTask.Holds category) < maxInFlight
  /-- What holds a place has passed all its limits. -/
  checked : ∀ task ∈ p.tasks, ∀ category, task.Holds category →
    categoryOf tools settings task.request = some category ∧
      task.passed.map WindowHit.check = checksOf tools settings task.request category
  /-- What is handled without a place is in no category. -/
  unlimited : ∀ task ∈ p.tasks, task.IsUnlimited → categoryOf tools settings task.request = none
  /-- While no key is forgotten, a key lets no more requests pass in any of its windows than its
  limit. -/
  limited : (p.shared.hits.map WindowHit.entryKey).dedup.length ≤ maxWindowKeys → ∀ key t,
    (p.tasks.countP fun task => ∃ hit ∈ task.passed, hit.IsIn key t) ≤ bucketLimit key.1

/-! ## One step -/

/-- What a step does. -/
inductive BrowserMove (now : ℚ) (s : BrowserSecurity) (task : BrowserTask) :
    BrowserSecurity → BrowserTask → Prop
  /-- It passes a limit. -/
  | passes (category : Category) (check : RateCheck) (left : List RateCheck)
    (phase : task.phase = .checking category (check :: left))
    (answer : ((check.at now).serve maxWindowKeys s.entries).1 = .ok none) :
    BrowserMove now s task
      { s with
        entries := ((check.at now).serve maxWindowKeys s.entries).2
        hits := s.hits ++ [check.at now] }
      { task with phase := .checking category left, passed := task.passed ++ [check.at now] }
  /-- It is turned away by a limit. -/
  | refused (category : Category) (check : RateCheck) (left : List RateCheck)
    (answer : BrowserAnswer) (phase : task.phase = .checking category (check :: left)) :
    BrowserMove now s task
      { s with
        entries := ((check.at now).serve maxWindowKeys s.entries).2
        hits := s.hits ++ [check.at now] }
      { task with phase := .answered answer }
  /-- It takes a place. -/
  | enters (category : Category) (phase : task.phase = .checking category [])
    (room : s.inFlight.current category < maxInFlight) :
    BrowserMove now s task
      { s with inFlight := s.inFlight.insert category (s.inFlight.current category + 1) }
      { task with phase := .handling (some category) }
  /-- It finds no place. -/
  | full (category : Category) (phase : task.phase = .checking category []) :
    BrowserMove now s task s { task with phase := .answered .capacityFull }
  /-- Its handler ends. -/
  | ends (category : Category) (ending : HandlerEnd)
    (phase : task.phase = .handling (some category)) :
    BrowserMove now s task s { task with phase := .leaving category ending }
  /-- Its handler ends, outside the categories. -/
  | endsUnlimited (ending : HandlerEnd) (phase : task.phase = .handling none) :
    BrowserMove now s task s { task with phase := .answered (.handled ending) }
  /-- It gives its place back. -/
  | leaves (category : Category) (ending : HandlerEnd)
    (phase : task.phase = .leaving category ending) :
    BrowserMove now s task { s with inFlight := s.inFlight.leave category }
      { task with phase := .answered (.handled ending) }

omit tools settings in
theorem browserMove_of_next {now : ℚ} {ending : HandlerEnd} {s s' : BrowserSecurity}
    {task task' : BrowserTask} (h : task.next now ending s = some (s', task')) :
    BrowserMove now s task s' task' := by
  unfold BrowserTask.next at h
  cases hphase : task.phase with
  | checking category left =>
    cases left with
    | cons check left =>
      simp only [hphase, BrowserTask.hit, Option.some.injEq, Prod.mk.injEq] at h
      obtain ⟨rfl, rfl⟩ := h
      cases hanswer : ((check.at now).serve maxWindowKeys s.entries).1 with
      | error error => exact .refused category check left _ hphase
      | ok answer =>
        cases answer with
        | none => exact .passes category check left hphase hanswer
        | some retryAfter => exact .refused category check left _ hphase
    | nil =>
      simp only [hphase, Option.some.injEq, Prod.mk.injEq] at h
      obtain ⟨rfl, rfl⟩ := h
      rw [InFlight.enter]
      by_cases hfull : maxInFlight ≤ s.inFlight.current category
      · rw [if_pos hfull]
        exact .full category hphase
      · rw [if_neg hfull]
        exact .enters category hphase (Nat.lt_of_not_le hfull)
  | handling category =>
    cases category with
    | none =>
      simp only [hphase, Option.some.injEq, Prod.mk.injEq] at h
      obtain ⟨rfl, rfl⟩ := h
      exact .endsUnlimited ending hphase
    | some category =>
      simp only [hphase, Option.some.injEq, Prod.mk.injEq] at h
      obtain ⟨rfl, rfl⟩ := h
      exact .ends category ending hphase
  | leaving category ending =>
    simp only [hphase, Option.some.injEq, Prod.mk.injEq] at h
    obtain ⟨rfl, rfl⟩ := h
    exact .leaves category ending hphase
  | answered answer => simp only [hphase, reduceCtorEq] at h

/-! ## What every step keeps -/

/-- The limiters hold what their hits and the takers of places have left. -/
structure BrowserSecurity.Sound (s : BrowserSecurity) : Prop where
  rates : FixedRates bucketLimit bucketWindow s.hits
  ordered : s.hits.Pairwise fun earlier later => earlier.now ≤ later.now
  entries_eq : s.entries = entriesAfter maxWindowKeys [] s.hits
  positive : s.inFlight.Positive
  bounded : ∀ category, s.inFlight.current category ≤ maxInFlight

/-- The limits that have been passed come before the ones that are left. -/
def BrowserPhase.Sound (request : BrowserRequest) (passed : List WindowHit) : BrowserPhase → Prop
  | .checking category left => categoryOf tools settings request = some category ∧
    passed.map WindowHit.check ++ left = checksOf tools settings request category
  | .handling none => categoryOf tools settings request = none
  | .handling (some category) | .leaving category _ =>
    categoryOf tools settings request = some category ∧
      passed.map WindowHit.check = checksOf tools settings request category
  | .answered _ => True

/-- Where a request is agrees with what it has passed. -/
def BrowserTask.Sound (task : BrowserTask) : Prop :=
  task.phase.Sound tools settings task.request task.passed

omit tools settings in
theorem BrowserSecurity.sound_new : BrowserSecurity.new.Sound where
  rates := ⟨bucketLimit_pos, fun _ h => absurd h List.not_mem_nil,
    fun _ h => absurd h List.not_mem_nil⟩
  ordered := List.Pairwise.nil
  entries_eq := rfl
  positive := fun _ _ h => nomatch h
  bounded := fun _ => Nat.zero_le _

theorem BrowserTask.sound_start (request : BrowserRequest) :
    (BrowserTask.start tools settings request).Sound tools settings := by
  rw [BrowserTask.Sound, BrowserTask.start]
  cases hcategory : categoryOf tools settings request with
  | none => exact hcategory
  | some category => exact ⟨hcategory, List.nil_append _⟩

variable {tools settings}

omit tools settings in
/-- A hit is recorded. -/
theorem BrowserSecurity.Sound.hit {s : BrowserSecurity} (h : s.Sound) {check : RateCheck}
    (hrate : check.limit = bucketLimit check.bucket ∧
      check.windowSeconds = bucketWindow check.bucket) {now : ℚ}
    (hlater : ∀ hit ∈ s.hits, hit.now ≤ now) :
    BrowserSecurity.Sound { s with
      entries := ((check.at now).serve maxWindowKeys s.entries).2
      hits := s.hits ++ [check.at now] } where
  rates := by
    refine ⟨bucketLimit_pos, fun hit hmem => ?_, fun hit hmem => ?_⟩
    · rcases List.mem_append.mp hmem with hmem | hmem
      · exact h.rates.limit hit hmem
      · rw [List.mem_singleton.mp hmem]
        exact hrate.1
    · rcases List.mem_append.mp hmem with hmem | hmem
      · exact h.rates.window hit hmem
      · rw [List.mem_singleton.mp hmem]
        exact hrate.2
  ordered := by
    refine List.pairwise_append.mpr ⟨h.ordered, List.pairwise_singleton _ _, ?_⟩
    intro earlier hearlier later hlast
    rw [List.mem_singleton.mp hlast]
    exact hlater earlier hearlier
  entries_eq := by
    rw [entriesAfter_append, ← h.entries_eq]
    rfl
  positive := h.positive
  bounded := h.bounded

/-- A step keeps what is known of the limiters and of its request. -/
theorem BrowserMove.sound {now : ℚ} {s s' : BrowserSecurity} {task task' : BrowserTask}
    (h : BrowserMove now s task s' task') (hs : s.Sound) (htask : task.Sound tools settings)
    (hlater : ∀ hit ∈ s.hits, hit.now ≤ now) : s'.Sound ∧ task'.Sound tools settings := by
  rw [BrowserTask.Sound] at htask
  cases h with
  | passes category check left phase answer =>
    rw [phase] at htask
    obtain ⟨hcategory, hchecks⟩ := htask
    have hmem : check ∈ checksOf tools settings task.request category := by
      rw [← hchecks]
      exact List.mem_append_right _ List.mem_cons_self
    refine ⟨hs.hit (checksOf_rates tools settings hmem) hlater, hcategory, ?_⟩
    rw [List.map_append, List.append_assoc]
    exact hchecks
  | refused category check left answer phase =>
    rw [phase] at htask
    obtain ⟨hcategory, hchecks⟩ := htask
    have hmem : check ∈ checksOf tools settings task.request category := by
      rw [← hchecks]
      exact List.mem_append_right _ List.mem_cons_self
    exact ⟨hs.hit (checksOf_rates tools settings hmem) hlater, trivial⟩
  | enters category phase room =>
    rw [phase, BrowserPhase.Sound, List.append_nil] at htask
    refine ⟨⟨hs.rates, hs.ordered, hs.entries_eq, hs.positive.insert category (Nat.succ_pos _),
      fun c => ?_⟩, htask⟩
    rw [InFlight.current_insert]
    split_ifs
    · exact room
    · exact hs.bounded c
  | full category phase => exact ⟨hs, trivial⟩
  | ends category ending phase =>
    rw [phase] at htask
    exact ⟨hs, htask⟩
  | endsUnlimited ending phase => exact ⟨hs, trivial⟩
  | leaves category ending phase =>
    refine ⟨⟨hs.rates, hs.ordered, hs.entries_eq, hs.positive.leave category, fun c => ?_⟩,
      trivial⟩
    rw [InFlight.current_leave]
    split_ifs
    · exact (Nat.sub_le _ _).trans (hs.bounded c)
    · exact hs.bounded c

omit tools settings in
private theorem holds_iff {task : BrowserTask} {phase : BrowserPhase} (h : task.phase = phase)
    (c : Category) : task.Holds c ↔ phase.place? = some c := by
  rw [BrowserTask.Holds, h]

/-- The count of a category changes by what the request changes of its place. -/
theorem BrowserMove.current_eq {now : ℚ} {s s' : BrowserSecurity} {task task' : BrowserTask}
    (h : BrowserMove now s task s' task') (c : Category)
    (htaken : (if task.Holds c then 1 else 0) ≤ s.inFlight.current c) :
    s'.inFlight.current c + (if task.Holds c then 1 else 0) =
      s.inFlight.current c + if task'.Holds c then 1 else 0 := by
  have hanswered : ∀ answer, ¬BrowserTask.Holds c { task with phase := .answered answer } :=
    fun answer h => nomatch h
  have hchecking : ∀ {category left}, task.phase = .checking category left → ¬task.Holds c := by
    intro category left phase h
    rw [holds_iff phase] at h
    cases h
  cases h with
  | passes category check left phase answer =>
    rw [if_neg (hchecking phase), if_neg fun h => nomatch h]
  | refused category check left answer phase =>
    rw [if_neg (hchecking phase), if_neg (hanswered answer)]
  | enters category phase room =>
    have hafter : BrowserTask.Holds c { task with phase := .handling (some category) } ↔
        c = category := by
      change some category = some c ↔ c = category
      rw [Option.some.injEq, eq_comm]
    rw [if_neg (hchecking phase), InFlight.current_insert, if_congr hafter rfl rfl]
    by_cases hc : c = category
    · rw [if_pos hc, if_pos hc, hc]
    · rw [if_neg hc, if_neg hc]
  | full category phase => rw [if_neg (hchecking phase), if_neg (hanswered _)]
  | ends category ending phase =>
    have hsame : task.Holds c ↔
        BrowserTask.Holds c { task with phase := .leaving category ending } := holds_iff phase c
    rw [if_congr hsame rfl rfl]
  | endsUnlimited ending phase =>
    have hbefore : ¬task.Holds c := by
      rw [holds_iff phase]
      rintro ⟨⟩
    rw [if_neg hbefore, if_neg (hanswered _)]
  | leaves category ending phase =>
    have hbefore : task.Holds c ↔ c = category := by
      rw [holds_iff phase, BrowserPhase.place?, Option.some.injEq, eq_comm]
    rw [if_congr hbefore rfl rfl] at htaken ⊢
    rw [if_neg (hanswered _), InFlight.current_leave]
    by_cases hc : c = category
    · rw [if_pos hc] at htaken
      rw [if_pos hc, if_pos hc, Nat.sub_add_cancel htaken, Nat.add_zero]
    · rw [if_neg hc, if_neg hc]

omit tools settings in
/-- A request passes a limit only with a hit that is admitted. -/
theorem BrowserMove.passed_le {now : ℚ} {s s' : BrowserSecurity} {task task' : BrowserTask}
    (h : BrowserMove now s task s' task') (hs : s.Sound) (key : Text × Text) (t : ℚ) :
    ((admittedTimes maxWindowKeys key [] s.hits).countP fun time =>
        t - bucketWindow key.1 < time ∧ time ≤ t) + task'.passed.countP (WindowHit.IsIn key t) ≤
      ((admittedTimes maxWindowKeys key [] s'.hits).countP fun time =>
        t - bucketWindow key.1 < time ∧ time ≤ t) + task.passed.countP (WindowHit.IsIn key t) := by
  cases h with
  | passes category check left phase answer =>
    rw [admittedTimes_append, ← hs.entries_eq, List.countP_append, List.countP_append,
      Nat.add_assoc, Nat.add_comm (List.countP _ task.passed)]
    refine Nat.add_le_add_left (Nat.add_le_add_right ?_ _) _
    rw [List.countP_singleton]
    split_ifs with hin
    · obtain ⟨hkey, hwindow⟩ := of_decide_eq_true hin
      rw [admittedTimes, if_pos ⟨hkey, by rw [answer]; rfl⟩, List.countP_append,
        List.countP_singleton, if_pos (decide_eq_true hwindow)]
      exact Nat.le_add_right _ _
    · exact Nat.zero_le _
  | refused category check left answer phase =>
    rw [admittedTimes_append, List.countP_append]
    exact Nat.add_le_add_right (Nat.le_add_right _ _) _
  | enters | full | ends | endsUnlimited | leaves => exact le_rfl

/-! ## Every run -/

private theorem not_holds_start (request : BrowserRequest) (category : Category) :
    ¬(BrowserTask.start tools settings request).Holds category := by
  rw [BrowserTask.start, BrowserTask.Holds]
  cases categoryOf tools settings request <;> rintro ⟨⟩

omit tools settings in
private theorem exists_last {hits : List WindowHit}
    (hordered : hits.Pairwise fun earlier later => earlier.now ≤ later.now) :
    ∃ last, ∀ hit ∈ hits, hit.now ≤ last := by
  rcases List.eq_nil_or_concat hits with rfl | ⟨front, final, rfl⟩
  · exact ⟨0, fun hit hhit => absurd hhit List.not_mem_nil⟩
  · refine ⟨final.now, fun hit hhit => ?_⟩
    rw [List.concat_eq_append, List.pairwise_append] at hordered
    rw [List.concat_eq_append, List.mem_append, List.mem_singleton] at hhit
    rcases hhit with hhit | rfl
    · exact hordered.2.2 hit hhit final List.mem_cons_self
    · exact le_rfl

/-- What a step of a request does, and what it keeps. -/
private theorem exists_move {s s' : BrowserSecurity} {task task' : BrowserTask} (hs : s.Sound)
    (htask : task.Sound tools settings) (h : BrowserStep s task s' task') :
    ∃ now, BrowserMove now s task s' task' ∧ s'.Sound ∧ task'.Sound tools settings := by
  obtain ⟨now, ending, hlater, hnext⟩ := h
  have hmove := browserMove_of_next hnext
  exact ⟨now, hmove, hmove.sound hs htask hlater⟩

private theorem sound_of_start {task : BrowserTask}
    (h : ∃ request, task = BrowserTask.start tools settings request) :
    task.Sound tools settings := by
  obtain ⟨request, rfl⟩ := h
  exact BrowserTask.sound_start tools settings request

variable {p : Pool BrowserSecurity BrowserTask}

theorem BrowserReached.sound (hp : BrowserReached tools settings p) :
    p.shared.Sound ∧ ∀ task ∈ p.tasks, task.Sound tools settings :=
  Pool.Reached.forall_tasks hp BrowserSecurity.sound_new (fun _ => sound_of_start)
    fun _ _ _ _ hs htask h => (exists_move hs htask h).choose_spec.2

/-- The stored count of a category is the number of requests that hold a place of it. -/
theorem BrowserReached.countP_holds (hp : BrowserReached tools settings p) (category : Category) :
    p.tasks.countP (BrowserTask.Holds category) = p.shared.inFlight.current category := by
  rw [← Pool.total_eq_countP (BrowserTask.Holds category)]
  refine Pool.Reached.total_eq (m := fun s : BrowserSecurity => s.inFlight.current category) hp
    BrowserSecurity.sound_new rfl (fun task h => ⟨sound_of_start h, ?_⟩)
    fun s task s' task' hs htask h => ?_
  · obtain ⟨request, rfl⟩ := h
    rw [if_neg]
    exact not_holds_start request category
  · obtain ⟨now, hmove, hs', htask'⟩ := exists_move hs htask h
    exact ⟨hs', htask', hmove.current_eq category⟩

/-- The requests that have passed the limit of a key in a window are no more than the hits of the
key that the window has admitted. -/
theorem BrowserReached.countP_passed_le (hp : BrowserReached tools settings p)
    (key : Text × Text) (t : ℚ) :
    (p.tasks.countP fun task => ∃ hit ∈ task.passed, hit.IsIn key t) ≤
      (admittedTimes maxWindowKeys key [] p.shared.hits).countP fun time =>
        t - bucketWindow key.1 < time ∧ time ≤ t := by
  refine (Pool.countP_le_total (w := fun task => task.passed.countP (WindowHit.IsIn key t))
    (fun task h => ?_) p).trans ?_
  · obtain ⟨hit, hhit, hin⟩ := h
    exact List.countP_pos_iff.mpr ⟨hit, hhit, decide_eq_true hin⟩
  · refine Pool.Reached.total_le (m := fun s : BrowserSecurity =>
      (admittedTimes maxWindowKeys key [] s.hits).countP fun time =>
        t - bucketWindow key.1 < time ∧ time ≤ t) hp BrowserSecurity.sound_new
      (fun task h => ⟨sound_of_start h, ?_⟩) fun s task s' task' hs htask h => ?_
    · obtain ⟨request, rfl⟩ := h
      rfl
    · obtain ⟨now, hmove, hs', htask'⟩ := exists_move hs htask h
      exact ⟨hs', htask', hmove.passed_le hs key t⟩

/-- However the requests interleave, they are admitted as the limits say. -/
theorem admitted_of_reached (hp : BrowserReached tools settings p) :
    Admitted tools settings p := by
  obtain ⟨hshared, htasks⟩ := hp.sound
  refine ⟨fun category => ?_, fun category => ?_, fun category => ?_,
    fun task hmem category h => ?_, fun task hmem h => ?_, fun hfew key t => ?_⟩
  · rw [hp.countP_holds]
    exact hshared.bounded category
  · rw [hp.countP_holds]
    exact hshared.positive.lookup_eq category
  · rw [hp.countP_holds, InFlight.enter]
    by_cases hfull : maxInFlight ≤ p.shared.inFlight.current category
    · rw [if_pos hfull]
      exact iff_of_false Bool.false_ne_true (Nat.not_lt.mpr hfull)
    · rw [if_neg hfull]
      exact iff_of_true rfl (Nat.lt_of_not_le hfull)
  · have hsound := htasks task hmem
    rw [BrowserTask.Sound] at hsound
    rw [BrowserTask.Holds] at h
    cases hphase : task.phase with
    | checking | answered => rw [hphase] at h; cases h
    | handling own =>
      rw [hphase] at h hsound
      obtain rfl : own = some category := h
      exact hsound
    | leaving own ending =>
      rw [hphase] at h hsound
      obtain rfl : own = category := Option.some.inj h
      exact hsound
  · have hsound := htasks task hmem
    rw [BrowserTask.Sound, show task.phase = .handling none from h] at hsound
    exact hsound
  · obtain ⟨last, hlast⟩ := exists_last hshared.ordered
    exact (hp.countP_passed_le key t).trans ((holdsWindow_entriesAfter maxWindowKeys hshared.rates
      hshared.ordered hfew key hlast).spaced.countP_le t)

/-- Of the searches and uploads that are handled and that the check of the token lets pass, those
are outside all limits whose token does not have the form of one. -/
theorem isUnlimited_iff (hp : BrowserReached tools settings p) {task : BrowserTask}
    (hmem : task ∈ p.tasks) {place : Option Category} (hphase : task.phase = .handling place)
    (hmethod : task.request.method = "POST".toList)
    (hpath : isGuardedPath task.request.path = true) (csrfToken xCsrfToken : Option Text)
    (hcsrf : requireBrowserCsrf tools settings task.request csrfToken xCsrfToken = .ok ()) :
    task.IsUnlimited ↔ validBrowserToken tools task.request.csrfCookie = false := by
  obtain ⟨-, -, -, horigin⟩ := (requireBrowserCsrf_eq_ok tools settings hmethod).mp hcsrf
  have hsome := categoryOf_isSome tools settings hmethod hpath
  rw [hasBrowserAdmissionContext, horigin, Bool.and_true] at hsome
  have hsound := hp.sound.2 task hmem
  rw [BrowserTask.Sound, hphase] at hsound
  rw [BrowserTask.IsUnlimited, hphase]
  cases place with
  | none =>
    rw [show categoryOf tools settings task.request = none from hsound] at hsome
    exact iff_of_true rfl hsome.symm
  | some category =>
    rw [hsound.1] at hsome
    refine iff_of_false (fun h => nomatch h) ?_
    rw [← hsome]
    exact Bool.noConfusion

end Dispatch

/-- A standard library for texts without capital letters and urls. -/
def plainTools : BrowserTools where
  context := ⟨Char.isAlpha, fun _ => false⟩
  isAlnum := Char.isAlphanum
  splitOrigin _ := none
  ipAddress := some

/-- A development setup. -/
def plainSettings : BrowserSettings := ⟨"test".toList, [], false⟩

/-- An upload from a browser that has been there before. -/
def uploadRequest : BrowserRequest where
  method := "POST".toList
  path := "/upload/events/7".toList
  scheme := "http".toList
  cookies := [("raceframe_csrf".toList, "abcdefghijklmnopqrst".toList),
    ("raceframe_visitor".toList, "abcdefghijklmnopqrst".toList)]
  headers := []
  clientHost := none
  newVisitorId := []

/-- A search by bib from the same browser. -/
def searchRequest : BrowserRequest :=
  { uploadRequest with path := "/user/events/7/bib-only".toList }

/-- A request arrives, or the request at a place takes its next step. -/
inductive BrowserEvent
  | arrive (request : BrowserRequest)
  | advance (i : Nat) (now : ℚ) (ending : HandlerEnd)

/-- The pool after an event: none, if no request is there to go on or the clock would go back. -/
def BrowserEvent.run (p : Pool BrowserSecurity BrowserTask) :
    BrowserEvent → Option (Pool BrowserSecurity BrowserTask)
  | .arrive request =>
    some ⟨p.shared, p.tasks ++ [BrowserTask.start plainTools plainSettings request]⟩
  | .advance i now ending =>
    if ∀ hit ∈ p.shared.hits, hit.now ≤ now then p.advanceAt (BrowserTask.next now ending) i
    else none

/-- A run of events leads to a pool that is reached. -/
private theorem reached_of_run {p p' : Pool BrowserSecurity BrowserTask}
    {events : List BrowserEvent} (hp : BrowserReached plainTools plainSettings p)
    (h : events.foldlM BrowserEvent.run p = some p') :
    BrowserReached plainTools plainSettings p' := by
  induction events generalizing p with
  | nil =>
    cases h
    exact hp
  | cons event events ih =>
    obtain ⟨next, hnext, h⟩ := Option.bind_eq_some_iff.mp h
    refine ih ?_ h
    cases event with
    | arrive request =>
      cases hnext
      exact hp.tail (.arrive ⟨request, rfl⟩)
    | advance i now ending =>
      rw [BrowserEvent.run] at hnext
      split at hnext
      next hclock =>
        exact Pool.Reached.advanceAt hp (fun task s' task' h => ⟨now, ending, hclock, h⟩) hnext
      next => cases hnext

/-- Six uploads and a search arrive; all but the last upload pass their limits in turn and ask for a
place, and one of the handlers raises. -/
def busyEvents : List BrowserEvent :=
  (List.replicate 6 (.arrive uploadRequest)) ++ [.arrive searchRequest] ++
    [0, 6, 1, 6, 2, 3, 6, 4, 3, 1, 0, 2, 4, 6].map (fun i => .advance i 1 .returned) ++
    [.advance 1 2 .raised]

/-- The request is answered 503. -/
def BrowserTask.isTurnedAway (task : BrowserTask) : Bool :=
  match task.phase with
  | .answered .capacityFull => true
  | _ => false

/-- Four uploads hold the places of their category, one of them while its handler has raised; the
fifth has been turned away, and the search has a place of its own category. -/
theorem busyEvents_admitted : ∃ p, BrowserReached plainTools plainSettings p ∧
    [Category.photoUpload, .publicSearch].map p.shared.inFlight.lookup = [some 4, some 1] ∧
    p.tasks.map (fun task => decide (task.Holds .photoUpload)) =
      [true, true, true, true, false, false, false] ∧
    p.tasks.map BrowserTask.isTurnedAway = [false, false, false, false, true, false, false] ∧
    p.shared.hits.length = 8 ∧ Admitted plainTools plainSettings p := by
  have hrun : ∃ p ∈ busyEvents.foldlM BrowserEvent.run ⟨BrowserSecurity.new, []⟩,
      [Category.photoUpload, .publicSearch].map p.shared.inFlight.lookup = [some 4, some 1] ∧
      p.tasks.map (fun task => decide (task.Holds .photoUpload)) =
        [true, true, true, true, false, false, false] ∧
      p.tasks.map BrowserTask.isTurnedAway = [false, false, false, false, true, false, false] ∧
      p.shared.hits.length = 8 := by
    decide +kernel
  obtain ⟨p, hp, hplaces, hholds, hturned, hhits⟩ := hrun
  have hreached := reached_of_run .refl hp
  exact ⟨p, hreached, hplaces, hholds, hturned, hhits, admitted_of_reached hreached⟩

/-- An upload with a token of one letter, in the cookie and in the form, is handled without any
limit. -/
theorem shortToken_isUnlimited : ∃ p, BrowserReached plainTools plainSettings p ∧
    ∃ task ∈ p.tasks, task.request.csrfCookie = "a".toList ∧ task.IsUnlimited := by
  have hreached : BrowserReached plainTools plainSettings ⟨BrowserSecurity.new,
      [] ++ [BrowserTask.start plainTools plainSettings
        { uploadRequest with cookies := [("raceframe_csrf".toList, "a".toList)] }]⟩ :=
    .single (.arrive ⟨_, rfl⟩)
  refine ⟨_, hreached, _, List.mem_cons_self, rfl, ?_⟩
  exact (isUnlimited_iff hreached List.mem_cons_self (rfl : _ = BrowserPhase.handling none) rfl rfl
    (some "a".toList) none rfl).mpr rfl

end RaceFrame
