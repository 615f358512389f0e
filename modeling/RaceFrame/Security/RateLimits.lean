import RaceFrame.Core.Upserts
import RaceFrame.Orm.Session

/-!
# Fixed windows shared by all processes

A counter for each bucket, key and aligned window, incremented by an atomic upsert
also for calls that are rejected. What a window has admitted is at most its limit,
a rejected caller is sent into a later window, and the purge leaves the counters of
current windows alone.
-/

namespace RaceFrame

open Core

/-- A row of `rate_limit_buckets`. -/
structure RateLimitBucket where
  bucket : Text
  keyHash : Text
  windowStart : Instant
  count : Nat
  expiresAt : Instant
  deriving DecidableEq

/-- The primary key of `rate_limit_buckets`. -/
def RateLimitBucket.key (row : RateLimitBucket) : Text × Text × Instant :=
  (row.bucket, row.keyHash, row.windowStart)

/-- The table of counters. -/
abbrev RateLimitBuckets := Table RateLimitBucket RateLimitBucket.key

/-- The arguments of `hit_persistent_limit` and its reading of the clock. -/
structure HitCall where
  bucket : Text
  key : Text
  limit : Nat
  windowSeconds : Nat
  units : Nat
  now : Instant
  deriving DecidableEq

namespace HitCall

/-- `window_start`. -/
def windowStart (call : HitCall) : Instant :=
  let epoch := call.now / seconds 1
  seconds (epoch - epoch % call.windowSeconds)

/-- `Retry-After`, for a rejected call. -/
def retryAfter (call : HitCall) : Nat :=
  max 1 ((call.windowStart + seconds call.windowSeconds - call.now) / seconds 1 + 1)

/-- The row that the call inserts when its counter is not there yet. -/
def row (privacyHash : Text → Text) (call : HitCall) : RateLimitBucket where
  bucket := call.bucket.take 64
  keyHash := privacyHash call.key
  windowStart := call.windowStart
  count := call.units
  expiresAt := call.windowStart + seconds (call.windowSeconds * 2)

/-- The update of a counter that is there. -/
def increment (call : HitCall) (stored excluded : RateLimitBucket) : RateLimitBucket :=
  { stored with count := stored.count + call.units, expiresAt := excluded.expiresAt }

/-- The counters after the upsert. -/
def upserted (privacyHash : Text → Text) (call : HitCall) (buckets : RateLimitBuckets) :
    RateLimitBuckets :=
  buckets.upsert call.increment (call.row privacyHash)

end HitCall

/-- The count under a key, `0` without a row. -/
def countIn (buckets : RateLimitBuckets) (key : Text × Text × Instant) : Nat :=
  ((buckets.get? key).map RateLimitBucket.count).getD 0

/-- `hit_persistent_limit`: `Retry-After` when the limit has been exceeded. The upsert returns the
count of the row it has written. -/
def hitPersistentLimit (privacyHash : Text → Text) (call : HitCall) (buckets : RateLimitBuckets) :
    Except Raised (Option Nat) × RateLimitBuckets :=
  if call.limit = 0 ∨ call.windowSeconds = 0 ∨ call.units = 0 then
    (.error (.runtimeError "Rate limit configuration must be positive."), buckets)
  else
    let upserted := call.upserted privacyHash buckets
    let count := countIn upserted (call.row privacyHash).key
    (.ok (if count ≤ call.limit then none else some call.retryAfter), upserted)

/-- `purge_expired_rate_limits`. -/
def purgeExpiredRateLimits (now : Instant) (buckets : RateLimitBuckets) : RateLimitBuckets :=
  buckets.deleteWhere fun row => row.expiresAt < now

/-- What happens to the counters. -/
inductive LimiterEvent
  | hit (call : HitCall)
  | purge (now : Instant)
  deriving DecidableEq

/-- When it happens. -/
def LimiterEvent.now : LimiterEvent → Instant
  | hit call => call.now
  | purge now => now

/-- The counters afterwards. -/
def LimiterEvent.serve (privacyHash : Text → Text) (buckets : RateLimitBuckets) :
    LimiterEvent → RateLimitBuckets
  | hit call => (hitPersistentLimit privacyHash call buckets).2
  | purge now => purgeExpiredRateLimits now buckets

/-- The counters after a run. -/
def bucketsAfter (privacyHash : Text → Text) (buckets : RateLimitBuckets)
    (events : List LimiterEvent) : RateLimitBuckets :=
  events.foldl (LimiterEvent.serve privacyHash) buckets

/-- The calls of a bucket and key in an aligned window. -/
def HitCall.isIn (call : HitCall) (bucket key : Text) (windowStart : Instant) : Bool :=
  call.bucket == bucket && call.key == key && call.windowStart == windowStart

/-- The units of the calls that a run admits for a bucket, key and limit in an aligned window. -/
def admittedUnits (privacyHash : Text → Text) (bucket key : Text) (limit : Nat)
    (windowStart : Instant) : RateLimitBuckets → List LimiterEvent → Nat
  | _, [] => 0
  | buckets, .hit call :: events =>
    (if call.isIn bucket key windowStart ∧ call.limit = limit ∧
        (hitPersistentLimit privacyHash call buckets).1.toOption = some none then call.units
      else 0) +
      admittedUnits privacyHash bucket key limit windowStart
        ((LimiterEvent.hit call).serve privacyHash buckets) events
  | buckets, .purge now :: events =>
    admittedUnits privacyHash bucket key limit windowStart
      ((LimiterEvent.purge now).serve privacyHash buckets) events

/-! ## Window arithmetic -/

private theorem seconds_add (m n : Nat) : seconds (m + n) = seconds m + seconds n :=
  Nat.add_mul m n _

private theorem aligned_le (now epoch window : Nat) (hepoch : epoch = now / seconds 1) :
    seconds (epoch - epoch % window) ≤ now := by
  have hmod := Nat.mod_le epoch window
  simp only [seconds] at *
  omega

private theorem lt_aligned_add (now epoch window : Nat) (hepoch : epoch = now / seconds 1)
    (hwindow : 0 < window) : now < seconds (epoch - epoch % window) + seconds window := by
  have hlt := Nat.mod_lt epoch hwindow
  have hmod := Nat.mod_le epoch window
  simp only [seconds] at *
  omega

private theorem retry_bounds (now start window : Nat) (hstart : start ≤ now)
    (hend : now < start + seconds window) :
    1 ≤ max 1 ((start + seconds window - now) / seconds 1 + 1) ∧
      max 1 ((start + seconds window - now) / seconds 1 + 1) ≤ window + 1 ∧
      start + seconds window ≤
        now + seconds (max 1 ((start + seconds window - now) / seconds 1 + 1)) := by
  simp only [seconds] at *
  omega

private theorem aligned_mono (now later window : Nat) (hwindow : 0 < window)
    (hlater : seconds (now / seconds 1 - now / seconds 1 % window) + seconds window ≤ later) :
    seconds (now / seconds 1 - now / seconds 1 % window) + seconds window ≤
      seconds (later / seconds 1 - later / seconds 1 % window) := by
  have haligned : ∀ epoch : Nat, epoch - epoch % window = window * (epoch / window) := by
    intro epoch
    have hdiv := Nat.div_add_mod epoch window
    omega
  have hepoch : window * (now / seconds 1 / window) + window ≤ later / seconds 1 := by
    rw [haligned] at hlater
    simp only [seconds] at *
    omega
  have hquotient : now / seconds 1 / window + 1 ≤ later / seconds 1 / window := by
    rw [Nat.le_div_iff_mul_le hwindow, Nat.mul_comm]
    exact hepoch
  have hmul := Nat.mul_le_mul_left window hquotient
  rw [haligned, haligned]
  calc seconds (window * (now / seconds 1 / window)) + seconds window
      = seconds (window * (now / seconds 1 / window + 1)) := by
        rw [Nat.mul_add, Nat.mul_one, seconds_add]
    _ ≤ seconds (window * (later / seconds 1 / window)) := Nat.mul_le_mul_right _ hmul

private theorem not_expired {start window now : Nat} (hcurrent : now < start + seconds window) :
    ¬ start + seconds (window * 2) < now := by
  simp only [seconds] at hcurrent ⊢
  omega

private theorem over_of_expired {start window now later : Nat}
    (hexpired : start + seconds (window * 2) < now) (hlater : now ≤ later) :
    start + seconds window ≤ later := by
  simp only [seconds] at hexpired ⊢
  omega

namespace HitCall

/-- A call falls into the window it is counted in. -/
theorem windowStart_le (call : HitCall) : call.windowStart ≤ call.now :=
  aligned_le call.now _ call.windowSeconds rfl

theorem now_lt_windowEnd (call : HitCall) (hwindow : 0 < call.windowSeconds) :
    call.now < call.windowStart + seconds call.windowSeconds :=
  lt_aligned_add call.now _ call.windowSeconds rfl hwindow

/-- A rejected caller that waits as long as it is told comes back in a later window. -/
theorem retryAfter_bounds (call : HitCall) (hwindow : 0 < call.windowSeconds) :
    1 ≤ call.retryAfter ∧ call.retryAfter ≤ call.windowSeconds + 1 ∧
      call.windowStart + seconds call.windowSeconds ≤
        { call with now := call.now + seconds call.retryAfter }.windowStart := by
  obtain ⟨hlow, hhigh, hlater⟩ := retry_bounds call.now call.windowStart call.windowSeconds
    call.windowStart_le (call.now_lt_windowEnd hwindow)
  exact ⟨hlow, hhigh, aligned_mono call.now _ call.windowSeconds hwindow hlater⟩

end HitCall

/-! ## The counters along a run -/

section Counters

variable (privacyHash : Text → Text)

theorem get?_upserted (call : HitCall) (buckets : RateLimitBuckets) (key : Text × Text × Instant) :
    (call.upserted privacyHash buckets).get? key =
      if (call.row privacyHash).key = key then
        mergeInto call.increment (buckets.get? key) (call.row privacyHash)
      else buckets.get? key := by
  have hkey : ∀ stored excluded : RateLimitBucket, stored.key = excluded.key →
      (call.increment stored excluded).key = stored.key := fun _ _ _ => rfl
  exact Table.get?_upsert hkey buckets (call.row privacyHash) key

/-- The upsert adds the units to the counter of the call. -/
theorem countIn_upserted (call : HitCall) (buckets : RateLimitBuckets)
    (key : Text × Text × Instant) :
    countIn (call.upserted privacyHash buckets) key =
      countIn buckets key + if (call.row privacyHash).key = key then call.units else 0 := by
  rw [countIn, countIn, get?_upserted]
  by_cases hkey : (call.row privacyHash).key = key
  · rw [if_pos hkey, if_pos hkey]
    cases buckets.get? key with
    | none => exact (Nat.zero_add _).symm
    | some row => rfl
  · rw [if_neg hkey, if_neg hkey]
    rfl

/-- A call either raises and changes nothing, or it is counted and answered by its count. -/
theorem hitPersistentLimit_cases (call : HitCall) (buckets : RateLimitBuckets) :
    (hitPersistentLimit privacyHash call buckets =
        (.error (.runtimeError "Rate limit configuration must be positive."), buckets)) ∨
      0 < call.windowSeconds ∧ hitPersistentLimit privacyHash call buckets =
        (.ok (if countIn buckets (call.row privacyHash).key + call.units ≤ call.limit then none
          else some call.retryAfter), call.upserted privacyHash buckets) := by
  rw [hitPersistentLimit]
  by_cases hconfiguration : call.limit = 0 ∨ call.windowSeconds = 0 ∨ call.units = 0
  · exact Or.inl (if_pos hconfiguration)
  · right
    rw [if_neg hconfiguration]
    have hcount := countIn_upserted privacyHash call buckets
      (call.row privacyHash).key
    rw [if_pos rfl] at hcount
    refine ⟨Nat.pos_of_ne_zero fun h => hconfiguration (Or.inr (Or.inl h)), ?_⟩
    dsimp only
    rw [hcount]

/-- No event but the purge lowers a counter. -/
theorem countIn_le_serve_hit (call : HitCall) (buckets : RateLimitBuckets)
    (key : Text × Text × Instant) :
    countIn buckets key ≤ countIn ((LimiterEvent.hit call).serve privacyHash buckets) key := by
  change _ ≤ countIn (hitPersistentLimit privacyHash call buckets).2 key
  rcases hitPersistentLimit_cases privacyHash call buckets with hraise | ⟨-, hok⟩
  · rw [hraise]
  · rw [hok, countIn_upserted]
    exact Nat.le_add_right _ _

/-- The counters of a bucket expire two windows after their start. -/
def ExpireLate (bucket : Text) (windowSeconds : Nat) (buckets : RateLimitBuckets) : Prop :=
  ∀ row ∈ buckets.rows, row.bucket = bucket.take 64 →
    row.expiresAt = row.windowStart + seconds (windowSeconds * 2)

/-- The calls of a bucket agree on its window. -/
def SharesWindow (bucket : Text) (windowSeconds : Nat) (events : List LimiterEvent) : Prop :=
  ∀ call, LimiterEvent.hit call ∈ events → call.bucket.take 64 = bucket.take 64 →
    call.windowSeconds = windowSeconds

theorem ExpireLate.serve {bucket : Text} {windowSeconds : Nat} {buckets : RateLimitBuckets}
    (h : ExpireLate bucket windowSeconds buckets) {event : LimiterEvent}
    (hevent : SharesWindow bucket windowSeconds [event]) :
    ExpireLate bucket windowSeconds (event.serve privacyHash buckets) := by
  cases event with
  | purge now => exact fun row hrow => h row (Table.mem_deleteWhere.mp hrow).1
  | hit call =>
    intro row hrow hbucket
    change row ∈ (hitPersistentLimit privacyHash call buckets).2.rows at hrow
    rcases hitPersistentLimit_cases privacyHash call buckets with
      hraise | ⟨-, hok⟩
    · rw [hraise] at hrow
      exact h row hrow hbucket
    · rw [hok] at hrow
      have hget := Table.mem_iff_get?.mp hrow
      rw [get?_upserted] at hget
      by_cases hkey : (call.row privacyHash).key = row.key
      · have hcall : call.bucket.take 64 = bucket.take 64 :=
          (congrArg Prod.fst hkey).trans hbucket
        have hstart : call.windowStart = row.windowStart := congrArg (fun key => key.2.2) hkey
        have hwindow := hevent call List.mem_cons_self hcall
        rw [if_pos hkey] at hget
        have hexpires : row.expiresAt = (call.row privacyHash).expiresAt := by
          cases hstored : buckets.get? row.key with
          | none =>
            rw [hstored] at hget
            exact (congrArg RateLimitBucket.expiresAt (Option.some.inj hget).symm).trans rfl
          | some stored =>
            rw [hstored] at hget
            exact (congrArg RateLimitBucket.expiresAt (Option.some.inj hget).symm).trans rfl
        rw [hexpires, ← hstart, ← hwindow]
        rfl
      · rw [if_neg hkey] at hget
        exact h row (Table.mem_of_get? hget) hbucket

theorem ExpireLate.bucketsAfter {bucket : Text} {windowSeconds : Nat} {events : List LimiterEvent}
    {buckets : RateLimitBuckets} (h : ExpireLate bucket windowSeconds buckets)
    (hevents : SharesWindow bucket windowSeconds events) :
    ExpireLate bucket windowSeconds (bucketsAfter privacyHash buckets events) := by
  induction events generalizing buckets with
  | nil => exact h
  | cons event events ih =>
    apply ih
    · apply h.serve
      intro call hcall
      apply hevents call
      rw [List.mem_singleton.mp hcall]
      exact List.mem_cons_self
    · exact fun call hcall => hevents call (List.mem_cons_of_mem event hcall)

/-- A call in the window of a counter is counted there. -/
theorem HitCall.row_key_of_isIn {call : HitCall} {bucket key : Text} {windowStart : Instant}
    (h : call.isIn bucket key windowStart = true) :
    (call.row privacyHash).key = (bucket.take 64, privacyHash key, windowStart) := by
  simp only [HitCall.isIn, Bool.and_eq_true, beq_iff_eq] at h
  obtain ⟨⟨rfl, rfl⟩, rfl⟩ := h
  rfl

/-- Once a window is over, nothing is admitted in it. -/
theorem admittedUnits_of_over {bucket key : Text} {limit windowSeconds : Nat}
    {windowStart : Instant} {events : List LimiterEvent} (hwindow : 0 < windowSeconds)
    (hevents : SharesWindow bucket windowSeconds events)
    (hover : ∀ event ∈ events, windowStart + seconds windowSeconds ≤ event.now)
    (buckets : RateLimitBuckets) :
    admittedUnits privacyHash bucket key limit windowStart buckets events = 0 := by
  induction events generalizing buckets with
  | nil => rfl
  | cons event events ih =>
    have hrest := ih (fun call hcall => hevents call (List.mem_cons_of_mem event hcall))
      fun later hlater => hover later (List.mem_cons_of_mem event hlater)
    cases event with
    | purge now => exact hrest _
    | hit call =>
      have hnot : call.isIn bucket key windowStart ≠ true := by
        intro hin
        simp only [HitCall.isIn, Bool.and_eq_true, beq_iff_eq] at hin
        obtain ⟨⟨hbucket, -⟩, hstart⟩ := hin
        have hcall := hevents call List.mem_cons_self (by rw [hbucket])
        have hend := call.now_lt_windowEnd (hcall ▸ hwindow)
        rw [hstart, hcall] at hend
        exact absurd (hover _ List.mem_cons_self) (Nat.not_le_of_lt hend)
      rw [admittedUnits, if_neg fun h => hnot h.1, hrest]

/-- A purge keeps the counter of a window, or the window is over. -/
private theorem countIn_purge {bucket : Text} {windowSeconds : Nat} {buckets : RateLimitBuckets}
    (hexpire : ExpireLate bucket windowSeconds buckets) (key : Text) (windowStart now : Instant) :
    countIn buckets (bucket.take 64, privacyHash key, windowStart) ≤
        countIn ((LimiterEvent.purge now).serve privacyHash buckets)
          (bucket.take 64, privacyHash key, windowStart) ∨
      windowStart + seconds (windowSeconds * 2) < now := by
  cases hstored : buckets.get? (bucket.take 64, privacyHash key, windowStart) with
  | none =>
    left
    rw [countIn, hstored]
    exact Nat.zero_le _
  | some row =>
    have hrow := hexpire row (Table.mem_of_get? hstored)
      (congrArg Prod.fst (Table.get?_key hstored))
    have hstart : row.windowStart = windowStart :=
      congrArg (fun key => key.2.2) (Table.get?_key hstored)
    by_cases hexpired : row.expiresAt < now
    · right
      rwa [hrow, hstart] at hexpired
    · left
      change _ ≤ countIn (buckets.deleteWhere fun row => row.expiresAt < now) _
      rw [countIn, countIn, Table.get?_deleteWhere, hstored, Option.filter_some,
        if_pos (by rw [decide_eq_false hexpired]; rfl)]

/-- A hit that is admitted fits and is counted. -/
private theorem countIn_admitted {call : HitCall} {bucket key : Text} {windowStart : Instant}
    {buckets : RateLimitBuckets} (hin : call.isIn bucket key windowStart = true)
    (hadmitted : (hitPersistentLimit privacyHash call buckets).1.toOption = some none) :
    countIn ((LimiterEvent.hit call).serve privacyHash buckets)
        (bucket.take 64, privacyHash key, windowStart) =
      countIn buckets (bucket.take 64, privacyHash key, windowStart) + call.units ∧
    countIn buckets (bucket.take 64, privacyHash key, windowStart) + call.units ≤ call.limit := by
  have hkey := HitCall.row_key_of_isIn privacyHash hin
  rcases hitPersistentLimit_cases privacyHash call buckets with hraise | ⟨-, hok⟩
  · rw [hraise] at hadmitted
    cases hadmitted
  · constructor
    · change countIn (hitPersistentLimit privacyHash call buckets).2 _ = _
      rw [hok, countIn_upserted, if_pos hkey]
    · rw [hok, hkey] at hadmitted
      by_contra hover
      rw [if_neg hover] at hadmitted
      cases hadmitted

/-- What a window admits from a state on fits into what its counter has left. -/
theorem admittedUnits_add_countIn {bucket key : Text} {limit windowSeconds : Nat}
    {windowStart : Instant} {events : List LimiterEvent} {buckets : RateLimitBuckets}
    (hwindow : 0 < windowSeconds) (hexpire : ExpireLate bucket windowSeconds buckets)
    (hevents : SharesWindow bucket windowSeconds events)
    (horder : events.Pairwise fun a b => a.now ≤ b.now) :
    admittedUnits privacyHash bucket key limit windowStart buckets events +
        countIn buckets (bucket.take 64, privacyHash key, windowStart) ≤ limit ∨
      admittedUnits privacyHash bucket key limit windowStart buckets events = 0 := by
  induction events generalizing buckets with
  | nil => exact Or.inr rfl
  | cons event events ih =>
    obtain ⟨hfirst, hlater⟩ := List.pairwise_cons.mp horder
    have hshares : SharesWindow bucket windowSeconds events :=
      fun call hcall => hevents call (List.mem_cons_of_mem event hcall)
    have hone : SharesWindow bucket windowSeconds [event] := by
      intro call hcall
      apply hevents call
      rw [List.mem_singleton.mp hcall]
      exact List.mem_cons_self
    have hnext := ih (hexpire.serve privacyHash hone) hshares hlater
    cases event with
    | purge now =>
      rw [admittedUnits]
      rcases countIn_purge privacyHash hexpire key windowStart now with hkept | hexpired
      · omega
      · right
        apply admittedUnits_of_over privacyHash hwindow hshares
        intro later hmem
        have hnow : now ≤ later.now := hfirst later hmem
        exact over_of_expired hexpired hnow
    | hit call =>
      have hcount := countIn_le_serve_hit privacyHash call buckets
        (bucket.take 64, privacyHash key, windowStart)
      rw [admittedUnits]
      by_cases hadmitted : call.isIn bucket key windowStart = true ∧ call.limit = limit ∧
          (hitPersistentLimit privacyHash call buckets).1.toOption = some none
      · obtain ⟨hin, hlimit, hanswer⟩ := hadmitted
        obtain ⟨hafter, hfits⟩ := countIn_admitted privacyHash hin hanswer
        rw [if_pos ⟨hin, hlimit, hanswer⟩]
        omega
      · rw [if_neg hadmitted]
        omega

/-- What a limit of fixed windows promises: a window admits at most its limit, a rejected caller is
sent into a later window, and a purge keeps the counters of the windows that are still current. -/
theorem persistentLimit_holds {bucket : Text} {windowSeconds : Nat}
    (hwindow : 1 ≤ windowSeconds) {events : List LimiterEvent}
    (hevents : SharesWindow bucket windowSeconds events)
    (horder : events.Pairwise fun a b => a.now ≤ b.now) :
    (∀ (key : Text) (limit : Nat) (windowStart : Instant),
      admittedUnits privacyHash bucket key limit windowStart .empty events ≤ limit) ∧
    (∀ (pre post : List LimiterEvent) (call : HitCall) (retryAfter : Nat),
      events = pre ++ .hit call :: post →
      (hitPersistentLimit privacyHash call (bucketsAfter privacyHash .empty pre)).1 =
        .ok (some retryAfter) →
      1 ≤ retryAfter ∧ retryAfter ≤ call.windowSeconds + 1 ∧
        call.windowStart + seconds call.windowSeconds ≤
          { call with now := call.now + seconds retryAfter }.windowStart) ∧
    (∀ (pre post : List LimiterEvent) (now : Instant), events = pre ++ .purge now :: post →
      ∀ row ∈ (bucketsAfter privacyHash .empty pre).rows, row.bucket = bucket.take 64 →
        now < row.windowStart + seconds windowSeconds →
        row ∈ (bucketsAfter privacyHash .empty (pre ++ [.purge now])).rows) := by
  have hempty : ExpireLate bucket windowSeconds .empty :=
    fun row hrow => absurd hrow List.not_mem_nil
  refine ⟨?_, ?_, ?_⟩
  · intro key limit windowStart
    have hfits : admittedUnits privacyHash bucket key limit windowStart .empty events +
          countIn .empty (bucket.take 64, privacyHash key, windowStart) ≤ limit ∨
        admittedUnits privacyHash bucket key limit windowStart .empty events = 0 :=
      admittedUnits_add_countIn privacyHash hwindow hempty hevents horder
    omega
  · intro pre post call retryAfter _ hanswer
    rcases hitPersistentLimit_cases privacyHash call (bucketsAfter privacyHash .empty pre) with
      hraise | ⟨hpositive, hok⟩
    · rw [hraise] at hanswer
      cases hanswer
    · rw [hok] at hanswer
      have hretry : retryAfter = call.retryAfter := by
        have hsome := Except.ok.inj hanswer
        split at hsome
        · cases hsome
        · exact (Option.some.inj hsome).symm
      rw [hretry]
      exact call.retryAfter_bounds hpositive
  · intro pre post now hsplit row hrow hbucket hcurrent
    have hpre : SharesWindow bucket windowSeconds pre := by
      intro call hcall
      apply hevents call
      rw [hsplit]
      exact List.mem_append_left _ hcall
    have hexpires := hempty.bucketsAfter privacyHash hpre row hrow hbucket
    have hlate : ¬ row.expiresAt < now := by
      rw [hexpires]
      exact not_expired hcurrent
    rw [bucketsAfter, List.foldl_append, List.foldl_cons, List.foldl_nil]
    exact Table.mem_deleteWhere.mpr ⟨hrow, decide_eq_false hlate⟩

end Counters

/-- A visitor who may search twice a minute is turned away at the third search, until the purge and
the next minute. -/
theorem third_search_rejected :
    (hitPersistentLimit id ⟨['s'], ['v'], 2, 60, 1, seconds 65⟩
      (bucketsAfter id .empty [.hit ⟨['s'], ['v'], 2, 60, 1, seconds 61⟩,
        .hit ⟨['s'], ['v'], 2, 60, 1, seconds 62⟩])).1 = .ok (some 56) ∧
    admittedUnits id ['s'] ['v'] 2 (seconds 60) .empty
      [.hit ⟨['s'], ['v'], 2, 60, 1, seconds 61⟩, .hit ⟨['s'], ['v'], 2, 60, 1, seconds 62⟩,
        .hit ⟨['s'], ['v'], 2, 60, 1, seconds 65⟩, .purge (seconds 66)] ≤ 2 := by
  have hshares : SharesWindow ['s'] 60
      [.hit ⟨['s'], ['v'], 2, 60, 1, seconds 61⟩, .hit ⟨['s'], ['v'], 2, 60, 1, seconds 62⟩,
        .hit ⟨['s'], ['v'], 2, 60, 1, seconds 65⟩, .purge (seconds 66)] := by
    intro call hcall _
    simp only [List.mem_cons, LimiterEvent.hit.injEq, List.not_mem_nil, or_false,
      reduceCtorEq] at hcall
    rcases hcall with rfl | rfl | rfl <;> rfl
  exact ⟨by decide +kernel,
    (persistentLimit_holds id (by decide) hshares (by decide)).1 ['v'] 2 (seconds 60)⟩

end RaceFrame
