import Mathlib.Data.List.Basic
import RaceFrame.Schema.Scalar

/-!
# The administrator lock

One row says which administrator session works and when it was last seen. A
session takes the row over when it holds it already or when the holder was last
seen more than half an hour ago, or it forces its way in. Within half an hour of a
success nobody else acquires the lock unforced, and a session that renews in time
keeps it.
-/

namespace RaceFrame

/-- The row of `admin_session_locks`; its primary key is always `ADMIN_LOCK_ID`. -/
structure AdminSessionLock where
  sessionId : Text
  lastSeenAt : Instant
  deriving DecidableEq

/-- `ADMIN_SESSION_TTL`. -/
def adminSessionTtl : Nat := seconds (30 * 60)

/-- `acquire_admin_lock`: the row it leaves and its answer. The upsert returns the session of the
row it has written, and nothing when its condition fails. -/
def acquireAdminLock (now : Instant) (sessionId : Text) (lock : Option AdminSessionLock) :
    Bool × Option AdminSessionLock :=
  let written : AdminSessionLock := ⟨sessionId, now⟩
  match lock with
  | none => (written.sessionId == sessionId, some written)
  | some row =>
    if row.sessionId = sessionId ∨ row.lastSeenAt < now - adminSessionTtl then
      (written.sessionId == sessionId, some written)
    else (false, some row)

/-- `force_admin_lock`. -/
def forceAdminLock (now : Instant) (sessionId : Text) (_lock : Option AdminSessionLock) :
    Option AdminSessionLock := some ⟨sessionId, now⟩

/-- A call on the lock, with its reading of the clock. -/
inductive LockCall
  | acquire (sessionId : Text) (now : Instant)
  | force (sessionId : Text) (now : Instant)
  deriving DecidableEq

/-- When the call is made. -/
def LockCall.now : LockCall → Instant
  | acquire _ now => now
  | force _ now => now

/-- The row after a call. -/
def LockCall.serve (lock : Option AdminSessionLock) : LockCall → Option AdminSessionLock
  | acquire sessionId now => (acquireAdminLock now sessionId lock).2
  | force sessionId now => forceAdminLock now sessionId lock

/-- The row after a run of calls. -/
def lockAfter (lock : Option AdminSessionLock) (calls : List LockCall) : Option AdminSessionLock :=
  calls.foldl LockCall.serve lock

/-- The calls of a run are made at non-decreasing times. -/
def InOrder (calls : List LockCall) : Prop := calls.Pairwise fun a b => a.now ≤ b.now

private theorem not_stale {since seen now ttl : Nat} (hseen : since ≤ seen)
    (hnow : now ≤ since + ttl) : ¬ seen < now - ttl := by omega

/-- An acquisition succeeds exactly when the row is free, held already or stale. -/
theorem acquireAdminLock_eq_true_iff {now : Instant} {sessionId : Text}
    {lock : Option AdminSessionLock} :
    (acquireAdminLock now sessionId lock).1 = true ↔
      ∀ row, lock = some row →
        row.sessionId = sessionId ∨ row.lastSeenAt < now - adminSessionTtl := by
  cases lock with
  | none => simp [acquireAdminLock]
  | some row =>
    simp only [acquireAdminLock, Option.some.injEq, forall_eq']
    split <;> simp_all

/-- A success leaves the row to the session that acquired it. -/
theorem acquireAdminLock_of_true {now : Instant} {sessionId : Text}
    {lock : Option AdminSessionLock} (h : (acquireAdminLock now sessionId lock).1 = true) :
    (acquireAdminLock now sessionId lock).2 = some ⟨sessionId, now⟩ := by
  cases lock with
  | none => rfl
  | some row =>
    rw [acquireAdminLock_eq_true_iff] at h
    exact congrArg Prod.snd (if_pos (h row rfl))

/-- A refusal leaves the row as it was. -/
theorem acquireAdminLock_of_false {now : Instant} {sessionId : Text}
    {lock : Option AdminSessionLock} (h : (acquireAdminLock now sessionId lock).1 = false) :
    (acquireAdminLock now sessionId lock).2 = lock := by
  cases lock with
  | none =>
    have hfree : (acquireAdminLock now sessionId none).1 = true :=
      acquireAdminLock_eq_true_iff.mpr fun row hrow => by cases hrow
    rw [hfree] at h
    cases h
  | some row =>
    simp only [acquireAdminLock] at h ⊢
    split at h
    · simp at h
    · rename_i hcondition
      rw [if_neg hcondition]

/-- The row belongs to somebody else, who was seen at `since` or later. -/
def HeldAgainst (sessionId : Text) (since : Instant) (lock : Option AdminSessionLock) : Prop :=
  ∃ row, lock = some row ∧ row.sessionId ≠ sessionId ∧ since ≤ row.lastSeenAt

/-- While the holder is fresh, a session that does not force cannot get the row. -/
theorem HeldAgainst.serve {sessionId : Text} {since : Instant} {lock : Option AdminSessionLock}
    (h : HeldAgainst sessionId since lock) {call : LockCall} (hsince : since ≤ call.now)
    (huntil : call.now ≤ since + adminSessionTtl) (hforce : ∀ now, call ≠ .force sessionId now) :
    HeldAgainst sessionId since (call.serve lock) := by
  obtain ⟨row, rfl, howner, hseen⟩ := h
  cases call with
  | force other now =>
    have hother : other ≠ sessionId := by
      rintro rfl
      exact hforce now rfl
    exact ⟨⟨other, now⟩, rfl, hother, hsince⟩
  | acquire other now =>
    change HeldAgainst sessionId since (acquireAdminLock now other (some row)).2
    cases hanswer : (acquireAdminLock now other (some row)).1 with
    | false =>
      rw [acquireAdminLock_of_false hanswer]
      exact ⟨row, rfl, howner, hseen⟩
    | true =>
      rw [acquireAdminLock_of_true hanswer]
      refine ⟨⟨other, now⟩, rfl, ?_, hsince⟩
      rintro rfl
      rcases acquireAdminLock_eq_true_iff.mp hanswer row rfl with hheld | hstale
      · exact howner hheld
      · exact not_stale hseen huntil hstale

theorem HeldAgainst.lockAfter {sessionId : Text} {since : Instant} {calls : List LockCall}
    {lock : Option AdminSessionLock} (h : HeldAgainst sessionId since lock)
    (hsince : ∀ call ∈ calls, since ≤ call.now)
    (huntil : ∀ call ∈ calls, call.now ≤ since + adminSessionTtl)
    (hforce : ∀ now, LockCall.force sessionId now ∉ calls) :
    HeldAgainst sessionId since (lockAfter lock calls) := by
  induction calls generalizing lock with
  | nil => exact h
  | cons call calls ih =>
    have hcall : ∀ now, call ≠ .force sessionId now := by
      rintro now rfl
      exact hforce now List.mem_cons_self
    apply ih (h.serve (hsince call List.mem_cons_self) (huntil call List.mem_cons_self) hcall)
    · exact fun c hc => hsince c (List.mem_cons_of_mem call hc)
    · exact fun c hc => huntil c (List.mem_cons_of_mem call hc)
    · exact fun now hmem => hforce now (List.mem_cons_of_mem call hmem)

/-- After its success at `last` the session acquires again in time, each time at most half an hour
after its previous success, and no other session forces the lock. -/
def RenewsInTime (sessionId : Text) : Instant → List LockCall → Prop
  | _, [] => True
  | last, .acquire other now :: calls =>
    if other = sessionId then now ≤ last + adminSessionTtl ∧ RenewsInTime sessionId now calls
    else RenewsInTime sessionId last calls
  | _, .force other now :: calls => other = sessionId ∧ RenewsInTime sessionId now calls

/-- The session holds the row since its last success, or its time to renew has passed. -/
def HoldsUntilDue (sessionId : Text) (last : Instant) (lock : Option AdminSessionLock)
    (calls : List LockCall) : Prop :=
  (∃ seen, lock = some ⟨sessionId, seen⟩ ∧ last ≤ seen) ∨
    ∀ call ∈ calls, last + adminSessionTtl < call.now

/-- A session that renews in time is not refused. -/
theorem acquires_of_renewsInTime {sessionId : Text} {last : Instant} {calls : List LockCall}
    {lock : Option AdminSessionLock} (horder : InOrder calls)
    (hlock : HoldsUntilDue sessionId last lock calls) (hrenews : RenewsInTime sessionId last calls)
    {pre post : List LockCall} {now : Instant}
    (hcalls : calls = pre ++ .acquire sessionId now :: post) :
    (acquireAdminLock now sessionId (lockAfter lock pre)).1 = true := by
  induction pre generalizing last calls lock with
  | nil =>
    subst hcalls
    rw [List.nil_append, RenewsInTime, if_pos rfl] at hrenews
    rcases hlock with ⟨seen, rfl, -⟩ | hlate
    · exact acquireAdminLock_eq_true_iff.mpr fun row hrow => Or.inl (by cases hrow; rfl)
    · have hnow : last + adminSessionTtl < now := hlate _ List.mem_cons_self
      exact absurd hrenews.1 (Nat.not_le_of_lt hnow)
  | cons call pre ih =>
    subst hcalls
    obtain ⟨hfirst, hrest⟩ := List.pairwise_cons.mp horder
    have hlater : ∀ c ∈ pre ++ .acquire sessionId now :: post, call.now ≤ c.now := hfirst
    change (acquireAdminLock now sessionId (lockAfter (call.serve lock) pre)).1 = true
    cases call with
    | force other instant =>
      obtain ⟨rfl, hrenews⟩ := hrenews
      exact ih hrest (Or.inl ⟨instant, rfl, le_rfl⟩) hrenews rfl
    | acquire other instant =>
      rw [List.cons_append, RenewsInTime] at hrenews
      by_cases hother : other = sessionId
      · subst hother
        rw [if_pos rfl] at hrenews
        have hanswer : (acquireAdminLock instant other lock).1 = true := by
          rcases hlock with ⟨seen, rfl, -⟩ | hlate
          · exact acquireAdminLock_eq_true_iff.mpr fun row hrow => Or.inl (by cases hrow; rfl)
          · have hnow : last + adminSessionTtl < instant := hlate _ List.mem_cons_self
            exact absurd hrenews.1 (Nat.not_le_of_lt hnow)
        refine ih hrest (Or.inl ⟨instant, ?_, le_rfl⟩) hrenews.2 rfl
        exact acquireAdminLock_of_true hanswer
      · rw [if_neg hother] at hrenews
        refine ih hrest ?_ hrenews rfl
        rcases hlock with ⟨seen, rfl, hseen⟩ | hlate
        · by_cases hdue : instant ≤ seen + adminSessionTtl
          · left
            refine ⟨seen, ?_, hseen⟩
            apply acquireAdminLock_of_false
            rw [Bool.eq_false_iff]
            intro hanswer
            rcases acquireAdminLock_eq_true_iff.mp hanswer _ rfl with hheld | hstale
            · exact hother hheld.symm
            · exact not_stale le_rfl hdue hstale
          · right
            intro c hc
            have hpassed : last + adminSessionTtl < instant :=
              Nat.lt_of_le_of_lt (Nat.add_le_add_right hseen _) (Nat.lt_of_not_le hdue)
            exact Nat.lt_of_lt_of_le hpassed (hlater c hc)
        · exact Or.inr fun c hc => hlate c (List.mem_cons_of_mem _ hc)

/-- Within half an hour of a success another session acquires the lock only after it has forced
it, and a session that renews in time is not refused until another session forces the lock. -/
theorem adminLock_exclusive {start : Option AdminSessionLock} {pre : List LockCall}
    {sessionId : Text} {now : Instant}
    (hacquired : (acquireAdminLock now sessionId (lockAfter start pre)).1 = true) :
    (∀ (mid : List LockCall) (other : Text) (later : Instant), other ≠ sessionId →
      InOrder (pre ++ .acquire sessionId now :: mid ++ [.acquire other later]) →
      later ≤ now + adminSessionTtl →
      (acquireAdminLock later other (lockAfter start (pre ++ .acquire sessionId now :: mid))).1 =
        true →
      ∃ forced, LockCall.force other forced ∈ mid) ∧
    (∀ calls : List LockCall, InOrder (pre ++ .acquire sessionId now :: calls) →
      RenewsInTime sessionId now calls →
      ∀ (mid post : List LockCall) (again : Instant),
        calls = mid ++ .acquire sessionId again :: post →
        (acquireAdminLock again sessionId
          (lockAfter start (pre ++ .acquire sessionId now :: mid))).1 = true) := by
  have hafter : ∀ mid, lockAfter start (pre ++ .acquire sessionId now :: mid) =
      lockAfter (some ⟨sessionId, now⟩) mid := by
    intro mid
    rw [lockAfter, List.foldl_append, List.foldl_cons, ← acquireAdminLock_of_true hacquired]
    rfl
  constructor
  · intro mid other later hother horder hlate hanswer
    by_contra hforced
    have hforce : ∀ forced, LockCall.force other forced ∉ mid :=
      fun forced hmem => hforced ⟨forced, hmem⟩
    rw [List.append_assoc] at horder
    have hrest := (List.pairwise_append.mp horder).2.1
    obtain ⟨hsince, hmid⟩ := List.pairwise_cons.mp hrest
    have huntil : ∀ call ∈ mid, call.now ≤ now + adminSessionTtl := fun call hcall =>
      le_trans ((List.pairwise_append.mp hmid).2.2 call hcall _ List.mem_cons_self) hlate
    have hheld : HeldAgainst other now (lockAfter (some ⟨sessionId, now⟩) mid) :=
      HeldAgainst.lockAfter ⟨_, rfl, hother.symm, le_rfl⟩
        (fun call hcall => hsince call (List.mem_append_left _ hcall)) huntil hforce
    obtain ⟨row, hrow, howner, hseen⟩ := hheld
    rw [hafter, hrow] at hanswer
    rcases acquireAdminLock_eq_true_iff.mp hanswer row rfl with hheld | hstale
    · exact howner hheld
    · exact not_stale hseen hlate hstale
  · intro calls horder hrenews mid post again hcalls
    rw [hafter]
    have hrest := (List.pairwise_cons.mp (List.pairwise_append.mp horder).2.1).2
    exact acquires_of_renewsInTime hrest (Or.inl ⟨now, rfl, le_rfl⟩) hrenews hcalls

/-- The first administrator renews after exactly half an hour, although a second one has tried. -/
theorem first_admin_renews :
    (acquireAdminLock (seconds 1800) ['a']
      (lockAfter none [.acquire ['a'] 0, .acquire ['b'] (seconds 60)])).1 = true := by
  have hacquired : (acquireAdminLock 0 ['a'] (lockAfter none [])).1 = true := rfl
  have hrenews : RenewsInTime ['a'] 0
      [.acquire ['b'] (seconds 60), .acquire ['a'] (seconds 1800)] := ⟨by decide, trivial⟩
  exact (adminLock_exclusive hacquired).2 _ (by unfold InOrder; decide) hrenews
    [.acquire ['b'] (seconds 60)] [] (seconds 1800) rfl

end RaceFrame
