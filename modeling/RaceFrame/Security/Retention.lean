import RaceFrame.Schema.Rows
import RaceFrame.Security.Authorization
import RaceFrame.Security.ProductionConfig

/-!
# Retention of searches

The deadline `expires_at` of a search session. Both ways of creating a session
derive it from `biometric_retention_hours`, and binding a capability overwrites
it with the expiry of the capability, which comes from another setting. So the
first setting bounds the life of the sessions exactly when the second one does
not exceed it.
-/

namespace RaceFrame

open Core

/-! ## Deadlines -/

/-- `datetime.min`, in microseconds. -/
def datetimeMin : ℤ := -62135596800000000

/-- `datetime.max`, in microseconds. -/
def datetimeMax : ℤ := 253402300799999999

/-- `now + timedelta(seconds=delta)`: `none` when it raises `OverflowError`. -/
def addSeconds (now : Instant) (delta : ℤ) : Option ℤ :=
  if datetimeMin ≤ now + delta * 1000000 ∧ now + delta * 1000000 ≤ datetimeMax then
    some (now + delta * 1000000)
  else none

/-- A row of `face_search_sessions`, with its deadline. -/
structure RetainedSession extends FaceSearchSession where
  createdAt : Instant
  expiresAt : ℤ
  capabilityHash : Option Text
  ownerBindingHash : Option Text
  deriving DecidableEq

/-- The table of search sessions. -/
abbrev RetainedSessions := Table RetainedSession (·.id)

namespace DeploymentSettings

variable (settings : DeploymentSettings)

/-- `max(1, settings.biometric_retention_hours)`, in seconds. -/
def retentionSeconds : ℤ := max 1 settings.biometricRetentionHours * 3600

/-- The session that a creation inserts. The deadline is computed at one reading of the clock and
`created_at` at a later one. -/
def newSession (searchSession : FaceSearchSession) (now createdAt : Instant) :
    Option RetainedSession :=
  (addSeconds now settings.retentionSeconds).map fun expiresAt =>
    { searchSession with
      createdAt := createdAt
      expiresAt := expiresAt
      capabilityHash := none
      ownerBindingHash := none }

/-- `ingest_face_search_upload`: the session that the first file creates. -/
def selfieSession (id eventId : Uuid) (participantId : Option Uuid) (now createdAt : Instant) :
    Option RetainedSession :=
  settings.newSession ⟨id, eventId, participantId, .queued, none⟩ now createdAt

/-- `create_bib_only_face_search_session`: the session that it commits. -/
def bibOnlySession (id eventId participantId : Uuid) (now createdAt finishedAt : Instant) :
    Option RetainedSession :=
  settings.newSession ⟨id, eventId, some participantId, .completed, some finishedAt⟩ now createdAt

end DeploymentSettings

/-- `bind_search_capability`: `none` when the expiry of the capability overflows. -/
def RetainedSession.bindCapability (settings : DeploymentSettings) (digests : Digests)
    (call : IssueCall) (row : RetainedSession) : Option RetainedSession :=
  (addSeconds call.now settings.searchCapabilityTtlSeconds).map fun expiresAt =>
    { row with
      expiresAt := expiresAt
      capabilityHash := some (digests.secretHash call.rawSecret)
      ownerBindingHash := some (digests.ownerBindingHash call.visitorId) }

/-- The columns that a capability is bound to are those of `bindSearchCapability`. -/
theorem RetainedSession.bindCapability_columns {settings : DeploymentSettings} {digests : Digests}
    {call : IssueCall} {row bound : RetainedSession} {ttlSeconds : Nat}
    (httl : settings.searchCapabilityTtlSeconds = ttlSeconds) (columns : SearchSessionRow)
    (h : row.bindCapability settings digests call = some bound) :
    let written := bindSearchCapability digests ttlSeconds call columns
    bound.expiresAt = written.expiresAt ∧ bound.capabilityHash = written.capabilityHash ∧
      bound.ownerBindingHash = written.ownerBindingHash := by
  obtain ⟨expiresAt, hexpiry, rfl⟩ := Option.map_eq_some_iff.mp h
  rw [addSeconds, httl] at hexpiry
  split at hexpiry
  · refine ⟨(Option.some.inj hexpiry).symm.trans ?_, rfl, rfl⟩
    rw [bindSearchCapability, issueSearchCapability, IssueCall.expiresAt, seconds]
    push_cast
    rfl
  · cases hexpiry

/-! ## Runs -/

/-- What happens to search sessions. -/
inductive RetentionEvent
  /-- `ingest_face_search_upload` of a file whose rows are committed; a file that comes with a
  session does not create one. -/
  | upload (searchSession : Option Uuid) (id eventId : Uuid) (participantId : Option Uuid)
    (now createdAt : Instant)
  | bibOnly (id eventId participantId : Uuid) (now createdAt finishedAt : Instant)
  | bind (call : IssueCall)
  /-- The purge, or the deletion of what the session belongs to. -/
  | delete (ids : List Uuid)

namespace RetentionEvent

variable (settings : DeploymentSettings) (digests : Digests)

/-- One event: `none` when it raises or cannot happen. A capability is bound at the time its session
is created. -/
def step (sessions : RetainedSessions) : RetentionEvent → Option RetainedSessions
  | upload (some _) _ _ _ _ _ => some sessions
  | upload none id eventId participantId now createdAt =>
    if now ≤ createdAt then
      (settings.selfieSession id eventId participantId now createdAt).bind sessions.insert?
    else none
  | bibOnly id eventId participantId now createdAt finishedAt =>
    if now ≤ createdAt then
      (settings.bibOnlySession id eventId participantId now createdAt finishedAt).bind
        sessions.insert?
    else none
  | bind call => do
    let row ← sessions.get? call.sessionId
    if call.now = row.createdAt then
      let bound ← row.bindCapability settings digests call
      return sessions.put bound
    else none
  | delete ids => some (sessions.deleteWhere fun row => ids.contains row.id)

/-- Several events. -/
def run (events : List RetentionEvent) : Option RetainedSessions :=
  events.foldlM (step settings digests) .empty

end RetentionEvent

/-- The row is due for `purge_expired_face_searches`. -/
def RetainedSession.isDue (row : RetainedSession) (now : ℤ) : Bool := decide (row.expiresAt ≤ now)

/-- The row expires within the retention time of its creation. -/
def RetainedSession.WithinRetention (settings : DeploymentSettings) (row : RetainedSession) :
    Prop :=
  row.expiresAt ≤ row.createdAt + settings.retentionSeconds * 1000000

/-- A row is due at the end of its retention time exactly when it expires within it. -/
theorem RetainedSession.isDue_iff {settings : DeploymentSettings} {row : RetainedSession} :
    row.isDue (row.createdAt + settings.retentionSeconds * 1000000) = true ↔
      row.WithinRetention settings :=
  decide_eq_true_iff

/-! ## The bound -/

theorem eq_of_addSeconds {now : Instant} {delta expiresAt : ℤ}
    (h : addSeconds now delta = some expiresAt) :
    expiresAt = now + delta * 1000000 ∧ expiresAt ≤ datetimeMax := by
  rw [addSeconds] at h
  split at h
  next hrange =>
    rw [← Option.some.inj h]
    exact ⟨rfl, hrange.2⟩
  next => cases h

/-- The settings bound the life of a search: the capability expires within the retention time, or
its expiry always overflows. -/
def DeploymentSettings.BoundsRetention (settings : DeploymentSettings) : Prop :=
  settings.searchCapabilityTtlSeconds ≤ settings.retentionSeconds ∨
    253402300799 < settings.searchCapabilityTtlSeconds

section Bound

variable {settings : DeploymentSettings} {digests : Digests}

/-- A new session expires within the retention time. -/
theorem withinRetention_newSession {searchSession : FaceSearchSession} {now createdAt : Instant}
    {row : RetainedSession} (hnow : now ≤ createdAt)
    (h : settings.newSession searchSession now createdAt = some row) :
    row.WithinRetention settings := by
  obtain ⟨expiresAt, hexpiry, rfl⟩ := Option.map_eq_some_iff.mp h
  have hexpiresAt := (eq_of_addSeconds hexpiry).1
  have hnow := Int.ofNat_le.mpr hnow
  change expiresAt ≤ createdAt + settings.retentionSeconds * 1000000
  omega

/-- Binding keeps a session within the retention time when the settings bound it. -/
theorem withinRetention_bindCapability (hbounds : settings.BoundsRetention) {call : IssueCall}
    {row bound : RetainedSession} (hnow : call.now = row.createdAt)
    (h : row.bindCapability settings digests call = some bound) :
    bound.WithinRetention settings := by
  obtain ⟨expiresAt, hexpiry, rfl⟩ := Option.map_eq_some_iff.mp h
  obtain ⟨hexpiresAt, hmax⟩ := eq_of_addSeconds hexpiry
  rw [hnow] at hexpiresAt
  change expiresAt ≤ row.createdAt + settings.retentionSeconds * 1000000
  rw [datetimeMax] at hmax
  rcases hbounds with hle | hoverflow <;> omega

/-- One event keeps all sessions within the retention time. -/
theorem RetentionEvent.withinRetention_step (hbounds : settings.BoundsRetention)
    {sessions sessions' : RetainedSessions} {event : RetentionEvent}
    (hsessions : ∀ row ∈ sessions.rows, row.WithinRetention settings)
    (h : event.step settings digests sessions = some sessions') :
    ∀ row ∈ sessions'.rows, row.WithinRetention settings := by
  have hinsert {searchSession : FaceSearchSession} {now createdAt : Instant}
      (hstep : (if now ≤ createdAt then
        (settings.newSession searchSession now createdAt).bind sessions.insert? else none) =
          some sessions') : ∀ row ∈ sessions'.rows, row.WithinRetention settings := by
    split at hstep
    next hnow =>
      obtain ⟨new, hnew, hinsert⟩ := Option.bind_eq_some_iff.mp hstep
      intro row hrow
      rw [Table.rows_of_insert? hinsert] at hrow
      rcases List.mem_append.mp hrow with hold | hrow
      · exact hsessions row hold
      · rw [List.mem_singleton.mp hrow]
        exact withinRetention_newSession hnow hnew
    next => cases hstep
  cases event with
  | upload searchSession id eventId participantId now createdAt =>
    cases searchSession with
    | some _ =>
      rw [← Option.some.inj h]
      exact hsessions
    | none => exact hinsert h
  | bibOnly id eventId participantId now createdAt finishedAt => exact hinsert h
  | bind call =>
    obtain ⟨row, hget, hbind⟩ := Option.bind_eq_some_iff.mp h
    split at hbind
    next hnow =>
      obtain ⟨bound, hbound, hput⟩ := Option.bind_eq_some_iff.mp hbind
      intro row' hrow'
      rw [← Option.some.inj hput] at hrow'
      rcases Table.mem_put.mp hrow' with ⟨rfl, -⟩ | ⟨hold, -⟩
      · exact withinRetention_bindCapability hbounds hnow hbound
      · exact hsessions row' hold
    next => cases hbind
  | delete ids =>
    rw [← Option.some.inj h]
    exact fun row hrow => hsessions row (Table.mem_deleteWhere.mp hrow).1

/-- Every run keeps all sessions within the retention time when the settings bound it. -/
theorem RetentionEvent.withinRetention_run (hbounds : settings.BoundsRetention)
    {events : List RetentionEvent} {sessions : RetainedSessions}
    (h : run settings digests events = some sessions) :
    ∀ row ∈ sessions.rows, row.WithinRetention settings := by
  have hrun (before : RetainedSessions) (events : List RetentionEvent)
      (hbefore : ∀ row ∈ before.rows, row.WithinRetention settings)
      (h : events.foldlM (step settings digests) before = some sessions) :
      ∀ row ∈ sessions.rows, row.WithinRetention settings := by
    induction events generalizing before with
    | nil =>
      rw [← Option.some.inj h]
      exact hbefore
    | cons event events ih =>
      obtain ⟨next, hstep, hrest⟩ := Option.bind_eq_some_iff.mp h
      exact ih next (withinRetention_step hbounds hbefore hstep) hrest
  exact hrun .empty events (fun _ hrow => absurd hrow List.not_mem_nil) h

/-- A session that is created and bound at time `0`. -/
def boundAtOnce : List RetentionEvent :=
  [.upload none 1 1 none 0 0, .bind ⟨1, 1, "visitor".toList, List.replicate 32 5, 0⟩]

/-- A capability that outlives the retention time takes its session with it. -/
theorem RetentionEvent.exists_not_withinRetention (h : ¬settings.BoundsRetention) :
    ∃ sessions, run settings digests boundAtOnce = some sessions ∧
      ∃ row ∈ sessions.rows, ¬row.WithinRetention settings := by
  rw [DeploymentSettings.BoundsRetention, not_or, not_le, not_lt] at h
  have hretention : 3600 ≤ settings.retentionSeconds := by
    rw [DeploymentSettings.retentionSeconds]
    omega
  have hexpiry {delta : ℤ} (hlow : 0 ≤ delta) (hhigh : delta ≤ 253402300799) :
      addSeconds 0 delta = some (delta * 1000000) := by
    rw [addSeconds, datetimeMin, datetimeMax, if_pos (by omega), Nat.cast_zero, zero_add]
  let created : RetainedSession :=
    ⟨⟨1, 1, none, .queued, none⟩, 0, settings.retentionSeconds * 1000000, none, none⟩
  have hcreated : settings.selfieSession 1 1 none 0 0 = some created := by
    rw [DeploymentSettings.selfieSession, DeploymentSettings.newSession,
      hexpiry (by omega) (by omega)]
    rfl
  let call : IssueCall := ⟨1, 1, "visitor".toList, List.replicate 32 5, 0⟩
  let bound : RetainedSession :=
    { created with
      expiresAt := settings.searchCapabilityTtlSeconds * 1000000
      capabilityHash := some (digests.secretHash call.rawSecret)
      ownerBindingHash := some (digests.ownerBindingHash call.visitorId) }
  have hbound : created.bindCapability settings digests call = some bound := by
    rw [RetainedSession.bindCapability, hexpiry (by omega) h.2]
    rfl
  let sessions : RetainedSessions := ⟨[created], List.nodup_singleton _⟩
  have hupload : step settings digests .empty (.upload none 1 1 none 0 0) = some sessions := by
    rw [step, if_pos (le_refl 0), hcreated]
    rfl
  have hbind : step settings digests sessions (.bind call) = some (sessions.put bound) := by
    have hget : sessions.get? call.sessionId = some created := rfl
    simp only [step, hget, Option.bind_eq_bind, Option.bind_some, hbound]
    rfl
  refine ⟨sessions.put bound, ?_, bound, ?_, ?_⟩
  · rw [run, boundAtOnce, List.foldlM_cons, hupload]
    change (step settings digests sessions (.bind call)).bind _ = _
    rw [hbind]
    rfl
  · exact Table.mem_put.mpr (Or.inl ⟨rfl, created, List.mem_singleton.mpr rfl, rfl⟩)
  · change ¬settings.searchCapabilityTtlSeconds * 1000000 ≤
      ((0 : Nat) : ℤ) + settings.retentionSeconds * 1000000
    omega

end Bound

/-- In every run all sessions expire within the retention time of their creation exactly when the
settings bound it. -/
theorem retention_bounded_iff {tools : ConfigTools} (settings : AcceptedSettings tools)
    (digests : Digests) :
    (∀ events sessions,
        RetentionEvent.run settings.toDeploymentSettings digests events = some sessions →
      ∀ row ∈ sessions.rows, row.WithinRetention settings.toDeploymentSettings) ↔
      settings.BoundsRetention := by
  constructor
  · intro hruns
    by_contra hbounds
    obtain ⟨sessions, hrun, row, hrow, hexceeds⟩ :=
      @RetentionEvent.exists_not_withinRetention _ digests hbounds
    exact hexceeds (hruns boundAtOnce sessions hrun row hrow)
  · intro hbounds events sessions hrun
    exact RetentionEvent.withinRetention_run hbounds hrun

/-- The conversions of one public origin. -/
def originTools : ConfigTools where
  context := ⟨Char.isAlpha, (· == '.')⟩
  urlsplit origin :=
    if origin = "https://race.example".toList then
      some ⟨"https".toList, "race.example".toList, [], [], [], [], []⟩
    else none
  repr text := ['"'] ++ text ++ ['"']

/-- A production deployment whose capabilities last for a week and whose searches are kept for a
day. -/
def weekSettings : AcceptedSettings originTools where
  environment := "production".toList
  databaseUrl := "postgresql://db/raceframe".toList
  appSecretKey := List.replicate 32 'k'
  workerApiToken := List.replicate 32 'w'
  metricsApiToken := List.replicate 32 'm'
  allowedHosts := ["race.example".toList]
  publicOrigins := ["https://race.example".toList]
  r2AccountId := "account".toList
  r2BucketName := "photos".toList
  r2Endpoint := "https://r2.example".toList
  r2AccessKeyId := "key".toList
  r2SecretAccessKey := "secret".toList
  maxPhotoUploadBytes := 26214400
  maxSelfieUploadBytes := 10485760
  maxPhotoBatchFiles := 50
  maxSelfieBatchFiles := 5
  maxFaceSearchBacklog := 100
  maxPhotoJobBacklog := 10000
  searchCapabilityTtlSeconds := 604800
  biometricRetentionHours := 24
  maxPhotoRequestBytes := 268435456
  maxFormRequestBytes := 2097152
  workerHeartbeatStaleSeconds := 120
  workerLeaseSeconds := 300
  workerMaxAttempts := 5
  workerRetryBaseSeconds := 10
  workerRetryMaxSeconds := 900
  deletionTaskRetentionDays := 7
  workerHeartbeatRetentionDays := 30
  accepted := by decide +kernel

theorem weekCapability_exceeds_retention :
    ∃ sessions, RetentionEvent.run weekSettings.toDeploymentSettings markerDigests boundAtOnce =
        some sessions ∧
      ∃ row ∈ sessions.rows, ¬row.WithinRetention weekSettings.toDeploymentSettings := by
  refine RetentionEvent.exists_not_withinRetention ?_
  rintro (h | h)
  · exact absurd h (by decide)
  · exact absurd h (by decide)

end RaceFrame
