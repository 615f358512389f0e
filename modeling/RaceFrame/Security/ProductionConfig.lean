import Mathlib.Data.List.Infix
import RaceFrame.Core.Bytes
import RaceFrame.Text.Lower

/-!
# Production configuration

`validate_production_configuration`, which refuses to boot with unsafe settings.
What `urlsplit` and `repr` compute is a parameter.
-/

namespace RaceFrame

open Core

/-- The fields of `Settings` that the validation and the retention of searches read. -/
structure DeploymentSettings where
  environment : Text
  databaseUrl : Text
  appSecretKey : Text
  workerApiToken : Text
  metricsApiToken : Text
  allowedHosts : List Text
  publicOrigins : List Text
  r2AccountId : Text
  r2BucketName : Text
  r2Endpoint : Text
  r2AccessKeyId : Text
  r2SecretAccessKey : Text
  maxPhotoUploadBytes : ℤ
  maxSelfieUploadBytes : ℤ
  maxPhotoBatchFiles : ℤ
  maxSelfieBatchFiles : ℤ
  maxFaceSearchBacklog : ℤ
  maxPhotoJobBacklog : ℤ
  searchCapabilityTtlSeconds : ℤ
  biometricRetentionHours : ℤ
  maxPhotoRequestBytes : ℤ
  maxFormRequestBytes : ℤ
  workerHeartbeatStaleSeconds : ℤ
  workerLeaseSeconds : ℤ
  workerMaxAttempts : ℤ
  workerRetryBaseSeconds : ℤ
  workerRetryMaxSeconds : ℤ
  deletionTaskRetentionDays : ℤ
  workerHeartbeatRetentionDays : ℤ

/-- The parts of `urlsplit(origin)` that the validation reads; a part that is missing is empty. -/
structure SplitUrl where
  scheme : Text
  hostname : Text
  path : Text
  query : Text
  fragment : Text
  username : Text
  password : Text

/-- What the validation takes from the standard library. -/
structure ConfigTools where
  context : CaseContext
  /-- `urlsplit`: `none` when it raises `ValueError`. -/
  urlsplit : Text → Option SplitUrl
  /-- `repr` of a text. -/
  repr : Text → Text

/-- What the validation raises. -/
inductive ConfigError
  | runtimeError (message : Text)
  | valueError
  deriving DecidableEq

/-- `PRODUCTION_ENVIRONMENTS`. -/
def productionEnvironments : List Text :=
  ["production".toList, "prod".toList, "staging".toList]

/-- `KNOWN_ENVIRONMENTS`. -/
def knownEnvironments : List Text :=
  productionEnvironments ++ ["development".toList, "dev".toList, "test".toList]

namespace DeploymentSettings

variable (tools : ConfigTools) (settings : DeploymentSettings)

/-- `is_production`. -/
def isProduction : Bool := productionEnvironments.contains settings.environment

/-- `settings.database_url.lower().startswith("sqlite")`. -/
def usesSqlite : Bool := "sqlite".toList.isPrefixOf (lower tools.context settings.databaseUrl)

/-- A problem that a condition reports. -/
def problemIf (condition : Bool) (problem : Text) : List Text :=
  if condition then [problem] else []

/-- The problems with secrets, the database and the hosts. -/
def secretProblems : List Text :=
  problemIf (settings.usesSqlite tools)
      "DATABASE_URL must use a production database, not SQLite".toList ++
    problemIf ((encodeUtf8 settings.appSecretKey).length < 32)
      "RACEFRAME_SECRET_KEY must contain at least 32 bytes".toList ++
    problemIf ((encodeUtf8 settings.workerApiToken).length < 32)
      "WORKER_API_TOKEN must contain at least 32 bytes".toList ++
    problemIf ((encodeUtf8 settings.metricsApiToken).length < 32)
      "METRICS_API_TOKEN must contain at least 32 bytes".toList ++
    problemIf (settings.allowedHosts.isEmpty || settings.allowedHosts.any fun host =>
        host.contains '*' || decide ("://".toList <:+: host) || host.contains '/')
      "ALLOWED_HOSTS must contain explicit hostnames".toList ++
    problemIf settings.publicOrigins.isEmpty
      "PUBLIC_ORIGINS must contain the public HTTPS origin".toList

/-- The problems with a public origin; `none` when `urlsplit` raises. -/
def originProblems (origin : Text) : Option (List Text) :=
  (tools.urlsplit origin).map fun parsed =>
    if parsed.scheme != "https".toList || parsed.hostname.isEmpty ||
        !(parsed.path.isEmpty || parsed.path == ['/']) || !parsed.query.isEmpty ||
        !parsed.fragment.isEmpty || !parsed.username.isEmpty || !parsed.password.isEmpty then
      ["PUBLIC_ORIGINS contains an invalid production origin: ".toList ++ tools.repr origin]
    else
      problemIf
        (!(settings.allowedHosts.map (lower tools.context)).contains
          (lower tools.context parsed.hostname))
        ("PUBLIC_ORIGINS host is missing from ALLOWED_HOSTS: ".toList ++
          tools.repr parsed.hostname)

/-- `r2_values`. -/
def r2Values : List (Text × Text) :=
  [("CLOUDFLARE_R2_ACCOUNT_ID".toList, settings.r2AccountId),
    ("CLOUDFLARE_R2_BUCKET_NAME".toList, settings.r2BucketName),
    ("CLOUDFLARE_R2_ENDPOINT".toList, settings.r2Endpoint),
    ("CLOUDFLARE_R2_ACCESS_KEY_ID".toList, settings.r2AccessKeyId),
    ("CLOUDFLARE_R2_SECRET_ACCESS_KEY".toList, settings.r2SecretAccessKey)]

/-- The problems with the object storage. -/
def r2Problems : List Text :=
  let missing := (settings.r2Values.filter (·.2.isEmpty)).map (·.1)
  problemIf (!missing.isEmpty)
      ("R2 configuration is incomplete: ".toList ++ List.intercalate ", ".toList missing) ++
    problemIf (!settings.r2Endpoint.isEmpty &&
        !"https://".toList.isPrefixOf (lower tools.context settings.r2Endpoint))
      "CLOUDFLARE_R2_ENDPOINT must use HTTPS".toList

/-- `positive_limits`. -/
def positiveLimits : List (Text × ℤ) :=
  [("MAX_PHOTO_UPLOAD_BYTES".toList, settings.maxPhotoUploadBytes),
    ("MAX_SELFIE_UPLOAD_BYTES".toList, settings.maxSelfieUploadBytes),
    ("MAX_PHOTO_BATCH_FILES".toList, settings.maxPhotoBatchFiles),
    ("MAX_SELFIE_BATCH_FILES".toList, settings.maxSelfieBatchFiles),
    ("MAX_FACE_SEARCH_BACKLOG".toList, settings.maxFaceSearchBacklog),
    ("MAX_PHOTO_JOB_BACKLOG".toList, settings.maxPhotoJobBacklog),
    ("SEARCH_CAPABILITY_TTL_SECONDS".toList, settings.searchCapabilityTtlSeconds),
    ("MAX_PHOTO_REQUEST_BYTES".toList, settings.maxPhotoRequestBytes),
    ("MAX_FORM_REQUEST_BYTES".toList, settings.maxFormRequestBytes),
    ("WORKER_HEARTBEAT_STALE_SECONDS".toList, settings.workerHeartbeatStaleSeconds),
    ("WORKER_LEASE_SECONDS".toList, settings.workerLeaseSeconds),
    ("WORKER_MAX_ATTEMPTS".toList, settings.workerMaxAttempts),
    ("WORKER_RETRY_BASE_SECONDS".toList, settings.workerRetryBaseSeconds),
    ("WORKER_RETRY_MAX_SECONDS".toList, settings.workerRetryMaxSeconds),
    ("DELETION_TASK_RETENTION_DAYS".toList, settings.deletionTaskRetentionDays),
    ("WORKER_HEARTBEAT_RETENTION_DAYS".toList, settings.workerHeartbeatRetentionDays)]

/-- The problems with the limits. -/
def limitProblems : List Text :=
  ((settings.positiveLimits.filter fun limit => decide (limit.2 ≤ 0)).map fun limit =>
      limit.1 ++ " must be positive".toList) ++
    problemIf (!decide (30 ≤ settings.workerLeaseSeconds ∧ settings.workerLeaseSeconds ≤ 3600))
      "WORKER_LEASE_SECONDS must be between 30 and 3600".toList ++
    problemIf (!decide (1 ≤ settings.workerMaxAttempts ∧ settings.workerMaxAttempts ≤ 20))
      "WORKER_MAX_ATTEMPTS must be between 1 and 20".toList ++
    problemIf
      (!decide (1 ≤ settings.workerRetryBaseSeconds ∧ settings.workerRetryBaseSeconds ≤ 3600))
      "WORKER_RETRY_BASE_SECONDS must be between 1 and 3600".toList ++
    problemIf (!decide (settings.workerRetryBaseSeconds ≤ settings.workerRetryMaxSeconds ∧
        settings.workerRetryMaxSeconds ≤ 86400))
      "WORKER_RETRY_MAX_SECONDS must be between the retry base and 86400".toList

/-- `validate_production_configuration`. -/
def validateProductionConfiguration : Except ConfigError Unit := do
  if !knownEnvironments.contains settings.environment then
    throw (.runtimeError ("Unknown APP_ENV value: ".toList ++ tools.repr settings.environment))
  if !settings.isProduction then
    let looksDeployed := !settings.usesSqlite tools && !settings.r2BucketName.isEmpty
    if looksDeployed && ["development".toList, "dev".toList].contains settings.environment then
      throw (.runtimeError "APP_ENV must explicitly identify a deployed environment.".toList)
  else
    let origins ← (settings.publicOrigins.mapM (settings.originProblems tools)).elim
      (.error .valueError) .ok
    let problems := settings.secretProblems tools ++ origins.flatten ++ settings.r2Problems tools ++
      settings.limitProblems
    if !problems.isEmpty then
      throw (.runtimeError ("Unsafe production configuration:\n- ".toList ++
        List.intercalate "\n- ".toList problems))

end DeploymentSettings

/-- Settings with which the program boots. -/
structure AcceptedSettings (tools : ConfigTools) extends DeploymentSettings where
  accepted : toDeploymentSettings.validateProductionConfiguration tools = .ok ()

end RaceFrame
