import RaceFrame.Schema.Scalar

/-!
# Settings

The environment settings that the modelled functions read, and the bounds that
`worker_api` puts on its own before using them.
-/

namespace RaceFrame

/-- The fields of `Settings` that the model uses. -/
structure Settings (F : Type) where
  maxSearchResults : Nat
  maxSearchFacesPerEvent : Nat
  deletionRetryBatchSize : Nat
  workerLeaseSeconds : Nat
  workerRetryBaseSeconds : Nat
  workerRetryMaxSeconds : Nat
  faceMatchSimilarityThreshold : F
  faceCandidateSimilarityThreshold : F
  faceStrongSimilarityThreshold : F
  faceReinforcementSimilarityThreshold : F
  faceReinforcementMaxEmbeddings : Nat

namespace Settings

variable {F : Type} (cfg : Settings F)

/-- `WORKER_LEASE_SECONDS`. -/
def leaseSeconds : Nat := max 30 (min cfg.workerLeaseSeconds 3600)

/-- `WORKER_RETRY_BASE_SECONDS`. -/
def retryBaseSeconds : Nat := max 1 (min cfg.workerRetryBaseSeconds 3600)

/-- `WORKER_RETRY_MAX_SECONDS`. -/
def retryMaxSeconds : Nat := max cfg.retryBaseSeconds (min cfg.workerRetryMaxSeconds 86400)

/-- The settings of an empty environment. -/
def environment (F : Type) [Scalar F] : Settings F where
  maxSearchResults := 250
  maxSearchFacesPerEvent := 25000
  deletionRetryBatchSize := 100
  workerLeaseSeconds := 300
  workerRetryBaseSeconds := 10
  workerRetryMaxSeconds := 900
  faceMatchSimilarityThreshold := Scalar.ofRat (45 / 100)
  faceCandidateSimilarityThreshold := Scalar.ofRat (36 / 100)
  faceStrongSimilarityThreshold := Scalar.ofRat (50 / 100)
  faceReinforcementSimilarityThreshold := Scalar.ofRat (48 / 100)
  faceReinforcementMaxEmbeddings := 12

end Settings

end RaceFrame
