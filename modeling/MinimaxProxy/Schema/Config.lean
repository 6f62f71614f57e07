import MinimaxProxy.Domain.Types

/-!
# Rows of nodes, models, artifacts and settings

The remaining tables of `src/migrations`. Ciphertexts, nonces and digests are text;
`connection_fingerprint` is kept as the text whose SHA-256 it is. Of
`profile_test_runs` and `model_request_profiles`, which no operation writes, only the
keys by which foreign keys reach them are kept.
-/

namespace MinimaxProxy

/-- A row of `model_service_nodes`. -/
structure Node where
  id : String
  serviceURL : String
  protocolVersion : Protocol
  apiKeyCiphertext : Option String := none
  apiKeyNonce : Option String := none
  apiKeyFingerprint : Option String := none
  apiKeyID : Option String := none
  healthPath : String := "/internal/v1/health"
  pollIntervalMs : Int := 3000
  requestTimeoutMs : Int := 30000
  enabled : Bool := true
  version : Int := 1
  createdAt : Int
  updatedAt : Int
  deletedAt : Option Int := none
  baseURL : String := ""
  jobsBaseURL : String := ""
  publicBaseURL : String := ""
  submitAPIName : String := "submit_minimax_from_slots"
  checkAPIName : String := "check_and_get_video"
  upstreamModel : String := ""
  maxConcurrency : Int := 1
  replaceResultURL : Bool := false
  legacyModelCompat : Bool := false

/-- A row of `node_model_catalogs`. -/
structure Catalog where
  nodeID : String
  source : CatalogSource
  revision : Int := 1
  connectionFingerprint : String
  lastStatus : CatalogStatus
  lastAttemptAt : Option Int := none
  lastSuccessAt : Option Int := none
  validUntil : Option Int := none
  lastErrorCode : String := ""
  createdAt : Int
  updatedAt : Int

/-- A row of `node_models`. -/
structure NodeModel where
  nodeID : String
  modelID : String
  enabled : Bool := false
  present : Bool := true
  capabilitiesJSON : Doc ModelCapability
  verified : Bool := false
  createdAt : Int
  updatedAt : Int

/-- A row of `model_routes`. -/
structure ModelRoute where
  modelID : String
  protocolVersion : Option Protocol
  selectionMode : SelectionMode
  version : Int := 1
  updatedBy : String := "system"
  createdAt : Int
  updatedAt : Int

/-- The one row of `routing_state`. -/
structure RoutingState where
  revision : Int := 1
  instanceID : String
  updatedAt : Int

/-- A row of `node_config_bootstrap` or `api_key_config_bootstrap`. -/
structure Bootstrap where
  source : String
  importedCount : Int
  completedAt : Int

/-- A row of `external_api_keys`. -/
structure APIKey where
  id : String
  name : String
  keyPlaintext : Option String
  keyDigest : String
  keyPrefix : String
  keySuffix : String
  enabled : Bool := true
  version : Int := 1
  createdAt : Int
  updatedAt : Int

/-- A row of `request_profiles`. -/
structure Profile where
  id : String
  resolution : String
  resolutionKey : String
  configJSON : String
  configHash : String
  createdBy : String
  updatedBy : String
  createdAt : Int
  updatedAt : Int
  rowVersion : Int := 1

/-- A row of `model_request_profiles`, the profiles before migration 13. -/
structure RetiredProfile where
  id : String

/-- A row of `profile_test_runs`. -/
structure ProfileTestRun where
  id : String
  nodeID : Option String
  artifactID : Option String

/-- A row of `task_artifacts`. -/
structure Artifact where
  id : String
  taskID : String
  stageID : Option String := none
  kind : ArtifactKind
  sizeBytes : Int := 0
  sha256 : Option String := none
  mediaJSON : Option String := none
  state : ArtifactState := .active
  createdAt : Int
  expiresAt : Int
  deletedAt : Option Int := none

/-- A row of `artifact_locations`. -/
structure Location where
  id : String
  artifactID : String
  nodeID : String
  nodeArtifactID : String
  storageKeyFingerprint : Option String := none
  state : ArtifactState := .active
  isPrimary : Bool := false
  sizeBytes : Int := 0
  sha256 : String
  createdAt : Int
  verifiedAt : Option Int := none
  deletedAt : Option Int := none

/-- A row of `artifact_deletion_jobs`. -/
structure DeletionJob where
  id : String
  reason : DeletionReason
  status : DeletionJobStatus := .pending
  scope : String := "managed_task_artifacts"
  olderThanDays : Option Int := none
  cutoffAt : Option Int := none
  previewTokenHash : Option String := none
  dryRun : Bool := false
  requestedBy : String
  totalCount : Int := 0
  succeededCount : Int := 0
  failedCount : Int := 0
  skippedCount : Int := 0
  candidateBytes : Int := 0
  deletedBytes : Int := 0
  createdAt : Int
  startedAt : Option Int := none
  finishedAt : Option Int := none
  updatedAt : Int
  errorSummary : Option String := none

/-- A row of `artifact_deletion_items`. -/
structure DeletionItem where
  id : String
  jobID : String
  artifactID : String
  locationID : String
  nodeID : String
  status : DeletionItemStatus := .pending
  operationID : String
  attemptCount : Int := 0
  nextAttemptAt : Option Int := none
  leaseToken : Option String := none
  leaseExpiresAt : Option Int := none
  lastErrorCode : Option String := none
  lastErrorMessage : Option String := none
  deletedBytes : Int := 0
  createdAt : Int
  updatedAt : Int
  deletedAt : Option Int := none

/-- The one row of `object_storage_configs`. -/
structure ObjectStorageConfig where
  provider : String
  bucketName : String
  fileHost : String
  publicBaseURL : String
  uploadBase64Inputs : Bool := false
  publicKeyCiphertext : String
  publicKeyNonce : String
  publicKeyFingerprint : String
  privateKeyCiphertext : String
  privateKeyNonce : String
  privateKeyFingerprint : String
  requestTimeoutMs : Int
  lastTestStatus : String := "untested"
  lastTestedAt : Option Int := none
  version : Int := 1
  createdAt : Int
  updatedAt : Int

end MinimaxProxy
