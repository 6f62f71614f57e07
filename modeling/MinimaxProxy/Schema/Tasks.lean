import MinimaxProxy.Domain.Types

/-!
# Rows of tasks, stages and remote runs

One structure per table of `src/migrations`, with the columns the modelled
operations read or write, under their names; a nullable column is an `Option` and a
column default is the field's default. The columns `task_type` and `modality` of
`video_tasks` are constant and left out.
-/

namespace MinimaxProxy

/-- A row of `video_tasks`. -/
structure Task where
  queueSeq : Nat
  taskID : String
  apiKeyID : String
  model : String := "MiniMax-H3"
  scenario : String := "t2va"
  requestJSON : RequestDoc
  requestHash : String := ""
  status : TaskStatus := .queuedOpen
  cancelLocked : Bool := false
  upstreamID : Option String := none
  gradioEventID : Option String := none
  upstreamJobID : Option String := none
  upstreamSlotActive : Bool := false
  upstreamNodeVersion : Int := 0
  deliveryRequired : Bool := false
  upstreamJobsBeforeJSON : Doc (List String) := .value []
  officialSubmissionBaselineSaved : Bool := false
  retryCount : Int := 0
  attemptStartedAt : Option Int := none
  cancelRequestedAt : Option Int := none
  galleryBeforeJSON : Option String := none
  resultInternalURL : Option String := none
  resultPublicURL : Option String := none
  resolution : String := ""
  duration : Int := 4
  ratioRequested : String := "adaptive"
  ratioActual : Option String := none
  usageTotalSeconds : Int := 0
  usageInputSeconds : Int := 0
  usageOutputSeconds : Int := 0
  usageInputImageCount : Int := 0
  errorCode : Option String := none
  errorMessage : Option String := none
  upstreamFeedbackJSON : Option (Doc UpstreamFeedback) := none
  createdAt : Int
  updatedAt : Int
  startedAt : Option Int := none
  finishedAt : Option Int := none
  expiresAt : Int
  deletedAt : Option Int := none
  version : Int := 0
  profileID : Option String := none
  profileVersion : Option Int := none
  configSnapshotJSON : Option String := none
  configHash : Option String := none
  activeStageID : Option String := none
  resultArtifactID : Option String := none
  deletionState : DeletionState := .notRequested
  callbackURLCiphertext : Option String := none
  callbackURLNonce : Option String := none
  protocolVersion : Option Protocol := none
  routeState : RouteState := .awaitingRoute
  routingSnapshotJSON : Option SnapshotDoc := none
  dispatchSnapshotJSON : Option (Doc DispatchSnapshot) := none
  requestNormalizer : String := "legacy-h3-v1"
  routingWaitReason : String := ""
  latestResultURL : Option String := none
  latestResultExpiresAt : Option Int := none
  resultMetadataJSON : Option String := none
  metadataStatus : MetadataStatus := .none

/-- A row of `idempotency_keys`. -/
structure IdempotencyKey where
  id : Nat
  apiKeyID : String
  keyHash : String
  requestHash : String
  taskID : String
  createdAt : Int
  expiresAt : Int

/-- A row of `task_stages`. -/
structure Stage where
  id : String
  taskID : String
  stageOrder : Int
  stageType : StageType
  required : Bool := true
  status : StageStatus := .pending
  attemptCount : Int := 0
  maxAttempts : Int
  preferredNodeID : Option String := none
  currentNodeID : Option String := none
  inputArtifactID : Option String := none
  outputArtifactID : Option String := none
  configSnapshotJSON : String := ""
  leaseToken : Option String := none
  leaseExpiresAt : Option Int := none
  nextAttemptAt : Option Int := none
  errorCode : Option String := none
  errorMessage : Option String := none
  createdAt : Int
  updatedAt : Int
  startedAt : Option Int := none
  finishedAt : Option Int := none
  rowVersion : Int := 1

/-- A row of `stage_attempts`. -/
structure Attempt where
  id : String
  stageID : String
  attemptNo : Int
  operationID : String
  nodeID : String
  executionID : Option String := none
  status : AttemptStatus
  inputArtifactID : Option String := none
  outputArtifactID : Option String := none
  mediaBeforeJSON : Option String := none
  mediaAfterJSON : Option String := none
  requestSnapshotJSON : Option String := none
  errorCode : Option String := none
  errorMessage : Option String := none
  startedAt : Int
  heartbeatAt : Option Int := none
  finishedAt : Option Int := none

/-- A row of `node_dispatch_barriers`. -/
structure Barrier where
  nodeID : String
  taskID : String
  stageID : String
  attemptID : String
  operationID : String
  executionID : Option String := none
  cancelOperationID : String
  lastErrorCode : Option String := none
  retryCount : Int := 0
  nextRetryAt : Int := 0
  createdAt : Int
  updatedAt : Int
  rowVersion : Int := 1

/-- A row of `task_remote_runs`. -/
structure RemoteRun where
  taskID : String
  nodeID : String
  phase : RemotePhase
  submissionKey : String
  requestBodyJSON : Option String := none
  requestBodyHash : Option String := none
  upstreamTaskID : Option String := none
  upstreamStatus : Option RemoteStatus := none
  cancelState : CancelState := .none
  reconciliationRequired : Bool := false
  submitAttempts : Int := 0
  leaseToken : Option String := none
  leaseExpiresAt : Option Int := none
  nextPollAt : Option Int := none
  lastErrorCode : String := ""
  createdAt : Int
  updatedAt : Int
deriving DecidableEq

/-- A row of `task_node_assets`. -/
structure NodeAsset where
  taskID : String
  nodeID : String
  contentIndex : Int
  assetID : String
  contentType : String
  role : String
  sourceSHA256 : String
  sizeBytes : Int
  metadataJSON : String
  createdAt : Int
  updatedAt : Int

/-- A row of `task_input_spool_files`. -/
structure SpoolFile where
  id : String
  taskID : String
  contentIndex : Nat
  contentType : String
  role : String
  sourceKind : String := "data_uri"
  declaredMIME : Option String := none
  detectedMIME : Option String := none
  mediaType : String
  extension : String
  relativePath : String
  objectURL : Option String := none
  sizeBytes : Int
  sha256 : String
  createdAt : Int
  updatedAt : Int

/-- A row of `result_upload_jobs`. -/
structure UploadJob where
  id : String
  taskID : String
  objectKey : String
  status : UploadStatus
  roundNo : Int := 1
  attemptNo : Int := 0
  maxAttempts : Int := 3
  nextAttemptAt : Option Int := none
  leaseToken : Option String := none
  leaseExpiresAt : Option Int := none
  publicURL : String := ""
  lastErrorCode : String := ""
  lastErrorMessage : String := ""
  bytesUploaded : Int := 0
  startedAt : Option Int := none
  finishedAt : Option Int := none
  createdAt : Int
  updatedAt : Int
  version : Int := 1

/-- A row of `callback_deliveries`. -/
structure CallbackDelivery where
  id : String
  taskID : String
  externalStatus : String
  stateVersion : Int
  status : CallbackStatus := .pending
  attemptCount : Int := 0
  nextAttemptAt : Option Int := none
  requestBodyHash : String
  requestBody : String := ""
  httpStatus : Option Int := none
  lastError : Option String := none
  leaseExpiresAt : Option Int := none
  createdAt : Int
  updatedAt : Int
  deliveredAt : Option Int := none

end MinimaxProxy
