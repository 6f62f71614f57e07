import MinimaxProxy.Sql.Program

/-!
# Domain types

The enumerations and errors of `internal/domain`, and the documents the store keeps
as JSON text. A JSON column is held as what `json.Unmarshal` makes of it: a value,
or `Doc.unreadable` when decoding fails. Times are `Int`: seconds or milliseconds, as
the column has them. A protocol name outside the four of `model_routing.go:11` is
`Protocol.other`.
-/

namespace MinimaxProxy

/-- `domain.Protocol*`; the column is free text. -/
inductive Protocol
  | h3 | official | tk2sd | legacy
  | other (name : String)
deriving DecidableEq

/-- `domain.InternalStatus` (task.go:22). -/
inductive TaskStatus
  | queuedOpen | queuedLocked | dispatching | running | reconciling | cancelling
  | succeeded | failed | cancelled
deriving DecidableEq

/-- `domain.V2Status`: what the public API shows. -/
inductive V2Status
  | queued | running | succeeded | failed | cancelled
deriving DecidableEq

namespace TaskStatus

def v2 : TaskStatus → V2Status
  | .queuedOpen | .queuedLocked => .queued
  | .dispatching | .running | .reconciling | .cancelling => .running
  | .succeeded => .succeeded
  | .failed => .failed
  | .cancelled => .cancelled

def isQueued (s : TaskStatus) : Bool := s == .queuedOpen || s == .queuedLocked

/-- Taken by a worker and not cancelling: `dispatching`, `running` or `reconciling`. -/
def isActive (s : TaskStatus) : Bool := s == .dispatching || s == .running || s == .reconciling

/-- Taken by a worker: active or cancelling. -/
def isTaken (s : TaskStatus) : Bool := s.isActive || s == .cancelling

/-- Not yet ended: what the limits of `Create` count. -/
def isUnfinished (s : TaskStatus) : Bool := s.isQueued || s.isTaken

def isTerminal (s : TaskStatus) : Bool := s == .succeeded || s == .failed || s == .cancelled

/-- `InternalStatus.CanCancel` (task.go:61). -/
def canCancel (s : TaskStatus) : Bool := s == .queuedOpen

/-- `InternalStatus.AdminCanCancel` (task.go:63). -/
def adminCanCancel (s : TaskStatus) : Bool := s.isQueued || s.isActive

/-- `InternalStatus.AdminCanDelete` (task.go:72). -/
def adminCanDelete (s : TaskStatus) : Bool := s.isTerminal

end TaskStatus

inductive RouteState
  | ready | awaitingRoute | migrationBlocked | legacyUnknown
deriving DecidableEq

inductive StageStatus
  | pending | leased | dispatching | running | validating | succeeded | failed | cancelled | skipped
deriving DecidableEq

inductive StageType
  | generation | interpolation | restoration | watermark | finalValidation
deriving DecidableEq

inductive AttemptStatus
  | dispatching | running | validating | succeeded | failed | unknown
deriving DecidableEq

/-- An attempt that has not ended: `dispatching`, `running`, `validating` or `unknown`. -/
def AttemptStatus.isOpen (s : AttemptStatus) : Bool :=
  s == .dispatching || s == .running || s == .validating || s == .unknown

/-- A stage that will not run again. -/
def StageStatus.isDone (s : StageStatus) : Bool :=
  s == .succeeded || s == .failed || s == .skipped || s == .cancelled

/-- `domain.Remote*`: the phases of a remote run (remote_task.go:6). -/
inductive RemotePhase
  | preparing | prepared | submitIntent | submitted | terminal
deriving DecidableEq

/-- What the remote service last said about a job. -/
inductive RemoteStatus
  | queued | running | succeeded | failed | cancelled
deriving DecidableEq

inductive CancelState
  | none | requested | confirmed | rejected
deriving DecidableEq

inductive UploadStatus
  | pending | uploading | retryWait | succeeded | failed
deriving DecidableEq

inductive CallbackStatus
  | pending | sending | retryWait | succeeded | failed
deriving DecidableEq

/-- `video_tasks.deletion_state`. -/
inductive DeletionState
  | notRequested | pending | partly | deleted | failed
deriving DecidableEq

/-- State of an artifact, or of one stored copy of it (`importing` only there). -/
inductive ArtifactState
  | importing | active | deletePending | deleting | deleted | deleteFailed | missing
deriving DecidableEq

/-- Nothing is left to delete. -/
def ArtifactState.isGone (s : ArtifactState) : Bool := s == .deleted || s == .missing

inductive ArtifactKind
  | audioSource | intermediateVideo | finalVideo | mediaManifest | testOutput
deriving DecidableEq

inductive DeletionReason
  | taskDelete | retention | manualCleanup | orphanCleanup
deriving DecidableEq

inductive DeletionJobStatus
  | preview | pending | running | partialFailed | succeeded | failed
deriving DecidableEq

inductive DeletionItemStatus
  | pending | deleting | retryWait | deleted | alreadyAbsent | skipped | failed
deriving DecidableEq

/-- The copy is gone from its node. -/
def DeletionItemStatus.isRemoved (s : DeletionItemStatus) : Bool := s == .deleted || s == .alreadyAbsent

/-- No worker will take the item again. -/
def DeletionItemStatus.isSettled (s : DeletionItemStatus) : Bool := s.isRemoved || s == .skipped || s == .failed

inductive CatalogSource
  | builtin | manual | discovered
deriving DecidableEq

inductive CatalogStatus
  | uninitialized | ready | empty | error
deriving DecidableEq

inductive SelectionMode
  | unresolved | auto | manual
deriving DecidableEq

inductive MetadataStatus
  | none | pending | ready | unavailable
deriving DecidableEq

/-! ## JSON documents -/

/-- A JSON column: the value it decodes to, or text that does not decode. -/
inductive Doc (α : Type)
  | value (a : α)
  | unreadable
deriving DecidableEq

/-- `domain.UpstreamFeedback`. -/
structure UpstreamFeedback where
  httpStatus : Int := 0
  code : String := ""
  type : String := ""
  message : String := ""
  resourceType : String := ""
  requestID : String := ""
deriving DecidableEq

structure MediaURL where
  url : String
deriving DecidableEq

structure GenerationContent where
  type : String
  text : String := ""
  imageURL : Option MediaURL := none
  videoURL : Option MediaURL := none
  audioURL : Option MediaURL := none
  role : String := ""
deriving DecidableEq

/-- `GenerationContent.Media` (generation_request.go:25). -/
def GenerationContent.media (c : GenerationContent) : Option MediaURL :=
  if c.type = "image_url" then c.imageURL
  else if c.type = "video_url" then c.videoURL
  else if c.type = "audio_url" then c.audioURL
  else none

/-- `domain.GenerationRequest`. -/
structure GenerationRequest where
  model : String
  content : List GenerationContent
  resolution : String := ""
  duration : Int := 0
  ratio : String := ""
  callbackURL : Option String := none
  aigcWatermark : Option Bool := none
deriving DecidableEq

/-- `domain.ModeCapability`. -/
structure ModeCapability where
  scenario : String
  durations : List Int
  roles : List String := []
deriving DecidableEq

/-- `domain.ModelCapability`. -/
structure ModelCapability where
  schemaVersion : Int := 0
  modes : List ModeCapability := []
  inputSources : List String := []
  resolutionPolicy : String := ""
  resolutions : List String := []
  maxMedia : Int := 0
deriving DecidableEq

/-- `domain.TaskRequirements`. -/
structure TaskRequirements where
  scenario : String
  duration : Int
  resolution : String := ""
  roles : List String := []
  inputSources : List String := []
  mediaCount : Int := 0
deriving DecidableEq

/-- `domain.RouteSnapshot`. -/
structure RouteSnapshot where
  schemaVersion : Int := 1
  model : String
  protocolVersion : Protocol
  routeVersion : Int := 0
  routingRevision : Int := 0
  selectionMode : String := ""
  parameterPlan : String := ""
  normalizerVersion : String := ""
  requirements : TaskRequirements
deriving DecidableEq

namespace ModelCapability

def supports (c : ModelCapability) (scenario : String) (duration : Int) : Bool :=
  c.modes.any fun m => m.scenario == scenario && m.durations.contains duration

/-- `ModelCapability.Accepts` (model_routing.go:71): the first mode of the scenario with
the duration decides on the roles. -/
def accepts (c : ModelCapability) (r : TaskRequirements) : Bool :=
  if !c.supports r.scenario r.duration || (c.maxMedia > 0 && r.mediaCount > c.maxMedia) then false
  else if !c.resolutions.isEmpty && !c.resolutions.contains r.resolution then false
  else if r.inputSources.any fun s => !c.inputSources.isEmpty && !c.inputSources.contains s then false
  else
    match c.modes.find? fun m => m.scenario == r.scenario && m.durations.contains r.duration with
    | none => false
    | some m => r.roles.all fun role => m.roles.isEmpty || m.roles.contains role

end ModelCapability

/-- The `dispatch_snapshot_json` document. -/
structure DispatchSnapshot where
  schemaVersion : Int := 1
  nodeID : String
  nodeVersion : Int
  protocolVersion : Protocol
  serviceURL : String
  upstreamModel : String
deriving DecidableEq

/-- The `request_json` column: a decoded request, or a document that `json.Unmarshal` refuses.
SQLite may still find in it whether an item refers to a file of the official service. -/
inductive RequestDoc
  | value (r : GenerationRequest)
  | unreadable (officialFile : Option Bool)
deriving DecidableEq

/-- The `routing_snapshot_json` column: a decoded snapshot, or a document that
`json.Unmarshal` refuses, of which only the `protocol_version` field is seen by SQL. -/
inductive SnapshotDoc
  | value (s : RouteSnapshot)
  | unreadable (protocol : Option Protocol)
deriving DecidableEq

/-- `json_extract(routing_snapshot_json,'$.protocol_version')`. -/
def SnapshotDoc.protocol : SnapshotDoc → Option Protocol
  | .value s => some s.protocolVersion
  | .unreadable p => p

/-! ## Errors -/

/-- The errors store operations return. Sentinel errors are those of `internal/domain` and
`internal/store/sqlite`. -/
inductive Err
  | taskNotFound | taskNotOperable | idempotencyConflict | perKeyLimit | globalLimit | upstreamBusy
  | queueEmpty | stateConflict | resourceUnavailable | cancelReconcilePending | officialRunningNotCancellable
  | nodeNotFound | nodeIDConflict | nodeVersionConflict | nodeHasActiveTask | nodeMustBeDisabled
  | nodeConfigStale | nodeDisabled
  | unsupportedModel | routeAmbiguous | routeUnavailable | routeChanged | catalogConflict | modelInput
  | profileNotFound | profileVersionConflict | profileKeyConflict | noCompatibleNode | invalidProfileConfig
  | remotePending | remoteReconciliation | remoteNotCancellable | resultRefreshUnavailable
  | objectStorageNotFound | objectStorageVersionConflict | resultUploadNotFound | resultUploadNotRetryable
  | apiKeyNotFound | apiKeyNameConflict | apiKeyDigestConflict | apiKeyVersionConflict | apiKeyInUse
  | noCallbackDelivery | deletionNotFound | noClaimableDeletion | noClaimableStage | artifactNotFound
  | cleanupPreviewStale | cleanupNotFound | cleanupNotRetryable | barrierNotFound | barrierConflict
  /-- `sql.ErrNoRows`. -/
  | noRows
  /-- A column that does not decode. -/
  | decode
  /-- The engine refuses a statement. -/
  | sqlite (v : Sql.Violation)
  /-- Any other failure of a statement: the context ended, the disk is full. -/
  | io (message : String)
  /-- An error built with `fmt.Errorf`. -/
  | other (message : String)
deriving DecidableEq

instance : Sql.OfViolation Err := ⟨.sqlite⟩

end MinimaxProxy
