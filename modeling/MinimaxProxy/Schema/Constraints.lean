import MinimaxProxy.Schema.Tasks
import MinimaxProxy.Schema.Config
import MinimaxProxy.Text.Strings

/-!
# Constraints of the tables

For each table: which two rows may stand together (`fits`: primary keys, unique
indexes, and the row id order of `video_tasks` and `idempotency_keys`), the column
checks, the triggers and the foreign keys of `src/migrations`. `migration_v23.go:263`
relaxes the checks of `resolution` and `duration`. A digest column holds the text it
digests, so its length check is left out.
-/

namespace MinimaxProxy

/-! ## Unique indexes -/

def Task.fits (a b : Task) : Bool := a.queueSeq < b.queueSeq && a.taskID != b.taskID

def IdempotencyKey.fits (a b : IdempotencyKey) : Bool :=
  a.id < b.id && !(a.apiKeyID == b.apiKeyID && a.keyHash == b.keyHash)

/-- Rows under `uq_model_service_nodes_service_url_active`. -/
def Node.addressed (n : Node) : Bool := n.deletedAt.isNone && n.protocolVersion != .legacy

def Node.fits (a b : Node) : Bool :=
  a.id != b.id && !(a.addressed && b.addressed && a.serviceURL == b.serviceURL)

def Stage.fits (a b : Stage) : Bool := a.id != b.id && !(a.taskID == b.taskID && a.stageOrder == b.stageOrder)

def Attempt.fits (a b : Attempt) : Bool :=
  a.id != b.id && a.operationID != b.operationID && !(a.stageID == b.stageID && a.attemptNo == b.attemptNo)
    && !(a.nodeID == b.nodeID && a.executionID.isSome && a.executionID == b.executionID)

/-- Rows under `uq_artifact_locations_primary`. -/
def Location.primary (l : Location) : Bool := l.isPrimary && l.state == .active

def Location.fits (a b : Location) : Bool :=
  a.id != b.id && !(a.nodeID == b.nodeID && a.nodeArtifactID == b.nodeArtifactID)
    && !(a.artifactID == b.artifactID && a.primary && b.primary)

def DeletionItem.fits (a b : DeletionItem) : Bool :=
  a.id != b.id && a.operationID != b.operationID && !(a.jobID == b.jobID && a.locationID == b.locationID)

def CallbackDelivery.fits (a b : CallbackDelivery) : Bool :=
  a.id != b.id && !(a.taskID == b.taskID && a.stateVersion == b.stateVersion)

def APIKey.fits (a b : APIKey) : Bool :=
  a.id != b.id && a.name.toLower != b.name.toLower && a.keyDigest != b.keyDigest

def Profile.fits (a b : Profile) : Bool := a.id != b.id && a.resolutionKey != b.resolutionKey

def Barrier.fits (a b : Barrier) : Bool := a.nodeID != b.nodeID && a.cancelOperationID != b.cancelOperationID

def SpoolFile.fits (a b : SpoolFile) : Bool :=
  a.id != b.id && !(a.taskID == b.taskID && a.contentIndex == b.contentIndex)

def UploadJob.fits (a b : UploadJob) : Bool := a.id != b.id && a.taskID != b.taskID && a.objectKey != b.objectKey

def NodeModel.fits (a b : NodeModel) : Bool := !(a.nodeID == b.nodeID && a.modelID == b.modelID)

def RemoteRun.fits (a b : RemoteRun) : Bool :=
  a.taskID != b.taskID && a.submissionKey != b.submissionKey
    && !(a.nodeID == b.nodeID && a.upstreamTaskID.isSome && a.upstreamTaskID == b.upstreamTaskID)

def NodeAsset.fits (a b : NodeAsset) : Bool :=
  !(a.taskID == b.taskID && a.nodeID == b.nodeID && a.contentIndex == b.contentIndex)

/-! ## Column checks -/

/-- A `ready` task names a protocol and its routing snapshot names the same one
(triggers `validate_video_tasks_route_insert` and `validate_video_tasks_route_update`). -/
def Task.routed (t : Task) : Bool :=
  t.routeState != .ready ||
    (match t.protocolVersion, t.routingSnapshotJSON with
      | some p, some doc => p != .other "" && doc.protocol == some p
      | _, _ => false)

/-- Row ids are handed out from 1 on (`AUTOINCREMENT`). -/
def Task.check (seq : Nat) (t : Task) : Bool :=
  1 ≤ t.queueSeq && t.queueSeq ≤ seq && ["t2va", "i2va", "r2va"].contains t.scenario && t.resolution.length ≤ 32 && 0 < t.duration
    && 0 ≤ t.retryCount && t.retryCount ≤ 1 && 0 ≤ t.upstreamNodeVersion && t.routed

def Node.check (n : Node) : Bool :=
  1 ≤ n.id.length && n.id.length ≤ 64 && n.serviceURL != "" && 1 ≤ n.healthPath.length && n.healthPath.length ≤ 256
    && 1000 ≤ n.pollIntervalMs && n.pollIntervalMs ≤ 300000
    && 1000 ≤ n.requestTimeoutMs && n.requestTimeoutMs ≤ 300000
    && 1 ≤ n.version && 1 ≤ n.maxConcurrency && n.maxConcurrency ≤ 100
    && (if n.protocolVersion == .legacy then
          n.apiKeyCiphertext.isNone && n.apiKeyNonce.isNone && n.apiKeyFingerprint.isNone && n.apiKeyID.isNone
        else n.apiKeyCiphertext.isSome && n.apiKeyNonce.isSome && n.apiKeyFingerprint.isSome && n.apiKeyID.isSome)

def Stage.check (s : Stage) : Bool :=
  0 ≤ s.stageOrder && 0 ≤ s.attemptCount && 1 ≤ s.maxAttempts && 1 ≤ s.rowVersion

def DeletionJob.check (j : DeletionJob) : Bool :=
  0 ≤ j.totalCount && 0 ≤ j.succeededCount && 0 ≤ j.failedCount && 0 ≤ j.skippedCount
    && 0 ≤ j.candidateBytes && 0 ≤ j.deletedBytes && j.olderThanDays.all fun d => 1 ≤ d && d ≤ 3650

def APIKey.check (k : APIKey) : Bool :=
  1 ≤ (Text.trim [' '] k.name.toList).length && (Text.trim [' '] k.name.toList).length ≤ 128
    && 4 ≤ k.keyPrefix.length && k.keyPrefix.length ≤ 16
    && 4 ≤ k.keySuffix.length && k.keySuffix.length ≤ 16 && 1 ≤ k.version

def Profile.check (p : Profile) : Bool :=
  1 ≤ p.resolutionKey.length && p.resolutionKey.length ≤ 32 && p.configHash != "" && 1 ≤ p.rowVersion

def Barrier.check (b : Barrier) : Bool :=
  b.operationID != "" && b.cancelOperationID != "" && 0 ≤ b.retryCount && 0 ≤ b.nextRetryAt && 1 ≤ b.rowVersion

def SpoolFile.check (f : SpoolFile) : Bool :=
  f.id != "" && ["image_url", "video_url", "audio_url"].contains f.contentType && f.role != ""
    && f.sourceKind == "data_uri" && f.mediaType != "" && f.extension != "" && f.relativePath != ""
    && f.objectURL.all (fun u => u.length > 8 && u.toLower.toList.take 8 == "https://".toList) && 0 < f.sizeBytes

def UploadJob.check (j : UploadJob) : Bool :=
  j.id != "" && j.objectKey != "" && 1 ≤ j.roundNo && 0 ≤ j.attemptNo && j.attemptNo ≤ 3 && j.maxAttempts == 3
    && 0 ≤ j.bytesUploaded && 1 ≤ j.version

def ObjectStorageConfig.check (c : ObjectStorageConfig) : Bool :=
  c.provider == "ucloud-us3" && 1 ≤ c.bucketName.length && c.bucketName.length ≤ 63 && c.fileHost != ""
    && c.publicBaseURL != "" && 1000 ≤ c.requestTimeoutMs && c.requestTimeoutMs ≤ 1800000
    && ["untested", "passed", "failed"].contains c.lastTestStatus && 1 ≤ c.version

def ModelRoute.check (r : ModelRoute) : Bool :=
  1 ≤ r.modelID.length && r.modelID.length ≤ 128 && 1 ≤ r.version
    && (r.selectionMode == .unresolved) == r.protocolVersion.isNone && r.protocolVersion != some (.other "")

/-- A prepared or submitted run, and a terminal one with a submit attempt, has its body. -/
def RemoteRun.check (r : RemoteRun) : Bool :=
  r.submissionKey != "" && r.upstreamTaskID != some "" && 0 ≤ r.submitAttempts
    && ((!(r.phase == .prepared || r.phase == .submitIntent || r.phase == .submitted)
          && !(r.phase == .terminal && 0 < r.submitAttempts))
        || (r.requestBodyJSON.isSome && r.requestBodyHash.isSome))
    && (r.phase != .submitted || r.upstreamTaskID.isSome)

def NodeAsset.check (a : NodeAsset) : Bool :=
  0 ≤ a.contentIndex && a.assetID != "" && 0 < a.sizeBytes
    && ((a.contentType == "image_url" && ["first_frame", "last_frame", "reference_image"].contains a.role)
      || (a.contentType == "video_url" && a.role == "reference_video")
      || (a.contentType == "audio_url" && a.role == "reference_audio"))

/-! ## Triggers -/

/-- `validate_video_tasks_route_*`, `protect_video_tasks_original_result_url` and
`protect_video_tasks_route`. -/
def Task.trigger (old : Option Task) (new : Task) : Option String :=
  if !new.routed then some "ready task requires matching routing snapshot"
  else match old with
    | none => none
    | some o =>
      if o.resultInternalURL.isSome && new.resultInternalURL != o.resultInternalURL then
        some "result_internal_url is immutable"
      else if o.routeState == .ready && o.protocolVersion.isSome
          && (new.protocolVersion != o.protocolVersion || new.routingSnapshotJSON != o.routingSnapshotJSON
            || new.routeState != o.routeState || new.requestNormalizer != o.requestNormalizer) then
        some "task routing snapshot is immutable"
      else none

/-- Phases under which the submission is evidence: an intent to submit was recorded. -/
def RemotePhase.evident (p : RemotePhase) : Bool := p == .submitIntent || p == .submitted || p == .terminal

/-- `protect_remote_submission` (023_multi_model_protocol_routing.sql:104). -/
def RemoteRun.trigger (old : Option RemoteRun) (new : RemoteRun) : Option String :=
  match old with
  | none => none
  | some o =>
    if (o.phase.evident && (new.nodeID != o.nodeID || new.submissionKey != o.submissionKey
          || new.requestBodyJSON != o.requestBodyJSON || new.requestBodyHash != o.requestBodyHash
          || new.phase == .preparing || new.phase == .prepared))
        || (o.phase == .submitted && new.phase == .submitIntent)
        || (o.phase == .terminal && new.phase != .terminal)
        || (o.upstreamTaskID.isSome && new.upstreamTaskID != o.upstreamTaskID)
        || new.submitAttempts < o.submitAttempts then
      some "remote submission evidence is immutable"
    else none

end MinimaxProxy
