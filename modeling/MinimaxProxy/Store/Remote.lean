import MinimaxProxy.Store.Catalog

/-!
# Remote runs

`remote_task_store.go`: the claim of a `tk2sd-v1` task, the lease on its remote run and
the operations that only the lease holder may make. Times are in seconds. The body hash
column holds the body itself (a digest stands for the text it digests).
-/

namespace MinimaxProxy.Store
open Sql Sql.Prog

/-- The run of a task. -/
def findRun (db : Database) (taskID : String) : Option RemoteRun := db.remoteRuns.find? (·.taskID == taskID)

/-- `GetRemoteRun` (remote_task_store.go:26). -/
def getRemoteRun (taskID : String) (db : Database) : Except Err RemoteRun :=
  (findRun db taskID).elim (.error .taskNotFound) .ok

/-! ## Claim -/

/-- `domain.TK2SDAdmission`. -/
structure Admission where
  capacity : Int
  occupied : Int
  cooling : Int
  queued : Int
  canDispatch : Bool
  leasedTaskIDs : List String

/-- The dashboard allows no new task. -/
def Admission.refuses (a : Admission) : Bool :=
  !a.canDispatch || a.queued > 0 || a.capacity < 1 || a.occupied < 0 || a.cooling < 0 || a.occupied > a.capacity
    || a.cooling > a.capacity - a.occupied

/-- Tasks of the node that hold a slot. -/
def slotHolders (nodeID : String) (db : Database) : List Task :=
  db.tasks.filter fun t => t.upstreamID == some nodeID && t.upstreamSlotActive

/-- Slot holders whose remote task the dashboard lists as leased. -/
def leasedHolders (nodeID : String) (a : Admission) (db : Database) : Nat :=
  ((slotHolders nodeID db).filter fun t => ((findRun db t.taskID).bind (·.upstreamTaskID)).any fun id =>
    id != "" && a.leasedTaskIDs.contains id).length

/-- What is left of `capacity` under the admission (remote_task_store.go:56). -/
def admissionRoom (nodeID : String) (capacity : Int) : List Admission → Prog Int
  | [] => pure capacity
  | [a] => do
    require (!a.refuses) .upstreamBusy
    let overlap ← select (leasedHolders nodeID a)
    require ((overlap : Int) ≤ a.occupied) .upstreamBusy
    pure (min capacity (a.capacity - a.occupied - a.cooling + overlap))
  | _ => .fail .stateConflict

/-- The rows of the claim query that the loop accepts (remote_task_store.go:99). -/
def remoteClaimable (nodeID fingerprint : String) (now : Int) (db : Database) (t : Task) : Bool :=
  t.protocolVersion == some .tk2sd && Waiting t && !t.upstreamSlotActive && t.expiresAt > now
    && (findRun db t.taskID).isNone
    && (db.catalogs.any fun c => c.nodeID == nodeID && c.lastSuccessAt.isSome && c.connectionFingerprint == fingerprint
      && (c.source != .discovered || c.validUntil.any (· > now)))
    && (match t.routingSnapshotJSON with
      | some (.value route) => route.model == t.model && route.protocolVersion == .tk2sd
        && db.nodeModels.any fun m => m.nodeID == nodeID && m.modelID == t.model && m.enabled && m.present
          && (match m.capabilitiesJSON with
            | .value caps => caps.accepts route.requirements
            | .unreadable => false)
      | _ => false)

/-- The row a task claimed by a remote node becomes. -/
def remoteClaimedTask (node : Node) (now : Int) (t : Task) : Task :=
  { t with
    status := .dispatching, cancelLocked := true, upstreamID := some node.id, upstreamSlotActive := true
    upstreamNodeVersion := node.version, deliveryRequired := node.replaceResultURL
    dispatchSnapshotJSON := some (.value
      { nodeID := node.id, nodeVersion := node.version, protocolVersion := .tk2sd, serviceURL := node.serviceURL
        upstreamModel := t.model })
    startedAt := t.startedAt <|> some now, attemptStartedAt := some now
    updatedAt := now, version := t.version + 1 }

/-- `ClaimNextRemote` (remote_task_store.go:30). -/
def claimNextRemoteBody (o : Options) (nodeID : String) (nodeVersion capacity : Int) (admission : List Admission)
    (now : Int) : Prog Task := do
  let node ← query fun (db : Database) => (db.nodes.find? fun n => n.id == nodeID && n.version == nodeVersion && n.enabled
    && n.deletedAt.isNone && n.protocolVersion == .tk2sd).elim (.error .nodeConfigStale) .ok
  let active ← select fun (db : Database) => (slotHolders nodeID db).length
  let capacity ← admissionRoom nodeID (min capacity node.maxConcurrency) admission
  require ((active : Int) < capacity) .upstreamBusy
  let fingerprint := catalogFingerprint .tk2sd node.serviceURL (node.apiKeyFingerprint.getD "")
  let t ← query fun (db : Database) =>
    (db.tasks.find? (remoteClaimable nodeID fingerprint now db)).elim (.error .queueEmpty) .ok
  require (t.taskID != "") .queueEmpty
  let instanceID ← query fun (db : Database) => match db.rows Tbl.routingState with
    | [] => .error .noRows
    | (r : RoutingState) :: _ => .ok r.instanceID
  let key := "proxy:" ++ instanceID ++ ":" ++ t.taskID
  require (!(instanceID == "" || key.utf8ByteSize > 200 || key.toList.any fun c => c == '\r' || c == '\n')) .stateConflict
  let n ← exec (.update Tbl.videoTasks (fun _ (r : Task) => r.taskID == t.taskID && r.status.isQueued)
    fun _ r => remoteClaimedTask node now r)
  oneRow n
  let _ ← exec (.insert Tbl.taskRemoteRuns fun _ _ =>
    [{ taskID := t.taskID, nodeID := nodeID, phase := .preparing, submissionKey := key, createdAt := now, updatedAt := now }])
  rebalance o now
  query (getWith t.apiKeyID t.taskID now)

def claimNextRemote (o : Options) (nodeID : String) (nodeVersion capacity : Int) (admission : List Admission)
    (now : Int) : Call Task :=
  if capacity < 1 then direct (.fail .upstreamBusy)
  else immediate (claimNextRemoteBody o nodeID nodeVersion capacity admission (unix now))

/-! ## Lease -/

/-- The task still occupies its slot on the node of the run. -/
def slotHeld (db : Database) (r : RemoteRun) : Bool :=
  db.tasks.any fun t => t.taskID == r.taskID && t.upstreamID == some r.nodeID && t.upstreamSlotActive && t.deletedAt.isNone

/-- `AcquireRemoteLease` (remote_task_store.go:181). -/
def acquireRemoteLeaseBody (taskID nodeID token : String) (ttl now : Int) : Prog RemoteRun := do
  let n ← exec (.update Tbl.taskRemoteRuns
    (fun db (r : RemoteRun) => r.taskID == taskID && r.nodeID == nodeID && r.phase != .terminal
      && !r.reconciliationRequired && r.leaseExpiresAt.getD 0 ≤ now && slotHeld db r)
    fun _ (r : RemoteRun) => { r with leaseToken := some token, leaseExpiresAt := some (now + ttl), updatedAt := now })
  oneRow n
  query (getRemoteRun taskID)

def acquireRemoteLease (taskID nodeID token : String) (ttl now : Int) : Call RemoteRun :=
  if token = "" ∨ ttl < 1 then direct (.fail .stateConflict)
  else immediate (acquireRemoteLeaseBody taskID nodeID token ttl (unix now))

/-- The stored run `s` is the one of the holder's copy `r`, under the holder's lease, which
has not expired. -/
def holds (r : RemoteRun) (now : Int) (s : RemoteRun) : Bool :=
  s.taskID == r.taskID && s.nodeID == r.nodeID && r.leaseToken.isSome && s.leaseToken == r.leaseToken
    && s.leaseExpiresAt.any (· > now)

/-- One guarded statement on the holder's run. -/
def leasedUpdate (r : RemoteRun) (now : Int) (guard : RemoteRun → Bool) (set : RemoteRun → RemoteRun) : Prog Unit := do
  let n ← exec (.update Tbl.taskRemoteRuns (fun _ (s : RemoteRun) => holds r now s && guard s) fun _ s => set s)
  oneRow n

/-- `RenewRemoteLease` (remote_task_store.go:198). -/
def renewRemoteLease (r : RemoteRun) (ttl now : Int) : Call Unit :=
  if ttl < 1 then direct (.fail .stateConflict)
  else direct (leasedUpdate r (unix now) (fun s => s.phase != .terminal)
    fun s => { s with leaseExpiresAt := some (unix now + ttl), updatedAt := unix now })

/-- `ReleaseRemoteLease` (remote_task_store.go:207). -/
def releaseRemoteLease (r : RemoteRun) (next : Int) (code : String) (reconcile : Bool) (now : Int) : Call Unit :=
  direct (leasedUpdate r (unix now) (fun s => s.phase != .terminal)
    fun s => { s with leaseToken := none, leaseExpiresAt := none, nextPollAt := some next, lastErrorCode := code
                      reconciliationRequired := reconcile, updatedAt := unix now })

/-! ## Submission -/

/-- `PrepareRemoteRequest` (remote_task_store.go:212); `valid` is `json.Valid(body)`. -/
def prepareRemoteRequest (r : RemoteRun) (body : String) (valid : Bool) (now : Int) : Call Unit :=
  if !valid then direct (.fail .stateConflict)
  else direct (leasedUpdate r (unix now) (fun s => s.phase == .preparing && s.cancelState == .none)
    fun s => { s with phase := .prepared, requestBodyJSON := some body, requestBodyHash := some body, updatedAt := unix now })

/-- `BeginRemoteSubmission` (remote_task_store.go:221). -/
def beginRemoteSubmission (r : RemoteRun) (now : Int) : Call Unit :=
  direct (leasedUpdate r (unix now)
    (fun s => !s.reconciliationRequired && (s.phase == .submitIntent || (s.phase == .prepared && s.cancelState == .none)))
    fun s => { s with phase := .submitIntent, submitAttempts := s.submitAttempts + 1, updatedAt := unix now })

/-- `BindRemoteTask` (remote_task_store.go:226). -/
def bindRemoteTaskBody (r : RemoteRun) (id : String) (now : Int) : Prog Unit := do
  leasedUpdate r now (fun s => s.phase == .submitIntent)
    fun s => { s with phase := .submitted, upstreamTaskID := some id, upstreamStatus := some .queued
                      lastErrorCode := "", updatedAt := now }
  let n ← exec (.update Tbl.videoTasks
    (fun _ (t : Task) => t.taskID == r.taskID && t.upstreamID == some r.nodeID && t.upstreamSlotActive && t.status.isTaken)
    fun _ (t : Task) =>
      { t with upstreamJobID := some id, status := if t.status = .cancelling then t.status else .running
               updatedAt := now, version := t.version + 1 })
  oneRow n

def bindRemoteTask (r : RemoteRun) (id : String) (now : Int) : Call Unit :=
  if id = "" then direct (.fail .stateConflict) else immediate (bindRemoteTaskBody r id (unix now))

/-- `ObserveRemoteTask` (remote_task_store.go:244). -/
def observeRemoteTaskBody (r : RemoteRun) (status : RemoteStatus) (cancelState : CancelState) (now : Int) : Prog Unit := do
  leasedUpdate r now (fun s => s.phase == .submitted)
    fun s => { s with upstreamStatus := some status
                      cancelState := if cancelState = .rejected then .rejected else s.cancelState, updatedAt := now }
  if cancelState = .rejected then do
    let _ ← exec (.update Tbl.videoTasks (fun _ (t : Task) => t.taskID == r.taskID && t.status == .cancelling)
      fun _ (t : Task) => { t with status := .running, updatedAt := now, version := t.version + 1 })

def observeRemoteTask (r : RemoteRun) (status : RemoteStatus) (cancelState : CancelState) (now : Int) : Call Unit :=
  if ¬ (status = .queued ∨ status = .running) then direct (.fail .stateConflict)
  else if cancelState = .confirmed then direct (.fail .stateConflict)
  else immediate (observeRemoteTaskBody r status cancelState (unix now))

/-! ## Cancellation -/

/-- The row a task becomes when its remote run is asked to cancel. -/
def cancellingTask (now : Int) (t : Task) : Task :=
  { t with status := .cancelling, cancelRequestedAt := t.cancelRequestedAt <|> some now, updatedAt := now
           version := t.version + 1 }

/-- `RequestRemoteCancel` (remote_task_store.go:266). -/
def requestRemoteCancelBody (taskID : String) (now : Int) : Prog Unit := do
  let r ← query (getRemoteRun taskID)
  if r.phase = .terminal then
    if r.upstreamStatus = some .cancelled then pure () else .fail .remoteNotCancellable
  else if r.upstreamStatus = some .running ∨ r.cancelState = .rejected then .fail .remoteNotCancellable
  else do
    let n ← exec (.update Tbl.videoTasks
      (fun _ (t : Task) => t.taskID == taskID && t.upstreamSlotActive && t.deletedAt.isNone && t.status.isTaken)
      fun _ t => cancellingTask now t)
    oneRow n
    let _ ← exec (.update Tbl.taskRemoteRuns (fun _ (s : RemoteRun) => s.taskID == taskID)
      fun _ (s : RemoteRun) => { s with cancelState := .requested, nextPollAt := none, updatedAt := now })

def requestRemoteCancel (taskID : String) (now : Int) : Call Unit := immediate (requestRemoteCancelBody taskID (unix now))

/-! ## Assets and completion -/

/-- `SaveRemoteAsset` (remote_task_store.go:301). A stored asset with the same place is only
touched when it is the same one. -/
def saveRemoteAsset (r : RemoteRun) (a : NodeAsset) (now : Int) : Call Unit :=
  if a.taskID ≠ r.taskID ∨ a.nodeID ≠ r.nodeID then direct (.fail .stateConflict)
  else direct do
    let a := { a with createdAt := unix now, updatedAt := unix now }
    let same := fun (b : NodeAsset) => b.taskID == a.taskID && b.nodeID == a.nodeID && b.contentIndex == a.contentIndex
    let equal := fun (b : NodeAsset) => b.assetID == a.assetID && b.contentType == a.contentType && b.role == a.role
      && b.sourceSHA256 == a.sourceSHA256 && b.sizeBytes == a.sizeBytes && b.metadataJSON == a.metadataJSON
    let allowed := fun (db : Database) => db.remoteRuns.any fun s =>
      holds r (unix now) s && s.phase == .preparing && s.cancelState == .none
    let n ← exec (.upsert Tbl.taskNodeAssets (fun db => if allowed db then some a else none) (fun _ b => same b)
      fun _ (b : NodeAsset) => if equal b then some { b with updatedAt := unix now } else none)
    oneRow n

/-- `domain.RemoteCompletion`; `metadataStatus` defaults to `none`. -/
structure RemoteCompletion where
  status : RemoteStatus
  resultURL : String := ""
  resultExpiresAt : Int := 0
  metadataJSON : String := ""
  metadataStatus : MetadataStatus := .none
  ratio : String := ""
  errorCode : String := ""
  errorMessage : String := ""
  feedback : Option UpstreamFeedback := none
  uploadJob : Option UploadJob := none

/-- The result still has to be delivered. -/
def RemoteCompletion.delivers (c : RemoteCompletion) : Bool := c.uploadJob.isSome && c.status == .succeeded

/-- The status of the task after the completion. -/
def RemoteCompletion.taskStatus (c : RemoteCompletion) : TaskStatus :=
  if c.delivers then .reconciling
  else match c.status with
    | .succeeded => .succeeded
    | .cancelled => .cancelled
    | _ => .failed

def RemoteStatus.name : RemoteStatus → String
  | .queued => "queued"
  | .running => "running"
  | .succeeded => "succeeded"
  | .failed => "failed"
  | .cancelled => "cancelled"

/-- The row a completed task becomes. -/
def remoteCompletedTask (c : RemoteCompletion) (now : Int) (t : Task) : Task :=
  { t with
    status := c.taskStatus, upstreamSlotActive := false
    resultInternalURL := t.resultInternalURL <|> nullEmpty c.resultURL
    resultPublicURL := if c.delivers then none else nullEmpty c.resultURL
    latestResultURL := nullEmpty c.resultURL, latestResultExpiresAt := nullZero c.resultExpiresAt
    resultMetadataJSON := nullEmpty c.metadataJSON, metadataStatus := c.metadataStatus, ratioActual := nullEmpty c.ratio
    errorCode := nullEmpty c.errorCode, errorMessage := nullEmpty c.errorMessage
    upstreamFeedbackJSON := c.feedback.map .value, finishedAt := if c.delivers then none else some now
    updatedAt := now, version := t.version + 1 }

/-- `CompleteRemoteRun` (remote_task_store.go:312); `ms` is the clock in milliseconds. -/
def completeRemoteRunBody (r : RemoteRun) (c : RemoteCompletion) (callbackID : String) (now ms : Int) : Prog Unit := do
  leasedUpdate r now (fun s => s.phase != .terminal)
    fun s => { s with phase := .terminal, upstreamStatus := some c.status
                      cancelState := if c.status = .cancelled then .confirmed
                        else if s.cancelState = .requested then .rejected else s.cancelState
                      leaseToken := none, leaseExpiresAt := none, nextPollAt := none, lastErrorCode := c.errorCode
                      updatedAt := now }
  let n ← exec (.update Tbl.videoTasks
    (fun _ (t : Task) => t.taskID == r.taskID && t.upstreamID == some r.nodeID && t.upstreamSlotActive
      && t.deletedAt.isNone && t.status.isTaken)
    fun _ t => remoteCompletedTask c now t)
  oneRow n
  match c.uploadJob with
  | some job =>
    if c.status = .succeeded then do
      require (job.taskID == r.taskID) .stateConflict
      let _ ← exec (.insert Tbl.resultUploadJobs fun _ _ =>
        [{ id := job.id, taskID := r.taskID, objectKey := job.objectKey, status := .pending, createdAt := ms, updatedAt := ms }])
    else createCallbackDelivery callbackID r.taskID (RemoteStatus.name c.status) ms
  | none => createCallbackDelivery callbackID r.taskID (RemoteStatus.name c.status) ms

def completeRemoteRun (r : RemoteRun) (c : RemoteCompletion) (callbackID : String) (now : Int) : Call Unit :=
  if c.status = .queued ∨ c.status = .running then direct (.fail .stateConflict)
  else if c.status = .succeeded ∧ c.resultURL = "" then direct (.fail .stateConflict)
  else immediate (completeRemoteRunBody r c callbackID (unix now) now)

/-- `UpdateRemoteResult` (remote_task_store.go:360). -/
def updateRemoteResult (taskID nodeID url : String) (expiresAt : Int) (metadataJSON : String)
    (metadataStatus : MetadataStatus) (now : Int) : Call Unit :=
  if metadataStatus = .none then direct (.fail .stateConflict)
  else direct do
    let n ← exec (.update Tbl.videoTasks
      (fun (db : Database) (t : Task) => t.taskID == taskID && t.upstreamID == some nodeID
        && t.protocolVersion == some .tk2sd && (t.status == .succeeded || t.status == .reconciling) && t.deletedAt.isNone
        && (findRun db taskID).any fun r => r.nodeID == nodeID && r.phase == .terminal && r.upstreamStatus == some .succeeded)
      fun _ (t : Task) =>
        { t with
          latestResultURL := nullEmpty url <|> t.latestResultURL
          latestResultExpiresAt := if url ≠ "" then nullZero expiresAt else t.latestResultExpiresAt
          resultMetadataJSON := nullEmpty metadataJSON <|> t.resultMetadataJSON
          metadataStatus := if t.metadataStatus = .ready then .ready else metadataStatus
          updatedAt := unix now, version := t.version + 1 })
    oneRow n

end MinimaxProxy.Store
