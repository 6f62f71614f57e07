import MinimaxProxy.Store.Routing

/-!
# Official tasks

`official_task_store.go`: the claim of a `minimax-v2` task, the baseline that marks its
submission, and its end. `now` is in milliseconds.
-/

namespace MinimaxProxy.Store
open Sql Sql.Prog

/-- A task the node works on for the official service. -/
def officialActive (taskID nodeID : String) (t : Task) : Bool :=
  t.taskID == taskID && t.upstreamID == some nodeID && t.upstreamSlotActive
    && t.protocolVersion == some .official && t.routeState == .ready

/-- `SaveOfficialSubmissionBaseline` (official_task_store.go:13). -/
def saveOfficialSubmissionBaseline (taskID nodeID : String) (taskIDs : List String) (now : Int) : Call Unit := direct do
  let n ← exec (.update Tbl.videoTasks
    (fun _ (t : Task) => officialActive taskID nodeID t && t.status == .dispatching)
    fun _ (t : Task) =>
      { t with upstreamJobsBeforeJSON := .value taskIDs, officialSubmissionBaselineSaved := true
               updatedAt := unix now, version := t.version + 1 })
  oneRow n

/-- The row a task claimed by an official node becomes. -/
def officialClaimedTask (node : Node) (now : Int) (t : Task) : Task :=
  { t with
    status := .dispatching, cancelLocked := true, upstreamID := some node.id, upstreamSlotActive := true
    upstreamNodeVersion := node.version, deliveryRequired := node.replaceResultURL
    dispatchSnapshotJSON := some (.value
      { nodeID := node.id, nodeVersion := node.version, protocolVersion := .official, serviceURL := node.serviceURL
        upstreamModel := if node.legacyModelCompat then node.upstreamModel else t.model })
    startedAt := t.startedAt <|> some now, attemptStartedAt := some now, updatedAt := now, version := t.version + 1 }

/-- `ClaimNextOfficial` (official_task_store.go:47); `now` is in seconds. -/
def claimNextOfficialBody (o : Options) (nodeID : String) (nodeVersion capacity now : Int) : Prog Task := do
  let node ← query fun (db : Database) => (db.nodes.find? fun n => n.id == nodeID && n.version == nodeVersion && n.enabled
    && n.deletedAt.isNone && n.protocolVersion == .official).elim (.error .nodeConfigStale) .ok
  let active ← select fun (db : Database) => (db.tasks.filter fun t =>
    t.upstreamID == some nodeID && t.upstreamSlotActive).length
  require ((active : Int) < min capacity node.maxConcurrency) .upstreamBusy
  takeTask o nodeID now (officialClaimedTask node now)

def claimNextOfficial (o : Options) (nodeID : String) (nodeVersion capacity now : Int) : Call Task :=
  if capacity < 1 then direct (.fail .upstreamBusy)
  else immediate (claimNextOfficialBody o nodeID nodeVersion capacity (unix now))

/-- `BindOfficialTask` (official_task_store.go:99). -/
def bindOfficialTask (taskID nodeID upstreamTaskID : String) (now : Int) : Call Unit := direct do
  let n ← exec (.update Tbl.videoTasks
    (fun _ (t : Task) => officialActive taskID nodeID t && t.status == .dispatching)
    fun _ (t : Task) =>
      { t with upstreamJobID := some upstreamTaskID, status := .running, updatedAt := unix now, version := t.version + 1 })
  oneRow n

/-- The row a task whose video was generated becomes. -/
def officialGeneratedTask (originURL ratio : String) (delivers : Bool) (now : Int) (t : Task) : Task :=
  { t with
    status := if delivers then .reconciling else .succeeded
    resultInternalURL := some originURL
    resultPublicURL := if delivers then none else nullEmpty originURL
    ratioActual := some ratio, usageTotalSeconds := t.duration, usageOutputSeconds := t.duration
    upstreamSlotActive := false, finishedAt := if delivers then none else some now
    updatedAt := now, version := t.version + 1 }

/-- `MarkOfficialGenerated` (official_task_store.go:106). -/
def markOfficialGeneratedBody (taskID nodeID originURL ratio : String) (uploadJob : Option UploadJob) (callbackID : String)
    (now : Int) : Prog Unit := do
  let n ← exec (.update Tbl.videoTasks
    (fun _ (t : Task) => officialActive taskID nodeID t && (t.status == .dispatching || t.status == .running))
    fun _ t => officialGeneratedTask originURL ratio uploadJob.isSome (unix now) t)
  oneRow n
  let _ ← exec (.update Tbl.taskStages
    (fun _ (s : Stage) => s.taskID == taskID && !(s.status == .succeeded || s.status == .skipped))
    fun _ (s : Stage) =>
      { s with status := if s.stageType = .generation then .succeeded else .skipped, leaseToken := none
               leaseExpiresAt := none, nextAttemptAt := none, updatedAt := now
               finishedAt := s.finishedAt <|> some now, rowVersion := s.rowVersion + 1 })
  match uploadJob with
  | some job => do
    let _ ← exec (.insert Tbl.resultUploadJobs fun _ _ =>
      [{ id := job.id, taskID := taskID, objectKey := job.objectKey, status := .pending, createdAt := now, updatedAt := now }])
  | none => createCallbackDelivery callbackID taskID "succeeded" now

def markOfficialGenerated (taskID nodeID originURL ratio : String) (uploadJob : Option UploadJob) (callbackID : String)
    (now : Int) : Call Unit :=
  immediate (markOfficialGeneratedBody taskID nodeID originURL ratio uploadJob callbackID now)

/-- `MarkOfficialFailed` (official_task_store.go:132). -/
def markOfficialFailedBody (taskID nodeID code message : String) (feedback : Option UpstreamFeedback) (callbackID : String)
    (now : Int) : Prog Unit := do
  let n ← exec (.update Tbl.videoTasks
    (fun _ (t : Task) => officialActive taskID nodeID t && (t.status == .dispatching || t.status == .running))
    fun _ (t : Task) =>
      { t with status := .failed, errorCode := some code, errorMessage := some message
               upstreamFeedbackJSON := feedback.map .value, upstreamSlotActive := false, finishedAt := some (unix now)
               updatedAt := unix now, version := t.version + 1 })
  oneRow n
  let _ ← exec (.update Tbl.taskStages
    (fun _ (s : Stage) => s.taskID == taskID && !(s.status == .succeeded || s.status == .skipped))
    fun _ (s : Stage) =>
      { s with status := .failed, errorCode := some code, errorMessage := some message, leaseToken := none
               leaseExpiresAt := none, updatedAt := now, finishedAt := some now, rowVersion := s.rowVersion + 1 })
  createCallbackDelivery callbackID taskID "failed" now

def markOfficialFailed (taskID nodeID code message : String) (feedback : Option UpstreamFeedback) (callbackID : String)
    (now : Int) : Call Unit :=
  immediate (markOfficialFailedBody taskID nodeID code message feedback callbackID now)

end MinimaxProxy.Store
