import Mathlib.Data.List.Sort
import MinimaxProxy.Store.Routing

/-!
# Stages and their attempts

`stage_store.go` and `dispatch_barrier.go`: a node claims a stage under a lease, records an
attempt before it submits, and ends it. Times are in milliseconds. In arguments, an empty
string of the source is `none`.
-/

namespace MinimaxProxy.Store
open Sql Sql.Prog

/-- Statuses of a stage that a node is working on. -/
def inFlight (s : StageStatus) : Bool := s == .dispatching || s == .running || s == .validating

/-- `CreateStages` (stage_store.go:61). -/
def createStagesBody (stages : List Stage) (now : Int) : Prog Unit :=
  forEach (fun (s : Stage) => do
    let _ ← exec (.insert Tbl.taskStages fun _ _ =>
      [{ id := s.id, taskID := s.taskID, stageOrder := s.stageOrder, stageType := s.stageType, maxAttempts := s.maxAttempts
         preferredNodeID := s.preferredNodeID, inputArtifactID := s.inputArtifactID
         configSnapshotJSON := s.configSnapshotJSON, createdAt := now, updatedAt := now }])) stages

def createStages (stages : List Stage) (now : Int) : Call Unit := immediate (createStagesBody stages now)

/-! ## Claim -/

/-- The media item refers to a file of the official service. -/
def officialFile (c : GenerationContent) : Bool :=
  ["image_url", "video_url", "audio_url"].contains c.type
    && (((c.imageURL <|> c.videoURL <|> c.audioURL).map (·.url)).getD "").toLower.toList.take 10 == "mm_file://".toList

/-- The `WHERE` clause of `claimStageCandidateSelect` (stage_store.go:57), up to the request
document. -/
def stageCandidate (nodeID : String) (now : Int) (db : Database) (s : Stage) (t : Task) : Bool :=
  t.taskID == s.taskID && t.deletedAt.isNone && t.routeState == .ready && t.protocolVersion == some .h3
    && (db.nodes.any fun n => n.id == nodeID && n.protocolVersion == .h3)
    && (t.status.isQueued || t.status.isActive)
    && ((s.status == .pending && s.attemptCount < s.maxAttempts) || (s.status == .leased && s.attemptCount ≤ s.maxAttempts)
      || inFlight s.status)
    && s.nextAttemptAt.all (· ≤ now) && s.leaseExpiresAt.all (· ≤ now)
    && s.preferredNodeID.all (· == nodeID) && (!inFlight s.status || s.currentNodeID == some nodeID)
    && !(db.attempts.any fun a => a.stageID == s.id && a.status.isOpen && a.nodeID != nodeID)
    && !(db.stages.any fun e => e.taskID == s.taskID && e.stageOrder < s.stageOrder
      && !(e.status == .succeeded || e.status == .skipped))

/-- A candidate of the claim: its stage, and its place in the order. -/
structure Candidate where
  id : String
  queueSeq : Nat
  stageOrder : Int

/-- `ORDER BY task.queue_seq,candidate.stage_order`. -/
def Candidate.le (a b : Candidate) : Bool :=
  a.queueSeq < b.queueSeq || (a.queueSeq == b.queueSeq && a.stageOrder ≤ b.stageOrder)

/-- The scan of a request for files of the official service by `json_each`, which fails on some
documents. -/
def officialFiles : RequestDoc → Option Bool
  | .value request => some (request.content.any officialFile)
  | .unreadable found => found

/-- The candidates of one task. -/
def taskCandidates (nodeID : String) (now : Int) (db : Database) (t : Task) : Except Err (List Candidate) :=
  let stages := db.stages.filter fun s => stageCandidate nodeID now db s t
  match officialFiles t.requestJSON with
  | none => if stages.isEmpty then .ok [] else .error .decode
  | some official => .ok (if official then [] else
      stages.map fun s => { id := s.id, queueSeq := t.queueSeq, stageOrder := s.stageOrder : Candidate })

/-- One page of candidates after a place in the order. -/
def candidatePage (nodeID : String) (now : Int) (queueSeq : Nat) (order : Int) (db : Database) :
    Except Err (List Candidate) := do
  let rows ← db.tasks.flatMapM (taskCandidates nodeID now db)
  .ok (((rows.filter fun c => c.queueSeq > queueSeq || (c.queueSeq == queueSeq && c.stageOrder > order)).insertionSort
    fun a b => Candidate.le a b).take 100)

/-- The stage with this id. -/
def findStage (db : Database) (id : String) : Option Stage := db.stages.find? (·.id == id)

/-- The body of the loop over one page: the stage, if the node takes it. An attempt that
was submitted is resumed by its node whatever the catalog now says. -/
def stageTaken (nodeID : String) (now : Int) (c : Candidate) : Prog (Option Stage) := do
  let s ← query fun (db : Database) => (findStage db c.id).elim (.error .noRows) .ok
  let active ← select fun (db : Database) => (db.attempts.filter fun a =>
    a.stageID == c.id && a.nodeID == nodeID && a.status.isOpen).length
  if active > 0 || (s.currentNodeID == some nodeID && inFlight s.status) then pure (some s)
  else do
    let t ← query fun (db : Database) => (findTask db s.taskID).elim (.error .noRows) scanTask
    let eligible ← taskEligibleForNode t nodeID (now / 1000)
    pure (if eligible then some s else none)

/-- The first candidate of a page that is taken. -/
def firstTaken (nodeID : String) (now : Int) : List Candidate → Prog (Option Stage)
  | [] => pure none
  | c :: rest => do
    match ← stageTaken nodeID now c with
    | some s => pure (some s)
    | none => firstTaken nodeID now rest

/-- The loop of `nextEligibleStage` from a page on; at most `pages` more are read. -/
def scanStagePages (nodeID : String) (now : Int) : Nat → List Candidate → Prog Stage
  | 0, batch => do
    match ← firstTaken nodeID now batch with
    | some s => pure s
    | none => .fail .noClaimableStage
  | pages + 1, batch => do
    match ← firstTaken nodeID now batch with
    | some s => pure s
    | none =>
      match batch.getLast? with
      | none => .fail .noClaimableStage
      | some c =>
        if batch.length < 100 then .fail .noClaimableStage
        else do
          let next ← query (candidatePage nodeID now c.queueSeq c.stageOrder)
          scanStagePages nodeID now pages next

/-- `nextEligibleStage` (stage_store.go:106). Each page is after the last, so the number of
stages bounds the number of pages. -/
def nextEligibleStage (nodeID : String) (now : Int) : Prog Stage := do
  let (batch, pages) ← query fun (db : Database) =>
    (candidatePage nodeID now 0 (-1) db).map fun batch => (batch, db.stages.length)
  scanStagePages nodeID now pages batch

/-- The row a claimed stage becomes. -/
def leasedStage (nodeID leaseToken : String) (leaseDuration now : Int) (s : Stage) : Stage :=
  { s with status := .leased, currentNodeID := some nodeID, leaseToken := some leaseToken
           leaseExpiresAt := some (now + leaseDuration), updatedAt := now, rowVersion := s.rowVersion + 1 }

/-- `ClaimStage` (stage_store.go:80). -/
def claimStageBody (nodeID leaseToken : String) (leaseDuration now : Int) : Prog Stage := do
  let blocked ← select fun (db : Database) => (db.barriers.filter (·.nodeID == nodeID)).length
  require (blocked == 0) .noClaimableStage
  let stage ← nextEligibleStage nodeID now
  orElse (do
    let n ← exec (.update Tbl.taskStages
      (fun _ (s : Stage) => s.id == stage.id && s.rowVersion == stage.rowVersion
        && (s.status == .pending || s.status == .leased || inFlight s.status) && s.leaseExpiresAt.all (· ≤ now))
      fun _ s => leasedStage nodeID leaseToken leaseDuration now s)
    oneRow n) fun _ => .fail .noClaimableStage
  query fun (db : Database) => (findStage db stage.id).elim (.error .noRows) .ok

def claimStage (nodeID leaseToken : String) (leaseDuration now : Int) : Call Stage :=
  immediate (claimStageBody nodeID leaseToken leaseDuration now)

/-- `RenewStageLease` (stage_store.go:164). -/
def renewStageLease (stageID leaseToken : String) (leaseDuration now : Int) : Call Unit := direct do
  let n ← exec (.update Tbl.taskStages
    (fun _ (s : Stage) => s.id == stageID && s.leaseToken == some leaseToken
      && (s.status == .leased || inFlight s.status) && s.leaseExpiresAt.any (· > now))
    fun _ (s : Stage) =>
      { s with leaseExpiresAt := some (now + leaseDuration), updatedAt := now, rowVersion := s.rowVersion + 1 })
  oneRow n

/-! ## Attempts -/

/-- The row of the parent task once an attempt is recorded. -/
def dispatchedTask (db : Database) (a : Attempt) (now : Int) (t : Task) : Task :=
  let node := db.nodes.find? (·.id == a.nodeID)
  { t with
    status := .dispatching, cancelLocked := true, upstreamID := some a.nodeID, activeStageID := some a.stageID
    attemptStartedAt := some (a.startedAt / 1000), startedAt := t.startedAt <|> some (a.startedAt / 1000)
    upstreamNodeVersion := (node.map (·.version)).getD 0
    dispatchSnapshotJSON := node.map fun n => .value
      { nodeID := n.id, nodeVersion := n.version, protocolVersion := n.protocolVersion, serviceURL := n.serviceURL
        upstreamModel := t.model }
    updatedAt := now / 1000, version := t.version + 1 }

/-- `CreateStageAttempt` (stage_store.go:170). -/
def createStageAttemptBody (o : Options) (attempt : Attempt) (leaseToken : String) (now : Int) : Prog Unit := do
  let (s, t) ← query fun (db : Database) =>
    match findStage db attempt.stageID with
    | none => .error .noRows
    | some s => (db.tasks.find? fun t => t.taskID == s.taskID && t.deletedAt.isNone).elim (.error .noRows) fun t => .ok (s, t)
  require (s.status == .leased && leaseToken != "" && leaseToken == s.leaseToken.getD ""
    && attempt.nodeID == s.currentNodeID.getD "" && t.status.adminCanCancel && s.leaseExpiresAt.getD 0 > now) .stateConflict
  let task ← query fun (db : Database) => (findTask db t.taskID).elim (.error .noRows) scanTask
  require (task.protocolVersion == some .h3) .stateConflict
  let eligible ← taskEligibleForNode task attempt.nodeID (now / 1000)
  require eligible .stateConflict
  require (attempt.attemptNo == s.attemptCount + 1 && attempt.attemptNo ≤ s.maxAttempts) (.other "阶段尝试序号冲突")
  let attempt := { attempt with startedAt := if attempt.startedAt = 0 then now else attempt.startedAt }
  let _ ← exec (.insert Tbl.stageAttempts fun _ _ => [attempt])
  let n ← exec (.update Tbl.taskStages (fun _ (u : Stage) => u.id == attempt.stageID && u.attemptCount == s.attemptCount)
    fun _ (u : Stage) =>
      { u with attemptCount := u.attemptCount + 1, updatedAt := attempt.startedAt, rowVersion := u.rowVersion + 1 })
  oneRow n
  -- The intent and the owner of the parent task are saved with the attempt.
  let n ← exec (.update Tbl.videoTasks (fun _ (u : Task) => u.taskID == t.taskID && u.routeState == .ready
      && u.protocolVersion == some .h3 && u.deletedAt.isNone)
    fun db u => dispatchedTask db attempt now u)
  oneRow n
  rebalance o (now / 1000)

def createStageAttempt (o : Options) (attempt : Attempt) (leaseToken : String) (now : Int) : Call Unit :=
  immediate (createStageAttemptBody o attempt leaseToken now)

/-- `BindStageExecution` (stage_store.go:221). Its result has no name: only a failed update
rolls back, every other error is returned past the variable that decides. -/
def bindStageExecutionBody (stageID leaseToken attemptID executionID callbackID : String) (now : Int) :
    Prog (Except Err Unit) := do
  let n ← exec (.update Tbl.stageAttempts
    (fun _ (a : Attempt) => a.id == attemptID && a.stageID == stageID && a.status.isOpen
      && a.executionID.all (· == executionID))
    fun _ (a : Attempt) => { a with executionID := some executionID, status := .running, heartbeatAt := some now })
  if n ≠ 1 then pure (.error .stateConflict)
  else do
    let n ← exec (.update Tbl.taskStages
      (fun _ (s : Stage) => s.id == stageID && s.leaseToken == some leaseToken && s.status == .leased)
      fun _ (s : Stage) =>
        { s with status := .running, updatedAt := now, startedAt := s.startedAt <|> some now, rowVersion := s.rowVersion + 1 })
    if n ≠ 1 then pure (.error .stateConflict)
    else do
      match ← attempt (query fun (db : Database) =>
        match findStage db stageID, db.attempts.find? (fun a => a.id == attemptID && a.stageID == stageID) with
        | some s, some a => .ok (s.taskID, a.nodeID)
        | _, _ => .error .noRows) with
      | .error e => pure (.error e)
      | .ok (taskID, nodeID) => do
        let n ← exec (.update Tbl.videoTasks
          (fun _ (t : Task) => t.taskID == taskID && t.deletedAt.isNone && (t.status.isQueued || t.status.isActive))
          fun _ (t : Task) =>
            { t with status := .running, upstreamID := some nodeID, activeStageID := some stageID
                     startedAt := t.startedAt <|> some (now / 1000), updatedAt := now / 1000, version := t.version + 1 })
        if n ≠ 1 then pure (.error .stateConflict)
        else attempt (createCallbackDelivery callbackID taskID "running" now)

def bindStageExecution (stageID leaseToken attemptID executionID callbackID : String) (now : Int) : Call Unit :=
  immediateShadowed (bindStageExecutionBody stageID leaseToken attemptID executionID callbackID now)

/-- `GetRunningStageAttempt` (stage_store.go:247): the last attempt of the leased stage. -/
def getRunningStageAttempt (stageID leaseToken : String) (db : Database) : Except Err Attempt :=
  (first (fun (a b : Attempt) => a.attemptNo > b.attemptNo) (db.attempts.filter fun a => a.stageID == stageID
    && db.stages.any fun s => s.id == a.stageID && s.leaseToken == some leaseToken)).elim (.error .noClaimableStage) .ok

/-- `completeStageWithConn` (stage_store.go:268). -/
def completeStageBody (stageID leaseToken attemptID : String) (outputArtifactID : Option String) (callbackID : String)
    (now : Int) : Prog Unit := do
  let n ← exec (.update Tbl.stageAttempts
    (fun _ (a : Attempt) => a.id == attemptID && a.stageID == stageID
      && (a.status == .running || a.status == .validating || a.status == .unknown))
    fun _ (a : Attempt) =>
      { a with status := .succeeded, outputArtifactID := outputArtifactID, heartbeatAt := some now, finishedAt := some now })
  oneRow n
  let n ← exec (.update Tbl.taskStages
    (fun _ (s : Stage) => s.id == stageID && s.leaseToken == some leaseToken && inFlight s.status)
    fun _ (s : Stage) =>
      { s with status := .succeeded, outputArtifactID := outputArtifactID, leaseToken := none, leaseExpiresAt := none
               updatedAt := now, finishedAt := some now, rowVersion := s.rowVersion + 1 })
  oneRow n
  let stage ← query fun (db : Database) => (findStage db stageID).elim (.error .noRows) .ok
  if outputArtifactID.isSome then do
    let _ ← exec (.update Tbl.taskStages
      (fun (db : Database) (s : Stage) => s.taskID == stage.taskID && s.status == .pending && s.stageOrder > stage.stageOrder
        && !(db.stages.any fun e => e.taskID == stage.taskID && e.stageOrder > stage.stageOrder && e.stageOrder < s.stageOrder))
      fun _ (s : Stage) => { s with inputArtifactID := outputArtifactID })
  let remaining ← select fun (db : Database) => (db.stages.filter fun s => s.taskID == stage.taskID
    && !(s.status == .succeeded || s.status == .skipped)).length
  if remaining = 0 then do
    let _ ← exec (.update Tbl.videoTasks (fun _ (t : Task) => t.taskID == stage.taskID && t.deletedAt.isNone)
      fun _ (t : Task) =>
        { t with status := .succeeded, resultArtifactID := outputArtifactID, activeStageID := none
                 usageTotalSeconds := t.duration, usageOutputSeconds := t.duration, finishedAt := some (now / 1000)
                 updatedAt := now / 1000, version := t.version + 1 })
    createCallbackDelivery callbackID stage.taskID "succeeded" now
  else do
    let _ ← exec (.update Tbl.videoTasks (fun _ (t : Task) => t.taskID == stage.taskID && t.deletedAt.isNone)
      fun _ (t : Task) =>
        { t with status := .running, upstreamID := none, activeStageID := none, updatedAt := now / 1000
                 version := t.version + 1 })
    createCallbackDelivery callbackID stage.taskID "running" now

def completeStage (stageID leaseToken attemptID : String) (outputArtifactID : Option String) (callbackID : String) (now : Int) :
    Call Unit :=
  immediate (completeStageBody stageID leaseToken attemptID outputArtifactID callbackID now)

/-- `FailStage` (stage_store.go:306). -/
def failStageBody (stageID leaseToken attemptID code message : String) (retryAt : Int) (terminal : Bool) (callbackID : String)
    (now : Int) : Prog Unit := do
  let _ ← exec (.update Tbl.stageAttempts (fun _ (a : Attempt) => a.id == attemptID && a.stageID == stageID)
    fun _ (a : Attempt) =>
      { a with status := .failed, errorCode := some code, errorMessage := some message, heartbeatAt := some now
               finishedAt := some now })
  let n ← exec (.update Tbl.taskStages (fun _ (s : Stage) => s.id == stageID && s.leaseToken == some leaseToken)
    fun _ (s : Stage) =>
      { s with status := if terminal then .failed else .pending, errorCode := some code, errorMessage := some message
               nextAttemptAt := if terminal then none else some retryAt, leaseToken := none, leaseExpiresAt := none
               updatedAt := now, finishedAt := if terminal then some now else none, rowVersion := s.rowVersion + 1 })
  oneRow n
  let stage ← query fun (db : Database) => (findStage db stageID).elim (.error .noRows) .ok
  if terminal then do
    let _ ← exec (.update Tbl.videoTasks (fun _ (t : Task) => t.taskID == stage.taskID && t.deletedAt.isNone)
      fun _ (t : Task) =>
        { t with status := .failed, errorCode := some code, errorMessage := some message, activeStageID := none
                 finishedAt := some (now / 1000), updatedAt := now / 1000, version := t.version + 1 })
    createCallbackDelivery callbackID stage.taskID "failed" now
  else do
    let _ ← exec (.update Tbl.videoTasks (fun _ (t : Task) => t.taskID == stage.taskID && t.deletedAt.isNone)
      fun _ (t : Task) =>
        { t with status := .running, upstreamID := none, activeStageID := none, updatedAt := now / 1000
                 version := t.version + 1 })

def failStage (stageID leaseToken attemptID code message : String) (retryAt : Int) (terminal : Bool) (callbackID : String)
    (now : Int) : Call Unit :=
  immediate (failStageBody stageID leaseToken attemptID code message retryAt terminal callbackID now)

/-! ## Dispatch barriers -/

/-- `barrierOneRow` (dispatch_barrier.go:84). -/
def barrierOneRow (n : Nat) : Prog Unit := if n = 1 then pure () else .fail .barrierConflict

/-- `BindBarrierExecution` (dispatch_barrier.go:42). -/
def bindBarrierExecution (nodeID : String) (rowVersion : Int) (executionID : String) (now : Int) : Call Unit := direct do
  let n ← exec (.update Tbl.nodeDispatchBarriers
    (fun _ (b : Barrier) => b.nodeID == nodeID && b.rowVersion == rowVersion && b.executionID.isNone)
    fun _ (b : Barrier) =>
      { b with executionID := some executionID, lastErrorCode := none, nextRetryAt := 0, updatedAt := now
               rowVersion := b.rowVersion + 1 })
  barrierOneRow n

/-- `DeferNodeDispatchBarrier` (dispatch_barrier.go:48). -/
def deferNodeDispatchBarrier (nodeID : String) (rowVersion : Int) (errorCode : String) (retryAt now : Int) : Call Unit :=
  direct do
    let n ← exec (.update Tbl.nodeDispatchBarriers (fun _ (b : Barrier) => b.nodeID == nodeID && b.rowVersion == rowVersion)
      fun _ (b : Barrier) =>
        { b with lastErrorCode := nullEmpty errorCode, retryCount := b.retryCount + 1, nextRetryAt := retryAt
                 updatedAt := now, rowVersion := b.rowVersion + 1 })
    barrierOneRow n

/-- `ResolveNodeDispatchBarrier` (dispatch_barrier.go:53). -/
def resolveNodeDispatchBarrier (nodeID : String) (rowVersion : Int) : Call Unit := direct do
  let n ← exec (.delete Tbl.nodeDispatchBarriers fun _ (b : Barrier) => b.nodeID == nodeID && b.rowVersion == rowVersion)
  barrierOneRow n

end MinimaxProxy.Store
