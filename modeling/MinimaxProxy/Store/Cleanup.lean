import Mathlib.Algebra.Ring.Int.Defs
import MinimaxProxy.Store.Deletion

/-!
# Manual cleanup and callback delivery

`cleanup_store.go`: an administrator previews which stored copies are old, confirms the
preview, and may retry failed items. `callback_store.go`: the queue of callbacks. Times
are in milliseconds. The token digest and the candidate digest are kept as the text they
digest.
-/

namespace MinimaxProxy.Store
open Sql Sql.Prog

/-- `cleanupCandidate`. -/
structure CleanupCandidate where
  taskID : String
  artifactID : String
  locationID : String
  nodeID : String
  sizeBytes : Int
deriving DecidableEq

/-- `ORDER BY t.task_id,a.id,l.id`. -/
def CleanupCandidate.le (a b : CleanupCandidate) : Bool :=
  a.taskID < b.taskID || (a.taskID == b.taskID
    && (a.artifactID < b.artifactID || (a.artifactID == b.artifactID && a.locationID ≤ b.locationID)))

/-- `cleanupCandidates` (cleanup_store.go:266): active copies of finished tasks none of whose
active artifacts is as young as the cutoff. -/
def cleanupCandidates (cutoff : Int) (db : Database) : List CleanupCandidate :=
  let rows := (db.tasks.filter fun t => t.deletedAt.isNone && t.status.isTerminal
      && !(db.artifacts.any fun a => a.taskID == t.taskID && a.state == .active && a.createdAt ≥ cutoff)).flatMap fun t =>
    (db.artifacts.filter fun a => a.taskID == t.taskID && a.createdAt < cutoff && a.state == .active).flatMap fun a =>
      (db.locations.filter fun l => l.artifactID == a.id && l.state == .active).map fun l =>
        (⟨t.taskID, a.id, l.id, l.nodeID, l.sizeBytes⟩ : CleanupCandidate)
  rows.insertionSort fun a b => CleanupCandidate.le a b

/-- The text `cleanupCandidateDigest` (cleanup_store.go:308) digests. -/
def cleanupCandidateDigest (items : List CleanupCandidate) : String :=
  String.join (items.map fun i =>
    i.taskID ++ "\x00" ++ i.artifactID ++ "\x00" ++ i.locationID ++ "\x00" ++ i.nodeID ++ "\x00" ++ toString i.sizeBytes ++ "\n")

def candidateBytes (items : List CleanupCandidate) : Int := (items.map (·.sizeBytes)).sum

/-- The job with this id. -/
def findJob (db : Database) (id : String) : Option DeletionJob :=
  (db.rows Tbl.artifactDeletionJobs).find? fun (j : DeletionJob) => j.id == id

/-- `PreviewArtifactCleanup` (cleanup_store.go:72), one statement outside a transaction.
Unfinished tasks older than the cutoff are counted as skipped. -/
def previewArtifactCleanup (jobID secret : String) (olderThanDays : Int) (requestedBy : String) (now : Int) : Call Unit :=
  if olderThanDays < 1 ∨ olderThanDays > 3650 ∨ requestedBy = "" then direct (.fail (.other "清理预览参数无效"))
  else direct do
    let cutoff := now - olderThanDays * 86400000
    let candidates ← select (cleanupCandidates cutoff)
    let skipped ← attempt (select fun (db : Database) => (db.tasks.filter fun t =>
      t.deletedAt.isNone && !t.status.isTerminal && t.createdAt < cutoff / 1000).length)
    let _ ← exec (.insert Tbl.artifactDeletionJobs fun _ _ =>
      [{ id := jobID, reason := .manualCleanup, status := .preview, olderThanDays := some olderThanDays
         cutoffAt := some cutoff, previewTokenHash := some (jobID ++ "." ++ secret), dryRun := true
         requestedBy := requestedBy, totalCount := candidates.length, skippedCount := skipped.toOption.getD 0
         candidateBytes := candidateBytes candidates, createdAt := now, updatedAt := now
         errorSummary := some ("preview_digest:" ++ cleanupCandidateDigest candidates) }])

/-- An item of the job is about the row with this id. -/
def itemsName (jobID : String) (field : DeletionItem → String) (db : Database) (id : String) : Bool :=
  (db.rows Tbl.artifactDeletionItems).any fun (i : DeletionItem) => i.jobID == jobID && field i == id

/-- A task one of whose artifacts the job deletes. -/
def cleanedTask (jobID : String) (db : Database) (taskID : String) : Bool :=
  db.artifacts.any fun a => a.taskID == taskID && itemsName jobID (·.artifactID) db a.id

/-- The transaction of `ConfirmArtifactCleanup` (cleanup_store.go:96). -/
def confirmArtifactCleanupBody (uuid : Nat → String) (jobID token confirmation : String) (now : Int) : Prog DeletionJob := do
  let job ← query fun (db : Database) => ((findJob db jobID).filter (·.status == .preview)).elim (.error .cleanupPreviewStale) .ok
  require (job.previewTokenHash.getD "" == token && now ≤ job.createdAt + 900000) .cleanupPreviewStale
  require (confirmation == "" || confirmation == "DELETE " ++ toString job.totalCount ++ " ARTIFACTS")
    (.other "清理确认文本不匹配")
  let candidates ← select (cleanupCandidates (job.cutoffAt.getD 0))
  require ((candidates.length : Int) == job.totalCount && candidateBytes candidates == job.candidateBytes
    && job.errorSummary.getD "" == "preview_digest:" ++ cleanupCandidateDigest candidates) .cleanupPreviewStale
  forEach (fun (c, i) => do
    let _ ← exec (.insert Tbl.artifactDeletionItems fun _ _ =>
      [{ id := uuid (2 * i), jobID := job.id, artifactID := c.artifactID, locationID := c.locationID, nodeID := c.nodeID
         operationID := uuid (2 * i + 1), createdAt := now, updatedAt := now }])) candidates.zipIdx
  let _ ← exec (.update Tbl.artifactLocations (fun db (l : Location) => itemsName job.id (·.locationID) db l.id)
    fun _ (l : Location) => { l with state := .deletePending, isPrimary := false })
  let _ ← exec (.update Tbl.taskArtifacts (fun db (a : Artifact) => itemsName job.id (·.artifactID) db a.id)
    fun _ (a : Artifact) => { a with state := .deletePending })
  let _ ← exec (.update Tbl.videoTasks (fun db (t : Task) => cleanedTask job.id db t.taskID && t.deletedAt.isNone)
    fun _ (t : Task) =>
      { t with deletedAt := some now, deletionState := .pending, updatedAt := now, version := t.version + 1 })
  let _ ← exec (.delete Tbl.idempotencyKeys fun db (k : IdempotencyKey) => cleanedTask job.id db k.taskID)
  let _ ← exec (.update Tbl.artifactDeletionJobs (fun _ (j : DeletionJob) => j.id == job.id && j.status == .preview)
    fun _ (j : DeletionJob) =>
      { j with status := if candidates.isEmpty then .succeeded else .pending, previewTokenHash := none, dryRun := false
               finishedAt := if candidates.isEmpty then some now else none, updatedAt := now, errorSummary := none })
  query fun (db : Database) => (findJob db job.id).elim (.error .cleanupNotFound) .ok

/-- `ConfirmArtifactCleanup`: the token is `<job id>.<64 digits>`. -/
def confirmArtifactCleanup (uuid : Nat → String) (token confirmation : String) (now : Int) : Call DeletionJob :=
  match (token.toList.splitOn '.').map String.ofList with
  | [jobID, secret] =>
    if jobID.length ≠ 36 ∨ secret.length ≠ 64 then direct (.fail .cleanupPreviewStale)
    else immediate (confirmArtifactCleanupBody uuid jobID token confirmation now)
  | _ => direct (.fail .cleanupPreviewStale)

/-- `RetryArtifactCleanup` (cleanup_store.go:213). Its result has no name: only a failure of
the first update rolls back. -/
def retryArtifactCleanupBody (jobID : String) (nodeIDs : List String) (now : Int) : Prog (Except Err DeletionJob) :=
  if nodeIDs.contains "" then pure (.error (.other "节点 ID 无效"))
  else do
    let n ← exec (.update Tbl.artifactDeletionItems
      (fun _ (i : DeletionItem) => i.jobID == jobID && i.status == .failed && (nodeIDs.isEmpty || nodeIDs.contains i.nodeID))
      fun _ (i : DeletionItem) =>
        { i with status := .pending, nextAttemptAt := none, leaseToken := none, leaseExpiresAt := none, lastErrorCode := none
                 lastErrorMessage := none, updatedAt := now })
    if n = 0 then pure (.error .cleanupNotRetryable)
    else attempt (do
      let _ ← exec (.update Tbl.artifactLocations
        (fun (db : Database) (l : Location) => (db.rows Tbl.artifactDeletionItems).any fun (i : DeletionItem) =>
          i.jobID == jobID && i.status == .pending && i.locationID == l.id)
        fun _ (l : Location) => { l with state := .deletePending })
      let _ ← exec (.update Tbl.artifactDeletionJobs (fun _ (j : DeletionJob) => j.id == jobID)
        fun db (j : DeletionJob) =>
          { j with status := .pending, failedCount := countItems jobID (·.status == .failed) db, finishedAt := none
                   updatedAt := now, errorSummary := none })
      query fun (db : Database) => (findJob db jobID).elim (.error .cleanupNotFound) .ok)

def retryArtifactCleanup (jobID : String) (nodeIDs : List String) (now : Int) : Call DeletionJob :=
  immediateShadowed (retryArtifactCleanupBody jobID nodeIDs now)

/-! ## Callback delivery -/

/-- May a worker send the callback? -/
def claimableCallback (now : Int) (db : Database) (d : CallbackDelivery) : Bool :=
  (db.tasks.any fun t => t.taskID == d.taskID && t.callbackURLCiphertext.isSome)
    && (d.status == .pending || d.status == .retryWait || d.status == .sending)
    && d.nextAttemptAt.all (· ≤ now) && d.leaseExpiresAt.all (· ≤ now)

/-- `ClaimCallbackDelivery` (callback_store.go:102). -/
def claimCallbackDeliveryBody (leaseUntil now : Int) : Prog CallbackDelivery := do
  let d ← query fun (db : Database) =>
    (first (fun (a b : CallbackDelivery) => a.createdAt < b.createdAt || (a.createdAt == b.createdAt && a.id < b.id))
      (db.callbacks.filter (claimableCallback now db))).elim (.error .noCallbackDelivery) .ok
  orElse (do
    let n ← exec (.update Tbl.callbackDeliveries
      (fun _ (e : CallbackDelivery) => e.id == d.id && e.leaseExpiresAt.all (· ≤ now))
      fun _ (e : CallbackDelivery) => { e with status := .sending, leaseExpiresAt := some leaseUntil, updatedAt := now })
    oneRow n) fun _ => .fail .noCallbackDelivery
  pure d

def claimCallbackDelivery (leaseUntil now : Int) : Call CallbackDelivery := immediate (claimCallbackDeliveryBody leaseUntil now)

/-- The end of one delivery attempt: a callback that is being sent changes. -/
def settleCallback (id : String) (set : CallbackDelivery → CallbackDelivery) : Call Unit := direct do
  let n ← exec (.update Tbl.callbackDeliveries (fun _ (d : CallbackDelivery) => d.id == id && d.status == .sending)
    fun _ d => set d)
  oneRow n

/-- `MarkCallbackSucceeded` (callback_store.go:127). -/
def markCallbackSucceeded (id : String) (httpStatus now : Int) : Call Unit :=
  settleCallback id fun d =>
    { d with status := .succeeded, attemptCount := d.attemptCount + 1, httpStatus := some httpStatus, lastError := none
             nextAttemptAt := none, leaseExpiresAt := none, deliveredAt := some now, updatedAt := now }

/-- `ScheduleCallbackRetry` (callback_store.go:133). -/
def scheduleCallbackRetry (id : String) (attempt httpStatus : Int) (message : String) (nextAttempt now : Int) : Call Unit :=
  settleCallback id fun d =>
    { d with status := .retryWait, attemptCount := attempt, httpStatus := nullZero httpStatus, lastError := some message
             nextAttemptAt := some nextAttempt, leaseExpiresAt := none, updatedAt := now }

/-- `MarkCallbackFailed` (callback_store.go:138). -/
def markCallbackFailed (id : String) (attempt httpStatus : Int) (message : String) (now : Int) : Call Unit :=
  settleCallback id fun d =>
    { d with status := .failed, attemptCount := attempt, httpStatus := nullZero httpStatus, lastError := some message
             nextAttemptAt := none, leaseExpiresAt := none, updatedAt := now }

end MinimaxProxy.Store
