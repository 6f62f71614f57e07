import Mathlib.Data.List.Sort
import MinimaxProxy.Store.Basic

/-!
# Deleting a task and its stored artifacts

`deletion_store.go`. `uuid` supplies the random ids of a call in the order they are
drawn. Times are in milliseconds.
-/

namespace MinimaxProxy.Store
open Sql Sql.Prog

/-- A stored copy of an artifact of the task. -/
def copyOf (db : Database) (taskID : String) (l : Location) : Bool :=
  db.artifacts.any fun a => a.id == l.artifactID && a.taskID == taskID

/-- The copies a deletion has to remove, `ORDER BY a.id,l.id`. -/
def deletionCandidates (taskID : String) (db : Database) : List (Artifact × Location) :=
  let rows := (db.artifacts.filter fun a => a.taskID == taskID && !a.state.isGone).flatMap fun a =>
    (db.locations.filter fun l => l.artifactID == a.id && !l.state.isGone).map fun l => (a, l)
  rows.insertionSort fun x y => x.1.id < y.1.id ∨ (x.1.id = y.1.id ∧ x.2.id ≤ y.2.id)

/-- `RequestTaskDeletion` (deletion_store.go:63). -/
def requestTaskDeletionBody (uuid : Nat → String) (taskID : String) (reason : DeletionReason) (requestedBy : String)
    (now : Int) : Prog DeletionJob := do
  let t ← query fun (db : Database) => (findTask db taskID).elim (.error .deletionNotFound) .ok
  require t.deletedAt.isNone (.other "任务已存在删除意图")
  let candidates ← select (deletionCandidates taskID)
  let noCandidates := candidates.isEmpty
  let job : DeletionJob :=
    { id := uuid 0, reason := reason, status := if noCandidates then .succeeded else .pending, requestedBy := requestedBy
      totalCount := candidates.length, createdAt := now, updatedAt := now
      finishedAt := if noCandidates then some now else none }
  let _ ← exec (.insert Tbl.artifactDeletionJobs fun _ _ => [job])
  forEach (fun (c, i) => do
    let _ ← exec (.insert Tbl.artifactDeletionItems fun _ _ =>
      [{ id := uuid (2 * i + 1), jobID := job.id, artifactID := c.1.id, locationID := c.2.id, nodeID := c.2.nodeID
         status := .pending, operationID := uuid (2 * i + 2), createdAt := now, updatedAt := now }])) candidates.zipIdx
  let _ ← exec (.update Tbl.artifactLocations (fun db (l : Location) => copyOf db taskID l && !l.state.isGone)
    fun _ (l : Location) => { l with state := .deletePending, isPrimary := false })
  let _ ← exec (.update Tbl.taskArtifacts (fun _ (a : Artifact) => a.taskID == taskID && !a.state.isGone)
    fun _ (a : Artifact) => { a with state := .deletePending })
  let _ ← exec (.delete Tbl.idempotencyKeys fun _ (k : IdempotencyKey) => k.taskID == taskID)
  let n ← exec (.update Tbl.videoTasks (fun _ (t : Task) => t.taskID == taskID && t.deletedAt.isNone)
    fun _ (t : Task) =>
      { t with deletedAt := some now, deletionState := if noCandidates then .deleted else .pending
               updatedAt := now, version := t.version + 1 })
  oneRow n
  pure job

def requestTaskDeletion (uuid : Nat → String) (taskID : String) (reason : DeletionReason) (requestedBy : String)
    (now : Int) : Call DeletionJob :=
  immediate (requestTaskDeletionBody uuid taskID reason requestedBy now)

/-- `RequestOwnedTaskDeletion` (deletion_store.go:44): the checks are read before the
transaction. -/
def requestOwnedTaskDeletion (uuid : Nat → String) (owner taskID : String) (now : Int) : Call DeletionJob := do
  let t ← direct (orElse (query fun (db : Database) => (findTask db taskID).elim (.error .deletionNotFound) .ok)
    fun e => .fail (if owner = "" then e else .deletionNotFound))
  direct (require (t.apiKeyID == owner && t.deletedAt.isNone) .deletionNotFound)
  direct (require t.status.isTerminal (.other "任务当前状态不可删除"))
  requestTaskDeletion uuid taskID .taskDelete owner now

/-- May a worker of the node take the item? -/
def claimableItem (nodeID : String) (now : Int) (i : DeletionItem) : Bool :=
  i.nodeID == nodeID && (i.status == .pending || i.status == .retryWait || i.status == .deleting)
    && i.nextAttemptAt.all (· ≤ now) && i.leaseExpiresAt.all (· ≤ now)

/-- `ClaimDeletionItem` (deletion_store.go:132). A failed first update is reported as
"nothing to claim". -/
def claimDeletionItemBody (nodeID leaseToken : String) (leaseDuration now : Int) : Prog DeletionItem := do
  let item ← query fun (db : Database) =>
    (first (fun (a b : DeletionItem) => a.createdAt < b.createdAt || (a.createdAt == b.createdAt && a.id < b.id))
      ((db.rows Tbl.artifactDeletionItems).filter (claimableItem nodeID now))).elim (.error .noClaimableDeletion) .ok
  orElse (do
    let n ← exec (.update Tbl.artifactDeletionItems
      (fun _ (i : DeletionItem) => i.id == item.id && i.leaseExpiresAt.all (· ≤ now))
      fun _ (i : DeletionItem) =>
        { i with status := .deleting, leaseToken := some leaseToken, leaseExpiresAt := some (now + leaseDuration)
                 attemptCount := i.attemptCount + 1, updatedAt := now })
    oneRow n) fun _ => .fail .noClaimableDeletion
  let _ ← exec (.update Tbl.artifactLocations (fun _ (l : Location) => l.id == item.locationID
      && (l.state == .active || l.state == .deletePending || l.state == .deleteFailed || l.state == .deleting))
    fun _ (l : Location) => { l with state := .deleting })
  let _ ← exec (.update Tbl.artifactDeletionJobs (fun _ (j : DeletionJob) => j.id == item.jobID && j.status == .pending)
    fun _ (j : DeletionJob) => { j with status := .running, startedAt := j.startedAt <|> some now, updatedAt := now })
  query fun (db : Database) =>
    ((db.rows Tbl.artifactDeletionItems).find? fun (i : DeletionItem) => i.id == item.id).elim (.error .noRows) .ok

def claimDeletionItem (nodeID leaseToken : String) (leaseDuration now : Int) : Call DeletionItem :=
  immediate (claimDeletionItemBody nodeID leaseToken leaseDuration now)

/-- `RenewDeletionLease` (deletion_store.go:160), one statement outside a transaction. -/
def renewDeletionLease (itemID leaseToken : String) (leaseDuration now : Int) : Call Unit := direct do
  let n ← exec (.update Tbl.artifactDeletionItems
    (fun _ (i : DeletionItem) => i.id == itemID && i.leaseToken == some leaseToken && i.status == .deleting
      && i.leaseExpiresAt.any (· > now))
    fun _ (i : DeletionItem) => { i with leaseExpiresAt := some (now + leaseDuration), updatedAt := now })
  oneRow n

/-- The item this worker holds. -/
def heldItem (itemID leaseToken : String) : Prog DeletionItem :=
  query fun (db : Database) => ((db.rows Tbl.artifactDeletionItems).find? fun (i : DeletionItem) =>
    i.id == itemID && i.leaseToken == some leaseToken && i.status == .deleting).elim (.error .noClaimableDeletion) .ok

/-- Items of a job that meet `p`. -/
def countItems (jobID : String) (p : DeletionItem → Bool) (db : Database) : Nat :=
  ((db.rows Tbl.artifactDeletionItems).filter fun (i : DeletionItem) => i.jobID == jobID && p i).length

/-- The task that owns an artifact. -/
def artifactTask (artifactID : String) : Prog String :=
  query fun (db : Database) => (db.artifacts.find? (·.id == artifactID)).elim (.error .noRows) fun a => .ok a.taskID

/-- Record the deletion state of a deleted task. -/
def setDeletionState (taskID : String) (state : DeletionState) (now : Int) : Prog Unit := do
  let _ ← exec (.update Tbl.videoTasks (fun _ (t : Task) => t.taskID == taskID && t.deletedAt.isSome)
    fun _ (t : Task) => { t with deletionState := state, updatedAt := now, version := t.version + 1 })

/-- `FailDeletionItem` (deletion_store.go:166). -/
def failDeletionItemBody (itemID leaseToken code message : String) (nextAttempt : Int) (terminal : Bool) (now : Int) :
    Prog Unit := do
  let item ← heldItem itemID leaseToken
  let _ ← exec (.update Tbl.artifactDeletionItems (fun _ (i : DeletionItem) => i.id == itemID)
    fun _ (i : DeletionItem) =>
      { i with status := if terminal then .failed else .retryWait
               nextAttemptAt := if terminal then none else some nextAttempt
               leaseToken := none, leaseExpiresAt := none, lastErrorCode := some code
               lastErrorMessage := some message, updatedAt := now })
  let _ ← exec (.update Tbl.artifactLocations (fun _ (l : Location) => l.id == item.locationID)
    fun _ (l : Location) => { l with state := .deleteFailed })
  let (jobStatus, taskState, finishedAt) ← (if terminal then do
      let pending ← select (countItems item.jobID fun i => !i.status.isSettled)
      if pending = 0 then do
        let succeeded ← select (countItems item.jobID fun i => i.status.isRemoved)
        pure (if succeeded > 0 then (.partialFailed, .partly, some now) else (.failed, .failed, some now))
      else pure (.running, .pending, none)
    else pure (.running, .pending, none) : Prog (DeletionJobStatus × DeletionState × Option Int))
  let _ ← exec (.update Tbl.artifactDeletionJobs (fun _ (j : DeletionJob) => j.id == item.jobID)
    fun db (j : DeletionJob) =>
      { j with status := jobStatus, failedCount := countItems item.jobID (·.status == .failed) db
               finishedAt := finishedAt, updatedAt := now })
  let taskID ← artifactTask item.artifactID
  setDeletionState taskID taskState now

def failDeletionItem (itemID leaseToken code message : String) (nextAttempt : Int) (terminal : Bool) (now : Int) : Call Unit :=
  immediate (failDeletionItemBody itemID leaseToken code message nextAttempt terminal now)

/-- `CompleteDeletionItem` (deletion_store.go:221). -/
def completeDeletionItemBody (itemID leaseToken : String) (absent : Bool) (deletedBytes now : Int) : Prog Unit := do
  let item ← heldItem itemID leaseToken
  let _ ← exec (.update Tbl.artifactDeletionItems (fun _ (i : DeletionItem) => i.id == itemID)
    fun _ (i : DeletionItem) =>
      { i with status := if absent then .alreadyAbsent else .deleted, deletedBytes := deletedBytes
               deletedAt := some now, leaseToken := none, leaseExpiresAt := none, updatedAt := now })
  let _ ← exec (.update Tbl.artifactLocations (fun _ (l : Location) => l.id == item.locationID)
    fun _ (l : Location) =>
      { l with state := if absent then .missing else .deleted, isPrimary := false, deletedAt := some now })
  let remaining ← select fun (db : Database) =>
    (db.locations.filter fun l => l.artifactID == item.artifactID && !l.state.isGone).length
  if remaining = 0 then do
    let _ ← exec (.update Tbl.taskArtifacts (fun _ (a : Artifact) => a.id == item.artifactID)
      fun _ (a : Artifact) => { a with state := .deleted, deletedAt := some now })
  let (total, succeeded, failed) ← select fun (db : Database) =>
    (countItems item.jobID (fun _ => true) db, countItems item.jobID (·.status.isRemoved) db,
      countItems item.jobID (·.status == .failed) db)
  let done := succeeded + failed == total
  let _ ← exec (.update Tbl.artifactDeletionJobs (fun _ (j : DeletionJob) => j.id == item.jobID)
    fun _ (j : DeletionJob) =>
      { j with status := if done then (if failed > 0 then .partialFailed else .succeeded) else .running
               succeededCount := succeeded, failedCount := failed, deletedBytes := j.deletedBytes + deletedBytes
               finishedAt := if done then some now else none, updatedAt := now })
  let taskID ← artifactTask item.artifactID
  let taskRemaining ← select fun (db : Database) => (db.locations.filter fun l => copyOf db taskID l && !l.state.isGone).length
  let taskFailed ← select fun (db : Database) => ((db.rows Tbl.artifactDeletionItems).filter fun (i : DeletionItem) =>
    i.status == .failed && db.artifacts.any fun a => a.id == i.artifactID && a.taskID == taskID).length
  setDeletionState taskID
    (if taskRemaining = 0 then .deleted else if taskFailed > 0 then (if succeeded = 0 then .failed else .partly) else .pending) now

def completeDeletionItem (itemID leaseToken : String) (absent : Bool) (deletedBytes now : Int) : Call Unit :=
  immediate (completeDeletionItemBody itemID leaseToken absent deletedBytes now)

end MinimaxProxy.Store
