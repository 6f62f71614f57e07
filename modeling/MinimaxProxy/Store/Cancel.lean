import MinimaxProxy.Store.Deletion
import MinimaxProxy.Store.Remote

/-!
# Cancelling and purging a task

`CancelOrDelete`, `RequestAdminCancel` and `AdminDelete` of `store.go`. The first two
choose their path by a read made before the transaction that writes. Bodies take `now`
in seconds.
-/

namespace MinimaxProxy.Store
open Sql Sql.Prog

/-- What an owner's request did (`domain.Action`). -/
inductive Action
  | cancelled | deleted
deriving DecidableEq

/-- The row a task cancelled in the queue by its owner becomes. -/
def ownerCancelledTask (now : Int) (t : Task) : Task :=
  { t with status := .cancelled, cancelLocked := false, finishedAt := some now, updatedAt := now, version := t.version + 1 }

/-- The transaction of `CancelOrDelete` (store.go:475): only an unlocked queued task is
cancelled. -/
def cancelQueuedBody (o : Options) (owner taskID callbackID : String) (now : Int) : Prog Action := do
  let t ← query fun (db : Database) => (db.tasks.find? fun t => t.taskID == taskID && t.apiKeyID == owner
    && t.deletedAt.isNone && t.expiresAt > now).elim (.error .taskNotFound) .ok
  require t.status.canCancel .taskNotOperable
  let n ← exec (.update Tbl.videoTasks (fun _ (t : Task) => t.taskID == taskID && t.status == .queuedOpen)
    fun _ t => ownerCancelledTask now t)
  require (n == 1) .stateConflict
  rebalance o now
  createCallbackDelivery callbackID taskID "cancelled" (now * 1000)
  pure .cancelled

def cancelQueued (o : Options) (owner taskID callbackID : String) (now : Int) : Call Action :=
  immediate (cancelQueuedBody o owner taskID callbackID (unix now))

/-- The task of this owner, as `CancelOrDelete` first sees it. -/
def ownedTask (owner taskID : String) (db : Database) : Option Task :=
  db.tasks.find? fun t => t.taskID == taskID && t.apiKeyID == owner && t.deletedAt.isNone

/-- `CancelOrDelete` (store.go:464). -/
def cancelOrDelete (o : Options) (uuid : Nat → String) (owner taskID : String) (now : Int) : Call Action := do
  let seen ← direct (attempt (select (ownedTask owner taskID)))
  match seen with
  | .ok (some t) =>
    if t.status.adminCanDelete then
      Sql.Call.mapError (fun e => if e = .deletionNotFound then .taskNotFound else e) do
        let _ ← requestOwnedTaskDeletion uuid owner taskID now
        pure .deleted
    else cancelQueued o owner taskID (uuid 0) now
  | _ => cancelQueued o owner taskID (uuid 0) now

/-! ## Administrator cancel -/

/-- The row a task cancelled in the queue by an administrator becomes. -/
def adminCancelledTask (now : Int) (t : Task) : Task :=
  { t with status := .cancelled, cancelLocked := false, cancelRequestedAt := some now, finishedAt := some now
           updatedAt := now, version := t.version + 1 }

/-- The row a running task without stages becomes: its worker has to stop it. -/
def adminCancellingTask (now : Int) (t : Task) : Task :=
  { t with status := .cancelling, cancelRequestedAt := some now, updatedAt := now, version := t.version + 1 }

/-- Was the task taken by an official node? -/
def officialHolds (t : Task) (db : Database) : Bool :=
  db.nodes.any fun n => t.upstreamID == some n.id && n.protocolVersion == .official

/-- `COALESCE(column,'') != ''`. -/
def present (s : Option String) : Bool := s.getD "" != ""

/-- The rest of the transaction of `RequestAdminCancel` (store.go:591), with the row `t` it
read. -/
def cancelFound (o : Options) (t : Task) (taskID callbackID : String) (now : Int) : Prog Unit := do
  let barrier ← createNodeDispatchBarrierForTask taskID (now * 1000)
  if t.status.isQueued then
    if barrier then finishStageTaskCancellation callbackID taskID now
    else do
      let n ← exec (.update Tbl.videoTasks (fun _ (u : Task) => u.taskID == taskID && u.status == t.status)
        fun _ u => adminCancelledTask now u)
      oneRow n
      rebalance o now
      createCallbackDelivery callbackID taskID "cancelled" (now * 1000)
  else if t.status.isTaken then
    if barrier || present t.activeStageID || !present t.upstreamID then
      finishStageTaskCancellation callbackID taskID now
    else if t.status.isActive then do
      let n ← exec (.update Tbl.videoTasks (fun _ (u : Task) => u.taskID == taskID && u.status == t.status)
        fun _ u => adminCancellingTask now u)
      oneRow n
    else pure ()
  else .fail .taskNotOperable

/-- The transaction of `RequestAdminCancel` (store.go:570). -/
def adminCancelBody (o : Options) (taskID callbackID : String) (now : Int) : Prog Unit := do
  let t ← query fun (db : Database) => (db.tasks.find? fun t => t.taskID == taskID && t.deletedAt.isNone
    && t.expiresAt > now).elim (.error .taskNotFound) .ok
  if present t.upstreamID && t.status.isActive then do
    let official ← select (officialHolds t)
    require (!official) .officialRunningNotCancellable
  cancelFound o t taskID callbackID now

def adminCancel (o : Options) (taskID callbackID : String) (now : Int) : Call Unit :=
  immediate (adminCancelBody o taskID callbackID (unix now))

/-- The slot of a remote task decides the path of a cancel request. -/
def remoteSlot (taskID : String) (db : Database) : Bool :=
  db.tasks.any fun t => t.taskID == taskID && t.deletedAt.isNone && t.protocolVersion == some .tk2sd && t.upstreamSlotActive

/-- `RequestAdminCancel` (store.go:564). -/
def requestAdminCancel (o : Options) (taskID callbackID : String) (now : Int) : Call Unit := do
  let seen ← direct (attempt (select (remoteSlot taskID)))
  match seen with
  | .ok true => requestRemoteCancel taskID now
  | _ => adminCancel o taskID callbackID now

/-! ## Purge -/

/-- The stored copies of a task's artifacts (task_purge_store.go:46). -/
def listTaskArtifactLocations (taskID : String) (db : Database) : List Location :=
  db.locations.filter fun l => copyOf db taskID l && !l.state.isGone

/-- `sameTaskArtifactLocations` (task_purge_store.go:65): same number of copies, and each
listed copy is a current one. The task is the same on both sides. -/
def sameTaskArtifactLocations (a b : List Location) : Bool :=
  a.length == b.length && b.all fun l => (a.filter (·.id == l.id)).getLast?.any fun g =>
    g.nodeID == l.nodeID && g.nodeArtifactID == l.nodeArtifactID && g.state == l.state

/-- A deletion item of the task's artifacts. -/
def itemOf (taskID : String) (db : Database) (i : DeletionItem) : Bool :=
  (db.artifacts.any fun a => a.id == i.artifactID && a.taskID == taskID)
    || db.locations.any fun l => l.id == i.locationID && copyOf db taskID l

def unlinkedTask (t : Task) : Task := { t with activeStageID := none, resultArtifactID := none }

def unlinkedStage (s : Stage) : Stage := { s with inputArtifactID := none, outputArtifactID := none }

/-- The job, if it has no items left. -/
def emptyJob (id : String) (db : Database) (j : DeletionJob) : Bool :=
  j.id == id && !(db.rows Tbl.artifactDeletionItems).any fun (i : DeletionItem) => i.jobID == id

/-- The row that the last statement selects. -/
def purgedTask (t : Task) (taskID : String) (u : Task) : Bool := u.taskID == taskID && u.status == t.status && u.version == t.version

/-- The statements of `AdminDelete` that write. -/
def purgeRows (taskID : String) (t : Task) : Prog Unit := do
  let _ ← exec (.update Tbl.videoTasks (fun _ (u : Task) => u.taskID == taskID && u.version == t.version) fun _ u => unlinkedTask u)
  let _ ← exec (.update Tbl.taskStages (fun _ (s : Stage) => s.taskID == taskID) fun _ s => unlinkedStage s)
  let _ ← exec (.delete Tbl.idempotencyKeys fun _ (k : IdempotencyKey) => k.taskID == taskID)
  let _ ← exec (.delete Tbl.callbackDeliveries fun _ (d : CallbackDelivery) => d.taskID == taskID)
  let jobs ← select fun (db : Database) =>
    (((db.rows Tbl.artifactDeletionItems).filter (itemOf taskID db)).map DeletionItem.jobID).dedup
  let _ ← exec (.delete Tbl.artifactDeletionItems fun db (i : DeletionItem) => itemOf taskID db i)
  forEach (fun id => do let _ ← exec (.delete Tbl.artifactDeletionJobs (emptyJob id))) jobs
  let _ ← exec (.delete Tbl.stageAttempts fun db (a : Attempt) => stageOf db taskID a.stageID)
  let _ ← exec (.delete Tbl.artifactLocations fun db (l : Location) => copyOf db taskID l)
  let _ ← exec (.delete Tbl.taskArtifacts fun _ (a : Artifact) => a.taskID == taskID)
  let _ ← exec (.delete Tbl.taskStages fun _ (s : Stage) => s.taskID == taskID)
  let _ ← exec (.delete Tbl.taskInputSpoolFiles fun _ (f : SpoolFile) => f.taskID == taskID)
  let n ← exec (.delete Tbl.videoTasks fun _ => purgedTask t taskID)
  oneRow n

/-- `AdminDelete` (store.go:661). -/
def adminDeleteBody (taskID : String) (purged : Option (List Location)) : Prog Unit := do
  let t ← query fun (db : Database) => (db.tasks.find? fun t => t.taskID == taskID && t.deletedAt.isNone).elim
    (.error .taskNotFound) .ok
  require t.status.adminCanDelete .taskNotOperable
  let barriers ← select fun (db : Database) => (db.barriers.filter (·.taskID == taskID)).length
  require (barriers == 0) .cancelReconcilePending
  let profileRefs ← select fun (db : Database) => ((db.rows Tbl.profileTestRuns).filter fun (r : ProfileTestRun) =>
    db.artifacts.any fun a => r.artifactID == some a.id && a.taskID == taskID).length
  require (profileRefs == 0) .stateConflict
  match purged with
  | none => pure ()
  | some purged => do
    let current ← select (listTaskArtifactLocations taskID)
    require (sameTaskArtifactLocations current purged) .stateConflict
  purgeRows taskID t

def adminDelete (taskID : String) (purged : Option (List Location)) : Call Unit := immediate (adminDeleteBody taskID purged)

end MinimaxProxy.Store
