import MinimaxProxy.Store.Basic

/-!
# The legacy worker's operations

The transitions of `store.go` that the worker of a legacy node makes for a task it has
claimed. Three of them (`MarkSucceeded`, `FinishCancelled`, `MarkFailed`) declare their
result without a name: `defer completeTransaction(finish, &err)` there sees the local
`err`, which the update sets, while the later steps return an error it does not see. They
use `immediateShadowed`.
-/

namespace MinimaxProxy.Store
open Sql Sql.Prog

/-- Change the task if the node has it in a status that meets `wanted`. -/
def workerUpdate (taskID upstreamID : String) (wanted : TaskStatus → Bool) (set : Task → Task) : Prog Nat :=
  exec (.update Tbl.videoTasks (fun _ (t : Task) => t.taskID == taskID && t.upstreamID == some upstreamID && wanted t.status)
    fun _ t => set t)

/-- One guarded update outside a transaction. -/
def workerStep (taskID upstreamID : String) (wanted : TaskStatus → Bool) (set : Task → Task) : Call Unit := direct do
  let n ← workerUpdate taskID upstreamID wanted set
  oneRow n

/-- `SaveBaseline` (store.go:526); `urls` is the JSON text. -/
def saveBaseline (taskID upstreamID urls : String) (now : Int) : Call Unit :=
  workerStep taskID upstreamID (· == .dispatching) fun t =>
    { t with galleryBeforeJSON := some urls, updatedAt := unix now, version := t.version + 1 }

/-- `SaveSubmissionContext` (store.go:535). -/
def saveSubmissionContext (taskID upstreamID : String) (jobIDs : List String) (now : Int) : Call Unit :=
  workerStep taskID upstreamID (· == .dispatching) fun t =>
    { t with upstreamJobsBeforeJSON := .value jobIDs, attemptStartedAt := some (unix now), updatedAt := unix now
             version := t.version + 1 }

/-- `BindUpstreamJob` (store.go:545). -/
def bindUpstreamJob (taskID upstreamID jobID : String) (now : Int) : Call Unit :=
  workerStep taskID upstreamID (fun s => s == .dispatching || s == .reconciling) fun t =>
    { t with upstreamJobID := some jobID, status := .running, updatedAt := unix now, version := t.version + 1 }

/-- `BeginRetry` (store.go:550): once per claim. -/
def beginRetry (taskID upstreamID : String) (jobIDsBefore : List String) (galleryBefore : String) (now : Int) : Call Unit :=
  direct do
    let n ← exec (.update Tbl.videoTasks
      (fun _ (t : Task) => t.taskID == taskID && t.upstreamID == some upstreamID && t.retryCount == 0
        && (t.status == .running || t.status == .reconciling))
      fun _ (t : Task) =>
        { t with status := .dispatching, retryCount := 1, upstreamJobID := none
                 upstreamJobsBeforeJSON := .value jobIDsBefore, galleryBeforeJSON := some galleryBefore
                 attemptStartedAt := some (unix now), errorCode := none, errorMessage := none, updatedAt := unix now
                 version := t.version + 1 })
    oneRow n

/-- `MarkRunning` (store.go:757). -/
def markRunning (taskID upstreamID : String) (now : Int) : Call Unit :=
  workerStep taskID upstreamID (· == .dispatching) fun t =>
    { t with status := .running, updatedAt := unix now, version := t.version + 1 }

/-- `MarkReconciling` (store.go:762). -/
def markReconciling (taskID upstreamID : String) (now : Int) : Call Unit :=
  workerStep taskID upstreamID TaskStatus.isActive fun t =>
    { t with status := .reconciling, updatedAt := unix now, version := t.version + 1 }

/-! ## The end of a task -/

/-- The update is checked by `oneRow`, then the callback is queued; both errors are
returned past the variable that decides on COMMIT. -/
def workerEnd (taskID upstreamID : String) (wanted : TaskStatus → Bool) (set : Task → Task) (callbackID status : String)
    (now : Int) : Prog (Except Err Unit) := do
  let n ← workerUpdate taskID upstreamID wanted set
  if n = 1 then attempt (createCallbackDelivery callbackID taskID status (now * 1000))
  else pure (.error .stateConflict)

/-- `MarkSucceeded` (store.go:512). -/
def markSucceeded (taskID upstreamID internalURL publicURL ratio callbackID : String) (now : Int) : Call Unit :=
  immediateShadowed (workerEnd taskID upstreamID TaskStatus.isActive (fun t =>
    { t with status := .succeeded, resultInternalURL := some internalURL, resultPublicURL := some publicURL
             ratioActual := some ratio, usageTotalSeconds := t.duration, usageOutputSeconds := t.duration
             finishedAt := some (unix now), updatedAt := unix now, version := t.version + 1 })
    callbackID "succeeded" (unix now))

/-- `FinishCancelled` (store.go:647). -/
def finishCancelled (taskID upstreamID callbackID : String) (now : Int) : Call Unit :=
  immediateShadowed (workerEnd taskID upstreamID (· == .cancelling) (fun t =>
    { t with status := .cancelled, cancelLocked := false, finishedAt := some (unix now), updatedAt := unix now
             version := t.version + 1 })
    callbackID "cancelled" (unix now))

/-- `MarkFailed` (store.go:767). -/
def markFailed (taskID upstreamID code message callbackID : String) (now : Int) : Call Unit :=
  immediateShadowed (workerEnd taskID upstreamID TaskStatus.isActive (fun t =>
    { t with status := .failed, errorCode := some code, errorMessage := some message, finishedAt := some (unix now)
             updatedAt := unix now, version := t.version + 1 })
    callbackID "failed" (unix now))

/-! ## Back to the queue -/

/-- `Requeue` (store.go:781). -/
def requeueBody (o : Options) (taskID upstreamID : String) (now : Int) : Prog Unit := do
  let n ← exec (.update Tbl.videoTasks
    (fun _ (t : Task) => t.taskID == taskID && t.upstreamID == some upstreamID && t.status == .dispatching)
    fun _ (t : Task) =>
      { t with
        status := .queuedOpen, cancelLocked := false, upstreamID := none, gradioEventID := none, upstreamJobID := none
        upstreamJobsBeforeJSON := .value [], officialSubmissionBaselineSaved := false, upstreamFeedbackJSON := none
        retryCount := 0, attemptStartedAt := none, cancelRequestedAt := none, galleryBeforeJSON := none
        startedAt := none, updatedAt := now, version := t.version + 1 })
  oneRow n
  rebalance o now

def requeue (o : Options) (taskID upstreamID : String) (now : Int) : Call Unit :=
  immediate (requeueBody o taskID upstreamID (unix now))

end MinimaxProxy.Store
