import Mathlib.Data.List.Sort
import MinimaxProxy.Store.Basic

/-!
# Result delivery

`result_delivery_store.go`: the storage settings and the jobs that copy a finished video
to object storage. Times are in milliseconds.
-/

namespace MinimaxProxy.Store
open Sql Sql.Prog

/-! ## Storage settings -/

/-- The stored settings. -/
def storageConfig (db : Database) : Except Err ObjectStorageConfig :=
  match db.rows Tbl.objectStorageConfigs with
  | [] => .error .noRows
  | (c : ObjectStorageConfig) :: _ => .ok c

/-- `PutObjectStorageConfig` (result_delivery_store.go:23). A refused insert over stored
settings, and any failed update, is a version conflict. -/
def putObjectStorageConfigBody (expectedVersion : Int) (input : ObjectStorageConfig) (now : Int) : Prog ObjectStorageConfig := do
  if expectedVersion = 0 then
    match ← attempt (exec (.insert Tbl.objectStorageConfigs fun _ _ =>
      [{ input with lastTestStatus := "untested", lastTestedAt := none, version := 1, createdAt := now, updatedAt := now }])) with
    | .ok _ => pure ()
    | .error e => do
      match ← attempt (select fun (db : Database) => (db.rows Tbl.objectStorageConfigs).length) with
      | .ok count => .fail (if count = 1 then .objectStorageVersionConflict else e)
      | .error _ => .fail e
  else
    orElse (do
      let n ← exec (.update Tbl.objectStorageConfigs (fun _ (c : ObjectStorageConfig) => c.version == expectedVersion)
        fun _ (c : ObjectStorageConfig) =>
          { input with lastTestStatus := "untested", lastTestedAt := none, version := c.version + 1
                       createdAt := c.createdAt, updatedAt := now })
      oneRow n) fun _ => .fail .objectStorageVersionConflict
  query storageConfig

def putObjectStorageConfig (expectedVersion : Int) (input : ObjectStorageConfig) (now : Int) : Call ObjectStorageConfig :=
  immediate (putObjectStorageConfigBody expectedVersion input now)

/-! ## Upload jobs -/

/-- `ORDER BY created_at,id`. -/
def jobBefore (a b : UploadJob) : Bool := a.createdAt < b.createdAt || (a.createdAt == b.createdAt && a.id < b.id)

/-- A lease that has run out, or none. -/
def UploadJob.leaseOver (now : Int) (j : UploadJob) : Bool := j.leaseExpiresAt.getD 0 ≤ now

/-- Jobs `recoverExhaustedResultUploads` ends: no attempt is left in the round. -/
def UploadJob.exhausted (now : Int) (j : UploadJob) : Bool :=
  j.attemptNo ≥ j.maxAttempts
    && (j.status == .pending || j.status == .retryWait || (j.status == .uploading && UploadJob.leaseOver now j))

/-- Jobs a worker may take. -/
def UploadJob.claimable (now : Int) (j : UploadJob) : Bool :=
  j.attemptNo < j.maxAttempts
    && (j.status == .pending || (j.status == .retryWait && j.nextAttemptAt.getD 0 ≤ now)
      || (j.status == .uploading && UploadJob.leaseOver now j))

/-- The row a task whose upload failed for good becomes. -/
def undeliveredTask (message : String) (now : Int) (t : Task) : Task :=
  { t with status := .failed, errorCode := some "result_upload_failed", errorMessage := some message
           finishedAt := some (unix now), updatedAt := unix now, version := t.version + 1 }

/-- `failDeliveredTask` (result_delivery_store.go:189). -/
def failDeliveredTask (callbackID taskID message : String) (now : Int) : Prog Unit := do
  let n ← exec (.update Tbl.videoTasks (fun _ (t : Task) => t.taskID == taskID && t.status == .reconciling)
    fun _ t => undeliveredTask message now t)
  if n = 0 then pure () else createCallbackDelivery callbackID taskID "failed" now

/-- The row an exhausted job becomes. -/
def exhaustedJob (message : String) (now : Int) (j : UploadJob) : UploadJob :=
  { j with status := .failed, leaseToken := none, leaseExpiresAt := none, nextAttemptAt := none
           lastErrorCode := "result_upload_attempts_exhausted", lastErrorMessage := message
           finishedAt := some now, updatedAt := now, version := j.version + 1 }

def exhaustedMessage : String := "结果上传已达到本轮尝试上限且执行租约已过期，请检查对象存储后重新上传"

/-- `recoverExhaustedResultUploads` (result_delivery_store.go:143). -/
def recoverExhaustedBody (uuid : Nat → String) (now : Int) : Prog Unit := do
  let jobs ← select fun (db : Database) =>
    ((db.uploadJobs.filter (UploadJob.exhausted now)).insertionSort fun a b => !jobBefore b a).take 100
  forEach (fun (job, i) => do
    let _ ← exec (.update Tbl.resultUploadJobs (fun _ (j : UploadJob) => j.id == job.id)
      fun _ j => exhaustedJob exhaustedMessage now j)
    failDeliveredTask (uuid i) job.taskID exhaustedMessage now) jobs.zipIdx

def recoverExhaustedResultUploads (uuid : Nat → String) (now : Int) : Call Unit := immediate (recoverExhaustedBody uuid now)

/-- The row a claimed job becomes. -/
def claimedJob (leaseToken : String) (leaseDuration now : Int) (j : UploadJob) : UploadJob :=
  { j with status := .uploading, attemptNo := j.attemptNo + 1, leaseToken := some leaseToken
           leaseExpiresAt := some (now + leaseDuration), nextAttemptAt := none, startedAt := j.startedAt <|> some now
           updatedAt := now, version := j.version + 1 }

/-- The claim transaction of `ClaimResultUploadJob` (result_delivery_store.go:118). -/
def claimUploadJobBody (leaseToken : String) (leaseDuration now : Int) : Prog UploadJob := do
  let job ← query fun (db : Database) =>
    (first jobBefore (db.uploadJobs.filter (UploadJob.claimable now))).elim (.error .queueEmpty) .ok
  let n ← exec (.update Tbl.resultUploadJobs (fun _ (j : UploadJob) => j.id == job.id && j.version == job.version)
    fun _ j => claimedJob leaseToken leaseDuration now j)
  oneRow n
  query fun (db : Database) => (db.uploadJobs.find? (·.id == job.id)).elim (.error .noRows) .ok

/-- `ClaimResultUploadJob`: the recovery is committed by itself before the claim. -/
def claimResultUploadJob (uuid : Nat → String) (leaseToken : String) (leaseDuration now : Int) : Call UploadJob := do
  recoverExhaustedResultUploads uuid now
  immediate (claimUploadJobBody leaseToken leaseDuration now)

/-- The job this worker is uploading. -/
def uploadingJob (jobID leaseToken : String) : Prog UploadJob :=
  query fun (db : Database) => (db.uploadJobs.find? fun j => j.id == jobID && j.status == .uploading
    && j.leaseToken == some leaseToken).elim (.error .stateConflict) .ok

/-- `FailResultUploadAttempt` (result_delivery_store.go:201). -/
def failResultUploadAttemptBody (jobID leaseToken code message : String) (retryable : Bool) (nextAttempt : Int)
    (callbackID : String) (now : Int) : Prog Unit := do
  let job ← uploadingJob jobID leaseToken
  let again := retryable && job.attemptNo < job.maxAttempts
  let _ ← exec (.update Tbl.resultUploadJobs (fun _ (j : UploadJob) => j.id == jobID)
    fun _ (j : UploadJob) =>
      { j with status := if again then .retryWait else .failed, nextAttemptAt := if again then some nextAttempt else none
               leaseToken := none, leaseExpiresAt := none, lastErrorCode := code, lastErrorMessage := message
               updatedAt := now, version := j.version + 1 })
  if again then pure () else failDeliveredTask callbackID job.taskID message now

def failResultUploadAttempt (jobID leaseToken code message : String) (retryable : Bool) (nextAttempt : Int)
    (callbackID : String) (now : Int) : Call Unit :=
  immediate (failResultUploadAttemptBody jobID leaseToken code message retryable nextAttempt callbackID now)

/-- The row a job becomes when an administrator asks for another round. -/
def retriedJob (now : Int) (j : UploadJob) : UploadJob :=
  { j with status := .pending, roundNo := j.roundNo + 1, attemptNo := 0, nextAttemptAt := none, leaseToken := none
           leaseExpiresAt := none, lastErrorCode := "", lastErrorMessage := "", startedAt := none, finishedAt := none
           updatedAt := now, version := j.version + 1 }

/-- The row its task becomes. -/
def retriedTask (now : Int) (t : Task) : Task :=
  { t with status := .reconciling, errorCode := none, errorMessage := none, finishedAt := none, updatedAt := unix now
           version := t.version + 1 }

/-- `RetryResultUpload` (result_delivery_store.go:230). -/
def retryResultUploadBody (taskID : String) (now : Int) : Prog Unit :=
  orElse (do
    let n ← exec (.update Tbl.resultUploadJobs (fun _ (j : UploadJob) => j.taskID == taskID && j.status == .failed)
      fun _ j => retriedJob now j)
    oneRow n
    let n ← exec (.update Tbl.videoTasks
      (fun _ (t : Task) => t.taskID == taskID && t.status == .failed && t.errorCode == some "result_upload_failed"
        && t.resultInternalURL.isSome)
      fun _ t => retriedTask now t)
    oneRow n) fun _ => .fail .resultUploadNotRetryable

def retryResultUpload (taskID : String) (now : Int) : Call Unit := immediate (retryResultUploadBody taskID now)

/-- The row a delivered task becomes. -/
def deliveredTask (publicURL : String) (now : Int) (t : Task) : Task :=
  { t with status := .succeeded, resultPublicURL := some publicURL, errorCode := none, errorMessage := none
           finishedAt := some (unix now), updatedAt := unix now, version := t.version + 1 }

/-- `CompleteResultUpload` (result_delivery_store.go:248). -/
def completeResultUploadBody (jobID leaseToken publicURL : String) (bytesUploaded : Int) (callbackID : String) (now : Int) :
    Prog Unit := do
  let job ← uploadingJob jobID leaseToken
  let _ ← exec (.update Tbl.resultUploadJobs (fun _ (j : UploadJob) => j.id == jobID)
    fun _ (j : UploadJob) =>
      { j with status := .succeeded, publicURL := publicURL, bytesUploaded := bytesUploaded, leaseToken := none
               leaseExpiresAt := none, finishedAt := some now, updatedAt := now, version := j.version + 1 })
  let n ← exec (.update Tbl.videoTasks
    (fun _ (t : Task) => t.taskID == job.taskID && t.status == .reconciling && t.resultInternalURL.isSome)
    fun _ t => deliveredTask publicURL now t)
  oneRow n
  createCallbackDelivery callbackID job.taskID "succeeded" now

def completeResultUpload (jobID leaseToken publicURL : String) (bytesUploaded : Int) (callbackID : String) (now : Int) :
    Call Unit :=
  immediate (completeResultUploadBody jobID leaseToken publicURL bytesUploaded callbackID now)

end MinimaxProxy.Store
