import MinimaxProxy.Store.Tasks
import MinimaxProxy.Store.Worker
import MinimaxProxy.Store.Official
import MinimaxProxy.Store.Delivery
import MinimaxProxy.Store.Cancel
import MinimaxProxy.Store.Artifacts
import MinimaxProxy.Store.Cleanup
import MinimaxProxy.Store.Nodes
import MinimaxProxy.Store.Settings

/-!
# The operations that open a transaction

Every operation of `internal/store/sqlite` that calls `s.immediate`. Most name their error
result, so `completeTransaction` (store.go:876) sees the error they return and rolls back
(`StoreOp.error_no_effect`). Those of `StoreOp.shadows` do not name it.
-/

namespace MinimaxProxy.Store
open Sql Sql.Prog

/-- The calls of state-changing operations that open an immediate transaction. -/
inductive StoreOp : {α : Type} → Call α → Type
  | create (o : Options) (validURL : String → Bool) (input : NewTask) (keyHash : String) (available : Option Bool)
      (now : Int) :
      StoreOp (Store.create o validURL input keyHash available now)
  | claimNext (o : Options) (upstreamID : String) (expectedVersion : Option Int) (now : Int) :
      StoreOp (Store.claimNext o upstreamID expectedVersion now)
  | cancelOrDelete (o : Options) (uuid : Nat → String) (owner taskID : String) (now : Int) :
      StoreOp (Store.cancelOrDelete o uuid owner taskID now)
  | requestAdminCancel (o : Options) (taskID callbackID : String) (now : Int) :
      StoreOp (Store.requestAdminCancel o taskID callbackID now)
  | adminDelete (taskID : String) (purged : Option (List Location)) : StoreOp (Store.adminDelete taskID purged)
  | markSucceeded (taskID upstreamID internalURL publicURL ratio callbackID : String) (now : Int) :
      StoreOp (Store.markSucceeded taskID upstreamID internalURL publicURL ratio callbackID now)
  | finishCancelled (taskID upstreamID callbackID : String) (now : Int) :
      StoreOp (Store.finishCancelled taskID upstreamID callbackID now)
  | markFailed (taskID upstreamID code message callbackID : String) (now : Int) :
      StoreOp (Store.markFailed taskID upstreamID code message callbackID now)
  | requeue (o : Options) (taskID upstreamID : String) (now : Int) : StoreOp (Store.requeue o taskID upstreamID now)
  | createStages (stages : List Stage) (now : Int) : StoreOp (Store.createStages stages now)
  | claimStage (nodeID leaseToken : String) (leaseDuration now : Int) :
      StoreOp (Store.claimStage nodeID leaseToken leaseDuration now)
  | createStageAttempt (o : Options) (attempt : Attempt) (leaseToken : String) (now : Int) :
      StoreOp (Store.createStageAttempt o attempt leaseToken now)
  | bindStageExecution (stageID leaseToken attemptID executionID callbackID : String) (now : Int) :
      StoreOp (Store.bindStageExecution stageID leaseToken attemptID executionID callbackID now)
  | completeStage (stageID leaseToken attemptID : String) (outputArtifactID : Option String) (callbackID : String)
      (now : Int) :
      StoreOp (Store.completeStage stageID leaseToken attemptID outputArtifactID callbackID now)
  | failStage (stageID leaseToken attemptID code message : String) (retryAt : Int) (terminal : Bool)
      (callbackID : String) (now : Int) :
      StoreOp (Store.failStage stageID leaseToken attemptID code message retryAt terminal callbackID now)
  | setPrimaryArtifactLocation (artifactID locationID : String) :
      StoreOp (Store.setPrimaryArtifactLocation artifactID locationID)
  | activatePrimaryArtifactLocation (artifactID locationID : String) (sizeBytes : Int) (digest : String) (now : Int) :
      StoreOp (Store.activatePrimaryArtifactLocation artifactID locationID sizeBytes digest now)
  | registerStageOutput (sha : String → String) (validMedia : Bool) (out : StageOutput) (now : Int) :
      StoreOp (Store.registerStageOutput sha validMedia out now)
  | completeStageWithOutput (sha : String → String) (validMedia : Bool) (out : StageOutput) (leaseToken attemptID callbackID : String)
      (now : Int) :
      StoreOp (Store.completeStageWithOutput sha validMedia out leaseToken attemptID callbackID now)
  | registerInputArtifact (sha : String → String) (validMedia : Bool) (artifactID taskID : String) (kind : ArtifactKind)
      (nodeID nodeArtifactID : String) (sizeBytes : Int) (digest mediaJSON : String) (now : Int) :
      StoreOp (Store.registerInputArtifact sha validMedia artifactID taskID kind nodeID nodeArtifactID sizeBytes digest mediaJSON now)
  | requestTaskDeletion (uuid : Nat → String) (taskID : String) (reason : DeletionReason) (requestedBy : String)
      (now : Int) :
      StoreOp (Store.requestTaskDeletion uuid taskID reason requestedBy now)
  | claimDeletionItem (nodeID leaseToken : String) (leaseDuration now : Int) :
      StoreOp (Store.claimDeletionItem nodeID leaseToken leaseDuration now)
  | failDeletionItem (itemID leaseToken code message : String) (nextAttempt : Int) (terminal : Bool) (now : Int) :
      StoreOp (Store.failDeletionItem itemID leaseToken code message nextAttempt terminal now)
  | completeDeletionItem (itemID leaseToken : String) (absent : Bool) (deletedBytes now : Int) :
      StoreOp (Store.completeDeletionItem itemID leaseToken absent deletedBytes now)
  | confirmArtifactCleanup (uuid : Nat → String) (token confirmation : String) (now : Int) :
      StoreOp (Store.confirmArtifactCleanup uuid token confirmation now)
  | retryArtifactCleanup (jobID : String) (nodeIDs : List String) (now : Int) :
      StoreOp (Store.retryArtifactCleanup jobID nodeIDs now)
  | claimCallbackDelivery (leaseUntil now : Int) : StoreOp (Store.claimCallbackDelivery leaseUntil now)
  | createExternalAPIKey (equalFold : String → String → Bool) (input : APIKeyInput) (now : Int) :
      StoreOp (Store.createExternalAPIKey equalFold input now)
  | updateExternalAPIKey (equalFold : String → String → Bool) (id : String) (expectedVersion : Int) (name : String)
      (enabled : Bool) (now : Int) :
      StoreOp (Store.updateExternalAPIKey equalFold id expectedVersion name enabled now)
  | deleteExternalAPIKey (id : String) (expectedVersion : Int) : StoreOp (Store.deleteExternalAPIKey id expectedVersion)
  | importLegacyAPIKeys (equalFold : String → String → Bool) (inputs : List APIKeyInput) (now : Int) :
      StoreOp (Store.importLegacyAPIKeys equalFold inputs now)
  | createModelNode (input : NodeInput) (now : Int) : StoreOp (Store.createModelNode input now)
  | updateModelNode (id : String) (expectedVersion : Int) (input : NodeInput) (now : Int) :
      StoreOp (Store.updateModelNode id expectedVersion input now)
  | deleteModelNode (id : String) (expectedVersion now : Int) : StoreOp (Store.deleteModelNode id expectedVersion now)
  | importLegacyNodes (inputs : List NodeInput) (now : Int) : StoreOp (Store.importLegacyNodes inputs now)
  | refreshModelCatalog (nodeID : String) (nodeVersion catalogRevision : Int) (items : List CatalogItem)
      (errorCode : String) (now : Int) :
      StoreOp (Store.refreshModelCatalog nodeID nodeVersion catalogRevision items errorCode now)
  | bindModelRoute (model : String) (protocol : Protocol) (admin : String) (version revision now : Int) :
      StoreOp (Store.bindModelRoute model protocol admin version revision now)
  | bindLegacyTaskRoute (o : Options) (normalize : Normalize) (taskID : String) (nodeProtocol : Protocol)
      (version revision now : Int) :
      StoreOp (Store.bindLegacyTaskRoute o normalize taskID nodeProtocol version revision now)
  | createProfile (resolutionKey : String → Except Err String) (input : Profile) (now : Int) :
      StoreOp (Store.createProfile resolutionKey input now)
  | updateProfile (id : String) (expectedRowVersion : Int) (configJSON configHash administrator : String) (now : Int) :
      StoreOp (Store.updateProfile id expectedRowVersion configJSON configHash administrator now)
  | deleteProfile (id : String) (expectedRowVersion : Int) : StoreOp (Store.deleteProfile id expectedRowVersion)
  | putObjectStorageConfig (expectedVersion : Int) (input : ObjectStorageConfig) (now : Int) :
      StoreOp (Store.putObjectStorageConfig expectedVersion input now)
  | recoverExhaustedResultUploads (uuid : Nat → String) (now : Int) : StoreOp (Store.recoverExhaustedResultUploads uuid now)
  | claimResultUploadJob (uuid : Nat → String) (leaseToken : String) (leaseDuration now : Int) :
      StoreOp (Store.claimResultUploadJob uuid leaseToken leaseDuration now)
  | failResultUploadAttempt (jobID leaseToken code message : String) (retryable : Bool) (nextAttempt : Int)
      (callbackID : String) (now : Int) :
      StoreOp (Store.failResultUploadAttempt jobID leaseToken code message retryable nextAttempt callbackID now)
  | retryResultUpload (taskID : String) (now : Int) : StoreOp (Store.retryResultUpload taskID now)
  | completeResultUpload (jobID leaseToken publicURL : String) (bytesUploaded : Int) (callbackID : String) (now : Int) :
      StoreOp (Store.completeResultUpload jobID leaseToken publicURL bytesUploaded callbackID now)
  | claimNextOfficial (o : Options) (nodeID : String) (nodeVersion capacity now : Int) :
      StoreOp (Store.claimNextOfficial o nodeID nodeVersion capacity now)
  | markOfficialGenerated (taskID nodeID originURL ratio : String) (uploadJob : Option UploadJob)
      (callbackID : String) (now : Int) :
      StoreOp (Store.markOfficialGenerated taskID nodeID originURL ratio uploadJob callbackID now)
  | markOfficialFailed (taskID nodeID code message : String) (feedback : Option UpstreamFeedback)
      (callbackID : String) (now : Int) :
      StoreOp (Store.markOfficialFailed taskID nodeID code message feedback callbackID now)
  | claimNextRemote (o : Options) (nodeID : String) (nodeVersion capacity : Int) (admission : List Admission) (now : Int) :
      StoreOp (Store.claimNextRemote o nodeID nodeVersion capacity admission now)
  | acquireRemoteLease (taskID nodeID token : String) (ttl now : Int) :
      StoreOp (Store.acquireRemoteLease taskID nodeID token ttl now)
  | bindRemoteTask (r : RemoteRun) (id : String) (now : Int) : StoreOp (Store.bindRemoteTask r id now)
  | observeRemoteTask (r : RemoteRun) (status : RemoteStatus) (cancelState : CancelState) (now : Int) :
      StoreOp (Store.observeRemoteTask r status cancelState now)
  | requestRemoteCancel (taskID : String) (now : Int) : StoreOp (Store.requestRemoteCancel taskID now)
  | completeRemoteRun (r : RemoteRun) (c : RemoteCompletion) (callbackID : String) (now : Int) :
      StoreOp (Store.completeRemoteRun r c callbackID now)

/-- Operations whose result has no name: an error they return may follow a COMMIT. -/
def StoreOp.shadows {α : Type} {c : Call α} : StoreOp c → Bool
  | markSucceeded .. | finishCancelled .. | markFailed .. | bindStageExecution .. | retryArtifactCleanup .. => true
  | _ => false

/-- The state that `ClaimResultUploadJob` commits before it looks for a job: the one its
recovery of exhausted jobs leaves. -/
inductive Recovered (faults : Faults Err) (n : Nat) (db : Database) : {α : Type} → Call α → Database → Prop
  | claim (uuid : Nat → String) (leaseToken : String) (leaseDuration now : Int) :
      Recovered faults n db (Store.claimResultUploadJob uuid leaseToken leaseDuration now)
        (Store.recoverExhaustedResultUploads uuid now faults n db).db

/-! ## An error means no effect -/

theorem failed_atomic {α : Type} {e : Err} : (direct (.fail e : Prog α)).Atomic := (direct_readOnly writes_fail).atomic

/-- A check made before the transaction. -/
theorem checked_atomic {α : Type} {p : Prop} [Decidable p] {e : Err} {c : Call α} (h : c.Atomic) :
    (if p then direct (.fail e) else c).Atomic := by
  split
  · exact failed_atomic
  · exact h

theorem registerStageOutput_atomic {sha : String → String} {validMedia : Bool}
    {out : StageOutput} {now : Int} : (registerStageOutput sha validMedia out now).Atomic := by
  unfold registerStageOutput
  split
  · exact failed_atomic
  · exact immediate_atomic _

theorem completeStageWithOutput_atomic {sha : String → String} {validMedia : Bool}
    {out : StageOutput} {leaseToken attemptID callbackID : String}
    {now : Int} : (completeStageWithOutput sha validMedia out leaseToken attemptID callbackID now).Atomic := by
  unfold completeStageWithOutput
  split
  · exact failed_atomic
  · exact immediate_atomic _

theorem confirmArtifactCleanup_atomic (uuid : Nat → String) (token confirmation : String) (now : Int) :
    (confirmArtifactCleanup uuid token confirmation now).Atomic := by
  unfold confirmArtifactCleanup
  split
  · exact checked_atomic (immediate_atomic _)
  · exact failed_atomic

theorem refreshModelCatalog_atomic {nodeID : String} {nodeVersion catalogRevision : Int} {items : List CatalogItem}
    {errorCode : String} {now : Int} : (refreshModelCatalog nodeID nodeVersion catalogRevision items errorCode now).Atomic := by
  refine checked_atomic ?_
  split
  · exact failed_atomic
  · exact immediate_atomic _

theorem requestOwnedTaskDeletion_atomic {uuid : Nat → String} {owner taskID : String} {now : Int} :
    (requestOwnedTaskDeletion uuid owner taskID now).Atomic := by
  refine (direct_readOnly (writes_orElse writes_query fun _ => writes_fail)).bind fun t => ?_
  refine (direct_readOnly writes_require).bind fun _ => ?_
  refine (direct_readOnly writes_require).bind fun _ => ?_
  exact immediate_atomic _

theorem cancelOrDelete_atomic {o : Options} {uuid : Nat → String} {owner taskID : String} {now : Int} :
    (cancelOrDelete o uuid owner taskID now).Atomic := by
  refine (direct_readOnly (writes_attempt.mpr writes_select)).bind fun seen => ?_
  split
  · split
    · exact ((requestOwnedTaskDeletion_atomic).map _).mapError _
    · exact immediate_atomic _
  · exact immediate_atomic _

theorem requestAdminCancel_atomic {o : Options} {taskID callbackID : String} {now : Int} :
    (requestAdminCancel o taskID callbackID now).Atomic := by
  refine (direct_readOnly (writes_attempt.mpr writes_select)).bind fun seen => ?_
  split <;> exact immediate_atomic _

/-- The claim transaction has no effect when it fails, so what is left is what the recovery
committed. -/
theorem claimResultUploadJob_error {faults : Faults Err} {n : Nat} {db : Database} {e : Err} (uuid : Nat → String)
    (leaseToken : String) (leaseDuration now : Int)
    (failed : (claimResultUploadJob uuid leaseToken leaseDuration now faults n db).result = .error e) :
    (claimResultUploadJob uuid leaseToken leaseDuration now faults n db).db =
      (recoverExhaustedResultUploads uuid now faults n db).db := by
  revert failed
  show Outcome.result (Bind.bind (recoverExhaustedResultUploads uuid now) _ faults n db) = _ → _
  simp only [claimResultUploadJob, Bind.bind]
  cases out : recoverExhaustedResultUploads uuid now faults n db with
  | mk result mid m =>
    cases result with
    | error e => exact fun _ => rfl
    | ok a => exact fun failed => immediate_atomic _ faults m mid e failed

/-- Whatever statement fails, BEGIN and COMMIT included, an operation that reports the error
to its transaction leaves the store as it was. `ClaimResultUploadJob` first commits the
recovery of exhausted jobs by itself, so that no queue being empty can undo it. -/
theorem StoreOp.error_no_effect {α : Type} {c : Call α} (op : StoreOp c) (reports : op.shadows = false) {faults : Faults Err}
    {n : Nat} {db : Database} {e : Err} (failed : (c faults n db).result = .error e) :
    (c faults n db).db = db ∨ Recovered faults n db c (c faults n db).db := by
  cases op with
  | markSucceeded => cases reports
  | finishCancelled => cases reports
  | markFailed => cases reports
  | bindStageExecution => cases reports
  | retryArtifactCleanup => cases reports
  | claimResultUploadJob uuid leaseToken leaseDuration now =>
    right
    rw [claimResultUploadJob_error uuid leaseToken leaseDuration now failed]
    exact .claim uuid leaseToken leaseDuration now
  | cancelOrDelete => exact .inl (cancelOrDelete_atomic _ _ _ _ failed)
  | requestAdminCancel => exact .inl (requestAdminCancel_atomic _ _ _ _ failed)
  | registerStageOutput => exact .inl (registerStageOutput_atomic _ _ _ _ failed)
  | completeStageWithOutput => exact .inl (completeStageWithOutput_atomic _ _ _ _ failed)
  | confirmArtifactCleanup => exact .inl (confirmArtifactCleanup_atomic _ _ _ _ _ _ _ _ failed)
  | refreshModelCatalog => exact .inl (refreshModelCatalog_atomic _ _ _ _ failed)
  | registerInputArtifact =>
    exact .inl (checked_atomic (checked_atomic (checked_atomic (immediate_atomic _))) _ _ _ _ failed)
  | claimNextOfficial => exact .inl (checked_atomic (immediate_atomic _) _ _ _ _ failed)
  | claimNextRemote => exact .inl (checked_atomic (immediate_atomic _) _ _ _ _ failed)
  | acquireRemoteLease => exact .inl (checked_atomic (immediate_atomic _) _ _ _ _ failed)
  | bindRemoteTask => exact .inl (checked_atomic (immediate_atomic _) _ _ _ _ failed)
  | observeRemoteTask => exact .inl (checked_atomic (checked_atomic (immediate_atomic _)) _ _ _ _ failed)
  | completeRemoteRun => exact .inl (checked_atomic (checked_atomic (immediate_atomic _)) _ _ _ _ failed)
  | _ => exact .inl (immediate_atomic _ _ _ _ _ failed)

/-- A delivered task whose third upload attempt lost its worker. -/
def exhaustedUpload : Database :=
  DB.empty.load
    [.insert Tbl.videoTasks fun _ seq =>
      [{ queueSeq := seq, taskID := "t1", apiKeyID := "k1", requestJSON := .value { model := "MiniMax-H3", content := [] }
         status := .reconciling, resultInternalURL := some "https://origin/v.mp4", createdAt := 0, updatedAt := 0
         expiresAt := 100 }],
    .insert Tbl.resultUploadJobs fun _ _ =>
      [{ id := "j1", taskID := "t1", objectKey := "t1.mp4", status := .uploading, attemptNo := 3, leaseToken := some "w1"
         leaseExpiresAt := some 1000, createdAt := 0, updatedAt := 0 }]]

/-- Statement `k` fails. -/
def failsAt (k : Nat) : Faults Err := fun n => if n = k then some (.other "disk I/O error") else none

/-- The worker is back in time. -/
def lateUpload (k : Nat) : Outcome schema Err Unit :=
  Store.completeResultUpload "j1" "w1" "https://cdn/v.mp4" 1 "c1" 500 (failsAt k) 0 exhaustedUpload

/-- Without a failure it stores the result with its six statements; the fourth has written the task, and the last is the COMMIT. -/
theorem completeResultUpload_error_no_effect :
    (lateUpload 6).result = .ok () ∧ Database.tasks (lateUpload 6).db ≠ Database.tasks exhaustedUpload ∧ ∀ k < 6,
      (lateUpload k).result = .error (.other "disk I/O error") ∧ ((lateUpload k).db = exhaustedUpload ∨
        Recovered (failsAt k) 0 exhaustedUpload
          (Store.completeResultUpload "j1" "w1" "https://cdn/v.mp4" 1 "c1" 500) (lateUpload k).db) := by
  refine ⟨rfl, fun same => absurd (congrArg (List.map (·.status)) same) (by decide), fun k below => ?_⟩
  have failed : (lateUpload k).result = .error (.other "disk I/O error") := by
    interval_cases k <;> rfl
  exact ⟨failed, StoreOp.error_no_effect (.completeResultUpload "j1" "w1" "https://cdn/v.mp4" 1 "c1" 500) rfl failed⟩

/-- The claim finds no job and reports an empty queue, but the exhausted job and its task
have failed. -/
theorem claimResultUploadJob_commits_recovery :
    (Store.claimResultUploadJob (fun _ => "c1") "w2" 60000 2000 noFaults 0 exhaustedUpload).result = .error .queueEmpty ∧
      (Store.claimResultUploadJob (fun _ => "c1") "w2" 60000 2000 noFaults 0 exhaustedUpload).db ≠ exhaustedUpload := by
  refine ⟨rfl, fun same => ?_⟩
  have jobs := congrArg (fun db : Database => db.uploadJobs.map (·.status)) same
  exact absurd jobs (by decide)

end MinimaxProxy.Store
