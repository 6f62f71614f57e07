import MinimaxProxy.Store.Creation
import MinimaxProxy.Store.StageEnds
import MinimaxProxy.Store.StageScan

/-!
# Times and retry marks of task rows

Columns that most operations leave alone or set in one way: the time of creation never
changes, the time of the last change is the clock in seconds, and only workers of legacy nodes
write the marks by which they know what they have submitted.
-/

namespace MinimaxProxy.Store
open Sql Sql.Prog

/-- A change of a task at `time`; `marks` says whether it may be one of the marks. If not, no task
comes back to the queue. -/
structure Touched (time : Int) (marks : Bool) (t t' : Task) : Prop where
  taskID : t'.taskID = t.taskID
  createdAt : t'.createdAt = t.createdAt
  updatedAt : t'.updatedAt = t.updatedAt ∨ t'.updatedAt = time
  unmarked : marks = false → t'.retryCount = t.retryCount ∧ t'.galleryBeforeJSON = t.galleryBeforeJSON ∧
    (t'.status.isQueued = true → t.status.isQueued = true)

def touchLaw (time : Int) (marks : Bool) (ids : List String := []) : Laws schema
  | .videoTasks => ⟨Touched time marks, Stamped time ids, fun _ => True⟩
  | _ => .any

section
variable {time : Int} {marks : Bool} {ids : List String}

theorem touchLaw_any {t : Tbl} (other : t ≠ .videoTasks) : touchLaw time marks ids t = .any := by
  cases t with
  | videoTasks => exact absurd rfl other
  | _ => rfl

/-- For the simplifier: a new row is compared field by field. -/
theorem touched_iff {t t' : Task} : Touched time marks t t' ↔ t'.taskID = t.taskID ∧ t'.createdAt = t.createdAt ∧
    (t'.updatedAt = t.updatedAt ∨ t'.updatedAt = time) ∧ (marks = false → t'.retryCount = t.retryCount ∧
      t'.galleryBeforeJSON = t.galleryBeforeJSON ∧
      (t'.status = .queuedOpen ∨ t'.status = .queuedLocked → t.status = .queuedOpen ∨ t.status = .queuedLocked)) := by
  have queued (s : TaskStatus) : s.isQueued = true ↔ s = .queuedOpen ∨ s = .queuedLocked := by simp [TaskStatus.isQueued]
  simp only [← queued]
  exact ⟨fun ⟨id, created, updated, unmarked⟩ => ⟨id, created, updated, unmarked⟩,
    fun ⟨id, created, updated, unmarked⟩ => ⟨id, created, updated, unmarked⟩⟩

@[simp] theorem obeys_touch_tasks {sel : Database → Task → Bool} {set : Database → Task → Task}
    (h : ∀ db t, sel db t = true → Touched time marks t (set db t)) : Obeys (touchLaw time marks ids) (.update Tbl.videoTasks sel set) :=
  obeys_update h

/-- A statement on one of the other tables. -/
@[simp] theorem obeys_touch_other {w : Dml} (other : ¬ w.table = .videoTasks) : Obeys (touchLaw time marks ids) w := by
  refine obeys_of_any (touchLaw_any other) fun t' r k mem parent cascade => ?_
  exact absurd (parent.symm.trans (cascade_parent mem cascade)) other

theorem evolves_of_quiet {e : Effect} {db db' : Database} (law : e.law.Evolves db db') (quiet : e.Quiet) :
    (touchLaw time marks ids).Evolves db db' := by
  intro t
  by_cases tasks : t = .videoTasks
  · subst tasks
    rw [show db'.rows .videoTasks = db.rows .videoTasks from Effect.same_tasks law quiet]
    exact .refl
  · rw [touchLaw_any tasks]
    exact Law.evolves_any _ _

/-- A part that leaves the tasks alone. -/
theorem touches_of_quiet {e : Effect} {α : Type} {p : Prog α} (quiet : e.Quiet) (h : p.Writes (Obeys e.law)) :
    p.Writes (Obeys (touchLaw time marks ids)) :=
  h.mono fun _ obeys db n db' applied => evolves_of_quiet (obeys db n db' applied) quiet

@[simp] theorem touches_rebalance {o : Options} : (rebalance o time).Writes (Obeys (touchLaw time marks ids)) := by
  refine writes_bind (writes_exec.mpr (obeys_touch_tasks fun _ _ hit =>
    ⟨rfl, rfl, .inr rfl, fun _ => ⟨rfl, rfl, fun _ => ?_⟩⟩)) fun _ => writes_pure
  exact (Bool.and_eq_true_iff.mp hit).2

@[simp] theorem touches_callback {id taskID status : String} {now : Int} :
    (createCallbackDelivery id taskID status now).Writes (Obeys (touchLaw time marks ids)) :=
  writes_createCallbackDelivery fun _ => obeys_touch_other (by simp)

@[simp] theorem touches_leased {r : RemoteRun} {now : Int} {guard : RemoteRun → Bool} {set : RemoteRun → RemoteRun} :
    (leasedUpdate r now guard set).Writes (Obeys (touchLaw time marks ids)) := by
  simp [leasedUpdate]

theorem touches_takeTask {o : Options} {nodeID : String} {claim : Task → Task} (h : ∀ t, Touched time marks t (claim t)) :
    (takeTask o nodeID time claim).Writes (Obeys (touchLaw time marks ids)) := by
  simp [takeTask, h]

end

/-! ## Owner and administrator -/

section
variable {o : Options} {now : Int}

theorem Created.touches {input : NewTask} {keyHash : String} {time : Int} {db db' : Database} {r : Task}
    (created : Created o input keyHash time db r db') : (touchLaw time false [input.taskID]).Evolves db db' := by
  cases created with
  | replayed => exact Laws.chains.refl db
  | inserted start mid _ row _ _ _ same inserted ranked _ =>
    refine Laws.chains.trans (fun t => ?_) (touches_rebalance.evolves ranked)
    by_cases tasks : t = .videoTasks
    · subst tasks
      have rows : mid.rows .videoTasks = db.rows .videoTasks ++ [row] :=
        inserted.tasks.trans (by rw [Database.tasks, same .videoTasks (by decide)])
      rw [rows]
      exact .single (.insert _ fun t mem => List.mem_singleton.mp mem ▸ inserted.stamped)
    · rw [touchLaw_any tasks]
      exact Law.evolves_any _ _

theorem create_touches {validURL : String → Bool} {input : NewTask} {keyHash : String} {available : Option Bool} :
    Lawful (touchLaw (unix now) false [input.taskID]) (create o validURL input keyHash available now) := fun faults n db => by
  rcases immediate_effect (createBody o validURL input keyHash available (unix now)) faults with same | ⟨r, out⟩
  · rw [create, same]
    exact Laws.chains.refl db
  · exact (createBody_spec out).touches

variable {owner taskID callbackID nodeID upstreamID leaseToken jobID itemID stageID attemptID code message : String}
  {capacity nodeVersion leaseDuration nextAttempt : Int}

@[simp] theorem touches_finishStages : (finishStageTaskCancellation callbackID taskID now).Writes (Obeys (touchLaw now false)) := by
  simp [finishStageTaskCancellation, cancelledStageTask, touched_iff]

theorem adminCancel_touches : Lawful (touchLaw (unix now) false) (adminCancel o taskID callbackID now) := by
  have barrier : (createNodeDispatchBarrierForTask taskID (unix now * 1000)).Writes (Obeys (touchLaw (unix now) false)) := by
    refine writes_select_bind.mpr fun db => ?_
    split <;> simp
  exact lawful_immediate (by simp [adminCancelBody, cancelFound, barrier, adminCancelledTask, adminCancellingTask, touched_iff])

/-! ## Claims -/

theorem claimNext_touches {version : Option Int} : Lawful (touchLaw (unix now) false) (claimNext o upstreamID version now) := by
  refine lawful_immediate ?_
  cases version <;> simp [claimNextBody, touches_takeTask, claimedTask, touched_iff]

/-! ## Legacy workers -/

section
variable {wanted : TaskStatus → Bool} {set : Task → Task} {marks : Bool}

theorem workerStep_touches (h : ∀ t, Touched (unix now) marks t (set t)) :
    Lawful (touchLaw (unix now) marks) (workerStep taskID upstreamID wanted set) :=
  lawful_direct (by simp [workerUpdate, h])

theorem workerEnd_touches {status : String} {stamp : Int} (h : ∀ t, Touched (unix now) marks t (set t)) :
    Lawful (touchLaw (unix now) marks) (immediateShadowed (workerEnd taskID upstreamID wanted set callbackID status stamp)) :=
  lawful_immediateShadowed (by simp [workerEnd, workerUpdate, h])

end

theorem saveSubmissionContext_touches {jobIDs : List String} :
    Lawful (touchLaw (unix now) false) (saveSubmissionContext taskID upstreamID jobIDs now) :=
  workerStep_touches (by simp [touched_iff])

theorem bindUpstreamJob_touches : Lawful (touchLaw (unix now) false) (bindUpstreamJob taskID upstreamID jobID now) :=
  workerStep_touches (by simp [touched_iff])

theorem markRunning_touches : Lawful (touchLaw (unix now) false) (markRunning taskID upstreamID now) :=
  workerStep_touches (by simp [touched_iff])

theorem markReconciling_touches : Lawful (touchLaw (unix now) false) (markReconciling taskID upstreamID now) :=
  workerStep_touches (by simp [touched_iff])

theorem markSucceeded_touches {internalURL publicURL ratio : String} :
    Lawful (touchLaw (unix now) false) (markSucceeded taskID upstreamID internalURL publicURL ratio callbackID now) :=
  workerEnd_touches (by simp [touched_iff])

theorem finishCancelled_touches : Lawful (touchLaw (unix now) false) (finishCancelled taskID upstreamID callbackID now) :=
  workerEnd_touches (by simp [touched_iff])

theorem markFailed_touches : Lawful (touchLaw (unix now) false) (markFailed taskID upstreamID code message callbackID now) :=
  workerEnd_touches (by simp [touched_iff])

/-! ## Official and remote workers -/

section
variable {r : RemoteRun}

theorem bindRemoteTask_touches {id : String} : Lawful (touchLaw (unix now) false) (bindRemoteTask r id now) := by
  refine lawful_ite lawful_fail (lawful_immediate ?_)
  simp [bindRemoteTaskBody, leasedUpdate]
  refine obeys_touch_tasks fun _ t _ => ⟨rfl, rfl, .inr rfl, fun _ => ⟨rfl, rfl, ?_⟩⟩
  dsimp only
  split
  · exact fun queued => queued
  · rintro ⟨⟩

theorem completeRemoteRun_touches {c : RemoteCompletion} : Lawful (touchLaw (unix now) false) (completeRemoteRun r c callbackID now) := by
  have ended : c.taskStatus ≠ .queuedOpen ∧ c.taskStatus ≠ .queuedLocked := by
    unfold RemoteCompletion.taskStatus
    split
    · simp
    · cases c.status <;> simp
  refine lawful_ite lawful_fail (lawful_ite lawful_fail (lawful_immediate ?_))
  cases job : c.uploadJob <;> simp [completeRemoteRunBody, leasedUpdate, remoteCompletedTask, job, touched_iff, ended]

end

/-! ## Upload and cleanup workers -/

@[simp] theorem touches_failDelivered : (failDeliveredTask callbackID taskID message now).Writes (Obeys (touchLaw (unix now) false)) := by
  simp [failDeliveredTask, undeliveredTask, touched_iff]

/-! ## Stages -/

theorem bindStageExecution_touches {executionID : String} :
    Lawful (touchLaw (unix now) false) (bindStageExecution stageID leaseToken attemptID executionID callbackID now) := by
  refine lawful_immediateShadowed ?_
  simp only [bindStageExecutionBody, writes_exec_bind, writes_ite, writes_pure]
  refine ⟨obeys_touch_other (by simp), fun _ => ⟨fun _ => trivial,
    fun _ => ⟨obeys_touch_other (by simp), fun _ => ⟨fun _ => trivial, fun _ => ?_⟩⟩⟩⟩
  refine writes_bind (by simp) fun found => ?_
  split <;> simp [touched_iff, unix]

@[simp] theorem touches_completeStage {outputArtifactID : Option String} :
    (completeStageBody stageID leaseToken attemptID outputArtifactID callbackID now).Writes (Obeys (touchLaw (unix now) false)) := by
  simp [completeStageBody, touched_iff, unix]

theorem completeStageWithOutput_touches {sha : String → String} {validMedia : Bool} {out : StageOutput} :
    Lawful (touchLaw (unix now) false) (completeStageWithOutput sha validMedia out leaseToken attemptID callbackID now) := by
  have registered : (registerStageOutputBody sha out now).Writes (Obeys (touchLaw (unix now) false)) :=
    touches_of_quiet ⟨rfl, fun _ => trivial, fun _ => id, fun _ => id⟩ writes_registerStageOutput
  unfold completeStageWithOutput
  split
  · exact lawful_fail
  · exact lawful_immediate (by simp [completeStageWithOutputBody, registered])

/-! ## Routes and removals -/

theorem bindLegacyTaskRoute_touches {normalize : Normalize} {nodeProtocol : Protocol} {version revision : Int} :
    Lawful (touchLaw (unix now) false) (bindLegacyTaskRoute o normalize taskID nodeProtocol version revision now) := by
  refine lawful_immediate (writes_bind writes_query fun t => writes_bind writes_require fun _ => writes_bind writes_select fun _ => ?_)
  refine writes_bind writes_require fun _ => writes_bind (writes_routeWith _) fun route => ?_
  refine writes_bind writes_require fun _ => writes_bind writes_require fun _ => ?_
  split
  · exact writes_fail
  refine writes_bind (writes_resolveSpoolRefs _ _ _) fun content => writes_bind (writes_chooseRequirements _ _ _ _ _ _) fun chosen => ?_
  split
  · exact writes_fail
  · simp [touched_iff]

theorem adminDelete_touches {purged : Option (List Location)} : Lawful (touchLaw (unix now) false) (adminDelete taskID purged) :=
  fun faults n db t => by
    by_cases tasks : t = .videoTasks
    · subst tasks
      rcases adminDelete_cases purged with same | gone
      · rw [same]
        exact .refl
      · rw [show (adminDelete taskID purged faults n db).db.rows .videoTasks = _ from gone.tasks]
        exact .single (.delete _ fun _ _ _ => trivial)
    · rw [touchLaw_any tasks]
      exact Law.evolves_any _ _

/-! ## Deletions

The four operations of the deletion of artifacts write the time of the last change in
milliseconds. -/

theorem confirmArtifactCleanup_touches {uuid : Nat → String} {token confirmation : String} :
    Lawful (touchLaw now false) (confirmArtifactCleanup uuid token confirmation now) := by
  unfold confirmArtifactCleanup
  split
  · exact lawful_ite lawful_fail (lawful_immediate (by simp [confirmArtifactCleanupBody, touched_iff]))
  · exact lawful_fail

@[simp] theorem touches_deletionState {state : DeletionState} :
    (setDeletionState taskID state now).Writes (Obeys (touchLaw now false)) := by
  simp [setDeletionState, touched_iff]

end

end MinimaxProxy.Store
