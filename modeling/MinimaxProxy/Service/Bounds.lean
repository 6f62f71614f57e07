import MinimaxProxy.Service.System

/-!
# What each step of the service changes

Every deed is bounded by an effect, in states where the rows of the tasks make sense and the
stages are in order.
-/

namespace MinimaxProxy.Service
open Sql Sql.Prog Store

/-- An administrator's cancel, whichever path it takes. -/
def adminCancelEffect : Effect where
  kinds := [.cancelQueued, .rank, .askCancel, .cancelStages]
  tables := [.nodeDispatchBarriers, .stageAttempts, .taskStages, .callbackDeliveries]

/-- The bound of a deed. -/
def Deed.effect : Deed → Effect
  | .create _ input _ _ => createEffect input.taskID input.apiKeyID
  | .cancelQueued .. => cancelQueuedEffect
  | .adminCancel .. => adminCancelEffect
  | .requestRemoteCancel .. => { kinds := [.askCancel], tables := [.taskRemoteRuns] }
  | .requestTaskDeletion _ taskID _ _ => requestTaskDeletionEffect taskID
  | .adminDelete .. => adminDeleteEffect
  | .retryResultUpload .. => retryResultUploadEffect
  | .previewArtifactCleanup .. | .retryArtifactCleanup .. | .claimDeletionItem .. | .renewDeletionLease ..
  | .failDeletionItem .. | .completeDeletionItem .. => cleanupEffect
  | .confirmArtifactCleanup .. => confirmArtifactCleanupEffect
  | .createModelNode .. | .updateModelNode .. | .deleteModelNode .. | .importLegacyNodes .. => nodeEffect
  | .refreshModelCatalog .. | .bindModelRoute .. => catalogEffect
  | .bindLegacyTaskRoute .. => bindLegacyTaskRouteEffect
  | .claimNext .. => claimNextEffect
  | .saveBaseline taskID .. | .saveSubmissionContext taskID .. => legacyEffect taskID [.note]
  | .bindUpstreamJob taskID .. | .beginRetry taskID .. | .markRunning taskID .. | .markReconciling taskID .. =>
    legacyEffect taskID [.work]
  | .markSucceeded taskID .. => legacyEffect taskID [.succeed] [.callbackDeliveries]
  | .finishCancelled taskID .. => legacyEffect taskID [.finishCancel] [.callbackDeliveries]
  | .markFailed taskID .. => legacyEffect taskID [.fail] [.callbackDeliveries]
  | .requeue taskID .. => legacyEffect taskID [.requeue, .rank]
  | .claimNextOfficial .. => claimNextOfficialEffect
  | .saveOfficialSubmissionBaseline .. => { kinds := [.note] }
  | .bindOfficialTask .. => { kinds := [.bindOfficial] }
  | .markOfficialGenerated .. => { kinds := [.generate], tables := officialEndTables }
  | .markOfficialFailed .. => { kinds := [.failOfficial], tables := officialEndTables }
  | .claimNextRemote .. => claimNextRemoteEffect
  | .acquireRemoteLease .. | .renewRemoteLease .. | .releaseRemoteLease .. | .prepareRemoteRequest ..
  | .beginRemoteSubmission .. => runEffect
  | .saveRemoteAsset .. => { kinds := [], tables := [.taskNodeAssets] }
  | .bindRemoteTask .. => { kinds := [.bindRemote], tables := [.taskRemoteRuns] }
  | .observeRemoteTask .. => { kinds := [.resume], tables := [.taskRemoteRuns] }
  | .completeRemoteRun .. => { kinds := [.complete], tables := remoteEndTables }
  | .updateRemoteResult .. => { kinds := [.note] }
  | .recoverExhaustedResultUploads .. | .failResultUploadAttempt .. => undeliverEffect
  | .claimUploadJob .. => { kinds := [], tables := [.resultUploadJobs] }
  | .completeResultUpload .. => { kinds := [.deliver], tables := [.resultUploadJobs, .callbackDeliveries] }
  | .claimCallbackDelivery .. | .markCallbackSucceeded .. | .scheduleCallbackRetry .. | .markCallbackFailed .. => callbackEffect
  | .dropExpiredKeys .. => { kinds := [], tables := [.idempotencyKeys] }
  | .bindBarrierExecution .. | .deferNodeDispatchBarrier .. | .resolveNodeDispatchBarrier .. => barrierEffect
  | .registerInputArtifact .. | .createArtifactLocation .. | .updateImportingArtifactLocation ..
  | .activatePrimaryArtifactLocation .. => copyEffect

/-- What the bounds rest on. -/
structure Orderly (db : Database) : Prop where
  sound : ∀ t ∈ db.tasks, Sound t.core
  pipeline : Pipeline db
  previews : Previews db

theorem adminCancel_evolves {db db' : Database} {taskID : String} (cases : cancelTaskEffect.law.Evolves db db' ∨
    (CancelsStages taskID db db' ∧ cancelStagesEffect.law.Evolves db db' ∧ Barred taskID db db')) :
    adminCancelEffect.law.Evolves db db' := by
  rcases cases with law | ⟨-, law, -⟩
  · exact Effect.weaken law (by decide) (by decide) (fun _ => id) (fun _ => id) fun _ => id
  · exact Effect.weaken law (by decide) (by decide) (fun _ => id) (fun _ => id) fun _ => id

/-- What changes no row of a task is bounded in every state. -/
theorem Deed.evolves_of_kinds {d : Deed} (noKinds : d.effect.kinds = [])
    (o : Options) (now : Int) (faults : Faults Err) (n : Nat) (db : Database) :
    d.effect.law.Evolves db (d.after o now faults n db) := by
  cases d with
  | adminDelete taskID purged =>
    rcases adminDelete_cases purged with same | gone
    · rw [Deed.after, same]
      exact Laws.chains.refl _
    · exact gone.evolves
  | refreshModelCatalog => exact refreshModelCatalog_lawful faults n db
  | bindModelRoute => exact bindModelRoute_lawful faults n db
  | createModelNode | updateModelNode | deleteModelNode | claimUploadJob | claimCallbackDelivery | activatePrimaryArtifactLocation =>
    exact lawful_immediate (by simp [createModelNodeBody, updateModelNodeBody, deleteModelNodeBody, currentNode, updateNode, bumpRouting,
      claimUploadJobBody, claimCallbackDeliveryBody, activatePrimaryArtifactLocationBody,
        clearPrimary, Deed.effect, callbackEffect, copyEffect]) faults n db
  | importLegacyNodes => exact lawful_immediate (writes_bind writes_select fun b => by cases b <;> simp [Deed.effect]) faults n db
  | acquireRemoteLease =>
    exact lawful_ite lawful_fail (lawful_immediate (by simp [acquireRemoteLeaseBody, Deed.effect, runEffect])) faults n db
  | registerInputArtifact =>
    exact lawful_ite lawful_fail (lawful_ite lawful_fail (lawful_ite lawful_fail (lawful_immediate
      (by simp [registerInputArtifactBody, Deed.effect, copyEffect])))) faults n db
  | renewRemoteLease | prepareRemoteRequest | saveRemoteAsset =>
    exact lawful_ite lawful_fail (lawful_direct (by simp [leasedUpdate, Deed.effect, runEffect])) faults n db
  | releaseRemoteLease | beginRemoteSubmission | dropExpiredKeys | createArtifactLocation | updateImportingArtifactLocation
  | markCallbackSucceeded | scheduleCallbackRetry | markCallbackFailed
    | bindBarrierExecution | deferNodeDispatchBarrier | resolveNodeDispatchBarrier =>
    exact lawful_direct (by simp [leasedUpdate, Deed.effect, runEffect, copyEffect, callbackEffect, barrierEffect]) faults n db
  | _ => cases noKinds

theorem Deed.evolves (d : Deed) (o : Options) (now : Int) (faults : Faults Err) (n : Nat) {s : State} (orderly : Orderly s.db)
    (known : d.Known s) : d.effect.law.Evolves s.db (d.after o now faults n s.db) := by
  cases d with
  | create => exact create_evolves o _ _ _ _ now faults n s.db
  | cancelQueued => exact cancelQueued_lawful faults n s.db
  | adminCancel taskID callbackID =>
    exact adminCancel_evolves (adminCancel_cases orderly.pipeline orderly.sound)
  | requestRemoteCancel => exact requestRemoteCancel_lawful faults n s.db
  | requestTaskDeletion => exact requestTaskDeletion_lawful faults n s.db
  | confirmArtifactCleanup uuid token confirmation =>
    exact (confirmArtifactCleanup_evolves uuid token confirmation now faults n orderly.previews).1
  | bindLegacyTaskRoute => exact bindLegacyTaskRoute_evolves
  | claimNext => exact claimNext_evolves known
  | bindUpstreamJob => exact bindUpstreamJob_lawful faults n s.db
  | beginRetry => exact beginRetry_lawful faults n s.db
  | markRunning => exact markRunning_lawful faults n s.db
  | requeue => exact requeue_lawful faults n s.db
  | claimNextOfficial => exact claimNextOfficial_evolves
  | bindOfficialTask => exact bindOfficialTask_lawful faults n s.db
  | markOfficialGenerated => exact markOfficialGenerated_lawful faults n s.db
  | markOfficialFailed => exact markOfficialFailed_lawful faults n s.db
  | claimNextRemote => exact claimNextRemote_evolves
  | bindRemoteTask => exact bindRemoteTask_lawful faults n s.db
  | observeRemoteTask => exact observeRemoteTask_lawful faults n s.db
  | completeRemoteRun => exact completeRemoteRun_lawful faults n s.db
  | completeResultUpload => exact completeResultUpload_lawful faults n s.db
  | retryResultUpload =>
    exact lawful_immediate (writes_retryResultUpload (e := retryResultUploadEffect)
      (by decide) (by decide) fun _ _ _ _ => by decide) faults n s.db
  | recoverExhaustedResultUploads =>
    exact lawful_immediate (writes_bind writes_select fun jobs =>
      writes_forEach fun job _ => by simp [Deed.effect, undeliverEffect]) faults n s.db
  | failResultUploadAttempt =>
    exact lawful_immediate (writes_bind writes_query
      fun job => by simp [Deed.effect, undeliverEffect]) faults n s.db
  | claimDeletionItem | failDeletionItem | completeDeletionItem =>
    exact lawful_immediate (by simp [claimDeletionItemBody, failDeletionItemBody,
      completeDeletionItemBody, heldItem, artifactTask, Deed.effect,
      cleanupEffect, cleanupTables]) faults n s.db
  | renewDeletionLease => exact lawful_direct (by simp [Deed.effect, cleanupEffect, cleanupTables]) faults n s.db
  | previewArtifactCleanup =>
    exact lawful_ite lawful_fail (lawful_direct (by simp [Deed.effect, cleanupEffect, cleanupTables])) faults n s.db
  | retryArtifactCleanup =>
    exact lawful_immediateShadowed (by simp [retryArtifactCleanupBody, Deed.effect, cleanupEffect, cleanupTables]) faults n s.db
  | saveBaseline | saveSubmissionContext => exact workerStep_lawful (by decide) (fun _ _ _ => .note) faults n s.db
  | markReconciling => exact workerStep_lawful (by decide) (fun t legacy hit => .work .reconciling t.errorCode legacy hit rfl) faults n s.db
  | markSucceeded => exact workerEnd_lawful (by decide) (by decide) (fun _ legacy hit => .succeed _ _ legacy hit) faults n s.db
  | finishCancelled =>
    exact workerEnd_lawful (by decide) (by decide) (fun _ legacy hit => .finishCancel legacy (beq_iff_eq.mp hit)) faults n s.db
  | markFailed => exact workerEnd_lawful (by decide) (by decide) (fun _ legacy hit => .fail _ legacy hit) faults n s.db
  | saveOfficialSubmissionBaseline => exact lawful_direct (writes_note fun _ _ => rfl) faults n s.db
  | updateRemoteResult => exact lawful_ite lawful_fail (lawful_direct (writes_note fun _ _ => rfl)) faults n s.db
  | _ => exact Deed.evolves_of_kinds rfl o now faults n s.db

/-! ## What stays true meanwhile -/

theorem legacyEffect_stable {taskID : String} {kinds : List Kind} {tables : List Tbl} (calm : .route ∉ kinds) :
    (legacyEffect taskID kinds tables).Stable where
  given c k c' _ known mem move same := by
    have legacy := known (move.keeps.1 ▸ same)
    cases move with
    | route => exact absurd mem calm
    | _ => exact legacy
  fresh _ new := new.elim

theorem requestTaskDeletionEffect_stable {taskID : String} : (requestTaskDeletionEffect taskID).Stable where
  given _ _ _ sound known _ move same := move.isOver sound (known (move.keeps.1 ▸ same))
  fresh _ new := new.elim

theorem Deed.stable (d : Deed) : d.effect.Stable := by
  cases d with
  | create _ input _ _ =>
    refine Effect.stable_of_trivial (fun _ => trivial) fun c new => ?_
    obtain ⟨_, _, _, _, rfl⟩ := new
    exact newCore_sound ..
  | requestTaskDeletion => exact requestTaskDeletionEffect_stable
  | saveBaseline | saveSubmissionContext | bindUpstreamJob | beginRetry | markRunning | markReconciling | markSucceeded
  | finishCancelled | markFailed | requeue => exact legacyEffect_stable (by decide)
  | _ => exact Effect.stable_of_trivial (fun _ => trivial) fun _ new => new.elim

/-- An effect that the stages need not know of. -/
structure Gentle (e : Effect) : Prop where
  kinds : ∀ k ∈ e.kinds, k ∉ roughKinds
  stages : Tbl.taskStages ∉ e.tables
  attempts : Tbl.stageAttempts ∉ e.tables
  fresh : ∀ c, ¬ e.fresh c
  gone : ∀ c, ¬ e.gone c

theorem Gentle.quiet {e : Effect} {db db' : Database} (gentle : Gentle e) (stable : e.Stable) (law : e.law.Evolves db db')
    (known : ∀ t ∈ db.tasks, e.Known t) : Quiet db db' where
  stages := Effect.same_rows law (by decide) gentle.stages
  attempts := Effect.same_rows law (by decide) gentle.attempts
  back := calm_back stable law known gentle.kinds gentle.fresh
  forth := calm_forth stable law known gentle.gone

/-- The deeds that end, add or remove stages. -/
def Deed.staged : Deed → Bool
  | .create .. | .adminCancel .. | .adminDelete .. | .markOfficialGenerated .. | .markOfficialFailed .. => true
  | _ => false

theorem gentle_legacy {taskID : String} {kinds : List Kind} {tables : List Tbl} (calm : ∀ k ∈ kinds, k ∉ roughKinds)
    (stages : Tbl.taskStages ∉ tables) (attempts : Tbl.stageAttempts ∉ tables) : Gentle (legacyEffect taskID kinds tables) :=
  ⟨calm, stages, attempts, fun _ => id, fun _ => id⟩

theorem Deed.gentle {d : Deed} (unstaged : d.staged = false) : Gentle d.effect := by
  cases d with
  | create | adminCancel | adminDelete | markOfficialGenerated | markOfficialFailed => cases unstaged
  | requestTaskDeletion =>
    exact ⟨by simp [Deed.effect, requestTaskDeletionEffect, roughKinds],
      by simp [Deed.effect, requestTaskDeletionEffect, deletionTables],
      by simp [Deed.effect, requestTaskDeletionEffect, deletionTables], fun _ => id, fun _ => id⟩
  | saveBaseline | saveSubmissionContext | bindUpstreamJob | beginRetry | markRunning | markReconciling | markSucceeded
  | finishCancelled | markFailed | requeue => exact gentle_legacy (by decide) (by decide) (by decide)
  | _ =>
    exact ⟨by dsimp only [Deed.effect]; decide, by dsimp only [Deed.effect]; decide,
      by dsimp only [Deed.effect]; decide, fun _ => id, fun _ => id⟩

end MinimaxProxy.Service
