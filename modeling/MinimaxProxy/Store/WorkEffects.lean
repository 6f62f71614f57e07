import MinimaxProxy.Store.Effects

/-!
# What the workers and the node settings change

The bounds of `Store.Effects` for the upload, cleanup, callback and legacy workers, for the
lease of a stage and for the settings of the nodes.
-/

namespace MinimaxProxy.Store
open Sql Sql.Prog

variable {callbackID code itemID jobID leaseToken message taskID upstreamID : String} {leaseDuration now : Int}

/-! ## Upload workers -/

/-- The end of an upload without a result. -/
def undeliverEffect : Effect := { kinds := [.undeliver], tables := [.resultUploadJobs, .callbackDeliveries] }

theorem completeResultUpload_lawful {publicURL : String} {bytesUploaded : Int} :
    Lawful ({ kinds := [.deliver], tables := [.resultUploadJobs, .callbackDeliveries] } : Effect).law
      (completeResultUpload jobID leaseToken publicURL bytesUploaded callbackID now) := by
  refine lawful_immediate (writes_bind writes_query fun job => writes_bind (by simp) fun _ => ?_)
  refine writes_bind (writes_tasks fun _ t hit _ => ⟨.deliver, by decide, ?_⟩) fun _ => by simp
  simp only [Bool.and_eq_true, beq_iff_eq] at hit
  exact .deliver publicURL hit.1.2 hit.2

/-! ## Cleanup workers -/

/-- The tables of the cleanup workers. -/
def cleanupTables : List Tbl := [.artifactDeletionItems, .artifactDeletionJobs, .artifactLocations, .taskArtifacts]

def cleanupEffect : Effect := { kinds := [.note], tables := cleanupTables }

/-! ## Copies of artifacts -/

def copyEffect : Effect := { kinds := [], tables := [.taskArtifacts, .artifactLocations] }

/-- The last statement of `CleanupExpired`: keys that have expired. -/
def dropExpiredKeys (size : Nat) (now : Int) : Call Nat :=
  direct (exec (.delete Tbl.idempotencyKeys fun (db : Database) (k : IdempotencyKey) =>
    (((db.rows Tbl.idempotencyKeys).filter fun (k : IdempotencyKey) => k.expiresAt ≤ unix now).take size).any (·.id == k.id)))

/-! ## Callback workers -/

def callbackEffect : Effect := { kinds := [], tables := [.callbackDeliveries] }

/-! ## Barriers -/

def barrierEffect : Effect := { kinds := [], tables := [.nodeDispatchBarriers] }

@[simp] theorem writes_barrierOneRow {P : Dml → Prop} (n : Nat) : (barrierOneRow n).Writes P := by simp [barrierOneRow]

/-! ## Legacy workers -/

/-- A worker of a legacy node has the task. -/
def legacyEffect (taskID : String) (kinds : List Kind) (tables : List Tbl := []) : Effect where
  kinds := kinds
  tables := tables
  given c := c.taskID = taskID → c.protocol = some .legacy

section
variable {kinds : List Kind} {tables : List Tbl} {wanted : TaskStatus → Bool} {set : Task → Task} {kind : Kind}

theorem writes_workerUpdate (mem : kind ∈ kinds)
    (h : ∀ t : Task, t.protocolVersion = some .legacy → wanted t.status = true → CoreMove t.core kind (set t).core) :
    (workerUpdate taskID upstreamID wanted set).Writes (Obeys (legacyEffect taskID kinds tables).law) := by
  refine writes_tasks fun _ t hit known => ⟨kind, mem, ?_⟩
  simp only [Bool.and_eq_true, beq_iff_eq] at hit
  exact h t (known hit.1.1) hit.2

theorem workerStep_lawful (mem : kind ∈ kinds)
    (h : ∀ t : Task, t.protocolVersion = some .legacy → wanted t.status = true → CoreMove t.core kind (set t).core) :
    Lawful (legacyEffect taskID kinds).law (workerStep taskID upstreamID wanted set) :=
  lawful_direct (writes_bind (writes_workerUpdate mem h) fun _ => writes_oneRow _)

theorem workerEnd_lawful (mem : kind ∈ kinds) (callbacks : .callbackDeliveries ∈ tables) {status : String}
    (h : ∀ t : Task, t.protocolVersion = some .legacy → wanted t.status = true → CoreMove t.core kind (set t).core) :
    Lawful (legacyEffect taskID kinds tables).law
      (immediateShadowed (workerEnd taskID upstreamID wanted set callbackID status now)) :=
  lawful_immediateShadowed (writes_bind (writes_workerUpdate mem h) fun n => by simp [legacyEffect, callbacks])

end

theorem bindUpstreamJob_lawful : Lawful (legacyEffect taskID [.work]).law (bindUpstreamJob taskID upstreamID jobID now) := by
  refine workerStep_lawful (by decide) fun t legacy hit => .work .running t.errorCode legacy ?_ rfl
  show t.status.isActive = true
  rw [TaskStatus.isActive]
  simp only [Bool.or_eq_true, beq_iff_eq] at hit ⊢
  exact hit.imp_left .inl

theorem beginRetry_lawful {jobIDsBefore : List String} {galleryBefore : String} :
    Lawful (legacyEffect taskID [.work]).law (beginRetry taskID upstreamID jobIDsBefore galleryBefore now) := by
  refine lawful_direct (writes_bind (writes_tasks fun _ t hit known => ⟨.work, by simp [legacyEffect], ?_⟩) fun _ => writes_oneRow _)
  simp only [Bool.and_eq_true, Bool.or_eq_true, beq_iff_eq] at hit
  refine .work .dispatching none (known hit.1.1.1) ?_ rfl
  show t.status.isActive = true
  rcases hit.2 with status | status <;> rw [status] <;> rfl

theorem markRunning_lawful : Lawful (legacyEffect taskID [.work]).law (markRunning taskID upstreamID now) := by
  refine workerStep_lawful (by decide) fun t legacy hit => .work .running t.errorCode legacy ?_ rfl
  show t.status.isActive = true
  rw [beq_iff_eq.mp hit]
  rfl

theorem requeue_lawful {o : Options} : Lawful (legacyEffect taskID [.requeue, .rank]).law (requeue o taskID upstreamID now) := by
  refine lawful_immediate (writes_bind (writes_tasks fun _ t hit known =>
    ⟨.requeue, by simp [legacyEffect], ?_⟩) fun _ => by simp [legacyEffect])
  simp only [Bool.and_eq_true, beq_iff_eq] at hit
  exact .requeue (known hit.1.1) hit.2

end MinimaxProxy.Store
