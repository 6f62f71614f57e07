import MinimaxProxy.Service.Deletion
import MinimaxProxy.Store.Columns

/-!
# Times of tasks

Almost every operation writes the time of a task's last change in seconds. Those that delete
artifacts take the clock of their own tables, which is in milliseconds, and write that.
-/

namespace MinimaxProxy.Service
open Sql Sql.Prog Store

/-! ## What a step writes -/

/-- The deeds that write milliseconds. -/
def Deed.inMillis : Deed → Bool
  | .requestTaskDeletion .. | .confirmArtifactCleanup .. | .failDeletionItem .. | .completeDeletionItem .. => true
  | _ => false

/-- The time the deed writes. -/
def Deed.stamp (d : Deed) (now : Int) : Int := if d.inMillis then now else unix now

/-- The deeds of a legacy worker that write what it has submitted. -/
def Deed.marks : Deed → Bool
  | .saveBaseline .. | .beginRetry .. | .requeue .. => true
  | _ => false

variable {o : Options} {s t : State} {e : Event}

theorem Deed.touches (d : Deed) (o : Options) (now : Int) (faults : Faults Err) (n : Nat) (db : Database) :
    (touchLaw (d.stamp now) d.marks d.mints).Evolves db (d.after o now faults n db) := by
  cases d with
  | create => exact create_touches faults n db
  | adminCancel => exact adminCancel_touches faults n db
  | adminDelete => exact adminDelete_touches faults n db
  | confirmArtifactCleanup => exact confirmArtifactCleanup_touches faults n db
  | bindLegacyTaskRoute => exact bindLegacyTaskRoute_touches faults n db
  | claimNext => exact claimNext_touches faults n db
  | saveSubmissionContext => exact saveSubmissionContext_touches faults n db
  | bindUpstreamJob => exact bindUpstreamJob_touches faults n db
  | markRunning => exact markRunning_touches faults n db
  | markReconciling => exact markReconciling_touches faults n db
  | markSucceeded => exact markSucceeded_touches faults n db
  | finishCancelled => exact finishCancelled_touches faults n db
  | markFailed => exact markFailed_touches faults n db
  | bindRemoteTask => exact bindRemoteTask_touches faults n db
  | completeRemoteRun => exact completeRemoteRun_touches faults n db
  | cancelQueued | requestRemoteCancel | retryResultUpload | requeue | markOfficialFailed | recoverExhaustedResultUploads
  | failResultUploadAttempt | completeResultUpload | claimDeletionItem | requestTaskDeletion | failDeletionItem | completeDeletionItem =>
    exact lawful_immediate (by simp [cancelQueuedBody, ownerCancelledTask, requestRemoteCancelBody, cancellingTask, retryResultUploadBody,
      retriedTask, requeueBody, markOfficialFailedBody, recoverExhaustedBody,
        failResultUploadAttemptBody, uploadingJob, completeResultUploadBody,
      deliveredTask, claimDeletionItemBody, requestTaskDeletionBody, failDeletionItemBody, completeDeletionItemBody, heldItem, artifactTask,
      touched_iff, Deed.stamp, Deed.inMillis, Deed.marks, Deed.mints]) faults n db
  | markOfficialGenerated _ _ _ _ uploadJob =>
    exact lawful_immediate (by cases uploadJob <;> simp [markOfficialGeneratedBody,
      officialGeneratedTask, touched_iff, Deed.stamp, Deed.inMillis]) faults n db
  | claimNextOfficial | claimNextRemote =>
    exact lawful_ite lawful_fail (lawful_immediate
      (by simp [claimNextOfficialBody, touches_takeTask, officialClaimedTask, claimNextRemoteBody,
      writes_admissionRoom, remoteClaimedTask, touched_iff, Deed.stamp, Deed.inMillis])) faults n db
  | observeRemoteTask =>
    exact lawful_ite lawful_fail (lawful_ite lawful_fail (lawful_immediate
      (by simp [observeRemoteTaskBody, touched_iff, Deed.stamp, Deed.inMillis]))) faults n db
  | saveBaseline | beginRetry | saveOfficialSubmissionBaseline | bindOfficialTask | renewDeletionLease =>
    exact lawful_direct (by simp [workerUpdate, touched_iff, Deed.stamp, Deed.inMillis, Deed.marks, Deed.mints]) faults n db
  | updateRemoteResult | previewArtifactCleanup =>
    exact lawful_ite lawful_fail (lawful_direct (by simp [touched_iff, Deed.stamp, Deed.inMillis])) faults n db
  | retryArtifactCleanup => exact lawful_immediateShadowed (by simp [retryArtifactCleanupBody]) faults n db
  | _ => exact evolves_of_quiet (Deed.evolves_of_kinds rfl o now faults n db) ⟨rfl, fun _ => trivial, fun _ => id, fun _ => id⟩

/-- The steps of a worker of an H3 node. -/
theorem Work.touches {w : Work} {nodeID : String} {now : Int} {faults : Faults Err}
    {n : Nat} {db : Database} {seat seat' : Seat} {db' : Database}
    (taken : w.step o nodeID now faults n db seat = some (db', seat')) :
    (touchLaw (unix now) false).Evolves db db' := by
  cases Work.taken taken with
  | resume | leave => exact Laws.chains.refl _
  | claim | begin | fail =>
    exact lawful_immediate (by simp [claimStageBody, createStageAttemptBody, writes_taskEligibleForNode, dispatchedTask, failStageBody,
      touched_iff, unix]) faults n db
  | bind => exact bindStageExecution_touches faults n db
  | renew => exact lawful_direct (by simp) faults n db
  | complete => exact completeStageWithOutput_touches faults n db

def Op.stamp (now : Int) : Op → Int
  | .deed d => d.stamp now
  | _ => unix now

def Op.marks : Op → Bool
  | .deed d => d.marks
  | _ => false

def Op.mints : Op → List String
  | .deed d => d.mints
  | _ => []

theorem Step.touches (step : Step o s e t) : (touchLaw (e.op.stamp e.now) e.op.marks e.op.mints).Evolves s.db t.db := by
  cases step with
  | deed d now faults n known => exact d.touches o now faults n s.db
  | decide | abandon | recognise => exact Laws.chains.refl _
  | work nodeID w now faults n db seat named new taken => exact Work.touches taken

theorem Step.clock (step : Step o s e t) : t.clock = max s.clock e.now := by
  cases step <;> rfl

/-! ## Runs -/

/-- `time` is the clock of a state between `s` and `t`, in seconds. -/
def ReadBetween (o : Options) (ok : State → Event → Prop) (s t : State) (time : Int) : Prop :=
  ∃ u, Reaches o ok s u ∧ Reaches o ok u t ∧ time = unix u.clock

/-- The times of a task in `t`, reached from `s`. -/
structure Timely (o : Options) (ok : State → Event → Prop) (s t : State) (task : Task) : Prop where
  created : ReadBetween o ok s t task.createdAt
  updated : ReadBetween o ok s t task.updatedAt
  ordered : task.createdAt ≤ task.updatedAt
  past : task.updatedAt ≤ unix t.clock

/-- The clock does not go back. -/
def Forward (s : State) (e : Event) : Prop := s.clock ≤ e.now

instance (s : State) (e : Event) : Decidable (Forward s e) := inferInstanceAs (Decidable (s.clock ≤ e.now))

/-- The step is none of those that delete artifacts. -/
def Op.inSeconds : Op → Bool
  | .deed d => !d.inMillis
  | _ => true

/-- The clock does not go back, and the step deletes no artifacts. -/
def InSeconds (s : State) (e : Event) : Prop := Forward s e ∧ e.op.inSeconds = true

instance (s : State) (e : Event) : Decidable (InSeconds s e) := inferInstanceAs (Decidable (_ ∧ _))

theorem Op.stamp_inSeconds {op : Op} (seconds : op.inSeconds = true) (now : Int) : op.stamp now = unix now := by
  cases op with
  | deed d => simp_all [Op.inSeconds, Op.stamp, Deed.stamp]
  | _ => rfl

theorem unix_mono {a b : Int} (le : a ≤ b) : unix a ≤ unix b := Int.ediv_le_ediv (by decide) le

variable {ok : State → Event → Prop} {s₀ : State} {task : Task}

theorem ReadBetween.step {time : Int} (h : ReadBetween o ok s₀ s time)
    (met : ok s e) (step : Step o s e t) : ReadBetween o ok s₀ t time := by
  obtain ⟨u, before, after, read⟩ := h
  exact ⟨u, before, .tail e after met step, read⟩

theorem Timely.step (h : Timely o ok s₀ s task) (met : ok s e) (step : Step o s e t) : Timely o ok s₀ t task := by
  refine ⟨h.created.step met step, h.updated.step met step, h.ordered, Int.le_trans h.past (unix_mono ?_)⟩
  rw [step.clock]
  exact Int.le_max_left _ _

/-- A change of the task at the clock of the state. -/
theorem Timely.touched {task' : Task} {marks : Bool} (h : Timely o ok s₀ t task) (run : Reaches o ok s₀ t)
    (touched : Touched (unix t.clock) marks task task') : Timely o ok s₀ t task' := by
  have now : ReadBetween o ok s₀ t (unix t.clock) := ⟨t, run, .refl, rfl⟩
  rcases touched.updatedAt with same | time
  · exact ⟨touched.createdAt ▸ h.created, same ▸ h.updated, by rw [touched.createdAt, same]; exact h.ordered, same ▸ h.past⟩
  · refine ⟨touched.createdAt ▸ h.created, time ▸ now, ?_, Int.le_of_eq time⟩
    rw [touched.createdAt, time]
    exact Int.le_trans h.ordered h.past

theorem timely_new (run : Reaches o ok s₀ t) {ids : List String} (new : Stamped (unix t.clock) ids task) : Timely o ok s₀ t task := by
  have now : ReadBetween o ok s₀ t (unix t.clock) := ⟨t, run, .refl, rfl⟩
  exact ⟨new.createdAt ▸ now, new.updatedAt ▸ now, by rw [new.createdAt, new.updatedAt], Int.le_of_eq new.updatedAt⟩

/-- With a clock that does not go back, and no deletion of artifacts, the times of every task are
readings of the clock in seconds: it was created before its last change, and that is in the past. -/
theorem task_times_in_seconds {s₀ s : State} {o : Options} (start : Start s₀) (run : Reaches o InSeconds s₀ s) :
    ∀ task ∈ s.db.tasks, Timely o InSeconds s₀ s task := by
  refine (Reaches.holds (J := fun s => Reaches o InSeconds s₀ s ∧ ∀ task ∈ s.db.tasks, Timely o InSeconds s₀ s task) start
    ⟨.refl, fun task mem => ?_⟩ (fun t e u inv h met step => ?_) run).2.2
  · rw [start.tasks] at mem
    cases mem
  · have reached : Reaches o InSeconds s₀ u := .tail e h.1 met step
    have time : e.op.stamp e.now = unix u.clock := by
      rw [Op.stamp_inSeconds met.2, step.clock, Int.max_eq_right met.1]
    have law := step.touches .videoTasks
    rw [time] at law
    exact ⟨reached, Law.Evolves.forall law (fun _ _ h touched => h.touched reached touched) (fun _ new => timely_new reached new)
      fun task mem => (h.2 task mem).step met step⟩

/-- A run that meets the condition: its task has failed to be delivered. -/
theorem task_times_undelivered :
    ((remoteStart.after Flow.remoteOptions undelivered).db.tasks.map fun t => (t.taskID, t.createdAt, t.updatedAt)) = [("t1", 1, 1)] ∧
      ∀ task ∈ (remoteStart.after Flow.remoteOptions undelivered).db.tasks,
        Timely Flow.remoteOptions InSeconds remoteStart
          (remoteStart.after Flow.remoteOptions undelivered) task :=
  ⟨by decide +kernel, task_times_in_seconds remoteStart_start (reaches_of_meets (by decide +kernel))⟩

/-- Without the second condition: the owner deletes the task, and its last change is in the
future. -/
theorem deleted_task_in_millis :
    Start remoteStart ∧
      Reaches Flow.remoteOptions Forward remoteStart (remoteStart.after Flow.remoteOptions deletedUndelivered) ∧
      ((remoteStart.after Flow.remoteOptions deletedUndelivered).db.tasks.map fun t => (t.taskID, t.createdAt, t.updatedAt))
        = [("t1", 1, 1000)] ∧
      ¬ ∀ task ∈ (remoteStart.after Flow.remoteOptions deletedUndelivered).db.tasks,
        task.updatedAt ≤ unix (remoteStart.after Flow.remoteOptions deletedUndelivered).clock :=
  ⟨remoteStart_start, reaches_of_meets (by decide +kernel), by decide +kernel, by decide +kernel⟩

end MinimaxProxy.Service
