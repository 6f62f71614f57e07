import MinimaxProxy.Flow.System
import MinimaxProxy.Service.Invariant

/-!
# Tasks that have ended

A task that has succeeded or was cancelled stays as it is; one that has failed can only come
back for another round of uploads. That retry is also the one way in which a deleted task can
be at work again.
-/

namespace MinimaxProxy.Service
open Sql Sql.Prog Store

/-! ## The retry -/

/-- Only the row of `taskID` changes. -/
def onlyTask (taskID : String) : Laws schema
  | .videoTasks => .changes fun (t t' : Task) => t.taskID = taskID ∧ t'.taskID = taskID
  | _ => .any

theorem onlyTask_others {taskID : String} {db db' : Database} (h : (onlyTask taskID).Evolves db db') {t : Task} (stored : t ∈ db.tasks)
    (other : t.taskID ≠ taskID) : t ∈ db'.tasks := by
  have chained (a b c : Task) (first : b = a ∨ (a.taskID = taskID ∧ b.taskID = taskID))
      (last : c = b ∨ (b.taskID = taskID ∧ c.taskID = taskID)) :
      c = a ∨ (a.taskID = taskID ∧ c.taskID = taskID) := by
    rcases first with rfl | first
    · exact last
    · rcases last with rfl | last
      · exact .inr first
      · exact .inr ⟨first.1, last.2⟩
  rcases Law.Evolves.forth (h .videoTasks) (R := fun t t' : Task => t' = t ∨ (t.taskID = taskID ∧ t'.taskID = taskID)) (fun _ => .inl rfl)
    chained (fun _ _ change => .inr change) t stored with ⟨t', mem, same | own⟩ | ⟨_, gone, -⟩
  · exact same ▸ mem
  · exact absurd own.1 other
  · exact gone.elim

theorem retryResultUpload_only (taskID : String) (now : Int) : Lawful (onlyTask taskID) (retryResultUpload taskID now) := by
  refine lawful_immediate (writes_orElse (writes_bind (writes_exec.mpr (obeys_update fun _ _ _ => trivial)) fun _ =>
    writes_bind (writes_oneRow _) fun _ => writes_bind (writes_exec.mpr (obeys_update fun _ t hit => ?_)) fun _ => writes_oneRow _)
    fun _ => writes_fail)
  simp only [Bool.and_eq_true, beq_iff_eq] at hit
  exact ⟨hit.1.1.1, hit.1.1.1⟩

/-- What an operation other than the retry keeps. -/
def Final (c c' : Core) : Prop := c'.taskID = c.taskID ∧ (c.status.isTerminal = true → c'.status = c.status)

/-- What the retry does. -/
def Retried (c c' : Core) : Prop :=
  c'.taskID = c.taskID ∧ (c'.status = c.status ∨ c.status = .failed ∧ c'.status = .reconciling)

theorem Final.trans {a b c : Core} (first : Final a b) (last : Final b c) : Final a c := by
  refine ⟨last.1.trans first.1, fun isOver => ?_⟩
  have same := first.2 isOver
  exact (last.2 (same ▸ isOver)).trans same

theorem Retried.trans {a b c : Core} (first : Retried a b) (last : Retried b c) : Retried a c := by
  refine ⟨last.1.trans first.1, ?_⟩
  rcases first.2 with same | ⟨failed, again⟩
  · rcases last.2 with same' | ⟨failed, again⟩
    · exact .inl (same'.trans same)
    · exact .inr ⟨same ▸ failed, again⟩
  · rcases last.2 with same' | ⟨failed', -⟩
    · exact .inr ⟨failed, same'.trans again⟩
    · exact absurd (again.symm.trans failed') nofun

theorem not_terminal_of_taken {s : TaskStatus} (h : s.isTaken = true) : s.isTerminal = false := by
  cases s <;> first | rfl | cases h

theorem not_terminal_of_queued {s : TaskStatus} (h : s.isQueued = true) : s.isTerminal = false := by
  cases s <;> first | rfl | cases h

theorem not_terminal_of_unfinished {s : TaskStatus} (h : s.isUnfinished = true) : s.isTerminal = false := by
  cases s <;> first | rfl | cases h

theorem not_terminal_of_cancellable {s : TaskStatus} (h : s.adminCanCancel = true) : s.isTerminal = false := by
  cases s <;> first | rfl | cases h

theorem final_of_open {c c' : Core} (named : c'.taskID = c.taskID) (isOpen : c.status.isTerminal = false) : Final c c' :=
  ⟨named, fun isOver => absurd (isOpen.symm.trans isOver) nofun⟩

theorem final_of_move {c c' : Core} {k : Kind} (move : CoreMove c k c') (other : k ∉ [Kind.retry, .retryDeleted]) : Final c c' := by
  have named := move.keeps.1
  cases move with
  | retry | retryDeleted => exact absurd (by simp) other
  | note | delete | deleteLive | route => exact ⟨rfl, fun _ => rfl⟩
  | rank _ _ queued => exact final_of_open named (not_terminal_of_queued queued)
  | cancelQueued queued => exact final_of_open named (not_terminal_of_queued queued)
  | claimLegacy _ _ _ _ queued => exact final_of_open named (not_terminal_of_queued queued)
  | claimOfficial _ _ _ _ _ queued => exact final_of_open named (not_terminal_of_queued queued)
  | claimRemote _ _ _ _ _ queued => exact final_of_open named (not_terminal_of_queued queued)
  | askCancel taken => exact final_of_open named (not_terminal_of_taken taken)
  | bindRemote _ taken => exact final_of_open named (not_terminal_of_taken taken)
  | complete _ _ _ taken => exact final_of_open named (not_terminal_of_taken taken)
  | work _ _ _ active => exact final_of_open named (not_terminal_of_active active)
  | succeed _ _ _ active => exact final_of_open named (not_terminal_of_active active)
  | fail _ _ active => exact final_of_open named (not_terminal_of_active active)
  | execute _ _ _ _ active => exact final_of_open named (not_terminal_of_active active)
  | advance _ _ active => exact final_of_open named (not_terminal_of_active active)
  | finishStages _ _ _ active => exact final_of_open named (not_terminal_of_active active)
  | failStages _ _ _ active => exact final_of_open named (not_terminal_of_active active)
  | bindOfficial _ _ status | finishCancel _ status | requeue _ status | resume status | undeliver status | deliver _ status =>
    exact final_of_open named (by rw [status]; rfl)
  | generate _ _ _ _ _ status => exact final_of_open named (by rcases status with status | status <;> rw [status] <;> rfl)
  | failOfficial _ _ _ status => exact final_of_open named (by rcases status with status | status <;> rw [status] <;> rfl)
  | cancelStages unfinished => exact final_of_open named (not_terminal_of_unfinished unfinished)
  | dispatch _ _ _ _ _ _ waits => exact final_of_open named (not_terminal_of_cancellable waits)

theorem retried_of_move {c c' : Core} {k : Kind} (move : CoreMove c k c') (again : k ∈ [Kind.retry, .retryDeleted]) : Retried c c' := by
  cases move with
  | retry failed => exact ⟨rfl, .inr ⟨failed, rfl⟩⟩
  | retryDeleted failed => exact ⟨rfl, .inr ⟨failed, rfl⟩⟩
  | _ => simp at again

section
variable {o : Options} {s t : State} {e : Event}

/-- Only the retry has the kinds that bring a task back. -/
theorem Op.no_retry {op : Op} (other : ∀ taskID, op ≠ .deed (.retryResultUpload taskID)) :
    ∀ k ∈ op.effect.kinds, k ∉ [Kind.retry, .retryDeleted] := by
  cases op with
  | deed d =>
    cases d with
    | retryResultUpload taskID => exact absurd rfl (other taskID)
    | _ => dsimp only [Op.effect, Deed.effect, createEffect, legacyEffect, requestTaskDeletionEffect]; decide
  | work _ w => cases w <;> dsimp only [Op.effect, Work.effect] <;> decide
  | decide | abandon | recognise => dsimp only [Op.effect]; decide

/-- What a step can do to a task that has ended. -/
theorem Step.final (inv : Inv s) (step : Step o s e t) {task task' : Task} (stored : task ∈ s.db.tasks) (stored' : task' ∈ t.db.tasks)
    (same : task'.taskID = task.taskID) (isOver : task.status.isTerminal = true) :
    task'.status = task.status ∨ (task.status = .failed ∧ task'.status = .reconciling ∧ e.op = .deed (.retryResultUpload task.taskID)) := by
  by_cases other : ∀ taskID, e.op ≠ .deed (.retryResultUpload taskID)
  · have final : Final task.core task'.core := Step.between inv step (R := Final) (fun _ => ⟨rfl, fun _ => rfl⟩) (fun _ _ _ => Final.trans)
      (fun _ k _ _ mem move => final_of_move move (Op.no_retry other k mem)) (fun _ _ final => final.1) stored stored' same
    exact .inl (final.2 isOver)
  · push Not at other
    obtain ⟨taskID, isRetry⟩ := other
    have retried : Retried task.core task'.core := by
      refine Step.between inv step (R := Retried) (fun _ => ⟨rfl, .inl rfl⟩) (fun _ _ _ => Retried.trans) (fun _ k _ _ mem move => ?_)
        (fun _ _ retried => retried.1) stored stored' same
      rw [isRetry] at mem
      exact retried_of_move move mem
    rcases retried.2 with status | ⟨failed, again⟩
    · exact .inl status
    · refine .inr ⟨failed, again, ?_⟩
      by_cases own : task.taskID = taskID
      · rw [own, isRetry]
      · cases step with
        | deed d now faults n known =>
          cases isRetry
          have kept := onlyTask_others (retryResultUpload_only taskID now faults n s.db) stored own
          rw [task_unique stored' kept same] at again
          exact absurd (failed.symm.trans again) nofun
        | _ => cases isRetry

/-- The rows of `id` have the status `status`, now and whenever they are there. -/
structure Stays (id : String) (status : TaskStatus) (s : State) : Prop where
  minted : id ∈ s.minted
  status : ∀ t ∈ s.db.tasks, t.taskID = id → t.status = status

theorem Step.minted_subset (step : Step o s e t) {id : String} (mem : id ∈ s.minted) : id ∈ t.minted := by
  cases step with
  | deed => exact List.mem_append_right _ mem
  | _ => exact mem

theorem Stays.step {id : String} {status : TaskStatus} (stays : Stays id status s) (isOver : status.isTerminal = true)
    (settled : status ≠ .failed) (inv : Inv s) (step : Step o s e t) : Stays id status t := by
  refine ⟨step.minted_subset stays.minted, fun task' stored' named => ?_⟩
  rcases step.aged inv task' stored' with ⟨task, stored, aged⟩ | ⟨-, new⟩
  · have same : task'.taskID = task.taskID := aged.taskID
    have was := stays.status task stored (same.symm.trans named)
    rcases step.final inv stored stored' same (by rw [was]; exact isOver) with kept | ⟨failed, -⟩
    · exact kept.trans was
    · exact absurd (was.symm.trans failed) settled
  · exact absurd (named ▸ stays.minted) new

/-- Tasks that have ended stay as they are, but for the retry of an upload. -/
structure EndedForGood (o : Options) (t : State) : Prop where
  step : ∀ e u, Step o t e u → ∀ task ∈ t.db.tasks, ∀ task' ∈ u.db.tasks, task'.taskID = task.taskID → task.status.isTerminal = true →
    task'.status = task.status ∨ (task.status = .failed ∧ task'.status = .reconciling ∧ e.op = .deed (.retryResultUpload task.taskID))
  later : ∀ u, Reaches o (fun _ _ => True) t u → ∀ task ∈ t.db.tasks, task.status = .succeeded ∨ task.status = .cancelled →
    ∀ task' ∈ u.db.tasks, task'.taskID = task.taskID → task'.status = task.status

/-- In every run, a task that has succeeded or was cancelled never changes its status again, and
one that has failed only to `reconciling`, by the retry of its upload. -/
theorem ended_tasks_are_final (start : Start s) (run : Reaches o (fun _ _ => True) s t) : EndedForGood o t := by
  have inv := Reaches.inv start run
  refine ⟨fun e u step task stored task' stored' same isOver => step.final inv stored stored' same isOver, ?_⟩
  intro u later task stored settled task' stored' same
  have isOver : task.status.isTerminal = true := by rcases settled with h | h <;> rw [h] <;> rfl
  have unfailed : task.status ≠ .failed := by rcases settled with h | h <;> rw [h] <;> nofun
  have stays := Sim.Run.invariant (fun u => Inv u ∧ Stays task.taskID task.status u)
    ⟨inv, inv.minted task stored, fun t mem named => by rw [task_unique mem stored named]⟩
    (fun v e w h _ step => ⟨h.1.step step, h.2.step isOver unfailed h.1 step⟩) later
  exact stays.2.status task' stored' same

end

/-! ## One remote task whose result is not delivered -/

/-- A remote node that wants its results stored, with one model. -/
def remoteStart : State := { db := Flow.remoteConfig.db }

theorem remoteStart_start : Start remoteStart := ⟨rfl, rfl, rfl, rfl, rfl, rfl, rfl, rfl, rfl, rfl, fun _ => rfl⟩

/-- The task is generated, and its one upload fails for good. -/
def undelivered : List Event :=
  [⟨.deed (.create (fun _ => true) Flow.remoteRequest "" none), 1000, noFaults, 0⟩,
   ⟨.deed (.claimNextRemote "n1" 1 1 []), 1000, noFaults, 0⟩,
   ⟨.deed (.acquireRemoteLease "t1" "n1" "w1" 60), 1000, noFaults, 0⟩,
   ⟨.deed (.prepareRemoteRequest Flow.remoteLease "b" true), 1000, noFaults, 0⟩,
   ⟨.deed (.beginRemoteSubmission Flow.remoteLease), 1000, noFaults, 0⟩,
   ⟨.deed (.bindRemoteTask Flow.remoteLease "u1"), 1000, noFaults, 0⟩,
   ⟨.deed (.completeRemoteRun Flow.remoteLease
      { status := .succeeded, resultURL := "https://n1/v", uploadJob := some (newUploadJob "j1" "t1" "o" 1000) } "c1"), 1000, noFaults, 0⟩,
   ⟨.deed (.claimUploadJob "w2" 60000), 1000, noFaults, 0⟩,
   ⟨.deed (.failResultUploadAttempt "j1" "w2" "e" "m" false 1000 "c2"), 1000, noFaults, 0⟩]

/-- A run that ends in a failed task, which only the retry can bring back. -/
theorem ended_tasks_are_final_undelivered :
    ((remoteStart.after Flow.remoteOptions undelivered).db.tasks.map fun t => (t.taskID, t.status)) = [("t1", .failed)] ∧
      EndedForGood Flow.remoteOptions (remoteStart.after Flow.remoteOptions undelivered) :=
  ⟨by decide +kernel, ended_tasks_are_final remoteStart_start (reaches_after undelivered fun _ _ _ => trivial)⟩

end MinimaxProxy.Service
