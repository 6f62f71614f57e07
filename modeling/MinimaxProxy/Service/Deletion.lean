import MinimaxProxy.Service.Finality

/-!
# Deleted tasks have ended

A deletion is decided on a task that has ended, and written later; the retry of an upload asks
neither whether the task is deleted nor whether someone is about to delete it.
-/

namespace MinimaxProxy.Service
open Sql Sql.Prog Store

/-- A task is deleted only when it has ended. -/
def DeletedEnded (db : Database) : Prop := ∀ t ∈ db.tasks, t.deletedAt.isSome = true → t.status.isTerminal = true

/-- No upload is retried of a task that is deleted, or whose deletion is decided and not yet
written. -/
def Event.RetriesKept (e : Event) (s : State) : Prop := ∀ taskID, e.op = .deed (.retryResultUpload taskID) →
  taskID ∉ s.decided ∧ ∀ t ∈ s.db.tasks, t.taskID = taskID → t.deletedAt = none

/-- The row alone. -/
def Core.Closed (c : Core) : Prop := c.deletedAt.isSome = true → c.status.isTerminal = true

/-- What a step keeps of a task that it does not bring back. -/
structure Closes (c c' : Core) : Prop where
  taskID : c'.taskID = c.taskID
  closed : Core.Closed c → Core.Closed c'
  isOver : c.status.isTerminal = true → c'.status.isTerminal = true

theorem Closes.refl (c : Core) : Closes c c := ⟨rfl, id, id⟩

theorem Closes.trans {a b c : Core} (first : Closes a b) (last : Closes b c) : Closes a c :=
  ⟨last.taskID.trans first.taskID, last.closed ∘ first.closed, last.isOver ∘ first.isOver⟩

theorem deleted_or_kept {c c' : Core} {k : Kind} (move : CoreMove c k c') (kept : k ∉ [Kind.deleteLive, .retry, .retryDeleted]) :
    c'.deletedAt = c.deletedAt ∨ c.status.isTerminal = true := by
  cases move with
  | delete _ _ isOver => exact .inr isOver
  | deleteLive | retry | retryDeleted => exact absurd (by simp) kept
  | _ => exact .inl rfl

theorem closes_of_move {c c' : Core} {k : Kind} (move : CoreMove c k c') (kept : k ∉ [Kind.deleteLive, .retry, .retryDeleted]) :
    Closes c c' := by
  have final := final_of_move move fun mem => kept (List.mem_cons_of_mem _ mem)
  have isOver (h : c.status.isTerminal = true) : c'.status.isTerminal = true := final.2 h ▸ h
  refine ⟨final.1, fun closed deleted => ?_, isOver⟩
  rcases deleted_or_kept move kept with same | ended
  · exact isOver (closed (same ▸ deleted))
  · exact isOver ended

/-! ## The two writes -/

/-- The deletion of a task that has ended. -/
def deleteEndedEffect (taskID : String) : Effect where
  kinds := [.delete]
  tables := deletionTables
  given c := c.taskID = taskID → c.status.isTerminal = true

theorem deleteEndedEffect_stable {taskID : String} : (deleteEndedEffect taskID).Stable where
  given c k c' _ known mem move same := by
    obtain rfl := List.mem_singleton.mp mem
    cases move with
    | delete => exact known same
  fresh _ new := new.elim

theorem requestTaskDeletion_ended {uuid : Nat → String} {taskID : String} {reason : DeletionReason} {requestedBy : String} {now : Int} :
    Lawful (deleteEndedEffect taskID).law (requestTaskDeletion uuid taskID reason requestedBy now) := by
  refine lawful_immediate (writes_requestTaskDeletion (by simp [deleteEndedEffect]) (fun _ => id) fun c known same live => ?_)
  exact absurd (live.symm.trans (known same)) nofun

/-- The retry of a task that is not deleted. -/
def retryKeptEffect (taskID : String) : Effect where
  kinds := [.retry]
  tables := [.resultUploadJobs]
  given c := c.taskID = taskID → c.deletedAt = none

theorem retryKeptEffect_stable {taskID : String} : (retryKeptEffect taskID).Stable where
  given c k c' _ known mem move same := by
    obtain rfl := List.mem_singleton.mp mem
    cases move with
    | retry => exact known same
  fresh _ new := new.elim

theorem retryResultUpload_kept {taskID : String} {now : Int} :
    Lawful (retryKeptEffect taskID).law (retryResultUpload taskID now) :=
  lawful_immediate (writes_retryResultUpload (e := retryKeptEffect taskID) (by simp [retryKeptEffect]) (by simp [retryKeptEffect])
    fun _ known same deleted => absurd (known same) deleted)

/-- A retry leaves the row closed if it was, and it is of no task that is about to be deleted. -/
theorem closed_of_retry {c c' : Core} {k : Kind} (move : CoreMove c k c') (mem : k ∈ [Kind.retry]) :
    c'.taskID = c.taskID ∧ (Core.Closed c → Core.Closed c') := by
  obtain rfl := List.mem_singleton.mp mem
  cases move with
  | retry _ _ _ undeleted =>
    refine ⟨rfl, fun _ deleted => ?_⟩
    have deleted : c.deletedAt.isSome = true := deleted
    rw [undeleted] at deleted
    cases deleted

/-! ## Runs -/

section
variable {o : Options} {s t : State} {e : Event}

structure Shut (s : State) : Prop where
  tasks : DeletedEnded s.db
  decided : ∀ id ∈ s.decided, ∀ t ∈ s.db.tasks, t.taskID = id → t.status.isTerminal = true

theorem Op.closes {op : Op} (other : ∀ taskID, op ≠ .deed (.retryResultUpload taskID))
    (other' : ∀ uuid taskID reason requestedBy, op ≠ .deed (.requestTaskDeletion uuid taskID reason requestedBy)) :
    ∀ k ∈ op.effect.kinds, k ∉ [Kind.deleteLive, .retry, .retryDeleted] := by
  cases op with
  | deed d =>
    cases d with
    | retryResultUpload taskID => exact absurd rfl (other taskID)
    | requestTaskDeletion uuid taskID reason requestedBy => exact absurd rfl (other' uuid taskID reason requestedBy)
    | _ => dsimp only [Op.effect, Deed.effect, createEffect, legacyEffect]; decide
  | work _ w => cases w <;> dsimp only [Op.effect, Work.effect] <;> decide
  | decide | abandon | recognise => dsimp only [Op.effect]; decide

/-- A new task is not deleted. -/
theorem Op.fresh_closed {op : Op} {c : Core} (new : op.effect.fresh c) : Core.Closed c := by
  cases op with
  | deed d =>
    cases d with
    | create =>
      obtain ⟨_, _, _, _, rfl⟩ := new
      exact nofun
    | _ => exact new.elim
  | work _ w => cases w <;> exact new.elim
  | decide | abandon | recognise => exact new.elim

/-- Without a retry, every task is closed as it was, or a new one. -/
theorem Shut.closes (shut : Shut s) (inv : Inv s) (step : Step o s e t) (other : ∀ taskID, e.op ≠ .deed (.retryResultUpload taskID)) :
    ∀ t' ∈ t.db.tasks, (∃ t₀ ∈ s.db.tasks, Closes t₀.core t'.core) ∨ (t'.taskID ∉ s.minted ∧ Core.Closed t'.core) := by
  intro t' mem
  by_cases deletes : ∃ uuid taskID reason requestedBy, e.op = .deed (.requestTaskDeletion uuid taskID reason requestedBy)
  · obtain ⟨uuid, taskID, reason, requestedBy, isDeletion⟩ := deletes
    cases step with
    | deed d now faults n known =>
      cases isDeletion
      rcases Effect.back deleteEndedEffect_stable (requestTaskDeletion_ended faults n s.db)
        (fun t stored => ⟨inv.orderly.sound t stored, shut.decided taskID known t stored⟩) Closes.refl (fun _ _ _ => Closes.trans)
        (fun c k c' _ mem move => closes_of_move move (by obtain rfl := List.mem_singleton.mp mem; decide)) t' mem with old | ⟨_, new, -⟩
      · exact .inl old
      · exact new.elim
    | _ => cases isDeletion
  · push Not at deletes
    rcases step.back inv Closes.refl (fun _ _ _ => Closes.trans)
      (fun _ k _ _ mem move => closes_of_move move (Op.closes other deletes k mem)) t' mem with old | ⟨c, new, closes⟩
    · exact .inl old
    · have named : t'.taskID = c.taskID := closes.taskID
      rw [named]
      exact .inr ⟨(step.fresh new).2, closes.closed (Op.fresh_closed new)⟩

/-- A decision was made before, or is made now on a task that has ended. -/
theorem Step.decided (step : Step o s e t) {id : String} (mem : id ∈ t.decided) :
    id ∈ s.decided ∨ (t.db = s.db ∧ ∃ task ∈ s.db.tasks, task.taskID = id ∧ task.status.isTerminal = true) := by
  cases step with
  | deed d => exact .inl (d.decided_subset mem)
  | decide task now faults n stored undeleted isOver =>
    rcases List.mem_cons.mp mem with rfl | old
    · exact .inr ⟨rfl, task, stored, rfl, isOver⟩
    · exact .inl old
  | abandon => exact .inl (List.mem_of_mem_erase mem)
  | recognise | work => exact .inl mem

theorem Shut.step (shut : Shut s) (inv : Inv s) (ok : e.RetriesKept s) (step : Step o s e t) : Shut t := by
  by_cases other : ∀ taskID, e.op ≠ .deed (.retryResultUpload taskID)
  · have closes := shut.closes inv step other
    refine ⟨fun t' mem deleted => ?_, fun id mem t' stored' named => ?_⟩
    · rcases closes t' mem with ⟨t₀, stored, closes⟩ | ⟨-, closed⟩
      · exact closes.closed (shut.tasks t₀ stored) deleted
      · exact closed deleted
    · rcases step.decided mem with old | ⟨same, task, stored, isNamed, isOver⟩
      · rcases closes t' stored' with ⟨t₀, stored, closes⟩ | ⟨new, -⟩
        · exact closes.isOver (shut.decided id old t₀ stored (closes.taskID.symm.trans named))
        · exact absurd (named ▸ (inv.decided id old).1) new
      · rw [task_unique (same ▸ stored') stored (named.trans isNamed.symm)]
        exact isOver
  · push Not at other
    obtain ⟨taskID, isRetry⟩ := other
    obtain ⟨undecided, undeleted⟩ := ok taskID isRetry
    cases step with
    | deed d now faults n known =>
      cases isRetry
      refine ⟨fun t' mem deleted => ?_, fun id mem t' stored' named => ?_⟩
      · rcases Effect.back (R := fun c c' => c'.taskID = c.taskID ∧ (Core.Closed c → Core.Closed c')) retryKeptEffect_stable
          (retryResultUpload_kept faults n s.db) (fun t stored => ⟨inv.orderly.sound t stored, undeleted t stored⟩)
          (fun _ => ⟨rfl, id⟩) (fun _ _ _ first last => ⟨last.1.trans first.1, last.2 ∘ first.2⟩)
          (fun _ _ _ _ mem move => closed_of_retry move mem) t' mem with ⟨t₀, stored, -, closed⟩ | ⟨_, new, -⟩
        · exact closed (shut.tasks t₀ stored) deleted
        · exact new.elim
      · have apart : id ≠ taskID := fun same => undecided (same ▸ mem)
        rcases Effect.back (R := fun c c' => c'.taskID = c.taskID) retryKeptEffect_stable
          (retryResultUpload_kept faults n s.db) (fun t stored => ⟨inv.orderly.sound t stored, undeleted t stored⟩)
          (fun _ => rfl) (fun _ _ _ first last => last.trans first)
          (fun _ _ _ _ _ move => move.keeps.1) t' stored' with ⟨t₀, stored, same⟩ | ⟨_, new, -⟩
        · have same : t'.taskID = t₀.taskID := same
          have kept := onlyTask_others (retryResultUpload_only taskID now faults n s.db) stored
              fun own => apart (named.symm.trans (same.trans own))
          rw [task_unique stored' kept same]
          exact shut.decided id mem t₀ stored (same.symm.trans named)
        · exact new.elim
    | _ => cases isRetry

/-- In every run in which no upload is retried of a task that is deleted or about to be, every
deleted task has ended. -/
theorem deleted_tasks_have_ended (start : Start s) (run : Reaches o (fun s e => e.RetriesKept s) s t) : DeletedEnded t.db := by
  have empty : Shut s := by
    refine ⟨fun t mem => ?_, fun id mem => ?_⟩
    · rw [start.tasks] at mem
      cases mem
    · rw [start.decided] at mem
      cases mem
  exact (Reaches.holds start empty (fun _ _ _ inv shut ok step => shut.step inv ok step) run).2.tasks

end

/-- The owner deletes the task with the failed upload. -/
def deletedUndelivered : List Event :=
  undelivered ++
  [⟨.decide "t1", 1000, noFaults, 0⟩, ⟨.deed (.requestTaskDeletion (fun _ => "x1") "t1" .taskDelete "k1"), 1000, noFaults, 0⟩]

/-- A run that meets the condition and has deleted a task. -/
theorem deleted_tasks_have_ended_run :
    ((remoteStart.after Flow.remoteOptions deletedUndelivered).db.tasks.map fun t => (t.taskID, t.deletedAt.isSome)) = [("t1", true)] ∧
      DeletedEnded (remoteStart.after Flow.remoteOptions deletedUndelivered).db := by
  refine ⟨by decide +kernel, deleted_tasks_have_ended remoteStart_start (reaches_after deletedUndelivered fun e mem s taskID isRetry => ?_)⟩
  have none : deletedUndelivered.all (fun e => match e.op with | .deed (.retryResultUpload _) => false | _ => true) = true := rfl
  have this := List.all_eq_true.mp none e mem
  rw [isRetry] at this
  cases this

/-- Without the condition: the administrator retries the upload of the deleted task. -/
theorem retry_revives_deleted_task :
    Start remoteStart ∧
      Reaches Flow.remoteOptions (fun _ _ => True) remoteStart
        (remoteStart.after Flow.remoteOptions (deletedUndelivered ++ [⟨.deed (.retryResultUpload "t1"), 1000, noFaults, 0⟩])) ∧
      ¬ DeletedEnded
        (remoteStart.after Flow.remoteOptions (deletedUndelivered ++ [⟨.deed (.retryResultUpload "t1"), 1000, noFaults, 0⟩])).db := by
  refine ⟨remoteStart_start, reaches_after _ fun _ _ _ => trivial, fun ended => ?_⟩
  have rows : ((remoteStart.after Flow.remoteOptions
      (deletedUndelivered ++ [⟨.deed (.retryResultUpload "t1"), 1000, noFaults, 0⟩])).db.tasks.map
      fun t => (t.deletedAt.isSome, t.status)) = [(true, .reconciling)] := by decide +kernel
  obtain ⟨t, only, row⟩ := List.map_eq_singleton_iff.mp rows
  simp only [Prod.mk.injEq] at row
  have isOver := ended t (by rw [only]; simp) row.1
  rw [row.2] at isOver
  cases isOver

end MinimaxProxy.Service
