import MinimaxProxy.Store.PipelineTasks
import MinimaxProxy.Store.StageEnds

/-!
# What an administrator's cancel changes

A queued task is cancelled, a running one asked to stop, and one with stages is cancelled with
them. An open attempt belongs to an active H3 task, so the barrier against a node is made in
the last case only.
-/

namespace MinimaxProxy.Store
open Sql Sql.Prog

/-- A task without stages is cancelled or asked to stop. -/
def cancelTaskEffect : Effect := { kinds := [.cancelQueued, .rank, .askCancel], tables := [.callbackDeliveries] }

/-- A task is cancelled with its stages. -/
def cancelStagesEffect : Effect where
  kinds := [.cancelStages]
  tables := [.nodeDispatchBarriers, .stageAttempts, .taskStages, .callbackDeliveries]

section
variable {db db' : Database}

theorem lastOpenAttempt_spec {taskID : String} {s : Stage} {a : Attempt} (found : lastOpenAttempt db taskID = some (s, a)) :
    s ∈ db.stages ∧ s.taskID = taskID ∧ a ∈ db.attempts ∧ a.stageID = s.id ∧ a.status.isOpen = true := by
  have mem := first_mem found
  simp only [List.mem_flatMap, List.mem_map, List.mem_filter, beq_iff_eq, Bool.and_eq_true, Prod.mk.injEq] at mem
  obtain ⟨s, ⟨stored, ofTask⟩, a, ⟨isAttempt, ofStage, isOpen⟩, rfl, rfl⟩ := mem
  exact ⟨stored, ofTask, isAttempt, ofStage, isOpen⟩

/-- The only barrier that is new is one for the last open attempt of the task. -/
def Barred (taskID : String) (db db' : Database) : Prop :=
  db'.barriers = db.barriers ∨ ∃ s a b, lastOpenAttempt db taskID = some (s, a) ∧ b.nodeID = a.nodeID ∧ b.attemptID = a.id ∧
    b.cancelOperationID = "stage-cancel-" ++ a.id ∧ db'.barriers = db.barriers ++ [b]

/-- A barrier is made for a task with an open attempt, which is active. -/
theorem barrier_spec {taskID : String} {now : Int} {barrier : Bool} (h : Pipeline db)
    (out : (createNodeDispatchBarrierForTask taskID now).Returns db barrier db') :
    (∀ t, t ≠ .nodeDispatchBarriers → db'.rows t = db.rows t) ∧
      (barrier = true → ∀ t ∈ db.tasks, t.taskID = taskID → Staffed t.core) ∧ (barrier = false → db' = db) ∧ Barred taskID db db' := by
  obtain ⟨found, d1, read, rest⟩ := returns_bind.mp out
  obtain ⟨isFound, rfl⟩ := returns_select.mp read
  match found with
  | none =>
    obtain ⟨rfl, rfl⟩ := returns_pure.mp rest
    exact ⟨fun _ _ => rfl, nofun, fun _ => rfl, .inl rfl⟩
  | some (s, a) =>
    obtain ⟨_, d2, inserted, last⟩ := returns_bind.mp rest
    obtain ⟨rfl, rfl⟩ := returns_pure.mp last
    obtain ⟨stored, ofTask, isAttempt, ofStage, isOpen⟩ := lastOpenAttempt_spec isFound.symm
    refine ⟨fun t other => apply_insert_rows_of_ne (returns_exec.mp inserted) other, fun _ t isTask named => ?_, nofun, .inr ?_⟩
    · exact h.staffed a isAttempt isOpen s stored ofStage.symm t isTask (named.trans ofTask.symm)
    · obtain ⟨tab, rfl, rows, -⟩ := apply_insert (returns_exec.mp inserted)
      refine ⟨s, a, _, isFound.symm, ?_, ?_, ?_, by rw [Database.barriers, DB.rows_put_self]; exact rows⟩ <;> rfl

/-- The rows that the cancellation of a task writes. -/
def stoppedStage (taskID : String) (now : Int) (s : Stage) : Stage :=
  if s.taskID == taskID && !s.status.isDone then
    { s with status := .cancelled, leaseToken := none, leaseExpiresAt := none, nextAttemptAt := none
             updatedAt := now * 1000, finishedAt := s.finishedAt <|> some (now * 1000), rowVersion := s.rowVersion + 1 }
  else s

def stoppedAttempt (db : Database) (taskID : String) (now : Int) (a : Attempt) : Attempt :=
  if stageOf db taskID a.stageID && a.status.isOpen then
    { a with status := .failed, errorCode := some "task_cancelled", errorMessage := some "任务已取消"
             heartbeatAt := some (now * 1000), finishedAt := some (now * 1000) }
  else a

theorem stoppedStage_spec {taskID : String} {now : Int} {s : Stage} : CancelledStage taskID s (stoppedStage taskID now s) := by
  rw [stoppedStage]
  split
  · rename_i hit
    simp only [Bool.and_eq_true, beq_iff_eq, Bool.not_eq_true'] at hit
    exact ⟨⟨rfl, rfl, rfl, rfl, rfl, rfl, rfl⟩, fun other => absurd hit.1 other, fun done => absurd (hit.2.symm.trans done) nofun,
      fun _ _ => ⟨rfl, rfl⟩⟩
  · rename_i miss
    refine ⟨⟨rfl, rfl, rfl, rfl, rfl, rfl, rfl⟩, fun _ => rfl, fun _ => rfl, fun own isOpen => absurd ?_ miss⟩
    simp [own, isOpen]

theorem stoppedAttempt_spec {taskID : String} {now : Int} {a : Attempt} :
    CancelledAttempt db taskID a (stoppedAttempt db taskID now a) := by
  rw [stoppedAttempt]
  split
  · rename_i hit
    simp only [Bool.and_eq_true] at hit
    exact ⟨⟨rfl, rfl, rfl, rfl⟩, fun other => absurd (other.symm.trans hit.1) nofun, fun _ => rfl⟩
  · rename_i miss
    refine ⟨⟨rfl, rfl, rfl, rfl⟩, fun _ => rfl, fun own => ?_⟩
    simpa [own] using miss

/-- The task `taskID` is cancelled with its stages, if no slot of a node is held for it. -/
theorem finishStageTaskCancellation_spec {callbackID taskID : String} {now : Int} {u : Unit}
    (free : ∀ t ∈ db.tasks, t.taskID = taskID → t.status.isUnfinished = true ∧ t.core.slot = false)
    (out : (finishStageTaskCancellation callbackID taskID now).Returns db u db') :
    CancelsStages taskID db db' ∧ cancelStagesEffect.law.Evolves db db' ∧ db'.barriers = db.barriers := by
  obtain ⟨_, d1, ended, rest₁⟩ := returns_bind.mp out
  obtain ⟨_, d2, cancelled, rest₂⟩ := returns_bind.mp rest₁
  obtain ⟨_, d3, moved, rest₃⟩ := returns_bind.mp rest₂
  obtain ⟨_, d4, once, told⟩ := returns_bind.mp rest₃
  obtain ⟨rfl, rfl⟩ := returns_oneRow.mp once
  simp only [returns_exec] at ended cancelled moved
  have tells : tellEffect.law.Evolves d4 db' := (writes_callback (by decide)).evolves told
  have late (t : Tbl) (tasks : t ≠ .videoTasks) (calls : t ≠ .callbackDeliveries) : db'.rows t = d2.rows t :=
    (Effect.same_rows tells tasks (by simpa [tellEffect] using calls)).trans (apply_update_rows_of_ne moved tasks)
  have sameTasks : Database.tasks d2 = db.tasks :=
    (apply_update_rows_of_ne cancelled (by decide)).trans (apply_update_rows_of_ne ended (by decide))
  have tasks : db'.tasks = db.tasks.map fun t => if t.taskID == taskID && t.status.isUnfinished then cancelledStageTask now t else t := by
    have quiet : db'.tasks = Database.tasks d4 := Effect.same_tasks tells ⟨rfl, fun _ => trivial, fun _ => id, fun _ => id⟩
    obtain ⟨tab, rfl, rows, -⟩ := apply_update moved
    rw [quiet, ← sameTasks, Database.tasks, DB.rows_put_self]
    exact rows
  refine ⟨?_, ?_, ?_⟩
  · refine ⟨⟨stoppedStage taskID now, ?_, fun s _ => stoppedStage_spec⟩,
      ⟨stoppedAttempt db taskID now, ?_, fun a _ => stoppedAttempt_spec⟩, fun t' mem => ?_, fun t mem => ?_⟩
    · rw [Database.stages, late .taskStages (by decide) (by decide)]
      obtain ⟨tab, rfl, rows, -⟩ := apply_update cancelled
      have same : d1.rows .taskStages = db.stages := apply_update_rows_of_ne ended (by decide)
      rw [DB.rows_put_self, rows, same]
      rfl
    · rw [Database.attempts, late .stageAttempts (by decide) (by decide), apply_update_rows_of_ne cancelled (by decide)]
      obtain ⟨tab, rfl, rows, -⟩ := apply_update ended
      rw [DB.rows_put_self]
      exact rows
    · rw [tasks] at mem
      obtain ⟨t, stored, rfl⟩ := List.mem_map.mp mem
      refine ⟨t, stored, ?_⟩
      by_cases own : t.taskID = taskID
      · rw [if_pos (by simp [own, (free t stored own).1])]
        exact ⟨rfl, fun other => absurd own other, fun _ => ⟨rfl, fun direct => ⟨direct.protocol, direct.ready⟩⟩⟩
      · rw [if_neg (by simp [own])]
        exact ⟨rfl, fun _ => rfl, fun same => absurd same own⟩
    · refine ⟨_, by rw [tasks]; exact List.mem_map_of_mem mem, ?_⟩
      split <;> rfl
  · refine Effect.evolves_of ?_ fun t isTasks others => ?_
    · rw [tasks]
      refine .single (.update _ fun t mem => ?_)
      by_cases hit : (t.taskID == taskID && t.status.isUnfinished) = true
      · rw [if_pos hit]
        simp only [Bool.and_eq_true, beq_iff_eq] at hit
        exact .inr fun _ => ⟨.cancelStages, by decide, .cancelStages hit.2 (free t mem hit.1).2⟩
      · exact .inl (if_neg hit)
    · simp only [cancelStagesEffect, List.mem_cons, List.not_mem_nil, or_false, not_or] at others
      rw [late t isTasks others.2.2.2, apply_update_rows_of_ne cancelled others.2.2.1, apply_update_rows_of_ne ended others.2.1]
  · rw [Database.barriers, late .nodeDispatchBarriers (by decide) (by decide), apply_update_rows_of_ne cancelled (by decide),
      apply_update_rows_of_ne ended (by decide)]
    rfl

/-- Other tables may have been written before. -/
theorem CancelsStages.of_same {taskID : String} {mid : Database} (cancels : CancelsStages taskID mid db') (tasks : mid.tasks = db.tasks)
    (stages : mid.stages = db.stages) (attempts : mid.attempts = db.attempts) : CancelsStages taskID db db' := by
  obtain ⟨f, isStages, each⟩ := cancels.stages
  obtain ⟨g, isAttempts, ended⟩ := cancels.attempts
  rw [stages] at isStages each
  rw [attempts] at isAttempts ended
  have same (id : String) : stageOf mid taskID id = stageOf db taskID id := by
    rw [stageOf, stageOf, stages]
  refine ⟨⟨f, isStages, each⟩, ⟨g, isAttempts, fun a mem => ?_⟩, ?_, ?_⟩
  · obtain ⟨kept, other, own⟩ := ended a mem
    rw [same] at other own
    exact ⟨kept, other, own⟩
  · rw [← tasks]
    exact cancels.back
  · rw [← tasks]
    exact cancels.forth

theorem slot_free {t : Task} (sound : Sound t.core)
    (staged : Staffed t.core ∨ present t.activeStageID = true ∨ present t.upstreamID = false) :
    t.core.slot = false := by
  by_contra held
  have slot : t.core.slot = true := by simpa using held
  have other := (sound.slot_other slot).1
  rcases staged with staffed | stage | noStage
  · exact other staffed.protocol
  · refine other (sound.staged ?_)
    have active : t.core.activeStageID = t.activeStageID := rfl
    rw [active]
    cases is : t.activeStageID with
    | none => rw [is] at stage; cases stage
    | some id => rfl
  · have placed : present t.upstreamID = true := (sound.slot slot).2.2.2.2
    rw [noStage] at placed
    cases placed

theorem cancelFound_spec {o : Options} {callbackID : String} {now : Int} {u : Unit} {t : Task} (h : Pipeline db)
    (sound : ∀ t ∈ db.tasks, Sound t.core) (stored : t ∈ db.tasks) (out : (cancelFound o t t.taskID callbackID now).Returns db u db') :
    cancelTaskEffect.law.Evolves db db' ∨
      (CancelsStages t.taskID db db' ∧ cancelStagesEffect.law.Evolves db db' ∧ Barred t.taskID db db') := by
  obtain ⟨barrier, mid, made, rest⟩ := returns_bind.mp out
  obtain ⟨same, staffed, unmade, barred⟩ := barrier_spec h made
  have unique {v : Task} (mem : v ∈ db.tasks) (named : v.taskID = t.taskID) : v = t := task_unique mem stored named
  split at rest
  · rename_i queued
    cases barrier with
    | true => exact (not_queued_of_active (staffed rfl t stored rfl).active queued).elim
    | false =>
      obtain rfl := unmade rfl
      obtain ⟨_, d1, cancelled, rest₁⟩ := returns_bind.mp rest
      obtain ⟨_, d2, once, rest₂⟩ := returns_bind.mp rest₁
      obtain ⟨-, rfl⟩ := returns_oneRow.mp once
      obtain ⟨_, d3, ranked, told⟩ := returns_bind.mp rest₂
      have first : cancelTaskEffect.law.Evolves mid d2 := evolves_tasks (returns_exec.mp cancelled) fun v _ hit _ => by
        simp only [Bool.and_eq_true, beq_iff_eq] at hit
        exact ⟨.cancelQueued, by decide, .cancelQueued (show v.status.isQueued = true from hit.2 ▸ queued)⟩
      have tells : cancelTaskEffect.law.Evolves d3 db' := (writes_callback (by decide)).evolves told
      exact .inl (Laws.chains.trans first (Laws.chains.trans (evolves_rebalance (by decide) ranked) tells))
  · split at rest
    · rename_i taken
      split at rest
      · rename_i staged
        have sameTasks : Database.tasks mid = db.tasks := same .videoTasks (by decide)
        have free : ∀ v ∈ Database.tasks mid, v.taskID = t.taskID → v.status.isUnfinished = true ∧ v.core.slot = false := by
          intro v mem named
          rw [sameTasks] at mem
          obtain rfl := unique mem named
          refine ⟨by rw [TaskStatus.isUnfinished, taken, Bool.or_true], slot_free (sound v mem) ?_⟩
          simp only [Bool.or_eq_true, Bool.not_eq_true'] at staged
          rcases staged with (made | stage) | noStage
          · exact .inl (staffed made v mem rfl)
          · exact .inr (.inl stage)
          · exact .inr (.inr noStage)
        obtain ⟨cancels, law, barriers⟩ := finishStageTaskCancellation_spec free rest
        refine .inr ⟨cancels.of_same sameTasks (same .taskStages (by decide)) (same .stageAttempts (by decide)), ?_, ?_⟩
        case refine_2 => rwa [Barred, barriers]
        refine Laws.chains.trans (Effect.evolves_of ?_ fun t _ others => ?_) law
        · rw [sameTasks]
          exact .refl
        · simp only [cancelStagesEffect, List.mem_cons, List.not_mem_nil, or_false, not_or] at others
          exact same t others.1
      · rename_i unstaged
        simp only [Bool.or_eq_true, Bool.not_eq_true', not_or, Bool.not_eq_true, Bool.not_eq_false] at unstaged
        obtain rfl := unmade unstaged.1.1
        split at rest
        · obtain ⟨_, d1, asked, last⟩ := returns_bind.mp rest
          obtain ⟨-, rfl⟩ := returns_oneRow.mp last
          refine .inl (evolves_tasks (returns_exec.mp asked) fun v mem hit _ => ?_)
          simp only [Bool.and_eq_true, beq_iff_eq] at hit
          obtain rfl := unique mem hit.1
          exact ⟨.askCancel, by decide, .askCancel taken (.inr ⟨unstaged.2, unstaged.1.2⟩)⟩
        · obtain ⟨-, rfl⟩ := returns_pure.mp rest
          exact .inl (Laws.chains.refl _)
    · exact absurd rest returns_fail

end

theorem adminCancel_cases {o : Options} {taskID callbackID : String} {now : Int} {faults : Faults Err} {n : Nat} {db : Database}
    (h : Pipeline db) (sound : ∀ t ∈ db.tasks, Sound t.core) :
    cancelTaskEffect.law.Evolves db (adminCancel o taskID callbackID now faults n db).db ∨
      (CancelsStages taskID db (adminCancel o taskID callbackID now faults n db).db ∧
        cancelStagesEffect.law.Evolves db (adminCancel o taskID callbackID now faults n db).db ∧
        Barred taskID db (adminCancel o taskID callbackID now faults n db).db) := by
  rw [adminCancel]
  rcases immediate_effect (adminCancelBody o taskID callbackID (unix now)) faults with same | ⟨u, out⟩
  · rw [same]
    exact .inl (Laws.chains.refl db)
  generalize (immediate (adminCancelBody o taskID callbackID (unix now)) faults n db).db = db' at out
  obtain ⟨t, d1, read, rest⟩ := returns_bind.mp out
  obtain ⟨found, rfl⟩ := returns_query.mp read
  obtain ⟨stored, matched⟩ := found_spec found
  simp only [Bool.and_eq_true, beq_iff_eq] at matched
  obtain rfl := matched.1.1
  split at rest
  · obtain ⟨_, d2, looked, rest₁⟩ := returns_bind.mp rest
    obtain ⟨-, rfl⟩ := returns_select.mp looked
    obtain ⟨_, d3, guarded, last⟩ := returns_bind.mp rest₁
    obtain ⟨-, rfl⟩ := returns_require.mp guarded
    exact cancelFound_spec h sound stored last
  · exact cancelFound_spec h sound stored rest

end MinimaxProxy.Store
