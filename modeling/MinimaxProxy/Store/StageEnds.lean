import MinimaxProxy.Store.StageSteps

/-!
# Binding, completing and failing an attempt

The operations of a stage worker with an attempt it has made. Each knows from its own WHERE
clauses that the attempt is open, except `FailStage`: its caller has to.
-/

namespace MinimaxProxy.Store
open Sql Sql.Prog

variable {attemptID callbackID leaseToken stageID : String} {db db' mid : Database} {n : Nat} {now : Int} {s : Stage}

section
variable {db db' : Database}

/-- An UPDATE that can hit one attempt only. -/
theorem attempt_update_cases {sel : Database → Attempt → Bool} {set : Database → Attempt → Attempt}
    (applied : (Dml.update Tbl.stageAttempts sel set).apply db = .ok (n, db')) {id : String}
    (only : ∀ a ∈ db.attempts, sel db a = true → a.id = id) :
    (n = 0 ∧ db'.attempts = db.attempts) ∨ ∃ a ∈ db.attempts, a.id = id ∧ sel db a = true ∧
      db'.attempts = db.attempts.map fun b => if b.id = id then set db a else b :=
  apply_update_cases applied (attempts_distinct db) only

theorem attempt_update_one {sel : Database → Attempt → Bool} {set : Database → Attempt → Attempt}
    (applied : (Dml.update Tbl.stageAttempts sel set).apply db = .ok (1, db')) {id : String}
    (only : ∀ a ∈ db.attempts, sel db a = true → a.id = id) : ∃ a ∈ db.attempts, a.id = id ∧ sel db a = true ∧
      db'.attempts = db.attempts.map fun b => if b.id = id then set db a else b :=
  apply_update_one applied (attempts_distinct db) only

/-- An open attempt keeps an active task. -/
theorem staffed_of_calm (h : Pipeline db) (back : ∀ t' ∈ db'.tasks,
    ∃ t ∈ db.tasks, Calm t.core t'.core) {a : Attempt} (mem : a ∈ db.attempts)
    (isOpen : a.status.isOpen = true) (stored : s ∈ db.stages) (ofStage : s.id = a.stageID) :
    ∀ t' ∈ db'.tasks, t'.taskID = s.taskID → Staffed t'.core := by
  intro t' isTask ofTask
  obtain ⟨t, isOld, calm⟩ := back t' isTask
  exact calm.staffed (h.staffed a mem isOpen s stored ofStage t isOld (calm.taskID.symm.trans ofTask))

/-- The open attempt `a` of the stage `s` is written. -/
structure SetsAttempt (db db' : Database) (s : Stage) (a a' : Attempt) : Prop where
  stored : a ∈ db.attempts
  isOpen : a.status.isOpen = true
  ofStage : a.stageID = s.id
  stage : s ∈ db.stages
  same : a'.id = a.id ∧ a'.stageID = a.stageID ∧ a'.attemptNo = a.attemptNo ∧ a'.nodeID = a.nodeID
  attempts : db'.attempts = db.attempts.map fun b => if b.id = a.id then a' else b

variable {a a' : Attempt} (sets : SetsAttempt db db' s a a')
include sets

theorem SetsAttempt.relabels : Relabels s (fun b => if b.id = a.id then a' else b) db db' where
  attempts := sets.attempts
  same b mem := by
    by_cases own : b.id = a.id
    · rw [if_pos own, eq_of_key (attempts_distinct db) mem sets.stored own]
      exact sets.same
    · rw [if_neg own]
      exact ⟨rfl, rfl, rfl, rfl⟩
  other b mem other := by
    refine if_neg fun own => other ?_
    rw [eq_of_key (attempts_distinct db) mem sets.stored own]
    exact sets.ofStage
  wasOpen b mem := by
    by_cases own : b.id = a.id
    · rw [if_pos own, eq_of_key (attempts_distinct db) mem sets.stored own]
      exact fun _ => sets.isOpen
    · rw [if_neg own]
      exact id

theorem SetsAttempt.active (h : Pipeline db) : Runs a s ∧ ∀ t ∈ db.tasks, t.taskID = s.taskID → Staffed t.core :=
  ⟨h.runs a sets.stored sets.isOpen s sets.stage sets.ofStage.symm, h.staffed a sets.stored sets.isOpen s sets.stage sets.ofStage.symm⟩

/-- No attempt of the stage is open once this one is closed. -/
theorem SetsAttempt.shut (closed : a'.status.isOpen = false) (h : Pipeline db)
    {b : Attempt} (mem : b ∈ db.attempts) (ofStage : b.stageID = s.id)
    {P : Prop} (isOpen : (if b.id = a.id then a' else b).status.isOpen = true) : P := by
  by_cases own : b.id = a.id
  · rw [if_pos own, closed] at isOpen
    cases isOpen
  · rw [if_neg own] at isOpen
    exact absurd (congrArg Attempt.id (h.open_unique sets.stored mem (ofStage.trans sets.ofStage.symm) sets.isOpen isOpen)) own

end

/-! ## Binding -/

/-- A callback is recorded. -/
def tellEffect : Effect := { kinds := [], tables := [.callbackDeliveries] }

def executeEffect : Effect := { kinds := [.execute], tables := [.stageAttempts, .taskStages, .callbackDeliveries] }

theorem executeEffect_stable : executeEffect.Stable := Effect.stable_of_trivial (fun _ => trivial) fun _ new => new.elim

/-- The open attempt `a` has an execution, and its stage may have begun to run. -/
structure Binds (stageID leaseToken attemptID : String) (a a' : Attempt) (s s' : Stage) (db db' : Database) : Prop where
  stored : a ∈ db.attempts
  named : a.id = attemptID
  ofStage : a.stageID = stageID
  isOpen : a.status.isOpen = true
  same : a'.id = a.id ∧ a'.stageID = a.stageID ∧ a'.attemptNo = a.attemptNo ∧ a'.nodeID = a.nodeID
  stillOpen : a'.status.isOpen = true
  attempts : db'.attempts = db.attempts.map fun b => if b.id = a.id then a' else b
  stageNamed : s.id = stageID
  sets : SetsStage db db' s s'
  row : s' = s ∨ (s.status = .leased ∧ s.leaseToken = some leaseToken ∧ ∃ updated started version,
    s' = { s with status := .running, updatedAt := updated, startedAt := started, rowVersion := version })
  tasks : executeEffect.law.Evolves db db'

theorem sets_refl (stored : s ∈ db.stages) (same : db'.stages = db.stages) : SetsStage db db' s s := by
  refine ⟨stored, ⟨rfl, rfl, rfl⟩, ?_⟩
  rw [same]
  refine ((List.map_congr_left fun u mem => ?_).trans (List.map_id _)).symm
  by_cases own : u.id = s.id
  · rw [if_pos own, eq_of_key (stages_distinct db) mem stored own]
    rfl
  · exact if_neg own

theorem bindStageExecution_spec {executionID : String}
    {r : Except Err Unit} (h : Pipeline db)
    (out : (bindStageExecutionBody stageID leaseToken attemptID executionID callbackID now).Returns db r db') :
    (∀ t, DB.rows db' t = db.rows t) ∨ ∃ a a' s s', Binds stageID leaseToken attemptID a a' s s' db db' := by
  obtain ⟨n, d1, bound, rest⟩ := returns_bind.mp out
  have applied := returns_exec.mp bound
  have others (t : Tbl) (other : t ≠ .stageAttempts) : d1.rows t = db.rows t := apply_update_rows_of_ne applied other
  have first : executeEffect.law.Evolves db d1 :=
    effect_table (by simp [executeEffect]) _ _ _ applied
  have only : ∀ a ∈ db.attempts, (a.id == attemptID && a.stageID == stageID && a.status.isOpen
      && a.executionID.all (· == executionID)) = true → a.id = attemptID := fun a _ hit => by
    simp only [Bool.and_eq_true, beq_iff_eq] at hit
    exact hit.1.1.1
  rcases attempt_update_cases applied only with ⟨rfl, same⟩ | ⟨a, stored, named, hit, attempts⟩
  · rw [if_pos (by decide)] at rest
    obtain ⟨-, rfl⟩ := returns_pure.mp rest
    refine .inl fun t => ?_
    by_cases isAttempts : t = .stageAttempts
    · rw [isAttempts]
      exact same
    · exact others t isAttempts
  · simp only [Bool.and_eq_true, beq_iff_eq] at hit
    obtain ⟨s, isStage, ofStage, -⟩ := h.numbered a stored
    have isNamed : s.id = stageID := ofStage.trans hit.1.1.2
    -- what is left is to say what has become of the stage and of the task
    have build {s' : Stage} {e : Database} (sets : SetsStage d1 e s s')
        (row : s' = s ∨ (s.status = .leased ∧ s.leaseToken = some leaseToken ∧ ∃ updated started version,
          s' = { s with status := .running, updatedAt := updated, startedAt := started, rowVersion := version }))
        (sameAttempts : e.attempts = Database.attempts d1) (law : executeEffect.law.Evolves d1 e) :
        ∃ a a' s s', Binds stageID leaseToken attemptID a a' s s' db e := by
      have sets : SetsStage db e s s' := ⟨isStage, sets.same, by rw [sets.stages, Database.stages, others .taskStages (by decide)]; rfl⟩
      refine ⟨a, { a with executionID := some executionID, status := .running, heartbeatAt := some now },
        s, s', stored, named, hit.1.1.2, hit.1.2,
        ⟨rfl, rfl, rfl, rfl⟩, rfl, ?_, isNamed, sets, row, Laws.chains.trans first law⟩
      rw [sameAttempts, attempts, named]
    have stages : Database.stages d1 = db.stages := others .taskStages (by decide)
    have isStage₁ : s ∈ Database.stages d1 := stages ▸ isStage
    right
    split at rest
    · obtain ⟨-, rfl⟩ := returns_pure.mp rest
      exact build (sets_refl isStage₁ rfl) (.inl rfl) rfl (Laws.chains.refl _)
    · obtain ⟨m, d2, marked, rest⟩ := returns_bind.mp rest
      have ran := returns_exec.mp marked
      have kept : Database.attempts d2 = Database.attempts d1 := apply_update_rows_of_ne ran (by decide)
      have second : executeEffect.law.Evolves d1 d2 := effect_table (by simp [executeEffect]) _ _ _ ran
      have staged : ∃ s', SetsStage d1 d2 s s' ∧ (s' = s ∨ (s.status = .leased ∧ s.leaseToken = some leaseToken ∧ ∃ updated started version,
          s' = { s with status := .running, updatedAt := updated, startedAt := started, rowVersion := version })) := by
        rcases stage_update_cases ran (fun u _ hit => by
            simp only [Bool.and_eq_true, beq_iff_eq] at hit
            exact hit.1.1) with ⟨-, same⟩ | ⟨u, isU, namedU, hitU, rows⟩
        · exact ⟨s, sets_refl isStage₁ same, .inl rfl⟩
        · obtain rfl := eq_of_key (stages_distinct _) isU isStage₁ (namedU.trans isNamed.symm)
          simp only [Bool.and_eq_true, beq_iff_eq] at hitU
          refine ⟨{ u with status := .running, updatedAt := now, startedAt := u.startedAt <|> some now, rowVersion := u.rowVersion + 1 },
            ⟨isU, ⟨rfl, rfl, rfl⟩, ?_⟩, .inr ⟨hitU.2, hitU.1.2, now, _, _, rfl⟩⟩
          rw [← isNamed] at rows
          exact rows
      obtain ⟨s', sets, row⟩ := staged
      split at rest
      · obtain ⟨-, rfl⟩ := returns_pure.mp rest
        exact build sets row kept second
      · obtain ⟨seen, d3, looked, told⟩ := returns_bind.mp rest
        obtain rfl := looked.readOnly (writes_attempt.mpr writes_query)
        cases seen with
        | error e =>
          obtain ⟨-, rfl⟩ := returns_pure.mp told
          exact build sets row kept second
        | ok place =>
          obtain ⟨read, -⟩ := returns_query.mp (returns_attempt.mp looked)
          have ofTask : place.1 = s.taskID := by
            split at read
            · rename_i u b isU isB
              cases read
              have namedU : u.id = stageID := by simpa using List.find?_some isU
              rcases sets.mem (List.mem_of_find?_eq_some isU) with rfl | ⟨-, other⟩
              · exact sets.same.2.1
              · exact absurd (namedU.trans isNamed.symm) other
            · cases read
          obtain ⟨c, d4, executed, called⟩ := returns_bind.mp told
          have third : executeEffect.law.Evolves d3 d4 := by
            refine evolves_tasks (returns_exec.mp executed) fun t isTask hitT _ => ⟨.execute, by decide, ?_⟩
            simp only [Bool.and_eq_true, beq_iff_eq] at hitT
            have isOld : t ∈ db.tasks := by
              rw [Database.tasks, apply_update_rows_of_ne ran (by decide), others .videoTasks (by decide)] at isTask
              exact isTask
            have staffed := h.staffed a stored hit.1.2 s isStage ofStage t isOld (hitT.1.1.trans ofTask)
            exact .execute _ _ staffed.undeleted staffed.protocol staffed.active (isNamed ▸ h.named s isStage)
          have tells : tellEffect.law.Evolves d4 db' := by
            split at called
            · obtain ⟨-, rfl⟩ := returns_pure.mp called
              exact Laws.chains.refl _
            · exact (writes_attempt.mpr (writes_callback (by decide))).evolves called
          have fourth : executeEffect.law.Evolves d4 db' :=
            Effect.weaken tells (by decide) (by decide) (fun _ => id) (fun _ => id) fun _ => id
          have late (t : Tbl) (tasks : t ≠ .videoTasks) (calls : t ≠ .callbackDeliveries) : DB.rows db' t = d3.rows t :=
            (Effect.same_rows tells tasks (by simpa [tellEffect] using calls)).trans
            (apply_update_rows_of_ne (returns_exec.mp executed) tasks)
          refine build ⟨isStage₁, sets.same, (late .taskStages (by decide) (by decide)).trans sets.stages⟩ row
            ((late .stageAttempts (by decide) (by decide)).trans kept) ?_
          exact Laws.chains.trans second (Laws.chains.trans third fourth)

section
variable {a a' : Attempt} {s' : Stage} (binds : Binds stageID leaseToken attemptID a a' s s' db db')
include binds

theorem Binds.wrote : SetsAttempt db db' s a a' :=
  ⟨binds.stored, binds.isOpen, binds.ofStage.trans binds.stageNamed.symm, binds.sets.stored, binds.same, binds.attempts⟩

theorem Binds.relabels : Relabels s (fun b => if b.id = a.id then a' else b) db db' := binds.wrote.relabels

/-- The stage keeps its lease, and it is on the node as before. -/
theorem Binds.stage :
    s'.leaseToken = s.leaseToken ∧ s'.currentNodeID = s.currentNodeID ∧ s'.attemptCount = s.attemptCount ∧ s'.maxAttempts = s.maxAttempts ∧
      s'.inputArtifactID = s.inputArtifactID ∧ s'.outputArtifactID = s.outputArtifactID := by
  rcases binds.row with rfl | ⟨-, -, _, _, _, rfl⟩ <;> exact ⟨rfl, rfl, rfl, rfl, rfl, rfl⟩

theorem Binds.turn (h : Pipeline db)
    (sound : ∀ t ∈ db.tasks, Sound t.core) : Turn db db' s s' := by
  have known : ∀ t ∈ db.tasks, executeEffect.Known t := fun t mem => ⟨sound t mem, trivial⟩
  have back := calm_back executeEffect_stable binds.tasks known (by decide) fun _ => id
  have relabels := binds.relabels
  obtain ⟨token, node, count, budget, input, output⟩ := binds.stage
  have stored := binds.sets.stored
  have runs := h.runs a binds.stored binds.isOpen s stored (binds.stageNamed.trans binds.ofStage.symm)
  have held : Held s' := by
    rcases binds.row with rfl | ⟨-, -, _, _, _, rfl⟩
    · exact runs.held
    · exact .inr rfl
  have keeps : Keeps db db' s s' (fun b => if b.id = a.id then a' else b) :=
    { same := binds.sets.same
      relabels := relabels
      count := ⟨count, budget⟩
      leased := fun _ => held
      runs := fun b mem ofStage isOpen =>
        ⟨held, node.trans (h.runs b mem (relabels.wasOpen b mem isOpen) s stored ofStage.symm).node⟩
      staffed := fun b mem ofStage isOpen => staffed_of_calm h back mem (relabels.wasOpen b mem isOpen) stored ofStage.symm
      ordered := fun _ => h.ordered s stored runs.held.started
      passed := fun passed => (runs.held.not_passed passed).elim
      settled := fun done => (done.not_held held).elim
      void := fun isOver => by
        rcases binds.row with rfl | ⟨-, -, _, _, _, rfl⟩
        · exact isOver
        · cases isOver
      back := fun t' mem => by
        obtain ⟨t, isTask, calm⟩ := back t' mem
        exact ⟨t, isTask, .calm calm⟩
      forth := calm_forth executeEffect_stable binds.tasks known fun _ => id }
  exact keeps.turn_of_sets h binds.sets input output

end

/-! ## The task of the stage -/

/-- The task of a stage is written. -/
structure MovesTask (k : Kind) (taskID : String) (g : Task → Task) (db db' : Database) : Prop where
  tasks : db'.tasks = db.tasks.map fun t => if t.taskID == taskID && t.deletedAt.isNone then g t else t
  moves : ∀ t, Staffed t.core → CoreMove t.core k (g t).core

section
variable {k : Kind} {g : Task → Task} {s : Stage} {db db' : Database}

/-- Where a task comes from, if that of the stage is active. -/
theorem MovesTask.back (moved : MovesTask k s.taskID g db db') (staffed : ∀ t ∈ db.tasks, t.taskID = s.taskID → Staffed t.core) {t' : Task}
    (mem : t' ∈ db'.tasks) : ∃ t ∈ db.tasks, (t.taskID ≠ s.taskID ∧ t' = t) ∨
      (t.taskID = s.taskID ∧ Staffed t.core ∧ CoreMove t.core k t'.core ∧ t' = g t) := by
  rw [moved.tasks] at mem
  obtain ⟨t, stored, rfl⟩ := List.mem_map.mp mem
  refine ⟨t, stored, ?_⟩
  by_cases own : t.taskID = s.taskID
  · have active := staffed t stored own
    have undeleted : t.deletedAt = none := active.undeleted
    rw [if_pos (by simp [own, undeleted])]
    exact .inr ⟨own, active, moved.moves t active, rfl⟩
  · rw [if_neg (by simp [own])]
    exact .inl ⟨own, rfl⟩

theorem MovesTask.forth (moved : MovesTask k s.taskID g db db') (staffed : ∀ t ∈ db.tasks, t.taskID = s.taskID → Staffed t.core) :
    ∀ t ∈ db.tasks, ∃ t' ∈ db'.tasks, t'.taskID = t.taskID := by
  intro t mem
  refine ⟨_, by rw [moved.tasks]; exact List.mem_map_of_mem mem, ?_⟩
  by_cases hit : (t.taskID == s.taskID && t.deletedAt.isNone) = true
  · rw [if_pos hit]
    simp only [Bool.and_eq_true, beq_iff_eq] at hit
    exact (moved.moves t (staffed t mem hit.1)).keeps.1
  · rw [if_neg hit]

theorem MovesTask.evolves {e : Effect} (moved : MovesTask k s.taskID g db db')
    (staffed : ∀ t ∈ db.tasks, t.taskID = s.taskID → Staffed t.core)
    (kind : k ∈ e.kinds) (others : ∀ t, t ≠ .videoTasks → t ∉ e.tables → db'.rows t = db.rows t) : e.law.Evolves db db' := by
  refine Effect.evolves_of ?_ others
  rw [moved.tasks]
  refine .single (.update _ fun t mem => ?_)
  by_cases hit : (t.taskID == s.taskID && t.deletedAt.isNone) = true
  · rw [if_pos hit]
    simp only [Bool.and_eq_true, beq_iff_eq] at hit
    exact .inr fun _ => ⟨k, kind, moved.moves t (staffed t mem hit.1)⟩
  · exact .inl (if_neg hit)

end

/-- The statement on the task, and the callback after it. -/
theorem movesTask_of_update {k : Kind} {taskID : String} {g : Task → Task}
    (applied : (Dml.update Tbl.videoTasks (fun _ (t : Task) =>
      t.taskID == taskID && t.deletedAt.isNone) fun _ t => g t).apply db = .ok (n, mid))
    (told : tellEffect.law.Evolves mid db') (moves : ∀ t, Staffed t.core → CoreMove t.core k (g t).core) :
    MovesTask k taskID g db db' ∧ ∀ t, t ≠ .videoTasks → t ≠ .callbackDeliveries → db'.rows t = db.rows t := by
  have sameTasks : db'.tasks = mid.tasks := Effect.same_tasks told ⟨rfl, fun _ => trivial, fun _ => id, fun _ => id⟩
  refine ⟨⟨?_, moves⟩, fun t tasks calls => ?_⟩
  · rw [sameTasks]
    obtain ⟨tab, rfl, rows, -⟩ := apply_update applied
    rw [Database.tasks, DB.rows_put_self]
    exact rows
  · exact (Effect.same_rows told tasks (by simpa [tellEffect] using calls)).trans (apply_update_rows_of_ne applied tasks)

/-! ## Failing -/

/-- The change of a task whose stage has failed. -/
def failStageEffect : Effect := { kinds := [.advance, .failStages], tables := [.stageAttempts, .taskStages, .callbackDeliveries] }

/-- The held stage `s` goes back to the queue or fails, and its open attempt `a` with it. -/
structure Fails (stageID leaseToken : String) (terminal : Bool) (a a' : Attempt) (s s' : Stage) (db db' : Database) : Prop where
  stored : a ∈ db.attempts
  ofStage : a.stageID = stageID
  isOpen : a.status.isOpen = true
  same : a'.id = a.id ∧ a'.stageID = a.stageID ∧ a'.attemptNo = a.attemptNo ∧ a'.nodeID = a.nodeID
  closed : a'.status.isOpen = false
  attempts : db'.attempts = db.attempts.map fun b => if b.id = a.id then a' else b
  stageNamed : s.id = stageID
  token : s.leaseToken = some leaseToken
  sets : SetsStage db db' s s'
  kept : s'.attemptCount = s.attemptCount ∧ s'.maxAttempts = s.maxAttempts ∧ s'.inputArtifactID = s.inputArtifactID ∧
    s'.outputArtifactID = s.outputArtifactID
  status : s'.status = (if terminal then .failed else .pending) ∧ s'.leaseToken = none
  task : ∃ g, MovesTask (if terminal then .failStages else .advance) s.taskID g db db'
  others : ∀ t, t ≠ .videoTasks → t ∉ failStageEffect.tables → db'.rows t = db.rows t

/-- The worker of a lease has an open attempt of its stage. -/
def Working (stageID leaseToken attemptID : String) (db : Database) : Prop :=
  ∀ s ∈ db.stages, s.id = stageID → s.leaseToken = some leaseToken →
    ∃ a ∈ db.attempts, a.id = attemptID ∧ a.stageID = stageID ∧ a.status.isOpen = true

theorem failStage_spec {code message : String} {retryAt : Int} {terminal : Bool}
    {u : Unit} (working : Working stageID leaseToken attemptID db)
    (out : (failStageBody stageID leaseToken attemptID code message retryAt terminal callbackID now).Returns db u db') :
    ∃ a a' s s', Fails stageID leaseToken terminal a a' s s' db db' ∧
      s'.nextAttemptAt = if terminal then none else some retryAt := by
  obtain ⟨n, d1, ended, rest⟩ := returns_bind.mp out
  obtain ⟨m, d2, returned, last⟩ := returns_bind.mp rest
  simp only [returns_exec] at ended returned
  obtain ⟨_, d3, once, tail⟩ := returns_bind.mp last
  obtain ⟨rfl, rfl⟩ := returns_oneRow.mp once
  obtain ⟨stage, d4, read, moves⟩ := returns_bind.mp tail
  obtain ⟨isStage, rfl⟩ := returns_query.mp read
  -- the stage that was held, and its open attempt
  obtain ⟨s, stored₁, named, hit, stages⟩ := stage_update_one returned fun u _ hit => by
    simp only [Bool.and_eq_true, beq_iff_eq] at hit
    exact hit.1
  simp only [Bool.and_eq_true, beq_iff_eq] at hit
  have early (t : Tbl) (other : t ≠ .stageAttempts) : d1.rows t = db.rows t := apply_update_rows_of_ne ended other
  have stored : s ∈ db.stages := by
    rw [Database.stages, early .taskStages (by decide)] at stored₁
    exact stored₁
  obtain ⟨a, isAttempt, isNamed, ofStage, isOpen⟩ := working s stored named hit.2
  have attempts : Database.attempts d1 = _ := apply_update_at ended
      (attempts_distinct db) isAttempt (by simp [isNamed, ofStage]) fun b _ hit => by
    simp only [Bool.and_eq_true, beq_iff_eq] at hit
    exact hit.1.trans isNamed.symm
  have oldStages : Database.stages d1 = db.stages := early .taskStages (by decide)
  rw [oldStages] at stages
  let s' : Stage := { s with
    status := if terminal then .failed else .pending, errorCode := some code, errorMessage := some message
    nextAttemptAt := if terminal then none else some retryAt, leaseToken := none, leaseExpiresAt := none
    updatedAt := now, finishedAt := if terminal then some now else none, rowVersion := s.rowVersion + 1 }
  have sets : SetsStage db d4 s s' := by
    refine ⟨stored, ⟨rfl, rfl, rfl⟩, ?_⟩
    rw [named]
    exact stages
  obtain rfl : stage = s' := sets.found named isStage
  have middle (t : Tbl) (isAttempts : t ≠ .stageAttempts) (isStages : t ≠ .taskStages) : d4.rows t = db.rows t :=
    (apply_update_rows_of_ne returned isStages).trans (early t isAttempts)
  -- the task and its callback
  obtain ⟨g, moved, tells⟩ : ∃ g, MovesTask (if terminal then .failStages else .advance) s.taskID g d4 db' ∧
      ∀ t, t ≠ .videoTasks → t ≠ .callbackDeliveries → DB.rows db' t = d4.rows t := by
    cases terminal with
    | true =>
      obtain ⟨_, d5, written, told⟩ := returns_bind.mp moves
      have law : tellEffect.law.Evolves d5 db' := (writes_callback (by decide)).evolves told
      exact ⟨_, movesTask_of_update (returns_exec.mp written) law fun t h => .failStages code h.undeleted h.protocol h.active⟩
    | false =>
      obtain ⟨_, d5, written, done⟩ := returns_bind.mp moves
      obtain ⟨-, rfl⟩ := returns_pure.mp done
      exact ⟨_, movesTask_of_update (returns_exec.mp written) (Laws.chains.refl _) fun t h => .advance h.undeleted h.protocol h.active⟩
  refine ⟨a, { a with
      status := .failed, errorCode := some code, errorMessage := some message
      heartbeatAt := some now, finishedAt := some now },
    s, s', ⟨isAttempt, ofStage, isOpen, ⟨rfl, rfl, rfl, rfl⟩, rfl, ?_, named, hit.2, ?_, ⟨rfl, rfl, rfl, rfl⟩, ⟨rfl, rfl⟩,
      ⟨g, ?_, moved.moves⟩, ?_⟩, rfl⟩
  · rw [Database.attempts, tells .stageAttempts (by decide) (by decide), apply_update_rows_of_ne returned (by decide)]
    exact attempts
  · exact ⟨stored, sets.same, (tells .taskStages (by decide) (by decide)).trans sets.stages⟩
  · have sameTasks : Database.tasks d4 = db.tasks := middle .videoTasks (by decide) (by decide)
    rw [moved.tasks, sameTasks]
  · intro t tasks free
    simp only [failStageEffect, List.mem_cons, List.not_mem_nil, or_false, not_or] at free
    rw [tells t tasks free.2.2, middle t free.1 free.2.1]

section
variable {terminal : Bool} {a a' : Attempt} {s' : Stage} (fails : Fails stageID leaseToken terminal a a' s s' db db')
include fails

theorem Fails.wrote : SetsAttempt db db' s a a' :=
  ⟨fails.stored, fails.isOpen, fails.ofStage.trans fails.stageNamed.symm, fails.sets.stored, fails.same, fails.attempts⟩

theorem Fails.evolves (h : Pipeline db) :
    failStageEffect.law.Evolves db db' := by
  obtain ⟨g, moved⟩ := fails.task
  refine moved.evolves (fails.wrote.active h).2 ?_ fails.others
  cases terminal <;> decide

theorem Fails.relabels : Relabels s (fun b => if b.id = a.id then a' else b) db db' := fails.wrote.relabels

theorem Fails.turn (h : Pipeline db) : Turn db db' s s' := by
  obtain ⟨runs, staffed⟩ := fails.wrote.active h
  obtain ⟨g, moved⟩ := fails.task
  have keeps : Keeps db db' s s' (fun b => if b.id = a.id then a' else b) :=
    { same := fails.sets.same
      relabels := fails.relabels
      count := ⟨fails.kept.1, fails.kept.2.1⟩
      leased := fun token => by rw [fails.status.2] at token; cases token
      runs := fun b mem ofStage isOpen => fails.wrote.shut fails.closed h mem ofStage isOpen
      staffed := fun b mem ofStage isOpen => fails.wrote.shut fails.closed h mem ofStage isOpen
      ordered := fun _ => h.ordered s fails.sets.stored runs.held.started
      passed := fun passed => (runs.held.not_passed passed).elim
      settled := fun _ => .inl (h.begun fails.stored fails.sets.stored (fails.stageNamed.trans fails.ofStage.symm))
      void := fun isOver => by
        rw [fails.status.1] at isOver
        split at isOver <;> cases isOver
      back := fun t' mem => by
        obtain ⟨t, isTask, ⟨-, rfl⟩ | ⟨own, active, move, -⟩⟩ := moved.back staffed mem
        · exact ⟨t', isTask, .calm (.refl _)⟩
        · refine ⟨t, isTask, .isOver own move.keeps.1 active runs.held fun isOver => ?_⟩
          cases terminal with
          | true => exact absurd (move.status_of_failStages.symm.trans isOver) nofun
          | false => exact absurd (move.status_of_advance.symm.trans isOver) nofun
      forth := moved.forth staffed }
  exact keeps.turn_of_sets h fails.sets fails.kept.2.2.1 fails.kept.2.2.2

end

/-! ## Completing -/

/-- The change of a task whose stage is done, and the tables that are written with it. -/
def completeStageEffect : Effect where
  kinds := [.advance, .finishStages]
  tables := [.stageAttempts, .taskStages, .callbackDeliveries, .taskArtifacts, .artifactLocations]

/-- The stage `s` is done: its output is the input of the one after it, or the result. -/
structure Completes (stageID : String) (output : Option String) (a a' : Attempt) (s s' : Stage) (db db' : Database) : Prop where
  stored : a ∈ db.attempts
  ofStage : a.stageID = stageID
  isOpen : a.status.isOpen = true
  same : a'.id = a.id ∧ a'.stageID = a.stageID ∧ a'.attemptNo = a.attemptNo ∧ a'.nodeID = a.nodeID
  closed : a'.status.isOpen = false
  attempts : db'.attempts = db.attempts.map fun b => if b.id = a.id then a' else b
  stageStored : s ∈ db.stages
  stageNamed : s.id = stageID
  sameStage : s'.id = s.id ∧ s'.taskID = s.taskID ∧ s'.stageOrder = s.stageOrder
  stages : db'.stages = db.stages.map fun u => if u.id = s.id then s' else
    { u with inputArtifactID := if u.taskID = s.taskID ∧ u.status = .pending ∧ s.stageOrder < u.stageOrder ∧
        (∀ e ∈ db.stages, e.taskID = s.taskID → s.stageOrder < e.stageOrder →
          u.stageOrder ≤ e.stageOrder) then output else u.inputArtifactID }
  kept : s'.attemptCount = s.attemptCount ∧ s'.maxAttempts = s.maxAttempts ∧ s'.inputArtifactID = s.inputArtifactID
  done : s'.status = .succeeded ∧ s'.outputArtifactID = output ∧ s'.leaseToken = none
  task : (∃ g, MovesTask .advance s.taskID g db db') ∨
    ((∀ u ∈ db'.stages, u.taskID = s.taskID → Passed u) ∧ ∃ g,
      MovesTask .finishStages s.taskID g db db' ∧ ∀ t, (g t).resultArtifactID = output)
  others : ∀ t, t ≠ .videoTasks → t ∉ completeStageEffect.tables → db'.rows t = db.rows t

/-- The output of the stage is passed on to the one after it. -/
theorem passes_on {s' : Stage} {output : Option String} (sets : SetsStage db mid s s') (done : s'.status = .succeeded)
    (applied : (.update Tbl.taskStages (fun d (u : Stage) => u.taskID == s'.taskID && u.status == .pending && u.stageOrder > s'.stageOrder
        && !((Database.stages d).any fun e => e.taskID == s'.taskID && e.stageOrder > s'.stageOrder && e.stageOrder < u.stageOrder))
      fun _ (u : Stage) => { u with inputArtifactID := output } : Dml).apply mid = .ok (n, db')) :
    db'.stages = db.stages.map fun u => if u.id = s.id then s' else
      { u with inputArtifactID := if u.taskID = s.taskID ∧ u.status = .pending ∧ s.stageOrder < u.stageOrder ∧
        (∀ e ∈ db.stages, e.taskID = s.taskID → s.stageOrder < e.stageOrder →
          u.stageOrder ≤ e.stageOrder) then output else u.inputArtifactID } := by
  obtain ⟨-, sameTask, sameOrder⟩ := sets.same
  -- no stage lies between, before as after the stage is done
  have between (u : Stage) : (mid.stages.any fun e =>
      e.taskID == s'.taskID && e.stageOrder > s'.stageOrder && e.stageOrder < u.stageOrder) = false ↔
      ∀ e ∈ db.stages, e.taskID = s.taskID → s.stageOrder < e.stageOrder → u.stageOrder ≤ e.stageOrder := by
    rw [sets.stages, List.any_map, List.any_eq_false, sameTask, sameOrder]
    refine forall₂_congr fun e mem => ?_
    have same : (if e.id = s.id then s' else e).taskID = e.taskID ∧ (if e.id = s.id then s' else e).stageOrder = e.stageOrder := by
      split
      · rename_i own
        rw [eq_of_key (stages_distinct db) mem sets.stored own]
        exact ⟨sameTask, sameOrder⟩
      · exact ⟨rfl, rfl⟩
    simp only [Function.comp_apply, same.1, same.2, Bool.and_eq_true, beq_iff_eq, decide_eq_true_eq, not_and, not_lt, gt_iff_lt, and_imp]
  obtain ⟨tab, rfl, rows, -⟩ := apply_update applied
  rw [Database.stages, DB.rows_put_self, rows]
  have old : mid.rows Tbl.taskStages = _ := sets.stages
  rw [old, updateRows, List.map_map]
  refine List.map_congr_left fun u mem => ?_
  simp only [Function.comp_apply]
  by_cases own : u.id = s.id
  · simp only [if_pos own]
    exact if_neg (by simp [done])
  · simp only [if_neg own]
    by_cases next : u.taskID = s.taskID ∧ u.status = .pending ∧ s.stageOrder < u.stageOrder ∧
        (∀ e ∈ db.stages, e.taskID = s.taskID → s.stageOrder < e.stageOrder → u.stageOrder ≤ e.stageOrder)
    · rw [if_pos next]
      refine if_pos ?_
      simp only [Bool.and_eq_true, beq_iff_eq, decide_eq_true_eq, Bool.not_eq_true', gt_iff_lt]
      exact ⟨⟨⟨next.1.trans sameTask.symm, next.2.1⟩, sameOrder ▸ next.2.2.1⟩, (between u).mpr next.2.2.2⟩
    · rw [if_neg next]
      refine if_neg ?_
      simp only [Bool.and_eq_true, beq_iff_eq, decide_eq_true_eq, Bool.not_eq_true', gt_iff_lt]
      rintro ⟨⟨⟨ofTask, pending⟩, later⟩, noneBetween⟩
      exact next ⟨ofTask.trans sameTask, pending, sameOrder ▸ later, (between u).mp noneBetween⟩

theorem completeStage_spec {output : String} {u : Unit}
    (out : (completeStageBody stageID leaseToken attemptID (some output) callbackID now).Returns db u db') :
    ∃ a a' s s', Completes stageID (some output) a a' s s' db db' := by
  obtain ⟨n, d₁, ended, rest₁⟩ := returns_bind.mp out
  obtain ⟨_, d1, onceA, rest₂⟩ := returns_bind.mp rest₁
  obtain ⟨rfl, rfl⟩ := returns_oneRow.mp onceA
  obtain ⟨m, d₂, closes, rest₃⟩ := returns_bind.mp rest₂
  obtain ⟨_, d₃, onceS, rest₄⟩ := returns_bind.mp rest₃
  obtain ⟨rfl, rfl⟩ := returns_oneRow.mp onceS
  obtain ⟨stage, d2, read, rest₅⟩ := returns_bind.mp rest₄
  obtain ⟨isStage, rfl⟩ := returns_query.mp read
  dsimp only at rest₅
  rw [if_pos (show (some output).isSome = true from rfl)] at rest₅
  obtain ⟨_, d3, passes, rest₆⟩ := returns_bind.mp rest₅
  obtain ⟨remaining, d4, counts, ends⟩ := returns_bind.mp rest₆
  obtain ⟨isCount, rfl⟩ := returns_select.mp counts
  clear out rest₁ rest₂ rest₃ rest₄ rest₅ rest₆ onceA onceS read counts
  simp only [returns_exec] at ended closes passes
  obtain ⟨a, isAttempt, named, hitA, attempts⟩ := attempt_update_one ended fun b _ hit => by
    simp only [Bool.and_eq_true, beq_iff_eq] at hit
    exact hit.1.1
  simp only [Bool.and_eq_true, Bool.or_eq_true, beq_iff_eq] at hitA
  have isOpen : a.status.isOpen = true := by
    rcases hitA.2 with (is | is) | is <;> rw [is] <;> rfl
  obtain ⟨s, stored₁, stageNamed, -, stages⟩ := stage_update_one closes fun u _ hit => by
    simp only [Bool.and_eq_true, beq_iff_eq] at hit
    exact hit.1.1
  have early (t : Tbl) (other : t ≠ .stageAttempts) : d1.rows t = db.rows t := apply_update_rows_of_ne ended other
  have oldStages : Database.stages d1 = db.stages := early .taskStages (by decide)
  rw [oldStages] at stages stored₁
  let s' : Stage := { s with
    status := .succeeded, outputArtifactID := some output, leaseToken := none, leaseExpiresAt := none
    updatedAt := now, finishedAt := some now, rowVersion := s.rowVersion + 1 }
  have sets : SetsStage db d2 s s' := by
    refine ⟨stored₁, ⟨rfl, rfl, rfl⟩, ?_⟩
    rw [stageNamed]
    exact stages
  obtain rfl : stage = s' := sets.found stageNamed isStage
  have passed := passes_on sets rfl passes
  have middle (t : Tbl) (isAttempts : t ≠ .stageAttempts) (isStages : t ≠ .taskStages) : d4.rows t = db.rows t :=
    (apply_update_rows_of_ne passes isStages).trans ((apply_update_rows_of_ne closes isStages).trans (early t isAttempts))
  have sameTasks : Database.tasks d4 = db.tasks := middle .videoTasks (by decide) (by decide)
  -- the task and its callback
  have told {d : Database} {status : String} (said : (createCallbackDelivery callbackID s.taskID status now).Returns d u db') :
      tellEffect.law.Evolves d db' := (writes_callback (by decide)).evolves said
  obtain ⟨moved, tells⟩ : ((∃ g, MovesTask .advance s.taskID g d4 db') ∨ ((∀ v ∈ Database.stages d4, v.taskID = s.taskID → Passed v) ∧
      ∃ g, MovesTask .finishStages s.taskID g d4 db' ∧ ∀ t, (g t).resultArtifactID = some output)) ∧
      ∀ t, t ≠ .videoTasks → t ≠ .callbackDeliveries → DB.rows db' t = d4.rows t := by
    split at ends
    · rename_i noneLeft
      obtain ⟨_, d5, written, said⟩ := returns_bind.mp ends
      obtain ⟨move, rest⟩ := movesTask_of_update (returns_exec.mp written) (told said) fun t h =>
        .finishStages (some output) h.undeleted h.protocol h.active
      refine ⟨.inr ⟨fun v mem ofTask => ?_, _, move, fun _ => rfl⟩, rest⟩
      rw [noneLeft, eq_comm, List.length_eq_zero_iff, List.filter_eq_nil_iff] at isCount
      by_contra unpassed
      simp only [Passed, not_or] at unpassed
      exact isCount v mem (by simp [s', ofTask, unpassed.1, unpassed.2])
    · obtain ⟨_, d5, written, said⟩ := returns_bind.mp ends
      obtain ⟨move, rest⟩ := movesTask_of_update (returns_exec.mp written) (told said) fun t h => .advance h.undeleted h.protocol h.active
      exact ⟨.inl ⟨_, move⟩, rest⟩
  have sameStages : db'.stages = Database.stages d4 := tells .taskStages (by decide) (by decide)
  refine ⟨a, { a with status := .succeeded, outputArtifactID := some output, heartbeatAt := some now, finishedAt := some now }, s, s',
    isAttempt, hitA.1.2, isOpen, ⟨rfl, rfl, rfl, rfl⟩, rfl, ?_, stored₁, stageNamed, ⟨rfl, rfl, rfl⟩,
    sameStages.trans passed, ⟨rfl, rfl, rfl⟩, ⟨rfl, rfl, rfl⟩, ?_, fun t tasks free => ?_⟩
  · rw [Database.attempts, tells .stageAttempts (by decide) (by decide), apply_update_rows_of_ne passes (by decide),
      apply_update_rows_of_ne closes (by decide)]
    rw [← named] at attempts
    exact attempts
  · rcases moved with ⟨g, move⟩ | ⟨all, g, move, result⟩
    · exact .inl ⟨g, by rw [move.tasks, sameTasks], move.moves⟩
    · exact .inr ⟨sameStages ▸ all, g, ⟨by rw [move.tasks, sameTasks], move.moves⟩, result⟩
  · simp only [completeStageEffect, List.mem_cons, List.not_mem_nil, or_false, not_or] at free
    rw [tells t tasks free.2.2.1, middle t free.1 free.2.1]

section
variable {output : Option String} {a a' : Attempt} {s' : Stage} (completes : Completes stageID output a a' s s' db db')
include completes

theorem Completes.wrote : SetsAttempt db db' s a a' :=
  ⟨completes.stored, completes.isOpen, completes.ofStage.trans completes.stageNamed.symm,
    completes.stageStored, completes.same, completes.attempts⟩

theorem Completes.evolves (h : Pipeline db) :
    completeStageEffect.law.Evolves db db' := by
  rcases completes.task with ⟨g, moved⟩ | ⟨-, g, moved, -⟩
  · exact moved.evolves (completes.wrote.active h).2 (by decide) completes.others
  · exact moved.evolves (completes.wrote.active h).2 (by decide) completes.others

theorem Completes.relabels : Relabels s (fun b => if b.id = a.id then a' else b) db db' := completes.wrote.relabels

/-- A stage after it: the stage that was done, or an old one that may have its input now. -/
theorem Completes.was {u' : Stage} (mem : u' ∈ db'.stages) :
    u' = s' ∨ ∃ u ∈ db.stages, u.id ≠ s.id ∧ u' = { u with inputArtifactID := if u.taskID = s.taskID ∧ u.status = .pending ∧
      s.stageOrder < u.stageOrder ∧ (∀ e ∈ db.stages, e.taskID = s.taskID → s.stageOrder < e.stageOrder → u.stageOrder ≤ e.stageOrder)
        then output else u.inputArtifactID } := by
  rw [completes.stages] at mem
  obtain ⟨u, stored, rfl⟩ := List.mem_map.mp mem
  by_cases own : u.id = s.id
  · exact .inl (if_pos own)
  · exact .inr ⟨u, stored, own, if_neg own⟩

/-- Every old stage is still there, in its place. -/
theorem Completes.place {e : Stage} (stored : e ∈ db.stages) :
    ∃ e' ∈ db'.stages, e'.taskID = e.taskID ∧ e'.stageOrder = e.stageOrder ∧ (e.id = s.id ∨ e'.status = e.status) := by
  rw [completes.stages]
  refine ⟨_, List.mem_map_of_mem stored, ?_⟩
  by_cases own : e.id = s.id
  · rw [if_pos own, eq_of_key (stages_distinct db) stored completes.stageStored own]
    exact ⟨completes.sameStage.2.1, completes.sameStage.2.2, .inl rfl⟩
  · rw [if_neg own]
    exact ⟨rfl, rfl, .inr rfl⟩

theorem Completes.followed {p u p' u' : Stage}
    (follows : Follows db'.stages p' u') (sameP : p'.taskID = p.taskID ∧ p'.stageOrder = p.stageOrder)
    (sameU : u'.taskID = u.taskID ∧ u'.stageOrder = u.stageOrder) : Follows db.stages p u := by
  refine follows.before (fun e stored => ?_) sameP sameU
  obtain ⟨e', isStored, sameTask, sameOrder, -⟩ := completes.place stored
  exact ⟨e', isStored, sameTask, sameOrder⟩

/-- The output of the stage is the input of the one after it. -/
theorem Completes.chained (h : Pipeline db) :
    ∀ p ∈ db'.stages, ∀ u ∈ db'.stages, Follows db'.stages p u → u.inputArtifactID = p.outputArtifactID := by
  intro p isP u isU follows
  have held := (completes.wrote.active h).1.held
  have h3 : ∀ t ∈ db.tasks, t.taskID = s.taskID → t.protocolVersion = some .h3 := fun t mem named =>
    ((completes.wrote.active h).2 t mem named).protocol
  rcases completes.was isP with rfl | ⟨p, oldP, otherP, rfl⟩
  · rcases completes.was isU with rfl | ⟨u, oldU, -, rfl⟩
    · exact absurd follows.later (lt_irrefl _)
    · have next : Follows db.stages s u := completes.followed follows completes.sameStage.2 ⟨rfl, rfl⟩
      -- the stage after a held one of an active task waits for its input
      have waits : u.status = .pending := by
        refine (h.waiting completes.stageStored oldU next.taskID held next.later h3).resolve_right fun isOver => ?_
        obtain ⟨t, isTask, ofTask⟩ := h.parent u oldU
        have active := ((completes.wrote.active h).2 t isTask (ofTask.trans next.taskID)).active
        have was : t.core.status = .cancelled := h.void u oldU isOver t isTask ofTask
        rw [was] at active
        cases active
      exact (if_pos ⟨next.taskID, waits, next.later, next.next⟩).trans completes.done.2.1.symm
  · rcases completes.was isU with rfl | ⟨u, oldU, -, rfl⟩
    · have next : Follows db.stages p s := completes.followed follows ⟨rfl, rfl⟩ completes.sameStage.2
      exact completes.kept.2.2.trans (h.chained p oldP s completes.stageStored next)
    · have next : Follows db.stages p u := completes.followed follows ⟨rfl, rfl⟩ ⟨rfl, rfl⟩
      refine (if_neg ?_).trans (h.chained p oldP u oldU next)
      -- two stages right before one are the same
      rintro ⟨ofTask, -, later, first⟩
      have sameTask : p.taskID = s.taskID := next.taskID.symm.trans ofTask
      have order : p.stageOrder = s.stageOrder := by
        rcases lt_trichotomy p.stageOrder s.stageOrder with less | equal | more
        · exact absurd (next.next s completes.stageStored sameTask.symm less) (not_le.mpr later)
        · exact equal
        · exact absurd (first p oldP sameTask more) (not_le.mpr next.later)
      exact otherP (congrArg Stage.id (eq_of_key orders_distinct oldP completes.stageStored (by rw [sameTask, order])))

/-- When every stage is done, the one that was done last is the last one. -/
theorem Completes.last (h : Pipeline db)
    (all : ∀ u ∈ db'.stages, u.taskID = s.taskID → Passed u) : Last db'.stages s' := by
  intro e' mem ofTask
  have held := (completes.wrote.active h).1.held
  have h3 : ∀ t ∈ db.tasks, t.taskID = s.taskID → t.protocolVersion = some .h3 := fun t mem named =>
    ((completes.wrote.active h).2 t mem named).protocol
  rw [completes.sameStage.2.1] at ofTask
  rw [completes.sameStage.2.2]
  rcases completes.was mem with rfl | ⟨e, stored, -, rfl⟩
  · exact le_of_eq completes.sameStage.2.2
  · by_contra later
    have passed := all _ mem ofTask
    rcases h.waiting completes.stageStored stored ofTask held (not_le.mp later) h3 with is | is <;>
      rcases passed with isOver | isOver <;> exact absurd (is.symm.trans isOver) nofun

theorem Completes.turn (h : Pipeline db) : Turn db db' s s' := by
  obtain ⟨runs, staffed⟩ := completes.wrote.active h
  have isNew : s' ∈ db'.stages := by
    rw [completes.stages]
    exact List.mem_map.mpr ⟨s, completes.stageStored, if_pos rfl⟩
  have back : ∀ t' ∈ db'.tasks, ∃ t ∈ db.tasks, Ended db' s t.core t'.core := by
    intro t' mem
    rcases completes.task with ⟨g, moved⟩ | ⟨all, g, moved, result⟩
    · obtain ⟨t, isTask, ⟨-, rfl⟩ | ⟨own, active, move, -⟩⟩ := moved.back staffed mem
      · exact ⟨t', isTask, .calm (.refl _)⟩
      · refine ⟨t, isTask, .isOver own move.keeps.1 active runs.held fun isOver => ?_⟩
        exact absurd (move.status_of_advance.symm.trans isOver) nofun
    · obtain ⟨t, isTask, ⟨-, rfl⟩ | ⟨own, active, move, rfl⟩⟩ := moved.back staffed mem
      · exact ⟨t', isTask, .calm (.refl _)⟩
      · refine ⟨t, isTask, .isOver own move.keeps.1 active runs.held fun _ => ?_⟩
        exact ⟨s', isNew, completes.sameStage.2.1.trans own.symm, completes.last h all, completes.done.1,
          (result t).trans completes.done.2.1.symm⟩
  have forth : ∀ t ∈ db.tasks, ∃ t' ∈ db'.tasks, t'.taskID = t.taskID := by
    rcases completes.task with ⟨g, moved⟩ | ⟨-, g, moved, -⟩ <;> exact moved.forth staffed
  have keeps : Keeps db db' s s' (fun b => if b.id = a.id then a' else b) :=
    { same := completes.sameStage
      relabels := completes.relabels
      count := ⟨completes.kept.1, completes.kept.2.1⟩
      leased := fun token => by rw [completes.done.2.2] at token; cases token
      runs := fun b mem ofStage isOpen => completes.wrote.shut completes.closed h mem ofStage isOpen
      staffed := fun b mem ofStage isOpen => completes.wrote.shut completes.closed h mem ofStage isOpen
      ordered := fun _ => h.ordered s completes.stageStored runs.held.started
      passed := fun passed => (runs.held.not_passed passed).elim
      settled := fun _ => .inl (h.begun completes.stored completes.stageStored (completes.stageNamed.trans completes.ofStage.symm))
      void := fun isOver => absurd (completes.done.1.symm.trans isOver) nofun
      back := back
      forth := forth }
  exact keeps.turn h completes.stageStored ⟨_, completes.stages⟩ (completes.chained h)

end

/-- What was written before it to the tables of the outputs. -/
theorem Completes.of_same {output : Option String} {a a' : Attempt} {s' : Stage} (completes : Completes stageID output a a' s s' mid db')
    (same : ∀ t, t ≠ .taskArtifacts → t ≠ .artifactLocations → mid.rows t = db.rows t) :
    Completes stageID output a a' s s' db db' := by
  have tasks : mid.tasks = db.tasks := same .videoTasks (by decide) (by decide)
  have stages : mid.stages = db.stages := same .taskStages (by decide) (by decide)
  have attempts : mid.attempts = db.attempts := same .stageAttempts (by decide) (by decide)
  obtain ⟨stored, ofStage, isOpen, kept, closed, ended, stageStored, stageNamed, sameStage, passed, budget, done, task, others⟩ := completes
  rw [attempts] at stored ended
  rw [stages] at stageStored passed
  refine ⟨stored, ofStage, isOpen, kept, closed, ended, stageStored,
    stageNamed, sameStage, passed, budget, done, ?_, fun t isTasks free => ?_⟩
  · rcases task with ⟨g, moved⟩ | ⟨all, g, moved, result⟩
    · exact .inl ⟨g, tasks ▸ moved.tasks, moved.moves⟩
    · exact .inr ⟨all, g, ⟨tasks ▸ moved.tasks, moved.moves⟩, result⟩
  · rw [others t isTasks free]
    simp only [completeStageEffect, List.mem_cons, List.not_mem_nil, or_false, not_or] at free
    exact same t free.2.2.2.1 free.2.2.2.2

/-- The effect of registering an output. -/
def outputEffect : Effect := { kinds := [], tables := [.taskArtifacts, .artifactLocations] }

theorem writes_registerStageOutput {sha : String → String} {out : StageOutput} :
    (registerStageOutputBody sha out now).Writes (Obeys outputEffect.law) := by
  refine writes_bind writes_query fun stage => writes_bind writes_require fun _ => writes_bind writes_query fun t => ?_
  refine writes_bind writes_select fun later => writes_bind (by simp [outputEffect]) fun _ => ?_
  refine writes_bind writes_query fun a => writes_bind writes_require fun _ => writes_bind (by simp [outputEffect]) fun _ => ?_
  exact writes_bind writes_query fun l => writes_bind writes_require fun _ => writes_pure

theorem completeStageWithOutput_spec {sha : String → String} {out : StageOutput} {r : String}
    (ran : (completeStageWithOutputBody sha out leaseToken attemptID callbackID now).Returns db r db') :
    ∃ artifactID a a' s s', Completes out.stageID (some artifactID) a a' s s' db db' := by
  obtain ⟨artifactID, d1, registered, rest⟩ := returns_bind.mp ran
  obtain ⟨_, d2, completed, last⟩ := returns_bind.mp rest
  obtain ⟨-, rfl⟩ := returns_pure.mp last
  obtain ⟨a, a', s, s', completes⟩ := completeStage_spec completed
  refine ⟨artifactID, a, a', s, s', completes.of_same fun t artifacts locations => ?_⟩
  have law := (writes_registerStageOutput).evolves registered
  by_cases isTasks : t = .videoTasks
  · rw [isTasks]
    exact Effect.same_tasks law ⟨rfl, fun _ => trivial, fun _ => id, fun _ => id⟩
  · exact Effect.same_rows law isTasks (by simp [outputEffect, artifacts, locations])

end MinimaxProxy.Store
