import MinimaxProxy.Store.Creation
import MinimaxProxy.Store.Pipeline
import MinimaxProxy.Store.PurgeEffects

/-!
# Stages of a task as a whole

Steps that leave the stages alone (`Quiet`), and steps with all stages of a task: they are
cancelled, dropped or added with it.
-/

namespace MinimaxProxy.Store
open Sql

variable {a : Attempt} {db db' : Database} {now : Int} {o : Options} {s s' : Stage} {u : Unit}

/-- Tasks change, and stages need not know. -/
structure Quiet (db db' : Database) : Prop where
  stages : db'.stages = db.stages
  attempts : db'.attempts = db.attempts
  back : ∀ t' ∈ db'.tasks, ∃ t ∈ db.tasks, Calm t.core t'.core
  forth : ∀ t ∈ db.tasks, ∃ t' ∈ db'.tasks, t'.taskID = t.taskID

theorem Pipeline.quiet (h : Pipeline db) (quiet : Quiet db db') : Pipeline db' where
  named := by rw [quiet.stages]; exact h.named
  parent s mem := by
    rw [quiet.stages] at mem
    obtain ⟨t, isTask, ofTask⟩ := h.parent s mem
    obtain ⟨t', isTask', same⟩ := quiet.forth t isTask
    exact ⟨t', isTask', same.trans ofTask⟩
  leased := by rw [quiet.stages]; exact h.leased
  budget := by rw [quiet.stages]; exact h.budget
  numbered := by rw [quiet.stages, quiet.attempts]; exact h.numbered
  counted := by rw [quiet.stages, quiet.attempts]; exact h.counted
  runs := by rw [quiet.stages, quiet.attempts]; exact h.runs
  staffed a mem isOpen s isStage ofStage t' isTask ofTask := by
    rw [quiet.attempts] at mem
    rw [quiet.stages] at isStage
    obtain ⟨t, stored, calm⟩ := quiet.back t' isTask
    exact calm.staffed (h.staffed a mem isOpen s isStage ofStage t stored (calm.taskID.symm.trans ofTask))
  ordered := by rw [quiet.stages]; exact h.ordered
  settled s isStage done := by
    rw [quiet.stages] at isStage
    refine (h.settled s isStage done).imp_right fun direct t' isTask ofTask => ?_
    obtain ⟨t, stored, calm⟩ := quiet.back t' isTask
    exact calm.direct (direct t stored (calm.taskID.symm.trans ofTask))
  void s isStage cancelled t' isTask ofTask := by
    rw [quiet.stages] at isStage
    obtain ⟨t, stored, calm⟩ := quiet.back t' isTask
    exact calm.cancelled (h.void s isStage cancelled t stored (calm.taskID.symm.trans ofTask))
  chained := by rw [quiet.stages]; exact h.chained
  result t' isTask h3 isOver := by
    rw [quiet.stages]
    obtain ⟨t, stored, calm⟩ := quiet.back t' isTask
    obtain ⟨wasH3, wasOver, same⟩ := calm.result h3 isOver
    obtain ⟨s, isStage, ofTask, last, succeeded, output⟩ := h.result t stored wasH3 wasOver
    exact ⟨s, isStage, ofTask.trans calm.taskID.symm, last, succeeded, same.trans output⟩

/-- The stage of a cancelled task. -/
structure CancelledStage (taskID : String) (s s' : Stage) : Prop where
  same : s'.id = s.id ∧ s'.taskID = s.taskID ∧ s'.stageOrder = s.stageOrder ∧ s'.attemptCount = s.attemptCount ∧
    s'.maxAttempts = s.maxAttempts ∧ s'.inputArtifactID = s.inputArtifactID ∧ s'.outputArtifactID = s.outputArtifactID
  other : s.taskID ≠ taskID → s' = s
  done : s.status.isDone = true → s' = s
  own : s.taskID = taskID → s.status.isDone = false → s'.status = .cancelled ∧ s'.leaseToken = none

/-- Its attempts end. -/
structure CancelledAttempt (db : Database) (taskID : String) (a a' : Attempt) : Prop where
  same : a'.id = a.id ∧ a'.stageID = a.stageID ∧ a'.attemptNo = a.attemptNo ∧ a'.nodeID = a.nodeID
  other : stageOf db taskID a.stageID = false → a' = a
  own : stageOf db taskID a.stageID = true → a'.status.isOpen = false

/-- A task is cancelled with its stages. -/
structure CancelsStages (taskID : String) (db db' : Database) : Prop where
  stages : ∃ f, db'.stages = db.stages.map f ∧ ∀ s ∈ db.stages, CancelledStage taskID s (f s)
  attempts : ∃ f, db'.attempts = db.attempts.map f ∧ ∀ a ∈ db.attempts, CancelledAttempt db taskID a (f a)
  back : ∀ t' ∈ db'.tasks, ∃ t ∈ db.tasks, t'.taskID = t.taskID ∧ (t.taskID ≠ taskID → t' = t) ∧
    (t.taskID = taskID → t'.status = .cancelled ∧ (Direct t.core → Direct t'.core))
  forth : ∀ t ∈ db.tasks, ∃ t' ∈ db'.tasks, t'.taskID = t.taskID

theorem stageOf_iff {taskID id : String} : stageOf db taskID id = true ↔ ∃ s ∈ db.stages, s.taskID = taskID ∧ s.id = id := by
  simp [stageOf]

section
variable {taskID : String} {db db' : Database}

theorem CancelsStages.stage (cancels : CancelsStages taskID db db') (mem : s' ∈ db'.stages) :
    ∃ s ∈ db.stages, CancelledStage taskID s s' := by
  obtain ⟨f, stages, each⟩ := cancels.stages
  rw [stages] at mem
  obtain ⟨s, stored, rfl⟩ := List.mem_map.mp mem
  exact ⟨s, stored, each s stored⟩

theorem CancelsStages.becomes (cancels : CancelsStages taskID db db') (mem : s ∈ db.stages) :
    ∃ s' ∈ db'.stages, CancelledStage taskID s s' := by
  obtain ⟨f, stages, each⟩ := cancels.stages
  rw [stages]
  exact ⟨f s, List.mem_map_of_mem mem, each s mem⟩

theorem CancelsStages.attempt (cancels : CancelsStages taskID db db') {a' : Attempt} (mem : a' ∈ db'.attempts) :
    ∃ a ∈ db.attempts, CancelledAttempt db taskID a a' := by
  obtain ⟨f, attempts, each⟩ := cancels.attempts
  rw [attempts] at mem
  obtain ⟨a, stored, rfl⟩ := List.mem_map.mp mem
  exact ⟨a, stored, each a stored⟩

/-- What is open after it is an attempt of another task. -/
theorem CancelsStages.wasOpen (cancels : CancelsStages taskID db db') (mem : a ∈ db'.attempts) (isOpen : a.status.isOpen = true)
    (isStage : s ∈ db'.stages) (ofStage : s.id = a.stageID) : a ∈ db.attempts ∧ s ∈ db.stages ∧ s.taskID ≠ taskID := by
  obtain ⟨b, stored, ended⟩ := cancels.attempt mem
  obtain ⟨u, isOld, cancelled⟩ := cancels.stage isStage
  cases own : stageOf db taskID b.stageID with
  | true =>
    rw [ended.own own] at isOpen
    cases isOpen
  | false =>
    obtain rfl := ended.other own
    have other : u.taskID ≠ taskID := by
      intro ofTask
      have : stageOf db taskID a.stageID = true := stageOf_iff.mpr ⟨u, isOld, ofTask, cancelled.same.1.symm.trans ofStage⟩
      rw [own] at this
      cases this
    obtain rfl := cancelled.other other
    exact ⟨stored, isOld, other⟩

/-- The attempt of another task keeps its task. -/
theorem CancelsStages.task (cancels : CancelsStages taskID db db') {t' : Task} (mem : t' ∈ db'.tasks) (other : t'.taskID ≠ taskID) :
    t' ∈ db.tasks := by
  obtain ⟨t, stored, same, kept, -⟩ := cancels.back t' mem
  rw [kept (same ▸ other)]
  exact stored

/-- A stage is as it was, or it is one of the task and now cancelled. -/
theorem CancelledStage.cases (cancelled : CancelledStage taskID s s') :
    s' = s ∨ (s.taskID = taskID ∧ s'.status = .cancelled ∧ s'.leaseToken = none) := by
  by_cases own : s.taskID = taskID
  · cases done : s.status.isDone with
    | true => exact .inl (cancelled.done done)
    | false => exact .inr ⟨own, cancelled.own own done⟩
  · exact .inl (cancelled.other own)

theorem CancelledStage.passed (cancelled : CancelledStage taskID s s') (passed : Passed s) : s' = s := by
  refine cancelled.done ?_
  rcases passed with is | is <;> rw [is] <;> rfl

theorem CancelledStage.started (cancelled : CancelledStage taskID s s') (started : Started s') : Started s := by
  rcases cancelled.cases with rfl | ⟨-, isOver, -⟩
  · exact started
  · refine started.imp (fun count => cancelled.same.2.2.2.1 ▸ count) fun held => ?_
    rcases held with is | is <;> rw [isOver] at is <;> cases is

theorem CancelsStages.last (cancels : CancelsStages taskID db db') (cancelled : CancelledStage taskID s s') :
    Last db.stages s → Last db'.stages s' := by
  intro last e' mem ofTask
  obtain ⟨e, stored, same⟩ := cancels.stage mem
  rw [same.same.2.2.1, cancelled.same.2.2.1]
  exact last e stored (same.same.2.1.symm.trans (ofTask.trans cancelled.same.2.1))

theorem CancelsStages.follows (cancels : CancelsStages taskID db db') {p p' : Stage} (first : CancelledStage taskID p p')
    (second : CancelledStage taskID s s') (follows : Follows db'.stages p' s') : Follows db.stages p s := by
  refine follows.before (fun e stored => ?_) ⟨first.same.2.1, first.same.2.2.1⟩ ⟨second.same.2.1, second.same.2.2.1⟩
  obtain ⟨e', mem, same⟩ := cancels.becomes stored
  exact ⟨e', mem, same.same.2.1, same.same.2.2.1⟩

theorem Pipeline.cancels (h : Pipeline db) (cancels : CancelsStages taskID db db') : Pipeline db' where
  named s' mem := by
    obtain ⟨s, stored, cancelled⟩ := cancels.stage mem
    rw [cancelled.same.1]
    exact h.named s stored
  parent s' mem := by
    obtain ⟨s, stored, cancelled⟩ := cancels.stage mem
    obtain ⟨t, isTask, ofTask⟩ := h.parent s stored
    obtain ⟨t', isTask', same⟩ := cancels.forth t isTask
    exact ⟨t', isTask', same.trans (ofTask.trans cancelled.same.2.1.symm)⟩
  leased s' mem token := by
    obtain ⟨s, stored, cancelled⟩ := cancels.stage mem
    rcases cancelled.cases with rfl | ⟨-, -, noToken⟩
    · exact h.leased _ stored token
    · rw [noToken] at token
      cases token
  budget s' mem := by
    obtain ⟨s, stored, cancelled⟩ := cancels.stage mem
    rw [cancelled.same.2.2.2.1, cancelled.same.2.2.2.2.1]
    exact h.budget s stored
  numbered a' mem := by
    obtain ⟨a, stored, ended⟩ := cancels.attempt mem
    obtain ⟨s, isStage, ofStage, number⟩ := h.numbered a stored
    obtain ⟨s', isStage', cancelled⟩ := cancels.becomes isStage
    refine ⟨s', isStage', cancelled.same.1.trans (ofStage.trans ended.same.2.1.symm), ?_⟩
    rw [ended.same.2.2.1, cancelled.same.2.2.2.1]
    exact number
  counted s' mem k positive le := by
    obtain ⟨s, stored, cancelled⟩ := cancels.stage mem
    rw [cancelled.same.2.2.2.1] at le
    obtain ⟨a, isAttempt, ofStage, number⟩ := h.counted s stored k positive le
    obtain ⟨f, attempts, each⟩ := cancels.attempts
    refine ⟨f a, by rw [attempts]; exact List.mem_map_of_mem isAttempt, ?_, ?_⟩
    · exact (each a isAttempt).same.2.1.trans (ofStage.trans cancelled.same.1.symm)
    · exact (each a isAttempt).same.2.2.1.trans number
  runs a mem isOpen s isStage ofStage := by
    obtain ⟨stored, isOld, -⟩ := cancels.wasOpen mem isOpen isStage ofStage
    exact h.runs a stored isOpen s isOld ofStage
  staffed a mem isOpen s isStage ofStage t isTask ofTask := by
    obtain ⟨stored, isOld, other⟩ := cancels.wasOpen mem isOpen isStage ofStage
    exact h.staffed a stored isOpen s isOld ofStage t (cancels.task isTask (ofTask ▸ other)) ofTask
  ordered s' mem started e' isStage same less := by
    obtain ⟨s, stored, cancelled⟩ := cancels.stage mem
    obtain ⟨e, isOld, before⟩ := cancels.stage isStage
    have passed : Passed e := by
      refine h.ordered s stored (cancelled.started started) e isOld (before.same.2.1.symm.trans (same.trans cancelled.same.2.1)) ?_
      rw [← before.same.2.2.1, ← cancelled.same.2.2.1]
      exact less
    rw [before.passed passed]
    exact passed
  settled s' mem done := by
    obtain ⟨s, stored, cancelled⟩ := cancels.stage mem
    rcases cancelled.cases with rfl | ⟨-, isOver, -⟩
    · refine (h.settled s' stored done).imp_right fun direct t' isTask ofTask => ?_
      obtain ⟨t, isOld, same, kept, own⟩ := cancels.back t' isTask
      have was := direct t isOld (same.symm.trans ofTask)
      by_cases named : t.taskID = taskID
      · exact (own named).2 was
      · rw [kept named]
        exact was
    · rcases done with is | is | is <;> exact absurd (isOver.symm.trans is) nofun
  void s' mem isOver t' isTask ofTask := by
    obtain ⟨s, stored, cancelled⟩ := cancels.stage mem
    obtain ⟨t, isOld, same, kept, own⟩ := cancels.back t' isTask
    by_cases named : t.taskID = taskID
    · exact (own named).1
    · rw [kept named]
      have ofIt : t.taskID = s.taskID := same.symm.trans (ofTask.trans cancelled.same.2.1)
      obtain rfl := cancelled.other (ofIt ▸ named)
      exact h.void _ stored isOver t isOld ofIt
  chained p' isP s' isS follows := by
    obtain ⟨p, oldP, first⟩ := cancels.stage isP
    obtain ⟨s, oldS, second⟩ := cancels.stage isS
    rw [second.same.2.2.2.2.2.1, first.same.2.2.2.2.2.2]
    exact h.chained p oldP s oldS (cancels.follows first second follows)
  result t' isTask h3 isOver := by
    obtain ⟨t, isOld, same, kept, own⟩ := cancels.back t' isTask
    have other : t.taskID ≠ taskID := fun named => by
      rw [(own named).1] at isOver
      cases isOver
    obtain rfl := kept other
    obtain ⟨s, stored, ofTask, last, succeeded, output⟩ := h.result t' isOld h3 isOver
    obtain ⟨s', isStage, cancelled⟩ := cancels.becomes stored
    have stays := cancels.last cancelled last
    obtain rfl := cancelled.passed (.inl succeeded)
    exact ⟨s', isStage, ofTask, stays, succeeded, output⟩

/-- A task goes with its stages and their attempts. -/
structure DropsTask (taskID : String) (db db' : Database) : Prop where
  tasks : db'.tasks = db.tasks.filter fun t => t.taskID != taskID
  stages : db'.stages = db.stages.filter fun s => s.taskID != taskID
  attempts : db'.attempts = db.attempts.filter fun a => !stageOf db taskID a.stageID

theorem DropsTask.task (drops : DropsTask taskID db db') {t : Task} : t ∈ db'.tasks ↔ t ∈ db.tasks ∧ t.taskID ≠ taskID := by
  rw [drops.tasks, List.mem_filter, bne_iff_ne]

theorem DropsTask.stage (drops : DropsTask taskID db db') : s ∈ db'.stages ↔ s ∈ db.stages ∧ s.taskID ≠ taskID := by
  rw [drops.stages, List.mem_filter, bne_iff_ne]

theorem DropsTask.attempt (drops : DropsTask taskID db db') (mem : a ∈ db'.attempts) : a ∈ db.attempts := by
  rw [drops.attempts] at mem
  exact (List.mem_filter.mp mem).1

/-- The attempts of the stages that are left. -/
theorem DropsTask.kept (drops : DropsTask taskID db db') (mem : a ∈ db.attempts) (isStage : s ∈ db'.stages)
    (ofStage : a.stageID = s.id) : a ∈ db'.attempts := by
  obtain ⟨stored, other⟩ := drops.stage.mp isStage
  rw [drops.attempts]
  refine List.mem_filter.mpr ⟨mem, ?_⟩
  rw [Bool.not_eq_true', ← Bool.not_eq_true]
  intro own
  obtain ⟨u, isU, ofTask, same⟩ := stageOf_iff.mp own
  rw [eq_of_key (stages_distinct db) isU stored (same.trans ofStage)] at ofTask
  exact other ofTask

theorem Pipeline.dropped (h : Pipeline db) (drops : DropsTask taskID db db') : Pipeline db' where
  named s mem := h.named s (drops.stage.mp mem).1
  parent s mem := by
    obtain ⟨stored, other⟩ := drops.stage.mp mem
    obtain ⟨t, isTask, ofTask⟩ := h.parent s stored
    exact ⟨t, drops.task.mpr ⟨isTask, ofTask ▸ other⟩, ofTask⟩
  leased s mem := h.leased s (drops.stage.mp mem).1
  budget s mem := h.budget s (drops.stage.mp mem).1
  numbered a mem := by
    obtain ⟨s, isStage, ofStage, number⟩ := h.numbered a (drops.attempt mem)
    refine ⟨s, drops.stage.mpr ⟨isStage, fun ofTask => ?_⟩, ofStage, number⟩
    rw [drops.attempts] at mem
    have kept := (List.mem_filter.mp mem).2
    rw [stageOf_iff.mpr ⟨s, isStage, ofTask, ofStage⟩] at kept
    cases kept
  counted s mem k positive le := by
    obtain ⟨a, isAttempt, ofStage, number⟩ := h.counted s (drops.stage.mp mem).1 k positive le
    exact ⟨a, drops.kept isAttempt mem ofStage, ofStage, number⟩
  runs a mem isOpen s isStage := h.runs a (drops.attempt mem) isOpen s (drops.stage.mp isStage).1
  staffed a mem isOpen s isStage ofStage t isTask :=
    h.staffed a (drops.attempt mem) isOpen s (drops.stage.mp isStage).1 ofStage t (drops.task.mp isTask).1
  ordered s mem started e isStage := h.ordered s (drops.stage.mp mem).1 started e (drops.stage.mp isStage).1
  settled s mem done := (h.settled s (drops.stage.mp mem).1 done).imp_right fun direct t isTask => direct t (drops.task.mp isTask).1
  void s mem cancelled t isTask := h.void s (drops.stage.mp mem).1 cancelled t (drops.task.mp isTask).1
  chained p isP s isS follows := by
    obtain ⟨oldP, other⟩ := drops.stage.mp isP
    refine h.chained p oldP s (drops.stage.mp isS).1 ⟨follows.taskID, follows.later, fun e stored ofTask later => ?_⟩
    exact follows.next e (drops.stage.mpr ⟨stored, ofTask ▸ other⟩) ofTask later
  result t isTask h3 isOver := by
    obtain ⟨old, other⟩ := drops.task.mp isTask
    obtain ⟨s, isStage, ofTask, last, rest⟩ := h.result t old h3 isOver
    exact ⟨s, drops.stage.mpr ⟨isStage, ofTask ▸ other⟩, ofTask, fun e mem => last e (drops.stage.mp mem).1, rest⟩

/-- A task is added, with stages that nobody has begun. -/
structure AddsTask (taskID : String) (db db' : Database) : Prop where
  unused : ∀ t ∈ db.tasks, t.taskID ≠ taskID
  stages : ∃ new, db'.stages = db.stages ++ new ∧ ∀ s ∈ new, NewStage taskID s
  attempts : db'.attempts = db.attempts
  back : ∀ t' ∈ db'.tasks, (∃ t ∈ db.tasks, Calm t.core t'.core) ∨ (t'.taskID = taskID ∧ t'.status.isQueued = true)
  forth : ∀ t ∈ db.tasks, ∃ t' ∈ db'.tasks, t'.taskID = t.taskID
  added : ∃ t' ∈ db'.tasks, t'.taskID = taskID

/-- A stage was there, or it is one of the new task and nobody has begun it. -/
theorem AddsTask.stage (adds : AddsTask taskID db db') (mem : s ∈ db'.stages) : s ∈ db.stages ∨ NewStage taskID s := by
  obtain ⟨new, stages, each⟩ := adds.stages
  rw [stages] at mem
  exact (List.mem_append.mp mem).imp id (each s)

theorem AddsTask.old (adds : AddsTask taskID db db') (mem : s ∈ db.stages) : s ∈ db'.stages := by
  obtain ⟨new, stages, -⟩ := adds.stages
  rw [stages]
  exact List.mem_append_left _ mem

/-- No stage was there for the new task. -/
theorem AddsTask.other (adds : AddsTask taskID db db') (h : Pipeline db) (mem : s ∈ db.stages) : s.taskID ≠ taskID := by
  obtain ⟨t, isTask, ofTask⟩ := h.parent s mem
  exact ofTask ▸ adds.unused t isTask

/-- A stage of another task was there. -/
theorem AddsTask.same (adds : AddsTask taskID db db') (h : Pipeline db) {e : Stage} (mem : s ∈ db.stages) (isStage : e ∈ db'.stages)
    (sameTask : e.taskID = s.taskID) : e ∈ db.stages := by
  rcases adds.stage isStage with old | new
  · exact old
  · exact absurd (sameTask.symm.trans new.taskID) (adds.other h mem)

theorem AddsTask.task (adds : AddsTask taskID db db') (h : Pipeline db) (mem : s ∈ db.stages) {t' : Task} (isTask : t' ∈ db'.tasks)
    (ofTask : t'.taskID = s.taskID) : ∃ t ∈ db.tasks, Calm t.core t'.core ∧ t.taskID = s.taskID := by
  rcases adds.back t' isTask with ⟨t, stored, calm⟩ | ⟨named, -⟩
  · exact ⟨t, stored, calm, calm.taskID.symm.trans ofTask⟩
  · exact absurd (ofTask.symm.trans named) (adds.other h mem)

theorem NewStage.not_started (new : NewStage taskID s) (started : Started s) : False := by
  rcases started with count | is | is
  · rw [new.attempts] at count
    exact absurd count (by decide)
  · exact absurd (new.status.symm.trans is) nofun
  · rw [new.status] at is
    cases is

theorem Pipeline.added (h : Pipeline db) (adds : AddsTask taskID db db') : Pipeline db' where
  named s mem := (adds.stage mem).elim (h.named s) NewStage.named
  parent s mem := by
    rcases adds.stage mem with old | new
    · obtain ⟨t, isTask, ofTask⟩ := h.parent s old
      obtain ⟨t', isTask', same⟩ := adds.forth t isTask
      exact ⟨t', isTask', same.trans ofTask⟩
    · obtain ⟨t', isTask, named⟩ := adds.added
      exact ⟨t', isTask, named.trans new.taskID.symm⟩
  leased s mem token := by
    rcases adds.stage mem with old | new
    · exact h.leased s old token
    · rw [new.unleased] at token
      cases token
  budget s mem := by
    rcases adds.stage mem with old | new
    · exact h.budget s old
    · rw [new.attempts]
      exact ⟨le_rfl, le_trans (by decide) new.budget⟩
  numbered a mem := by
    rw [adds.attempts] at mem
    obtain ⟨s, isStage, rest⟩ := h.numbered a mem
    exact ⟨s, adds.old isStage, rest⟩
  counted s mem k positive le := by
    rw [adds.attempts]
    rcases adds.stage mem with old | new
    · exact h.counted s old k positive le
    · rw [new.attempts] at le
      exact absurd (le_trans positive le) (by decide)
  runs a mem isOpen s isStage ofStage := by
    rw [adds.attempts] at mem
    obtain ⟨u, isU, same, -⟩ := h.numbered a mem
    obtain rfl := eq_of_key (stages_distinct db') isStage (adds.old isU) (ofStage.trans same.symm)
    exact h.runs a mem isOpen s isU ofStage
  staffed a mem isOpen s isStage ofStage t' isTask ofTask := by
    rw [adds.attempts] at mem
    obtain ⟨u, isU, same, -⟩ := h.numbered a mem
    obtain rfl := eq_of_key (stages_distinct db') isStage (adds.old isU) (ofStage.trans same.symm)
    obtain ⟨t, stored, calm, ofIt⟩ := adds.task h isU isTask ofTask
    exact calm.staffed (h.staffed a mem isOpen s isU ofStage t stored ofIt)
  ordered s mem started e isStage same less := by
    rcases adds.stage mem with old | new
    · exact h.ordered s old started e (adds.same h old isStage same) same less
    · exact (new.not_started started).elim
  settled s mem done := by
    rcases adds.stage mem with old | new
    · refine (h.settled s old done).imp_right fun direct t' isTask ofTask => ?_
      obtain ⟨t, stored, calm, ofIt⟩ := adds.task h old isTask ofTask
      exact calm.direct (direct t stored ofIt)
    · rcases done with is | is | is <;> exact absurd (new.status.symm.trans is) nofun
  void s mem cancelled t' isTask ofTask := by
    rcases adds.stage mem with old | new
    · obtain ⟨t, stored, calm, ofIt⟩ := adds.task h old isTask ofTask
      exact calm.cancelled (h.void s old cancelled t stored ofIt)
    · rw [new.status] at cancelled
      cases cancelled
  chained p isP s isS follows := by
    rcases adds.stage isP with old | new
    · refine h.chained p old s (adds.same h old isS follows.taskID) ⟨follows.taskID, follows.later, fun e stored => ?_⟩
      exact follows.next e (adds.old stored)
    · rcases adds.stage isS with old' | new'
      · exact absurd (follows.taskID.trans new.taskID) (adds.other h old')
      · rw [new'.input, new.output]
  result t' isTask h3 isOver := by
    rcases adds.back t' isTask with ⟨t, stored, calm⟩ | ⟨-, queued⟩
    · obtain ⟨wasH3, wasOver, same⟩ := calm.result h3 isOver
      obtain ⟨s, isStage, ofTask, last, succeeded, output⟩ := h.result t stored wasH3 wasOver
      exact ⟨s, adds.old isStage, ofTask.trans calm.taskID.symm, fun e mem sameTask => last e (adds.same h isStage mem sameTask) sameTask,
        succeeded, same.trans output⟩
    · rw [isOver] at queued
      cases queued

/-- A stage as it was, or one of the task that has ended now. -/
structure SettledStage (taskID : String) (s s' : Stage) : Prop where
  same : s'.id = s.id ∧ s'.taskID = s.taskID ∧ s'.stageOrder = s.stageOrder ∧ s'.attemptCount = s.attemptCount ∧
    s'.maxAttempts = s.maxAttempts ∧ s'.inputArtifactID = s.inputArtifactID ∧ s'.outputArtifactID = s.outputArtifactID
  cases : s' = s ∨ (s.taskID = taskID ∧ ¬ Passed s ∧ Done s' ∧ s'.leaseToken = none)

/-- The stages of a task of official nodes, which no H3 node works on, end with it. -/
structure SettlesStages (taskID : String) (db db' : Database) : Prop where
  direct : ∀ t ∈ db.tasks, t.taskID = taskID → Direct t.core
  stages : ∃ f, db'.stages = db.stages.map f ∧ ∀ s ∈ db.stages, SettledStage taskID s (f s)
  attempts : db'.attempts = db.attempts
  back : ∀ t' ∈ db'.tasks, ∃ t ∈ db.tasks, Calm t.core t'.core
  forth : ∀ t ∈ db.tasks, ∃ t' ∈ db'.tasks, t'.taskID = t.taskID

theorem SettlesStages.stage (settles : SettlesStages taskID db db') (mem : s' ∈ db'.stages) :
    ∃ s ∈ db.stages, SettledStage taskID s s' := by
  obtain ⟨f, stages, each⟩ := settles.stages
  rw [stages] at mem
  obtain ⟨s, stored, rfl⟩ := List.mem_map.mp mem
  exact ⟨s, stored, each s stored⟩

theorem SettlesStages.becomes (settles : SettlesStages taskID db db') (mem : s ∈ db.stages) :
    ∃ s' ∈ db'.stages, SettledStage taskID s s' := by
  obtain ⟨f, stages, each⟩ := settles.stages
  rw [stages]
  exact ⟨f s, List.mem_map_of_mem mem, each s mem⟩

theorem SettledStage.passed (settled : SettledStage taskID s s') (passed : Passed s) : s' = s :=
  settled.cases.resolve_right fun ended => ended.2.1 passed

theorem SettledStage.started (settled : SettledStage taskID s s') (started : Started s') : Started s := by
  rcases settled.cases with rfl | ⟨-, -, done, -⟩
  · exact started
  · exact started.imp (fun count => settled.same.2.2.2.1 ▸ count) fun held => (done.not_held held).elim

/-- The stage of an open attempt stays as it is: its task is one of H3 nodes. -/
theorem SettlesStages.kept (settles : SettlesStages taskID db db') (h : Pipeline db) (mem : a ∈ db.attempts)
    (isOpen : a.status.isOpen = true) (stored : s ∈ db.stages) (ofStage : s.id = a.stageID)
    (settled : SettledStage taskID s s') : s' = s := by
  refine settled.cases.resolve_right fun ⟨own, _⟩ => ?_
  obtain ⟨t, isTask, ofTask⟩ := h.parent s stored
  have official := (settles.direct t isTask (ofTask.trans own)).protocol
  exact absurd (official.symm.trans (h.staffed a mem isOpen s stored ofStage t isTask ofTask).protocol) nofun

theorem Pipeline.settles (h : Pipeline db) (settles : SettlesStages taskID db db') : Pipeline db' where
  named s' mem := by
    obtain ⟨s, stored, settled⟩ := settles.stage mem
    rw [settled.same.1]
    exact h.named s stored
  parent s' mem := by
    obtain ⟨s, stored, settled⟩ := settles.stage mem
    obtain ⟨t, isTask, ofTask⟩ := h.parent s stored
    obtain ⟨t', isTask', same⟩ := settles.forth t isTask
    exact ⟨t', isTask', same.trans (ofTask.trans settled.same.2.1.symm)⟩
  leased s' mem token := by
    obtain ⟨s, stored, settled⟩ := settles.stage mem
    rcases settled.cases with rfl | ⟨-, -, -, noToken⟩
    · exact h.leased _ stored token
    · rw [noToken] at token
      cases token
  budget s' mem := by
    obtain ⟨s, stored, settled⟩ := settles.stage mem
    rw [settled.same.2.2.2.1, settled.same.2.2.2.2.1]
    exact h.budget s stored
  numbered a mem := by
    rw [settles.attempts] at mem
    obtain ⟨s, isStage, ofStage, number⟩ := h.numbered a mem
    obtain ⟨s', isStage', settled⟩ := settles.becomes isStage
    refine ⟨s', isStage', settled.same.1.trans ofStage, ?_⟩
    rw [settled.same.2.2.2.1]
    exact number
  counted s' mem k positive le := by
    obtain ⟨s, stored, settled⟩ := settles.stage mem
    rw [settled.same.2.2.2.1] at le
    rw [settles.attempts, settled.same.1]
    exact h.counted s stored k positive le
  runs a mem isOpen s' isStage ofStage := by
    rw [settles.attempts] at mem
    obtain ⟨s, stored, settled⟩ := settles.stage isStage
    have ofIt : s.id = a.stageID := settled.same.1.symm.trans ofStage
    rw [settles.kept h mem isOpen stored ofIt settled]
    exact h.runs a mem isOpen s stored ofIt
  staffed a mem isOpen s' isStage ofStage t' isTask ofTask := by
    rw [settles.attempts] at mem
    obtain ⟨s, stored, settled⟩ := settles.stage isStage
    obtain ⟨t, isOld, calm⟩ := settles.back t' isTask
    refine calm.staffed (h.staffed a mem isOpen s stored (settled.same.1.symm.trans ofStage) t isOld ?_)
    exact calm.taskID.symm.trans (ofTask.trans settled.same.2.1)
  ordered s' mem started e' isStage same less := by
    obtain ⟨s, stored, settled⟩ := settles.stage mem
    obtain ⟨e, isOld, before⟩ := settles.stage isStage
    have passed : Passed e := by
      refine h.ordered s stored (settled.started started) e isOld (before.same.2.1.symm.trans (same.trans settled.same.2.1)) ?_
      rw [← before.same.2.2.1, ← settled.same.2.2.1]
      exact less
    rw [before.passed passed]
    exact passed
  settled s' mem done := by
    obtain ⟨s, stored, settled⟩ := settles.stage mem
    have direct {id : String} (was : ∀ t ∈ db.tasks, t.taskID = id → Direct t.core) : ∀ t ∈ db'.tasks, t.taskID = id → Direct t.core := by
      intro t' isTask ofTask
      obtain ⟨t, isOld, calm⟩ := settles.back t' isTask
      exact calm.direct (was t isOld (calm.taskID.symm.trans ofTask))
    rcases settled.cases with rfl | ⟨own, -⟩
    · exact (h.settled s' stored done).imp_right direct
    · rw [settled.same.2.1, own]
      exact .inr (direct settles.direct)
  void s' mem isOver t' isTask ofTask := by
    obtain ⟨s, stored, settled⟩ := settles.stage mem
    obtain ⟨t, isOld, calm⟩ := settles.back t' isTask
    rcases settled.cases with rfl | ⟨-, -, done, -⟩
    · exact calm.cancelled (h.void s' stored isOver t isOld (calm.taskID.symm.trans ofTask))
    · rcases done with is | is | is <;> exact absurd (isOver.symm.trans is) nofun
  chained p' isP s' isS follows := by
    obtain ⟨p, oldP, first⟩ := settles.stage isP
    obtain ⟨s, oldS, second⟩ := settles.stage isS
    rw [second.same.2.2.2.2.2.1, first.same.2.2.2.2.2.2]
    refine h.chained p oldP s oldS (follows.before (fun e stored => ?_) ⟨first.same.2.1, first.same.2.2.1⟩
      ⟨second.same.2.1, second.same.2.2.1⟩)
    obtain ⟨e', mem, same⟩ := settles.becomes stored
    exact ⟨e', mem, same.same.2.1, same.same.2.2.1⟩
  result t' isTask h3 isOver := by
    obtain ⟨t, isOld, calm⟩ := settles.back t' isTask
    obtain ⟨wasH3, wasOver, result⟩ := calm.result h3 isOver
    obtain ⟨s, stored, ofTask, last, succeeded, output⟩ := h.result t isOld wasH3 wasOver
    obtain ⟨s', isStage, settled⟩ := settles.becomes stored
    obtain rfl := settled.passed (.inl succeeded)
    refine ⟨s', isStage, ofTask.trans calm.taskID.symm, fun e' mem ofIt => ?_, succeeded, result.trans output⟩
    obtain ⟨e, isE, same⟩ := settles.stage mem
    rw [same.same.2.2.1]
    exact last e isE (same.same.2.1.symm.trans ofIt)

end

/-! ## The operations -/

theorem adminDelete_drops {taskID : String} (purged : Option (List Location)) {faults : Faults Err} {n : Nat} :
    (adminDelete taskID purged faults n db).db = db ∨ DropsTask taskID db (adminDelete taskID purged faults n db).db :=
  (adminDelete_cases purged).imp_right fun gone => ⟨gone.tasks, gone.stages, gone.attempts⟩

theorem newCore_sound (taskID apiKeyID : String) (queueSeq : Nat) (protocol : Protocol) (expiresAt : Int) (callback : Bool) :
    Sound (newCore taskID apiKeyID queueSeq protocol expiresAt callback) where
  slot := nofun
  staged := nofun
  stages _ := ⟨rfl, nofun, nofun⟩
  placed _ := nofun
  legacy _ := nofun
  unrouted unready := absurd rfl unready
  origin := nofun

def rankEffect : Effect := { kinds := [.rank] }

theorem rankEffect_stable : rankEffect.Stable := Effect.stable_of_trivial (fun _ => trivial) fun _ new => new.elim

theorem ranked_evolves (ranked : (rebalance o now).Returns db u db') :
    rankEffect.law.Evolves db db' := (writes_rebalance (by decide)).evolves ranked

theorem ranked_back (ranked : (rebalance o now).Returns db u db')
    (sound : ∀ t ∈ db.tasks, Sound t.core) : ∀ t' ∈ db'.tasks, ∃ t ∈ db.tasks, Calm t.core t'.core ∧
      (t.status.isQueued = true → t'.status.isQueued = true) := by
  intro t' mem
  have moves : ∀ c k c', Sound c → k ∈ rankEffect.kinds → CoreMove c k c' →
      Calm c c' ∧ (c.status.isQueued = true → c'.status.isQueued = true) := by
    intro c k c' sound mem move
    obtain rfl := List.mem_singleton.mp mem
    refine ⟨move.calm sound (by decide), fun _ => ?_⟩
    cases move with
    | rank locked => cases locked <;> rfl
  rcases Effect.back (R := fun c c' => Calm c c' ∧ (c.status.isQueued = true → c'.status.isQueued = true))
    rankEffect_stable (ranked_evolves ranked) (fun t mem => ⟨sound t mem, trivial⟩) (fun c => ⟨.refl c, id⟩)
    (fun _ _ _ first last => ⟨first.1.trans last.1, last.2 ∘ first.2⟩) moves t' mem with old | ⟨c, new, -⟩
  · exact old
  · exact new.elim

theorem ranked_forth (ranked : (rebalance o now).Returns db u db')
    (sound : ∀ t ∈ db.tasks, Sound t.core) : ∀ t ∈ db.tasks, ∃ t' ∈ db'.tasks, t'.taskID = t.taskID := by
  intro t mem
  rcases Effect.forth (R := fun c c' => c'.taskID = c.taskID) rankEffect_stable (ranked_evolves ranked)
    (fun t mem => ⟨sound t mem, trivial⟩) (fun _ => rfl) (fun _ _ _ first last => last.trans first)
    (fun _ _ _ _ _ move => move.keeps.1) t mem with kept | ⟨c, gone, -⟩
  · exact kept
  · exact gone.elim

theorem create_adds {validURL : String → Bool} {input : NewTask} {keyHash : String} {available : Option Bool}
    {faults : Faults Err} {n : Nat} (sound : ∀ t ∈ db.tasks, Sound t.core)
    (unused : ∀ t ∈ db.tasks, t.taskID ≠ input.taskID) :
    (create o validURL input keyHash available now faults n db).db = db ∨
      AddsTask input.taskID db (create o validURL input keyHash available now faults n db).db := by
  rcases immediate_effect (createBody o validURL input keyHash available (unix now)) faults with same | ⟨r, out⟩
  · exact .inl same
  rw [create]
  generalize (immediate (createBody o validURL input keyHash available (unix now)) faults n db).db = db' at out
  cases createBody_spec out with
  | replayed => exact .inl rfl
  | inserted start mid _ row _ _ _ same inserted ranked _ =>
    right
    have sameRows (t : Tbl) (other : t ≠ .videoTasks) : DB.rows db' t = mid.rows t :=
      Effect.same_rows (ranked_evolves ranked) other (by simp [rankEffect])
    have tasks : mid.tasks = db.tasks ++ [row] := inserted.tasks.trans (by rw [Database.tasks, same .videoTasks (by decide)]; rfl)
    obtain ⟨p, core⟩ := inserted.core
    have named : row.taskID = input.taskID := congrArg Core.taskID core
    have queued : row.status.isQueued = true := by
      have is : row.status = .queuedOpen := congrArg Core.status core
      rw [is]
      rfl
    have soundMid : ∀ t ∈ mid.tasks, Sound t.core := by
      intro t mem
      rw [tasks, List.mem_append, List.mem_singleton] at mem
      rcases mem with old | rfl
      · exact sound t old
      · rw [core]
        exact newCore_sound ..
    have forth := ranked_forth ranked soundMid
    refine ⟨unused, ?_, ?_, fun t' mem => ?_, fun t mem => ?_, ?_⟩
    · obtain ⟨new, stages, each⟩ := inserted.stages
      refine ⟨new, ?_, each⟩
      have before : start.stages = db.stages := same .taskStages (by decide)
      rw [Database.stages, sameRows .taskStages (by decide), ← before]
      exact stages
    · rw [Database.attempts, sameRows .stageAttempts (by decide), inserted.others .stageAttempts (by decide)]
      exact same .stageAttempts (by decide)
    · obtain ⟨t, stored, calm, waits⟩ := ranked_back ranked soundMid t' mem
      rw [tasks, List.mem_append, List.mem_singleton] at stored
      rcases stored with old | rfl
      · exact .inl ⟨t, old, calm⟩
      · exact .inr ⟨calm.taskID.trans named, waits queued⟩
    · exact forth t (by rw [tasks]; exact List.mem_append_left _ mem)
    · obtain ⟨t', mem, same⟩ := forth row (by rw [tasks]; simp)
      exact ⟨t', mem, same.trans named⟩

end MinimaxProxy.Store
