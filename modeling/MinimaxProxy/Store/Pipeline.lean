import MinimaxProxy.Store.Traces

/-!
# The stages of a task and their attempts

What the stages, the attempts and the tasks of an H3 node say about each other. `Turn` is a
step of a node with one stage: whatever it does to the stage and to its attempts, the rest is
left alone. `Pipeline.turn` reduces the invariant to that stage.
-/

namespace MinimaxProxy.Store
open Sql

variable {a : Attempt} {c c' : Core} {db : Database} {s u : Stage} {t' : Task}

/-! ## Tasks that stages run for -/

/-- A task that an attempt may run for. -/
structure Staffed (c : Core) : Prop where
  undeleted : c.deletedAt = none
  protocol : c.protocol = some .h3
  active : c.status.isActive = true

/-- A task of official nodes, for good. -/
structure Direct (c : Core) : Prop where
  protocol : c.protocol = some .official
  ready : c.routeState = .ready

theorem CoreMove.direct {k : Kind} (move : CoreMove c k c') (direct : Direct c) : Direct c' := by
  cases move with
  | route p awaiting => exact absurd (awaiting.symm.trans direct.ready) nofun
  | _ => exact ⟨direct.protocol, direct.ready⟩

/-- A change of a task that its stages need not know of. -/
structure Calm (c c' : Core) : Prop where
  direct : Direct c → Direct c'
  taskID : c'.taskID = c.taskID
  staffed : Staffed c → Staffed c'
  cancelled : c.status = .cancelled → c'.status = .cancelled
  result : c'.protocol = some .h3 → c'.status = .succeeded →
    c.protocol = some .h3 ∧ c.status = .succeeded ∧ c'.resultArtifactID = c.resultArtifactID

theorem Calm.refl (c : Core) : Calm c c := ⟨id, rfl, id, id, fun h3 isOver => ⟨h3, isOver, rfl⟩⟩

theorem Calm.trans {a b : Core} (first : Calm a b) (last : Calm b c) : Calm a c where
  direct := last.direct ∘ first.direct
  taskID := last.taskID.trans first.taskID
  staffed := last.staffed ∘ first.staffed
  cancelled := last.cancelled ∘ first.cancelled
  result h3 isOver := by
    obtain ⟨h3, isOver, same⟩ := last.result h3 isOver
    obtain ⟨h3, isOver, same'⟩ := first.result h3 isOver
    exact ⟨h3, isOver, same.trans same'⟩

/-- The changes that end a task with stages. -/
def roughKinds : List Kind := [.cancelStages, .finishStages, .failStages]

/-- A change of a task that has not been an active H3 task and does not become a finished one. -/
theorem Calm.of_other (direct : Direct c → Direct c') (taskID : c'.taskID = c.taskID) (unstaffed : Staffed c → False)
    (cancelled : c.status = .cancelled → c'.status = .cancelled)
    (unfinished : c'.protocol = some .h3 → c'.status ≠ .succeeded) : Calm c c' :=
  ⟨direct, taskID, fun h => (unstaffed h).elim, cancelled, fun h3 isOver => absurd isOver (unfinished h3)⟩

/-- A change of a task of another protocol. -/
theorem Calm.of_protocol {p : Protocol} (direct : Direct c → Direct c')
    (is : c.protocol = some p) (other : p ≠ .h3) (taskID : c'.taskID = c.taskID)
    (same : c'.protocol = c.protocol) (cancelled : c.status = .cancelled → c'.status = .cancelled) : Calm c c' := by
  have ne : c.protocol ≠ some .h3 := fun h3 => other (Option.some.inj (is.symm.trans h3))
  exact .of_other direct taskID (fun h => ne h.protocol) cancelled fun h3 => absurd (same ▸ h3) ne

theorem Calm.of_same (direct : Direct c → Direct c') (taskID : c'.taskID = c.taskID)
    (deleted : c.status.isActive = true → c'.deletedAt = c.deletedAt)
    (protocol : c'.protocol = c.protocol) (status : c'.status = c.status) (result : c'.resultArtifactID = c.resultArtifactID) :
    Calm c c' where
  direct := direct
  taskID := taskID
  staffed h := ⟨(deleted h.active).trans h.undeleted, protocol.trans h.protocol, by rw [status]; exact h.active⟩
  cancelled h := status.trans h
  result h3 isOver := ⟨protocol ▸ h3, status ▸ isOver, result⟩

theorem not_h3_of_revived (h : c.Revived) : c.protocol ≠ some .h3 := by
  rcases h.protocol with is | is <;> rw [is] <;> nofun

theorem not_queued_of_active {s : TaskStatus} (active : s.isActive = true) (queued : s.isQueued = true) : False := by
  revert active queued
  cases s <;> decide

theorem not_terminal_of_active {s : TaskStatus} (active : s.isActive = true) : s.isTerminal = false := by
  cases s <;> first | rfl | cases active

theorem Calm.of_queued (direct : Direct c → Direct c') (queued : c.status.isQueued = true) (taskID : c'.taskID = c.taskID)
    (unfinished : c'.protocol = some .h3 → c'.status ≠ .succeeded) : Calm c c' := by
  refine .of_other direct taskID (fun h => not_queued_of_active h.active queued) (fun isOver => ?_) unfinished
  rw [isOver] at queued
  cases queued

theorem Calm.of_slot (direct : Direct c → Direct c') (sound : Sound c) (slot : c.slot = true) (taskID : c'.taskID = c.taskID)
    (same : c'.protocol = c.protocol) : Calm c c' := by
  have ne := (sound.slot_other slot).1
  refine .of_other direct taskID (fun h => ne h.protocol) (fun isOver => ?_) fun h3 => absurd (same ▸ h3) ne
  have taken := (sound.slot slot).2.1
  rw [isOver] at taken
  cases taken

theorem Calm.of_stages (direct : Direct c → Direct c') (cancellable : c.status.adminCanCancel = true) (taskID : c'.taskID = c.taskID)
    (undeleted : c'.deletedAt = none) (protocol : c'.protocol = some .h3) (active : c'.status.isActive = true) : Calm c c' where
  direct := direct
  taskID := taskID
  staffed _ := ⟨undeleted, protocol, active⟩
  cancelled isOver := by rw [isOver] at cancellable; cases cancellable
  result _ isOver := by rw [isOver] at active; cases active

theorem adminCanCancel_of_active {s : TaskStatus} (active : s.isActive = true) : s.adminCanCancel = true := by
  rw [TaskStatus.adminCanCancel, active, Bool.or_true]

theorem CoreMove.calm {k : Kind} (sound : Sound c) (move : CoreMove c k c') (calm : k ∉ roughKinds) : Calm c c' := by
  have direct := move.direct
  -- a status that is not `cancelled`
  have live {s : TaskStatus} (is : c.status = s) (ne : s ≠ .cancelled) {P : Prop} (isOver : c.status = .cancelled) : P :=
    absurd (is.symm.trans isOver) ne
  have working (active : c.status.isActive = true) {P : Prop} (isOver : c.status = .cancelled) : P := by
    rw [isOver] at active
    cases active
  cases move with
  | rank locked _ queued => exact .of_queued direct queued rfl fun _ => by dsimp only; split <;> nofun
  | route p _ queued => exact .of_queued direct queued rfl fun _ => open_of_queued queued
  | cancelQueued queued => exact .of_queued direct queued rfl fun _ => nofun
  | claimLegacy _ _ _ _ queued => exact .of_queued direct queued rfl fun _ => nofun
  | claimOfficial _ _ _ _ _ queued => exact .of_queued direct queued rfl fun _ => nofun
  | claimRemote _ _ _ _ _ queued => exact .of_queued direct queued rfl fun _ => nofun
  | cancelStages | finishStages | failStages => exact absurd (by decide) calm
  | askCancel taken why =>
    rcases why with slot | ⟨placed, unstaged⟩
    · exact .of_slot direct sound slot rfl rfl
    · refine .of_other direct rfl (fun h => ?_) (fun isOver => ?_) fun _ => nofun
      · rcases sound.placed h.protocol taken with staged | free
        · rw [unstaged] at staged
          cases staged
        · rw [placed] at free
          cases free
      · rw [isOver] at taken
        cases taken
  | delete time _ terminal =>
    exact .of_same direct rfl
      (fun active => by cases (not_terminal_of_active active).symm.trans terminal) rfl rfl rfl
  | deleteLive time _ revived =>
    have other : c.protocol ≠ some .h3 := not_h3_of_revived revived
    exact .of_other direct rfl (fun h => other h.protocol) id fun h3 => absurd h3 other
  | note => exact .of_same direct rfl (fun _ => rfl) rfl rfl rfl
  | work _ _ protocol active => exact .of_protocol direct protocol nofun rfl rfl (working active)
  | succeed _ _ protocol active => exact .of_protocol direct protocol nofun rfl rfl (working active)
  | fail _ protocol active => exact .of_protocol direct protocol nofun rfl rfl (working active)
  | finishCancel protocol is => exact .of_protocol direct protocol nofun rfl rfl fun _ => rfl
  | requeue protocol is => exact .of_protocol direct protocol nofun rfl rfl (live is nofun)
  | dispatch _ _ _ undeleted _ protocol cancellable => exact .of_stages direct cancellable rfl undeleted protocol rfl
  | execute _ _ undeleted protocol active => exact .of_stages direct (adminCanCancel_of_active active) rfl undeleted protocol rfl
  | advance undeleted protocol active => exact .of_stages direct (adminCanCancel_of_active active) rfl undeleted protocol rfl
  | bindOfficial _ slot _ => exact .of_slot direct sound slot rfl rfl
  | generate _ _ _ _ slot _ => exact .of_slot direct sound slot rfl rfl
  | failOfficial _ _ slot _ => exact .of_slot direct sound slot rfl rfl
  | bindRemote slot _ => exact .of_slot direct sound slot rfl rfl
  | complete _ slot _ _ => exact .of_slot direct sound slot rfl rfl
  | resume is => exact .of_other direct rfl (fun h => (sound.stages h.protocol).2.2 is) (live is nofun) fun _ => nofun
  | undeliver is => exact .of_other direct rfl (fun h => (sound.stages h.protocol).2.1 is) (live is nofun) fun _ => nofun
  | deliver _ is _ =>
    exact .of_other direct rfl (fun h => (sound.stages h.protocol).2.1 is)
      (live is nofun) fun h3 => absurd is (sound.stages h3).2.1
  | retry is _ _ _ => exact .of_other direct rfl (fun h => by have := h.active; rw [is] at this; cases this) (live is nofun) fun _ => nofun
  | retryDeleted is _ _ _ =>
    exact .of_other direct rfl (fun h => by have := h.active; rw [is] at this; cases this)
      (live is nofun) fun _ => nofun

/-! ## Stages and attempts -/

/-- A node has the stage. -/
def Held (s : Stage) : Prop := s.status = .leased ∨ inFlight s.status = true

/-- The stage need not be done any more. -/
def Passed (s : Stage) : Prop := s.status = .succeeded ∨ s.status = .skipped

/-- Work on the stage has begun. -/
def Started (s : Stage) : Prop := 0 < s.attemptCount ∨ Held s

/-- The stage has come to an end. -/
def Done (s : Stage) : Prop := s.status = .succeeded ∨ s.status = .failed ∨ s.status = .skipped

/-- `s` comes right after `p`. -/
structure Follows (stages : List Stage) (p s : Stage) : Prop where
  taskID : s.taskID = p.taskID
  later : p.stageOrder < s.stageOrder
  next : ∀ e ∈ stages, e.taskID = p.taskID → p.stageOrder < e.stageOrder → s.stageOrder ≤ e.stageOrder

/-- What follows a stage has followed it before, where every old stage still has its place. -/
theorem Follows.before {stages stages' : List Stage} {p p' s s' : Stage} (follows : Follows stages' p' s')
    (places : ∀ e ∈ stages, ∃ e' ∈ stages', e'.taskID = e.taskID ∧ e'.stageOrder = e.stageOrder)
    (first : p'.taskID = p.taskID ∧ p'.stageOrder = p.stageOrder)
    (second : s'.taskID = s.taskID ∧ s'.stageOrder = s.stageOrder) : Follows stages p s := by
  refine ⟨?_, ?_, fun e stored ofTask later => ?_⟩
  · rw [← second.1, ← first.1]
    exact follows.taskID
  · rw [← second.2, ← first.2]
    exact follows.later
  · obtain ⟨e', isStored, sameTask, sameOrder⟩ := places e stored
    rw [← second.2, ← sameOrder]
    refine follows.next e' isStored (sameTask.trans (ofTask.trans first.1.symm)) ?_
    rw [sameOrder, first.2]
    exact later

/-- No stage of the task comes after it. -/
def Last (stages : List Stage) (s : Stage) : Prop := ∀ e ∈ stages, e.taskID = s.taskID → e.stageOrder ≤ s.stageOrder

/-- The open attempt `a` is the last one of the stage, on the node that has it. -/
structure Runs (a : Attempt) (s : Stage) : Prop where
  held : Held s
  node : s.currentNodeID = some a.nodeID
  number : a.attemptNo = s.attemptCount

structure Pipeline (db : Database) : Prop where
  named : ∀ s ∈ db.stages, s.id ≠ ""
  parent : ∀ s ∈ db.stages, ∃ t ∈ db.tasks, t.taskID = s.taskID
  leased : ∀ s ∈ db.stages, s.leaseToken.isSome = true → Held s
  budget : ∀ s ∈ db.stages, 0 ≤ s.attemptCount ∧ s.attemptCount ≤ s.maxAttempts
  numbered : ∀ a ∈ db.attempts, ∃ s ∈ db.stages, s.id = a.stageID ∧ 1 ≤ a.attemptNo ∧ a.attemptNo ≤ s.attemptCount
  counted : ∀ s ∈ db.stages, ∀ k, 1 ≤ k → k ≤ s.attemptCount → ∃ a ∈ db.attempts, a.stageID = s.id ∧ a.attemptNo = k
  runs : ∀ a ∈ db.attempts, a.status.isOpen = true → ∀ s ∈ db.stages, s.id = a.stageID → Runs a s
  staffed : ∀ a ∈ db.attempts, a.status.isOpen = true → ∀ s ∈ db.stages, s.id = a.stageID → ∀ t ∈ db.tasks, t.taskID = s.taskID →
    Staffed t.core
  ordered : ∀ s ∈ db.stages, Started s → ∀ e ∈ db.stages, e.taskID = s.taskID → e.stageOrder < s.stageOrder → Passed e
  settled : ∀ s ∈ db.stages, Done s → 0 < s.attemptCount ∨ ∀ t ∈ db.tasks, t.taskID = s.taskID → Direct t.core
  void : ∀ s ∈ db.stages, s.status = .cancelled → ∀ t ∈ db.tasks, t.taskID = s.taskID → t.status = .cancelled
  chained : ∀ p ∈ db.stages, ∀ s ∈ db.stages, Follows db.stages p s → s.inputArtifactID = p.outputArtifactID
  result : ∀ t ∈ db.tasks, t.protocolVersion = some .h3 → t.status = .succeeded →
    ∃ s ∈ db.stages, s.taskID = t.taskID ∧ Last db.stages s ∧ s.status = .succeeded ∧ t.resultArtifactID = s.outputArtifactID

theorem stages_distinct (db : Database) : db.stages.Pairwise fun a b => a.id ≠ b.id := by
  refine (db Tbl.taskStages).fit.imp fun {a b} h => ?_
  have fits : Stage.fits a b = true := h
  simp only [Stage.fits, Bool.and_eq_true, bne_iff_ne] at fits
  exact fits.1

theorem orders_distinct : db.stages.Pairwise fun a b => (a.taskID, a.stageOrder) ≠ (b.taskID, b.stageOrder) := by
  refine (db Tbl.taskStages).fit.imp fun {a b} h => ?_
  have fits : Stage.fits a b = true := h
  simp only [Stage.fits, Bool.and_eq_true, Bool.not_eq_true', Bool.and_eq_false_iff, beq_eq_false_iff_ne] at fits
  simpa [← imp_iff_not_or] using fits.2

theorem attempts_distinct (db : Database) : db.attempts.Pairwise fun a b => a.id ≠ b.id := by
  refine (db Tbl.stageAttempts).fit.imp fun {a b} h => ?_
  have fits : Attempt.fits a b = true := h
  simp only [Attempt.fits, Bool.and_eq_true, bne_iff_ne] at fits
  exact fits.1.1.1

theorem numbers_distinct : db.attempts.Pairwise fun a b => (a.stageID, a.attemptNo) ≠ (b.stageID, b.attemptNo) := by
  refine (db Tbl.stageAttempts).fit.imp fun {a b} h => ?_
  have fits : Attempt.fits a b = true := h
  simp only [Attempt.fits, Bool.and_eq_true, Bool.not_eq_true', Bool.and_eq_false_iff, beq_eq_false_iff_ne] at fits
  simpa [← imp_iff_not_or] using fits.1.2

theorem Held.started (h : Held s) : Started s := .inr h

theorem Held.not_passed (h : Held s) (passed : Passed s) : False := by
  rcases passed with isOver | isOver <;> rcases h with is | is <;> rw [isOver] at is <;> cases is

theorem Done.not_held (done : Done s) (held : Held s) : False := by
  rcases done with isOver | isOver | isOver <;> rcases held with is | is <;> rw [isOver] at is <;> cases is

/-- A stage with an attempt counts it. -/
theorem Pipeline.begun (h : Pipeline db) (mem : a ∈ db.attempts)
    (stored : s ∈ db.stages) (ofStage : s.id = a.stageID) : 0 < s.attemptCount := by
  obtain ⟨u, isStage, same, first, last⟩ := h.numbered a mem
  obtain rfl := eq_of_key (stages_distinct db) isStage stored (same.trans ofStage.symm)
  omega

/-- A task has one stage at a time on a node. -/
theorem Pipeline.held_unique (h : Pipeline db) (stored : s ∈ db.stages) (isStored : u ∈ db.stages)
    (same : u.taskID = s.taskID) (held : Held s) (isHeld : Held u) : u = s := by
  rcases lt_trichotomy u.stageOrder s.stageOrder with before | equal | after
  · exact (isHeld.not_passed (h.ordered s stored held.started u isStored same before)).elim
  · exact eq_of_key orders_distinct isStored stored (by rw [same, equal])
  · exact (held.not_passed (h.ordered u isStored isHeld.started s stored same.symm after)).elim

/-- A stage has one open attempt at a time. -/
theorem Pipeline.open_unique (h : Pipeline db) {b : Attempt} (stored : a ∈ db.attempts) (isStored : b ∈ db.attempts)
    (same : b.stageID = a.stageID) (isOpen : a.status.isOpen = true) (isOpen' : b.status.isOpen = true) : b = a := by
  obtain ⟨s, isStage, ofStage, -⟩ := h.numbered a stored
  have one := h.runs a stored isOpen s isStage ofStage
  have other := h.runs b isStored isOpen' s isStage (ofStage.trans same.symm)
  exact eq_of_key numbers_distinct isStored stored (by rw [same, one.number, other.number])

theorem status_cases : s.status = .pending ∨ s.status = .cancelled ∨ Held s ∨ Done s := by
  rw [Held, Done]
  cases s.status <;> simp [inFlight]

/-- Work on the stages after a held one of an H3 task has not begun. -/
theorem Pipeline.waiting (h : Pipeline db) (stored : s ∈ db.stages) (isStored : u ∈ db.stages)
    (same : u.taskID = s.taskID) (held : Held s) (later : s.stageOrder < u.stageOrder)
    (h3 : ∀ t ∈ db.tasks, t.taskID = s.taskID → t.protocolVersion = some .h3) : u.status = .pending ∨ u.status = .cancelled := by
  have unstarted : ¬ Started u := fun started => held.not_passed (h.ordered u isStored started s stored same.symm later)
  rcases status_cases with is | is | isHeld | done
  · exact .inl is
  · exact .inr is
  · exact absurd isHeld.started unstarted
  · rcases h.settled u isStored done with begun | direct
    · exact absurd (.inl begun) unstarted
    · obtain ⟨t, isTask, ofTask⟩ := h.parent u isStored
      have official : t.protocolVersion = some .official := (direct t isTask ofTask).protocol
      exact absurd (official.symm.trans (h3 t isTask (ofTask.trans same))) nofun

/-! ## A step with one stage -/

/-- The task of the stage ends, or all goes on as before. -/
inductive Ended (db : Database) (s : Stage) (c c' : Core) : Prop
  | calm : Calm c c' → Ended db s c c'
  | isOver : c.taskID = s.taskID → c'.taskID = c.taskID → Staffed c → Held s →
      (c'.status = .succeeded → ∃ u ∈ db.stages, u.taskID = c.taskID ∧ Last db.stages u ∧ u.status = .succeeded ∧
        c'.resultArtifactID = u.outputArtifactID) → Ended db s c c'

/-- One stage `s` becomes `s'`; other stages may only get their input. -/
structure Turn (db db' : Database) (s s' : Stage) : Prop where
  stored : s ∈ db.stages
  same : s'.id = s.id ∧ s'.taskID = s.taskID ∧ s'.stageOrder = s.stageOrder
  stages : ∃ input : Stage → Option String,
    db'.stages = db.stages.map fun u => if u.id = s.id then s' else { u with inputArtifactID := input u }
  others : ∀ a, a.stageID ≠ s.id → (a ∈ db'.attempts ↔ a ∈ db.attempts)
  leased : s'.leaseToken.isSome = true → Held s'
  budget : 0 ≤ s'.attemptCount ∧ s'.attemptCount ≤ s'.maxAttempts
  numbered : ∀ a ∈ db'.attempts, a.stageID = s.id → 1 ≤ a.attemptNo ∧ a.attemptNo ≤ s'.attemptCount
  counted : ∀ k, 1 ≤ k → k ≤ s'.attemptCount → ∃ a ∈ db'.attempts, a.stageID = s.id ∧ a.attemptNo = k
  runs : ∀ a ∈ db'.attempts, a.status.isOpen = true → a.stageID = s.id → Runs a s'
  staffed : ∀ a ∈ db'.attempts, a.status.isOpen = true → a.stageID = s.id → ∀ t ∈ db'.tasks, t.taskID = s.taskID → Staffed t.core
  ordered : Started s' → ∀ e ∈ db.stages, e.taskID = s.taskID → e.stageOrder < s.stageOrder → Passed e
  passed : Passed s → s'.status = s.status ∧ s'.outputArtifactID = s.outputArtifactID
  settled : Done s' → 0 < s'.attemptCount ∨ (Done s ∧ s'.attemptCount = s.attemptCount)
  void : s'.status = .cancelled → s.status = .cancelled
  chained : ∀ p ∈ db'.stages, ∀ u ∈ db'.stages, Follows db'.stages p u → u.inputArtifactID = p.outputArtifactID
  back : ∀ t' ∈ db'.tasks, ∃ t ∈ db.tasks, Ended db' s t.core t'.core
  forth : ∀ t ∈ db.tasks, ∃ t' ∈ db'.tasks, t'.taskID = t.taskID

section
variable {db db' : Database} {s s' : Stage}

/-- A stage of the new state is `s'`, or an old one with another input. -/
theorem Turn.cases (turn : Turn db db' s s') {u' : Stage} (mem : u' ∈ db'.stages) :
    u' = s' ∨ ∃ u ∈ db.stages, u.id ≠ s.id ∧ ∃ input, u' = { u with inputArtifactID := input } := by
  obtain ⟨input, stages⟩ := turn.stages
  rw [stages] at mem
  obtain ⟨u, stored, rfl⟩ := List.mem_map.mp mem
  by_cases same : u.id = s.id
  · exact .inl (if_pos same)
  · exact .inr ⟨u, stored, same, _, if_neg same⟩

theorem Turn.new (turn : Turn db db' s s') : s' ∈ db'.stages := by
  obtain ⟨input, stages⟩ := turn.stages
  rw [stages]
  exact List.mem_map.mpr ⟨s, turn.stored, if_pos rfl⟩

theorem Turn.old (turn : Turn db db' s s') (stored : u ∈ db.stages) (other : u.id ≠ s.id) :
    ∃ input, { u with inputArtifactID := input } ∈ db'.stages := by
  obtain ⟨input, stages⟩ := turn.stages
  rw [stages]
  exact ⟨input u, List.mem_map.mpr ⟨u, stored, if_neg other⟩⟩

/-- The stages before the new one and those before an old one have been passed. -/
theorem Turn.ordered_after (turn : Turn db db' s s') (h : Pipeline db) : ∀ u ∈ db'.stages, Started u → ∀ e ∈ db'.stages,
    e.taskID = u.taskID → e.stageOrder < u.stageOrder → Passed e := by
  -- the stage before is an old one, and stays passed
  have before {u e : Stage} (mem : e ∈ db'.stages) (same : e.taskID = u.taskID) (less : e.stageOrder < u.stageOrder)
      (was : ∀ e ∈ db.stages, e.taskID = u.taskID → e.stageOrder < u.stageOrder → Passed e) : Passed e := by
    rcases turn.cases mem with rfl | ⟨e, stored, -, _, rfl⟩
    · have passed := was s turn.stored (turn.same.2.1 ▸ same) (turn.same.2.2 ▸ less)
      rw [Passed, (turn.passed passed).1]
      exact passed
    · exact was e stored same less
  intro u mem started e isStored same less
  rcases turn.cases mem with rfl | ⟨u, stored, -, _, rfl⟩
  · refine before isStored same less fun e stored same less => ?_
    exact turn.ordered started e stored (same.trans turn.same.2.1) (turn.same.2.2 ▸ less)
  · exact before isStored same less fun e isStored => h.ordered u stored started e isStored

/-- The attempt of another stage still runs for an active task. -/
theorem Turn.staffed_after (turn : Turn db db' s s') (h : Pipeline db) (stored : a ∈ db.attempts)
    (isOpen : a.status.isOpen = true) (isStage : u ∈ db.stages) (ofStage : u.id = a.stageID) (other : u.id ≠ s.id)
    (mem : t' ∈ db'.tasks) (ofTask : t'.taskID = u.taskID) : Staffed t'.core := by
  obtain ⟨t, isTask, ended⟩ := turn.back t' mem
  cases ended with
  | calm calm =>
    refine calm.staffed (h.staffed a stored isOpen u isStage ofStage t isTask ?_)
    exact calm.taskID.symm.trans ofTask
  | isOver named same _ held _ =>
    have sameTask : u.taskID = s.taskID := ofTask.symm.trans (same.trans named)
    have isHeld := (h.runs a stored isOpen u isStage ofStage).held
    exact absurd (congrArg Stage.id (h.held_unique turn.stored isStage sameTask held isHeld)) other

theorem Turn.void_after (turn : Turn db db' s s') (h : Pipeline db) (isStage : u ∈ db.stages)
    (cancelled : u.status = .cancelled) (mem : t' ∈ db'.tasks) (ofTask : t'.taskID = u.taskID) : t'.status = .cancelled := by
  obtain ⟨t, isTask, ended⟩ := turn.back t' mem
  cases ended with
  | calm calm => exact calm.cancelled (h.void u isStage cancelled t isTask (calm.taskID.symm.trans ofTask))
  | isOver named same staffed _ _ =>
    have was : t.core.status = .cancelled := h.void u isStage cancelled t isTask (same.symm.trans ofTask)
    have active := staffed.active
    rw [was] at active
    cases active

/-- The task of an ended stage without attempts is still one of official nodes. -/
theorem Turn.direct_after (turn : Turn db db' s s') {id : String} (direct : ∀ t ∈ db.tasks, t.taskID = id → Direct t.core) :
    ∀ t ∈ db'.tasks, t.taskID = id → Direct t.core := by
  intro t' mem ofTask
  obtain ⟨t, isTask, ended⟩ := turn.back t' mem
  cases ended with
  | calm calm => exact calm.direct (direct t isTask (calm.taskID.symm.trans ofTask))
  | isOver named same staffed _ _ =>
    have official := (direct t isTask (same.symm.trans ofTask)).protocol
    exact absurd (official.symm.trans staffed.protocol) nofun

theorem Turn.result_after (turn : Turn db db' s s') (h : Pipeline db) (mem : t' ∈ db'.tasks)
    (h3 : t'.protocolVersion = some .h3) (isOver : t'.status = .succeeded) : ∃ u ∈ db'.stages, u.taskID = t'.taskID ∧ Last db'.stages u ∧
      u.status = .succeeded ∧ t'.resultArtifactID = u.outputArtifactID := by
  obtain ⟨t, isTask, ended⟩ := turn.back t' mem
  cases ended with
  | calm calm =>
    obtain ⟨wasH3, wasOver, result⟩ := calm.result h3 isOver
    obtain ⟨u, stored, ofTask, last, succeeded, output⟩ := h.result t isTask wasH3 wasOver
    have stillLast {u' : Stage} (sameTask : u'.taskID = u.taskID) (sameOrder : u'.stageOrder = u.stageOrder) : Last db'.stages u' := by
      intro e isStage ofIt
      rw [sameOrder]
      rcases turn.cases isStage with rfl | ⟨e, isOld, -, _, rfl⟩
      · rw [turn.same.2.2]
        exact last s turn.stored (turn.same.2.1.symm.trans (ofIt.trans sameTask))
      · exact last e isOld (ofIt.trans sameTask)
    have named : u.taskID = t'.taskID := ofTask.trans calm.taskID.symm
    by_cases same : u.id = s.id
    · obtain rfl := eq_of_key (stages_distinct db) stored turn.stored same
      obtain ⟨status, artifact⟩ := turn.passed (.inl succeeded)
      exact ⟨s', turn.new, turn.same.2.1.trans named, stillLast turn.same.2.1 turn.same.2.2, status.trans succeeded,
        result.trans (output.trans artifact.symm)⟩
    · obtain ⟨input, isStage⟩ := turn.old stored same
      exact ⟨_, isStage, named, stillLast rfl rfl, succeeded, result.trans output⟩
  | isOver _ same _ _ ends =>
    obtain ⟨u, isStage, ofTask, rest⟩ := ends isOver
    exact ⟨u, isStage, ofTask.trans same.symm, rest⟩

theorem Pipeline.turn (h : Pipeline db) (turn : Turn db db' s s') : Pipeline db' where
  named u mem := by
    rcases turn.cases mem with rfl | ⟨u, stored, -, _, rfl⟩
    · rw [turn.same.1]
      exact h.named s turn.stored
    · exact h.named u stored
  parent u mem := by
    have lives {v : Stage} (stored : v ∈ db.stages) : ∃ t ∈ db'.tasks, t.taskID = v.taskID := by
      obtain ⟨t, isTask, ofTask⟩ := h.parent v stored
      obtain ⟨t', isTask', same⟩ := turn.forth t isTask
      exact ⟨t', isTask', same.trans ofTask⟩
    rcases turn.cases mem with rfl | ⟨u, stored, -, _, rfl⟩
    · rw [turn.same.2.1]
      exact lives turn.stored
    · obtain ⟨t, isTask, ofTask⟩ := lives stored
      exact ⟨t, isTask, ofTask⟩
  leased u mem := by
    rcases turn.cases mem with rfl | ⟨u, stored, -, _, rfl⟩
    · exact turn.leased
    · exact h.leased u stored
  budget u mem := by
    rcases turn.cases mem with rfl | ⟨u, stored, -, _, rfl⟩
    · exact turn.budget
    · exact h.budget u stored
  numbered a mem := by
    by_cases same : a.stageID = s.id
    · exact ⟨s', turn.new, turn.same.1.trans same.symm, turn.numbered a mem same⟩
    · obtain ⟨u, stored, ofStage, number⟩ := h.numbered a ((turn.others a same).mp mem)
      obtain ⟨input, isStage⟩ := turn.old stored (fun id => same (ofStage ▸ id))
      exact ⟨_, isStage, ofStage, number⟩
  counted u mem k positive le := by
    rcases turn.cases mem with rfl | ⟨u, stored, other, _, rfl⟩
    · rw [turn.same.1]
      exact turn.counted k positive le
    · obtain ⟨a, isAttempt, ofStage, number⟩ := h.counted u stored k positive le
      exact ⟨a, (turn.others a (ofStage ▸ other)).mpr isAttempt, ofStage, number⟩
  runs a mem isOpen u isStage ofStage := by
    rcases turn.cases isStage with rfl | ⟨u, stored, other, _, rfl⟩
    · exact turn.runs a mem isOpen (ofStage.symm.trans turn.same.1)
    · have old := (turn.others a (ofStage ▸ other)).mp mem
      exact ⟨(h.runs a old isOpen u stored ofStage).held, (h.runs a old isOpen u stored ofStage).node,
        (h.runs a old isOpen u stored ofStage).number⟩
  staffed a mem isOpen u isStage ofStage t isTask ofTask := by
    rcases turn.cases isStage with rfl | ⟨u, stored, other, _, rfl⟩
    · exact turn.staffed a mem isOpen (ofStage.symm.trans turn.same.1) t isTask (ofTask.trans turn.same.2.1)
    · exact turn.staffed_after h ((turn.others a (ofStage ▸ other)).mp mem) isOpen stored ofStage other isTask ofTask
  ordered := turn.ordered_after h
  settled u mem done := by
    rcases turn.cases mem with rfl | ⟨u, stored, -, _, rfl⟩
    · rw [turn.same.2.1]
      rcases turn.settled done with begun | ⟨was, same⟩
      · exact .inl begun
      · rw [same]
        exact (h.settled s turn.stored was).imp_right turn.direct_after
    · exact (h.settled u stored done).imp_right turn.direct_after
  void u mem cancelled t isTask ofTask := by
    rcases turn.cases mem with rfl | ⟨u, stored, -, _, rfl⟩
    · exact turn.void_after h turn.stored (turn.void cancelled) isTask (ofTask.trans turn.same.2.1)
    · exact turn.void_after h stored cancelled isTask ofTask
  chained := turn.chained
  result t mem h3 isOver := turn.result_after h mem h3 isOver

end

end MinimaxProxy.Store
