import MinimaxProxy.Store.PurgeEffects
import MinimaxProxy.Store.StageClaims

/-!
# What the operations of a stage worker do to its stage

Each operation of the worker of an H3 node is a `Turn` of the stage it works on.
-/

namespace MinimaxProxy.Store
open Sql Sql.Prog

/-! ## Turns that keep the number of attempts -/

/-- Attempts of the stage may change, but not what they are attempts of, and none is opened. -/
structure Relabels (s : Stage) (f : Attempt → Attempt) (db db' : Database) : Prop where
  attempts : db'.attempts = db.attempts.map f
  same : ∀ a ∈ db.attempts, (f a).id = a.id ∧ (f a).stageID = a.stageID ∧ (f a).attemptNo = a.attemptNo ∧ (f a).nodeID = a.nodeID
  other : ∀ a ∈ db.attempts, a.stageID ≠ s.id → f a = a
  wasOpen : ∀ a ∈ db.attempts, (f a).status.isOpen = true → a.status.isOpen = true

/-- One stage is written and the others stay as they are. -/
structure SetsStage (db db' : Database) (s s' : Stage) : Prop where
  stored : s ∈ db.stages
  same : s'.id = s.id ∧ s'.taskID = s.taskID ∧ s'.stageOrder = s.stageOrder
  stages : db'.stages = db.stages.map fun u => if u.id = s.id then s' else u

section
variable {db db' : Database} {s s' : Stage} {f : Attempt → Attempt}

theorem Relabels.refl (same : db'.attempts = db.attempts) : Relabels s id db db' :=
  ⟨by rw [same, List.map_id], fun _ _ => ⟨rfl, rfl, rfl, rfl⟩, fun _ _ _ => rfl, fun _ _ => id⟩

theorem Relabels.mem (relabels : Relabels s f db db') {a' : Attempt} (mem : a' ∈ db'.attempts) : ∃ a ∈ db.attempts, a' = f a := by
  rw [relabels.attempts] at mem
  obtain ⟨a, stored, rfl⟩ := List.mem_map.mp mem
  exact ⟨a, stored, rfl⟩

theorem Relabels.others (relabels : Relabels s f db db') (a : Attempt) (other : a.stageID ≠ s.id) : a ∈ db'.attempts ↔ a ∈ db.attempts := by
  constructor
  · intro mem
    obtain ⟨b, stored, rfl⟩ := relabels.mem mem
    rw [relabels.other b stored ((relabels.same b stored).2.1 ▸ other)]
    exact stored
  · intro mem
    rw [relabels.attempts]
    exact List.mem_map.mpr ⟨a, mem, relabels.other a mem other⟩

theorem SetsStage.mem (sets : SetsStage db db' s s') {u : Stage} (mem : u ∈ db'.stages) : u = s' ∨ (u ∈ db.stages ∧ u.id ≠ s.id) := by
  rw [sets.stages] at mem
  obtain ⟨v, stored, rfl⟩ := List.mem_map.mp mem
  by_cases same : v.id = s.id
  · exact .inl (if_pos same)
  · exact .inr (by rw [if_neg same]; exact ⟨stored, same⟩)

theorem SetsStage.found (sets : SetsStage db db' s s') {id : String} (named : s.id = id) {e : Err} {r : Stage}
    (read : (findStage db' id).elim (.error e) .ok = Except.ok r) : r = s' := by
  have look := elim_ok.mp read
  have isNamed : r.id = id := by simpa using List.find?_some look
  rcases sets.mem (List.mem_of_find?_eq_some look) with same | ⟨-, other⟩
  · exact same
  · exact absurd (isNamed.trans named.symm) other

/-- The row before it: the stage itself, or the same. -/
theorem SetsStage.was (sets : SetsStage db db' s s') {u : Stage} (mem : u ∈ db'.stages) : ∃ v ∈ db.stages, v.id = u.id ∧
    v.taskID = u.taskID ∧ v.stageOrder = u.stageOrder ∧ (u = v ∨ (v = s ∧ u = s')) := by
  rcases sets.mem mem with rfl | ⟨old, other⟩
  · exact ⟨s, sets.stored, sets.same.1.symm, sets.same.2.1.symm, sets.same.2.2.symm, .inr ⟨rfl, rfl⟩⟩
  · exact ⟨u, old, rfl, rfl, rfl, .inl rfl⟩

theorem SetsStage.chained (sets : SetsStage db db' s s') (h : Pipeline db) (input : s'.inputArtifactID = s.inputArtifactID)
    (output : s'.outputArtifactID = s.outputArtifactID) : ∀ p ∈ db'.stages, ∀ u ∈ db'.stages, Follows db'.stages p u →
      u.inputArtifactID = p.outputArtifactID := by
  intro p isP u isU follows
  obtain ⟨p₀, oldP, -, taskP, orderP, sameP⟩ := sets.was isP
  obtain ⟨u₀, oldU, -, taskU, orderU, sameU⟩ := sets.was isU
  have outputs : p.outputArtifactID = p₀.outputArtifactID := by
    rcases sameP with rfl | ⟨rfl, rfl⟩
    · rfl
    · exact output
  have inputs : u.inputArtifactID = u₀.inputArtifactID := by
    rcases sameU with rfl | ⟨rfl, rfl⟩
    · rfl
    · exact input
  rw [inputs, outputs]
  refine h.chained p₀ oldP u₀ oldU (follows.before (fun e stored => ?_) ⟨taskP.symm, orderP.symm⟩ ⟨taskU.symm, orderU.symm⟩)
  rw [sets.stages]
  refine ⟨_, List.mem_map_of_mem stored, ?_⟩
  by_cases same : e.id = s.id
  · rw [if_pos same, eq_of_key (stages_distinct db) stored sets.stored same]
    exact sets.same.2
  · rw [if_neg same]
    exact ⟨rfl, rfl⟩

/-- What a turn has to show when the attempts are only relabelled. -/
structure Keeps (db db' : Database) (s s' : Stage) (f : Attempt → Attempt) : Prop where
  same : s'.id = s.id ∧ s'.taskID = s.taskID ∧ s'.stageOrder = s.stageOrder
  relabels : Relabels s f db db'
  count : s'.attemptCount = s.attemptCount ∧ s'.maxAttempts = s.maxAttempts
  leased : s'.leaseToken.isSome = true → Held s'
  runs : ∀ a ∈ db.attempts, a.stageID = s.id → (f a).status.isOpen = true → Held s' ∧ s'.currentNodeID = some a.nodeID
  staffed : ∀ a ∈ db.attempts, a.stageID = s.id → (f a).status.isOpen = true → ∀ t ∈ db'.tasks, t.taskID = s.taskID → Staffed t.core
  ordered : Started s' → ∀ e ∈ db.stages, e.taskID = s.taskID → e.stageOrder < s.stageOrder → Passed e
  passed : Passed s → s'.status = s.status ∧ s'.outputArtifactID = s.outputArtifactID
  settled : Done s' → 0 < s.attemptCount ∨ Done s
  void : s'.status = .cancelled → s.status = .cancelled
  back : ∀ t' ∈ db'.tasks, ∃ t ∈ db.tasks, Ended db' s t.core t'.core
  forth : ∀ t ∈ db.tasks, ∃ t' ∈ db'.tasks, t'.taskID = t.taskID

theorem Keeps.turn (keeps : Keeps db db' s s' f) (h : Pipeline db) (stored : s ∈ db.stages)
    (stages : ∃ input : Stage → Option String, db'.stages = db.stages.map fun u =>
      if u.id = s.id then s' else { u with inputArtifactID := input u })
    (chained : ∀ p ∈ db'.stages, ∀ u ∈ db'.stages, Follows db'.stages p u → u.inputArtifactID = p.outputArtifactID) :
    Turn db db' s s' where
  stored := stored
  same := keeps.same
  stages := stages
  others := keeps.relabels.others
  leased := keeps.leased
  budget := by
    rw [keeps.count.1, keeps.count.2]
    exact h.budget s stored
  numbered a' mem ofStage := by
    obtain ⟨a, isOld, rfl⟩ := keeps.relabels.mem mem
    obtain ⟨-, sameStage, sameNumber, -⟩ := keeps.relabels.same a isOld
    obtain ⟨u, isStage, ofIt, number⟩ := h.numbered a isOld
    obtain rfl := eq_of_key (stages_distinct db) isStage stored (ofIt.trans (sameStage.symm.trans ofStage))
    rw [sameNumber, keeps.count.1]
    exact number
  counted k positive le := by
    rw [keeps.count.1] at le
    obtain ⟨a, isAttempt, ofStage, number⟩ := h.counted s stored k positive le
    obtain ⟨-, sameStage, sameNumber, -⟩ := keeps.relabels.same a isAttempt
    refine ⟨f a, ?_, sameStage.trans ofStage, sameNumber.trans number⟩
    rw [keeps.relabels.attempts]
    exact List.mem_map_of_mem isAttempt
  runs a' mem isOpen ofStage := by
    obtain ⟨a, isOld, rfl⟩ := keeps.relabels.mem mem
    obtain ⟨-, sameStage, sameNumber, sameNode⟩ := keeps.relabels.same a isOld
    have ofIt : a.stageID = s.id := sameStage.symm.trans ofStage
    obtain ⟨held, node⟩ := keeps.runs a isOld ofIt isOpen
    refine ⟨held, sameNode ▸ node, ?_⟩
    rw [sameNumber, keeps.count.1]
    exact (h.runs a isOld (keeps.relabels.wasOpen a isOld isOpen) s stored ofIt.symm).number
  staffed a' mem isOpen ofStage := by
    obtain ⟨a, isOld, rfl⟩ := keeps.relabels.mem mem
    exact keeps.staffed a isOld ((keeps.relabels.same a isOld).2.1.symm.trans ofStage) isOpen
  ordered := keeps.ordered
  passed := keeps.passed
  settled done := by
    rw [keeps.count.1]
    exact (keeps.settled done).imp_right fun was => ⟨was, rfl⟩
  void := keeps.void
  chained := chained
  back := keeps.back
  forth := keeps.forth

theorem Keeps.turn_of_sets (keeps : Keeps db db' s s' f) (h : Pipeline db) (sets : SetsStage db db' s s')
    (input : s'.inputArtifactID = s.inputArtifactID) (output : s'.outputArtifactID = s.outputArtifactID) : Turn db db' s s' :=
  keeps.turn h sets.stored ⟨(·.inputArtifactID), sets.stages⟩ (sets.chained h input output)

theorem ended_of_same (same : db'.tasks = db.tasks) : ∀ t' ∈ db'.tasks, ∃ t ∈ db.tasks, Ended db' s t.core t'.core :=
  fun t mem => ⟨t, same ▸ mem, .calm (.refl _)⟩

theorem kept_of_same (same : db'.tasks = db.tasks) : ∀ t ∈ db.tasks, ∃ t' ∈ db'.tasks, t'.taskID = t.taskID :=
  fun t mem => ⟨t, same ▸ mem, rfl⟩

end

/-! ## Leases -/

section
variable {nodeID leaseToken : String} {leaseDuration now : Int} {s : Stage} {db db' : Database}

/-- What the WHERE clause of a claim says. -/
structure Candidacy (nodeID : String) (db : Database) (s : Stage) : Prop where
  status : s.status = .pending ∨ Held s
  node : ∀ a ∈ db.attempts, a.stageID = s.id → a.status.isOpen = true → a.nodeID = nodeID
  ordered : ∀ e ∈ db.stages, e.taskID = s.taskID → e.stageOrder < s.stageOrder → Passed e

theorem Leasable.candidacy (leasable : Leasable nodeID now db s) : Candidacy nodeID db s := by
  obtain ⟨t, -, candidate⟩ := leasable.candidate
  simp only [stageCandidate, Bool.and_eq_true, Bool.or_eq_true, beq_iff_eq, Option.isNone_iff_eq_none, Bool.not_eq_true',
    List.any_eq_false] at candidate
  obtain ⟨⟨⟨⟨⟨⟨⟨-, status⟩, -⟩, -⟩, -⟩, -⟩, node⟩, ordered⟩ := candidate
  refine ⟨?_, fun a mem ofStage isOpen => ?_, fun e mem ofIt less => ?_⟩
  · rcases status with (⟨pending, -⟩ | ⟨leased, -⟩) | flight
    · exact .inl pending
    · exact .inr (.inl leased)
    · exact .inr (.inr flight)
  · have := node a mem
    simpa [ofStage, isOpen] using this
  · have := ordered e mem
    simp only [ofIt, less, and_self, true_and, decide_true] at this
    by_contra unpassed
    simp only [Passed, not_or] at unpassed
    simp [unpassed.1, unpassed.2] at this

theorem Leases.turn (leases : Leases nodeID leaseToken leaseDuration now s db db') (h : Pipeline db) :
    Turn db db' s (leasedStage nodeID leaseToken leaseDuration now s) := by
  have candidacy := leases.leasable.candidacy
  have sameTasks : db'.tasks = db.tasks := leases.others .videoTasks (by decide)
  have stored := leases.leasable.stored
  have keeps : Keeps db db' s (leasedStage nodeID leaseToken leaseDuration now s) id :=
    { same := ⟨rfl, rfl, rfl⟩
      relabels := .refl (leases.others .stageAttempts (by decide))
      count := ⟨rfl, rfl⟩
      leased := fun _ => .inl rfl
      runs := fun a mem ofStage isOpen => ⟨.inl rfl, congrArg some (candidacy.node a mem ofStage isOpen).symm⟩
      staffed := fun a mem ofStage isOpen t isTask => h.staffed a mem isOpen s stored ofStage.symm t (sameTasks ▸ isTask)
      ordered := fun _ => candidacy.ordered
      passed := fun passed => by
        rcases candidacy.status with pending | held
        · rcases passed with is | is <;> rw [pending] at is <;> cases is
        · exact (held.not_passed passed).elim
      settled := fun done => (done.not_held (.inl rfl)).elim
      void := fun isOver => by cases isOver
      back := ended_of_same sameTasks
      forth := kept_of_same sameTasks }
  exact keeps.turn_of_sets h ⟨stored, ⟨rfl, rfl, rfl⟩, leases.stages⟩ rfl rfl

end

/-! ## Renewal -/

section
variable {db db' : Database}

/-- An UPDATE that can hit one stage only. -/
theorem stage_update_cases {sel : Database → Stage → Bool} {set : Database → Stage → Stage} {n : Nat}
    (applied : (Dml.update Tbl.taskStages sel set).apply db = .ok (n, db')) {id : String}
    (only : ∀ s ∈ db.stages, sel db s = true → s.id = id) :
    (n = 0 ∧ db'.stages = db.stages) ∨ ∃ s ∈ db.stages, s.id = id ∧ sel db s = true ∧
      db'.stages = db.stages.map fun u => if u.id = id then set db s else u :=
  apply_update_cases applied (stages_distinct db) only

/-- The lease of a stage is renewed, or nothing happens. -/
inductive Renewal (stageID leaseToken : String) (db db' : Database) : Prop
  | idle : (∀ t, db'.rows t = db.rows t) → Renewal stageID leaseToken db db'
  | renewed (s s' : Stage) : s ∈ db.stages → s.id = stageID → s.leaseToken = some leaseToken →
      (∃ expires updated version, s' = { s with leaseExpiresAt := expires, updatedAt := updated, rowVersion := version }) →
      db'.stages = db.stages.map (fun u => if u.id = s.id then s' else u) → (∀ t, t ≠ .taskStages → db'.rows t = db.rows t) →
      Renewal stageID leaseToken db db'

theorem renewStageLease_cases {stageID leaseToken : String} {leaseDuration now : Int} {faults : Faults Err} {n : Nat} :
    Renewal stageID leaseToken db (renewStageLease stageID leaseToken leaseDuration now faults n db).db := by
  rcases direct_effect (fun c => writes_oneRow c) faults with same | ⟨m, applied⟩
  · rw [renewStageLease, same]
    exact .idle fun _ => rfl
  · have others (t : Tbl) (other : t ≠ .taskStages) := apply_update_rows_of_ne applied other
    rcases stage_update_cases applied (fun s _ hit => by
      simp only [Bool.and_eq_true, beq_iff_eq] at hit
      exact hit.1.1.1) with ⟨-, same⟩ | ⟨s, stored, named, hit, rows⟩
    · refine .idle fun t => ?_
      by_cases isStages : t = .taskStages
      · rw [isStages]
        exact same
      · exact others t isStages
    · simp only [Bool.and_eq_true, beq_iff_eq] at hit
      subst named
      exact .renewed s _ stored rfl hit.1.1.2 ⟨_, _, _, rfl⟩ rows others

/-- A stage whose columns that matter are as before. -/
structure SameStage (s s' : Stage) : Prop where
  same : s'.id = s.id ∧ s'.taskID = s.taskID ∧ s'.stageOrder = s.stageOrder
  count : s'.attemptCount = s.attemptCount ∧ s'.maxAttempts = s.maxAttempts
  artifacts : s'.inputArtifactID = s.inputArtifactID ∧ s'.outputArtifactID = s.outputArtifactID
  node : s'.currentNodeID = s.currentNodeID
  token : s'.leaseToken = s.leaseToken
  status : s'.status = s.status

theorem SameStage.held {s s' : Stage} (h : SameStage s s') (held : Held s) : Held s' := by
  rw [Held, h.status]
  exact held

theorem SameStage.started {s s' : Stage} (h : SameStage s s') (started : Started s') : Started s := by
  rw [Started, Held, h.count.1, h.status] at started
  exact started

/-- The stage is as before, attempts of it may have a new execution, and the tasks go on. -/
theorem SameStage.turn {s s' : Stage} {f : Attempt → Attempt} (h : SameStage s s') (pipeline : Pipeline db) (sets : SetsStage db db' s s')
    (relabels : Relabels s f db db') (tasks : db'.tasks = db.tasks) : Turn db db' s s' := by
  have keeps : Keeps db db' s s' f :=
    { same := h.same
      relabels := relabels
      count := h.count
      leased := fun token => h.held (pipeline.leased s sets.stored (h.token ▸ token))
      runs := fun a mem ofStage isOpen => by
        have runs := pipeline.runs a mem (relabels.wasOpen a mem isOpen) s sets.stored ofStage.symm
        exact ⟨h.held runs.held, h.node.trans runs.node⟩
      staffed := fun a mem ofStage isOpen t isTask =>
        pipeline.staffed a mem (relabels.wasOpen a mem isOpen) s sets.stored ofStage.symm t (tasks ▸ isTask)
      ordered := fun started => pipeline.ordered s sets.stored (h.started started)
      passed := fun _ => ⟨h.status, h.artifacts.2⟩
      settled := fun done => .inr (by rw [Done, h.status] at done; exact done)
      void := fun isOver => h.status.symm.trans isOver
      back := ended_of_same tasks
      forth := kept_of_same tasks }
  exact keeps.turn_of_sets pipeline sets h.artifacts.1 h.artifacts.2

end

/-! ## New attempts -/

def dispatchEffect : Effect := { kinds := [.dispatch, .rank], tables := [.stageAttempts, .taskStages] }

/-- A new attempt `a` of the leased stage `s`. -/
structure Attempts (a : Attempt) (leaseToken : String) (s : Stage) (db db' : Database) : Prop where
  stored : s ∈ db.stages
  named : a.stageID = s.id
  status : s.status = .leased
  token : s.leaseToken = some leaseToken
  node : a.nodeID = s.currentNodeID.getD ""
  number : a.attemptNo = s.attemptCount + 1
  budget : a.attemptNo ≤ s.maxAttempts
  attempts : ∃ started, db'.attempts = db.attempts ++ [{ a with startedAt := started }]
  stages : ∃ updated, db'.stages = db.stages.map fun u => if u.id = s.id then
    { s with attemptCount := s.attemptCount + 1, updatedAt := updated, rowVersion := s.rowVersion + 1 } else u
  tasks : dispatchEffect.law.Evolves db db'
  staffed : ∀ t' ∈ db'.tasks, t'.taskID = s.taskID → Staffed t'.core

theorem task_update_one {sel : Database → Task → Bool} {set : Database → Task → Task} {db db' : Database}
    (applied : (Dml.update Tbl.videoTasks sel set).apply db = .ok (1, db')) {id : String}
    (only : ∀ t ∈ db.tasks, sel db t = true → t.taskID = id) : ∃ t ∈ db.tasks, t.taskID = id ∧ sel db t = true ∧
      db'.tasks = db.tasks.map fun u => if u.taskID = id then set db t else u :=
  apply_update_one applied (tasks_distinct db) only

/-- Ranking the queue leaves an active task alone. -/
theorem staffed_of_ranked {o : Options} {now : Int} {taskID : String} {db db' : Database} {u : Unit}
    (ranked : (rebalance o now).Returns db u db') (staffed : ∀ t ∈ db.tasks, t.taskID = taskID → Staffed t.core) :
    ∀ t ∈ db'.tasks, t.taskID = taskID → Staffed t.core := by
  have law : ({ kinds := [.rank] } : Effect).law.Evolves db db' := evolves_rebalance (by decide) ranked
  refine Law.Evolves.forall (law .videoTasks) (fun t t' was moved same => ?_) (fun _ new => new.elim) staffed
  obtain ⟨k, mem, move⟩ := moved trivial
  obtain rfl := List.mem_singleton.mp mem
  have active := (was (move.keeps.1.symm.trans same)).active
  exact (not_queued_of_active active move.queued_of_rank).elim

theorem createStageAttempt_spec {o : Options} {a : Attempt} {leaseToken : String} {now : Int} {db db' : Database} {u : Unit}
    (out : (createStageAttemptBody o a leaseToken now).Returns db u db') (stageNamed : ∀ s ∈ db.stages, s.id ≠ "") :
    ∃ s, Attempts a leaseToken s db db' := by
  obtain ⟨⟨s, t⟩, _, read, rest⟩ := returns_bind.mp out
  obtain ⟨found, rfl⟩ := returns_query.mp read
  simp only [returns_bind, returns_query, returns_require, returns_exec, returns_oneRow] at rest
  obtain ⟨_, db, ⟨guard, rfl⟩, task, db, ⟨isTask, rfl⟩, _, db, ⟨h3, rfl⟩, eligible, mid, checked, rest⟩ := rest
  obtain rfl := checked.readOnly (writes_taskEligibleForNode _ _ _)
  obtain ⟨_, db, ⟨-, rfl⟩, _, db, ⟨number, rfl⟩, _, d1, inserted, _, _, counted,
    _, d2, ⟨rfl, rfl⟩, _, _, dispatched, _, d3, ⟨rfl, rfl⟩, ranked⟩ := rest
  -- what was read: the leased stage and its task
  obtain ⟨isStage, isParent⟩ : findStage db a.stageID = some s ∧
      (Database.tasks db).find? (fun t => t.taskID == s.taskID && t.deletedAt.isNone) = some t := by
    cases stage : findStage db a.stageID with
    | none => rw [stage] at found; cases found
    | some s' =>
      rw [stage] at found
      dsimp only at found
      cases parent : (Database.tasks db).find? (fun t => t.taskID == s'.taskID && t.deletedAt.isNone) with
      | none => rw [parent] at found; cases found
      | some t' =>
        rw [parent] at found
        cases found
        exact ⟨rfl, parent⟩
  have stored : s ∈ Database.stages db := List.mem_of_find?_eq_some isStage
  have sameID : s.id = a.stageID := by simpa using List.find?_some isStage
  have parentStored : t ∈ Database.tasks db := List.mem_of_find?_eq_some isParent
  obtain ⟨ofTask, undeleted⟩ : t.taskID = s.taskID ∧ t.deletedAt = none := by simpa using List.find?_some isParent
  simp only [Bool.and_eq_true, beq_iff_eq, bne_iff_ne, decide_eq_true_eq] at guard number h3
  obtain ⟨⟨⟨⟨⟨leased, keyed⟩, token⟩, node⟩, live⟩, -⟩ := guard
  have protocol : t.protocolVersion = some .h3 := by
    obtain ⟨taskStored, named⟩ : task ∈ Database.tasks db ∧ _ := found_scan isTask
    rw [← task_unique taskStored parentStored (by simpa using named)]
    exact h3
  have hasToken : s.leaseToken = some leaseToken := by
    cases is : s.leaseToken with
    | none => rw [is] at token; exact absurd token keyed
    | some τ => rw [is] at token; exact congrArg some token.symm
  -- the three statements
  obtain ⟨tab, isInserted, attempts, -⟩ := apply_insert inserted
  have early : d2.rows .videoTasks = db.rows .videoTasks :=
    (apply_update_rows_of_ne counted (by decide)).trans (apply_insert_rows_of_ne inserted (by decide))
  obtain ⟨s₁, stored₁, named₁, -, stages⟩ := stage_update_one counted fun u _ hit => by
    simp only [Bool.and_eq_true, beq_iff_eq] at hit
    exact hit.1
  have oldStages : Database.stages d1 = Database.stages db := apply_insert_rows_of_ne inserted (by decide)
  rw [oldStages] at stored₁ stages
  obtain rfl : s₁ = s := eq_of_key (stages_distinct _) stored₁ stored (named₁.trans sameID.symm)
  obtain ⟨t₁, stored₂, named₂, hit, tasks⟩ := task_update_one dispatched fun u _ hit => by
    simp only [Bool.and_eq_true, beq_iff_eq] at hit
    exact hit.1.1.1
  rw [Database.tasks, early] at stored₂
  obtain rfl : t₁ = t := task_unique stored₂ parentStored named₂
  simp only [Bool.and_eq_true, beq_iff_eq] at hit
  have rankOnly : ({ kinds := [.rank] } : Effect).law.Evolves d3 db' := evolves_rebalance (by decide) ranked
  have late (tbl : Tbl) (other : tbl ≠ .videoTasks) : DB.rows db' tbl = d2.rows tbl :=
    (Effect.same_rows rankOnly other (by simp)).trans (apply_update_rows_of_ne dispatched other)
  have evolves : dispatchEffect.law.Evolves db db' := by
    refine Laws.chains.trans (effect_table (by simp [dispatchEffect]) _ _ _ inserted) ?_
    refine Laws.chains.trans (effect_table (by simp [dispatchEffect]) _ _ _ counted) ?_
    refine Laws.chains.trans (evolves_tasks dispatched fun u isStored hitU _ => ⟨.dispatch, by decide, ?_⟩)
      (evolves_rebalance (by decide) ranked)
    rw [Database.tasks, early] at isStored
    simp only [Bool.and_eq_true, beq_iff_eq] at hitU
    obtain rfl := task_unique isStored parentStored hitU.1.1.1
    exact .dispatch _ _ _ undeleted hit.1.1.2 protocol live (sameID ▸ stageNamed _ stored)
  let started := if a.startedAt = 0 then now else a.startedAt
  refine ⟨s₁, stored, sameID.symm, leased, hasToken, node, number.1, number.2, ⟨started, ?_⟩, ⟨started, ?_⟩, evolves,
    staffed_of_ranked ranked fun t' mem named => ?_⟩
  · rw [Database.attempts, late .stageAttempts (by decide), apply_update_rows_of_ne counted (by decide), isInserted, DB.rows_put_self]
    exact attempts
  · rw [← sameID] at stages
    rw [Database.stages, late .taskStages (by decide)]
    exact stages
  · rw [tasks] at mem
    obtain ⟨u, isStored, rfl⟩ := List.mem_map.mp mem
    by_cases own : u.taskID = t₁.taskID
    · rw [if_pos own]
      exact ⟨undeleted, protocol, rfl⟩
    · rw [if_neg own] at named
      exact absurd (named.trans ofTask.symm) own

/-- The tasks of an effect that leaves stages alone. -/
theorem calm_back {e : Effect} {db db' : Database} (stable : e.Stable) (h : e.law.Evolves db db') (known : ∀ t ∈ db.tasks, e.Known t)
    (calm : ∀ k ∈ e.kinds, k ∉ roughKinds) (noneNew : ∀ c, ¬ e.fresh c) : ∀ t' ∈ db'.tasks, ∃ t ∈ db.tasks, Calm t.core t'.core := by
  intro t' mem
  rcases Effect.back stable h known Calm.refl (fun _ _ _ => Calm.trans)
    (fun _ k _ sound mem move => move.calm sound (calm k mem)) t' mem with
    old | ⟨c, new, -⟩
  · exact old
  · exact (noneNew c new).elim

theorem calm_forth {e : Effect} {db db' : Database} (stable : e.Stable) (h : e.law.Evolves db db') (known : ∀ t ∈ db.tasks, e.Known t)
    (noneGone : ∀ c, ¬ e.gone c) : ∀ t ∈ db.tasks, ∃ t' ∈ db'.tasks, t'.taskID = t.taskID := by
  intro t mem
  rcases Effect.forth (R := fun c c' => c'.taskID = c.taskID) stable h known (fun _ => rfl) (fun _ _ _ first last => last.trans first)
    (fun _ _ _ _ _ move => move.keeps.1) t mem with kept | ⟨c, gone, -⟩
  · exact kept
  · exact (noneGone c gone).elim

section
variable {a : Attempt} {leaseToken : String} {s : Stage} {db db' : Database}

theorem dispatchEffect_stable : dispatchEffect.Stable := Effect.stable_of_trivial (fun _ => trivial) fun _ new => new.elim

theorem Attempts.turn (attempts : Attempts a leaseToken s db db') (h : Pipeline db) (sound : ∀ t ∈ db.tasks, Sound t.core)
    (nodeNamed : a.nodeID ≠ "") (free : ∀ b ∈ db.attempts, b.stageID = s.id → b.status.isOpen = false) :
    ∃ s', Turn db db' s s' ∧ s'.leaseToken = s.leaseToken ∧ s'.currentNodeID = s.currentNodeID := by
  obtain ⟨updated, stages⟩ := attempts.stages
  obtain ⟨started, rows⟩ := attempts.attempts
  have held : Held s := .inl attempts.status
  have node : s.currentNodeID = some a.nodeID := by
    have is := attempts.node
    cases current : s.currentNodeID with
    | none => rw [current] at is; exact absurd is nodeNamed
    | some n => rw [current] at is; exact congrArg some is.symm
  have known : ∀ t ∈ db.tasks, dispatchEffect.Known t := fun t mem => ⟨sound t mem, trivial⟩
  have bounds := h.budget s attempts.stored
  have number := attempts.number
  have budget := attempts.budget
  -- an attempt of the stage is an old one, which has ended, or the new one
  have mem_iff (b : Attempt) : b ∈ db'.attempts ↔ b ∈ db.attempts ∨ b = { a with startedAt := started } := by
    rw [rows, List.mem_append, List.mem_singleton]
  have sets : SetsStage db db' s { s with attemptCount := s.attemptCount + 1, updatedAt := updated, rowVersion := s.rowVersion + 1 } :=
    ⟨attempts.stored, ⟨rfl, rfl, rfl⟩, stages⟩
  refine ⟨{ s with attemptCount := s.attemptCount + 1, updatedAt := updated, rowVersion := s.rowVersion + 1 }, ?_, rfl, rfl⟩
  refine
    { stored := attempts.stored
      same := sets.same
      stages := ⟨(·.inputArtifactID), stages⟩
      others := fun b other => ?_
      leased := fun _ => held
      budget := ?_
      numbered := fun b mem ofStage => ?_
      counted := fun k positive le => ?_
      runs := fun b mem isOpen ofStage => ?_
      staffed := fun _ _ _ _ => attempts.staffed
      ordered := fun _ => h.ordered s attempts.stored held.started
      passed := fun passed => (held.not_passed passed).elim
      settled := fun done => (done.not_held held).elim
      void := fun isOver => isOver
      chained := sets.chained h rfl rfl
      back := fun t' mem => ?_
      forth := calm_forth dispatchEffect_stable attempts.tasks known fun _ => id }
  · rw [mem_iff]
    refine or_iff_left fun new => other ?_
    rw [new]
    exact attempts.named
  · dsimp only
    omega
  · dsimp only
    rcases (mem_iff b).mp mem with old | rfl
    · obtain ⟨u, isStage, ofIt, low, high⟩ := h.numbered b old
      obtain rfl := eq_of_key (stages_distinct db) isStage attempts.stored (ofIt.trans ofStage)
      omega
    · dsimp only
      omega
  · dsimp only at le
    by_cases last : k = s.attemptCount + 1
    · exact ⟨_, (mem_iff _).mpr (.inr rfl), attempts.named, number.trans last.symm⟩
    · obtain ⟨b, isOld, ofStage, isNumber⟩ := h.counted s attempts.stored k positive (by omega)
      exact ⟨b, (mem_iff b).mpr (.inl isOld), ofStage, isNumber⟩
  · rcases (mem_iff b).mp mem with old | rfl
    · rw [free b old ofStage] at isOpen
      cases isOpen
    · exact ⟨held, node, number⟩
  · obtain ⟨t, stored, calm⟩ := calm_back dispatchEffect_stable attempts.tasks known (by decide) (fun _ => id) t' mem
    exact ⟨t, stored, .calm calm⟩

end

end MinimaxProxy.Store
