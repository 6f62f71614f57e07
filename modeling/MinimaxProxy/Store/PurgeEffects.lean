import MinimaxProxy.Store.ClaimEffects
import MinimaxProxy.Store.NodeEffects

/-!
# What routing, purge and cleanup change

Operations whose guards are read by an earlier statement of the same transaction: the route
of an old task, the purge of a task by an administrator, and the confirmed cleanup of old
artifacts.
-/

namespace MinimaxProxy.Store
open Sql Sql.Prog

variable {db db' : Database} {n : Nat} {t : Task}

/-- Only the row of the task `t` meets a condition on its id. -/
theorem evolves_row {e : Effect} {k : Kind} {p : Task → Bool} {set : Database → Task → Task}
    (stored : t ∈ db.tasks) (mem : k ∈ e.kinds) (move : CoreMove t.core k (set db t).core)
    (applied : (Dml.update Tbl.videoTasks (fun _ (u : Task) => u.taskID == t.taskID && p u) set).apply db = .ok (n, db')) :
    e.law.Evolves db db' := by
  refine evolves_tasks applied fun u isStored hit _ => ⟨k, mem, ?_⟩
  simp only [Bool.and_eq_true, beq_iff_eq] at hit
  rwa [task_unique isStored stored hit.1]

/-- The row that a scan returned. -/
theorem found_scan {p : Task → Bool} {e : Err}
    (found : (db.tasks.find? p).elim (.error e) scanTask = .ok t) : t ∈ db.tasks ∧ p t = true := by
  cases row : db.tasks.find? p with
  | none => rw [row] at found; cases found
  | some u =>
    rw [row] at found
    have same : t = u := by
      simp only [Option.elim, scanTask] at found
      split at found
      · cases found
      · exact (Except.ok.inj found).symm
    rw [same]
    exact ⟨List.mem_of_find?_eq_some row, List.find?_some row⟩

/-! ## Routes of old tasks -/

theorem writes_resolveSpoolRefs {P : Dml → Prop} (taskID : String) (index : Nat) (items : List GenerationContent) :
    (resolveSpoolRefs taskID index items).Writes P := by
  induction items generalizing index with
  | nil => exact writes_pure
  | cons item rest ih =>
    have tail (item : GenerationContent) : (do
        let rest ← resolveSpoolRefs taskID (index + 1) rest
        pure (item :: rest) : Prog (List GenerationContent)).Writes P := writes_bind (ih _) fun _ => writes_pure
    rw [resolveSpoolRefs]
    split
    · exact writes_bind writes_pure fun item => tail item
    · split
      · exact writes_bind writes_select fun _ => writes_bind writes_require fun _ => tail _
      · exact writes_bind writes_pure fun item => tail item

theorem writes_chooseRequirements {P : Dml → Prop} (normalize : Normalize) (protocol : Protocol) (model : String)
    (request : GenerationRequest) (ids : List String) (chosen : Option TaskRequirements) :
    (chooseRequirements normalize protocol model request ids chosen).Writes P := by
  induction ids generalizing chosen with
  | nil => exact writes_pure
  | cons id ids ih => exact writes_bind (writes_catalogWith id) fun _ => ih _

def bindLegacyTaskRouteEffect : Effect := { kinds := [.route, .rank] }

/-- The route of an old task: its row is written, and the queue is ranked. -/
theorem bindLegacyTaskRoute_spec {o : Options} {normalize : Normalize} {taskID : String} {nodeProtocol : Protocol}
    {version revision now : Int} {r : Task}
    (out : (bindLegacyTaskRouteBody o normalize taskID nodeProtocol version revision now).Returns db r db') :
    ∃ mid, bindLegacyTaskRouteEffect.law.Evolves db mid ∧ (rebalance o now).Returns mid () db' := by
  simp only [bindLegacyTaskRouteBody, returns_bind, returns_query, returns_require, returns_select] at out
  obtain ⟨t, db, ⟨isTask, rfl⟩, _, db, ⟨guard, rfl⟩, _, db, ⟨-, rfl⟩, _, db, ⟨-, rfl⟩, _, mid, routed, out⟩ := out
  obtain rfl := routed.readOnly (writes_routeWith t.model)
  obtain ⟨_, db, ⟨-, rfl⟩, _, db, ⟨-, rfl⟩, out⟩ := out
  split at out
  · exact absurd out returns_fail
  simp only [returns_bind] at out
  obtain ⟨_, mid, resolved, _, mid', chosen, out⟩ := out
  obtain rfl := resolved.readOnly (writes_resolveSpoolRefs _ _ _)
  obtain rfl := chosen.readOnly (writes_chooseRequirements _ _ _ _ _ _)
  split at out
  · exact absurd out returns_fail
  simp only [returns_bind, returns_require, returns_exec, returns_query] at out
  obtain ⟨_, db, ⟨-, rfl⟩, _, mid, applied, _, mid', ranked, -, rfl⟩ := out
  obtain ⟨stored, matched⟩ : t ∈ Database.tasks db ∧ _ := found_scan isTask
  simp only [Bool.and_eq_true, beq_iff_eq] at matched guard
  obtain ⟨rfl, -⟩ := matched
  exact ⟨mid, evolves_row (k := .route) stored (by decide) (.route nodeProtocol guard.1.1.1.1.1.2 guard.1.1.1.1.2) applied, ranked⟩

theorem bindLegacyTaskRoute_evolves {o : Options} {normalize : Normalize} {taskID : String} {nodeProtocol : Protocol}
    {version revision now : Int} {faults : Faults Err} :
    bindLegacyTaskRouteEffect.law.Evolves db
      (bindLegacyTaskRoute o normalize taskID nodeProtocol version revision now faults n db).db := by
  rcases immediate_effect (bindLegacyTaskRouteBody o normalize taskID nodeProtocol version revision (unix now)) faults with
    same | ⟨r, out⟩
  · rw [bindLegacyTaskRoute, same]
    exact Laws.chains.refl db
  · obtain ⟨mid, routed, ranked⟩ := bindLegacyTaskRoute_spec out
    exact Laws.chains.trans routed (evolves_rebalance (by decide) ranked)

/-! ## Purge -/

/-- The tables a purge clears; the last two go with the task. -/
def purgeTables : List Tbl :=
  [.taskStages, .idempotencyKeys, .callbackDeliveries, .artifactDeletionItems, .artifactDeletionJobs, .stageAttempts,
    .artifactLocations, .taskArtifacts, .taskInputSpoolFiles, .taskRemoteRuns, .taskNodeAssets]

def adminDeleteEffect : Effect where
  kinds := []
  tables := purgeTables
  gone c := c.status.isTerminal = true

/-- A purged task had ended, and its stages and attempts go with it. -/
structure Purged (taskID : String) (db db' : Database) : Prop where
  evolves : adminDeleteEffect.law.Evolves db db'
  tasks : db'.tasks = db.tasks.filter fun t => t.taskID != taskID
  stages : db'.stages = db.stages.filter fun s => s.taskID != taskID
  attempts : db'.attempts = db.attempts.filter fun a => !stageOf db taskID a.stageID
  runs : db'.remoteRuns = db.remoteRuns.filter fun r => db'.tasks.any (·.taskID == r.taskID)
  isOver : ∀ t ∈ db.tasks, t.taskID = taskID → t.status.isTerminal = true

theorem adminDelete_purges {taskID : String} {purged : Option (List Location)}
    {u : Unit} (out : (adminDeleteBody taskID purged).Returns db u db') :
    ∃ t ∈ db.tasks, t.taskID = taskID ∧ t.deletedAt = none ∧ t.status.isTerminal = true ∧ (purgeRows taskID t).Returns db u db' := by
  simp only [adminDeleteBody, returns_bind, returns_query, returns_require, returns_select] at out
  obtain ⟨t, db, ⟨isTask, rfl⟩, _, db, ⟨isOver, rfl⟩, _, db, ⟨-, rfl⟩, _, db, ⟨-, rfl⟩, _, db, ⟨-, rfl⟩, _, db, ⟨-, rfl⟩, out⟩ := out
  obtain ⟨stored, matched⟩ : t ∈ Database.tasks db ∧ _ := found_spec isTask
  simp only [Bool.and_eq_true, beq_iff_eq, Option.isNone_iff_eq_none] at matched
  refine ⟨t, stored, matched.1, matched.2, isOver, ?_⟩
  cases purged with
  | none => exact out
  | some purged =>
    simp only [returns_bind, returns_select, returns_require] at out
    obtain ⟨_, db, ⟨-, rfl⟩, _, db, ⟨-, rfl⟩, out⟩ := out
    exact out

/-- Blanking the artifacts of a task's stages changes no stage of another task. -/
theorem filter_blanked {taskID : String} {rows : List Stage} :
    (updateRows (·.taskID == taskID) unlinkedStage rows).filter (fun s => !(s.taskID == taskID)) =
      rows.filter fun s => s.taskID != taskID := by
  rw [updateRows, List.filter_map]
  refine (List.map_congr_left fun s mem => ?_).trans ((List.map_id _).trans (List.filter_congr fun s _ => ?_))
  · have kept := (List.mem_filter.mp mem).2
    simp only [Function.comp_apply, Bool.not_eq_true'] at kept
    by_cases own : (s.taskID == taskID) = true
    · simp [unlinkedStage, beq_iff_eq.mp own] at kept
    · exact if_neg own
  · simp only [Function.comp_apply]
    split <;> rfl

/-- Nor does blanking its own row change the other tasks. -/
theorem filter_unlinked (stored : t ∈ db.tasks) : (updateRows (fun u : Task => u.taskID == t.taskID && u.version == t.version)
      unlinkedTask db.tasks).filter (fun u => !purgedTask t t.taskID u) = db.tasks.filter fun u => u.taskID != t.taskID := by
  have hit (u : Task) (mem : u ∈ db.tasks) (same : u.taskID = t.taskID) : u = t := task_unique mem stored same
  rw [updateRows, List.filter_map]
  refine (List.map_congr_left fun u mem => ?_).trans ((List.map_id _).trans (List.filter_congr fun u mem => ?_))
  · obtain ⟨mem, kept⟩ := List.mem_filter.mp mem
    refine if_neg fun own => ?_
    have same : u.taskID = t.taskID := (by simpa using own : u.taskID = t.taskID ∧ _).1
    rw [hit u mem same] at kept
    simp [purgedTask, unlinkedTask] at kept
  · by_cases same : u.taskID = t.taskID
    · rw [hit u mem same]
      simp [purgedTask, unlinkedTask]
    · simp only [Function.comp_apply]
      rw [if_neg (by simp [same]), purgedTask, bne, beq_eq_false_iff_ne.mpr same]
      rfl

theorem purgeRows_spec {taskID : String} {u : Unit} (stored : t ∈ db.tasks) (named : t.taskID = taskID)
    (isOver : t.status.isTerminal = true) (out : (purgeRows taskID t).Returns db u db') : Purged taskID db db' := by
  simp only [purgeRows, returns_bind, returns_exec, returns_select, returns_oneRow] at out
  obtain ⟨_, d1, unlinked, _, d2, blanked, _, d3, keyless, _, d4, silent, jobs, _, ⟨-, rfl⟩, out⟩ := out
  obtain ⟨_, d5, itemless, _, d6, jobless, _, d7, idle, _, d8, unplaced, _, d9, artless, _, d10, stageless, out⟩ := out
  obtain ⟨_, d11, fileless, _, _, dropped, rfl, rfl⟩ := out
  have jobs : ∀ tbl, tbl ≠ .artifactDeletionJobs → d6.rows tbl = d5.rows tbl := by
    intro tbl other
    have lawful : ({ kinds := [], tables := [.artifactDeletionJobs] } : Effect).law.Evolves d5 d6 :=
      (writes_forEach fun _ _ => writes_bind (by simp) fun _ => writes_pure).evolves jobless
    by_cases tasks : tbl = .videoTasks
    · subst tasks
      exact Effect.same_tasks lawful ⟨rfl, fun _ => trivial, fun _ => id, fun _ => id⟩
    · exact Effect.same_rows lawful tasks (by simpa using other)
  -- The rows before and after the statements on attempts, stages and files.
  have early (tbl : Tbl) (free : tbl ∉ [Tbl.idempotencyKeys, .callbackDeliveries, .artifactDeletionItems, .artifactDeletionJobs]) :
      d6.rows tbl = d2.rows tbl := by
    simp only [List.mem_cons, List.not_mem_nil, or_false, not_or] at free
    rw [jobs tbl free.2.2.2, delete_others itemless (by decide) free.2.2.1, delete_others silent (by decide) free.2.1,
      delete_others keyless (by decide) free.1]
  have late (tbl : Tbl) (free : tbl ∉ [Tbl.stageAttempts, .artifactLocations, .taskArtifacts, .taskStages, .taskInputSpoolFiles]) :
      d11.rows tbl = d6.rows tbl := by
    simp only [List.mem_cons, List.not_mem_nil, or_false, not_or] at free
    rw [delete_others fileless (by decide) free.2.2.2.2, delete_others stageless (by decide) free.2.2.2.1,
      delete_others artless (by decide) free.2.2.1, delete_others unplaced (by decide) free.2.1, delete_others idle (by decide) free.1]
  have tasks : d11.rows .videoTasks = d1.rows .videoTasks :=
    ((late .videoTasks (by decide)).trans (early .videoTasks (by decide))).trans (apply_update_rows_of_ne blanked (by decide))
  have stages : d2.rows .taskStages = updateRows (·.taskID == taskID)
      (fun s : Stage => { s with inputArtifactID := none, outputArtifactID := none }) (db.rows .taskStages) := by
    have same : d1.rows .taskStages = db.rows .taskStages := apply_update_rows_of_ne unlinked (by decide)
    rw [← same]
    obtain ⟨tab, rfl, rows, -⟩ := apply_update blanked
    rw [DB.rows_put_self]
    exact rows
  have others (tbl : Tbl) (isTasks : tbl ≠ .videoTasks) (unlisted : tbl ∉ purgeTables) : db'.rows tbl = db.rows tbl := by
    simp only [purgeTables, List.mem_cons, List.not_mem_nil, or_false, not_or] at unlisted
    obtain ⟨notStages, notKeys, notCalls, notItems, notJobs, notAttempts, notPlaces, notArts, notFiles, notRuns, notAssets⟩ := unlisted
    rw [delete_tasks_others dropped isTasks notRuns notAssets, late tbl (by simp [*]), early tbl (by simp [*]),
      apply_update_rows_of_ne blanked notStages, apply_update_rows_of_ne unlinked isTasks]
  have last (tbl : Tbl) (isTasks : tbl ≠ .videoTasks) (notRuns : tbl ≠ .taskRemoteRuns) (notAssets : tbl ≠ .taskNodeAssets) :
      db'.rows tbl = d11.rows tbl := delete_tasks_others dropped isTasks notRuns notAssets
  subst named
  have remaining : db'.tasks = db.tasks.filter fun u => u.taskID != t.taskID := by
    rw [Database.tasks, delete_rows dropped, tasks]
    obtain ⟨tab, rfl, rows, -⟩ := apply_update unlinked
    rw [DB.rows_put_self, rows]
    exact filter_unlinked stored
  have isOver : ∀ u ∈ db.tasks, u.taskID = t.taskID → u.status.isTerminal = true := fun u isStored same => by
    rw [task_unique isStored stored same]
    exact isOver
  refine ⟨Effect.evolves_of ?_ others, remaining, ?_, ?_, ?_, isOver⟩
  · rw [remaining]
    exact .single (.delete _ fun u isStored hit => isOver u isStored (by simpa using hit))
  · rw [Database.stages, last .taskStages (by decide) (by decide) (by decide), delete_others fileless (by decide) (by decide),
      delete_rows stageless, delete_others artless (by decide) (by decide), delete_others unplaced (by decide) (by decide),
      delete_others idle (by decide) (by decide), early .taskStages (by decide), stages]
    exact filter_blanked
  · rw [Database.attempts, last .stageAttempts (by decide) (by decide) (by decide), delete_others fileless (by decide) (by decide),
      delete_others stageless (by decide) (by decide), delete_others artless (by decide) (by decide),
      delete_others unplaced (by decide) (by decide), delete_rows idle, early .stageAttempts (by decide),
      apply_update_rows_of_ne blanked (by decide), apply_update_rows_of_ne unlinked (by decide)]
    refine List.filter_congr fun a _ => ?_
    congr 1
    have rows : Database.stages d6 = _ := (early .taskStages (by decide)).trans stages
    rw [stageOf, rows, updateRows, List.any_map]
    refine List.any_congr rfl fun s => ?_
    simp only [Function.comp_apply]
    split <;> rfl
  · have runs : d11.rows .taskRemoteRuns = db.rows .taskRemoteRuns :=
      ((late .taskRemoteRuns (by decide)).trans (early .taskRemoteRuns (by decide))).trans
        ((apply_update_rows_of_ne blanked (by decide)).trans (apply_update_rows_of_ne unlinked (by decide)))
    rw [Database.remoteRuns, Database.remoteRuns, ← runs]
    exact delete_tasks_runs dropped

theorem adminDelete_cases {taskID : String} (purged : Option (List Location)) {faults : Faults Err} :
    (adminDelete taskID purged faults n db).db = db ∨ Purged taskID db (adminDelete taskID purged faults n db).db := by
  rcases immediate_effect (adminDeleteBody taskID purged) faults with same | ⟨r, out⟩
  · exact .inl same
  · obtain ⟨t, stored, named, -, isOver, rows⟩ := adminDelete_purges out
    exact .inr (purgeRows_spec stored named isOver rows)

end MinimaxProxy.Store
