import MinimaxProxy.Store.CancelSteps

/-!
# The end of an official task

A task of an official node may have been created with stages. They end with the task, and no H3
node has worked on them.
-/

namespace MinimaxProxy.Store
open Sql Sql.Prog

/-- What is written after the task and its stages. -/
def deliveryEffect : Effect := { kinds := [], tables := [.resultUploadJobs, .callbackDeliveries] }

/-- The row of a stage that ends with its task. -/
structure EndedStage (s s' : Stage) : Prop where
  done : Done s'
  unleased : s'.leaseToken = none
  same : s'.id = s.id ∧ s'.taskID = s.taskID ∧ s'.stageOrder = s.stageOrder ∧ s'.attemptCount = s.attemptCount ∧
    s'.maxAttempts = s.maxAttempts ∧ s'.inputArtifactID = s.inputArtifactID ∧ s'.outputArtifactID = s.outputArtifactID

theorem settlesStages_of {taskID nodeID : String} {p : Task → Bool} {set : Task → Task} {g : Stage → Stage} {k : Kind} {n : Nat}
    {db d1 d2 db' : Database} (sound : ∀ t ∈ db.tasks, Sound t.core)
    (ended : (.update Tbl.videoTasks (fun _ (t : Task) => officialActive taskID nodeID t && p t)
      fun _ t => set t : Dml).apply db = .ok (1, d1))
    (staged : (.update Tbl.taskStages (fun _ (s : Stage) => s.taskID == taskID && !(s.status == .succeeded || s.status == .skipped))
      fun _ s => g s : Dml).apply d1 = .ok (n, d2))
    (told : deliveryEffect.law.Evolves d2 db')
    (moves : ∀ t : Task, (officialActive taskID nodeID t && p t) = true → CoreMove t.core k (set t).core) (calm : k ∉ roughKinds)
    (ends : ∀ s, EndedStage s (g s)) : SettlesStages taskID db db' := by
  have sameTasks : db'.tasks = Database.tasks d1 :=
    (Effect.same_tasks told ⟨rfl, fun _ => trivial, fun _ => id, fun _ => id⟩).trans (apply_update_rows_of_ne staged (by decide))
  have tasks : db'.tasks = db.tasks.map fun t => if officialActive taskID nodeID t && p t then set t else t := by
    obtain ⟨tab, rfl, rows, -⟩ := apply_update ended
    rw [sameTasks, Database.tasks, DB.rows_put_self]
    exact rows
  refine ⟨fun t mem named => ?_, ⟨fun s => if s.taskID == taskID &&
    !(s.status == .succeeded || s.status == .skipped) then g s else s, ?_, ?_⟩,
    ?_, fun t' mem => ?_, fun t mem => ?_⟩
  · -- the row that was written is that of the task
    obtain ⟨u, stored, isNamed, hit, -⟩ := task_update_one ended fun t _ hit => by
      simp only [officialActive, Bool.and_eq_true, beq_iff_eq] at hit
      tauto
    obtain rfl := task_unique mem stored (named.trans isNamed.symm)
    simp only [Bool.and_eq_true] at hit
    obtain ⟨protocol, slot⟩ := officialActive_guard hit.1
    exact ⟨protocol, (sound t mem).ready ((sound t mem).slot slot).2.1⟩
  · rw [Database.stages, Effect.same_rows told (by decide) (by decide)]
    obtain ⟨tab, rfl, rows, -⟩ := apply_update staged
    have same : d1.rows .taskStages = db.stages := apply_update_rows_of_ne ended (by decide)
    rw [DB.rows_put_self, rows, same]
    rfl
  · intro s _
    dsimp only
    by_cases hit : (s.taskID == taskID && !(s.status == .succeeded || s.status == .skipped)) = true
    · rw [if_pos hit]
      simp only [Bool.and_eq_true, beq_iff_eq, Bool.not_eq_true', Bool.or_eq_false_iff, beq_eq_false_iff_ne] at hit
      exact ⟨(ends s).same, .inr ⟨hit.1, fun passed => passed.elim hit.2.1 hit.2.2, (ends s).done, (ends s).unleased⟩⟩
    · rw [if_neg hit]
      exact ⟨⟨rfl, rfl, rfl, rfl, rfl, rfl, rfl⟩, .inl rfl⟩
  · rw [Database.attempts, Effect.same_rows told (by decide) (by decide), apply_update_rows_of_ne staged (by decide)]
    exact apply_update_rows_of_ne ended (by decide)
  · rw [tasks] at mem
    obtain ⟨t, stored, rfl⟩ := List.mem_map.mp mem
    refine ⟨t, stored, ?_⟩
    by_cases hit : (officialActive taskID nodeID t && p t) = true
    · rw [if_pos hit]
      exact (moves t hit).calm (sound t stored) calm
    · rw [if_neg hit]
      exact .refl _
  · refine ⟨_, by rw [tasks]; exact List.mem_map_of_mem mem, ?_⟩
    by_cases hit : (officialActive taskID nodeID t && p t) = true
    · rw [if_pos hit]
      exact (moves t hit).keeps.1
    · rw [if_neg hit]

theorem markOfficialGenerated_settles {taskID nodeID originURL ratio : String} {uploadJob : Option UploadJob} {callbackID : String}
    {now : Int} {faults : Faults Err} {n : Nat} {db : Database} (sound : ∀ t ∈ db.tasks, Sound t.core) :
    (markOfficialGenerated taskID nodeID originURL ratio uploadJob callbackID now faults n db).db = db ∨
      SettlesStages taskID db (markOfficialGenerated taskID nodeID originURL ratio uploadJob callbackID now faults n db).db := by
  rw [markOfficialGenerated]
  refine (immediate_effect _ faults).imp_right fun ⟨u, out⟩ => ?_
  obtain ⟨_, d1, ended, rest₁⟩ := returns_bind.mp out
  obtain ⟨_, d2, once, rest₂⟩ := returns_bind.mp rest₁
  obtain ⟨rfl, rfl⟩ := returns_oneRow.mp once
  obtain ⟨_, d3, staged, rest₃⟩ := returns_bind.mp rest₂
  refine settlesStages_of sound (returns_exec.mp ended) (returns_exec.mp staged)
    (k := .generate) ?_ (fun t hit => ?_) (by decide) fun s => ?_
  · refine Prog.Writes.evolves ?_ rest₃
    split
    · exact writes_bind (by simp [deliveryEffect]) fun _ => writes_pure
    · exact writes_callback (by decide)
  · simp only [Bool.and_eq_true, Bool.or_eq_true, beq_iff_eq] at hit
    exact .generate originURL _ uploadJob.isSome (officialActive_guard hit.1).1 (officialActive_guard hit.1).2 hit.2
  · refine ⟨?_, rfl, rfl, rfl, rfl, rfl, rfl, rfl, rfl⟩
    rw [Done]
    dsimp only
    split
    · exact .inl rfl
    · exact .inr (.inr rfl)

theorem markOfficialFailed_settles {taskID nodeID code message : String} {feedback : Option UpstreamFeedback} {callbackID : String}
    {now : Int} {faults : Faults Err} {n : Nat} {db : Database} (sound : ∀ t ∈ db.tasks, Sound t.core) :
    (markOfficialFailed taskID nodeID code message feedback callbackID now faults n db).db = db ∨
      SettlesStages taskID db (markOfficialFailed taskID nodeID code message feedback callbackID now faults n db).db := by
  rw [markOfficialFailed]
  refine (immediate_effect _ faults).imp_right fun ⟨u, out⟩ => ?_
  obtain ⟨_, d1, ended, rest₁⟩ := returns_bind.mp out
  obtain ⟨_, d2, once, rest₂⟩ := returns_bind.mp rest₁
  obtain ⟨rfl, rfl⟩ := returns_oneRow.mp once
  obtain ⟨_, d3, staged, told⟩ := returns_bind.mp rest₂
  refine settlesStages_of sound (returns_exec.mp ended) (returns_exec.mp staged)
    (k := .failOfficial) ?_ (fun t hit => ?_) (by decide) fun s => ?_
  · exact (writes_callback (by decide)).evolves told
  · simp only [Bool.and_eq_true, Bool.or_eq_true, beq_iff_eq] at hit
    exact .failOfficial code (officialActive_guard hit.1).1 (officialActive_guard hit.1).2 hit.2
  · exact ⟨.inr (.inl rfl), rfl, rfl, rfl, rfl, rfl, rfl, rfl, rfl⟩

end MinimaxProxy.Store
