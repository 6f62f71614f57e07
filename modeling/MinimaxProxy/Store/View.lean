import MinimaxProxy.Sql.Lookup
import MinimaxProxy.Store.Remote
import MinimaxProxy.Store.TaskRows

/-!
# What the store says about one task

`view db id` is the row of a task in `video_tasks` with its remote run and its upload job.
The operations of the store act on one task at a time, so what they do is stated on views.
The `view_*` lemmas say how a statement changes the view of each task.
-/

namespace MinimaxProxy.Store
open Sql Sql.Prog

/-- The upload job of a task. -/
def findUploadJob (db : Database) (taskID : String) : Option UploadJob := db.uploadJobs.find? (·.taskID == taskID)

/-- The rows of one task. -/
structure View where
  task : Option Task
  run : Option RemoteRun
  job : Option UploadJob

theorem View.eq_mk {v : View} {t : Option Task} {r : Option RemoteRun} (task : v.task = t) (run : v.run = r) :
    v = ⟨t, r, v.job⟩ := by
  subst task run
  rfl

def view (db : Database) (id : String) : View := ⟨findTask db id, findRun db id, findUploadJob db id⟩

section
variable {db db' : Database} {n : Nat} {id k : String}

theorem runs_distinct (db : Database) : db.remoteRuns.Pairwise fun a b => a.taskID ≠ b.taskID := by
  refine (db Tbl.taskRemoteRuns).fit.imp fun {a b} h => ?_
  have fits : RemoteRun.fits a b = true := h
  simp only [RemoteRun.fits, Bool.and_eq_true, bne_iff_ne] at fits
  exact fits.1.1

theorem jobs_distinct : db.uploadJobs.Pairwise fun a b => a.taskID ≠ b.taskID := by
  refine (db Tbl.resultUploadJobs).fit.imp fun {a b} h => ?_
  have fits : UploadJob.fits a b = true := h
  simp only [UploadJob.fits, Bool.and_eq_true, bne_iff_ne] at fits
  exact fits.1.2

theorem job_ids_distinct (db : Database) : db.uploadJobs.Pairwise fun a b => a.id ≠ b.id := by
  refine (db Tbl.resultUploadJobs).fit.imp fun {a b} h => ?_
  have fits : UploadJob.fits a b = true := h
  simp only [UploadJob.fits, Bool.and_eq_true, bne_iff_ne] at fits
  exact fits.1.1

theorem view_taskID {t : Task} (h : (view db id).task = some t) : t.taskID = id := key_of_find h
theorem view_runID {r : RemoteRun} (h : (view db id).run = some r) : r.taskID = id := key_of_find h
theorem view_task_mem {t : Task} (h : (view db id).task = some t) : t ∈ db.tasks := mem_of_find h

theorem view_task_iff {t : Task} : (view db id).task = some t ↔ t ∈ db.tasks ∧ t.taskID = id := by
  constructor
  · exact fun found => ⟨mem_of_find found, key_of_find found⟩
  · rintro ⟨mem, rfl⟩
    exact find_of_mem (tasks_distinct db) mem

theorem view_run_iff {s : RemoteRun} : (view db id).run = some s ↔ s ∈ db.remoteRuns ∧ s.taskID = id := by
  constructor
  · exact fun found => ⟨mem_of_find found, key_of_find found⟩
  · rintro ⟨mem, rfl⟩
    exact find_of_mem (runs_distinct db) mem

theorem view_job_iff {j : UploadJob} : (view db id).job = some j ↔ j ∈ db.uploadJobs ∧ j.taskID = id := by
  constructor
  · exact fun found => ⟨mem_of_find found, key_of_find found⟩
  · rintro ⟨mem, rfl⟩
    exact find_of_mem jobs_distinct mem

/-- The view depends on three tables only. -/
theorem view_congr (tasks : db'.tasks = db.tasks) (runs : db'.remoteRuns = db.remoteRuns)
    (jobs : db'.uploadJobs = db.uploadJobs) : view db' id = view db id := by
  simp only [view, findTask, findRun, findUploadJob, tasks, runs, jobs]

/-- The statement is about none of the three tables. -/
def Elsewhere (w : Dml) : Prop := w.table ≠ .videoTasks ∧ w.table ≠ .taskRemoteRuns ∧ w.table ≠ .resultUploadJobs

theorem Elsewhere.rows {w : Dml} (other : Elsewhere w) (h : w.apply db = .ok (n, db')) :
    db'.tasks = db.tasks ∧ db'.remoteRuns = db.remoteRuns ∧ db'.uploadJobs = db.uploadJobs := by
  obtain ⟨notTask, notRun, notJob⟩ := other
  refine ⟨apply_rows_of_ne h notTask.symm ?_, apply_rows_of_ne h notRun.symm ?_, apply_rows_of_ne h notJob.symm ?_⟩
  · intro t _ ref mem parent
    simp only [Tbl.refs, Tbl.ref, List.mem_append, List.mem_map, Option.mem_toList] at mem
    rcases mem with (⟨_, _, rfl⟩ | ⟨_, _, rfl⟩) | ⟨_, _, rfl⟩ <;> rfl
  · intro r _ ref mem parent
    simp only [Tbl.refs, Tbl.ref, List.mem_cons, List.mem_map] at mem
    rcases mem with rfl | ⟨_, _, rfl⟩
    · exact absurd parent.symm notTask
    · rfl
  · intro j _ ref mem parent
    simp only [Tbl.refs, Tbl.ref, List.mem_map] at mem
    obtain ⟨_, _, rfl⟩ := mem
    rfl

theorem view_other {w : Dml} (h : w.apply db = .ok (n, db')) (other : Elsewhere w) : view db' id = view db id := by
  obtain ⟨tasks, runs, jobs⟩ := other.rows h
  exact view_congr tasks runs jobs

theorem view_of_writes {α : Type} {p : Prog α} {x : Except Err α} (h : p.Writes Elsewhere) (out : p.Yields db x db') :
    view db' id = view db id :=
  h.yields (R := fun d d' => view d' id = view d id) (fun _ => rfl) (fun _ _ _ ab bc => bc.trans ab)
    (fun _ other _ _ _ applied => view_other applied other) out

theorem jobs_of_writes {α : Type} {p : Prog α} {x : Except Err α} (h : p.Writes Elsewhere) (out : p.Yields db x db') :
    db'.uploadJobs = db.uploadJobs :=
  h.yields (R := fun d d' => Database.uploadJobs d' = Database.uploadJobs d) (fun _ => rfl) (fun _ _ _ ab bc => bc.trans ab)
    (fun _ other _ _ _ applied => (other.rows applied).2.2) out

theorem writes_createCallbackDelivery {callbackID taskID status : String} {now : Int} {P : Dml → Prop}
    (callbacks : ∀ new, P (.insert Tbl.callbackDeliveries new)) : (createCallbackDelivery callbackID taskID status now).Writes P := by
  refine writes_bind writes_query fun t => ?_
  split
  · exact writes_pure
  · exact writes_bind (writes_exec.mpr (callbacks _)) fun _ => writes_pure

theorem view_createCallbackDelivery {callbackID taskID status : String} {now : Int} {u : Unit}
    (h : (createCallbackDelivery callbackID taskID status now).Returns db u db') : view db' id = view db id :=
  view_of_writes (writes_createCallbackDelivery fun _ => ⟨nofun, nofun, nofun⟩) h

/-! ## Updates by `task_id` -/

/-- An UPDATE of `video_tasks` maps the task of every view. -/
theorem view_updateTasks {sel : Database → Task → Bool} {set : Database → Task → Task}
    (h : (Dml.update Tbl.videoTasks sel set : Dml).apply db = .ok (n, db')) (keeps : ∀ t, (set db t).taskID = t.taskID) :
    view db' id = { view db id with task := (view db id).task.map fun t => if sel db t then set db t else t } := by
  have task : findTask db' id = (findTask db id).map fun t => if sel db t then set db t else t := apply_update_find h keeps
  have run : db'.remoteRuns = db.remoteRuns := apply_update_rows_of_ne h (by decide)
  have job : db'.uploadJobs = db.uploadJobs := apply_update_rows_of_ne h (by decide)
  simp only [view, task, findRun, findUploadJob, run, job]

/-- A task with another id than those an UPDATE selects stays. -/
theorem view_updateTasks_of_ne {sel : Database → Task → Bool} {set : Database → Task → Task}
    (h : (Dml.update Tbl.videoTasks sel set : Dml).apply db = .ok (n, db')) (keeps : ∀ t, (set db t).taskID = t.taskID)
    (only : ∀ t, sel db t = true → t.taskID = k) (other : id ≠ k) : view db' id = view db id := by
  rw [view_updateTasks h keeps]
  cases found : (view db id).task with
  | none => rw [Option.map_none, ← found]
  | some t =>
    have miss : ¬ sel db t = true := fun hit => other ((view_taskID found).symm.trans (only t hit))
    rw [Option.map_some, if_neg miss, ← found]

/-- An UPDATE of the task `k`, if it meets `guard`. -/
theorem view_updateTask_where {guard : Task → Bool} {set : Task → Task}
    (h : (Dml.update Tbl.videoTasks (fun _ t => t.taskID == k && guard t) fun _ t => set t : Dml).apply db = .ok (n, db'))
    (keeps : ∀ t, (set t).taskID = t.taskID) :
    view db' k = { view db k with task := (view db k).task.map fun t => if guard t then set t else t } ∧
      ∀ id, id ≠ k → view db' id = view db id := by
  constructor
  · rw [view_updateTasks h keeps]
    cases found : (view db k).task with
    | none => rfl
    | some t => simp [view_taskID found]
  · refine fun id other => view_updateTasks_of_ne h keeps (fun t hit => ?_) other
    exact beq_iff_eq.mp (Bool.and_eq_true_iff.mp hit).1

theorem view_updateTask {sel : Database → Task → Bool} {set : Database → Task → Task}
    (h : (Dml.update Tbl.videoTasks sel set : Dml).apply db = .ok (1, db')) (keeps : ∀ t, (set db t).taskID = t.taskID)
    (only : ∀ t, sel db t = true → t.taskID = k) :
    ∃ t, (view db k).task = some t ∧ sel db t = true ∧ view db' k = { view db k with task := some (set db t) } ∧
      ∀ id, id ≠ k → view db' id = view db id := by
  obtain ⟨t, found, hit, -⟩ := apply_update_hit h (tasks_distinct db) keeps fun t _ => only t
  refine ⟨t, found, hit, ?_, fun id other => view_updateTasks_of_ne h keeps only other⟩
  rw [view_updateTasks h keeps, show (view db k).task = some t from found, Option.map_some, if_pos hit]

/-- An UPDATE of `task_remote_runs` maps the run of every view. -/
theorem view_updateRuns {sel : Database → RemoteRun → Bool} {set : Database → RemoteRun → RemoteRun}
    (h : (Dml.update Tbl.taskRemoteRuns sel set : Dml).apply db = .ok (n, db')) (keeps : ∀ r, (set db r).taskID = r.taskID) :
    view db' id = { view db id with run := (view db id).run.map fun r => if sel db r then set db r else r } := by
  have run : findRun db' id = (findRun db id).map fun r => if sel db r then set db r else r := apply_update_find h keeps
  have task : db'.tasks = db.tasks := apply_update_rows_of_ne h (by decide)
  have job : db'.uploadJobs = db.uploadJobs := apply_update_rows_of_ne h (by decide)
  simp only [view, run, findTask, findUploadJob, task, job]

/-- A run of another task than those an UPDATE selects stays. -/
theorem view_updateRuns_of_ne {sel : Database → RemoteRun → Bool} {set : Database → RemoteRun → RemoteRun}
    (h : (Dml.update Tbl.taskRemoteRuns sel set : Dml).apply db = .ok (n, db')) (keeps : ∀ r, (set db r).taskID = r.taskID)
    (only : ∀ r, sel db r = true → r.taskID = k) (other : id ≠ k) : view db' id = view db id := by
  rw [view_updateRuns h keeps]
  cases found : (view db id).run with
  | none => rw [Option.map_none, ← found]
  | some r =>
    have miss : ¬ sel db r = true := fun hit => other ((view_runID found).symm.trans (only r hit))
    rw [Option.map_some, if_neg miss, ← found]

theorem view_updateRun {sel : Database → RemoteRun → Bool} {set : Database → RemoteRun → RemoteRun}
    (h : (Dml.update Tbl.taskRemoteRuns sel set : Dml).apply db = .ok (1, db')) (keeps : ∀ r, (set db r).taskID = r.taskID)
    (only : ∀ r, sel db r = true → r.taskID = k) :
    ∃ r, (view db k).run = some r ∧ sel db r = true ∧ view db' k = { view db k with run := some (set db r) } ∧
      ∀ id, id ≠ k → view db' id = view db id := by
  obtain ⟨r, found, hit, -⟩ := apply_update_hit h (runs_distinct db) keeps fun r _ => only r
  refine ⟨r, found, hit, ?_, fun id other => view_updateRuns_of_ne h keeps only other⟩
  rw [view_updateRuns h keeps, show (view db k).run = some r from found, Option.map_some, if_pos hit]

theorem view_updateJob {sel : Database → UploadJob → Bool} {set : Database → UploadJob → UploadJob}
    (h : (Dml.update Tbl.resultUploadJobs sel set : Dml).apply db = .ok (1, db')) (keeps : ∀ j, (set db j).taskID = j.taskID)
    (only : ∀ j ∈ db.uploadJobs, sel db j = true → j.taskID = k) :
    ∃ j, (view db k).job = some j ∧ sel db j = true ∧ view db' k = { view db k with job := some (set db j) } ∧
      ∀ id, id ≠ k → view db' id = view db id := by
  obtain ⟨j, found, hit, now, others⟩ := apply_update_hit h jobs_distinct keeps only
  have job : findUploadJob db' k = some (set db j) := now
  have task : db'.tasks = db.tasks := apply_update_rows_of_ne h (by decide)
  have run : db'.remoteRuns = db.remoteRuns := apply_update_rows_of_ne h (by decide)
  refine ⟨j, found, hit, ?_, fun id other => ?_⟩
  · simp only [view, job, findTask, findRun, task, run]
  · have same : findUploadJob db' id = findUploadJob db id := others id other
    simp only [view, same, findTask, findRun, task, run]

/-! ## Inserts -/

theorem view_insertTask {new : Nat → Task} (h : (Dml.insert Tbl.videoTasks fun _ seq => [new seq] : Dml).apply db = .ok (n, db'))
    (named : ∀ seq, (new seq).taskID = k) :
    (view db k).task = none ∧ (∃ seq, view db' k = { view db k with task := some (new seq) }) ∧
      ∀ id, id ≠ k → view db' id = view db id := by
  have free : findTask db k = none := by
    have := apply_insert_free h (List.mem_singleton_self _) (tasks_distinct db')
    rwa [named] at this
  have found (id : String) : findTask db' id = (findTask db id).or _ := apply_insert_find h
  have run : db'.remoteRuns = db.remoteRuns := apply_insert_rows_of_ne h (by decide)
  have job : db'.uploadJobs = db.uploadJobs := apply_insert_rows_of_ne h (by decide)
  refine ⟨free, ⟨(db Tbl.videoTasks).seq + 1, ?_⟩, fun id other => ?_⟩
  · simp [view, found, free, named, findRun, findUploadJob, run, job]
  · simp [view, found, named, other.symm, findRun, findUploadJob, run, job]

theorem view_insertRun {r : RemoteRun} (h : (Dml.insert Tbl.taskRemoteRuns fun _ _ => [r] : Dml).apply db = .ok (n, db')) :
    (view db r.taskID).run = none ∧ view db' r.taskID = { view db r.taskID with run := some r } ∧
      ∀ id, id ≠ r.taskID → view db' id = view db id := by
  have free : findRun db r.taskID = none := apply_insert_free h (List.mem_singleton_self _) (runs_distinct db')
  have found (id : String) : findRun db' id = (findRun db id).or (if r.taskID = id then some r else none) := apply_insert_find h
  have task : db'.tasks = db.tasks := apply_insert_rows_of_ne h (by decide)
  have job : db'.uploadJobs = db.uploadJobs := apply_insert_rows_of_ne h (by decide)
  refine ⟨free, ?_, fun id other => ?_⟩
  · simp [view, found, free, findTask, findUploadJob, task, job]
  · simp [view, found, other.symm, findTask, findUploadJob, task, job]

theorem view_insertJob {j : UploadJob} (h : (Dml.insert Tbl.resultUploadJobs fun _ _ => [j] : Dml).apply db = .ok (n, db')) :
    (view db j.taskID).job = none ∧ view db' j.taskID = { view db j.taskID with job := some j } ∧
      ∀ id, id ≠ j.taskID → view db' id = view db id := by
  have free : findUploadJob db j.taskID = none := apply_insert_free h (List.mem_singleton_self _) jobs_distinct
  have found (id : String) : findUploadJob db' id = (findUploadJob db id).or (if j.taskID = id then some j else none) :=
    apply_insert_find h
  have task : db'.tasks = db.tasks := apply_insert_rows_of_ne h (by decide)
  have run : db'.remoteRuns = db.remoteRuns := apply_insert_rows_of_ne h (by decide)
  refine ⟨free, ?_, fun id other => ?_⟩
  · simp [view, found, free, findTask, findRun, task, run]
  · simp [view, found, other.symm, findTask, findRun, task, run]

end

end MinimaxProxy.Store
