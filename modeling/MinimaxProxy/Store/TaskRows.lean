import MinimaxProxy.Sql.Eval
import MinimaxProxy.Store.Basic

/-!
# Updates of task rows

When an UPDATE of `video_tasks` is not refused: its new rows keep the keys and break no
constraint. `rebalance` is of this kind and leaves every task with its holder.
-/

namespace MinimaxProxy.Store
open Sql Sql.Prog

/-- `u` may replace the stored row `t`: same key, no constraint newly broken. -/
structure Replaces (t u : Task) : Prop where
  queueSeq : u.queueSeq = t.queueSeq
  taskID : u.taskID = t.taskID
  check : ∀ seq, t.check seq = true → u.check seq = true
  trigger : t.routed = true → Task.trigger (some t) u = none
  refs : Tbl.refs .videoTasks u = Tbl.refs .videoTasks t

theorem tasks_distinct (db : Database) : db.tasks.Pairwise fun a b => a.taskID ≠ b.taskID := by
  refine (db Tbl.videoTasks).fit.imp fun {a b} h => ?_
  have fits : Task.fits a b = true := h
  simp only [Task.fits, Bool.and_eq_true, bne_iff_ne] at fits
  exact fits.2

theorem nodes_distinct (db : Database) : db.nodes.Pairwise fun a b => a.id ≠ b.id := by
  refine (db Tbl.modelServiceNodes).fit.imp fun {a b} h => ?_
  have fits : Node.fits a b = true := h
  simp only [Node.fits, Bool.and_eq_true, bne_iff_ne] at fits
  exact fits.1

theorem task_unique {db : Database} {a b : Task} (ha : a ∈ db.tasks) (hb : b ∈ db.tasks) (same : a.taskID = b.taskID) :
    a = b := eq_of_key (tasks_distinct db) ha hb same

/-- A task that is read is stored under the id. -/
theorem getWith_stored {owner taskID : String} {now : Int} {db : Database} {r : Task} (read : getWith owner taskID now db = .ok r) :
    r ∈ db.tasks ∧ r.taskID = taskID := by
  rw [getWith] at read
  split at read
  · cases read
  · rename_i t found
    have named := List.find?_some found
    simp only [Bool.and_eq_true, beq_iff_eq] at named
    rw [scanTask] at read
    split at read
    · cases read
    · cases read
      exact ⟨List.mem_of_find?_eq_some found, named.1.1.1⟩

/-- An UPDATE of `video_tasks` whose new rows replace the old ones is not refused. -/
theorem updateTasks_eval (sel : Database → Task → Bool) (set : Database → Task → Task) (db : Database)
    (replaces : ∀ t, sel db t = true → Replaces t (set db t)) :
    ∃ db' : Database, (exec (.update Tbl.videoTasks sel set) : Prog Nat).eval db =
        (.ok (db.tasks.filter (sel db)).length, db') ∧ db'.tasks = updateRows (sel db) (set db) db.tasks := by
  have keeps (t : Task) : (if sel db t then set db t else t).queueSeq = t.queueSeq ∧
      (if sel db t then set db t else t).taskID = t.taskID := by
    split
    · exact ⟨(replaces t ‹_›).queueSeq, (replaces t ‹_›).taskID⟩
    · exact ⟨rfl, rfl⟩
  have checked (t : Task) (ht : t ∈ db.tasks) : t.check (db Tbl.videoTasks).seq = true := (db Tbl.videoTasks).checked t ht
  have routed (t : Task) (ht : t ∈ db.tasks) : t.routed = true := by
    have := checked t ht
    simp only [Task.check, Bool.and_eq_true] at this
    exact this.2
  have fits (a b : Task) : Task.fits (if sel db a then set db a else a) (if sel db b then set db b else b) = Task.fits a b := by
    simp only [Task.fits, keeps]
  have refs (t : Task) (hs : sel db t = true) : Tbl.refs .videoTasks (set db t) ⊆ Tbl.refs .videoTasks t := by
    rw [(replaces t hs).refs]
    exact fun _ h => h
  obtain ⟨tab, applied, rows⟩ := apply_update_eq db Tbl.videoTasks sel set fits
    (fun t ht hs => (replaces t hs).check _ (checked t ht)) (fun t ht hs => (replaces t hs).trigger (routed t ht))
    (fun t _ hs => refs t hs)
  exact ⟨db.put Tbl.videoTasks tab, eval_exec_ok applied, by rw [Database.tasks, DB.rows_put_self]; exact rows⟩

/-- A row that only changes columns without constraints replaces the old one. -/
theorem Replaces.of_columns {t u : Task} (queueSeq : u.queueSeq = t.queueSeq) (taskID : u.taskID = t.taskID)
    (check : ∀ seq, t.check seq = true → u.check seq = true)
    (route : u.protocolVersion = t.protocolVersion ∧ u.routeState = t.routeState ∧
      u.routingSnapshotJSON = t.routingSnapshotJSON ∧ u.requestNormalizer = t.requestNormalizer)
    (result : u.resultInternalURL = t.resultInternalURL)
    (refs : u.profileID = t.profileID ∧ u.activeStageID = t.activeStageID ∧ u.resultArtifactID = t.resultArtifactID) :
    Replaces t u := by
  obtain ⟨protocol, state, snapshot, normalizer⟩ := route
  obtain ⟨profile, stage, artifact⟩ := refs
  refine ⟨queueSeq, taskID, check, fun routed => ?_, ?_⟩
  · have same : u.routed = t.routed := by simp only [Task.routed, protocol, state, snapshot]
    simp [Task.trigger, same, routed, result, protocol, state, snapshot, normalizer]
  · simp only [Tbl.refs, profile, stage, artifact]

/-- The task is held by the same node, or waits, in both rows. -/
structure SameHolder (t u : Task) : Prop where
  taskID : t.taskID = u.taskID
  upstream : t.upstreamID = u.upstreamID
  status : t.status = u.status ∨ t.status.isQueued ∧ u.status.isQueued

/-- `rebalance` is never refused and only changes queued rows. -/
theorem rebalance_eval (o : Options) (now : Int) (db : Database) :
    ∃ (db' : Database) (f : Task → Task), (rebalance o now).eval db = (.ok (), db') ∧ db'.tasks = db.tasks.map f ∧
      (∀ t, SameHolder t (f t)) ∧ ∀ t, t.status.isQueued = false → f t = t := by
  obtain ⟨db', out, rows⟩ := updateTasks_eval (fun _ (t : Task) => t.deletedAt.isNone && t.status.isQueued)
    (fun db (t : Task) =>
      { t with
        status := if ranked o.protectedSlots db t then .queuedLocked else .queuedOpen
        cancelLocked := ranked o.protectedSlots db t
        updatedAt := now
        version := t.version + 1 }) db
    fun t _ => .of_columns rfl rfl (fun _ h => h) ⟨rfl, rfl, rfl, rfl⟩ rfl ⟨rfl, rfl, rfl⟩
  refine ⟨db', _, ?_, rows, fun t => ?_, fun t h => by simp [h]⟩
  · rw [rebalance, eval_bind_ok out]
    rfl
  · by_cases queued : (t.deletedAt.isNone && t.status.isQueued) = true
    · rw [if_pos queued]
      refine ⟨rfl, rfl, .inr ⟨(Bool.and_eq_true_iff.mp queued).2, ?_⟩⟩
      show TaskStatus.isQueued (if _ then _ else _) = true
      split <;> rfl
    · rw [if_neg queued]
      exact ⟨rfl, rfl, .inl rfl⟩

end MinimaxProxy.Store
