import MinimaxProxy.Store.LifeCycle
import MinimaxProxy.Store.View

/-!
# What the operations change

`Effect.law` bounds what an operation does: the changes of task rows it makes, and the other
tables it may write. For most operations the bound can be read off their statements, whatever
the database holds and whichever statement fails; that is done here.
-/

namespace MinimaxProxy.Store
open Sql Sql.Prog

variable {db db' : Database} {e : Effect} {t t' : Tbl}

/-- A bound on what an operation changes: task rows change by `kinds`, new ones are `fresh` and
removed ones `gone`, and other tables change only if listed. `given` is what the caller knows of
the task rows. -/
structure Effect where
  kinds : List Kind
  tables : List Tbl := []
  given : Core → Prop := fun _ => True
  fresh : Core → Prop := fun _ => False
  gone : Core → Prop := fun _ => False

/-- The changes of task rows. -/
def Effect.moves (e : Effect) (t t' : Task) : Prop := e.given t.core → ∃ k ∈ e.kinds, CoreMove t.core k t'.core

def Effect.law (e : Effect) : Laws schema
  | .videoTasks => ⟨e.moves, fun t => e.fresh t.core, fun t => e.gone t.core⟩
  | t => if t ∈ e.tables then .any else .fixed

theorem Effect.law_any (other : t ≠ .videoTasks) (mem : t ∈ e.tables) : e.law t = .any := by
  cases t with
  | videoTasks => exact absurd rfl other
  | _ => exact if_pos mem

theorem Effect.law_fixed (other : t ≠ .videoTasks) (free : t ∉ e.tables) : e.law t = .fixed := by
  cases t with
  | videoTasks => exact absurd rfl other
  | _ => exact if_neg free

/-- The tasks change by the law, and nothing else that is not listed. -/
theorem Effect.evolves_of (tasks : (e.law .videoTasks).Evolves db.tasks db'.tasks)
    (others : ∀ t, t ≠ .videoTasks → t ∉ e.tables → db'.rows t = db.rows t) : e.law.Evolves db db' := by
  intro t
  by_cases isTasks : t = .videoTasks
  · subst isTasks
    exact tasks
  · by_cases listed : t ∈ e.tables
    · rw [Effect.law_any isTasks listed]
      exact Law.evolves_any _ _
    · rw [others t isTasks listed]
      exact .refl

theorem Effect.same_rows (h : e.law.Evolves db db') (other : t ≠ .videoTasks) (free : t ∉ e.tables) : db'.rows t = db.rows t := by
  have rows := h t
  rw [Effect.law_fixed other free] at rows
  exact rows.eq_of_fixed

theorem Effect.weaken {e' : Effect} (h : e.law.Evolves db db') (kinds : ∀ k ∈ e.kinds, k ∈ e'.kinds)
    (tables : ∀ t ∈ e.tables, t ∈ e'.tables) (given : ∀ c, e'.given c → e.given c) (fresh : ∀ c, e.fresh c → e'.fresh c)
    (gone : ∀ c, e.gone c → e'.gone c) : e'.law.Evolves db db' := by
  refine Effect.evolves_of (Law.Evolves.mono (h .videoTasks) (fun t t' moves known => ?_) (fun t => fresh t.core) fun t => gone t.core)
    fun t other free => Effect.same_rows h other fun listed => free (tables t listed)
  obtain ⟨k, mem, move⟩ := moves (given t.core known)
  exact ⟨k, kinds k mem, move⟩

/-- An effect that names no change of tasks. -/
structure Effect.Quiet (e : Effect) : Prop where
  kinds : e.kinds = []
  given : ∀ c, e.given c
  fresh : ∀ c, ¬ e.fresh c
  gone : ∀ c, ¬ e.gone c

theorem Effect.same_tasks (h : e.law.Evolves db db') (quiet : e.Quiet) : db'.tasks = db.tasks := by
  have rows : (Law.fixed : Law Task).Evolves db.tasks db'.tasks := by
    refine Law.Evolves.mono (h .videoTasks) (fun t t' moves => ?_) (fun t => quiet.fresh t.core) fun t => quiet.gone t.core
    obtain ⟨k, mem, -⟩ := moves (quiet.given t.core)
    rw [quiet.kinds] at mem
    cases mem
  exact rows.eq_of_fixed

/-- Only rows that name a task are deleted with it. -/
theorem cascade_parent {r : t.Row} {k : Ref Tbl} (mem : k ∈ Tbl.refs t r) (cascade : k.cascade = true) :
    k.parent = .videoTasks := by
  have all : (Tbl.refs t r).all (fun k => !k.cascade || k.parent == .videoTasks) = true := by
    cases t <;> simp [Tbl.refs, Tbl.ref, Function.comp_def]
  have this := List.all_eq_true.mp all k mem
  simpa [cascade] using this

theorem cascade_child {r : t.Row} {k : Ref Tbl} (mem : k ∈ Tbl.refs t r) (cascade : k.cascade = true) :
    t = .taskRemoteRuns ∨ t = .taskNodeAssets := by
  by_contra other
  have all : (Tbl.refs t r).all (fun k => !k.cascade) = true := by
    cases t <;> first | (simp [Tbl.refs, Tbl.ref, Function.comp_def]; done) | exact absurd (by simp) other
  have this := List.all_eq_true.mp all k mem
  simp [cascade] at this

section
variable {t : Tbl} {sel : Database → t.Row → Bool} {db db' : Database} {n : Nat}

/-- What is removed from a table are the selected rows. -/
theorem remove_rows (sel : t.Row → Bool) : (db.remove t sel).rows t = (db.rows t).filter fun r => !sel r := by
  refine DB.rows_remove_self fun r _ k mem parent => ?_
  by_contra cascade
  rw [Bool.not_eq_false] at cascade
  have fromTasks : t = .videoTasks := parent.symm.trans (cascade_parent mem cascade)
  rcases cascade_child mem cascade with child | child <;> rw [fromTasks] at child <;> cases child

/-- Only tasks take rows of other tables with them. -/
theorem remove_others (db : Database) (sel : t.Row → Bool) (parent : t ≠ .videoTasks)
    (other : t' ≠ t) : (db.remove t sel).rows t' = db.rows t' := by
  refine DB.rows_remove_of_ne other fun r _ k mem same => ?_
  by_contra cascade
  rw [Bool.not_eq_false] at cascade
  exact parent (same.symm.trans (cascade_parent mem cascade))

/-- The rows of a remote run go with its task. -/
theorem remove_tasks_others (db : Database) (sel : Task → Bool) (other : t' ≠ .videoTasks) (run : t' ≠ .taskRemoteRuns)
    (asset : t' ≠ .taskNodeAssets) : (db.remove .videoTasks sel).rows t' = db.rows t' := by
  refine DB.rows_remove_of_ne other fun r _ k mem _ => ?_
  by_contra cascade
  rw [Bool.not_eq_false] at cascade
  exact (cascade_child mem cascade).elim run asset

/-- A DELETE leaves the rows it does not select. -/
theorem delete_rows (applied : (Dml.delete t sel : Dml).apply db = .ok (n, db')) :
    db'.rows t = (db.rows t).filter fun r => !sel db r := by
  obtain ⟨rfl, -⟩ := apply_delete applied
  exact remove_rows (sel db)

/-- Only a DELETE of tasks reaches other tables. -/
theorem delete_others (applied : (Dml.delete t sel : Dml).apply db = .ok (n, db')) (parent : t ≠ .videoTasks)
    (other : t' ≠ t) : db'.rows t' = db.rows t' := by
  obtain ⟨rfl, -⟩ := apply_delete applied
  exact remove_others db (sel db) parent other

theorem delete_tasks_others {sel : Database → Task → Bool} (applied : (Dml.delete Tbl.videoTasks sel : Dml).apply db = .ok (n, db'))
    (other : t' ≠ .videoTasks) (run : t' ≠ .taskRemoteRuns) (asset : t' ≠ .taskNodeAssets) :
    db'.rows t' = db.rows t' := by
  obtain ⟨rfl, -⟩ := apply_delete applied
  exact remove_tasks_others db (sel db) other run asset

theorem delete_tasks_runs {sel : Database → Task → Bool} (applied : (Dml.delete Tbl.videoTasks sel : Dml).apply db = .ok (n, db')) :
    db'.remoteRuns = db.remoteRuns.filter fun r => db'.tasks.any (·.taskID == r.taskID) := by
  obtain ⟨rfl, -⟩ := apply_delete applied
  have tasks : (db.put Tbl.videoTasks ((db Tbl.videoTasks).filter fun t => !sel db t)).rows .videoTasks
      = Database.tasks (db.remove .videoTasks (sel db)) := by
    rw [DB.rows_put_self, Database.tasks, remove_rows]
    rfl
  have same : (db.put Tbl.videoTasks ((db Tbl.videoTasks).filter fun t => !sel db t)).rows .taskRemoteRuns = db.remoteRuns :=
    DB.rows_put_of_ne _ (by decide)
  show List.filter _ ((db.put Tbl.videoTasks ((db Tbl.videoTasks).filter fun t => !sel db t)).rows .taskRemoteRuns) = _
  rw [same]
  refine List.filter_congr fun r _ => ?_
  have kept : (db.put Tbl.videoTasks ((db Tbl.videoTasks).filter fun t => !sel db t)).resolves
      { parent := .videoTasks, id := r.taskID, cascade := true } =
      (Database.tasks (db.remove .videoTasks (sel db))).any (·.taskID == r.taskID) := by
    rw [← tasks]
    rfl
  rw [← kept]
  simp [schema, Tbl.refs, Tbl.ref]

end

section
variable {e : Effect}

theorem effect_tasks {sel : Database → Task → Bool} {set : Database → Task → Task}
    (h : ∀ db t, sel db t = true → e.moves t (set db t)) : Obeys e.law (.update Tbl.videoTasks sel set) := obeys_update h

/-- A statement on one of the other tables. -/
@[simp] theorem effect_table {w : Dml} (h : ¬ w.table = .videoTasks ∧ w.table ∈ e.tables) : Obeys e.law w := by
  refine obeys_of_any (Effect.law_any h.1 h.2) fun t' r k mem parent cascade => ?_
  exact absurd (parent.symm.trans (cascade_parent mem cascade)) h.1

/-! ## Shared parts -/

theorem writes_tasks {sel : Database → Task → Bool} {set : Database → Task → Task} (h : ∀ db t, sel db t = true → e.moves t (set db t)) :
    (exec (.update Tbl.videoTasks sel set) : Prog Nat).Writes (Obeys e.law) := writes_exec.mpr (effect_tasks h)

variable {o : Options} {callbackID code message nodeID owner requestedBy
  status taskID upstreamTaskID : String} {now ttl : Int} {r : RemoteRun}

@[simp] theorem writes_rebalance (mem : .rank ∈ e.kinds) : (rebalance o now).Writes (Obeys e.law) := by
  refine writes_bind (writes_tasks fun db t hit _ => ⟨.rank, mem, ?_⟩) fun _ => writes_pure
  simp only [Bool.and_eq_true, Option.isNone_iff_eq_none] at hit
  exact .rank (ranked o.protectedSlots db t) hit.1 hit.2

@[simp] theorem writes_callback (mem : .callbackDeliveries ∈ e.tables) :
    (createCallbackDelivery callbackID taskID status now).Writes (Obeys e.law) :=
  writes_createCallbackDelivery fun _ => effect_table (by simp [mem])

@[simp] theorem writes_failDelivered (kind : .undeliver ∈ e.kinds) (mem : .callbackDeliveries ∈ e.tables) :
    (failDeliveredTask callbackID taskID message now).Writes (Obeys e.law) := by
  refine writes_bind (writes_tasks fun db t hit _ => ⟨.undeliver, kind, ?_⟩) fun n => by simp [mem]
  simp only [Bool.and_eq_true, beq_iff_eq] at hit
  exact .undeliver hit.2

@[simp] theorem writes_deletionState (kind : .note ∈ e.kinds) {state : DeletionState} :
    (setDeletionState taskID state now).Writes (Obeys e.law) :=
  writes_bind (writes_tasks fun _ _ _ _ => ⟨.note, kind, .note⟩) fun _ => writes_pure

theorem lawful_fail {L : Laws schema} {α : Type} {err : Err} : Lawful L (direct (.fail err : Prog α)) := lawful_direct writes_fail

theorem lawful_ite {L : Laws schema} {α : Type} {c d : Call α} {P : Prop} [Decidable P] (hc : Lawful L c) (hd : Lawful L d) :
    Lawful L (if P then c else d) := by
  split
  · exact hc
  · exact hd

/-! ## Owner and administrator -/

def cancelQueuedEffect : Effect := { kinds := [.cancelQueued, .rank], tables := [.callbackDeliveries] }

theorem cancelQueued_lawful : Lawful cancelQueuedEffect.law (cancelQueued o owner taskID callbackID now) := by
  refine lawful_immediate (writes_bind writes_query fun t => writes_bind writes_require fun _ => ?_)
  refine writes_bind (writes_tasks fun db t hit _ => ⟨.cancelQueued, by decide, ?_⟩) fun n => writes_bind writes_require fun _ =>
    writes_bind (writes_rebalance (by decide)) fun _ => by simp [cancelQueuedEffect]
  simp only [Bool.and_eq_true, beq_iff_eq] at hit
  have queued : t.status.isQueued = true := by rw [hit.2]; rfl
  exact .cancelQueued queued

/-- The tables of a deletion. -/
def deletionTables : List Tbl :=
  [.artifactDeletionJobs, .artifactDeletionItems, .artifactLocations, .taskArtifacts, .idempotencyKeys]

/-- A deletion of a task that its caller has seen to be over. -/
def requestTaskDeletionEffect (taskID : String) : Effect where
  kinds := [.delete, .deleteLive]
  tables := deletionTables
  given c := c.taskID = taskID → c.status.isTerminal = true ∨ c.Revived

theorem delete_moves {kinds : List Kind} {t t' : Task} (undeleted : t.deletedAt = none) (ended : .delete ∈ kinds)
    (live : t.status.isTerminal = false → t.core.Revived ∧ .deleteLive ∈ kinds)
    {time : Int} (row : t'.core = { t.core.next with deletedAt := some time }) :
    ∃ k ∈ kinds, CoreMove t.core k t'.core := by
  rw [row]
  cases isOver : t.status.isTerminal with
  | true => exact ⟨.delete, ended, .delete time undeleted isOver⟩
  | false => exact ⟨.deleteLive, (live isOver).2, .deleteLive time undeleted (live isOver).1⟩

/-- The deletion of a task under an effect that allows it. -/
theorem writes_requestTaskDeletion (ended : .delete ∈ e.kinds) (tables : ∀ t ∈ deletionTables, t ∈ e.tables)
    (live : ∀ c, e.given c → c.taskID = taskID → c.status.isTerminal = false → c.Revived ∧ .deleteLive ∈ e.kinds)
    {uuid : Nat → String} {reason : DeletionReason} :
    (requestTaskDeletionBody uuid taskID reason requestedBy now).Writes (Obeys e.law) := by
  simp only [deletionTables, List.forall_mem_cons] at tables
  refine writes_bind writes_query fun t => writes_bind writes_require fun _ => writes_bind writes_select fun items => ?_
  refine writes_bind (by simp [tables]) fun _ => writes_bind (writes_forEach fun c _ => by simp [tables]) fun _ => ?_
  refine writes_bind (by simp [tables]) fun _ => writes_bind (by simp [tables]) fun _ => writes_bind (by simp [tables]) fun _ => ?_
  refine writes_bind (writes_tasks fun db t hit known => ?_) fun _ => by simp
  simp only [Bool.and_eq_true, beq_iff_eq, Option.isNone_iff_eq_none] at hit
  exact delete_moves hit.2 ended (live t.core known hit.1) rfl

theorem requestTaskDeletion_lawful {uuid : Nat → String} {reason : DeletionReason} :
    Lawful (requestTaskDeletionEffect taskID).law (requestTaskDeletion uuid taskID reason requestedBy now) := by
  refine lawful_immediate (writes_requestTaskDeletion (by simp [requestTaskDeletionEffect]) (fun _ => id) fun c known same live => ?_)
  rcases known same with isOver | revived
  · rw [isOver] at live
    cases live
  · exact ⟨revived, by simp [requestTaskDeletionEffect]⟩

def retryResultUploadEffect : Effect := { kinds := [.retry, .retryDeleted], tables := [.resultUploadJobs] }

/-- Another round of uploads under an effect that allows it. -/
theorem writes_retryResultUpload (live : .retry ∈ e.kinds) (jobs : .resultUploadJobs ∈ e.tables)
    (deleted : ∀ c, e.given c → c.taskID = taskID → c.deletedAt ≠ none → .retryDeleted ∈ e.kinds) :
    (retryResultUploadBody taskID now).Writes (Obeys e.law) := by
  refine writes_orElse (writes_bind (by simp [jobs]) fun _ => writes_bind (writes_oneRow _) fun _ => ?_) fun _ => writes_fail
  refine writes_bind (writes_tasks fun db t hit known => ?_) fun _ => writes_oneRow _
  simp only [Bool.and_eq_true, beq_iff_eq] at hit
  by_cases undeleted : t.deletedAt = none
  · exact ⟨.retry, live, .retry hit.1.1.2 hit.1.2 hit.2 undeleted⟩
  · exact ⟨.retryDeleted, deleted t.core known hit.1.1.1 undeleted,
      .retryDeleted hit.1.1.2 hit.1.2 hit.2 (Option.isSome_iff_ne_none.mpr undeleted)⟩

/-! ## Official workers -/

theorem officialActive_guard {t : Task} (h : officialActive taskID nodeID t = true) :
    t.protocolVersion = some .official ∧ t.upstreamSlotActive = true := by
  simp only [officialActive, Bool.and_eq_true, beq_iff_eq] at h
  exact ⟨h.1.2, h.1.1.2⟩

/-- An UPDATE of one task that changes nothing of its core. -/
theorem writes_note {sel : Database → Task → Bool} {set : Database → Task → Task} (same : ∀ db t, (set db t).core = t.core.next) :
    (exec (.update Tbl.videoTasks sel set) >>= oneRow).Writes (Obeys ({ kinds := [.note] } : Effect).law) :=
  writes_bind (writes_tasks fun db t _ _ => ⟨.note, by decide, same db t ▸ .note⟩) fun _ => writes_oneRow _

theorem bindOfficialTask_lawful :
    Lawful ({ kinds := [.bindOfficial] } : Effect).law (bindOfficialTask taskID nodeID upstreamTaskID now) := by
  refine lawful_direct (writes_bind (writes_tasks fun _ t hit _ => ⟨.bindOfficial, by decide, ?_⟩) fun _ => writes_oneRow _)
  simp only [Bool.and_eq_true, beq_iff_eq] at hit
  exact .bindOfficial (officialActive_guard hit.1).1 (officialActive_guard hit.1).2 hit.2

/-- What the end of an official task writes. -/
def officialEndTables : List Tbl := [.taskStages, .resultUploadJobs, .callbackDeliveries]

theorem markOfficialGenerated_lawful {originURL ratio : String} {uploadJob : Option UploadJob} :
    Lawful ({ kinds := [.generate], tables := officialEndTables } : Effect).law
      (markOfficialGenerated taskID nodeID originURL ratio uploadJob callbackID now) := by
  refine lawful_immediate (writes_bind (writes_tasks fun _ t hit _ => ⟨.generate, by decide, ?_⟩) fun _ => ?_)
  · simp only [Bool.and_eq_true, Bool.or_eq_true, beq_iff_eq] at hit
    exact .generate originURL _ uploadJob.isSome (officialActive_guard hit.1).1 (officialActive_guard hit.1).2 hit.2
  · cases uploadJob <;> simp [officialEndTables]

theorem markOfficialFailed_lawful {feedback : Option UpstreamFeedback} :
    Lawful ({ kinds := [.failOfficial], tables := officialEndTables } : Effect).law
      (markOfficialFailed taskID nodeID code message feedback callbackID now) := by
  refine lawful_immediate (writes_bind (writes_tasks fun _ t hit _ => ⟨.failOfficial, by decide, ?_⟩) fun _ => by simp [officialEndTables])
  simp only [Bool.and_eq_true, Bool.or_eq_true, beq_iff_eq] at hit
  exact .failOfficial code (officialActive_guard hit.1).1 (officialActive_guard hit.1).2 hit.2

/-! ## Remote workers -/

/-- A change of the remote run alone. -/
def runEffect : Effect := { kinds := [], tables := [.taskRemoteRuns] }

theorem bindRemoteTask_lawful {id : String} :
    Lawful ({ kinds := [.bindRemote], tables := [.taskRemoteRuns] } : Effect).law (bindRemoteTask r id now) := by
  refine lawful_ite lawful_fail (lawful_immediate (writes_bind (by simp [leasedUpdate]) fun _ => ?_))
  refine writes_bind (writes_tasks fun _ t hit _ => ⟨.bindRemote, by decide, ?_⟩) fun _ => writes_oneRow _
  simp only [Bool.and_eq_true, beq_iff_eq] at hit
  exact .bindRemote hit.1.2 hit.2

theorem observeRemoteTask_lawful {status : RemoteStatus} {cancelState : CancelState} :
    Lawful ({ kinds := [.resume], tables := [.taskRemoteRuns] } : Effect).law (observeRemoteTask r status cancelState now) := by
  refine lawful_ite lawful_fail (lawful_ite lawful_fail
    (lawful_immediate (writes_bind (by simp [leasedUpdate]) fun _ => ?_)))
  split
  · refine writes_bind (writes_tasks fun _ t hit _ => ⟨.resume, by decide, ?_⟩) fun _ => writes_pure
    simp only [Bool.and_eq_true, beq_iff_eq] at hit
    exact .resume hit.2
  · exact writes_pure

theorem requestRemoteCancel_lawful :
    Lawful ({ kinds := [.askCancel], tables := [.taskRemoteRuns] } : Effect).law (requestRemoteCancel taskID now) := by
  refine lawful_immediate (writes_bind writes_query fun r => ?_)
  split
  · simp
  split
  · exact writes_fail
  refine writes_bind (writes_tasks fun _ t hit _ => ⟨.askCancel, by decide, ?_⟩) fun _ => by simp
  simp only [Bool.and_eq_true, beq_iff_eq] at hit
  exact .askCancel hit.2 (.inl hit.1.1.2)

/-- What the end of a remote run writes. -/
def remoteEndTables : List Tbl := [.taskRemoteRuns, .resultUploadJobs, .callbackDeliveries]

theorem completeRemoteRun_lawful {c : RemoteCompletion} :
    Lawful ({ kinds := [.complete], tables := remoteEndTables } : Effect).law (completeRemoteRun r c callbackID now) := by
  refine lawful_ite lawful_fail (lawful_ite lawful_fail
    (lawful_immediate (writes_bind (by simp [leasedUpdate, remoteEndTables]) fun _ => ?_)))
  refine writes_bind (writes_tasks fun _ t hit _ => ⟨.complete, by decide, ?_⟩) fun _ => writes_bind (writes_oneRow _) fun _ => ?_
  · simp only [Bool.and_eq_true, beq_iff_eq, Option.isNone_iff_eq_none] at hit
    exact .complete c hit.1.1.2 hit.1.2 hit.2
  · split <;> (try split) <;> simp [remoteEndTables]

end

end MinimaxProxy.Store
