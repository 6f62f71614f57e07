import MinimaxProxy.Store.Creation
import MinimaxProxy.Store.Purge

/-!
# Requests of one owner

What a create, cancel or delete request of one API key leaves alone: the rows of the tasks of
other keys. Only the ranking of the queue reaches those, and it changes nothing but the lock of
queued tasks. Ownership is read once, and the statements after it act by task id; a task id
names one task, so they stay with the owner.
-/

namespace MinimaxProxy.Store
open Sql Sql.Prog

variable {d db : Database} {input : NewTask} {keyHash : String} {now : Int} {o : Options} {t u : Task} {tbl : Tbl} {ρ : Type}

/-- The tables with rows of a task; a cleanup job may have items of several tasks. -/
def taskTables : List Tbl :=
  [.taskStages, .stageAttempts, .taskRemoteRuns, .callbackDeliveries, .idempotencyKeys, .taskArtifacts, .artifactLocations,
    .artifactDeletionItems, .taskInputSpoolFiles, .taskNodeAssets, .resultUploadJobs, .nodeDispatchBarriers]

/-- What the ranking of the queue may do to a task. -/
inductive Reranked (t : Task) : Task → Prop
  | same : Reranked t t
  | ranked (locked : Bool) (updatedAt version : Int) : t.status.isQueued = true →
      Reranked t { t with status := if locked then .queuedLocked else .queuedOpen, cancelLocked := locked
                          updatedAt := updatedAt, version := version }

theorem Reranked.trans {v : Task} (first : Reranked t u) (last : Reranked u v) : Reranked t v := by
  cases first with
  | same => exact last
  | ranked locked updatedAt version queued =>
    cases last with
    | same => exact .ranked locked updatedAt version queued
    | ranked locked updatedAt version _ => exact .ranked locked updatedAt version queued

theorem Reranked.owner (h : Reranked t u) : u.apiKeyID = t.apiKeyID := by
  cases h <;> rfl

theorem Reranked.taskID (h : Reranked t u) : u.taskID = t.taskID := by
  cases h <;> rfl

/-- The tasks of other keys are as they were, up to the ranking, and so are their rows. -/
structure Isolated (owner : String) (db db' : Database) : Prop where
  tasks : List.Forall₂ Reranked (db.tasks.filter (·.apiKeyID != owner)) (db'.tasks.filter (·.apiKeyID != owner))
  rows : ∀ t ∈ db.tasks, t.apiKeyID ≠ owner → ∀ tbl ∈ taskTables,
    (db'.rows tbl).filter (owned db' t.taskID tbl) = (db.rows tbl).filter (owned db t.taskID tbl)

/-! ## Rows that statements leave alone -/

/-- The row belonged to a task of another key at the start. -/
def foreign (owner : String) (start : Database) (tbl : Tbl) (r : tbl.Row) : Bool :=
  decide (tbl ∈ taskTables) && start.tasks.any fun t => t.apiKeyID != owner && owned start t.taskID tbl r

/-- The rows of tasks of other keys are as at the start. -/
structure Spares (owner : String) (start d : Database) : Prop where
  rows : ∀ tbl, tbl ≠ .videoTasks →
    (d.rows tbl).filter (foreign owner start tbl) = (start.rows tbl).filter (foreign owner start tbl)
  tasks : List.Forall₂ Reranked (start.tasks.filter (·.apiKeyID != owner)) (d.tasks.filter (·.apiKeyID != owner))

theorem forall₂_reranked {rows : List Task} : List.Forall₂ Reranked rows rows := by
  induction rows with
  | nil => exact .nil
  | cons t rest ih => exact .cons .same ih

theorem forall₂_reranked_trans {a b c : List Task} (first : List.Forall₂ Reranked a b) (last : List.Forall₂ Reranked b c) :
    List.Forall₂ Reranked a c := by
  induction first generalizing c with
  | nil => exact last
  | cons head _ ih =>
    cases last with
    | cons head' tail => exact .cons (head.trans head') (ih tail)

theorem forall₂_reranked_update {owner : String} {sel : Task → Bool} {set : Task → Task} {rows : List Task}
    (ranks : ∀ t, sel t = true → Reranked t (set t)) :
    List.Forall₂ Reranked (rows.filter (·.apiKeyID != owner)) ((updateRows sel set rows).filter (·.apiKeyID != owner)) := by
  induction rows with
  | nil => exact .nil
  | cons t rest ih =>
    have head : Reranked t (if sel t then set t else t) := by
      split
      · exact ranks t ‹_›
      · exact .same
    rw [updateRows, List.map_cons, List.filter_cons, List.filter_cons, head.owner]
    split
    · exact .cons head ih
    · exact ih

theorem exists_of_forall₂_reranked {a b : List Task} (h : List.Forall₂ Reranked a b) (mem : t ∈ b) :
    ∃ u ∈ a, Reranked u t := by
  induction h with
  | nil => cases mem
  | cons head _ ih =>
    rcases List.mem_cons.mp mem with rfl | mem
    · exact ⟨_, List.mem_cons_self, head⟩
    · obtain ⟨u, listed, rank⟩ := ih mem
      exact ⟨u, List.mem_cons_of_mem _ listed, rank⟩

/-- A row that was one of others when the list was filtered is in it. -/
theorem any_eq_of_filter_eq {p q : ρ → Bool} {rows rows' : List ρ} (same : rows'.filter q = rows.filter q)
    (among : ∀ r, p r = true → q r = true) : rows'.any p = rows.any p := by
  have through (l : List ρ) : l.any p = (l.filter q).any p := by
    rw [List.any_filter]
    refine congrArg l.any (funext fun r => ?_)
    cases hit : p r with
    | false => simp
    | true => simp [among r hit]
  rw [through, same, ← through]

/-- Changed rows that were and are the owner's. -/
theorem filter_updateRows {p sel : ρ → Bool} {set : ρ → ρ} {rows : List ρ}
    (own : ∀ r ∈ rows, sel r = true → p r = false ∧ p (set r) = false) : (updateRows sel set rows).filter p = rows.filter p := by
  induction rows with
  | nil => rfl
  | cons r rest ih =>
    have tail := ih fun s mem => own s (List.mem_cons_of_mem r mem)
    rw [updateRows, List.map_cons, List.filter_cons, List.filter_cons, ← updateRows, tail]
    by_cases hit : sel r = true
    · obtain ⟨before, after⟩ := own r List.mem_cons_self hit
      simp [hit, before, after]
    · simp [hit]

theorem Spares.refl (owner : String) (start : Database) : Spares owner start start := ⟨fun _ _ => rfl, forall₂_reranked⟩

section
variable {owner : String} {start d d' : Database} {n : Nat} (h : Spares owner start d)
include h

/-- A statement on one table, whose rows of others stay. -/
theorem Spares.of_table (notTasks : tbl ≠ .videoTasks) (others : ∀ t, t ≠ tbl → d'.rows t = d.rows t)
    (rows : (d'.rows tbl).filter (foreign owner start tbl) = (d.rows tbl).filter (foreign owner start tbl)) : Spares owner start d' where
  rows := fun t other => by
    by_cases same : t = tbl
    · subst same
      exact rows.trans (h.rows t other)
    · rw [others t same]
      exact h.rows t other
  tasks := by
    rw [show d'.tasks = d.tasks from others .videoTasks notTasks.symm]
    exact h.tasks

theorem Spares.append (notTasks : tbl ≠ .videoTasks) (others : ∀ t, t ≠ tbl → d'.rows t = d.rows t) {new : List tbl.Row}
    (rows : d'.rows tbl = d.rows tbl ++ new) (own : ∀ r ∈ new, foreign owner start tbl r = false) : Spares owner start d' := by
  refine h.of_table notTasks others ?_
  have none : new.filter (foreign owner start tbl) = [] := List.filter_eq_nil_iff.mpr fun r mem => by simp [own r mem]
  rw [rows, List.filter_append, none, List.append_nil]

theorem Spares.insert (notTasks : tbl ≠ .videoTasks) {new : Database → Nat → List tbl.Row}
    (own : ∀ seq, ∀ r ∈ new d seq, foreign owner start tbl r = false)
    (applied : (Dml.insert tbl new : Dml).apply d = .ok (n, d')) : Spares owner start d' := by
  have others (t : Tbl) (other : t ≠ tbl) : d'.rows t = d.rows t := apply_insert_rows_of_ne applied other
  obtain ⟨tab, rfl, rows, -⟩ := apply_insert applied
  exact h.append notTasks others ((DB.rows_put_self ..).trans rows) (own _)

theorem Spares.update (notTasks : tbl ≠ .videoTasks) {sel : Database → tbl.Row → Bool} {set : Database → tbl.Row → tbl.Row}
    (own : ∀ r ∈ d.rows tbl, sel d r = true → foreign owner start tbl r = false ∧ foreign owner start tbl (set d r) = false)
    (applied : (Dml.update tbl sel set : Dml).apply d = .ok (n, d')) : Spares owner start d' := by
  refine h.of_table notTasks (fun t other => apply_update_rows_of_ne applied other) ?_
  obtain ⟨tab, rfl, rows, -⟩ := apply_update applied
  rw [DB.rows_put_self, rows]
  exact filter_updateRows own

theorem Spares.delete (notTasks : tbl ≠ .videoTasks) {sel : Database → tbl.Row → Bool}
    (own : ∀ r ∈ d.rows tbl, sel d r = true → foreign owner start tbl r = false)
    (applied : (Dml.delete tbl sel : Dml).apply d = .ok (n, d')) : Spares owner start d' := by
  refine h.of_table notTasks (fun t other => delete_others applied notTasks other) ?_
  rw [delete_rows applied, List.filter_filter]
  refine List.filter_congr fun r mem => ?_
  cases hit : sel d r with
  | false => simp
  | true => simp [own r mem hit]

/-- A statement on rows of the owner's tasks. -/
theorem Spares.update_tasks {sel : Database → Task → Bool} {set : Database → Task → Task}
    (own : ∀ t ∈ d.tasks, sel d t = true → t.apiKeyID = owner ∧ (set d t).apiKeyID = owner)
    (applied : (Dml.update Tbl.videoTasks sel set : Dml).apply d = .ok (n, d')) : Spares owner start d' where
  rows := fun tbl other => by
    rw [apply_update_rows_of_ne applied other]
    exact h.rows tbl other
  tasks := by
    obtain ⟨tab, rfl, rows, -⟩ := apply_update applied
    have same : (updateRows (sel d) (set d) d.tasks).filter (·.apiKeyID != owner) = d.tasks.filter (·.apiKeyID != owner) :=
      filter_updateRows fun t mem hit => by
        obtain ⟨before, after⟩ := own t mem hit
        exact ⟨bne_eq_false_iff_eq.mpr before, bne_eq_false_iff_eq.mpr after⟩
    rw [Database.tasks.eq_def (d.put Tbl.videoTasks tab), DB.rows_put_self, rows]
    exact same ▸ h.tasks

/-- The tasks of other keys keep their ids. -/
theorem Spares.foreign_task (mem : t ∈ d.tasks) (other : t.apiKeyID ≠ owner) :
    ∃ u ∈ start.tasks, u.apiKeyID ≠ owner ∧ u.taskID = t.taskID := by
  obtain ⟨u, listed, rank⟩ := exists_of_forall₂_reranked h.tasks (List.mem_filter.mpr ⟨mem, bne_iff_ne.mpr other⟩)
  obtain ⟨stored, foreign⟩ := List.mem_filter.mp listed
  exact ⟨u, stored, bne_iff_ne.mp foreign, rank.taskID.symm⟩

end

/-! ## The rows of a task -/

theorem owned_foreign {owner : String} {start : Database} (mem : t ∈ start.tasks) (other : t.apiKeyID ≠ owner)
    (listed : tbl ∈ taskTables) {r : tbl.Row} (own : owned start t.taskID tbl r = true) : foreign owner start tbl r = true :=
  Bool.and_eq_true_iff.mpr ⟨decide_eq_true listed, List.any_eq_true.mpr ⟨t, mem, by simp [other, own]⟩⟩

/-- Which rows belong to a task of another key is read from rows that stay. -/
theorem Spares.owned_eq {owner : String} {start : Database} (h : Spares owner start d) (mem : t ∈ start.tasks)
    (other : t.apiKeyID ≠ owner) (listed : tbl ∈ taskTables) : owned d t.taskID tbl = owned start t.taskID tbl := by
  have stages (id : String) : stageOf d t.taskID id = stageOf start t.taskID id :=
    any_eq_of_filter_eq (h.rows .taskStages nofun) fun s hit => owned_foreign mem other (by decide) (Bool.and_eq_true_iff.mp hit).1
  have artifacts (id : String) : (d.artifacts.any fun a => a.id == id && a.taskID == t.taskID)
      = start.artifacts.any fun a => a.id == id && a.taskID == t.taskID :=
    any_eq_of_filter_eq (h.rows .taskArtifacts nofun) fun a hit => owned_foreign mem other (by decide) (Bool.and_eq_true_iff.mp hit).2
  have copies (l : Location) : copyOf d t.taskID l = copyOf start t.taskID l := artifacts l.artifactID
  have located (id : String) : (d.locations.any fun l => l.id == id && copyOf d t.taskID l)
      = start.locations.any fun l => l.id == id && copyOf start t.taskID l := by
    rw [funext fun l => congrArg _ (copies l)]
    exact any_eq_of_filter_eq (h.rows .artifactLocations nofun) fun l hit =>
      owned_foreign mem other (by decide) (Bool.and_eq_true_iff.mp hit).2
  funext r
  simp only [taskTables, List.mem_cons, List.not_mem_nil, or_false] at listed
  rcases listed with rfl | rfl | rfl | rfl | rfl | rfl | rfl | rfl | rfl | rfl | rfl | rfl
  case inr.inl => exact stages _
  case inr.inr.inr.inr.inr.inr.inl => exact copies r
  case inr.inr.inr.inr.inr.inr.inr.inl => simp only [owned, itemOf, artifacts, located]
  all_goals rfl

theorem Spares.isolated {owner : String} {start : Database} (h : Spares owner start d) : Isolated owner start d where
  tasks := h.tasks
  rows := fun t mem other tbl listed => by
    have through (rows : List tbl.Row) : rows.filter (owned start t.taskID tbl)
        = (rows.filter (foreign owner start tbl)).filter (owned start t.taskID tbl) := by
      rw [List.filter_filter]
      refine List.filter_congr fun r _ => ?_
      cases own : owned start t.taskID tbl r with
      | false => simp
      | true => simp [owned_foreign mem other listed own]
    have notTasks : tbl ≠ .videoTasks := by
      rintro rfl
      exact absurd listed (by decide)
    rw [h.owned_eq mem other listed, through, h.rows tbl notTasks, ← through]

/-! ## Statements by task id -/

/-- The id names no task of another key. -/
def Mine (owner : String) (db : Database) (taskID : String) : Prop := ∀ t ∈ db.tasks, t.taskID = taskID → t.apiKeyID = owner

theorem Mine.of_mem {owner : String} (mem : t ∈ db.tasks) (own : t.apiKeyID = owner) : Mine owner db t.taskID :=
  fun u stored same => by rw [task_unique stored mem same, own]

theorem Mine.of_find {owner taskID : String}
    (found : (db.tasks.find? fun t => t.taskID == taskID && t.apiKeyID == owner && t.deletedAt.isNone && t.expiresAt > now) = some t) :
    Mine owner db taskID := by
  have hit := List.find?_some found
  simp only [Bool.and_eq_true, beq_iff_eq] at hit
  exact hit.1.1.1 ▸ Mine.of_mem (List.mem_of_find?_eq_some found) hit.1.1.2

/-- A statement that leaves the rows of others alone. -/
def Safe (owner : String) (start : Database) (w : Dml) : Prop :=
  ∀ d n d', w.apply d = .ok (n, d') → Spares owner start d → Spares owner start d'

theorem Spares.of_writes {owner : String} {start d' : Database} {α : Type} {a : α} {p : Prog α} (h : Spares owner start d)
    (safe : p.Writes (Safe owner start)) (out : p.Returns d a d') : Spares owner start d' :=
  safe.yields (R := fun d d' => Spares owner start d → Spares owner start d') (fun _ h => h) (fun _ _ _ ab bc h => bc (ab h))
    (fun _ each _ _ _ applied => each _ _ _ applied) out h

/-- Ranking the queue reaches the tasks of all keys. -/
theorem writes_rebalance_safe {owner : String} {start : Database} (o : Options) (now : Int) :
    (rebalance o now).Writes (Safe owner start) := by
  refine writes_bind (writes_exec.mpr fun d _ d' applied h => ?_) fun _ => writes_pure
  refine ⟨fun tbl other => by rw [apply_update_rows_of_ne applied other]; exact h.rows tbl other, forall₂_reranked_trans h.tasks ?_⟩
  obtain ⟨tab, rfl, rows, -⟩ := apply_update applied
  rw [Database.tasks.eq_def (d.put Tbl.videoTasks tab), DB.rows_put_self, rows]
  refine forall₂_reranked_update fun t hit => ?_
  exact .ranked _ now (t.version + 1) (Bool.and_eq_true_iff.mp hit).2

section
variable {owner taskID : String} {start : Database} (mine : Mine owner start taskID)
include mine

/-- A row with the id in its column is not one of others. -/
theorem Mine.not_foreign {r : tbl.Row} (column : ∀ t ∈ start.tasks,
    t.apiKeyID ≠ owner → owned start t.taskID tbl r = true → t.taskID = taskID) :
    foreign owner start tbl r = false := by
  rw [Bool.eq_false_iff]
  intro found
  obtain ⟨t, mem, hit⟩ := List.any_eq_true.mp (Bool.and_eq_true_iff.mp found).2
  obtain ⟨other, own⟩ := Bool.and_eq_true_iff.mp hit
  exact bne_iff_ne.mp other (mine t mem (column t mem (bne_iff_ne.mp other) own))

theorem Mine.later (h : Spares owner start d) : Mine owner d taskID := by
  intro t mem named
  by_contra other
  obtain ⟨u, stored, foreign, same⟩ := h.foreign_task mem other
  exact foreign (mine u stored (same.trans named))

theorem Mine.safe_tasks {sel : Database → Task → Bool} {set : Database → Task → Task}
    (hits : ∀ d t, sel d t = true → t.taskID = taskID) (keeps : ∀ d t, (set d t).apiKeyID = t.apiKeyID) :
    Safe owner start (Dml.update Tbl.videoTasks sel set) := fun d _ _ applied h =>
  h.update_tasks (fun t mem hit => by
    have own := mine.later h t mem (hits d t hit)
    exact ⟨own, (keeps d t).trans own⟩) applied

theorem Mine.safe_insert (notTasks : tbl ≠ .videoTasks) {new : Database → Nat → List tbl.Row}
    (column : ∀ d seq, ∀ r ∈ new d seq, ∀ t ∈ start.tasks, owned start t.taskID tbl r = true → t.taskID = taskID) :
    Safe owner start (Dml.insert tbl new) := fun d _ _ applied h =>
  h.insert notTasks (fun seq r mem => mine.not_foreign fun t stored _ => column d seq r mem t stored) applied

/-- Rows of the id that are changed in other columns. -/
theorem Mine.safe_update (notTasks : tbl ≠ .videoTasks) {sel : Database → tbl.Row → Bool} {set : Database → tbl.Row → tbl.Row}
    (hits : ∀ d r, sel d r = true → ∀ t ∈ start.tasks, owned start t.taskID tbl r = true → t.taskID = taskID)
    (keeps : ∀ d r, foreign owner start tbl (set d r) = foreign owner start tbl r) :
    Safe owner start (Dml.update tbl sel set) := fun d _ _ applied h =>
  h.update notTasks (fun r _ hit => by
    have own := mine.not_foreign fun t stored _ => hits d r hit t stored
    exact ⟨own, (keeps d r).trans own⟩) applied

theorem Mine.safe_delete (notTasks : tbl ≠ .videoTasks) {sel : Database → tbl.Row → Bool}
    (hits : ∀ d r, sel d r = true → ∀ t ∈ start.tasks, owned start t.taskID tbl r = true → t.taskID = taskID) :
    Safe owner start (Dml.delete tbl sel) := fun d _ _ applied h =>
  h.delete notTasks (fun r _ hit => mine.not_foreign fun t stored _ => hits d r hit t stored) applied

theorem Mine.writes_callback (id status : String) (now : Int) :
    (createCallbackDelivery id taskID status now).Writes (Safe owner start) := by
  refine writes_bind writes_query fun t => ?_
  split
  · exact writes_pure
  · refine writes_bind (writes_exec.mpr (mine.safe_insert (by decide) fun d _ r mem u _ own => ?_)) fun _ => writes_pure
    have named : CallbackDelivery.taskID r = taskID := by
      split at mem
      · cases mem
      · rw [List.mem_singleton.mp mem]
    exact (beq_iff_eq.mp own).symm.trans named

theorem Mine.requestRemoteCancel {u : Unit} (out : (requestRemoteCancelBody taskID now).Returns start u d) : Spares owner start d := by
  refine (Spares.refl owner start).of_writes ?_ out
  have task : Safe owner start (Dml.update Tbl.videoTasks
      (fun _ (t : Task) => t.taskID == taskID && t.upstreamSlotActive && t.deletedAt.isNone && t.status.isTaken)
      fun _ t => cancellingTask now t) := by
    refine mine.safe_tasks (fun _ t hit => ?_) fun _ _ => rfl
    simp only [Bool.and_eq_true, beq_iff_eq] at hit
    exact hit.1.1.1
  have run : Safe owner start (Dml.update Tbl.taskRemoteRuns (fun _ (s : RemoteRun) => s.taskID == taskID)
      fun _ (s : RemoteRun) => { s with cancelState := .requested, nextPollAt := none, updatedAt := now }) :=
    mine.safe_update (by decide) (fun _ r hit t _ own => (beq_iff_eq.mp own).symm.trans (beq_iff_eq.mp hit)) fun _ _ => rfl
  refine writes_bind writes_query fun r => ?_
  split
  · split
    · exact writes_pure
    · exact writes_fail
  split
  · exact writes_fail
  exact writes_bind (writes_exec.mpr task) fun _ => writes_bind (writes_oneRow _) fun _ =>
    writes_bind (writes_exec.mpr run) fun _ => writes_pure

end

/-! ## Deletion -/

theorem copyOf_unique {a b : String} {l : Location} (first : copyOf db a l = true) (last : copyOf db b l = true) : a = b := by
  obtain ⟨x, memx, hitx⟩ := List.any_eq_true.mp first
  obtain ⟨y, memy, hity⟩ := List.any_eq_true.mp last
  simp only [Bool.and_eq_true, beq_iff_eq] at hitx hity
  obtain rfl := eq_of_key (parent_distinct (show Tbl.taskArtifacts ∈ parents by decide)) memx memy (hitx.1.trans hity.1.symm)
  exact hitx.2.symm.trans hity.2

theorem mem_deletionCandidates {taskID : String} {c : Artifact × Location} (mem : c ∈ deletionCandidates taskID db) :
    c.1 ∈ db.artifacts ∧ c.1.taskID = taskID ∧ c.2 ∈ db.locations ∧ c.2.artifactID = c.1.id := by
  rw [deletionCandidates, List.mem_insertionSort, List.mem_flatMap] at mem
  obtain ⟨a, listed, mem⟩ := mem
  obtain ⟨l, located, rfl⟩ := List.mem_map.mp mem
  simp only [List.mem_filter, Bool.and_eq_true, beq_iff_eq] at listed located
  exact ⟨listed.1, listed.2.1, located.1, located.2.1⟩

section
variable {owner taskID : String} {start d : Database} (mine : Mine owner start taskID)
include mine

/-- The copies of an artifact of the id, looked up while the deletion is under way. -/
theorem Mine.copy_not_foreign (h : Spares owner start d) {l : Location} (copy : copyOf d taskID l = true) :
    foreign owner start .artifactLocations l = false :=
  mine.not_foreign fun t mem other own => by
    have still : copyOf d t.taskID l = true := (congrFun
        (h.owned_eq mem other (show Tbl.artifactLocations ∈ taskTables by decide)) l).trans own
    exact copyOf_unique still copy

theorem Mine.item_not_foreign {c : Artifact × Location} (listed : c ∈ deletionCandidates taskID start) {i : DeletionItem}
    (artifact : i.artifactID = c.1.id) (location : i.locationID = c.2.id) : foreign owner start .artifactDeletionItems i = false :=
  mine.not_foreign fun t mem other own => by
    obtain ⟨isArtifact, named, isLocation, copy⟩ := mem_deletionCandidates listed
    have copied : copyOf start taskID c.2 = true := List.any_eq_true.mpr ⟨c.1, isArtifact, by simp [copy, named]⟩
    rcases Bool.or_eq_true_iff.mp own with hit | hit
    · obtain ⟨a, stored, hit⟩ := List.any_eq_true.mp hit
      have isOf : copyOf start t.taskID c.2 = true :=
        List.any_eq_true.mpr ⟨a, stored, by rwa [copy, ← artifact]⟩
      exact copyOf_unique isOf copied
    · obtain ⟨l, stored, hit⟩ := List.any_eq_true.mp hit
      simp only [Bool.and_eq_true, beq_iff_eq, location] at hit
      obtain rfl := eq_of_key (parent_distinct (show Tbl.artifactLocations ∈ parents by decide)) stored isLocation hit.1
      exact copyOf_unique hit.2 copied

theorem Mine.requestTaskDeletion {uuid : Nat → String} {reason : DeletionReason} {requestedBy : String} {job : DeletionJob}
    (out : (requestTaskDeletionBody uuid taskID reason requestedBy now).Returns start job d) : Spares owner start d := by
  obtain ⟨t, seen, found, guarded⟩ := returns_bind.mp out
  obtain ⟨-, same⟩ := returns_query.mp found
  obtain ⟨_, seen', undeleted, listing⟩ := returns_bind.mp guarded
  obtain ⟨-, same'⟩ := returns_require.mp undeleted
  obtain ⟨candidates, seen'', read, body⟩ := returns_bind.mp listing
  obtain ⟨isList, same''⟩ := returns_select.mp read
  have unchanged : seen'' = start := same''.trans (same'.trans same)
  have listed : candidates = deletionCandidates taskID start := by rw [isList, same', same]
  rw [unchanged] at body
  refine (Spares.refl owner start).of_writes ?_ body
  refine writes_bind (writes_exec.mpr ?_) fun _ => writes_bind (writes_forEach fun c mem => ?_) fun _ =>
    writes_bind (writes_exec.mpr ?_) fun _ => writes_bind (writes_exec.mpr ?_) fun _ => writes_bind (writes_exec.mpr ?_) fun _ =>
    writes_bind (writes_exec.mpr ?_) fun _ => writes_bind (writes_oneRow _) fun _ => writes_pure
  · exact fun d _ _ applied h => h.insert (by decide) (fun _ _ _ => rfl) applied
  · have candidate : c.1 ∈ deletionCandidates taskID start := listed ▸ List.fst_mem_of_mem_zipIdx mem
    refine writes_bind (writes_exec.mpr fun d _ _ applied h => h.insert (by decide) (fun _ i added => ?_) applied) fun _ => writes_pure
    rw [List.mem_singleton.mp added]
    exact mine.item_not_foreign candidate rfl rfl
  · exact fun d _ _ applied h => h.update (by decide) (fun l _ hit => by
      have own := mine.copy_not_foreign h (Bool.and_eq_true_iff.mp hit).1
      exact ⟨own, own⟩) applied
  · exact mine.safe_update (by decide) (fun _ a hit t _ own => by
      exact (beq_iff_eq.mp own).symm.trans (beq_iff_eq.mp (Bool.and_eq_true_iff.mp hit).1)) fun _ _ => rfl
  · exact mine.safe_delete (by decide) fun _ k hit t _ own => (beq_iff_eq.mp own).symm.trans (beq_iff_eq.mp hit)
  · exact mine.safe_tasks (fun _ t hit => beq_iff_eq.mp (Bool.and_eq_true_iff.mp hit).1) fun _ _ => rfl

end

/-! ## Cancel in the queue -/

theorem cancelQueued_spares {owner taskID callbackID : String} {action : Action} {start : Database}
    (out : (cancelQueuedBody o owner taskID callbackID now).Returns start action d) : Spares owner start d := by
  obtain ⟨t, seen, found, body⟩ := returns_bind.mp out
  obtain ⟨found, same⟩ := returns_query.mp found
  have mine : Mine owner start taskID := .of_find (elim_ok.mp found)
  rw [same] at body
  refine (Spares.refl owner start).of_writes ?_ body
  refine writes_bind writes_require fun _ => writes_bind (writes_exec.mpr ?_) fun _ => writes_bind writes_require fun _ =>
    writes_bind (writes_rebalance_safe o now) fun _ => writes_bind (mine.writes_callback _ _ _) fun _ => writes_pure
  exact mine.safe_tasks (fun _ t hit => beq_iff_eq.mp (Bool.and_eq_true_iff.mp hit).1) fun _ _ => rfl

/-! ## Create -/

/-- The idempotency keys of the owner name no task of another key. -/
def KeysOwned (owner : String) (db : Database) : Prop :=
  ∀ k ∈ db.rows Tbl.idempotencyKeys, IdempotencyKey.apiKeyID k = owner → Mine owner db (IdempotencyKey.taskID k)

theorem Inserted.mine {owner : String} {row : Task} {start mid : Database}
    (h : Inserted o input keyHash now row start mid) (tasks : start.tasks = db.tasks) : Mine owner db input.taskID := by
  intro t mem named
  exfalso
  obtain ⟨p, core⟩ := h.core
  have distinct := tasks_distinct mid
  rw [h.tasks, List.pairwise_append] at distinct
  refine distinct.2.2 t (tasks ▸ mem) row (List.mem_singleton_self row) (named.trans ?_)
  exact (congrArg Core.taskID core).symm

theorem filter_append_own {p : ρ → Bool} {rows new : List ρ} (own : ∀ r ∈ new, p r = false) : (rows ++ new).filter p = rows.filter p := by
  have none : new.filter p = [] := List.filter_eq_nil_iff.mpr fun r mem => by simp [own r mem]
  rw [List.filter_append, none, List.append_nil]

/-- The rows of the new task carry its id. -/
theorem Inserted.spares {row : Task} {start mid : Database}
    (h : Inserted o input keyHash now row start mid) (mine : Mine input.apiKeyID db input.taskID)
    (files : ∀ f ∈ input.inputSpoolFiles, f.taskID = input.taskID) (spared : Spares input.apiKeyID db start) :
    Spares input.apiKeyID db mid where
  rows := fun tbl notTasks => by
    refine Eq.trans ?_ (spared.rows tbl notTasks)
    by_cases created : tbl ∈ creationTables
    · simp only [creationTables, List.mem_cons, List.not_mem_nil, or_false] at created
      rcases created with rfl | rfl | rfl | rfl | rfl
      case inl => exact absurd rfl notTasks
      case inr.inl =>
        obtain ⟨new, rows, each⟩ := h.stages
        rw [show mid.rows .taskStages = start.rows .taskStages ++ new from rows]
        exact filter_append_own fun r mem => mine.not_foreign fun t _ _ own => (beq_iff_eq.mp own).symm.trans (each r mem).taskID
      case inr.inr.inl =>
        obtain ⟨new, rows, each⟩ := h.callbacks
        rw [show mid.rows .callbackDeliveries = start.rows .callbackDeliveries ++ new from rows]
        exact filter_append_own fun r mem => mine.not_foreign fun t _ _ own => (beq_iff_eq.mp own).symm.trans (each r mem)
      case inr.inr.inr.inl =>
        obtain ⟨new, rows, each⟩ := h.files
        rw [rows]
        refine filter_append_own fun r mem => mine.not_foreign fun t _ _ own => (beq_iff_eq.mp own).symm.trans ?_
        rcases each r mem with named | ⟨-, f, listed, named⟩
        · exact named
        · exact named.trans (files f listed)
      case inr.inr.inr.inr =>
        rcases h.keys with ⟨-, rows⟩ | ⟨-, id, rows⟩
        · rw [rows]
        · rw [rows]
          refine filter_append_own fun r mem => mine.not_foreign fun t _ _ own => (beq_iff_eq.mp own).symm.trans ?_
          rw [List.mem_singleton.mp mem]
          rfl
    · rw [h.others tbl created]
  tasks := by
    have same : (start.tasks ++ [row]).filter (·.apiKeyID != input.apiKeyID) = start.tasks.filter (·.apiKeyID != input.apiKeyID) :=
      filter_append_own fun t mem => by rw [List.mem_singleton.mp mem, h.owner, bne_self_eq_false]
    rw [h.tasks, same]
    exact spared.tasks

theorem Created.spares {r : Task} (h : Created o input keyHash now db r d) (files : ∀ f ∈ input.inputSpoolFiles, f.taskID = input.taskID)
    (keys : KeysOwned input.apiKeyID db) : Spares input.apiKeyID db d := by
  cases h with
  | replayed => exact .refl _ _
  | inserted start mid d row _ _ kept others inserted ranked _ =>
    have mine : Mine input.apiKeyID db input.taskID := inserted.mine (others .videoTasks nofun)
    have expired : Spares input.apiKeyID db start := by
      refine (Spares.refl _ db).of_table (show Tbl.idempotencyKeys ≠ .videoTasks by decide) others ?_
      rw [kept, List.filter_filter]
      refine List.filter_congr fun k mem => ?_
      -- A key that is dropped is the owner's.
      by_cases dropped : IdempotencyKey.apiKeyID k = input.apiKeyID
      · have own : foreign input.apiKeyID db .idempotencyKeys k = false :=
          (keys k mem dropped).not_foreign fun t _ _ own => (beq_iff_eq.mp own).symm
        rw [own, Bool.false_and]
      · simp [dropped]
    exact (inserted.spares mine files expired).of_writes (writes_rebalance_safe o now) ranked

/-! ## Requests -/

/-- The requests of the public API that write. -/
inductive Request
  | create (input : NewTask) (keyHash : String) (available : Option Bool)
  | cancelOrDelete (taskID : String)

/-- The new task of a request: the handler sets its owner, and its files get its id
(handler.go:338, create.go:181, spooler.go:209). -/
def ofOwner (owner : String) (input : NewTask) : NewTask :=
  { input with apiKeyID := owner, inputSpoolFiles := input.inputSpoolFiles.map fun f => { f with taskID := input.taskID } }

/-- `cancelOrDelete` of the handler (handler.go:613). The path of a remote task is chosen by a
read. -/
def cancelRequest (o : Options) (uuid : Nat → String) (owner taskID : String) (now : Int) : Call Unit :=
  if taskID.utf8ByteSize < 1 ∨ 64 < taskID.utf8ByteSize then direct (.fail (.other "invalid task_id (2001)"))
  else do
    let t ← direct (query (getWith owner taskID (unix now)))
    if t.protocolVersion = some .tk2sd ∧ t.upstreamSlotActive then requestRemoteCancel taskID now
    else do
      let _ ← cancelOrDelete o uuid owner taskID now

def Request.call (o : Options) (validURL : String → Bool) (uuid : Nat → String) (owner : String) (now : Int) : Request → Call Unit
  | .create input keyHash available => do
    let _ ← Store.create o validURL (ofOwner owner input) keyHash available now
  | .cancelOrDelete taskID => cancelRequest o uuid owner taskID now

/-- What is asked of the store: a creation drops an expired key of the owner. -/
def Request.Met (owner : String) (db : Database) : Request → Prop
  | .create .. => KeysOwned owner db
  | .cancelOrDelete _ => True

/-- A transaction that spares the rows of others when it returns. -/
theorem immediate_spares {owner : String} {α : Type} {p : Prog α} (spares : ∀ a d, p.Returns db a d → Spares owner db d)
    (faults : Faults Err) (n : Nat) : Spares owner db (immediate p faults n db).db := by
  rcases immediate_effect p faults with same | ⟨a, out⟩
  · rw [same]
    exact .refl owner db
  · exact spares a _ out

section
variable {o : Options} {uuid : Nat → String} {owner taskID : String} {now : Int} (faults : Faults Err) (n : Nat) (db : Database)

theorem requestOwnedTaskDeletion_spares : Spares owner db (requestOwnedTaskDeletion uuid owner taskID now faults n db).db := by
  rcases direct_bind (p := orElse (query fun (db : Database) => (findTask db taskID).elim (.error .deletionNotFound) .ok)
    fun e => .fail (if owner = "" then e else .deletionNotFound)) (writes_orElse writes_query fun _ => writes_fail) _ faults n db
    with same | ⟨t, m, found, went⟩
  · rw [requestOwnedTaskDeletion, same]
    exact .refl owner db
  rw [requestOwnedTaskDeletion, went]
  rcases direct_bind writes_require _ faults m db with same | ⟨_, m', own, went⟩
  · rw [same]
    exact .refl owner db
  rw [went]
  rcases direct_bind writes_require _ faults m' db with same | ⟨_, m'', -, went⟩
  · rw [same]
    exact .refl owner db
  rw [went]
  have mine : Mine owner db taskID := by
    have stored := (returns_query.mp (returns_orElse_fail.mp found)).1
    have row := elim_ok.mp stored
    have named : t.taskID = taskID := key_of_find row
    have isOwner := (returns_require.mp own).1
    exact named ▸ Mine.of_mem (mem_of_find row) (beq_iff_eq.mp (Bool.and_eq_true_iff.mp isOwner).1)
  exact immediate_spares (fun _ _ out => mine.requestTaskDeletion out) faults m''

theorem cancelOrDelete_spares : Spares owner db (cancelOrDelete o uuid owner taskID now faults n db).db := by
  rcases direct_bind (writes_attempt.mpr writes_select) _ faults n db with same | ⟨seen, m, -, went⟩
  · rw [cancelOrDelete, same]
    exact .refl owner db
  rw [cancelOrDelete, went]
  have queued : Spares owner db (cancelQueued o owner taskID (uuid 0) now faults m db).db :=
    immediate_spares (fun _ _ out => cancelQueued_spares out) faults m
  split
  · split
    · rw [Call.mapError_db]
      rcases Call.bind_cases (requestOwnedTaskDeletion uuid owner taskID now) _ faults m db with ⟨e, m', ran⟩ | ⟨job, m', -, ran⟩
      all_goals
        rw [ran]
        exact requestOwnedTaskDeletion_spares faults m db
    · exact queued
  · exact queued

theorem cancelRequest_spares : Spares owner db (cancelRequest o uuid owner taskID now faults n db).db := by
  rw [cancelRequest]
  split
  · exact .refl owner db
  rcases direct_bind writes_query _ faults n db with same | ⟨t, m, read, went⟩
  · rw [same]
    exact .refl owner db
  rw [went]
  split
  · have mine : Mine owner db taskID := by
      have found := (returns_query.mp read).1
      rw [getWith] at found
      split at found
      · cases found
      · rename_i row
        exact Mine.of_find row
    exact immediate_spares (fun _ _ out => mine.requestRemoteCancel out) faults m
  · rw [(Call.discard_run ..).1]
    exact cancelOrDelete_spares faults m db

end

/-- Requests of one key leave the tasks of other keys alone, whichever statements fail. -/
theorem request_isolated (o : Options) (validURL : String → Bool) (uuid : Nat → String) (owner : String) (now : Int)
    (request : Request) (faults : Faults Err) (n : Nat) (db : Database) (met : request.Met owner db) :
    Isolated owner db (request.call o validURL uuid owner now faults n db).db := by
  cases request with
  | create input keyHash available =>
    rw [Request.call, (Call.discard_run ..).1]
    refine (immediate_spares (fun r d out => ?_) faults n).isolated
    exact (createBody_spec out).spares (fun f listed => by
      obtain ⟨g, -, rfl⟩ := List.mem_map.mp listed
      rfl) met
  | cancelOrDelete taskID => exact (cancelRequest_spares faults n db).isolated

/-- The store with a task of `k1` in the queue. -/
def queuedTask : Database := (Flow.remoteConfig.after Flow.remoteOptions [Flow.remoteCreate]).db

/-- Another key adds a task, with an idempotency key of its own. -/
def secondRequest : Request := .create { Flow.remoteRequest with taskID := "t2" } "x" none

theorem request_isolated_second :
    KeysOwned "k2" queuedTask ∧
      ((Database.tasks (secondRequest.call Flow.remoteOptions (fun _ => true) (fun _ => "") "k2" 1000 noFaults 0 queuedTask).db).map
        fun t => (t.taskID, t.apiKeyID)) = [("t1", "k1"), ("t2", "k2")] ∧
      Isolated "k2" queuedTask
        (secondRequest.call Flow.remoteOptions (fun _ => true) (fun _ => "") "k2" 1000 noFaults 0 queuedTask).db := by
  have noKeys : queuedTask.rows Tbl.idempotencyKeys = [] := by decide +kernel
  have keys : KeysOwned "k2" queuedTask := fun k mem => by
    rw [noKeys] at mem
    cases mem
  exact ⟨keys, by decide +kernel, request_isolated _ _ _ _ _ _ _ _ _ keys⟩

/-- The store in which an expired idempotency key of `k2` names the task of `k1`. -/
def crossedKey : Database :=
  queuedTask.load [.insert Tbl.idempotencyKeys fun _ id =>
    [{ id := id, apiKeyID := "k2", keyHash := "x", requestHash := "h", taskID := "t1", createdAt := 0, expiresAt := 0 }]]

/-- The request drops the key, and with it a row of the task of `k1`. -/
theorem create_drops_crossed_key :
    crossedKey.refsResolve = true ∧
      ¬ Isolated "k2" crossedKey
        (secondRequest.call Flow.remoteOptions (fun _ => true) (fun _ => "") "k2" 1000 noFaults 0 crossedKey).db := by
  refine ⟨by decide +kernel, fun h => ?_⟩
  have rows : (crossedKey.tasks.map fun t => (t.taskID, t.apiKeyID)) = [("t1", "k1")] := by decide +kernel
  obtain ⟨t, only, row⟩ := List.map_eq_singleton_iff.mp rows
  obtain ⟨named, owner⟩ := Prod.mk.inj row
  have stored : t ∈ crossedKey.tasks := by rw [only]; exact List.mem_singleton_self t
  have same := congrArg List.length (h.rows t stored (by rw [owner]; decide) .idempotencyKeys (by decide))
  rw [named] at same
  revert same
  decide +kernel

end MinimaxProxy.Store
