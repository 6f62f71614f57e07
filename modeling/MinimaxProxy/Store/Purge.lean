import Mathlib.Data.List.Dedup
import MinimaxProxy.Flow.System
import MinimaxProxy.Store.PurgeEffects

/-!
# When a purge succeeds

`AdminDelete` clears the tables one after the other. In between, the rows of the task are gone
from the cleared tables, its own row and its stages have lost their links, and everything else
is as it was (`Cleared`). A DELETE is refused if a row that is left refers to a removed one, so
the purge succeeds if no row refers to a row of the task that is removed before it.
-/

namespace MinimaxProxy.Store
open Sql Sql.Prog

variable {k : Ref Tbl} {t : Task} {tbl : Tbl}

/-- The rows that belong to a task. A cleanup job belongs to it if all its items do. -/
def owned (db : Database) (taskID : String) : (tbl : Tbl) → tbl.Row → Bool
  | .videoTasks, (r : Task) => r.taskID == taskID
  | .idempotencyKeys, (r : IdempotencyKey) => r.taskID == taskID
  | .taskStages, (r : Stage) => r.taskID == taskID
  | .stageAttempts, (r : Attempt) => stageOf db taskID r.stageID
  | .taskArtifacts, (r : Artifact) => r.taskID == taskID
  | .artifactLocations, (r : Location) => copyOf db taskID r
  | .artifactDeletionItems, (r : DeletionItem) => itemOf taskID db r
  | .artifactDeletionJobs, (r : DeletionJob) =>
    ((db.rows Tbl.artifactDeletionItems).any fun (i : DeletionItem) => i.jobID == r.id)
      && (db.rows Tbl.artifactDeletionItems).all fun (i : DeletionItem) => i.jobID != r.id || itemOf taskID db i
  | .callbackDeliveries, (r : CallbackDelivery) => r.taskID == taskID
  | .nodeDispatchBarriers, (r : Barrier) => r.taskID == taskID
  | .taskInputSpoolFiles, (r : SpoolFile) => r.taskID == taskID
  | .resultUploadJobs, (r : UploadJob) => r.taskID == taskID
  | .taskRemoteRuns, (r : RemoteRun) => r.taskID == taskID
  | .taskNodeAssets, (r : NodeAsset) => r.taskID == taskID
  | _, _ => false

/-- The links of the task that the purge clears first. -/
def unlink (taskID : String) : (tbl : Tbl) → tbl.Row → tbl.Row
  | .videoTasks, (r : Task) => if r.taskID == taskID then { r with activeStageID := none, resultArtifactID := none } else r
  | .taskStages, (r : Stage) => if r.taskID == taskID then { r with inputArtifactID := none, outputArtifactID := none } else r
  | _, r => r

/-- The rows of the task are gone from the tables `cleared`. -/
def Cleared (taskID : String) (db : Database) (cleared : List Tbl) (d : Database) : Prop :=
  ∀ tbl : Tbl, d.rows tbl
    = ((db.rows tbl).filter fun r => !(decide (tbl ∈ cleared) && owned db taskID tbl r)).map (unlink taskID tbl)

/-! ## Keys and references -/

/-- The tables that rows refer to. -/
def parents : List Tbl :=
  [.videoTasks, .modelServiceNodes, .taskStages, .stageAttempts, .taskArtifacts, .artifactLocations, .artifactDeletionJobs,
    .modelRequestProfiles]

theorem refs_parent {r : tbl.Row} (mem : k ∈ Tbl.refs tbl r) : k.parent ∈ parents := by
  have all : (Tbl.refs tbl r).all (fun k => decide (k.parent ∈ parents)) = true := by
    cases tbl <;> simp [Tbl.refs, Tbl.ref, Function.comp_def, parents]
  simpa using List.all_eq_true.mp all k mem

theorem parent_distinct (isParent : tbl ∈ parents) {db : Database} : (db.rows tbl).Pairwise fun a b => tbl.key a ≠ tbl.key b := by
  refine (db tbl).fit.imp fun {a b} h => ?_
  have fits : Tbl.fits tbl a b = true := h
  cases tbl <;> first | (exact absurd isParent (by decide)) | skip
  all_goals
    simp only [Tbl.fits, Task.fits, Node.fits, Stage.fits, Attempt.fits, Location.fits, Bool.and_eq_true, bne_iff_ne] at fits
    simp only [Tbl.key]
    first | exact fits | exact fits.1 | exact fits.2 | exact fits.1.1 | exact fits.1.1.1

theorem unlink_key {taskID : String} (r : tbl.Row) : tbl.key (unlink taskID tbl r) = tbl.key r := by
  cases tbl <;> first | rfl | (simp only [unlink, Tbl.key]; split <;> rfl)

theorem unlink_of_not_owned {taskID : String} {db : Database} {r : tbl.Row} (other : owned db taskID tbl r = false) :
    unlink taskID tbl r = r := by
  cases tbl <;> first | rfl | (simp only [owned] at other; simp only [unlink, other]; rfl)

theorem Cleared.mem {taskID : String} {db d : Database} {cleared : List Tbl} (h : Cleared taskID db cleared d)
    {x : tbl.Row} : x ∈ d.rows tbl ↔ ∃ r ∈ db.rows tbl, (tbl ∈ cleared → owned db taskID tbl r = false) ∧ unlink taskID tbl r = x := by
  rw [h tbl, List.mem_map]
  refine exists_congr fun r => ?_
  rw [List.mem_filter, and_assoc]
  refine and_congr_right fun _ => and_congr_left fun _ => ?_
  by_cases gone : tbl ∈ cleared <;> simp [gone]

/-! ## One DELETE -/

/-- When the tables `cleared` are cleared, no row refers to a row of the task in `t`. -/
def Unreferenced (taskID : String) (db : Database) (cleared : List Tbl) (t : Tbl) : Prop :=
  ∀ tbl, ∀ r ∈ db.rows tbl, (tbl ∈ cleared → owned db taskID tbl r = false) →
    ∀ k ∈ Tbl.refs tbl (unlink taskID tbl r), k.parent = t → ∀ p ∈ db.rows t, owned db taskID t p = true → t.key p ≠ k.id

theorem mem_all {t : Tbl} : t ∈ Tbl.all := by cases t <;> decide

section
variable {taskID : String} {db d d' : Database} {cleared : List Tbl} {t : Tbl}

/-- A reference to the table finds a row after the DELETE if it names none of the task. -/
theorem Cleared.resolves_iff (after : Cleared taskID db cleared d') (isCleared : t ∈ cleared) (isParent : t ∈ parents) {id : String}
    {p : t.Row} (stored : p ∈ db.rows t) (own : owned db taskID t p = true) (named : t.key p = id) :
    ¬ (d'.rows t).any (fun q => t.key q == id) = true := by
  intro found
  obtain ⟨x, left, same⟩ := List.any_eq_true.mp found
  obtain ⟨q, isStored, other, rfl⟩ := after.mem.mp left
  rw [unlink_key, beq_iff_eq] at same
  obtain rfl := eq_of_key (parent_distinct isParent) stored isStored (named.trans same.symm)
  rw [other isCleared] at own
  cases own

/-- A DELETE that leaves the cleared tables is refused if some row refers to a removed one. -/
theorem Cleared.orphaned_iff (after : Cleared taskID db cleared d') (isCleared : t ∈ cleared) {gone : List t.Row}
    (removed : ∀ id, gone.any (fun g => t.key g == id) = true ↔ ∃ p ∈ db.rows t, owned db taskID t p = true ∧ t.key p = id) :
    d'.orphaned t gone = false ↔ Unreferenced taskID db cleared t := by
  constructor
  · intro accepted tbl r stored kept k ref parent p isStored own named
    have left : unlink taskID tbl r ∈ d'.rows tbl := after.mem.mpr ⟨r, stored, kept, rfl⟩
    have dangling : d'.resolves k = false := by
      rw [← Bool.not_eq_true]
      subst parent
      exact after.resolves_iff isCleared (refs_parent ref) isStored own named
    have hit : gone.any (fun g => t.key g == k.id) = true := (removed k.id).mpr ⟨p, isStored, own, named⟩
    have orphan : d'.orphaned t gone = true := by
      refine List.any_eq_true.mpr ⟨tbl, mem_all, List.any_eq_true.mpr ⟨_, left, List.any_eq_true.mpr ⟨k, ref, ?_⟩⟩⟩
      show (decide (k.parent = t) && gone.any (fun g => t.key g == k.id) && !d'.resolves k) = true
      rw [hit, dangling, decide_eq_true parent]
      rfl
    rw [accepted] at orphan
    cases orphan
  · intro free
    rw [← Bool.not_eq_true]
    intro orphan
    obtain ⟨tbl, -, inTable⟩ := List.any_eq_true.mp orphan
    obtain ⟨x, left, inRow⟩ := List.any_eq_true.mp inTable
    obtain ⟨k, ref, dangles⟩ := List.any_eq_true.mp inRow
    obtain ⟨r, stored, kept, rfl⟩ := after.mem.mp left
    have dangles : (decide (k.parent = t) && gone.any (fun g => t.key g == k.id) && !d'.resolves k) = true := dangles
    obtain ⟨found, -⟩ := Bool.and_eq_true_iff.mp dangles
    obtain ⟨parent, hit⟩ := Bool.and_eq_true_iff.mp found
    obtain ⟨p, isStored, own, named⟩ := (removed k.id).mp hit
    exact free tbl r stored kept k ref (of_decide_eq_true parent) p isStored own named

/-- The removed rows, if the DELETE selects the rows of the task. -/
theorem Cleared.removed_iff (h : Cleared taskID db cleared d) (free : t ∉ cleared) {sel : t.Row → Bool}
    (hits : ∀ r ∈ db.rows t, sel (unlink taskID t r) = owned db taskID t r) (id : String) :
    ((d.rows t).filter sel).any (fun g => t.key g == id) = true ↔ ∃ p ∈ db.rows t, owned db taskID t p = true ∧ t.key p = id := by
  rw [List.any_eq_true]
  constructor
  · rintro ⟨x, mem, named⟩
    obtain ⟨left, hit⟩ := List.mem_filter.mp mem
    obtain ⟨p, stored, -, rfl⟩ := h.mem.mp left
    rw [hits p stored] at hit
    rw [unlink_key, beq_iff_eq] at named
    exact ⟨p, stored, hit, named⟩
  · rintro ⟨p, stored, own, named⟩
    refine ⟨unlink taskID t p, List.mem_filter.mpr ⟨h.mem.mpr ⟨p, stored, fun isCleared => absurd isCleared free, rfl⟩, ?_⟩, ?_⟩
    · rw [hits p stored, own]
    · rw [unlink_key, beq_iff_eq, named]

/-- A table that is not cleared has all its rows. -/
theorem Cleared.whole (h : Cleared taskID db cleared d) (free : t ∉ cleared) : d.rows t = (db.rows t).map (unlink taskID t) := by
  rw [h t, List.filter_eq_self.mpr]
  intro r _
  simp [free]

/-- The selected rows of a table are those of the task. -/
theorem Cleared.filtered (h : Cleared taskID db cleared d) (free : t ∉ cleared) {sel : t.Row → Bool}
    (hits : ∀ r ∈ db.rows t, sel (unlink taskID t r) = owned db taskID t r) :
    (d.rows t).filter (fun r => !sel r) = ((db.rows t).filter fun r => !owned db taskID t r).map (unlink taskID t) := by
  rw [h.whole free, List.filter_map]
  congr 1
  refine List.filter_congr fun r stored => ?_
  rw [Function.comp_apply, hits r stored]

theorem Cleared.selected_length (h : Cleared taskID db cleared d) (free : t ∉ cleared) (sel : t.Row → Bool)
    (hits : ∀ r ∈ db.rows t, sel (unlink taskID t r) = owned db taskID t r) :
    ((d.rows t).filter sel).length = ((db.rows t).filter (owned db taskID t)).length := by
  rw [h.whole free, List.filter_map, List.length_map]
  congr 1
  refine List.filter_congr fun r stored => ?_
  rw [Function.comp_apply, hits r stored]

/-- A DELETE of the rows of the task in a table that nothing cascades from. -/
theorem Cleared.remove (h : Cleared taskID db cleared d) (free : t ∉ cleared) (notTasks : t ≠ .videoTasks) {sel : t.Row → Bool}
    (hits : ∀ r ∈ db.rows t, sel (unlink taskID t r) = owned db taskID t r) : Cleared taskID db (t :: cleared) (d.remove t sel) := by
  intro tbl
  by_cases same : tbl = t
  · subst same
    rw [remove_rows, h.filtered free hits]
    simp
  · rw [remove_others d sel notTasks same, h tbl]
    simp [same]

/-- A DELETE as the first statement of a program. -/
theorem eval_delete_iff {α : Type} {sel : Database → t.Row → Bool} {f : Nat → Prog α} {a : α} :
    (exec (.delete t sel) >>= f).eval d = (.ok a, d') ↔
      (d.remove t (sel d)).orphaned t ((d.rows t).filter (sel d)) = false ∧
        (f ((d.rows t).filter (sel d)).length).eval (d.remove t (sel d)) = (.ok a, d') := by
  rw [eval_bind_iff]
  constructor
  · rintro ⟨n, mid, ran, out⟩
    have applied := eval_exec_iff.mp ran
    obtain ⟨rfl, rfl⟩ := apply_delete applied
    refine ⟨?_, out⟩
    rw [← Bool.not_eq_true]
    intro orphan
    rw [Dml.apply, if_pos orphan] at applied
    cases applied
  · rintro ⟨accepted, out⟩
    refine ⟨_, _, eval_exec_iff.mpr ?_, out⟩
    rw [Dml.apply, if_neg (by rw [accepted]; exact Bool.false_ne_true)]

/-- The state after a DELETE of the rows of the task, and when the program comes to it. -/
theorem Cleared.next (h : Cleared taskID db cleared d) (free : t ∉ cleared) (notTasks : t ≠ .videoTasks)
    (sel : Database → t.Row → Bool) (hits : ∀ r ∈ db.rows t, sel d (unlink taskID t r) = owned db taskID t r) :
    ∃ n mid, Cleared taskID db (t :: cleared) mid ∧ ∀ (f : Nat → Prog Unit) (d' : Database),
      (exec (.delete t sel) >>= f).eval d = (.ok (), d') ↔
        Unreferenced taskID db (t :: cleared) t ∧ (f n).eval mid = (.ok (), d') := by
  have after := h.remove free notTasks hits
  refine ⟨((d.rows t).filter (sel d)).length, _, after, fun f d' => ?_⟩
  rw [eval_delete_iff, after.orphaned_iff List.mem_cons_self (h.removed_iff free hits)]

/-- Nothing refers to the table. -/
theorem unreferenced_of_leaf (leaf : t ∉ parents) : Unreferenced taskID db cleared t := by
  rintro tbl r - - k ref rfl
  exact absurd (refs_parent ref) leaf

end

/-! ## The loop over the cleanup jobs -/

/-- Some of the jobs of the task are gone, too. -/
structure JobsCleared (taskID : String) (db : Database) (cleared : List Tbl) (ids : List String) (d : Database) : Prop where
  others : ∀ tbl, tbl ≠ .artifactDeletionJobs → d.rows tbl
    = ((db.rows tbl).filter fun r => !(decide (tbl ∈ cleared) && owned db taskID tbl r)).map (unlink taskID tbl)
  jobs : d.rows .artifactDeletionJobs = (db.rows Tbl.artifactDeletionJobs).filter fun (j : DeletionJob) =>
    !(decide (j.id ∈ ids) && owned db taskID .artifactDeletionJobs j)

theorem refs_job {r : tbl.Row} (mem : k ∈ Tbl.refs tbl r) (parent : k.parent = .artifactDeletionJobs) :
    tbl = .artifactDeletionItems := by
  by_contra other
  have all : (Tbl.refs tbl r).all (fun k => decide (k.parent ≠ .artifactDeletionJobs)) = true := by
    cases tbl <;> first | exact absurd rfl other | simp [Tbl.refs, Tbl.ref, Function.comp_def]
  exact of_decide_eq_true (List.all_eq_true.mp all k mem) parent

theorem item_refs_job {i : DeletionItem} (mem : k ∈ Tbl.refs .artifactDeletionItems i)
    (parent : k.parent = .artifactDeletionJobs) : k.id = i.jobID := by
  simp only [Tbl.refs, Tbl.ref, List.mem_append, List.mem_map, Option.mem_toList] at mem
  rcases mem with ((⟨id, own, rfl⟩ | ⟨id, own, rfl⟩) | ⟨id, own, rfl⟩) | ⟨id, own, rfl⟩
  · exact (Option.some.inj own).symm
  all_goals cases parent

theorem emptyJob_accepted {id : String} {d : Database} :
    (d.remove .artifactDeletionJobs (emptyJob id d)).orphaned .artifactDeletionJobs ((d.rows .artifactDeletionJobs).filter (emptyJob id d))
      = false := by
  rw [← Bool.not_eq_true]
  intro orphan
  obtain ⟨tbl, -, inTable⟩ := List.any_eq_true.mp orphan
  obtain ⟨r, left, inRow⟩ := List.any_eq_true.mp inTable
  obtain ⟨k, ref, dangles⟩ := List.any_eq_true.mp inRow
  obtain ⟨found, -⟩ := Bool.and_eq_true_iff.mp dangles
  obtain ⟨parent, hit⟩ := Bool.and_eq_true_iff.mp found
  obtain ⟨j, gone, named⟩ := List.any_eq_true.mp hit
  obtain rfl := refs_job ref (of_decide_eq_true parent)
  have isItem := item_refs_job ref (of_decide_eq_true parent)
  rw [remove_others d _ (by decide) (by decide)] at left
  have empty := (List.mem_filter.mp gone).2
  simp only [emptyJob, Bool.and_eq_true, beq_iff_eq, Bool.not_eq_true', List.any_eq_false] at empty
  have key : DeletionJob.id j = k.id := beq_iff_eq.mp named
  exact empty.2 r left (isItem.symm.trans (key.symm.trans empty.1))

section
variable {taskID : String} {db d d' : Database} {cleared : List Tbl} {ids : List String}

theorem JobsCleared.drop (h : JobsCleared taskID db cleared ids d) (items : .artifactDeletionItems ∈ cleared) {id : String}
    (used : ∃ i ∈ db.rows Tbl.artifactDeletionItems, DeletionItem.jobID i = id) :
    JobsCleared taskID db cleared (id :: ids) (d.remove .artifactDeletionJobs (emptyJob id d)) where
  others := fun tbl other => by rw [remove_others d _ (by decide) other, h.others tbl other]
  jobs := by
    have left : ((d.rows Tbl.artifactDeletionItems).any fun (i : DeletionItem) => i.jobID == id)
        = !(db.rows Tbl.artifactDeletionItems).all fun (i : DeletionItem) => i.jobID != id || itemOf taskID db i := by
      rw [h.others .artifactDeletionItems (by decide), List.any_map, List.any_filter, List.not_all_eq_any_not]
      refine List.any_congr rfl fun i => ?_
      simp [items, unlink, owned, bne, Bool.and_comm]
    rw [remove_rows, h.jobs, List.filter_filter]
    refine List.filter_congr fun (j : DeletionJob) _ => ?_
    obtain ⟨i, stored, isUsed⟩ := used
    by_cases same : j.id = id
    · have some : ((db.rows Tbl.artifactDeletionItems).any fun (i : DeletionItem) => i.jobID == id) = true :=
        List.any_eq_true.mpr ⟨i, stored, beq_iff_eq.mpr isUsed⟩
      simp only [emptyJob, owned, left, same, some, List.mem_cons, true_or, decide_true, Bool.true_and, beq_self_eq_true, Bool.not_not]
      cases (db.rows Tbl.artifactDeletionItems).all _ <;> simp
    · simp [emptyJob, same]

/-- The loop is never refused. -/
theorem JobsCleared.drops (h : JobsCleared taskID db cleared ids d) (items : .artifactDeletionItems ∈ cleared) (rest : List String)
    (used : ∀ id ∈ rest, ∃ i ∈ db.rows Tbl.artifactDeletionItems, DeletionItem.jobID i = id) :
    ∃ d', (forEach (fun id => do let _ ← exec (.delete Tbl.artifactDeletionJobs (emptyJob id))) rest : Prog Unit).eval d = (.ok (), d') ∧
      JobsCleared taskID db cleared (rest.reverseAux ids) d' := by
  induction rest generalizing ids d with
  | nil => exact ⟨d, rfl, h⟩
  | cons id rest ih =>
    obtain ⟨d', out, done⟩ := ih (h.drop items (used id List.mem_cons_self)) fun id mem => used id (List.mem_cons_of_mem _ mem)
    refine ⟨d', ?_, done⟩
    rw [forEach, ← bind_eq, eval_bind_iff]
    refine ⟨(), _, ?_, out⟩
    rw [eval_delete_iff]
    exact ⟨emptyJob_accepted, rfl⟩

theorem Cleared.jobsCleared (h : Cleared taskID db cleared d) (free : .artifactDeletionJobs ∉ cleared) :
    JobsCleared taskID db cleared [] d where
  others := fun tbl _ => h tbl
  jobs := by
    rw [h .artifactDeletionJobs]
    have same : unlink taskID .artifactDeletionJobs = id := rfl
    rw [same, List.map_id]
    refine List.filter_congr fun j _ => ?_
    simp [free]

/-- The jobs that the loop goes through are enough. -/
theorem JobsCleared.toCleared (h : JobsCleared taskID db cleared ids d)
    (all : ∀ j : DeletionJob, owned db taskID .artifactDeletionJobs j = true → j.id ∈ ids) :
    Cleared taskID db (.artifactDeletionJobs :: cleared) d := by
  intro tbl
  by_cases same : tbl = .artifactDeletionJobs
  · subst same
    rw [h.jobs]
    have same : unlink taskID .artifactDeletionJobs = id := rfl
    rw [same, List.map_id]
    refine List.filter_congr fun (j : DeletionJob) _ => ?_
    cases own : owned db taskID .artifactDeletionJobs j with
    | false => simp
    | true => simp [all j own]
  · rw [h.others tbl same]
    simp [same]

end

/-! ## The links -/

theorem unlinkedTask_trigger (routed : t.routed = true) : Task.trigger (some t) (unlinkedTask t) = none := by
  have same : (unlinkedTask t).routed = t.routed := rfl
  rw [Task.trigger, same, routed]
  simp [unlinkedTask]

theorem unlinkedTask_refs : Tbl.refs .videoTasks (unlinkedTask t) ⊆ Tbl.refs .videoTasks t := by
  intro k mem
  simp only [Tbl.refs, unlinkedTask, Tbl.ref, Option.toList_none, List.map_nil, List.append_nil] at mem
  exact List.mem_append_left _ (List.mem_append_left _ mem)

theorem unlinkedStage_refs {s : Stage} : Tbl.refs .taskStages (unlinkedStage s) ⊆ Tbl.refs .taskStages s := by
  intro k mem
  simp only [Tbl.refs, unlinkedStage, Tbl.ref, Option.toList_none, List.map_nil, List.append_nil] at mem
  exact List.mem_append_left _ (List.mem_append_left _ mem)

section
variable {taskID : String} {db : Database} {t : Task}

theorem unlink_tasks (stored : t ∈ db.tasks) (named : t.taskID = taskID) :
    ∃ n d, (Dml.update Tbl.videoTasks (fun _ (u : Task) => u.taskID == taskID && u.version == t.version)
      fun _ (u : Task) => unlinkedTask u : Dml).apply db = .ok (n, d) ∧
      (∀ tbl, tbl ≠ .videoTasks → d.rows tbl = db.rows tbl) ∧
        d.rows .videoTasks = (db.rows .videoTasks).map (unlink taskID .videoTasks) := by
  have keeps (u : Task) : (if u.taskID == taskID && u.version == t.version then unlinkedTask u else u).queueSeq = u.queueSeq ∧
      (if u.taskID == taskID && u.version == t.version then unlinkedTask u else u).taskID = u.taskID := by
    split <;> exact ⟨rfl, rfl⟩
  have checked (u : Task) (mem : u ∈ db.tasks) : u.check (db Tbl.videoTasks).seq = true := (db Tbl.videoTasks).checked u mem
  have routed (u : Task) (mem : u ∈ db.tasks) : u.routed = true := by
    have passed := checked u mem
    simp only [Task.check, Bool.and_eq_true] at passed
    exact passed.2
  obtain ⟨tab, applied, rows⟩ := apply_update_eq db Tbl.videoTasks
    (fun _ (u : Task) => u.taskID == taskID && u.version == t.version) (fun _ (u : Task) => unlinkedTask u)
    (fun a b => by
      show Task.fits _ _ = Task.fits a b
      simp only [Task.fits, keeps])
    (fun u mem _ => checked u mem) (fun u mem _ => unlinkedTask_trigger (routed u mem)) (fun u _ _ => unlinkedTask_refs)
  refine ⟨_, _, applied, fun tbl other => DB.rows_put_of_ne tab other, ?_⟩
  rw [DB.rows_put_self, rows]
  refine List.map_congr_left fun u mem => ?_
  by_cases same : u.taskID = taskID
  · obtain rfl : u = t := task_unique mem stored (same.trans named.symm)
    simp [unlink, same, unlinkedTask]
  · simp [unlink, same]

theorem unlink_stages :
    ∃ n d, (Dml.update Tbl.taskStages (fun _ (s : Stage) => s.taskID == taskID) fun _ (s : Stage) => unlinkedStage s : Dml).apply db
      = .ok (n, d) ∧
      (∀ tbl, tbl ≠ .taskStages → d.rows tbl = db.rows tbl) ∧
        d.rows .taskStages = (db.rows .taskStages).map (unlink taskID .taskStages) := by
  have keeps (s : Stage) : (if s.taskID == taskID then unlinkedStage s else s).id = s.id ∧
      (if s.taskID == taskID then unlinkedStage s else s).taskID = s.taskID ∧
      (if s.taskID == taskID then unlinkedStage s else s).stageOrder = s.stageOrder := by
    split <;> exact ⟨rfl, rfl, rfl⟩
  obtain ⟨tab, applied, rows⟩ := apply_update_eq db Tbl.taskStages (fun _ (s : Stage) => s.taskID == taskID)
    (fun _ (s : Stage) => unlinkedStage s)
    (fun a b => by
      show Stage.fits _ _ = Stage.fits a b
      simp only [Stage.fits, keeps])
    (fun s mem _ => (db Tbl.taskStages).checked s mem) (fun _ _ _ => rfl) (fun s _ _ => unlinkedStage_refs)
  exact ⟨_, _, applied, fun tbl other => DB.rows_put_of_ne tab other, by rw [DB.rows_put_self, rows]; rfl⟩

end

/-! ## The row of the task -/

section
variable {taskID : String} {db d : Database} {cleared : List Tbl}

/-- The rows that go with a task are those that name it. -/
theorem Cleared.remove_child (h : Cleared taskID db cleared d) (resolved : db.refsResolve = true) (free : .videoTasks ∉ cleared)
    {sel : Task → Bool} (hits : ∀ u ∈ db.tasks, sel (unlink taskID .videoTasks u) = (u.taskID == taskID))
    (other : tbl ≠ .videoTasks) (same : unlink taskID tbl = id) (kept : tbl ∉ cleared) {name : tbl.Row → String}
    (own : ∀ r, owned db taskID tbl r = (name r == taskID))
    (refs : ∀ r, ∃ others : List (Ref Tbl), Tbl.refs tbl r = { parent := .videoTasks, id := name r, cascade := true } :: others ∧
      ∀ k ∈ others, k.cascade = false) :
    (d.remove .videoTasks sel).rows tbl = (db.rows tbl).filter fun r => !owned db taskID tbl r := by
  have before : (d.put .videoTasks ((d .videoTasks).filter fun u => !sel u)).rows tbl = db.rows tbl := by
    rw [DB.rows_put_of_ne _ other, h.whole kept, same, List.map_id]
  have tasks : (d.put .videoTasks ((d .videoTasks).filter fun u => !sel u)).rows .videoTasks
      = (db.tasks.filter fun u => !(u.taskID == taskID)).map (unlink taskID .videoTasks) := by
    rw [DB.rows_put_self]
    exact h.filtered free hits
  show List.filter _ ((d.put .videoTasks ((d .videoTasks).filter fun u => !sel u)).rows tbl) = _
  rw [before]
  refine List.filter_congr fun r stored => ?_
  obtain ⟨others, shape, plain⟩ := refs r
  have rest : (others.all fun k => !k.cascade || decide (k.parent ≠ .videoTasks) ||
      (d.put .videoTasks ((d .videoTasks).filter fun u => !sel u)).resolves k) = true := by
    rw [List.all_eq_true]
    intro k mem
    simp [plain k mem]
  have named : ((d.put .videoTasks ((d .videoTasks).filter fun u => !sel u)).rows .videoTasks).any
      (fun u => Tbl.key .videoTasks u == name r) = !(name r == taskID) := by
    rw [tasks, List.any_map, List.any_filter]
    have found : ∃ u ∈ db.tasks, u.taskID = name r := by
      have all := List.all_eq_true.mp (List.all_eq_true.mp resolved tbl mem_all) r stored
      have first := List.all_eq_true.mp all { parent := .videoTasks, id := name r, cascade := true }
        (by show _ ∈ Tbl.refs tbl r; rw [shape]; exact List.mem_cons_self)
      obtain ⟨u, isStored, same⟩ := List.any_eq_true.mp first
      exact ⟨u, isStored, beq_iff_eq.mp same⟩
    obtain ⟨u, isStored, isNamed⟩ := found
    by_cases mine : name r = taskID
    · rw [mine, beq_self_eq_true, Bool.not_true, List.any_eq_false]
      intro v _
      rw [Function.comp_apply, unlink_key]
      simp [Tbl.key]
    · rw [beq_eq_false_iff_ne.mpr mine, Bool.not_false, List.any_eq_true]
      refine ⟨u, isStored, ?_⟩
      rw [Function.comp_apply, unlink_key]
      simp [Tbl.key, isNamed, mine]
  rw [own r, ← named]
  show (Tbl.refs tbl r).all _ = _
  rw [shape, List.all_cons, rest, Bool.and_true]
  rfl

theorem Cleared.remove_tasks (h : Cleared taskID db cleared d) (resolved : db.refsResolve = true) (free : .videoTasks ∉ cleared)
    (runs : .taskRemoteRuns ∉ cleared) (assets : .taskNodeAssets ∉ cleared) (sel : Task → Bool)
    (hits : ∀ u ∈ db.tasks, sel (unlink taskID .videoTasks u) = (u.taskID == taskID)) :
    Cleared taskID db (.videoTasks :: .taskRemoteRuns :: .taskNodeAssets :: cleared) (d.remove .videoTasks sel) := by
  have plain (id : String) : ∀ k ∈ Tbl.ref .modelServiceNodes id, k.cascade = false := by
    intro k mem
    obtain ⟨_, -, rfl⟩ := List.mem_map.mp mem
    rfl
  intro tbl
  by_cases isTasks : tbl = .videoTasks
  · subst isTasks
    rw [remove_rows, h.filtered free hits]
    simp
  by_cases isRuns : tbl = .taskRemoteRuns
  · subst isRuns
    rw [h.remove_child resolved free hits (by decide) rfl runs (fun r : RemoteRun => (rfl : _ = (r.taskID == taskID)))
      fun r => ⟨_, rfl, plain r.nodeID⟩]
    simp [show unlink taskID .taskRemoteRuns = id from rfl]
  by_cases isAssets : tbl = .taskNodeAssets
  · subst isAssets
    rw [h.remove_child resolved free hits (by decide) rfl assets (fun r : NodeAsset => (rfl : _ = (r.taskID == taskID)))
      fun r => ⟨_, rfl, plain r.nodeID⟩]
    simp [show unlink taskID .taskNodeAssets = id from rfl]
  · rw [remove_tasks_others d sel isTasks isRuns isAssets, h tbl]
    simp [isTasks, isRuns, isAssets]

/-- A table that is not cleared and loses no links. -/
theorem Cleared.kept (h : Cleared taskID db cleared d) (free : tbl ∉ cleared) (same : unlink taskID tbl = id) :
    d.rows tbl = db.rows tbl := by
  rw [h.whole free, same, List.map_id]

theorem Cleared.stageOf_eq (h : Cleared taskID db cleared d) (free : .taskStages ∉ cleared) (id : String) :
    stageOf d taskID id = stageOf db taskID id := by
  rw [stageOf, Database.stages, h.whole free, List.any_map]
  refine List.any_congr rfl fun (s : Stage) => ?_
  simp only [Function.comp_apply, unlink]
  split <;> rfl

theorem Cleared.copyOf_eq (h : Cleared taskID db cleared d) (free : .taskArtifacts ∉ cleared) (l : Location) :
    copyOf d taskID l = copyOf db taskID l := by
  rw [copyOf, Database.artifacts, h.kept free rfl]
  rfl

theorem Cleared.itemOf_eq (h : Cleared taskID db cleared d)
    (artifacts : .taskArtifacts ∉ cleared) (locations : .artifactLocations ∉ cleared)
    (i : DeletionItem) : itemOf taskID d i = itemOf taskID db i := by
  rw [itemOf, Database.artifacts, Database.locations, h.kept artifacts rfl, h.kept locations rfl, itemOf]
  congr 1
  refine List.any_congr rfl fun l => ?_
  rw [h.copyOf_eq artifacts]

end

/-! ## The statements of the purge -/

/-- What is cleared before the attempts are. -/
def jobTables : List Tbl := [.artifactDeletionJobs, .artifactDeletionItems, .callbackDeliveries, .idempotencyKeys]

/-- What is cleared with the files of the task. -/
def fileTables : List Tbl :=
  .taskInputSpoolFiles :: .taskStages :: .taskArtifacts :: .artifactLocations :: .stageAttempts :: jobTables

def clearedTables : List Tbl := .videoTasks :: .taskRemoteRuns :: .taskNodeAssets :: fileTables

/-- None of the statements of the purge is refused. -/
structure Purgeable (taskID : String) (db : Database) : Prop where
  attempts : Unreferenced taskID db (.stageAttempts :: jobTables) .stageAttempts
  locations : Unreferenced taskID db (.artifactLocations :: .stageAttempts :: jobTables) .artifactLocations
  artifacts : Unreferenced taskID db (.taskArtifacts :: .artifactLocations :: .stageAttempts :: jobTables) .taskArtifacts
  stages : Unreferenced taskID db (.taskStages :: .taskArtifacts :: .artifactLocations :: .stageAttempts :: jobTables) .taskStages
  tasks : Unreferenced taskID db clearedTables .videoTasks

section
variable {taskID : String} {db d d' : Database} {t : Task}

theorem Cleared.of_links {d1 d2 : Database} (tasksOnly : ∀ tbl, tbl ≠ .videoTasks → d1.rows tbl = db.rows tbl)
    (tasks : d1.rows .videoTasks = (db.rows .videoTasks).map (unlink taskID .videoTasks))
    (stagesOnly : ∀ tbl, tbl ≠ .taskStages → d2.rows tbl = d1.rows tbl)
    (stages : d2.rows .taskStages = (d1.rows .taskStages).map (unlink taskID .taskStages)) : Cleared taskID db [] d2 := by
  intro tbl
  have whole : (db.rows tbl).filter (fun r => !(decide (tbl ∈ ([] : List Tbl)) && owned db taskID tbl r)) = db.rows tbl := by simp
  rw [whole]
  by_cases isTasks : tbl = .videoTasks
  · subst isTasks
    rw [stagesOnly _ (by decide), tasks]
  by_cases isStages : tbl = .taskStages
  · subst isStages
    rw [stages, tasksOnly _ (by decide)]
  · rw [stagesOnly tbl isStages, tasksOnly tbl isTasks]
    have same : unlink taskID tbl = id := by cases tbl <;> first | rfl | contradiction
    rw [same, List.map_id]

/-- The jobs that the purge looks at are those with an item of the task. -/
theorem purgedJobs_spec {id : String} :
    id ∈ (((db.rows Tbl.artifactDeletionItems).filter (itemOf taskID db)).map DeletionItem.jobID).dedup ↔
      ∃ i ∈ db.rows Tbl.artifactDeletionItems, itemOf taskID db i = true ∧ DeletionItem.jobID i = id := by
  rw [List.mem_dedup, List.mem_map]
  refine exists_congr fun i => ?_
  rw [List.mem_filter, and_assoc]

theorem owned_job_listed {j : DeletionJob} (own : owned db taskID .artifactDeletionJobs j = true) :
    ∃ i ∈ db.rows Tbl.artifactDeletionItems, itemOf taskID db i = true ∧ DeletionItem.jobID i = j.id := by
  obtain ⟨some, all⟩ := Bool.and_eq_true_iff.mp own
  obtain ⟨i, stored, named⟩ := List.any_eq_true.mp some
  have mine := List.all_eq_true.mp all i stored
  rw [beq_iff_eq] at named
  exact ⟨i, stored, by simpa [named] using mine, named⟩

theorem purgedTask_unlink (stored : t ∈ db.tasks) (named : t.taskID = taskID) {u : Task} (mem : u ∈ db.tasks) :
    purgedTask t taskID (unlink taskID .videoTasks u) = owned db taskID .videoTasks u := by
  by_cases same : u.taskID = taskID
  · obtain rfl : u = t := task_unique mem stored (same.trans named.symm)
    simp [purgedTask, unlink, owned, same]
  · have other : owned db taskID .videoTasks u = false := beq_eq_false_iff_ne.mpr same
    rw [unlink_of_not_owned other, other, purgedTask, beq_eq_false_iff_ne.mpr same]
    rfl

theorem purgeRows_eval (resolved : db.refsResolve = true) (stored : t ∈ db.tasks) (named : t.taskID = taskID) :
    ∃ final, Cleared taskID db clearedTables final ∧
      ∀ d', (purgeRows taskID t).eval db = (.ok (), d') ↔ Purgeable taskID db ∧ d' = final := by
  obtain ⟨_, d1, unlinked, tasksOnly, tasks⟩ := unlink_tasks stored named
  obtain ⟨_, d2, blanked, stagesOnly, stages⟩ := unlink_stages
  have linkless : Cleared taskID db [] d2 := .of_links tasksOnly tasks stagesOnly stages
  -- The states between the statements, each with one table more cleared.
  obtain ⟨_, d3, keyless, run3⟩ := linkless.next (t := .idempotencyKeys) (by decide) (by decide)
    (fun _ (k : IdempotencyKey) => k.taskID == taskID) fun _ _ => rfl
  obtain ⟨_, d4, silent, run4⟩ := keyless.next (t := .callbackDeliveries) (by decide) (by decide)
    (fun _ (c : CallbackDelivery) => c.taskID == taskID) fun _ _ => rfl
  obtain ⟨_, d5, itemless, run5⟩ := silent.next (t := .artifactDeletionItems) (by decide) (by decide)
    (fun db (i : DeletionItem) => itemOf taskID db i) fun i _ => silent.itemOf_eq (by decide) (by decide) i
  have jobs : (((d4.rows Tbl.artifactDeletionItems).filter (itemOf taskID d4)).map DeletionItem.jobID).dedup
      = (((db.rows Tbl.artifactDeletionItems).filter (itemOf taskID db)).map DeletionItem.jobID).dedup := by
    rw [silent.kept (by decide) rfl, funext (silent.itemOf_eq (by decide) (by decide))]
  obtain ⟨d6, looped, dropped⟩ := (itemless.jobsCleared (by decide)).drops (by decide) _ fun id mem =>
    ((purgedJobs_spec).mp mem).imp fun _ h => ⟨h.1, h.2.2⟩
  have jobless : Cleared taskID db jobTables d6 := dropped.toCleared fun j own => by
    rw [List.reverseAux_eq, List.append_nil, List.mem_reverse]
    exact (purgedJobs_spec).mpr (owned_job_listed own)
  obtain ⟨_, d7, idle, run7⟩ := jobless.next (t := .stageAttempts) (by decide) (by decide)
    (fun db (a : Attempt) => stageOf db taskID a.stageID) fun a _ => jobless.stageOf_eq (by decide) a.stageID
  obtain ⟨_, d8, unplaced, run8⟩ := idle.next (t := .artifactLocations) (by decide) (by decide)
    (fun db (l : Location) => copyOf db taskID l) fun l _ => idle.copyOf_eq (by decide) l
  obtain ⟨_, d9, artless, run9⟩ := unplaced.next (t := .taskArtifacts) (by decide) (by decide)
    (fun _ (a : Artifact) => a.taskID == taskID) fun _ _ => rfl
  obtain ⟨_, d10, stageless, run10⟩ := artless.next (t := .taskStages) (by decide) (by decide)
    (fun _ (s : Stage) => s.taskID == taskID) fun s _ => by
      simp only [unlink, owned]
      split <;> rfl
  obtain ⟨_, d11, fileless, run11⟩ := stageless.next (t := .taskInputSpoolFiles) (by decide) (by decide)
    (fun _ (f : SpoolFile) => f.taskID == taskID) fun _ _ => rfl
  have own : ∀ u ∈ db.tasks, purgedTask t taskID (unlink taskID .videoTasks u) = owned db taskID .videoTasks u :=
    fun u mem => purgedTask_unlink stored named mem
  have last := fileless.remove_tasks resolved (by decide) (by decide) (by decide) (purgedTask t taskID) own
  have one : ((d11.rows .videoTasks).filter (purgedTask t taskID)).length = 1 := by
    refine (fileless.selected_length (t := .videoTasks) (by decide) _ own).trans ?_
    show (db.tasks.filter fun u => u.taskID == taskID).length = 1
    rw [filter_of_key (tasks_distinct db) stored fun u _ same => by simpa [named] using same, if_pos (by simp [named])]
    rfl
  refine ⟨_, last, fun d' => ?_⟩
  rw [purgeRows, eval_bind_ok (eval_exec_ok unlinked), eval_bind_ok (eval_exec_ok blanked), run3, run4,
    eval_bind_ok (eval_select _ d4), run5, jobs, eval_bind_ok looped, run7, run8, run9, run10, run11, eval_delete_iff,
    last.orphaned_iff List.mem_cons_self (fileless.removed_iff (by decide) own), one]
  constructor
  · rintro ⟨-, -, -, attempts, locations, artifacts, stages, -, tasks, out⟩
    cases out
    exact ⟨⟨attempts, locations, artifacts, stages, tasks⟩, rfl⟩
  · rintro ⟨free, rfl⟩
    exact ⟨unreferenced_of_leaf (by decide), unreferenced_of_leaf (by decide), unreferenced_of_leaf (by decide), free.attempts,
      free.locations, free.artifacts, free.stages, unreferenced_of_leaf (by decide), free.tasks, rfl⟩

end

/-! ## When nothing else refers to the task -/

/-- No row of another task refers to a row of this one. -/
def Apart (taskID : String) (db : Database) : Prop :=
  ∀ tbl, ∀ r ∈ db.rows tbl, owned db taskID tbl r = false → ∀ k ∈ Tbl.refs tbl r, ∀ p ∈ db.rows k.parent,
    Tbl.key k.parent p = k.id → owned db taskID k.parent p = false

instance (taskID : String) (db : Database) : Decidable (Apart taskID db) :=
  decidable_of_iff (∀ tbl ∈ Tbl.all, ∀ r ∈ db.rows tbl, owned db taskID tbl r = false → ∀ k ∈ Tbl.refs tbl r, ∀ p ∈ db.rows k.parent,
    Tbl.key k.parent p = k.id → owned db taskID k.parent p = false) ⟨fun h tbl => h tbl mem_all, fun h tbl _ => h tbl⟩

def uploads (db : Database) : List UploadJob := db.rows Tbl.resultUploadJobs

section
variable {taskID : String} {db : Database} {cleared : List Tbl} {t : Tbl}

/-- The rows of the task that are left when `cleared` are cleared do not refer to `t`. -/
def OwnQuiet (taskID : String) (db : Database) (cleared : List Tbl) (t : Tbl) : Prop :=
  ∀ tbl, tbl ∉ cleared → ∀ r ∈ db.rows tbl, owned db taskID tbl r = true → ∀ k ∈ Tbl.refs tbl (unlink taskID tbl r), k.parent ≠ t

theorem Apart.unreferenced (apart : Apart taskID db) (quiet : OwnQuiet taskID db cleared t) : Unreferenced taskID db cleared t := by
  rintro tbl r stored kept k ref rfl p isStored own same
  cases mine : owned db taskID tbl r with
  | true =>
    have left : tbl ∉ cleared := by
      intro isCleared
      rw [kept isCleared] at mine
      cases mine
    exact quiet tbl left r stored mine k ref rfl
  | false =>
    rw [unlink_of_not_owned mine] at ref
    rw [apart tbl r stored mine k ref p isStored same] at own
    cases own

theorem Unreferenced.apart (free : Unreferenced taskID db cleared t) {r : tbl.Row} (stored : r ∈ db.rows tbl)
    (other : owned db taskID tbl r = false) (ref : k ∈ Tbl.refs tbl r) (parent : k.parent = t) {p : t.Row}
    (isStored : p ∈ db.rows t) (same : t.key p = k.id) : owned db taskID t p = false := by
  rw [← Bool.not_eq_true]
  intro own
  refine free tbl r stored (fun _ => other) k ?_ parent p isStored own same
  rwa [unlink_of_not_owned other]

end

/-- The tables whose rows refer to a table of the task. -/
def referrers : Tbl → List Tbl
  | .stageAttempts => [.nodeDispatchBarriers]
  | .artifactLocations => [.artifactDeletionItems]
  | .taskArtifacts => [.videoTasks, .taskStages, .stageAttempts, .artifactLocations, .artifactDeletionItems, .profileTestRuns]
  | .taskStages => [.videoTasks, .stageAttempts, .taskArtifacts, .nodeDispatchBarriers]
  | .videoTasks => [.taskStages, .taskArtifacts, .callbackDeliveries, .nodeDispatchBarriers, .taskInputSpoolFiles,
      .resultUploadJobs, .taskRemoteRuns, .taskNodeAssets]
  | _ => Tbl.all

theorem refs_from {r : tbl.Row} (mem : k ∈ Tbl.refs tbl r) : tbl ∈ referrers k.parent := by
  have all : (Tbl.refs tbl r).all (fun k => decide (tbl ∈ referrers k.parent)) = true := by
    cases tbl <;> simp [Tbl.refs, Tbl.ref, Function.comp_def, referrers, Tbl.all]
  exact of_decide_eq_true (List.all_eq_true.mp all k mem)

section
variable {taskID : String} {db : Database}

theorem unlinked_task_parent {r : Task} (own : owned db taskID .videoTasks r = true)
    (ref : k ∈ Tbl.refs .videoTasks (unlink taskID .videoTasks r)) : k.parent = .modelRequestProfiles := by
  have same : unlink taskID .videoTasks r = unlinkedTask r := if_pos own
  rw [same] at ref
  simp only [Tbl.refs, unlinkedTask, Tbl.ref, Option.toList_none, List.map_nil, List.append_nil] at ref
  obtain ⟨_, -, rfl⟩ := List.mem_map.mp ref
  rfl

theorem unlinked_stage_parent {r : Stage} (own : owned db taskID .taskStages r = true)
    (ref : k ∈ Tbl.refs .taskStages (unlink taskID .taskStages r)) : k.parent ≠ .taskArtifacts := by
  have same : unlink taskID .taskStages r = unlinkedStage r := if_pos own
  rw [same] at ref
  simp only [Tbl.refs, unlinkedStage, Tbl.ref, Option.toList_none, List.map_nil, List.append_nil, List.mem_append, List.mem_map] at ref
  rcases ref with (⟨_, -, rfl⟩ | ⟨_, -, rfl⟩) | ⟨_, -, rfl⟩ <;> simp

/-- Only tables that refer to `t` and are left matter. -/
theorem OwnQuiet.of_left {cleared : List Tbl} {t : Tbl} (left : List Tbl) (isLeft : (referrers t).filter (· ∉ cleared) = left)
    (each : ∀ tbl ∈ left, ∀ r ∈ db.rows tbl, owned db taskID tbl r = true → ∀ k ∈ Tbl.refs tbl (unlink taskID tbl r), k.parent ≠ t) :
    OwnQuiet taskID db cleared t := by
  rintro tbl kept r stored own k ref rfl
  have listed : tbl ∈ left := by
    rw [← isLeft, List.mem_filter]
    exact ⟨refs_from ref, decide_eq_true kept⟩
  exact each tbl listed r stored own k ref rfl

theorem quiet_locations : OwnQuiet taskID db (.artifactLocations :: .stageAttempts :: jobTables) .artifactLocations :=
  .of_left [] (by decide) nofun

theorem quiet_artifacts :
    OwnQuiet taskID db (.taskArtifacts :: .artifactLocations :: .stageAttempts :: jobTables) .taskArtifacts := by
  refine .of_left [.videoTasks, .taskStages, .profileTestRuns] (by decide) fun tbl listed r stored own k ref parent => ?_
  simp only [List.mem_cons, List.not_mem_nil, or_false] at listed
  rcases listed with rfl | rfl | rfl
  · exact nomatch parent.symm.trans (unlinked_task_parent own ref)
  · exact unlinked_stage_parent own ref parent
  · cases own

section
variable (noBarrier : ∀ b ∈ db.barriers, b.taskID ≠ taskID)
include noBarrier

theorem quiet_attempts : OwnQuiet taskID db (.stageAttempts :: jobTables) .stageAttempts := by
  refine .of_left [.nodeDispatchBarriers] (by decide) fun tbl listed r stored own k ref parent => ?_
  obtain rfl := List.mem_singleton.mp listed
  exact noBarrier r stored (beq_iff_eq.mp own)

theorem quiet_stages :
    OwnQuiet taskID db (.taskStages :: .taskArtifacts :: .artifactLocations :: .stageAttempts :: jobTables) .taskStages := by
  refine .of_left [.videoTasks, .nodeDispatchBarriers] (by decide) fun tbl listed r stored own k ref parent => ?_
  simp only [List.mem_cons, List.not_mem_nil, or_false] at listed
  rcases listed with rfl | rfl
  · exact nomatch parent.symm.trans (unlinked_task_parent own ref)
  · exact noBarrier r stored (beq_iff_eq.mp own)

theorem quiet_tasks (noUpload : ∀ j ∈ uploads db, j.taskID ≠ taskID) : OwnQuiet taskID db clearedTables .videoTasks := by
  refine .of_left [.nodeDispatchBarriers, .resultUploadJobs] (by decide) fun tbl listed r stored own k ref parent => ?_
  simp only [List.mem_cons, List.not_mem_nil, or_false] at listed
  rcases listed with rfl | rfl
  · exact noBarrier r stored (beq_iff_eq.mp own)
  · exact noUpload r stored (beq_iff_eq.mp own)

end

/-- An item of another task keeps its job. -/
theorem job_of_item {i : DeletionItem} (stored : i ∈ db.rows .artifactDeletionItems)
    (other : owned db taskID .artifactDeletionItems i = false)
    {j : DeletionJob} (same : j.id = i.jobID) : owned db taskID .artifactDeletionJobs j = false := by
  rw [← Bool.not_eq_true]
  intro own
  have all := List.all_eq_true.mp (Bool.and_eq_true_iff.mp own).2 i stored
  have mine : itemOf taskID db i = true := by simpa [same] using all
  exact nomatch other.symm.trans mine

theorem purgeable_iff (stored : t ∈ db.tasks) (named : t.taskID = taskID) (noBarrier : ∀ b ∈ db.barriers, b.taskID ≠ taskID) :
    Purgeable taskID db ↔ (∀ j ∈ uploads db, j.taskID ≠ taskID) ∧ Apart taskID db := by
  constructor
  · intro free
    constructor
    · intro j isJob same
      exact free.tasks .resultUploadJobs j isJob (fun listed => absurd listed (by decide)) ⟨.videoTasks, j.taskID, false⟩
        List.mem_cons_self rfl t stored (beq_iff_eq.mpr named) (named.trans same.symm)
    · rintro tbl r isStored other ⟨parent, id, cascade⟩ ref p found same
      have listed := refs_parent ref
      simp only [parents, List.mem_cons, List.not_mem_nil, or_false] at listed
      rcases listed with rfl | rfl | rfl | rfl | rfl | rfl | rfl | rfl
      · exact free.tasks.apart isStored other ref rfl found same
      · rfl
      · exact free.stages.apart isStored other ref rfl found same
      · exact free.attempts.apart isStored other ref rfl found same
      · exact free.artifacts.apart isStored other ref rfl found same
      · exact free.locations.apart isStored other ref rfl found same
      · obtain rfl := refs_job ref rfl
        exact job_of_item isStored other (same.trans (item_refs_job ref rfl))
      · rfl
  · rintro ⟨noUpload, apart⟩
    exact ⟨apart.unreferenced (quiet_attempts noBarrier), apart.unreferenced quiet_locations, apart.unreferenced quiet_artifacts,
      apart.unreferenced (quiet_stages noBarrier), apart.unreferenced (quiet_tasks noBarrier noUpload)⟩

/-! ## The whole call -/

theorem sameTaskArtifactLocations_perm {current purged : List Location} (distinct : current.Pairwise fun a b => a.id ≠ b.id)
    (perm : purged.Perm current) : sameTaskArtifactLocations current purged = true := by
  rw [sameTaskArtifactLocations, perm.length_eq, beq_self_eq_true, Bool.true_and, List.all_eq_true]
  intro l mem
  rw [filter_of_key distinct (perm.mem_iff.mp mem) fun s _ h => (by simpa using h), if_pos (by simp)]
  simp

theorem adminDeleteBody_eval {purged : List Location} (stored : t ∈ db.tasks) (named : t.taskID = taskID)
    (undeleted : t.deletedAt = none) (isOver : t.status.isTerminal = true) (noBarrier : ∀ b ∈ db.barriers, b.taskID ≠ taskID)
    (noProfile : ∀ r ∈ db.rows Tbl.profileTestRuns, ∀ a ∈ db.artifacts, a.taskID = taskID → ProfileTestRun.artifactID r ≠ some a.id)
    (current : purged.Perm (listTaskArtifactLocations taskID db)) :
    (adminDeleteBody taskID (some purged)).eval db = (purgeRows taskID t).eval db := by
  have isTask : ((db.tasks.find? fun u => u.taskID == taskID && u.deletedAt.isNone).elim (.error .taskNotFound) .ok : Except Err Task)
      = .ok t := by
    rw [find_of_key (tasks_distinct db) stored fun u _ hit =>
      (by simp only [Bool.and_eq_true, beq_iff_eq] at hit; exact hit.1.trans named.symm),
      if_pos (by simp [named, undeleted])]
    rfl
  have barriers : ((db.barriers.filter (·.taskID == taskID)).length == 0) = true := by
    rw [beq_iff_eq, List.length_eq_zero_iff, List.filter_eq_nil_iff]
    intro b mem
    simpa using noBarrier b mem
  have profiles : (((db.rows Tbl.profileTestRuns).filter fun (r : ProfileTestRun) =>
      db.artifacts.any fun a => r.artifactID == some a.id && a.taskID == taskID).length == 0) = true := by
    rw [beq_iff_eq, List.length_eq_zero_iff, List.filter_eq_nil_iff]
    intro r mem found
    obtain ⟨a, isArtifact, hit⟩ := List.any_eq_true.mp found
    simp only [Bool.and_eq_true, beq_iff_eq] at hit
    exact noProfile r mem a isArtifact hit.2 hit.1
  have keys : (db.rows .artifactLocations).Pairwise fun a b => Tbl.key .artifactLocations a ≠ Tbl.key .artifactLocations b :=
    parent_distinct (by decide)
  have distinct : (listTaskArtifactLocations taskID db).Pairwise fun a b => a.id ≠ b.id := keys.filter _
  have passes (c : Bool) (e : Err) (met : c = true) : (require c e).eval db = (.ok (), db) := by
    rw [require, if_pos met]
    rfl
  have found : (query fun (db : Database) => (db.tasks.find? fun t => t.taskID == taskID && t.deletedAt.isNone).elim
      (.error Err.taskNotFound) .ok).eval db = (.ok t, db) := by rw [eval_query, isTask]
  have deletable : t.status.adminCanDelete = true := isOver
  rw [adminDeleteBody, eval_bind_ok found, eval_bind_ok (passes _ _ deletable), eval_bind_ok (eval_select _ db),
    eval_bind_ok (passes _ _ barriers), eval_bind_ok (eval_select _ db), eval_bind_ok (passes _ _ profiles)]
  show (select (listTaskArtifactLocations taskID) >>= fun current =>
    require (sameTaskArtifactLocations current purged) .stateConflict >>= fun _ => purgeRows taskID t).eval db = _
  rw [eval_bind_ok (eval_select _ db), eval_bind_ok (passes _ _ (sameTaskArtifactLocations_perm distinct current))]

/-- With all tables cleared and nothing of the task in the others, what is left are the rows of
other tasks. -/
theorem Cleared.final {d : Database} (h : Cleared taskID db clearedTables d) (noBarrier : ∀ b ∈ db.barriers, b.taskID ≠ taskID)
    (noUpload : ∀ j ∈ uploads db, j.taskID ≠ taskID) (tbl : Tbl) :
    d.rows tbl = (db.rows tbl).filter fun r => !owned db taskID tbl r := by
  have gone : ∀ r ∈ db.rows tbl, (decide (tbl ∈ clearedTables) && owned db taskID tbl r) = owned db taskID tbl r := by
    intro r stored
    by_cases isBarrier : tbl = .nodeDispatchBarriers
    · subst isBarrier
      exact (beq_eq_false_iff_ne.mpr (noBarrier r stored)).symm
    by_cases isUpload : tbl = .resultUploadJobs
    · subst isUpload
      exact (beq_eq_false_iff_ne.mpr (noUpload r stored)).symm
    cases tbl <;> first | rfl | exact absurd rfl isBarrier | exact absurd rfl isUpload
  rw [h tbl, List.filter_congr fun r mem => by rw [gone r mem]]
  refine (List.map_congr_left fun r mem => ?_).trans (List.map_id _)
  exact unlink_of_not_owned (Bool.not_eq_true' _ ▸ (List.mem_filter.mp mem).2)

end

/-- For a task that has ended, with no barrier and no profile test run, and the current copies
of its artifacts: the purge succeeds and leaves exactly the rows of other tasks, if and only if
the task has no upload job and no other task's row refers to a row of it. -/
theorem adminDelete_removes_iff {taskID : String} {db : Database} {t : Task} {purged : List Location} (resolved : db.refsResolve = true)
    (stored : t ∈ db.tasks) (named : t.taskID = taskID) (undeleted : t.deletedAt = none) (isOver : t.status.isTerminal = true)
    (noBarrier : ∀ b ∈ db.barriers, b.taskID ≠ taskID)
    (noProfile : ∀ r ∈ db.rows Tbl.profileTestRuns, ∀ a ∈ db.artifacts, a.taskID = taskID → ProfileTestRun.artifactID r ≠ some a.id)
    (current : purged.Perm (listTaskArtifactLocations taskID db)) (n : Nat) :
    ((adminDelete taskID (some purged) noFaults n db).result = .ok () ∧
      ∀ tbl, (adminDelete taskID (some purged) noFaults n db).db.rows tbl = (db.rows tbl).filter fun r => !owned db taskID tbl r) ↔
    (∀ j ∈ uploads db, j.taskID ≠ taskID) ∧ Apart taskID db := by
  obtain ⟨result, left⟩ := immediate_noFaults (adminDeleteBody taskID (some purged))
  obtain ⟨final, cleared, purges⟩ := purgeRows_eval resolved stored named
  rw [← purgeable_iff stored named noBarrier]
  have body := adminDeleteBody_eval stored named undeleted isOver noBarrier noProfile current
  rw [body] at result left
  constructor
  · rintro ⟨ok, -⟩
    have out : (purgeRows taskID t).eval db = (.ok (), ((purgeRows taskID t).eval db).2) :=
      Prod.ext (result.symm.trans ok) rfl
    exact ((purges _).mp out).1
  · intro free
    have out := (purges final).mpr ⟨free, rfl⟩
    rw [out] at result left
    refine ⟨result, fun tbl => ?_⟩
    rw [adminDelete, left]
    exact cleared.final noBarrier ((purgeable_iff stored named noBarrier).mp free).1 tbl

/-- A stage of the task with an attempt, the output and its copy, a callback and an idempotency key. -/
def rowsOfTask (taskID : String) : List Dml :=
  [.insert Tbl.taskStages fun _ _ => [{ id := taskID ++ "s", taskID := taskID, stageOrder := 1, stageType := .generation, status := .failed
                                        maxAttempts := 1, createdAt := 1, updatedAt := 1 }],
   .insert Tbl.stageAttempts fun _ _ => [{ id := taskID ++ "a", stageID := taskID ++ "s", attemptNo := 1, operationID := taskID ++ "o"
                                           nodeID := "n1", status := .failed, startedAt := 1 }],
   .insert Tbl.taskArtifacts fun _ _ => [{ id := taskID ++ "r", taskID := taskID, stageID := some (taskID ++ "s")
                                           kind := .intermediateVideo, createdAt := 1, expiresAt := 2 }],
   .update Tbl.taskStages (fun _ s => s.taskID == taskID) fun _ s => { s with outputArtifactID := some (taskID ++ "r") },
   .insert Tbl.artifactLocations fun _ _ => [{ id := taskID ++ "l", artifactID := taskID ++ "r", nodeID := "n1"
                                               nodeArtifactID := taskID ++ "n", sha256 := "h", createdAt := 1 }],
   .insert Tbl.callbackDeliveries fun _ _ => [{ id := taskID ++ "d", taskID := taskID, externalStatus := "cancelled", stateVersion := 2
                                                requestBodyHash := "h", createdAt := 1, updatedAt := 1 }],
   .insert Tbl.idempotencyKeys fun _ id => [{ id := id, apiKeyID := "k1", keyHash := taskID, requestHash := "h", taskID := taskID
                                              createdAt := 1, expiresAt := 2 }]]

/-- The store with two tasks; the first was cancelled. -/
def twoTasks : Database :=
  (Flow.remoteConfig.after Flow.remoteOptions
    [Flow.remoteCreate, ⟨.adminCancel "t1" "c1", 1000, noFaults, 0, rfl⟩,
     ⟨.create (fun _ => true) { Flow.remoteRequest with taskID := "t2" } "" none, 1000, noFaults, 0, rfl⟩]).db.load
    (rowsOfTask "t1" ++ rowsOfTask "t2")

theorem adminDelete_removes_iff_cancelled :
    ([Tbl.videoTasks, .taskStages, .stageAttempts, .taskArtifacts, .artifactLocations, .callbackDeliveries, .idempotencyKeys].all fun tbl =>
        ((twoTasks.rows tbl).filter (owned twoTasks "t1" tbl)).length == 1 && (twoTasks.rows tbl).length == 2) = true ∧
      (adminDelete "t1" (some (listTaskArtifactLocations "t1" twoTasks)) noFaults 0 twoTasks).result = .ok () ∧
      ∀ tbl, (adminDelete "t1" (some (listTaskArtifactLocations "t1" twoTasks)) noFaults 0 twoTasks).db.rows tbl
        = (twoTasks.rows tbl).filter fun r => !owned twoTasks "t1" tbl r := by
  have ended : ∃ t ∈ twoTasks.tasks, t.taskID = "t1" ∧ t.deletedAt = none ∧ t.status.isTerminal = true := by decide +kernel
  obtain ⟨t, stored, named, undeleted, isOver⟩ := ended
  have barriers : twoTasks.barriers = [] := by decide +kernel
  have profiles : twoTasks.rows .profileTestRuns = [] := by decide +kernel
  have jobs : uploads twoTasks = [] := by decide +kernel
  refine ⟨by decide +kernel,
    (adminDelete_removes_iff (by decide +kernel) stored named undeleted isOver ?_ ?_ (.refl _) 0).mpr ⟨?_, by decide +kernel⟩⟩
  · simp [barriers]
  · simp [profiles]
  · simp [jobs]

/-- The store with a task whose result has been uploaded. -/
def uploadedTask : Database :=
  (Flow.remoteConfig.after Flow.remoteOptions (Flow.remoteUpload ++
    [⟨.completeResultUpload "j1" "w2" "https://s/o" 5 "c2", 1000, noFaults, 0, rfl⟩])).db

/-- Its upload job keeps the task from being deleted. -/
theorem adminDelete_refused_uploaded :
    uploadedTask.refsResolve = true ∧
      (uploadedTask.tasks.map fun t => (t.taskID, t.status, t.deletedAt)) = [("t1", .succeeded, none)] ∧
      uploadedTask.barriers.length = 0 ∧ (uploadedTask.rows Tbl.profileTestRuns).length = 0 ∧
      (listTaskArtifactLocations "t1" uploadedTask).length = 0 ∧
      (adminDelete "t1" (some []) noFaults 0 uploadedTask).result = .error (.sqlite .foreignKey) := by
  refine ⟨?_, ?_, ?_, ?_, ?_, ?_⟩ <;> decide +kernel

end MinimaxProxy.Store
