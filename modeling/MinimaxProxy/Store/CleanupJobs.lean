import MinimaxProxy.Store.PurgeEffects

/-!
# Cleanup jobs and their items

A previewed cleanup has no items yet; they are inserted when it is confirmed, in the
transaction that also deletes the tasks. So the tasks that a confirmation deletes are those of
its own candidates, which had ended.
-/

namespace MinimaxProxy.Store
open Sql Sql.Prog

variable {db db' : Database} {n : Nat}

/-- The items and the jobs. -/
def items (db : Database) : List DeletionItem := db.rows Tbl.artifactDeletionItems

def jobs (db : Database) : List DeletionJob := db.rows Tbl.artifactDeletionJobs

/-- Every item is one of a job that is more than a preview. -/
def Previews (db : Database) : Prop := ∀ i ∈ items db, ∃ j ∈ jobs db, j.id = i.jobID ∧ j.status ≠ .preview

/-- The statement keeps it. -/
def Tidy (w : Dml) : Prop := ∀ db n db', w.apply db = .ok (n, db') → Previews db → Previews db'

theorem Previews.of_same (h : Previews db) (sameItems : db'.rows Tbl.artifactDeletionItems = db.rows Tbl.artifactDeletionItems)
    (sameJobs : db'.rows Tbl.artifactDeletionJobs = db.rows Tbl.artifactDeletionJobs) : Previews db' := by
  intro i mem
  rw [items, sameItems] at mem
  rw [jobs, sameJobs]
  exact h i mem

theorem tidy_chains : Chains (S := schema) fun db db' => Previews db → Previews db' where
  refl _ := id
  trans first last := last ∘ first

section
variable {w : Dml}

/-- Only the rows of a remote run can go with a row of another table. -/
theorem rows_of_other (applied : w.apply db = .ok (n, db')) {t : Tbl} (other : w.table ≠ t)
    (run : t ≠ .taskRemoteRuns) (asset : t ≠ .taskNodeAssets) : db'.rows t = db.rows t := by
  refine apply_rows_of_ne applied (Ne.symm other) fun r _ k mem _ => ?_
  by_contra cascade
  rw [Bool.not_eq_false] at cascade
  exact (cascade_child (t := t) mem cascade).elim run asset

theorem tidy_other (item : w.table ≠ .artifactDeletionItems) (job : w.table ≠ .artifactDeletionJobs) : Tidy w :=
  fun _ _ _ applied h => h.of_same (rows_of_other applied item (by decide) (by decide)) (rows_of_other applied job (by decide) (by decide))

theorem tidy_updateItems {sel : Database → DeletionItem → Bool} {set : Database → DeletionItem → DeletionItem}
    (kept : ∀ db i, (set db i).jobID = i.jobID) : Tidy (.update Tbl.artifactDeletionItems sel set) := by
  intro db n db' applied h i mem
  have sameJobs : db'.rows Tbl.artifactDeletionJobs = db.rows Tbl.artifactDeletionJobs :=
    apply_update_rows_of_ne applied (by decide)
  rw [jobs, sameJobs]
  obtain ⟨tab, rfl, rows, -⟩ := apply_update applied
  rw [items, DB.rows_put_self, rows] at mem
  obtain ⟨old, stored, rfl⟩ := List.mem_map.mp mem
  have job : (if sel db old then set db old else old).jobID = old.jobID := by
    split
    · exact kept db old
    · rfl
  rw [job]
  exact h old stored

theorem tidy_updateJobs {sel : Database → DeletionJob → Bool} {set : Database → DeletionJob → DeletionJob}
    (kept : ∀ db j, (set db j).id = j.id) (status : ∀ db j, (set db j).status ≠ .preview) :
    Tidy (.update Tbl.artifactDeletionJobs sel set) := by
  intro db n db' applied h i mem
  have sameItems : db'.rows Tbl.artifactDeletionItems = db.rows Tbl.artifactDeletionItems :=
    apply_update_rows_of_ne applied (by decide)
  rw [items, sameItems] at mem
  obtain ⟨j, stored, same, isOver⟩ := h i mem
  obtain ⟨tab, rfl, rows, -⟩ := apply_update applied
  refine ⟨if sel db j then set db j else j, ?_, ?_⟩
  · rw [jobs, DB.rows_put_self, rows]
    exact List.mem_map_of_mem stored
  · split
    · exact ⟨(kept db j).trans same, status db j⟩
    · exact ⟨same, isOver⟩

theorem tidy_insertJobs {new : Database → Nat → List DeletionJob} : Tidy (.insert Tbl.artifactDeletionJobs new) := by
  intro db n db' applied h i mem
  have sameItems : db'.rows Tbl.artifactDeletionItems = db.rows Tbl.artifactDeletionItems :=
    apply_insert_rows_of_ne applied (by decide)
  rw [items, sameItems] at mem
  obtain ⟨j, stored, same, isOver⟩ := h i mem
  obtain ⟨tab, rfl, rows, -⟩ := apply_insert applied
  refine ⟨j, ?_, same, isOver⟩
  rw [jobs, DB.rows_put_self, rows]
  exact List.mem_append_left _ stored

theorem tidy_deleteItems {sel : Database → DeletionItem → Bool} : Tidy (.delete Tbl.artifactDeletionItems sel) := by
  intro db n db' applied h i mem
  rw [items, delete_rows applied] at mem
  rw [jobs, delete_others applied (by decide) (by decide)]
  exact h i (List.mem_filter.mp mem).1

/-- A job may go when none of its items is left. -/
theorem tidy_deleteJobs {sel : Database → DeletionJob → Bool}
    (empty : ∀ db j, sel db j = true → ∀ i ∈ items db, i.jobID ≠ j.id) : Tidy (.delete Tbl.artifactDeletionJobs sel) := by
  intro db n db' applied h i mem
  rw [items, delete_others applied (by decide) (by decide)] at mem
  obtain ⟨j, stored, same, isOver⟩ := h i mem
  refine ⟨j, ?_, same, isOver⟩
  rw [jobs, delete_rows applied]
  refine List.mem_filter.mpr ⟨stored, ?_⟩
  cases hit : sel db j with
  | false => rfl
  | true => exact absurd same.symm (empty db j hit i mem)

end

/-! ## The operations on jobs and items -/

/-- A statement that opens no job: items stay with their jobs, no job becomes a preview, and a job
goes only when none of its items is left. -/
inductive Sweeping : Dml → Prop
  | other {w : Dml} (item : w.table ≠ .artifactDeletionItems) (job : w.table ≠ .artifactDeletionJobs) : Sweeping w
  | items {sel : Database → DeletionItem → Bool} {set : Database → DeletionItem → DeletionItem}
      (kept : ∀ db i, (set db i).jobID = i.jobID) : Sweeping (.update Tbl.artifactDeletionItems sel set)
  | jobs {sel : Database → DeletionJob → Bool} {set : Database → DeletionJob → DeletionJob} (kept : ∀ db j, (set db j).id = j.id)
      (status : ∀ db j, (set db j).status ≠ .preview) : Sweeping (.update Tbl.artifactDeletionJobs sel set)
  | dropItems {sel : Database → DeletionItem → Bool} : Sweeping (.delete Tbl.artifactDeletionItems sel)
  | dropJobs {sel : Database → DeletionJob → Bool} (empty : ∀ db j, sel db j = true → ∀ i ∈ Store.items db, i.jobID ≠ j.id) :
      Sweeping (.delete Tbl.artifactDeletionJobs sel)

/-- What such statements keep. -/
structure Sweeps (R : Database → Database → Prop) : Prop where
  chains : Chains (S := schema) R
  each : ∀ w, Sweeping w → ∀ db n db', w.apply db = .ok (n, db') → R db db'

theorem sweeps_previews : Sweeps fun db db' => Previews db → Previews db' where
  chains := tidy_chains
  each w sweeping := by
    cases sweeping with
    | other item job => exact tidy_other item job
    | items kept => exact tidy_updateItems kept
    | jobs kept status => exact tidy_updateJobs kept status
    | dropItems => exact tidy_deleteItems
    | dropJobs empty => exact tidy_deleteJobs empty

section
variable {R : Database → Database → Prop} {α : Type}

theorem Sweeps.direct (h : Sweeps R) {p : Prog α} (writes : p.Writes Sweeping) (faults : Faults Err) (n : Nat) (db : Database) :
    R db (p.direct faults n db).db :=
  writes.yields h.chains.refl (fun _ _ _ => h.chains.trans) h.each (p.run_yields faults n db)

theorem Sweeps.shadowed (h : Sweeps R) {p : Prog (Except Err α)} (writes : p.Writes Sweeping) (faults : Faults Err) (n : Nat)
    (db : Database) : R db (immediateShadowed p faults n db).db := by
  unfold immediateShadowed
  split
  · exact h.chains.refl db
  · have out := h.direct writes faults (n + 1) db
    rw [Prog.direct] at out
    split
    · exact h.chains.refl db
    · rename_i ran
      rw [ran] at out
      split
      · exact h.chains.refl db
      · exact out

theorem Sweeps.transaction (h : Sweeps R) {p : Prog α} (keeps : p.Keeps R) (faults : Faults Err) (n : Nat) (db : Database) :
    R db (immediate p faults n db).db := by
  rcases immediate_effect p faults with same | ⟨a, out⟩
  · rw [same]
    exact h.chains.refl db
  · exact keeps _ _ _ out

theorem Sweeps.keeps (h : Sweeps R) {p : Prog α} (writes : p.Writes Sweeping) : p.Keeps R := writes.keeps h.chains h.each

end

attribute [simp] Sweeping.items Sweeping.jobs Sweeping.dropItems

@[simp] theorem sweeping_other {w : Dml} (h : ¬ w.table = .artifactDeletionItems ∧ ¬ w.table = .artifactDeletionJobs) : Sweeping w :=
  .other h.1 h.2

section
variable {R : Database → Database → Prop} (h : Sweeps R) (faults : Faults Err) (n : Nat) (db : Database) {itemID leaseToken : String}
  {leaseDuration now : Int}
include h

theorem claimDeletionItem_sweeps {nodeID : String} : R db (claimDeletionItem nodeID leaseToken leaseDuration now faults n db).db :=
  h.transaction (h.keeps (by simp [claimDeletionItemBody])) faults n db

theorem renewDeletionLease_sweeps : R db (renewDeletionLease itemID leaseToken leaseDuration now faults n db).db :=
  h.direct (by simp) faults n db

theorem failDeletionItem_sweeps {code message : String} {nextAttempt : Int} {terminal : Bool} :
    R db (failDeletionItem itemID leaseToken code message nextAttempt terminal now faults n db).db :=
  h.transaction (h.keeps (by simp [failDeletionItemBody, heldItem,
    artifactTask, setDeletionState, apply_ite Prod.fst, ite_eq_iff])) faults n db

theorem completeDeletionItem_sweeps {absent : Bool} {deletedBytes : Int} :
    R db (completeDeletionItem itemID leaseToken absent deletedBytes now faults n db).db :=
  h.transaction (h.keeps (by simp [completeDeletionItemBody, heldItem, artifactTask, setDeletionState, ite_eq_iff])) faults n db

theorem retryArtifactCleanup_sweeps {jobID : String} {nodeIDs : List String} :
    R db (retryArtifactCleanup jobID nodeIDs now faults n db).db :=
  h.shadowed (by simp [retryArtifactCleanupBody]) faults n db

end

/-- A purge leaves no item without its job. -/
theorem writes_purgeRows (taskID : String) (t : Task) : (purgeRows taskID t).Writes Sweeping := by
  have jobs (id : String) : Sweeping (.delete Tbl.artifactDeletionJobs (emptyJob id)) := by
    refine .dropJobs fun db j hit i mem same => ?_
    simp only [emptyJob, Bool.and_eq_true, beq_iff_eq, Bool.not_eq_true'] at hit
    exact absurd (List.any_eq_false.mp hit.2 i mem) (by simp [same, hit.1])
  simp [purgeRows, jobs]

theorem adminDelete_sweeps {R : Database → Database → Prop} (h : Sweeps R) (faults : Faults Err) (n : Nat) (db : Database)
    (taskID : String) (purged : Option (List Location)) : R db (adminDelete taskID purged faults n db).db := by
  refine h.transaction (fun db u db' out => ?_) faults n db
  obtain ⟨t, -, -, -, -, rows⟩ := adminDelete_purges out
  exact h.keeps (writes_purgeRows taskID t) _ _ _ rows

theorem previewArtifactCleanup_previews (jobID secret : String)
    (olderThanDays : Int) (requestedBy : String) (now : Int) (faults : Faults Err)
    (n : Nat) (db : Database) (previews : Previews db) :
    Previews (previewArtifactCleanup jobID secret olderThanDays requestedBy now faults n db).db := by
  rw [previewArtifactCleanup]
  split
  · exact previews
  · rcases direct_after writes_select _ faults n db with same | ⟨_, m, -, went⟩
    · rwa [same]
    · rw [went]
      rcases direct_after (writes_attempt.mpr writes_select) _ faults m db with same | ⟨_, k, -, went'⟩
      · rwa [same]
      · rw [went']
        rcases direct_exec _ faults with same | ⟨_, applied⟩
        · rwa [same]
        · exact tidy_insertJobs _ _ _ applied previews

/-! ## The jobs being opened -/

/-- While a job is opened its items are those of the artifacts `ids`; the others are as ever. -/
def Opening (jobID : String) (ids : List String) (db : Database) : Prop :=
  ∀ i ∈ items db, (i.jobID = jobID ∧ i.artifactID ∈ ids) ∨ ∃ j ∈ jobs db, j.id = i.jobID ∧ j.status ≠ .preview

/-- The statement adds items only to the job that is opened. -/
def Opens (jobID : String) (ids : List String) (db db' : Database) : Prop :=
  (Opening jobID ids db → Opening jobID ids db') ∧ jobs db' = jobs db

section
variable {jobID : String} {ids : List String}

theorem opens_chains : Chains (S := schema) (Opens jobID ids) where
  refl _ := ⟨id, rfl⟩
  trans first last := ⟨last.1 ∘ first.1, last.2.trans first.2⟩

theorem opens_other {w : Dml} (item : w.table ≠ .artifactDeletionItems) (job : w.table ≠ .artifactDeletionJobs)
    (applied : w.apply db = .ok (n, db')) : Opens jobID ids db db' := by
  have sameItems : items db' = items db := rows_of_other applied item (by decide) (by decide)
  have sameJobs : jobs db' = jobs db := rows_of_other applied job (by decide) (by decide)
  refine ⟨fun h i mem => ?_, sameJobs⟩
  rw [sameItems] at mem
  rw [sameJobs]
  exact h i mem

theorem opens_insert {i : DeletionItem} (ofJob : i.jobID = jobID) (listed : i.artifactID ∈ ids)
    (applied : (Dml.insert Tbl.artifactDeletionItems fun _ _ => [i]).apply db = .ok (n, db')) : Opens jobID ids db db' := by
  have sameJobs : jobs db' = jobs db := apply_insert_rows_of_ne applied (by decide)
  refine ⟨fun h k mem => ?_, sameJobs⟩
  obtain ⟨tab, rfl, rows, -⟩ := apply_insert applied
  rw [items, DB.rows_put_self, rows] at mem
  rw [sameJobs]
  rcases List.mem_append.mp mem with old | new
  · exact h k old
  · rw [List.mem_singleton.mp new]
    exact .inl ⟨ofJob, listed⟩

/-- The job is open, so none of its items is left out. -/
theorem Opening.previews (h : Opening jobID ids db) {j : DeletionJob} (stored : j ∈ jobs db) (same : j.id = jobID)
    (isOver : j.status ≠ .preview) : Previews db := by
  intro i mem
  rcases h i mem with ⟨own, -⟩ | other
  · exact ⟨j, stored, same.trans own.symm, isOver⟩
  · exact other

end

theorem jobs_unique {a b : DeletionJob} (ha : a ∈ jobs db) (hb : b ∈ jobs db) (same : a.id = b.id) : a = b := by
  refine eq_of_key ((db Tbl.artifactDeletionJobs).fit.imp fun {a b} h => ?_) ha hb same
  have fits : (a.id != b.id) = true := h
  exact bne_iff_ne.mp fits

theorem artifacts_unique {a b : Artifact} (ha : a ∈ db.artifacts) (hb : b ∈ db.artifacts) (same : a.id = b.id) :
    a = b := by
  refine eq_of_key ((db Tbl.taskArtifacts).fit.imp fun {a b} h => ?_) ha hb same
  have fits : (a.id != b.id) = true := h
  exact bne_iff_ne.mp fits

theorem requestTaskDeletion_previews (uuid : Nat → String) (taskID : String) (reason : DeletionReason) (requestedBy : String)
    (now : Int) (faults : Faults Err) (n : Nat) (db : Database) (previews : Previews db) :
    Previews (requestTaskDeletion uuid taskID reason requestedBy now faults n db).db := by
  refine sweeps_previews.transaction (fun db r db' out => ?_) faults n db previews
  simp only [requestTaskDeletionBody, returns_bind, returns_query, returns_require, returns_select] at out
  obtain ⟨t, db, ⟨-, rfl⟩, _, db, ⟨-, rfl⟩, candidates, db, ⟨-, rfl⟩, _, opened, inserts, _, listed, lists, rest⟩ := out
  intro previews
  have begun := tidy_insertJobs _ _ _ (returns_exec.mp inserts) previews
  have adds : Opens (uuid 0) (candidates.map (·.1.id)) opened listed := by
    refine keeps_forEach opens_chains (fun c mem => ?_) _ _ _ lists
    refine keeps_bind opens_chains (keeps_exec fun _ _ _ => opens_insert rfl ?_) fun _ => keeps_pure opens_chains
    exact List.mem_map_of_mem (List.fst_mem_of_mem_zipIdx mem)
  obtain ⟨_, d1, locates, _, d2, marks, _, d3, drops, _, d4, deletes, _, d5, once, -, rfl⟩ := rest
  obtain ⟨-, rfl⟩ := returns_oneRow.mp once
  have others : Opens (uuid 0) (candidates.map (·.1.id)) listed db' := by
    refine opens_chains.trans (opens_other ?_ ?_ (returns_exec.mp locates)) ?_
    rotate_left 2
    refine opens_chains.trans (opens_other ?_ ?_ (returns_exec.mp marks)) ?_
    rotate_left 2
    refine opens_chains.trans (opens_other ?_ ?_ (returns_exec.mp drops)) (opens_other ?_ ?_ (returns_exec.mp deletes))
    all_goals simp
  have all := opens_chains.trans adds others
  obtain ⟨tab, rfl, rows, -⟩ := apply_insert (returns_exec.mp inserts)
  have isOpen : ∃ j ∈ jobs db', j.id = uuid 0 ∧ j.status ≠ .preview := by
    rw [all.2, jobs, DB.rows_put_self, rows]
    refine ⟨_, List.mem_append_right _ (List.mem_singleton_self _), rfl, ?_⟩
    dsimp only
    split <;> simp
  obtain ⟨j, stored, same, isOver⟩ := isOpen
  exact (all.1 fun i mem => .inr (begun i mem)).previews stored same isOver

/-- The task of a cleanup candidate has ended. -/
theorem candidate_over {cutoff : Int} {c : CleanupCandidate} (mem : c ∈ cleanupCandidates cutoff db) :
    ∃ t ∈ db.tasks, t.status.isTerminal = true ∧ t.deletedAt = none ∧ ∃ a ∈ db.artifacts, a.id = c.artifactID ∧ a.taskID = t.taskID := by
  simp only [cleanupCandidates, List.mem_insertionSort, List.mem_flatMap, List.mem_filter, List.mem_map] at mem
  obtain ⟨t, ⟨stored, finished⟩, a, ⟨isArtifact, ofTask⟩, l, -, rfl⟩ := mem
  simp only [Bool.and_eq_true, beq_iff_eq, Option.isNone_iff_eq_none] at finished ofTask
  exact ⟨t, stored, finished.1.2, finished.1.1, a, isArtifact, rfl, ofTask.1.1⟩

/-- The tasks that a job being opened names have ended. -/
theorem opening_over {mid : Database} {job : DeletionJob} {cutoff : Int} {taskID : String} {t : Task} (stored : job ∈ jobs db)
    (isPreview : job.status = .preview) (sameJobs : jobs mid = jobs db)
    (opening : Opening job.id ((cleanupCandidates cutoff db).map (·.artifactID)) mid)
    (artifacts : ∀ a ∈ mid.artifacts, ∃ b ∈ db.artifacts, b.id = a.id ∧ b.taskID = a.taskID)
    (cleaned : cleanedTask job.id mid taskID = true) (isTask : t ∈ db.tasks) (named : t.taskID = taskID) :
    t.status.isTerminal = true := by
  obtain ⟨a, isArtifact, hit⟩ := List.any_eq_true.mp cleaned
  simp only [Bool.and_eq_true, beq_iff_eq] at hit
  obtain ⟨i, isItem, names⟩ := List.any_eq_true.mp hit.2
  simp only [Bool.and_eq_true, beq_iff_eq] at names
  rcases opening i isItem with ⟨-, listed⟩ | ⟨j, isJob, same, isOver⟩
  · obtain ⟨c, candidate, same⟩ := List.mem_map.mp listed
    obtain ⟨u, isStored, isOver, -, b, isB, id, ofTask⟩ := candidate_over candidate
    obtain ⟨a', isA, sameID, sameTask⟩ := artifacts a isArtifact
    obtain rfl : b = a' := artifacts_unique isB isA (by rw [id, same, names.2, sameID])
    obtain rfl : u = t := task_unique isStored isTask (by rw [← ofTask, sameTask, hit.1, named])
    exact isOver
  · rw [sameJobs] at isJob
    rw [jobs_unique isJob stored (same.trans names.1)] at isOver
    exact absurd isPreview isOver

/-- What is written before the artifacts are marked. -/
def listEffect : Effect := { kinds := [], tables := [.artifactDeletionItems, .artifactLocations] }

/-- The confirmation of a preview deletes tasks that have ended. -/
def confirmArtifactCleanupEffect : Effect := { kinds := [.delete], tables := deletionTables }

theorem confirmArtifactCleanup_spec {uuid : Nat → String} {jobID token confirmation : String} {now : Int}
    {r : DeletionJob} (out : (confirmArtifactCleanupBody uuid jobID token confirmation now).Returns db r db')
    (previews : Previews db) : confirmArtifactCleanupEffect.law.Evolves db db' ∧ Previews db' := by
  simp only [confirmArtifactCleanupBody, returns_bind, returns_query, returns_require, returns_select] at out
  obtain ⟨job, db, ⟨isJob, rfl⟩, _, db, ⟨-, rfl⟩, _, db, ⟨-, rfl⟩, candidates, db, ⟨rfl, rfl⟩, _, db, ⟨-, rfl⟩, out⟩ := out
  obtain ⟨_, listed, lists, _, located, locates, _, marked, marks, _, deleted, deletes, _, keyless, drops, _, opened, opens, -, rfl⟩ := out
  set candidates := cleanupCandidates (job.cutoffAt.getD 0) db
  have adds : Opens job.id (candidates.map (·.artifactID)) db listed := by
    refine keeps_forEach opens_chains (fun c mem => ?_) _ _ _ lists
    refine keeps_bind opens_chains (keeps_exec fun _ _ _ => opens_insert rfl ?_) fun _ => keeps_pure opens_chains
    exact List.mem_map_of_mem (List.fst_mem_of_mem_zipIdx mem)
  have opening : Opens job.id (candidates.map (·.artifactID)) db marked := by
    refine opens_chains.trans adds (opens_chains.trans
      (opens_other ?_ ?_ (returns_exec.mp locates)) (opens_other ?_ ?_ (returns_exec.mp marks)))
    all_goals simp
  have closing : Opens job.id (candidates.map (·.artifactID)) marked keyless := by
    refine opens_chains.trans (opens_other ?_ ?_ (returns_exec.mp deletes)) (opens_other ?_ ?_ (returns_exec.mp drops))
    all_goals simp
  have start : Opening job.id (candidates.map (·.artifactID)) db := fun i mem => .inr (previews i mem)
  obtain ⟨stored, isPreview⟩ : job ∈ jobs db ∧ job.status = .preview := by
    obtain ⟨found, status⟩ := Option.filter_eq_some_iff.mp (elim_ok.mp isJob)
    exact ⟨List.mem_of_find?_eq_some found, by simpa using status⟩
  constructor
  · -- the statements before the one on tasks, that one, and those after it
    have listing : listEffect.law.Evolves db located :=
      Laws.chains.trans (Writes.evolves (by simp [listEffect]) lists) (Writes.evolves (by simp [listEffect]) locates)
    have before : confirmArtifactCleanupEffect.law.Evolves db marked :=
      Laws.chains.trans (Writes.evolves (by simp [confirmArtifactCleanupEffect, deletionTables]) lists) (Laws.chains.trans
        (Writes.evolves (by simp [confirmArtifactCleanupEffect, deletionTables]) locates)
        (Writes.evolves (by simp [confirmArtifactCleanupEffect, deletionTables]) marks))
    have after : confirmArtifactCleanupEffect.law.Evolves deleted db' :=
      Laws.chains.trans (Writes.evolves (by simp [confirmArtifactCleanupEffect, deletionTables]) drops)
        (Writes.evolves (by simp [confirmArtifactCleanupEffect, deletionTables]) opens)
    refine Laws.chains.trans before (Laws.chains.trans (evolves_tasks (returns_exec.mp deletes)
      fun t isStored hit _ => ⟨.delete, by decide, ?_⟩) after)
    simp only [Bool.and_eq_true, Option.isNone_iff_eq_none] at hit
    have sameTasks : marked.rows Tbl.videoTasks = db.rows Tbl.videoTasks :=
      (apply_update_rows_of_ne (returns_exec.mp marks) (by decide)).trans
      (Effect.same_tasks listing ⟨rfl, fun _ => trivial, fun _ => id, fun _ => id⟩)
    rw [Database.tasks, sameTasks] at isStored
    refine .delete now hit.2 (opening_over stored isPreview opening.2 (opening.1 start) (fun a mem => ?_) hit.1 isStored rfl)
    obtain ⟨tab, rfl, rows, -⟩ := apply_update (returns_exec.mp marks)
    rw [Database.artifacts, DB.rows_put_self, rows, Effect.same_rows listing (by decide) (by decide)] at mem
    obtain ⟨b, isB, rfl⟩ := List.mem_map.mp mem
    refine ⟨b, isB, ?_⟩
    split <;> exact ⟨rfl, rfl⟩
  · have all := opens_chains.trans opening closing
    have stillStored : job ∈ jobs keyless := all.2 ▸ stored
    have rest := all.1 start
    -- the last update opens the job, and the other jobs stay as they are
    obtain ⟨tab, rfl, rows, -⟩ := apply_update (returns_exec.mp opens)
    have kept : items (keyless.put Tbl.artifactDeletionJobs tab) = items keyless := DB.rows_put_of_ne _ (by decide)
    have opened {j : DeletionJob} (mem : j ∈ jobs keyless) (isOver : j.status ≠ .preview ∨ j.id = job.id) :
        ∃ k ∈ jobs (keyless.put Tbl.artifactDeletionJobs tab), k.id = j.id ∧ k.status ≠ .preview := by
      rw [jobs, DB.rows_put_self, rows]
      refine ⟨_, List.mem_map_of_mem mem, ?_⟩
      split
      · refine ⟨rfl, ?_⟩
        dsimp only
        split <;> simp
      · rename_i miss
        refine ⟨rfl, isOver.elim id fun same isPreview => miss ?_⟩
        simp [same, isPreview]
    intro i mem
    rw [kept] at mem
    rcases rest i mem with ⟨own, -⟩ | ⟨j, isJob, same, isOver⟩
    · obtain ⟨k, isStored, id, isOver⟩ := opened stillStored (.inr rfl)
      exact ⟨k, isStored, id.trans own.symm, isOver⟩
    · obtain ⟨k, isStored, id, isOver⟩ := opened isJob (.inl isOver)
      exact ⟨k, isStored, id.trans same, isOver⟩

theorem confirmArtifactCleanup_evolves (uuid : Nat → String) (token confirmation : String) (now : Int) (faults : Faults Err) (n : Nat)
    (previews : Previews db) :
    confirmArtifactCleanupEffect.law.Evolves db (confirmArtifactCleanup uuid token confirmation now faults n db).db
      ∧ Previews (confirmArtifactCleanup uuid token confirmation now faults n db).db := by
  have refused {p : Prog DeletionJob} (reads : p = .fail .cleanupPreviewStale) :
      confirmArtifactCleanupEffect.law.Evolves db (p.direct faults n db).db ∧ Previews (p.direct faults n db).db := by
    subst reads
    exact ⟨lawful_fail faults n db, previews⟩
  rw [confirmArtifactCleanup]
  generalize (token.toList.splitOn '.').map String.ofList = parts
  match parts with
  | [jobID, secret] =>
    dsimp only
    by_cases malformed : jobID.length ≠ 36 ∨ secret.length ≠ 64
    · rw [if_pos malformed]
      exact refused rfl
    · rw [if_neg malformed]
      rcases immediate_effect (confirmArtifactCleanupBody uuid jobID token confirmation now) faults with same | ⟨r, out⟩
      · rw [same]
        exact ⟨Laws.chains.refl db, previews⟩
      · exact confirmArtifactCleanup_spec out previews
  | [] | [_] | _ :: _ :: _ :: _ => exact refused rfl

end MinimaxProxy.Store
