import MinimaxProxy.Store.CleanupJobs

/-!
# The jobs and items of a deletion

What the requests of `deletion_store.go` and `cleanup_store.go` leave in the tables of jobs and
items, row by row.
-/

namespace MinimaxProxy.Store
open Sql Sql.Prog

/-- One row is inserted for each element. -/
theorem forEach_insert_rows {α : Type} {t : Tbl} {f : α → t.Row} {l : List α} {db db' : Database} {u : Unit}
    (out : (forEach (fun a => do let _ ← exec (.insert t fun _ _ => [f a])) l : Prog Unit).Returns db u db') :
    db'.rows t = db.rows t ++ l.map f ∧ ∀ t', t' ≠ t → db'.rows t' = db.rows t' := by
  induction l generalizing db with
  | nil =>
    obtain ⟨-, rfl⟩ := returns_pure.mp out
    exact ⟨(List.append_nil _).symm, fun _ _ => rfl⟩
  | cons a l ih =>
    obtain ⟨_, mid, first, rest⟩ := returns_bind.mp out
    obtain ⟨_, mid', inserted, done⟩ := returns_bind.mp first
    obtain ⟨-, rfl⟩ := returns_pure.mp done
    obtain ⟨rows, others⟩ := ih rest
    constructor
    · rw [rows, apply_insert_rows (returns_exec.mp inserted), List.append_assoc]
      rfl
    · exact fun t' other => (others t' other).trans (apply_insert_rows_of_ne (returns_exec.mp inserted) other)

/-! ## A deletion is requested -/

/-- The job of the request is new, and no preview. -/
theorem requestTaskDeletion_jobs {uuid : Nat → String} {taskID : String} {reason : DeletionReason} {requestedBy : String} {now : Int}
    {db db' : Database} {job : DeletionJob} (out : (requestTaskDeletionBody uuid taskID reason requestedBy now).Returns db job db') :
    jobs db' = jobs db ++ [job] ∧ job.status ≠ .preview := by
  simp only [requestTaskDeletionBody, returns_bind, returns_query, returns_require, returns_select, returns_exec, returns_pure] at out
  obtain ⟨t, db, ⟨isTask, rfl⟩, _, db, ⟨undeleted, rfl⟩, candidates, db, ⟨rfl, rfl⟩, _, opened, inserts, _, listed, lists, rest⟩ := out
  obtain ⟨_, located, locates, _, marked, marks, _, keyless, drops, _, deleted, deletes, _, last, once, rfl, rfl⟩ := rest
  obtain ⟨-, rfl⟩ := returns_oneRow.mp once
  constructor
  · rw [jobs, apply_update_rows_of_ne deletes (by decide),
      delete_others drops (by decide) (by decide), apply_update_rows_of_ne marks (by decide),
      apply_update_rows_of_ne locates (by decide), (forEach_insert_rows lists).2 _ (by decide), apply_insert_rows inserts]
    rfl
  · dsimp only
    split <;> simp

/-! ## A cleanup is confirmed -/

/-- The item of a candidate. -/
def confirmedItem (uuid : Nat → String) (jobID : String) (now : Int) (c : CleanupCandidate × Nat) : DeletionItem :=
  { id := uuid (2 * c.2), jobID := jobID, artifactID := c.1.artifactID, locationID := c.1.locationID, nodeID := c.1.nodeID
    operationID := uuid (2 * c.2 + 1), createdAt := now, updatedAt := now }

/-- What the confirmation of `job` has done. -/
structure Confirmed (uuid : Nat → String) (token : String) (now : Int) (job : DeletionJob) (db db' : Database) : Prop where
  stored : job ∈ jobs db
  preview : job.status = .preview
  token : job.previewTokenHash.getD "" = token
  unexpired : now ≤ job.createdAt + 900000
  summary : job.errorSummary.getD "" = "preview_digest:" ++ cleanupCandidateDigest (cleanupCandidates (job.cutoffAt.getD 0) db)
  items : items db' = items db ++ (cleanupCandidates (job.cutoffAt.getD 0) db).zipIdx.map (confirmedItem uuid job.id now)
  jobs : jobs db' = (jobs db).map fun j => if j.id == job.id && j.status == .preview then
    { j with status := if (cleanupCandidates (job.cutoffAt.getD 0) db).isEmpty then .succeeded else .pending, previewTokenHash := none
             dryRun := false, finishedAt := if (cleanupCandidates (job.cutoffAt.getD 0) db).isEmpty then some now else none
             updatedAt := now, errorSummary := none } else j

theorem confirmArtifactCleanup_rows {uuid : Nat → String} {jobID token confirmation : String} {now : Int} {db db' : Database}
    {r : DeletionJob} (out : (confirmArtifactCleanupBody uuid jobID token confirmation now).Returns db r db') :
    ∃ job, job.id = jobID ∧ r.id = jobID ∧ Confirmed uuid token now job db db' := by
  simp only [confirmArtifactCleanupBody, returns_bind, returns_query, returns_require, returns_select, returns_exec] at out
  obtain ⟨job, db, ⟨isJob, rfl⟩, _, db, ⟨fresh, rfl⟩, _, db, ⟨-, rfl⟩, candidates, db, ⟨rfl, rfl⟩, _, db, ⟨same, rfl⟩, out⟩ := out
  obtain ⟨_, listed, lists, _, located, locates, _, marked, marks, _, deleted,
    deletes, _, keyless, drops, _, opened, opens, isResult, rfl⟩ := out
  obtain ⟨newItems, beside⟩ := forEach_insert_rows lists
  obtain ⟨stored, isPreview, named⟩ : job ∈ jobs db ∧ job.status = .preview ∧ job.id = jobID := by
    obtain ⟨found, status⟩ := Option.filter_eq_some_iff.mp (elim_ok.mp isJob)
    exact ⟨List.mem_of_find?_eq_some found, by simpa using status, by simpa using List.find?_some found⟩
  simp only [Bool.and_eq_true, beq_iff_eq, decide_eq_true_eq] at fresh same
  have listedItems : items db' = items listed := by
    rw [items, apply_update_rows_of_ne opens (by decide), delete_others drops (by decide) (by decide),
      apply_update_rows_of_ne deletes (by decide), apply_update_rows_of_ne marks (by decide), apply_update_rows_of_ne locates (by decide)]
    rfl
  have result : r.id = jobID := by
    have found := List.find?_some (elim_ok.mp isResult)
    rw [← named]
    simpa using found
  refine ⟨job, named, result, stored, isPreview, fresh.1, fresh.2, same.2, ?_, ?_⟩
  · rw [listedItems, items, newItems]
    rfl
  · rw [jobs, apply_update_rows opens, delete_others drops (by decide) (by decide), apply_update_rows_of_ne deletes (by decide),
      apply_update_rows_of_ne marks (by decide), apply_update_rows_of_ne locates (by decide), beside _ (by decide)]
    rfl

end MinimaxProxy.Store
