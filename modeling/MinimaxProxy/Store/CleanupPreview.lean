import Mathlib
import MinimaxProxy.Store.DeletionRows
import MinimaxProxy.Text.Strings

/-!
# Previews and their confirmation

A preview stores a digest of its candidates. One line of the digested text is a candidate with
its fields ended by NUL, so the text determines the candidates, and a confirmation that finds
the same text inserts one item for each candidate of the preview.
-/

namespace MinimaxProxy.Store
open Sql Sql.Prog

variable {cs ds : List CleanupCandidate} {db : Database} {faults : Faults Err}
  {jobID requestedBy token : String} {n : Nat} {now : Int} {uuid : Nat → String}

/-! ## The digested text -/

/-- An id that cannot be confused with the ends of fields and lines. -/
def PlainID (id : String) : Prop := '\x00' ∉ id.toList ∧ '\n' ∉ id.toList

/-- The ids of a candidate are plain. -/
structure CleanupCandidate.Plain (c : CleanupCandidate) : Prop where
  task : PlainID c.taskID
  artifact : PlainID c.artifactID
  location : PlainID c.locationID
  node : PlainID c.nodeID

/-- The line of a candidate. -/
def CleanupCandidate.line (c : CleanupCandidate) : List Char :=
  c.taskID.toList ++ '\x00' :: (c.artifactID.toList ++ '\x00' :: (c.locationID.toList ++ '\x00' :: (c.nodeID.toList ++ '\x00' ::
    (toString c.sizeBytes).toList)))

theorem toList_cleanupCandidateDigest : (cleanupCandidateDigest cs).toList = cs.flatMap fun c => c.line ++ ['\n'] := by
  rw [cleanupCandidateDigest, String.toList_join, List.flatMap_map]
  refine List.flatMap_congr fun c _ => ?_
  simp [CleanupCandidate.line, String.toList_append]

theorem newline_not_mem_toString {n : Int} : '\n' ∉ (toString n).toList := by
  have digits (m : Nat) : '\n' ∉ m.repr.toList := by
    intro mem
    rw [Nat.repr_eq_ofList_toDigits, String.toList_ofList] at mem
    exact absurd (Nat.isDigit_of_mem_toDigits (by decide) (by decide) mem) (by decide)
  cases n with
  | ofNat m => exact digits m
  | negSucc m =>
    intro mem
    rcases List.mem_append.mp (String.toList_append ▸ mem : '\n' ∈ "-".toList ++ m.succ.repr.toList) with sign | rest
    · exact absurd sign (by decide)
    · exact digits _ rest

theorem CleanupCandidate.Plain.newline {c : CleanupCandidate} (plain : c.Plain) : '\n' ∉ c.line := by
  simp only [CleanupCandidate.line, List.mem_append, List.mem_cons, not_or]
  exact ⟨plain.task.2, by decide, plain.artifact.2, by decide, plain.location.2, by decide, plain.node.2, by decide,
    newline_not_mem_toString⟩

theorem line_injective {c d : CleanupCandidate} (hc : c.Plain) (hd : d.Plain) (same : c.line = d.line) : c = d := by
  obtain ⟨task, rest⟩ := Text.field_unique hc.task.1 hd.task.1 same
  obtain ⟨artifact, rest⟩ := Text.field_unique hc.artifact.1 hd.artifact.1 rest
  obtain ⟨location, rest⟩ := Text.field_unique hc.location.1 hd.location.1 rest
  obtain ⟨node, size⟩ := Text.field_unique hc.node.1 hd.node.1 rest
  have size : c.sizeBytes = d.sizeBytes := Int.repr_inj.mp (String.toList_inj.mp size)
  cases c
  cases d
  simp only [CleanupCandidate.mk.injEq]
  exact ⟨String.toList_inj.mp task, String.toList_inj.mp artifact, String.toList_inj.mp location, String.toList_inj.mp node, size⟩

theorem lines_injective (hcs : ∀ c ∈ cs, c.Plain) (hds : ∀ d ∈ ds, d.Plain)
    (same : (cs.flatMap fun c => c.line ++ ['\n']) = ds.flatMap fun d => d.line ++ ['\n']) : cs = ds := by
  induction cs generalizing ds with
  | nil =>
    cases ds with
    | nil => rfl
    | cons d ds => simp at same
  | cons c cs ih =>
    cases ds with
    | nil => simp at same
    | cons d ds =>
      have hc := hcs c List.mem_cons_self
      have hd := hds d List.mem_cons_self
      simp only [List.flatMap_cons, List.append_assoc, List.singleton_append] at same
      obtain ⟨first, rest⟩ := Text.field_unique hc.newline hd.newline same
      rw [line_injective hc hd first]
      rw [ih (fun c mem => hcs c (List.mem_cons_of_mem _ mem)) (fun d mem => hds d (List.mem_cons_of_mem _ mem)) rest]

/-- The text determines the candidates. -/
theorem digest_injective (hcs : ∀ c ∈ cs, c.Plain) (hds : ∀ d ∈ ds, d.Plain)
    (same : cleanupCandidateDigest cs = cleanupCandidateDigest ds) : cs = ds := by
  refine lines_injective hcs hds ?_
  rw [← toList_cleanupCandidateDigest, ← toList_cleanupCandidateDigest, same]

/-- The summary of a preview ends with the text. -/
theorem summary_inj (same : "preview_digest:" ++ cleanupCandidateDigest cs = "preview_digest:" ++ cleanupCandidateDigest ds) :
    cleanupCandidateDigest cs = cleanupCandidateDigest ds := by
  have chars := congrArg String.toList same
  rw [String.toList_append, String.toList_append] at chars
  exact String.toList_inj.mp (List.append_cancel_left chars)

/-! ## Previews -/

/-- The job that a preview stores. -/
def previewJob (jobID secret : String) (olderThanDays : Int) (requestedBy : String) (now skipped : Int) (db : Database) : DeletionJob where
  id := jobID
  reason := .manualCleanup
  status := .preview
  olderThanDays := some olderThanDays
  cutoffAt := some (now - olderThanDays * 86400000)
  previewTokenHash := some (jobID ++ "." ++ secret)
  dryRun := true
  requestedBy := requestedBy
  totalCount := (cleanupCandidates (now - olderThanDays * 86400000) db).length
  skippedCount := skipped
  candidateBytes := candidateBytes (cleanupCandidates (now - olderThanDays * 86400000) db)
  createdAt := now
  updatedAt := now
  errorSummary := some ("preview_digest:" ++ cleanupCandidateDigest (cleanupCandidates (now - olderThanDays * 86400000) db))

theorem previewArtifactCleanup_jobs {secret : String} {olderThanDays : Int} :
    (previewArtifactCleanup jobID secret olderThanDays requestedBy now faults n db).db = db ∨
      ∃ skipped, jobs (previewArtifactCleanup jobID secret olderThanDays requestedBy now faults n db).db =
        jobs db ++ [previewJob jobID secret olderThanDays requestedBy now skipped db] := by
  rw [previewArtifactCleanup]
  split
  · exact .inl rfl
  · rcases direct_after writes_select _ faults n db with same | ⟨candidates, m, read, went⟩
    · exact .inl same
    · obtain ⟨rfl, -⟩ := returns_select.mp read
      rcases direct_after (writes_attempt.mpr writes_select) _ faults m db with same | ⟨skipped, k, -, went'⟩
      · exact .inl (went.trans same)
      · rw [went, went']
        rcases direct_exec _ faults with same | ⟨_, applied⟩
        · exact .inl same
        · exact .inr ⟨_, apply_insert_rows applied⟩

theorem previewArtifactCleanup_ok {secret : String} {olderThanDays : Int}
    (ok : (previewArtifactCleanup jobID secret olderThanDays requestedBy now faults n db).result = .ok ()) :
    ∃ skipped, jobs (previewArtifactCleanup jobID secret olderThanDays requestedBy now faults n db).db =
      jobs db ++ [previewJob jobID secret olderThanDays requestedBy now skipped db] := by
  rw [previewArtifactCleanup] at ok ⊢
  split at ok
  · cases ok
  · rename_i valid
    rw [if_neg valid]
    obtain ⟨candidates, d1, read, out⟩ := returns_bind.mp (direct_ok ok)
    obtain ⟨rfl, rfl⟩ := returns_select.mp read
    obtain ⟨skipped, d2, counted, out⟩ := returns_bind.mp out
    obtain rfl := counted.readOnly (writes_attempt.mpr writes_select)
    obtain ⟨_, d3, inserted, done⟩ := returns_bind.mp out
    obtain ⟨-, rfl⟩ := returns_pure.mp done
    exact ⟨_, apply_insert_rows (returns_exec.mp inserted)⟩

/-- Every previewed job of this id was there before. -/
def PreviewKept (jobID : String) (db db' : Database) : Prop := ∀ j ∈ jobs db', j.id = jobID → j.status = .preview → j ∈ jobs db

theorem sweeps_previewKept (jobID : String) : Sweeps (PreviewKept jobID) where
  chains := ⟨fun _ _ mem _ _ => mem, fun first last j mem named isPreview => first j (last j mem named isPreview) named isPreview⟩
  each w sweeping db n db' applied j mem named isPreview := by
    have same (rows : db'.rows Tbl.artifactDeletionJobs = db.rows Tbl.artifactDeletionJobs) : j ∈ jobs db := by
      rwa [jobs, rows] at mem
    cases sweeping with
    | other item job => exact same (rows_of_other applied job (by decide) (by decide))
    | items => exact same (apply_update_rows_of_ne applied (by decide))
    | dropItems => exact same (delete_others applied (by decide) (by decide))
    | dropJobs =>
      rw [jobs, delete_rows applied] at mem
      exact (List.mem_filter.mp mem).1
    | jobs kept status =>
      rw [jobs, apply_update_rows applied] at mem
      obtain ⟨old, stored, rfl⟩ := List.mem_map.mp mem
      split at isPreview
      · exact absurd isPreview (status db old)
      · rename_i unselected
        rw [if_neg unselected]
        exact stored

theorem requestTaskDeletion_previewKept {taskID : String} {reason : DeletionReason} :
    PreviewKept jobID db (requestTaskDeletion uuid taskID reason requestedBy now faults n db).db := by
  refine (sweeps_previewKept jobID).transaction (fun db job db' out j mem _ isPreview => ?_) faults n db
  obtain ⟨rows, opened⟩ := requestTaskDeletion_jobs out
  rw [rows] at mem
  rcases List.mem_append.mp mem with old | new
  · exact old
  · rw [List.mem_singleton.mp new] at isPreview
    exact absurd isPreview opened

/-- What a successful confirmation has done. -/
theorem confirmArtifactCleanup_ok {confirmation : String}
    {r : DeletionJob} (ok : (confirmArtifactCleanup uuid token confirmation now faults n db).result = .ok r) :
    ∃ job, job.id = r.id ∧ job.id.length = 36 ∧ ((token.toList.splitOn '.').map String.ofList).head? = some job.id ∧
      Confirmed uuid token now job db (confirmArtifactCleanup uuid token confirmation now faults n db).db := by
  rw [confirmArtifactCleanup] at ok ⊢
  generalize (token.toList.splitOn '.').map String.ofList = parts at ok ⊢
  rcases parts with _ | ⟨jobID, _ | ⟨secret, _ | ⟨_, _⟩⟩⟩
  case cons.cons.nil =>
    dsimp only at ok ⊢
    by_cases malformed : jobID.length ≠ 36 ∨ secret.length ≠ 64
    · rw [if_pos malformed] at ok
      cases ok
    · rw [if_neg malformed] at ok ⊢
      obtain ⟨job, named, result, confirmed⟩ := confirmArtifactCleanup_rows (immediate_ok ok)
      refine ⟨job, named.trans result.symm, ?_, congrArg some named.symm, confirmed⟩
      rw [named]
      exact not_not.mp (not_or.mp malformed).1
  all_goals cases ok

theorem Confirmed.closed {job : DeletionJob} {db' : Database}
    (h : Confirmed uuid token now job db db') : ∀ j ∈ Store.jobs db', j.id = job.id → j.status ≠ .preview := by
  intro j mem named isPreview
  rw [h.jobs] at mem
  obtain ⟨old, -, rfl⟩ := List.mem_map.mp mem
  split at isPreview
  · dsimp only at isPreview
    split at isPreview <;> cases isPreview
  · rename_i unselected
    rw [if_neg unselected] at named
    exact unselected (by simp [named, isPreview])

theorem confirmArtifactCleanup_previewKept {confirmation : String} :
    PreviewKept jobID db (confirmArtifactCleanup uuid token confirmation now faults n db).db := by
  cases result : (confirmArtifactCleanup uuid token confirmation now faults n db).result with
  | error e =>
    rw [confirmArtifactCleanup_atomic uuid token confirmation now faults n db e result]
    exact fun _ mem _ _ => mem
  | ok r =>
    obtain ⟨job, -, -, -, confirmed⟩ := confirmArtifactCleanup_ok result
    intro j mem named isPreview
    rw [confirmed.jobs] at mem
    obtain ⟨old, stored, rfl⟩ := List.mem_map.mp mem
    split at isPreview
    · dsimp only at isPreview
      split at isPreview <;> cases isPreview
    · rename_i unselected
      rw [if_neg unselected]
      exact stored

/-! ## Candidates -/

/-- The ids of the rows that candidates are made of are plain. -/
structure PlainIDs (db : Database) : Prop where
  tasks : ∀ t ∈ db.tasks, PlainID t.taskID
  artifacts : ∀ a ∈ db.artifacts, PlainID a.id
  locations : ∀ l ∈ db.locations, PlainID l.id ∧ PlainID l.nodeID

theorem PlainIDs.candidates (plain : PlainIDs db) (cutoff : Int) : ∀ c ∈ cleanupCandidates cutoff db, c.Plain := by
  intro c mem
  simp only [cleanupCandidates, List.mem_insertionSort, List.mem_flatMap, List.mem_filter, List.mem_map] at mem
  obtain ⟨t, ⟨isTask, -⟩, a, ⟨isArtifact, -⟩, l, ⟨isLocation, -⟩, rfl⟩ := mem
  exact ⟨plain.tasks t isTask, plain.artifacts a isArtifact, (plain.locations l isLocation).1, (plain.locations l isLocation).2⟩

end MinimaxProxy.Store
