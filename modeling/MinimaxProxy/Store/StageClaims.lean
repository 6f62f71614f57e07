import MinimaxProxy.Store.StageScan

/-!
# Claiming a stage

`ClaimStage` reads the candidates page by page and leases the first that the node may take.
-/

namespace MinimaxProxy.Store
open Sql Sql.Prog

/-- A stage that the node may take, with its task. -/
structure Leasable (nodeID : String) (now : Int) (db : Database) (s : Stage) : Prop where
  stored : s ∈ db.stages
  candidate : ∃ t ∈ db.tasks, stageCandidate nodeID now db s t = true

section
variable {nodeID : String} {now : Int} {db db' : Database}

/-- What the scan finds is a candidate. -/
theorem nextEligibleStage_leasable {s : Stage} (found : ((nextEligibleStage nodeID now).eval db).1 = .ok s) : Leasable nodeID now db s := by
  cases listed : candidates nodeID now db with
  | error e => cases (nextEligibleStage_error listed).symm.trans found
  | ok l =>
    rw [(nextEligibleStage_eval listed 0).2] at found
    obtain ⟨done, c, rest, rfl, -, isStage, -⟩ := ((scanStages_spec l).1 s).mp found
    obtain ⟨t, isTask, u, stored, candidate, -, rfl⟩ := ((candidates_spec listed).2 c).mp (by simp)
    obtain rfl : s = u := eq_of_key (stages_distinct db) (List.mem_of_find?_eq_some isStage) stored (by simpa using List.find?_some isStage)
    exact ⟨stored, t, isTask, candidate⟩

theorem stage_update_one {sel : Database → Stage → Bool} {set : Database → Stage → Stage}
    (applied : (Dml.update Tbl.taskStages sel set).apply db = .ok (1, db')) {id : String}
    (only : ∀ s ∈ db.stages, sel db s = true → s.id = id) : ∃ s ∈ db.stages, s.id = id ∧ sel db s = true ∧
      db'.stages = db.stages.map fun u => if u.id = id then set db s else u :=
  apply_update_one applied (stages_distinct db) only

/-- A claimed stage: no barrier was on the node, `s` was a candidate whose lease had ended, and
its row is the lease. -/
structure Leases (nodeID leaseToken : String) (leaseDuration now : Int) (s : Stage) (db db' : Database) : Prop where
  scanned : ((nextEligibleStage nodeID now).eval db).1 = .ok s
  unbarred : ∀ b ∈ db.barriers, b.nodeID ≠ nodeID
  leasable : Leasable nodeID now db s
  stages : db'.stages = db.stages.map fun u => if u.id = s.id then leasedStage nodeID leaseToken leaseDuration now s else u
  others : ∀ t, t ≠ .taskStages → db'.rows t = db.rows t

theorem claimStage_spec {leaseToken : String} {leaseDuration : Int} {r : Stage}
    (out : (claimStageBody nodeID leaseToken leaseDuration now).Returns db r db') :
    ∃ s, Leases nodeID leaseToken leaseDuration now s db db' ∧ r = leasedStage nodeID leaseToken leaseDuration now s := by
  simp only [claimStageBody, returns_bind, returns_select, returns_require] at out
  obtain ⟨_, db, ⟨rfl, rfl⟩, _, db, ⟨free, rfl⟩, s, mid, next, _, leased, tried, read⟩ := out
  have unbarred : ∀ b ∈ Database.barriers db, b.nodeID ≠ nodeID := by
    simpa only [beq_iff_eq, List.length_eq_zero_iff, List.filter_eq_nil_iff] using free
  have scan := (reads_nextEligibleStage nodeID now).eval _ _ _ next
  obtain rfl := next.readOnly (writes_nextEligibleStage nodeID now)
  have scanned := congrArg Prod.fst scan
  have leasable := nextEligibleStage_leasable scanned
  rw [returns_orElse_fail] at tried
  simp only [returns_bind, returns_exec, returns_oneRow] at tried
  obtain ⟨_, leased, applied, rfl, rfl⟩ := tried
  obtain ⟨isRow, rfl⟩ := returns_query.mp read
  obtain ⟨u, stored, same, -, rows⟩ := stage_update_one applied fun u _ hit => by
    simp only [Bool.and_eq_true, beq_iff_eq] at hit
    exact hit.1.1.1
  obtain rfl : u = s := eq_of_key (stages_distinct _) stored leasable.stored same
  refine ⟨u, ⟨scanned, unbarred, leasable, rows, fun t other => apply_update_rows_of_ne applied other⟩, ?_⟩
  have found : findStage db' u.id = some (leasedStage nodeID leaseToken leaseDuration now u) := by
    have mem : leasedStage nodeID leaseToken leaseDuration now u ∈ db'.stages := by
      rw [rows]
      exact List.mem_map.mpr ⟨u, stored, if_pos rfl⟩
    exact find_of_mem (stages_distinct db') mem
  rw [found] at isRow
  exact (Except.ok.inj isRow).symm

end

end MinimaxProxy.Store
