import MinimaxProxy.Store.QueueMoves

/-!
# The official operations make moves

The claim of an official node takes a task of its own protocol, and the operations of
`official_task_store.go` change only tasks that hold a slot.
-/

namespace MinimaxProxy.Store
open Sql Sql.Prog

variable {allowed : Task → Prop}

/-! ## Claim -/

/-- A node accepts only tasks of its own protocol. -/
theorem accepted_protocol {nodeID : String} {now : Int} {db : Database} {t : Task} {node : Node}
    (verdict : accepts db nodeID now t = .ok true) (stored : node ∈ db.nodes) (named : node.id = nodeID)
    (undeleted : node.deletedAt = none) : t.protocolVersion = some node.protocolVersion := by
  have ran : (accepted nodeID now t).eval db = (.ok true, db) := by rw [accepted_eval, verdict]
  rw [accepted, eval_bind_iff] at ran
  obtain ⟨eligible, mid, out, rest⟩ := ran
  have yes : eligible = true := by
    cases eligible with
    | true => rfl
    | false => cases rest
  subst yes
  have found : db.nodes.find? (fun n => n.id == nodeID && n.deletedAt.isNone) = some node := by
    rw [find_of_key (nodes_distinct db) stored fun m _ h => by simp at h; rw [named, h.1]]
    simp [named, undeleted]
  unfold taskEligibleForNode at out
  split at out
  · cases out
  · rw [eval_bind, eval_select, found] at out
    dsimp only at out
    split at out
    · cases out
    · rename_i same
      simp only [Bool.or_eq_true, Bool.not_eq_true', bne_iff_ne, not_or, ne_eq, not_not] at same
      exact same.2.symm

theorem claimNextOfficial_behaves (o : Options) (nodeID : String) (nodeVersion capacity now : Int) (faults : Faults Err) (n : Nat)
    (db : Database) : Behaves allowed db (claimNextOfficial o nodeID nodeVersion capacity now faults n db).db := by
  rw [claimNextOfficial]
  split
  · exact behaves_chains.refl db
  refine immediate_behaves (fun r db' out => ?_)
  simp only [claimNextOfficialBody, takeTask, returns_bind, returns_query, returns_select, returns_require,
    returns_exec, returns_oneRow] at out
  obtain ⟨node, db, ⟨isNode, rfl⟩, _, db, ⟨-, rfl⟩, _, db, ⟨-, rfl⟩, out⟩ := out
  obtain ⟨s, db, scan, out⟩ := out
  obtain ⟨stored, waits, verdict⟩ := nextEligibleTask_returns scan
  obtain rfl := scan.readOnly (writes_nextEligibleTask nodeID (unix now))
  obtain ⟨_, _, claimed, _, mid', ⟨rfl, rfl⟩, _, mid, balanced, -, rfl⟩ := out
  obtain ⟨isStored, matched⟩ : node ∈ Database.nodes db ∧ _ := found_spec isNode
  simp only [Bool.and_eq_true, beq_iff_eq, Option.isNone_iff_eq_none] at matched
  obtain ⟨⟨⟨⟨named, _⟩, _⟩, undeleted⟩, official⟩ := matched
  have protocol := accepted_protocol verdict isStored named undeleted
  refine behaves_chains.trans (updateTasks_behaves claimed (fun _ => rfl) fun t mem r j hit => ?_) (rebalance_behaves balanced)
  simp only [Bool.and_eq_true, beq_iff_eq] at hit
  obtain rfl := eq_of_findTask (find_of_mem (tasks_distinct db) stored) mem hit.1
  simp only [Waiting, Bool.and_eq_true] at waits
  exact .claimOfficial node (unix now) isStored official (official ▸ protocol) waits.2

/-! ## The holder of a slot -/

theorem officialActive_slot {taskID nodeID : String} {t : Task} (h : officialActive taskID nodeID t = true) :
    t.taskID = taskID ∧ OfficialSlot t := by
  simp only [officialActive, Bool.and_eq_true, beq_iff_eq] at h
  exact ⟨h.1.1.1.1, h.1.2, h.1.1.2⟩

theorem saveOfficialSubmissionBaseline_only {taskID nodeID : String} {ids : List String} {now : Int} {faults : Faults Err}
    {n : Nat} {db : Database} :
    Only taskID (Move db.nodes allowed) db (saveOfficialSubmissionBaseline taskID nodeID ids now faults n db).db := by
  refine direct_only (fun c db' applied => .of_updateTasks applied (fun _ => rfl) (fun t h => ?_) fun t r j h => ?_)
  · exact (officialActive_slot (Bool.and_eq_true_iff.mp h).1).1
  · obtain ⟨active, dispatching⟩ := Bool.and_eq_true_iff.mp h
    exact .saveBaseline ids (unix now) (officialActive_slot active).2 (beq_iff_eq.mp dispatching)

theorem bindOfficialTask_only {taskID nodeID id : String} {now : Int} {faults : Faults Err} {n : Nat} {db : Database} :
    Only taskID (Move db.nodes allowed) db (bindOfficialTask taskID nodeID id now faults n db).db := by
  refine direct_only (fun c db' applied => .of_updateTasks applied (fun _ => rfl) (fun t h => ?_) fun t r j h => ?_)
  · exact (officialActive_slot (Bool.and_eq_true_iff.mp h).1).1
  · obtain ⟨active, dispatching⟩ := Bool.and_eq_true_iff.mp h
    exact .bindOfficial id (unix now) (officialActive_slot active).2 (beq_iff_eq.mp dispatching)

theorem markOfficialFailed_behaves {taskID nodeID code message callbackID : String}
    {feedback : Option UpstreamFeedback} {now : Int} {faults : Faults Err}
    {n : Nat} {db : Database} : Behaves allowed db
    (markOfficialFailed taskID nodeID code message feedback callbackID now faults n db).db := by
  refine acting_behaves (writes_bind ?_ fun _ => by simp)
  refine writes_exec.mpr (acting_tasks (fun _ _ => rfl) fun _ t r j hit => ?_)
  simp only [Bool.and_eq_true, Bool.or_eq_true, beq_iff_eq] at hit
  exact .failOfficial code message feedback (unix now) (officialActive_slot hit.1).2 hit.2

theorem markOfficialGenerated_behaves (taskID nodeID originURL ratio : String) (uploadJob : Option UploadJob)
    (callbackID : String) (now : Int) (faults : Faults Err) (n : Nat) (db : Database) :
    Behaves allowed db (markOfficialGenerated taskID nodeID originURL ratio uploadJob callbackID now faults n db).db := by
  refine immediate_behaves (fun a db' out => ?_)
  simp only [markOfficialGeneratedBody, returns_bind, returns_exec, returns_oneRow] at out
  obtain ⟨_, _, applied, _, mid, ⟨rfl, rfl⟩, _, mid', staged, out⟩ := out
  have staged' : Behaves allowed mid mid' := acting_other (by simp) _ _ _ staged
  cases uploadJob with
  | none =>
    refine behaves_chains.trans (updateTasks_behaves applied (fun _ => rfl) fun t _ r j hit => ?_)
      (behaves_chains.trans staged' (createCallbackDelivery_keeps _ _ _ out))
    simp only [Bool.and_eq_true, Bool.or_eq_true, beq_iff_eq] at hit
    exact .generate originURL ratio (unix now) (officialActive_slot hit.1).2 hit.2
  | some job =>
    simp only [returns_bind, returns_exec, returns_pure] at out
    obtain ⟨_, _, inserted, -, rfl⟩ := out
    obtain ⟨t, task, hit, after, others⟩ := view_updateTask applied (fun _ => rfl) fun t h =>
      (officialActive_slot (Bool.and_eq_true_iff.mp h).1).1
    simp only [Bool.and_eq_true, Bool.or_eq_true, beq_iff_eq] at hit
    obtain ⟨free, added, others'⟩ := view_insertJob inserted
    have same (id : String) : view mid' id = view mid id := view_other staged (by simp [Elsewhere])
    rw [same, after] at free added
    have moved : Only taskID (Move (Database.nodes db) allowed) db db' := by
      refine .of_eq ((View.eq_mk task rfl).trans (by rw [show (view db taskID).job = none from free])) added ?_ fun id other =>
        (others' id other).trans ((same id).trans (others id other))
      show Move _ _ _ ⟨some (officialGeneratedTask originURL ratio true (unix now) t), (view db taskID).run,
        some (newUploadJob job.id taskID job.objectKey now)⟩
      rw [← view_taskID task]
      exact .deliver originURL ratio job.id job.objectKey (unix now) now (officialActive_slot hit.1).2 hit.2
    exact moved.behaves (frame_chains.trans (.of_update applied (by decide))
      (frame_chains.trans staged'.toFrame (.of_insert inserted (by decide)))) fun _ _ h => h

end MinimaxProxy.Store
