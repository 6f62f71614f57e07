import MinimaxProxy.Store.QueueScan
import MinimaxProxy.Store.RemoteMoves
import MinimaxProxy.Store.Tasks

/-!
# The queue and cancels make moves

For `Create`, the cancel requests and deletion: the moves they make on the views.
-/

namespace MinimaxProxy.Store
open Sql Sql.Prog

variable {callbackID : String} {db db' : Database} {input : NewTask} {now : Int} {o : Options} {t : Task} {α : Type}

variable {allowed : Task → Prop}

/-- A statement about neither the views nor the nodes and attempts. -/
def Aside (w : Dml) : Prop := Elsewhere w ∧ Framed w

theorem Aside.behaves {w : Dml} (h : Aside w) {n : Nat} (applied : w.apply db = .ok (n, db')) :
    Behaves allowed db db' := by
  refine ⟨h.2.frame applied, fun id => ?_⟩
  rw [view_other applied h.1]

/-- A statement that makes moves and keeps the frame. -/
def Acting (allowed : Task → Prop) (w : Dml) : Prop := ∀ db n db', w.apply db = .ok (n, db') → Behaves allowed db db'

@[simp] theorem acting_other {w : Dml} (table : (¬ w.table = .videoTasks ∧ ¬ w.table = .taskRemoteRuns ∧ ¬ w.table = .resultUploadJobs) ∧
    ¬ w.table = .modelServiceNodes ∧ ¬ w.table = .stageAttempts) : Acting allowed w :=
  fun _ _ _ => Aside.behaves ⟨table.1, .of_table table.2⟩

theorem acting_attempts {sel : Database → Attempt → Bool} {set : Database → Attempt → Attempt} :
    Acting allowed (.update Tbl.stageAttempts sel set) :=
  fun _ _ _ => Aside.behaves (w := .update Tbl.stageAttempts sel set) ⟨⟨nofun, nofun, nofun⟩, nofun, fun _ => ⟨sel, set, rfl⟩⟩

/-- An UPDATE of tasks that makes a move on every row it selects. -/
theorem acting_tasks {sel : Database → Task → Bool} {set : Database → Task → Task} (keeps : ∀ db t, (set db t).taskID = t.taskID)
    (moves : ∀ db t r j, sel db t = true → Move (Database.nodes db) allowed ⟨some t, r, j⟩ ⟨some (set db t), r, j⟩) :
    Acting allowed (.update Tbl.videoTasks sel set) :=
  fun db _ _ applied => updateTasks_behaves applied (keeps db) fun t _ => moves db t

theorem keeps_of_acting {p : Prog α} (h : p.Writes (Acting allowed)) : p.Keeps (Behaves allowed) := h.keeps behaves_chains fun _ => id

theorem acting_behaves {p : Prog α} (h : p.Writes (Acting allowed))
    {faults : Faults Err} {n : Nat} : Behaves allowed db (immediate p faults n db).db :=
  immediate_behaves fun a db' => keeps_of_acting h db a db'

@[simp] theorem acting_rebalance : (rebalance o now).Writes (Acting allowed) :=
  writes_bind (writes_exec.mpr (acting_tasks (fun _ _ => rfl) fun db t _ _ hit =>
    .rank (ranked o.protectedSlots db t) now (Bool.and_eq_true_iff.mp hit).2)) fun _ => writes_pure

theorem rebalance_behaves {u : Unit} (h : (rebalance o now).Returns db u db') :
    Behaves allowed db db' := keeps_of_acting acting_rebalance _ _ _ h

@[simp] theorem acting_callback {taskID status : String} : (createCallbackDelivery callbackID taskID status now).Writes (Acting allowed) :=
  writes_createCallbackDelivery fun _ => acting_other (by simp)

theorem createCallbackDelivery_keeps {taskID status : String} :
    (createCallbackDelivery callbackID taskID status now).Keeps (Behaves allowed) :=
  keeps_of_acting acting_callback

/-! ## Creation -/

section
variable {P : Dml → Prop}

theorem writes_anyServes {model : String} {r : TaskRequirements} {ids : List String} : (anyServes model r ids).Writes P := by
  induction ids with
  | nil => exact writes_pure
  | cons id ids ih => exact writes_bind (writes_catalogWith id) fun _ => writes_bind ih fun _ => writes_pure

theorem writes_chooseProtocol : (chooseProtocol input).Writes P := by
  unfold chooseProtocol
  split
  · exact writes_pure
  · refine writes_bind writes_select fun protocols => ?_
    split
    · exact writes_pure
    · exact writes_pure
    · exact writes_fail

theorem writes_prepareTaskRouting : (prepareTaskRouting input now).Writes P := by
  refine writes_bind writes_chooseProtocol fun protocol => writes_bind writes_require fun _ => ?_
  dsimp only
  generalize (if input.requestNormalizer = "" then _ else _) = normalizer
  generalize input.routingSnapshotJSON.getD _ = doc
  cases doc with
  | unreadable protocol => exact writes_fail
  | value snapshot =>
    refine writes_bind writes_require fun _ => ?_
    split
    · exact writes_bind writes_query fun _ => writes_bind writes_require fun _ => writes_bind writes_select fun _ =>
        writes_bind writes_require fun _ => writes_bind writes_anyServes fun _ =>
        writes_bind writes_require fun _ => writes_pure
    · exact writes_pure

end

/-- The two statements that write a new task. -/
theorem newTask_keeps {expires : Int} {rest : Nat → Prog α} (h : ∀ c, (rest c).Keeps (Behaves allowed)) :
    (do
      let _ ← exec (.insert Tbl.videoTasks fun _ seq => [newTask input now expires seq])
      let c ← exec (.update Tbl.videoTasks (fun _ (t : Task) => t.taskID == input.taskID) fun _ (t : Task) =>
        { t with protocolVersion := input.protocolVersion, routeState := .ready
                 routingSnapshotJSON := input.routingSnapshotJSON, requestNormalizer := input.requestNormalizer })
      rest c : Prog α).Keeps (Behaves allowed) := by
  intro db a db' out
  simp only [returns_bind, returns_exec] at out
  obtain ⟨_, mid, inserted, c, mid', routed, out⟩ := out
  refine behaves_chains.trans ⟨?_, ?_⟩ (h c mid' a db' out)
  · exact frame_chains.trans (.of_insert inserted (by decide)) (.of_update routed (by decide))
  · obtain ⟨free, ⟨seq, added⟩, others⟩ := view_insertTask inserted fun _ => rfl
    have last : view mid' input.taskID = _ := view_updateTasks routed fun _ => rfl
    rw [added] at last
    have moved : Only input.taskID (Move (Database.nodes db) allowed) db mid' := by
      refine .of_eq (View.eq_mk free rfl) last ?_ fun id other =>
        (view_updateTasks_of_ne routed (fun _ => rfl) (fun t h => beq_iff_eq.mp h) other).trans (others id other)
      have hit : ((newTask input now expires seq).taskID == input.taskID) = true := beq_self_eq_true _
      rw [Option.map_some, if_pos hit]
      exact .create _ ⟨rfl, rfl, rfl⟩
    exact moved.acts fun _ _ h => h

@[simp] theorem acting_insertSpoolFile {validURL : String → Bool} {taskID : String} {f : SpoolFile} :
    (insertSpoolFile validURL taskID now f).Writes (Acting allowed) := by
  unfold insertSpoolFile
  extract_lets f
  split <;> simp

theorem insertTask_keeps {validURL : String → Bool} {keyHash : String} :
    (insertTask o validURL input keyHash now).Keeps (Behaves allowed) := by
  refine keeps_bind behaves_chains (keeps_of_acting writes_prepareTaskRouting) fun input => newTask_keeps fun _ => keeps_of_acting ?_
  have staged {rest : Prog Task} (h : rest.Writes (Acting allowed)) : (do
      forEach (insertStage input.taskID now) input.stages
      forEach (insertSpoolFile validURL input.taskID now) input.inputSpoolFiles
      rest).Writes (Acting allowed) := writes_forEach_bind (by simp [insertStage]) (by simp [h])
  simp [staged]

theorem create_behaves {validURL : String → Bool} {keyHash : String} {available : Option Bool} {faults : Faults Err} {n : Nat} :
    Behaves allowed db (create o validURL input keyHash available now faults n db).db := by
  refine immediate_behaves fun a db' out => ?_
  have readOnly {α : Type} {p : Prog α} (h : p.Writes (Acting allowed)) := keeps_of_acting h
  refine keeps_bind behaves_chains (readOnly ?_) (fun replay => ?_) db a db' out
  · split <;> simp
  cases replay with
  | some k => exact readOnly (by simp)
  | none =>
    refine keeps_bind behaves_chains (readOnly writes_require) fun _ => ?_
    have admitted : (do
        checkLimits o input.apiKeyID
        insertTask o validURL input keyHash (unix now)).Keeps (Behaves allowed) :=
      keeps_bind behaves_chains (readOnly (by simp [checkLimits])) fun _ => insertTask_keeps
    dsimp only
    split
    · exact keeps_bind behaves_chains (readOnly (by simp)) fun _ => admitted
    · exact admitted

theorem claimNextRemote_behaves {nodeID : String} {nodeVersion capacity : Int}
    {admission : List Admission} {faults : Faults Err} {n : Nat} :
    Behaves allowed db (claimNextRemote o nodeID nodeVersion capacity admission now faults n db).db := by
  rw [claimNextRemote]
  split
  · exact behaves_chains.refl db
  refine immediate_behaves (fun r db'' out => ?_)
  obtain ⟨taskID, mid, moved, frame, balanced⟩ := claimNextRemote_claims out
  refine behaves_chains.trans (moved.behaves frame fun _ _ claimed => ?_) (rebalance_behaves balanced)
  cases claimed with
  | claim node key stored remote protocol queued => exact .claimRemote node key (unix now) stored remote protocol queued

/-! ## Cancels and deletion -/

theorem cancelQueued_behaves {owner taskID : String} {faults : Faults Err} {n : Nat} :
    Behaves allowed db (cancelQueued o owner taskID callbackID now faults n db).db := by
  refine acting_behaves (writes_bind writes_query fun t => writes_bind writes_require fun _ => writes_bind ?_ fun _ => by simp)
  refine writes_exec.mpr (acting_tasks (fun _ _ => rfl) fun _ t r j hit => .cancelQueued (unix now) ?_)
  simp only [Bool.and_eq_true, beq_iff_eq] at hit
  rw [hit.2]
  rfl

theorem requestTaskDeletion_behaves {uuid : Nat → String} {taskID requestedBy : String}
    {reason : DeletionReason} {faults : Faults Err} {n : Nat} :
    Behaves allowed db (requestTaskDeletion uuid taskID reason requestedBy now faults n db).db := by
  have row {sel : Database → Task → Bool} {state : DeletionState} : Acting allowed (.update Tbl.videoTasks sel fun _ (t : Task) =>
      { t with deletedAt := some now, deletionState := state, updatedAt := now, version := t.version + 1 }) :=
    acting_tasks (fun _ _ => rfl) fun _ _ _ _ _ => .delete now state
  exact acting_behaves (by simp [requestTaskDeletionBody, row])

/-- Without attempts there is nothing to stop on a node. -/
theorem lastOpenAttempt_none (none : db.attempts = []) (taskID : String) : lastOpenAttempt db taskID = .none := by
  have empty : (db.stages.filter (·.taskID == taskID)).flatMap (fun s =>
      (db.attempts.filter fun a => a.stageID == s.id && a.status.isOpen).map fun a => (s, a)) = [] := by
    rw [List.flatMap_eq_nil_iff]
    intro s _
    rw [none]
    rfl
  rw [lastOpenAttempt, empty]
  rfl

/-- A stored task is the one its id finds. -/
theorem eq_of_findTask {u : Task} (found : findTask db t.taskID = some t) (mem : u ∈ db.tasks) (same : u.taskID = t.taskID) : u = t := by
  have lookup : findTask db u.taskID = some u := find_of_mem (tasks_distinct db) mem
  rw [same, found] at lookup
  exact (Option.some.inj lookup).symm

/-- The end of a stage task that an administrator cancels. -/
theorem finishStageTaskCancellation_behaves {u : Unit}
    (found : findTask db t.taskID = some t) (stages : present t.activeStageID = true ∨ present t.upstreamID = false)
    (taken : t.status.isTaken = true) (out : (finishStageTaskCancellation callbackID t.taskID now).Returns db u db') :
    Behaves allowed db db' := by
  simp only [finishStageTaskCancellation, returns_bind, returns_exec, returns_oneRow] at out
  obtain ⟨_, mid, attempted, _, mid', staged, _, mid'', applied, _, _, ⟨rfl, rfl⟩, out⟩ := out
  have ended : Behaves allowed db mid' :=
    behaves_chains.trans (acting_attempts _ _ _ attempted) (acting_other (by simp) _ _ _ staged)
  have kept : findTask mid' t.taskID = some t := by
    have same : view mid' t.taskID = view db t.taskID :=
      (view_other staged (by simp [Elsewhere])).trans (view_other attempted (by simp [Elsewhere]))
    exact (congrArg View.task same).trans found
  refine behaves_chains.trans ended (behaves_chains.trans (updateTasks_behaves applied (fun _ => rfl) fun v mem r j hit => ?_)
    (createCallbackDelivery_keeps _ _ _ out))
  simp only [Bool.and_eq_true, beq_iff_eq] at hit
  obtain rfl := eq_of_findTask kept mem hit.1
  exact .cancelStages now stages taken

theorem cancelFound_behaves {u : Unit} (found : findTask db t.taskID = some t)
    (none : db.attempts = []) (ok : t.status.isActive = true → allowed t)
    (free : present t.upstreamID = true → t.status.isActive = true → heldByOfficial db.nodes t = false)
    (out : (cancelFound o t t.taskID callbackID now).Returns db u db') : Behaves allowed db db' := by
  simp only [cancelFound, createNodeDispatchBarrierForTask, returns_bind, returns_select] at out
  obtain ⟨barrier, mid, ⟨_, db, ⟨rfl, rfl⟩, read⟩, out⟩ := out
  rw [lastOpenAttempt_none none] at read
  simp only [returns_pure] at read
  obtain ⟨rfl, rfl⟩ := read
  simp only [Bool.false_eq_true, if_false, Bool.false_or] at out
  split at out
  · rename_i queued
    simp only [returns_bind, returns_exec, returns_oneRow] at out
    obtain ⟨_, _, applied, _, mid', ⟨rfl, rfl⟩, _, mid, balanced, out⟩ := out
    refine behaves_chains.trans (updateTasks_behaves applied (fun _ => rfl) fun v mem r j hit => ?_)
      (behaves_chains.trans (rebalance_behaves balanced) (createCallbackDelivery_keeps _ _ _ out))
    simp only [Bool.and_eq_true, beq_iff_eq] at hit
    exact .adminCancelQueued now (hit.2 ▸ queued)
  split at out
  · rename_i taken
    split at out
    · rename_i stages
      simp only [Bool.or_eq_true, Bool.not_eq_true'] at stages
      exact finishStageTaskCancellation_behaves found stages taken out
    split at out
    · rename_i held active
      simp only [returns_bind, returns_exec, returns_oneRow] at out
      obtain ⟨_, _, applied, rfl, rfl⟩ := out
      refine updateTasks_behaves applied (fun _ => rfl) fun v mem r j hit => ?_
      simp only [Bool.and_eq_true, beq_iff_eq] at hit
      obtain rfl := eq_of_findTask found mem hit.1
      have upstream : present v.upstreamID = true := by
        simp only [Bool.or_eq_true, Bool.not_eq_true', not_or] at held
        simpa using held.2
      exact .adminCancel now (ok active) active upstream (free upstream active)
    · rw [(returns_pure.mp out).2]
      exact behaves_chains.refl _
  · exact absurd out returns_fail

theorem adminCancel_behaves {taskID : String} {faults : Faults Err} {n : Nat} (none : db.attempts = [])
    (ok : ∀ t, findTask db taskID = some t → t.status.isActive = true → allowed t) :
    Behaves allowed db (adminCancel o taskID callbackID now faults n db).db := by
  refine immediate_behaves (fun a db' out => ?_)
  simp only [adminCancelBody, returns_bind, returns_query] at out
  obtain ⟨t, db, ⟨read, rfl⟩, out⟩ := out
  obtain ⟨stored, matched⟩ := found_spec read
  simp only [Bool.and_eq_true, beq_iff_eq] at matched
  obtain rfl := matched.1.1
  have found : findTask db t.taskID = some t := find_of_mem (tasks_distinct db) stored
  split at out
  · simp only [returns_bind, returns_select, returns_require] at out
    obtain ⟨_, db, ⟨rfl, rfl⟩, _, mid, ⟨free, rfl⟩, out⟩ := out
    have unheld : officialHolds t mid = false := by simpa using free
    exact cancelFound_behaves found none (ok t found) (fun _ _ => unheld) out
  · rename_i idle
    refine cancelFound_behaves found none (ok t found) (fun upstream active => ?_) out
    exact absurd (by simp [upstream, active]) idle

end MinimaxProxy.Store
