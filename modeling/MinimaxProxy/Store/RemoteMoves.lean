import MinimaxProxy.Store.Moves

/-!
# The remote operations make moves

For each operation of `remote_task_store.go`: which view it may change and by which move.
-/

namespace MinimaxProxy.Store
open Sql Sql.Prog

variable {db db' : Database} {faults : Faults Err} {n : Nat} {nodeID : String} {now ttl : Int} {r : RemoteRun}

variable {allowed : Task → Prop}

/-! ## Statements under a lease -/

section
variable {r : RemoteRun} {now : Int} {guard : RemoteRun → Bool} {set : RemoteRun → RemoteRun} {db db' : Database}

theorem holds_taskID {s : RemoteRun} (h : holds r now s = true) : s.taskID = r.taskID := by
  simp only [holds, Bool.and_eq_true, beq_iff_eq] at h
  exact h.1.1.1.1

/-- A guarded statement that succeeded in a transaction. -/
theorem leasedUpdate_returns (h : (leasedUpdate r now guard set).Returns db () db') (keeps : ∀ s, (set s).taskID = s.taskID) :
    ∃ s, (view db r.taskID).run = some s ∧ holds r now s = true ∧ guard s = true ∧
      view db' r.taskID = { view db r.taskID with run := some (set s) } ∧ ∀ id, id ≠ r.taskID → view db' id = view db id := by
  simp only [leasedUpdate, returns_bind, returns_exec, returns_oneRow] at h
  obtain ⟨n, mid, applied, rfl, rfl⟩ := h
  obtain ⟨s, found, hit, after, others⟩ := view_updateRun applied keeps fun s h => holds_taskID (Bool.and_eq_true_iff.mp h).1
  obtain ⟨held, met⟩ := Bool.and_eq_true_iff.mp hit
  exact ⟨s, found, held, met, after, others⟩

/-- A guarded statement by itself changes the holder's run or nothing. -/
theorem leasedUpdate_only {M : View → View → Prop} (keeps : ∀ s, (set s).taskID = s.taskID)
    (moves : ∀ t s j, holds r now s = true → guard s = true → M ⟨t, some s, j⟩ ⟨t, some (set s), j⟩) :
    Only r.taskID M db (direct (leasedUpdate r now guard set) faults n db).db := by
  refine direct_only (fun c db' applied => .of_updateRuns applied keeps (fun s h => ?_) fun t s j h => ?_)
  · exact holds_taskID (Bool.and_eq_true_iff.mp h).1
  · exact moves t s j (Bool.and_eq_true_iff.mp h).1 (Bool.and_eq_true_iff.mp h).2

end

theorem renewRemoteLease_only :
    Only r.taskID (LeasedMove r (unix now) .renew) db (renewRemoteLease r ttl now faults n db).db := by
  rw [renewRemoteLease]
  split
  · exact .refl _ _ _
  · exact leasedUpdate_only (fun _ => rfl) fun t s j held met => .renew ttl held (by simpa using met)

theorem releaseRemoteLease_only {next : Int} {code : String} {reconcile : Bool} :
    Only r.taskID (LeasedMove r (unix now) .release) db (releaseRemoteLease r next code reconcile now faults n db).db :=
  leasedUpdate_only (fun _ => rfl) fun t s j held met => .release next code reconcile held (by simpa using met)

theorem prepareRemoteRequest_only {body : String} {valid : Bool} :
    Only r.taskID (LeasedMove r (unix now) .prepare) db (prepareRemoteRequest r body valid now faults n db).db := by
  rw [prepareRemoteRequest]
  split
  · exact .refl _ _ _
  · refine leasedUpdate_only (fun _ => rfl) fun t s j held met => ?_
    simp only [Bool.and_eq_true, beq_iff_eq] at met
    exact .prepare body held met.1 met.2

theorem beginRemoteSubmission_only :
    Only r.taskID (LeasedMove r (unix now) .begin) db (beginRemoteSubmission r now faults n db).db := by
  refine leasedUpdate_only (fun _ => rfl) fun t s j held met => ?_
  simp only [Bool.and_eq_true, Bool.or_eq_true, beq_iff_eq, Bool.not_eq_true'] at met
  exact .begin held met.1 met.2

/-! ## Transactions under a lease -/

/-- The task statement of a transaction under a lease. -/
theorem occupying_hit {k : String} {sel : Task → Bool} {set : Task → Task} {mid : Database}
    (h : (Dml.update Tbl.videoTasks (fun _ t => sel t) fun _ t => set t : Dml).apply mid = .ok (1, db'))
    (keeps : ∀ t, (set t).taskID = t.taskID) (only : ∀ t, sel t = true → t.taskID = k ∧ Occupies nodeID t) :
    ∃ t, (view mid k).task = some t ∧ Occupies nodeID t ∧ view db' k = { view mid k with task := some (set t) } ∧
      ∀ id, id ≠ k → view db' id = view mid id := by
  obtain ⟨t, found, hit, after, others⟩ := view_updateTask h keeps fun t h => (only t h).1
  exact ⟨t, found, (only t hit).2, after, others⟩

theorem bindRemoteTask_only {id : String} :
    Only r.taskID (LeasedMove r (unix now) (.bind id)) db (bindRemoteTask r id now faults n db).db := by
  rw [bindRemoteTask]
  split
  · exact .refl _ _ _
  · rename_i named
    refine immediate_only (fun u db' out => ?_)
    simp only [bindRemoteTaskBody, returns_bind, returns_exec, returns_oneRow] at out
    obtain ⟨_, mid, leased, c, _, applied, rfl, rfl⟩ := out
    obtain ⟨s, found, held, met, ran, others⟩ := leasedUpdate_returns leased fun _ => rfl
    obtain ⟨t, task, occupies, last, others'⟩ := occupying_hit applied (fun _ => rfl) fun t h => by
      simp only [Bool.and_eq_true, beq_iff_eq] at h
      exact ⟨h.1.1.1, h.1.1.2, h.1.2, h.2⟩
    rw [ran] at task last
    refine .of_eq (View.eq_mk task found) last ?_ fun id other => (others' id other).trans (others id other)
    exact .bind id held (by simpa using met) named occupies

theorem observeRemoteTask_only {status : RemoteStatus} {cancelState : CancelState} :
    Only r.taskID (LeasedMove r (unix now) .observe) db (observeRemoteTask r status cancelState now faults n db).db := by
  rw [observeRemoteTask]
  split
  · exact .refl _ _ _
  split
  · exact .refl _ _ _
  refine immediate_only (fun u db' out => ?_)
  simp only [observeRemoteTaskBody, returns_bind] at out
  obtain ⟨_, mid, leased, out⟩ := out
  obtain ⟨s, found, held, met, ran, others⟩ := leasedUpdate_returns leased fun _ => rfl
  have before := View.eq_mk (v := view db r.taskID) rfl found
  split at out
  · rename_i rejected
    simp only [returns_bind, returns_exec, returns_pure] at out
    obtain ⟨c, _, applied, -, rfl⟩ := out
    obtain ⟨last, others'⟩ := view_updateTask_where applied fun _ => rfl
    rw [ran] at last
    have resumed : (fun t : Task => if t.status == .cancelling then
        { t with status := .running, updatedAt := unix now, version := t.version + 1 } else t) = resumedTask (unix now) := by
      funext t
      simp only [resumedTask, beq_iff_eq]
    rw [resumed] at last
    refine .of_eq before last ?_ fun id other => (others' id other).trans (others id other)
    rw [if_pos rejected]
    exact .refuse status held (by simpa using met)
  · rename_i kept
    simp only [returns_pure] at out
    obtain ⟨-, rfl⟩ := out
    refine .of_eq before ran ?_ others
    rw [if_neg kept]
    exact .observe status held (by simpa using met)

theorem completeRemoteRun_only {c : RemoteCompletion} {callbackID : String} :
    Only r.taskID (LeasedMove r (unix now) (.complete c)) db (completeRemoteRun r c callbackID now faults n db).db := by
  rw [completeRemoteRun]
  split
  · exact .refl _ _ _
  split
  · exact .refl _ _ _
  rename_i ended located
  refine immediate_only (fun u db' out => ?_)
  simp only [completeRemoteRunBody, returns_bind, returns_exec, returns_oneRow] at out
  obtain ⟨_, mid, leased, _, _, applied, _, mid', ⟨rfl, rfl⟩, rest⟩ := out
  obtain ⟨s, found, held, met, ran, others⟩ := leasedUpdate_returns leased fun _ => rfl
  obtain ⟨t, task, occupies, last, others'⟩ := occupying_hit applied (fun _ => rfl) fun t h => by
    simp only [Bool.and_eq_true, beq_iff_eq] at h
    exact ⟨h.1.1.1.1, h.1.1.1.2, h.1.1.2, h.2⟩
  rw [ran] at task last
  have before : view db r.taskID = ⟨some t, some s, (view db r.taskID).job⟩ := View.eq_mk task found
  have unended : s.phase ≠ .terminal := by simpa using met
  have frame (id : String) (other : id ≠ r.taskID) : view mid' id = view db id := (others' id other).trans (others id other)
  -- Without a job to insert, the rest of the transaction only queues a callback.
  have plain (undelivered : c.delivers = false)
      (rest : (createCallbackDelivery callbackID r.taskID (RemoteStatus.name c.status) now).Returns mid' u db') :
      Only r.taskID (LeasedMove r (unix now) (.complete c)) db db' := by
    have same (id : String) : view db' id = view mid' id := view_createCallbackDelivery rest
    refine .of_eq before ((same _).trans last) ?_ fun id other => (same id).trans (frame id other)
    exact .complete c held unended undelivered (fun h => ended (.inl h)) (fun h => ended (.inr h)) occupies
  split at rest
  · rename_i job given
    split at rest
    · rename_i succeeded
      simp only [returns_bind, returns_require, returns_exec, returns_pure] at rest
      obtain ⟨_, _, ⟨named, rfl⟩, _, _, inserted, -, rfl⟩ := rest
      have delivers : c.delivers = true := by simp [RemoteCompletion.delivers, given, succeeded]
      obtain ⟨free, added, others''⟩ := view_insertJob inserted
      have vacant : (view db r.taskID).job = none := by
        rw [last] at free
        exact free
      rw [last] at added
      refine .of_eq (before.trans (by rw [vacant])) added ?_ fun id other => (others'' id other).trans (frame id other)
      show LeasedMove r (unix now) (.complete c) _ ⟨some (remoteCompletedTask c (unix now) t), some (completedRun c (unix now) s),
        some (newUploadJob job.id r.taskID job.objectKey now)⟩
      rw [← view_taskID task]
      exact .deliver c job.id job.objectKey now held unended delivers (fun h => located ⟨succeeded, h⟩) occupies
    · exact plain (by simp [RemoteCompletion.delivers, *]) rest
  · exact plain (by simp [RemoteCompletion.delivers, *]) rest

/-! ## Lease, cancel and claim -/

theorem getRemoteRun_ok {taskID : String} :
    getRemoteRun taskID db = .ok r ↔ (view db taskID).run = some r := by
  show getRemoteRun taskID db = .ok r ↔ findRun db taskID = some r
  rw [getRemoteRun]
  cases findRun db taskID <;> simp

/-- The lease that is granted, and the copy of the run that the worker gets. -/
theorem acquireRemoteLeaseBody_returns {taskID token : String}
    (out : (acquireRemoteLeaseBody taskID nodeID token ttl now).Returns db r db') :
    r.leaseToken = some token ∧ r.nodeID = nodeID ∧ (view db' taskID).run = some r ∧ Only taskID (AcquireMove token now) db db' := by
  simp only [acquireRemoteLeaseBody, returns_bind, returns_exec, returns_oneRow, returns_query] at out
  obtain ⟨_, _, applied, _, _, ⟨rfl, rfl⟩, read, rfl⟩ := out
  obtain ⟨s, found, hit, after, others⟩ := view_updateRun applied (fun _ => rfl) fun s h => by
    simp only [Bool.and_eq_true, beq_iff_eq] at h
    exact h.1.1.1.1.1
  simp only [Bool.and_eq_true, beq_iff_eq, bne_iff_ne, Bool.not_eq_true', decide_eq_true_eq] at hit
  have stored := getRemoteRun_ok.mp read
  rw [after] at stored
  cases stored
  exact ⟨rfl, hit.1.1.1.1.2, getRemoteRun_ok.mp read,
    .of_eq (View.eq_mk rfl found) after (.acquire ttl hit.1.1.1.2 hit.1.1.2 hit.1.2) others⟩

theorem acquireRemoteLease_only {taskID token : String} :
    Only taskID (AcquireMove token (unix now)) db (acquireRemoteLease taskID nodeID token ttl now faults n db).db := by
  rw [acquireRemoteLease]
  split
  · exact .refl _ _ _
  exact immediate_only (fun r db' out => (acquireRemoteLeaseBody_returns out).2.2.2)

/-- What a cancel request does. -/
inductive AskMove (now : Int) : View → View → Prop
  | ask {t s j} : s.phase ≠ .terminal → s.upstreamStatus ≠ some .running → s.cancelState ≠ .rejected →
      t.upstreamSlotActive = true → t.status.isTaken = true →
      AskMove now ⟨some t, some s, j⟩
        ⟨some (cancellingTask now t), some { s with cancelState := .requested, nextPollAt := none, updatedAt := now }, j⟩

theorem requestRemoteCancel_asks {taskID : String} :
    Only taskID (AskMove (unix now)) db (requestRemoteCancel taskID now faults n db).db := by
  refine immediate_only (fun u db' out => ?_)
  simp only [requestRemoteCancelBody, returns_bind, returns_query] at out
  obtain ⟨s, db, ⟨read, rfl⟩, out⟩ := out
  have found : (view db taskID).run = some s := elim_ok.mp read
  split at out
  · split at out
    · simp only [returns_pure] at out
      exact out.2 ▸ .refl _ _ _
    · exact absurd out returns_fail
  split at out
  · exact absurd out returns_fail
  rename_i unended refusable
  simp only [returns_bind, returns_exec, returns_oneRow, returns_pure] at out
  obtain ⟨_, _, applied, _, mid, ⟨rfl, rfl⟩, _, _, updated, -, rfl⟩ := out
  obtain ⟨t, task, hit, after, others⟩ := view_updateTask applied (fun _ => rfl) fun t h => by
    simp only [Bool.and_eq_true, beq_iff_eq] at h
    exact h.1.1.1
  simp only [Bool.and_eq_true, beq_iff_eq] at hit
  have last : view db' taskID = _ := view_updateRuns updated fun _ => rfl
  rw [after, found, Option.map_some, if_pos (beq_iff_eq.mpr (view_runID found))] at last
  refine .of_eq (View.eq_mk task found) last ?_ fun id other => ?_
  · exact .ask unended (fun h => refusable (.inl h)) (fun h => refusable (.inr h)) hit.1.1.2 hit.2
  · refine (view_updateRuns_of_ne updated (fun _ => rfl) (fun r h => beq_iff_eq.mp h) other).trans (others id other)

theorem requestRemoteCancel_only {taskID : String} :
    Only taskID (Move db.nodes allowed) db (requestRemoteCancel taskID now faults n db).db :=
  (requestRemoteCancel_asks).mono fun _ _ asked => by
    cases asked with
    | ask unended idle willing slot taken => exact .requestCancel (unix now) unended idle willing slot taken

theorem updateRemoteResult_only {taskID url : String} {expiresAt : Int} {metadataJSON : String}
    {metadataStatus : MetadataStatus} :
    Only taskID (Move db.nodes allowed) db
      (updateRemoteResult taskID nodeID url expiresAt metadataJSON metadataStatus now faults n db).db := by
  rw [updateRemoteResult]
  split
  · exact .refl _ _ _
  · refine direct_only (fun c db' applied => .of_updateTasks applied (fun _ => rfl) (fun t h => ?_) fun t r j _ => ?_)
    · simp only [Bool.and_eq_true, beq_iff_eq] at h
      exact h.1.1.1.1.1
    · exact .updateResult _ rfl

theorem saveRemoteAsset_view (r : RemoteRun) (a : NodeAsset) (now : Int) (faults : Faults Err) (n : Nat) (db : Database)
    (id : String) : view (saveRemoteAsset r a now faults n db).db id = view db id := by
  rw [saveRemoteAsset]
  split
  · rfl
  · refine view_of_writes ?_ (run_yields faults _ n db)
    exact writes_bind (writes_exec.mpr ⟨nofun, nofun, nofun⟩) writes_oneRow

/-! ## Claim -/

/-- A row read by `find?` is stored and meets the condition. -/
theorem found_spec {ρ : Type} {rows : List ρ} {p : ρ → Bool} {e : Err} {r : ρ}
    (h : (rows.find? p).elim (.error e) (.ok : ρ → Except Err ρ) = .ok r) : r ∈ rows ∧ p r = true := by
  have found := elim_ok.mp h
  exact ⟨List.mem_of_find?_eq_some found, List.find?_some found⟩

theorem writes_admissionRoom {P : Dml → Prop} {capacity : Int} {admission : List Admission} :
    (admissionRoom nodeID capacity admission).Writes P := by
  match admission with
  | [] => exact writes_pure
  | [a] => exact writes_bind writes_require fun _ => writes_bind writes_select fun _ => writes_bind writes_require fun _ => writes_pure
  | _ :: _ :: _ => exact writes_fail

/-- What a claim does. -/
inductive ClaimMove (nodes : List Node) (now : Int) : View → View → Prop
  | claim {t j} (node : Node) (key : String) : node ∈ nodes → node.protocolVersion = .tk2sd →
      t.protocolVersion = some .tk2sd → t.status.isQueued = true →
      ClaimMove nodes now ⟨some t, none, j⟩
        ⟨some (remoteClaimedTask node now t),
          some { taskID := t.taskID, nodeID := node.id, phase := .preparing, submissionKey := key, createdAt := now
                 updatedAt := now }, j⟩

/-- A claim takes one task, and then the queue is ranked. -/
theorem claimNextRemote_claims {o : Options} {nodeVersion capacity : Int} {admission : List Admission}
    {db'' : Database} {r : Task} (out : (claimNextRemoteBody o nodeID nodeVersion capacity admission now).Returns db r db'') :
    ∃ taskID mid, Only taskID (ClaimMove db.nodes now) db mid ∧ Frame db mid ∧ (rebalance o now).Returns mid () db'' := by
  simp only [claimNextRemoteBody, returns_bind, returns_query, returns_select, returns_require, returns_exec,
    returns_oneRow] at out
  obtain ⟨node, db, ⟨isNode, rfl⟩, _, db, ⟨-, rfl⟩, _, mid, admitted, out⟩ := out
  obtain rfl := admitted.readOnly writes_admissionRoom
  obtain ⟨_, db, ⟨-, rfl⟩, t, db, ⟨isNext, rfl⟩, _, db, ⟨-, rfl⟩, key, db, ⟨-, rfl⟩, out⟩ := out
  obtain ⟨_, db, ⟨-, rfl⟩, _, _, claimed, _, held, ⟨rfl, rfl⟩, _, mid, inserted, _, db', balanced, -, rfl⟩ := out
  obtain ⟨stored, claimable⟩ : t ∈ Database.tasks db ∧ remoteClaimable nodeID _ now db t = true := found_spec isNext
  obtain ⟨isStored, matched⟩ : node ∈ Database.nodes db ∧ _ := found_spec isNode
  simp only [Bool.and_eq_true, beq_iff_eq] at matched
  simp only [remoteClaimable, Bool.and_eq_true, beq_iff_eq] at claimable
  obtain ⟨u, found, hit, after, others⟩ := view_updateTask claimed (fun _ => rfl) fun t h => by
    simp only [Bool.and_eq_true, beq_iff_eq] at h
    exact h.1
  obtain rfl : t = u := Option.some.inj ((find_of_mem (tasks_distinct db) stored).symm.trans found)
  simp only [Bool.and_eq_true, beq_iff_eq] at hit
  obtain ⟨free, added, others'⟩ := view_insertRun inserted
  rw [after] at free added
  have moved : Only t.taskID (ClaimMove (Database.nodes db) now) db mid := by
    refine .of_eq (View.eq_mk found free) added ?_ fun id other => (others' id other).trans (others id other)
    obtain ⟨⟨⟨⟨id, _⟩, _⟩, _⟩, protocol⟩ := matched
    exact id ▸ .claim node _ isStored protocol claimable.1.1.1.1.1.1 hit.2
  exact ⟨t.taskID, mid, moved, frame_chains.trans (.of_update claimed (by decide)) (.of_insert inserted (by decide)), balanced⟩

/-! ## Frames -/

theorem fail_framing {α : Type} {e : Err} : Framing (direct (.fail e : Prog α)) := framing_direct writes_fail

theorem completeRemoteRun_framing {c : RemoteCompletion} {callbackID : String} : Framing (completeRemoteRun r c callbackID now) := by
  refine framing_ite fail_framing (framing_ite fail_framing (framing_immediate ?_))
  have called {status : String} : (createCallbackDelivery callbackID r.taskID status now).Writes Framed :=
    writes_createCallbackDelivery fun _ => .of_table (by simp)
  cases job : c.uploadJob <;> simp [completeRemoteRunBody, leasedUpdate, job, called]

end MinimaxProxy.Store
