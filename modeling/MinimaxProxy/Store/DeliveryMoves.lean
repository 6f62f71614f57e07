import MinimaxProxy.Store.QueueMoves

/-!
# The upload workers make moves

The operations of `result_delivery_store.go` find a job by its id; the view they change is
that of the job's task.
-/

namespace MinimaxProxy.Store
open Sql Sql.Prog

variable {allowed : Task → Prop}

section
variable {db db' : Database} {n : Nat} {job : UploadJob}

theorem eq_of_job_id {j : UploadJob} (stored : job ∈ db.uploadJobs) (mem : j ∈ db.uploadJobs) (same : j.id = job.id) : j = job := by
  have found := find_of_mem (job_ids_distinct db) mem
  rw [same, find_of_mem (job_ids_distinct db) stored] at found
  exact (Option.some.inj found).symm

/-- An UPDATE of the job with this id. -/
theorem view_updateJob_id {sel : UploadJob → Bool} {set : UploadJob → UploadJob}
    (h : (Dml.update Tbl.resultUploadJobs (fun _ j => sel j) fun _ j => set j : Dml).apply db = .ok (n, db'))
    (stored : job ∈ db.uploadJobs) (keeps : ∀ j, (set j).taskID = j.taskID) (only : ∀ j, sel j = true → j.id = job.id)
    (hit : sel job = true) :
    (view db job.taskID).job = some job ∧ view db' job.taskID = { view db job.taskID with job := some (set job) } ∧
      ∀ id, id ≠ job.taskID → view db' id = view db id := by
  have found : findUploadJob db job.taskID = some job := find_of_mem jobs_distinct stored
  have after (id : String) : findUploadJob db' id = (findUploadJob db id).map fun j => if sel j then set j else j :=
    apply_update_find h keeps
  have task : db'.tasks = db.tasks := apply_update_rows_of_ne h (by decide)
  have run : db'.remoteRuns = db.remoteRuns := apply_update_rows_of_ne h (by decide)
  refine ⟨found, ?_, fun id other => ?_⟩
  · simp only [view, after, found, Option.map_some, hit, if_true, findTask, findRun, task, run]
  · have same : findUploadJob db' id = findUploadJob db id := by
      rw [after]
      cases lookup : findUploadJob db id with
      | none => rfl
      | some j =>
        have miss : ¬ sel j = true := by
          intro hit
          have same := eq_of_job_id stored (mem_of_find lookup) (only j hit)
          exact other (by rw [← same]; exact (key_of_find lookup).symm)
        rw [Option.map_some, if_neg miss]
    simp only [view, same, findTask, findRun, task, run]

/-- The job that stays when another one is changed. -/
theorem job_mem_of_ne {sel : UploadJob → Bool} {set : UploadJob → UploadJob}
    (h : (Dml.update Tbl.resultUploadJobs (fun _ j => sel j) fun _ j => set j : Dml).apply db = .ok (n, db')) {j : UploadJob}
    (mem : j ∈ db.uploadJobs) (miss : sel j = false) : j ∈ db'.uploadJobs := by
  obtain ⟨tab, rfl, rows, -⟩ := apply_update h
  rw [Database.uploadJobs, DB.rows_put_self, rows]
  exact List.mem_map.mpr ⟨j, mem, by simp [miss]⟩

/-- `failDeliveredTask` fails the task if it is still being delivered. -/
theorem failDeliveredTask_view {callbackID taskID message : String} {now : Int} {u : Unit}
    (out : (failDeliveredTask callbackID taskID message now).Returns db u db') :
    view db' taskID = { view db taskID with task := (view db taskID).task.map (undelivered message now) } ∧
      (∀ id, id ≠ taskID → view db' id = view db id) ∧ Frame db db' ∧ db'.uploadJobs = db.uploadJobs := by
  simp only [failDeliveredTask, returns_bind, returns_exec] at out
  obtain ⟨c, mid, applied, out⟩ := out
  obtain ⟨after, others⟩ := view_updateTask_where applied fun _ => rfl
  have shape : (fun t : Task => if t.status == .reconciling then undeliveredTask message now t else t) = undelivered message now := by
    funext t
    simp only [undelivered, beq_iff_eq]
  rw [shape] at after
  have jobs : Database.uploadJobs mid = db.uploadJobs := apply_update_rows_of_ne applied (by decide)
  split at out
  · obtain ⟨-, rfl⟩ := returns_pure.mp out
    exact ⟨after, others, .of_update applied (by decide), jobs⟩
  · have same (id : String) : view db' id = view mid id := view_createCallbackDelivery out
    have quiet : (createCallbackDelivery callbackID taskID "failed" now).Writes Elsewhere :=
      writes_createCallbackDelivery fun _ => by simp [Elsewhere]
    refine ⟨(same taskID).trans after, fun id other => (same id).trans (others id other), ?_, (jobs_of_writes quiet out).trans jobs⟩
    have called : Behaves (fun _ => True) mid db' := createCallbackDelivery_keeps _ _ _ out
    exact frame_chains.trans (.of_update applied (by decide)) called.toFrame

end

/-- The end of a job: its row, then its task. -/
theorem endJob_behaves {db mid db' : Database} {n : Nat} {job : UploadJob} {set : UploadJob → UploadJob}
    {callbackID message : String} {now : Int} {u : Unit}
    (updated : (Dml.update Tbl.resultUploadJobs (fun _ j => j.id == job.id) fun _ j => set j : Dml).apply db = .ok (n, mid))
    (stored : job ∈ db.uploadJobs) (keeps : ∀ j, (set j).taskID = j.taskID)
    (moves : ∀ t r, DeliveryMove ⟨t, r, some job⟩ ⟨t.map (undelivered message now), r, some (set job)⟩)
    (out : (failDeliveredTask callbackID job.taskID message now).Returns mid u db') :
    Behaves allowed db db' ∧ ∀ j ∈ db.uploadJobs, j.id ≠ job.id → j ∈ db'.uploadJobs := by
  obtain ⟨found, after, others⟩ := view_updateJob_id updated stored keeps (fun j h => beq_iff_eq.mp h) (beq_iff_eq.mpr rfl)
  obtain ⟨last, others', frame, jobs⟩ := failDeliveredTask_view out
  constructor
  · rw [after] at last
    have before : view db job.taskID = ⟨(view db job.taskID).task, (view db job.taskID).run, some job⟩ := by rw [← found]
    have moved : Only job.taskID DeliveryMove db db' :=
      .of_eq before last (moves _ _) fun id other => (others' id other).trans (others id other)
    exact moved.behaves (frame_chains.trans (.of_update updated (by decide)) frame) fun _ _ h => .delivery h
  · intro j mem other
    rw [jobs]
    exact job_mem_of_ne updated mem (by simpa using other)

/-! ## Recovery and claim -/

theorem recover_behaves {uuid : Nat → String} {now : Int} (jobs : List (UploadJob × Nat)) {db db' : Database} {u : Unit}
    (stored : ∀ job ∈ jobs, job.1 ∈ db.uploadJobs ∧ UploadJob.isOpen job.1 = true)
    (distinct : jobs.Pairwise fun a b => a.1.id ≠ b.1.id)
    (out : (forEach (fun (job, i) => do
      let _ ← exec (.update Tbl.resultUploadJobs (fun _ (j : UploadJob) => j.id == job.id)
        fun _ j => exhaustedJob exhaustedMessage now j)
      failDeliveredTask (uuid i) job.taskID exhaustedMessage now) jobs : Prog Unit).Returns db u db') : Behaves allowed db db' := by
  induction jobs generalizing db with
  | nil =>
    rw [(returns_ret.mp out).2]
    exact behaves_chains.refl db
  | cons entry rest ih =>
    obtain ⟨job, i⟩ := entry
    simp only [forEach, ← bind_eq, returns_bind, returns_exec] at out
    obtain ⟨_, mid', ⟨_, mid, updated, failed⟩, out⟩ := out
    obtain ⟨here, isOpen⟩ := stored (job, i) List.mem_cons_self
    rw [List.pairwise_cons] at distinct
    obtain ⟨moved, others⟩ := endJob_behaves updated here (fun _ => rfl) (fun t r => .exhaust _ now isOpen) failed
    refine behaves_chains.trans moved (ih (fun other mem => ?_) distinct.2 out)
    obtain ⟨there, isOpen⟩ := stored other (List.mem_cons_of_mem _ mem)
    exact ⟨others other.1 there (distinct.1 other mem).symm, isOpen⟩

theorem recoverExhaustedResultUploads_behaves (uuid : Nat → String) (now : Int) (faults : Faults Err) (n : Nat) (db : Database) :
    Behaves allowed db (recoverExhaustedResultUploads uuid now faults n db).db := by
  refine immediate_behaves (fun u db' out => ?_)
  simp only [recoverExhaustedBody, returns_bind, returns_select] at out
  obtain ⟨jobs, db, ⟨rfl, rfl⟩, out⟩ := out
  have whole := List.zipIdx_map_fst 0
    (((Database.uploadJobs db).filter (UploadJob.exhausted now)).insertionSort (fun a b => !jobBefore b a) |>.take 100)
  have sorted := List.perm_insertionSort (fun a b => !jobBefore b a) ((Database.uploadJobs db).filter (UploadJob.exhausted now))
  refine recover_behaves _ (fun job mem => ?_) ?_ out
  · have mem : job.1 ∈ _ := whole ▸ List.mem_map_of_mem mem
    obtain ⟨stored, exhausted⟩ := List.mem_filter.mp (sorted.mem_iff.mp (List.mem_of_mem_take mem))
    simp only [UploadJob.exhausted, Bool.and_eq_true, Bool.or_eq_true, beq_iff_eq, decide_eq_true_eq] at exhausted
    refine ⟨stored, ?_⟩
    rcases exhausted.2 with (status | status) | status <;> simp [UploadJob.isOpen, status]
  · have distinct : (Database.uploadJobs db).Pairwise fun a b => a.id ≠ b.id := job_ids_distinct db
    have distinct := (sorted.pairwise_iff fun h => h.symm).mpr (distinct.filter (UploadJob.exhausted now))
    have distinct := distinct.sublist (List.take_sublist 100 _)
    rw [← whole, List.pairwise_map] at distinct
    exact distinct

/-- The claim changes the row of one open job and returns it. -/
theorem claimUploadJobBody_returns {leaseToken : String} {leaseDuration now : Int} {db db' : Database} {r : UploadJob}
    (out : (claimUploadJobBody leaseToken leaseDuration now).Returns db r db') :
    ∃ job ∈ db.uploadJobs, r = claimedJob leaseToken leaseDuration now job ∧ UploadJob.isOpen job = true ∧
      job.attemptNo < job.maxAttempts ∧ Frame db db' ∧ (view db job.taskID).job = some job ∧
      view db' job.taskID = { view db job.taskID with job := some r } ∧ ∀ id, id ≠ job.taskID → view db' id = view db id := by
  simp only [claimUploadJobBody, returns_bind, returns_query, returns_exec, returns_oneRow] at out
  obtain ⟨job, db, ⟨read, rfl⟩, _, _, updated, _, mid, ⟨rfl, rfl⟩, reread, rfl⟩ := out
  obtain ⟨stored, claimable⟩ := List.mem_filter.mp (first_mem (elim_ok.mp read))
  simp only [UploadJob.claimable, Bool.and_eq_true, Bool.or_eq_true, beq_iff_eq, decide_eq_true_eq] at claimable
  obtain ⟨found, after, others⟩ := view_updateJob_id updated stored (fun _ => rfl)
    (fun j h => beq_iff_eq.mp (Bool.and_eq_true_iff.mp h).1) (by simp)
  have isOpen : UploadJob.isOpen job = true := by
    rcases claimable.2 with (status | status) | status <;> simp [UploadJob.isOpen, status]
  have returned : r = claimedJob leaseToken leaseDuration now job := by
    have row : (Database.uploadJobs db').find? (·.id == job.id) = _ := apply_update_find updated fun _ => rfl
    have old : (db.rows Tbl.resultUploadJobs).find? (·.id == job.id) = some job := find_of_mem (job_ids_distinct db) stored
    rw [old, Option.map_some, if_pos (by simp)] at row
    rw [row] at reread
    exact (Except.ok.inj reread).symm
  subst returned
  exact ⟨job, stored, rfl, isOpen, claimable.1, .of_update updated (by decide), found, after, others⟩

theorem claimUploadJob_behaves (leaseToken : String) (leaseDuration now : Int) (faults : Faults Err) (n : Nat) (db : Database) :
    Behaves allowed db (immediate (claimUploadJobBody leaseToken leaseDuration now) faults n db).db := by
  refine immediate_behaves (fun r db' out => ?_)
  obtain ⟨job, -, rfl, isOpen, below, frame, found, after, others⟩ := claimUploadJobBody_returns out
  have before : view db job.taskID = ⟨(view db job.taskID).task, (view db job.taskID).run, some job⟩ := by rw [← found]
  have moved : Only job.taskID DeliveryMove db db' := .of_eq before after (.upload leaseToken leaseDuration now isOpen below) others
  exact moved.behaves frame fun _ _ h => .delivery h

/-! ## The end of an attempt -/

theorem uploadingJob_returns {jobID leaseToken : String} {db db' : Database} {job : UploadJob}
    (out : (uploadingJob jobID leaseToken).Returns db job db') :
    db' = db ∧ job ∈ db.uploadJobs ∧ job.id = jobID ∧ job.status = .uploading := by
  obtain ⟨read, rfl⟩ := returns_query.mp out
  obtain ⟨stored, matched⟩ := found_spec read
  simp only [Bool.and_eq_true, beq_iff_eq] at matched
  exact ⟨rfl, stored, matched.1.1, matched.1.2⟩

theorem failResultUploadAttempt_behaves (jobID leaseToken code message : String) (retryable : Bool) (nextAttempt : Int)
    (callbackID : String) (now : Int) (faults : Faults Err) (n : Nat) (db : Database) :
    Behaves allowed db
      (failResultUploadAttempt jobID leaseToken code message retryable nextAttempt callbackID now faults n db).db := by
  refine immediate_behaves (fun u db' out => ?_)
  simp only [failResultUploadAttemptBody, returns_bind, returns_exec] at out
  obtain ⟨job, mid, read, _, mid', updated, out⟩ := out
  obtain ⟨rfl, stored, rfl, uploading⟩ := uploadingJob_returns read
  split at out
  · rename_i again
    obtain ⟨-, rfl⟩ := returns_pure.mp out
    simp only [again, if_true] at updated
    obtain ⟨found, after, others⟩ := view_updateJob_id updated stored (fun _ => rfl) (fun j h => beq_iff_eq.mp h) (beq_iff_eq.mpr rfl)
    have before : view mid job.taskID = ⟨(view mid job.taskID).task, (view mid job.taskID).run, some job⟩ := by rw [← found]
    have moved : Only job.taskID DeliveryMove mid db' :=
      .of_eq before after (.defer nextAttempt code message now uploading) others
    exact moved.behaves (.of_update updated (by decide)) fun _ _ h => .delivery h
  · rename_i isOver
    rw [if_neg isOver, if_neg isOver] at updated
    exact (endJob_behaves updated stored (fun _ => rfl) (fun t r => .fail nextAttempt code message now uploading) out).1

theorem completeResultUpload_behaves (jobID leaseToken publicURL : String) (bytesUploaded : Int) (callbackID : String)
    (now : Int) (faults : Faults Err) (n : Nat) (db : Database) :
    Behaves allowed db (completeResultUpload jobID leaseToken publicURL bytesUploaded callbackID now faults n db).db := by
  refine immediate_behaves (fun u db' out => ?_)
  simp only [completeResultUploadBody, returns_bind, returns_exec, returns_oneRow] at out
  obtain ⟨job, db, read, _, mid, updated, _, _, applied, _, mid', ⟨rfl, rfl⟩, out⟩ := out
  obtain ⟨rfl, stored, rfl, uploading⟩ := uploadingJob_returns read
  obtain ⟨found, after, others⟩ := view_updateJob_id updated stored (fun _ => rfl) (fun j h => beq_iff_eq.mp h) (beq_iff_eq.mpr rfl)
  obtain ⟨t, task, hit, last, others'⟩ := view_updateTask applied (fun _ => rfl) fun t h => by
    simp only [Bool.and_eq_true, beq_iff_eq] at h
    exact h.1.1
  simp only [Bool.and_eq_true, beq_iff_eq] at hit
  rw [after] at task last
  have before : view db job.taskID = ⟨some t, (view db job.taskID).run, some job⟩ := by
    rw [← show (view db job.taskID).task = some t from task, ← found]
  have moved : Only job.taskID DeliveryMove db mid' :=
    .of_eq before last (.store publicURL bytesUploaded now uploading hit.1.2) fun id other =>
      (others' id other).trans (others id other)
  exact behaves_chains.trans (moved.behaves (frame_chains.trans (.of_update updated (by decide)) (.of_update applied (by decide)))
    fun _ _ h => .delivery h) (createCallbackDelivery_keeps _ _ _ out)

theorem retryResultUpload_behaves (taskID : String) (now : Int) (faults : Faults Err) (n : Nat) (db : Database) :
    Behaves allowed db (retryResultUpload taskID now faults n db).db := by
  refine immediate_behaves (fun u db' out => ?_)
  simp only [retryResultUploadBody, returns_orElse_fail, returns_bind, returns_exec, returns_oneRow] at out
  obtain ⟨_, _, updated, _, mid, ⟨rfl, rfl⟩, _, _, applied, rfl, rfl⟩ := out
  obtain ⟨j, found, hit, after, others⟩ := view_updateJob updated (fun _ => rfl) fun j _ h => by
    simp only [Bool.and_eq_true, beq_iff_eq] at h
    exact h.1
  obtain ⟨t, task, hit', last, others'⟩ := view_updateTask applied (fun _ => rfl) fun t h => by
    simp only [Bool.and_eq_true, beq_iff_eq] at h
    exact h.1.1.1
  simp only [Bool.and_eq_true, beq_iff_eq] at hit hit'
  rw [after] at task last
  have before : view db taskID = ⟨some t, (view db taskID).run, some j⟩ := by
    rw [← show (view db taskID).task = some t from task, ← found]
  have moved : Only taskID DeliveryMove db db' :=
    .of_eq before last (.retry now hit.2 hit'.1.1.2 hit'.1.2) fun id other => (others' id other).trans (others id other)
  exact moved.behaves (frame_chains.trans (.of_update updated (by decide)) (.of_update applied (by decide)))
    fun _ _ h => .delivery h

end MinimaxProxy.Store
