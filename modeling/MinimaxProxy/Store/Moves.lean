import Mathlib.Logic.Relation
import MinimaxProxy.Store.Cancel
import MinimaxProxy.Store.Delivery
import MinimaxProxy.Store.Official
import MinimaxProxy.Store.View

/-!
# What the operations do to one task

`Move` lists every change that an operation on queued, official and remote tasks can make
to the view of a task, with the guards under which it makes it. The workers of remote nodes
make their own changes: `AcquireMove token` takes the lease, and `LeasedMove r` are those of
the worker whose copy of the remote run is `r`. Invariants of views are proved over the moves
once; that the operations only make moves is shown in the modules after this one.
-/

namespace MinimaxProxy.Store
open Sql Sql.Prog

variable {M : View → View → Prop} {db db' : Database} {k : String} {n : Nat} {w : Dml} {α : Type}

/-- The row a waiting task becomes when it is ranked. -/
def rankedTask (locked : Bool) (now : Int) (t : Task) : Task :=
  { t with status := if locked then .queuedLocked else .queuedOpen, cancelLocked := locked, updatedAt := now
           version := t.version + 1 }

/-- The row of a task that was just created. -/
structure Fresh (t : Task) : Prop where
  status : t.status = .queuedOpen
  slot : t.upstreamSlotActive = false
  stage : t.activeStageID = none

/-- The job a completion or an official result leaves to the upload workers. -/
def newUploadJob (id taskID objectKey : String) (now : Int) : UploadJob :=
  { id := id, taskID := taskID, objectKey := objectKey, status := .pending, createdAt := now, updatedAt := now }

/-! ## The lease holder -/

/-- The run of a completion. -/
def completedRun (c : RemoteCompletion) (now : Int) (s : RemoteRun) : RemoteRun :=
  { s with phase := .terminal, upstreamStatus := some c.status
           cancelState := if c.status = .cancelled then .confirmed
             else if s.cancelState = .requested then .rejected else s.cancelState
           leaseToken := none, leaseExpiresAt := none, nextPollAt := none, lastErrorCode := c.errorCode
           updatedAt := now }

/-- The task may be written for its run: it holds its slot on the node of the run. -/
def Occupies (nodeID : String) (t : Task) : Prop :=
  t.upstreamID = some nodeID ∧ t.upstreamSlotActive = true ∧ t.status.isTaken = true

/-- The row of a task whose job id is stored. -/
def boundTask (id : String) (now : Int) (t : Task) : Task :=
  { t with upstreamJobID := some id, status := if t.status = .cancelling then t.status else .running, updatedAt := now
           version := t.version + 1 }

/-- The row of a task whose cancel request the node refused. -/
def resumedTask (now : Int) (t : Task) : Task :=
  if t.status = .cancelling then { t with status := .running, updatedAt := now, version := t.version + 1 } else t

/-- The row of a run whose lease is given back. -/
def releasedRun (next : Int) (code : String) (reconcile : Bool) (now : Int) (s : RemoteRun) : RemoteRun :=
  { s with leaseToken := none, leaseExpiresAt := none, nextPollAt := some next, lastErrorCode := code
           reconciliationRequired := reconcile, updatedAt := now }

/-- The row of a run whose request is stored. -/
def preparedRun (body : String) (now : Int) (s : RemoteRun) : RemoteRun :=
  { s with phase := .prepared, requestBodyJSON := some body, requestBodyHash := some body, updatedAt := now }

/-- The row of a run whose submission begins. -/
def begunRun (now : Int) (s : RemoteRun) : RemoteRun :=
  { s with phase := .submitIntent, submitAttempts := s.submitAttempts + 1, updatedAt := now }

/-- The row of a run whose job id is stored. -/
def boundRun (id : String) (now : Int) (s : RemoteRun) : RemoteRun :=
  { s with phase := .submitted, upstreamTaskID := some id, upstreamStatus := some .queued, lastErrorCode := "", updatedAt := now }

/-- The row of a run whose cancel request the node refused. -/
def refusedRun (status : RemoteStatus) (now : Int) (s : RemoteRun) : RemoteRun :=
  { s with upstreamStatus := some status, cancelState := .rejected, updatedAt := now }

@[simp] theorem preparedRun_phase (body : String) (now : Int) (s : RemoteRun) : (preparedRun body now s).phase = .prepared := rfl
@[simp] theorem begunRun_phase (now : Int) (s : RemoteRun) : (begunRun now s).phase = .submitIntent := rfl
@[simp] theorem boundRun_phase (id : String) (now : Int) (s : RemoteRun) : (boundRun id now s).phase = .submitted := rfl

/-- What a lease holder asks for. -/
inductive LeaseAct
  | renew | release | prepare | begin | bind (id : String) | observe | complete (c : RemoteCompletion)

/-- The changes of the lease holder with the copy `r`. -/
inductive LeasedMove (r : RemoteRun) (now : Int) : LeaseAct → View → View → Prop
  | renew {t s j} (ttl : Int) : holds r now s = true → s.phase ≠ .terminal →
      LeasedMove r now .renew ⟨t, some s, j⟩ ⟨t, some { s with leaseExpiresAt := some (now + ttl), updatedAt := now }, j⟩
  | release {t s j} (next : Int) (code : String) (reconcile : Bool) : holds r now s = true → s.phase ≠ .terminal →
      LeasedMove r now .release ⟨t, some s, j⟩ ⟨t, some (releasedRun next code reconcile now s), j⟩
  | prepare {t s j} (body : String) : holds r now s = true → s.phase = .preparing → s.cancelState = .none →
      LeasedMove r now .prepare ⟨t, some s, j⟩ ⟨t, some (preparedRun body now s), j⟩
  | begin {t s j} : holds r now s = true → s.reconciliationRequired = false →
      (s.phase = .submitIntent ∨ s.phase = .prepared ∧ s.cancelState = .none) →
      LeasedMove r now .begin ⟨t, some s, j⟩ ⟨t, some (begunRun now s), j⟩
  | bind {t s j} (id : String) : holds r now s = true → s.phase = .submitIntent → id ≠ "" → Occupies r.nodeID t →
      LeasedMove r now (.bind id) ⟨some t, some s, j⟩ ⟨some (boundTask id now t), some (boundRun id now s), j⟩
  | observe {t s j} (status : RemoteStatus) : holds r now s = true → s.phase = .submitted →
      LeasedMove r now .observe ⟨t, some s, j⟩ ⟨t, some { s with upstreamStatus := some status, updatedAt := now }, j⟩
  | refuse {t s j} (status : RemoteStatus) : holds r now s = true → s.phase = .submitted →
      LeasedMove r now .observe ⟨t, some s, j⟩ ⟨t.map (resumedTask now), some (refusedRun status now s), j⟩
  | complete {t s j} (c : RemoteCompletion) : holds r now s = true → s.phase ≠ .terminal → c.delivers = false →
      c.status ≠ .queued → c.status ≠ .running → Occupies r.nodeID t →
      LeasedMove r now (.complete c) ⟨some t, some s, j⟩ ⟨some (remoteCompletedTask c now t), some (completedRun c now s), j⟩
  | deliver {t s} (c : RemoteCompletion) (id objectKey : String) (ms : Int) : holds r now s = true → s.phase ≠ .terminal →
      c.delivers = true → c.resultURL ≠ "" → Occupies r.nodeID t →
      LeasedMove r now (.complete c) ⟨some t, some s, none⟩
        ⟨some (remoteCompletedTask c now t), some (completedRun c now s), some (newUploadJob id t.taskID objectKey ms)⟩

/-- The change of a worker that takes the lease under `token`. -/
inductive AcquireMove (token : String) (now : Int) : View → View → Prop
  | acquire {t s j} (ttl : Int) : s.phase ≠ .terminal → s.reconciliationRequired = false → s.leaseExpiresAt.getD 0 ≤ now →
      AcquireMove token now ⟨t, some s, j⟩
        ⟨t, some { s with leaseToken := some token, leaseExpiresAt := some (now + ttl), updatedAt := now }, j⟩

/-! ## The upload workers -/

/-- The row of a job after a failed attempt. -/
def failedAttempt (again : Bool) (nextAttempt : Int) (code message : String) (now : Int) (j : UploadJob) : UploadJob :=
  { j with status := if again then .retryWait else .failed, nextAttemptAt := if again then some nextAttempt else none
           leaseToken := none, leaseExpiresAt := none, lastErrorCode := code, lastErrorMessage := message
           updatedAt := now, version := j.version + 1 }

/-- The row of a job whose file is stored. -/
def deliveredJob (publicURL : String) (bytesUploaded now : Int) (j : UploadJob) : UploadJob :=
  { j with status := .succeeded, publicURL := publicURL, bytesUploaded := bytesUploaded, leaseToken := none
           leaseExpiresAt := none, finishedAt := some now, updatedAt := now, version := j.version + 1 }

/-- A job that a worker still has to bring to an end. -/
def UploadJob.isOpen (j : UploadJob) : Bool := j.status == .pending || j.status == .uploading || j.status == .retryWait

/-- The task of a job that failed for good; any other task stays. -/
def undelivered (message : String) (now : Int) (t : Task) : Task :=
  if t.status = .reconciling then undeliveredTask message now t else t

inductive DeliveryMove : View → View → Prop
  | upload {t r j} (token : String) (lease now : Int) : UploadJob.isOpen j = true → j.attemptNo < j.maxAttempts →
      DeliveryMove ⟨t, r, some j⟩ ⟨t, r, some (claimedJob token lease now j)⟩
  | exhaust {t r j} (message : String) (now : Int) : UploadJob.isOpen j = true →
      DeliveryMove ⟨t, r, some j⟩ ⟨t.map (undelivered message now), r, some (exhaustedJob message now j)⟩
  | defer {t r j} (next : Int) (code message : String) (now : Int) : j.status = .uploading →
      DeliveryMove ⟨t, r, some j⟩ ⟨t, r, some (failedAttempt true next code message now j)⟩
  | fail {t r j} (next : Int) (code message : String) (now : Int) : j.status = .uploading →
      DeliveryMove ⟨t, r, some j⟩
        ⟨t.map (undelivered message now), r, some (failedAttempt false next code message now j)⟩
  | store {t r j} (publicURL : String) (bytes now : Int) : j.status = .uploading → t.status = .reconciling →
      DeliveryMove ⟨some t, r, some j⟩ ⟨some (deliveredTask publicURL now t), r, some (deliveredJob publicURL bytes now j)⟩
  | retry {t r j} (now : Int) : j.status = .failed → t.status = .failed → t.errorCode = some "result_upload_failed" →
      DeliveryMove ⟨some t, r, some j⟩ ⟨some (retriedTask now t), r, some (retriedJob now j)⟩

/-! ## Everyone else -/

/-- The task holds a slot of an official node. -/
def OfficialSlot (t : Task) : Prop := t.protocolVersion = some .official ∧ t.upstreamSlotActive = true

/-- The row of a task whose baseline is stored. -/
def officialSavedTask (ids : List String) (now : Int) (t : Task) : Task :=
  { t with upstreamJobsBeforeJSON := .value ids, officialSubmissionBaselineSaved := true, updatedAt := now
           version := t.version + 1 }

/-- The row of a task whose official id is stored. -/
def officialBoundTask (id : String) (now : Int) (t : Task) : Task :=
  { t with upstreamJobID := some id, status := .running, updatedAt := now, version := t.version + 1 }

/-- The row of a task that failed on an official node. -/
def officialFailedTask (code message : String) (feedback : Option UpstreamFeedback) (now : Int) (t : Task) : Task :=
  { t with status := .failed, errorCode := some code, errorMessage := some message
           upstreamFeedbackJSON := feedback.map .value, upstreamSlotActive := false, finishedAt := some now
           updatedAt := now, version := t.version + 1 }

/-- The node that has the task is an official one. -/
def heldByOfficial (nodes : List Node) (t : Task) : Bool :=
  nodes.any fun n => t.upstreamID == some n.id && n.protocolVersion == .official

/-- `allowed` says which tasks an administrator's cancel may mark as cancelling. -/
inductive Move (nodes : List Node) (allowed : Task → Prop) : View → View → Prop
  -- The queue.
  | create {r j} (t : Task) : Fresh t → Move nodes allowed ⟨none, r, j⟩ ⟨some t, r, j⟩
  | rank {t r j} (locked : Bool) (now : Int) : t.status.isQueued = true →
    Move nodes allowed ⟨some t, r, j⟩ ⟨some (rankedTask locked now t), r, j⟩
  | cancelQueued {t r j} (now : Int) : t.status.isQueued = true →
      Move nodes allowed ⟨some t, r, j⟩ ⟨some (ownerCancelledTask now t), r, j⟩
  | delete {t r j} (now : Int) (state : DeletionState) :
      Move nodes allowed ⟨some t, r, j⟩
        ⟨some { t with deletedAt := some now, deletionState := state, updatedAt := now, version := t.version + 1 }, r, j⟩
  -- Administrator cancel of a task without a remote slot.
  | adminCancelQueued {t r j} (now : Int) : t.status.isQueued = true →
      Move nodes allowed ⟨some t, r, j⟩ ⟨some (adminCancelledTask now t), r, j⟩
  | cancelStages {t r j} (now : Int) : present t.activeStageID = true ∨ present t.upstreamID = false →
      t.status.isTaken = true →
      Move nodes allowed ⟨some t, r, j⟩ ⟨some (cancelledStageTask now t), r, j⟩
  | adminCancel {t r j} (now : Int) : allowed t → t.status.isActive = true → present t.upstreamID = true →
      heldByOfficial nodes t = false → Move nodes allowed ⟨some t, r, j⟩ ⟨some (adminCancellingTask now t), r, j⟩
  -- Official tasks.
  | claimOfficial {t r j} (node : Node) (now : Int) : node ∈ nodes → node.protocolVersion = .official →
      t.protocolVersion = some .official → t.status.isQueued = true →
      Move nodes allowed ⟨some t, r, j⟩ ⟨some (officialClaimedTask node now t), r, j⟩
  | saveBaseline {t r j} (ids : List String) (now : Int) : OfficialSlot t → t.status = .dispatching →
      Move nodes allowed ⟨some t, r, j⟩ ⟨some (officialSavedTask ids now t), r, j⟩
  | bindOfficial {t r j} (id : String) (now : Int) : OfficialSlot t → t.status = .dispatching →
      Move nodes allowed ⟨some t, r, j⟩ ⟨some (officialBoundTask id now t), r, j⟩
  | generate {t r j} (originURL ratio : String) (now : Int) : OfficialSlot t → t.status = .dispatching ∨ t.status = .running →
      Move nodes allowed ⟨some t, r, j⟩ ⟨some (officialGeneratedTask originURL ratio false now t), r, j⟩
  | deliver {t r} (originURL ratio id objectKey : String) (now ms : Int) : OfficialSlot t →
      t.status = .dispatching ∨ t.status = .running →
      Move nodes allowed ⟨some t, r, none⟩
        ⟨some (officialGeneratedTask originURL ratio true now t), r, some (newUploadJob id t.taskID objectKey ms)⟩
  | failOfficial {t r j} (code message : String) (feedback : Option UpstreamFeedback) (now : Int) : OfficialSlot t →
      t.status = .dispatching ∨ t.status = .running →
      Move nodes allowed ⟨some t, r, j⟩ ⟨some (officialFailedTask code message feedback now t), r, j⟩
  -- Remote tasks.
  | claimRemote {t j} (node : Node) (key : String) (now : Int) : node ∈ nodes → node.protocolVersion = .tk2sd →
      t.protocolVersion = some .tk2sd → t.status.isQueued = true →
      Move nodes allowed ⟨some t, none, j⟩
        ⟨some (remoteClaimedTask node now t),
          some { taskID := t.taskID, nodeID := node.id, phase := .preparing, submissionKey := key, createdAt := now
                 updatedAt := now }, j⟩
  | requestCancel {t s j} (now : Int) : s.phase ≠ .terminal → s.upstreamStatus ≠ some .running → s.cancelState ≠ .rejected →
      t.upstreamSlotActive = true → t.status.isTaken = true →
      Move nodes allowed ⟨some t, some s, j⟩
        ⟨some (cancellingTask now t), some { s with cancelState := .requested, nextPollAt := none, updatedAt := now }, j⟩
  | updateResult {t r j} (u : Task) (same : u = { t with latestResultURL := u.latestResultURL
                                                         latestResultExpiresAt := u.latestResultExpiresAt
                                                         resultMetadataJSON := u.resultMetadataJSON
                                                         metadataStatus := u.metadataStatus, updatedAt := u.updatedAt
                                                         version := u.version }) :
      Move nodes allowed ⟨some t, r, j⟩ ⟨some u, r, j⟩
  -- Upload workers.
  | delivery {v v'} : DeliveryMove v v' → Move nodes allowed v v'

/-- At most the view of `k` changes, and by `M`. -/
def Only (k : String) (M : View → View → Prop) (db db' : Database) : Prop :=
  ∀ id, view db' id = view db id ∨ (id = k ∧ M (view db id) (view db' id))

variable {allowed : Task → Prop}

/-- Every view changes by moves. -/
def Acts (allowed : Task → Prop) (db db' : Database) : Prop :=
  ∀ id, Relation.ReflTransGen (Move db.nodes allowed) (view db id) (view db' id)

theorem Only.refl (k : String) (M : View → View → Prop) (db : Database) : Only k M db db := fun _ => .inl rfl

theorem Only.mono {M' : View → View → Prop} (h : Only k M db db') (le : ∀ v v', M v v' → M' v v') :
    Only k M' db db' := fun id => (h id).imp_right fun ⟨same, moved⟩ => ⟨same, le _ _ moved⟩

theorem Only.of_eq {v v' : View} (before : view db k = v)
    (after : view db' k = v') (moved : M v v') (others : ∀ id, id ≠ k → view db' id = view db id) : Only k M db db' := by
  intro id
  by_cases same : id = k
  · subst same
    exact .inr ⟨rfl, before ▸ after ▸ moved⟩
  · exact .inl (others id same)

/-- An UPDATE that selects by `task_id`, whether or not it hits. -/
theorem Only.of_updateTasks {sel : Database → Task → Bool} {set : Database → Task → Task}
    (h : (Dml.update Tbl.videoTasks sel set : Dml).apply db = .ok (n, db'))
    (keeps : ∀ t, (set db t).taskID = t.taskID) (only : ∀ t, sel db t = true → t.taskID = k)
    (moves : ∀ t r j, sel db t = true → M ⟨some t, r, j⟩ ⟨some (set db t), r, j⟩) : Only k M db db' := by
  intro id
  have after : view db' id = _ := view_updateTasks h keeps
  cases found : (view db id).task with
  | none =>
    rw [found, Option.map_none, ← found] at after
    exact .inl after
  | some t =>
    rw [found, Option.map_some] at after
    by_cases hit : sel db t = true
    · rw [if_pos hit] at after
      have before : view db id = ⟨some t, (view db id).run, (view db id).job⟩ := View.eq_mk found rfl
      exact .inr ⟨(view_taskID found).symm.trans (only t hit), after ▸ before ▸ moves _ _ _ hit⟩
    · rw [if_neg hit, ← found] at after
      exact .inl after

theorem Only.of_updateRuns {sel : Database → RemoteRun → Bool}
    {set : Database → RemoteRun → RemoteRun}
    (h : (Dml.update Tbl.taskRemoteRuns sel set : Dml).apply db = .ok (n, db')) (keeps : ∀ s, (set db s).taskID = s.taskID)
    (only : ∀ s, sel db s = true → s.taskID = k)
    (moves : ∀ t s j, sel db s = true → M ⟨t, some s, j⟩ ⟨t, some (set db s), j⟩) : Only k M db db' := by
  intro id
  have after : view db' id = _ := view_updateRuns h keeps
  cases found : (view db id).run with
  | none =>
    rw [found, Option.map_none, ← found] at after
    exact .inl after
  | some s =>
    rw [found, Option.map_some] at after
    by_cases hit : sel db s = true
    · rw [if_pos hit] at after
      have before : view db id = ⟨(view db id).task, some s, (view db id).job⟩ := View.eq_mk rfl found
      exact .inr ⟨(view_runID found).symm.trans (only s hit), after ▸ before ▸ moves _ _ _ hit⟩
    · rw [if_neg hit, ← found] at after
      exact .inl after

/-- One statement outside a transaction. -/
theorem direct_only
    (h : ∀ c db', w.apply db = .ok (c, db') → Only k M db db') {faults : Faults Err} :
    Only k M db (direct (do let c ← exec w; oneRow c) faults n db).db := by
  rcases direct_effect writes_oneRow faults with same | ⟨c, applied⟩
  · intro id
    exact .inl (congrArg (view · id) same)
  · exact h c _ applied

/-- A transaction changes at most the view `k` when its program does. -/
theorem immediate_only {p : Prog α} (h : ∀ a db', p.Returns db a db' → Only k M db db') {faults : Faults Err} :
    Only k M db (immediate p faults n db).db := by
  rcases immediate_effect p faults with same | ⟨a, out⟩
  · rw [same]
    exact .refl _ _ _
  · exact h a _ out

theorem Only.acts (h : Only k M db db') (le : ∀ v v', M v v' → Move db.nodes allowed v v') : Acts allowed db db' := by
  intro id
  rcases h id with same | ⟨-, moved⟩
  · rw [same]
  · exact .single (le _ _ moved)

/-! ## Around the views -/

/-- The statement leaves the nodes alone and records no attempt. -/
def Framed (w : Dml) : Prop :=
  w.table ≠ .modelServiceNodes ∧ (w.table = .stageAttempts → ∃ sel set, w = .update Tbl.stageAttempts sel set)

/-- The nodes stay, and no first attempt is recorded. -/
structure Frame (db db' : Database) : Prop where
  nodes : db'.nodes = db.nodes
  attempts : db.attempts = [] → db'.attempts = []

theorem Framed.frame (h : Framed w) (applied : w.apply db = .ok (n, db')) :
    Frame db db' := by
  constructor
  · refine apply_rows_of_ne applied h.1.symm fun r _ k mem => ?_
    cases mem
  · intro none
    by_cases table : w.table = .stageAttempts
    · obtain ⟨sel, set, rfl⟩ := h.2 table
      obtain ⟨tab, rfl, rows, -⟩ := apply_update applied
      rw [Database.attempts, DB.rows_put_self, rows]
      exact congrArg (updateRows (sel db) (set db)) none
    · have same : db'.rows Tbl.stageAttempts = db.rows Tbl.stageAttempts := by
        refine apply_rows_of_ne applied (Ne.symm table) fun r mem => ?_
        have empty : r ∈ db.attempts := mem
        rw [none] at empty
        cases empty
      exact same.trans none

/-- A statement about another table than the nodes and the attempts. -/
@[simp] theorem Framed.of_table (table : ¬ w.table = .modelServiceNodes ∧ ¬ w.table = .stageAttempts) : Framed w :=
  ⟨table.1, fun h => absurd h table.2⟩

theorem Frame.of_update {t : Tbl} {sel : Database → t.Row → Bool} {set : Database → t.Row → t.Row}
    (applied : (Dml.update t sel set : Dml).apply db = .ok (n, db'))
    (table : t ≠ .modelServiceNodes ∧ t ≠ .stageAttempts) : Frame db db' :=
  Framed.frame (w := .update t sel set) (.of_table table) applied

theorem Frame.of_insert {t : Tbl} {new : Database → Nat → List t.Row}
    (applied : (Dml.insert t new : Dml).apply db = .ok (n, db')) (table : t ≠ .modelServiceNodes ∧ t ≠ .stageAttempts) :
    Frame db db' := Framed.frame (w := .insert t new) (.of_table table) applied

theorem frame_chains : Chains Frame where
  refl _ := ⟨rfl, id⟩
  trans first last := ⟨last.nodes.trans first.nodes, fun none => last.attempts (first.attempts none)⟩

theorem frame_of_writes {p : Prog α} (h : p.Writes Framed) {x : Except Err α} (out : p.Yields db x db') : Frame db db' :=
  h.yields frame_chains.refl (fun _ _ _ => frame_chains.trans) (fun _ framed _ _ _ => framed.frame) out

/-- What every operation here does to the database. -/
structure Behaves (allowed : Task → Prop) (db db' : Database) : Prop extends Frame db db' where
  acts : Acts allowed db db'

theorem behaves_chains : Chains (Behaves allowed) where
  refl d := ⟨frame_chains.refl d, fun _ => .refl⟩
  trans first last := ⟨frame_chains.trans first.toFrame last.toFrame,
    fun id => (first.acts id).trans (first.nodes ▸ last.acts id)⟩

theorem Only.behaves (h : Only k M db db') (frame : Frame db db')
    (le : ∀ v v', M v v' → Move db.nodes allowed v v') : Behaves allowed db db' := ⟨frame, h.acts le⟩

/-- An UPDATE of tasks that makes a move on every row it selects. -/
theorem updateTasks_behaves {sel : Database → Task → Bool} {set : Database → Task → Task}
    (h : (Dml.update Tbl.videoTasks sel set : Dml).apply db = .ok (n, db')) (keeps : ∀ t, (set db t).taskID = t.taskID)
    (moves : ∀ t ∈ db.tasks, ∀ r j, sel db t = true → Move db.nodes allowed ⟨some t, r, j⟩ ⟨some (set db t), r, j⟩) :
    Behaves allowed db db' := by
  refine ⟨.of_update h (by decide), fun id => ?_⟩
  have after : view db' id = _ := view_updateTasks h keeps
  cases found : (view db id).task with
  | none => rw [after, found, Option.map_none, ← found]
  | some t =>
    rw [found, Option.map_some] at after
    have before : view db id = ⟨some t, (view db id).run, (view db id).job⟩ := View.eq_mk found rfl
    by_cases hit : sel db t = true
    · rw [after, if_pos hit]
      exact .single (before ▸ moves t (view_task_mem found) _ _ hit)
    · rw [after, if_neg hit, ← found]

theorem immediate_behaves {p : Prog α} (h : ∀ a db', p.Returns db a db' → Behaves allowed db db')
    {faults : Faults Err} : Behaves allowed db (immediate p faults n db).db := by
  rcases immediate_effect p faults with same | ⟨a, out⟩
  · rw [same]
    exact behaves_chains.refl db
  · exact h a _ out

/-! ## Frames of calls -/

/-- Whatever fails, the call keeps the frame. -/
def Framing {α : Type} (c : Call α) : Prop := ∀ faults n db, Frame db (c faults n db).db

theorem framing_direct {p : Prog α} (h : p.Writes Framed) : Framing (direct p) := fun faults n db =>
  frame_of_writes h (p.run_yields faults n db)

theorem framing_immediate {p : Prog α} (h : p.Writes Framed) : Framing (immediate p) := by
  intro faults n db
  rcases immediate_effect p faults with same | ⟨a, out⟩
  · rw [same]
    exact frame_chains.refl db
  · exact frame_of_writes h out

theorem framing_ite {c d : Call α} {P : Prop} [Decidable P] (hc : Framing c) (hd : Framing d) :
    Framing (if P then c else d) := by
  split
  · exact hc
  · exact hd

end MinimaxProxy.Store
