import MinimaxProxy.Schema.Database

/-!
# Shared parts of the store operations

Helpers of `internal/store/sqlite` that several operations use: reading a task,
`oneRow`, `rebalance`, the callback a terminal transition queues, and the end of a
cancelled stage task. An operation takes the clock reading `now` in milliseconds;
`unix now` is what `nowUnix` gives. Ids drawn at random in the source are arguments.
-/

namespace MinimaxProxy.Store
open Sql Sql.Prog

/-- `sqlite.Options`; durations in seconds. -/
structure Options where
  protectedSlots : Int
  perKeyLimit : Int
  globalLimit : Int
  retention : Int
  idempotencyTTL : Int

/-- `nowUnix`: the clock reading in seconds. -/
def unix (now : Int) : Int := now / 1000

/-- `NULLIF(?,'')`. -/
def nullEmpty (s : String) : Option String := if s = "" then none else some s

/-- `NULLIF(?,0)`. -/
def nullZero (n : Int) : Option Int := if n = 0 then none else some n

/-- `oneRow` (store.go:835). -/
def oneRow (n : Nat) : Prog Unit := if n = 1 then pure () else .fail .stateConflict

/-- A guard that returns an error. -/
def require (c : Bool) (e : Err) : Prog Unit := if c then pure () else .fail e

@[simp] theorem writes_require {P : Dml → Prop} {c : Bool} {e : Err} : (require c e).Writes P := by
  unfold require
  split <;> simp

@[simp] theorem returns_oneRow {n : Nat} {db db' : Database} {u : Unit} : (oneRow n).Returns db u db' ↔ n = 1 ∧ db' = db := by
  unfold oneRow
  split <;> simp [*]

@[simp] theorem returns_require {c : Bool} {e : Err} {db db' : Database} {u : Unit} :
    (require c e).Returns db u db' ↔ c = true ∧ db' = db := by
  unfold require
  split <;> simp [*]

@[simp] theorem writes_oneRow {P : Dml → Prop} (n : Nat) : (oneRow n).Writes P := by
  unfold oneRow
  split
  · exact writes_pure
  · exact writes_fail

section
variable {P : Dml → Prop} {α : Type} {f : Unit → Prog α}

@[simp] theorem writes_require_bind {c : Bool} {e : Err} : (require c e >>= f).Writes P ↔ (c = true → (f ()).Writes P) := by
  simp [require]

@[simp] theorem writes_oneRow_bind {n : Nat} : (oneRow n >>= f).Writes P ↔ (n = 1 → (f ()).Writes P) := by
  simp [oneRow]

end

/-- `scanTask` (store.go:903): the feedback column must decode. -/
def scanTask (t : Task) : Except Err Task :=
  match t.upstreamFeedbackJSON with
  | some .unreadable => .error .decode
  | _ => .ok t

/-- The task with this id. -/
def findTask (db : Database) (taskID : String) : Option Task := db.tasks.find? (·.taskID == taskID)

/-- `getWith` (store.go:894). -/
def getWith (owner taskID : String) (now : Int) (db : Database) : Except Err Task :=
  match db.tasks.find? fun t => t.taskID == taskID && t.apiKeyID == owner && t.deletedAt.isNone && t.expiresAt > now with
  | none => .error .taskNotFound
  | some t => scanTask t

/-- Undeleted, ready and queued: the rows `rebalance` ranks and claims look at. -/
def Waiting (t : Task) : Bool := t.deletedAt.isNone && t.routeState == .ready && t.status.isQueued

/-- Is `t` among the first `slots` waiting tasks? -/
def ranked (slots : Int) (db : Database) (t : Task) : Bool :=
  (db.tasks.filter Waiting).take slots.toNat |>.any (·.queueSeq == t.queueSeq)

/-- `rebalance` (store.go:849): the first `protectedSlots` waiting tasks are locked. -/
def rebalance (o : Options) (now : Int) : Prog Unit := do
  let _ ← exec (.update Tbl.videoTasks (fun _ (t : Task) => t.deletedAt.isNone && t.status.isQueued)
    fun db (t : Task) =>
      { t with
        status := if ranked o.protectedSlots db t then .queuedLocked else .queuedOpen
        cancelLocked := ranked o.protectedSlots db t
        updatedAt := now
        version := t.version + 1 })

/-- `createCallbackDeliveryWithConn` (callback_store.go:81). The body is
`{"task_id":…,"status":…}`; `id` is the new UUID and `now` is in milliseconds. -/
def createCallbackDelivery (id taskID status : String) (now : Int) : Prog Unit := do
  let t ← query fun db => (findTask db taskID).elim (.error .noRows) .ok
  if t.callbackURLCiphertext.isNone then pure ()
  else do
    let body := "\x7b\"task_id\":\"" ++ taskID ++ "\",\"status\":\"" ++ status ++ "\"\x7d"
    let _ ← exec (.insert Tbl.callbackDeliveries fun (db : Database) _ =>
      if db.callbacks.any fun d => d.taskID == taskID && d.stateVersion == t.version then []
      else [{ id := id, taskID := taskID, externalStatus := status, stateVersion := t.version, status := .pending,
              requestBodyHash := body, requestBody := body, createdAt := now, updatedAt := now }])

/-- The open attempt of a task that a cancellation has to stop: the last stage first,
then the last attempt. -/
def lastOpenAttempt (db : Database) (taskID : String) : Option (Stage × Attempt) :=
  let rows := (db.stages.filter (·.taskID == taskID)).flatMap fun s =>
    (db.attempts.filter fun a => a.stageID == s.id && a.status.isOpen).map fun a => (s, a)
  first (fun x y => x.1.stageOrder > y.1.stageOrder
    || (x.1.stageOrder == y.1.stageOrder && x.2.attemptNo > y.2.attemptNo)) rows

/-- `createNodeDispatchBarrierForTask` (dispatch_barrier.go:64). -/
def createNodeDispatchBarrierForTask (taskID : String) (now : Int) : Prog Bool := do
  match ← select (lastOpenAttempt · taskID) with
  | none => pure false
  | some (s, a) =>
    let _ ← exec (.insert Tbl.nodeDispatchBarriers fun _ _ =>
      [{ nodeID := a.nodeID, taskID := s.taskID, stageID := s.id, attemptID := a.id, operationID := a.operationID,
         executionID := a.executionID.bind nullEmpty, cancelOperationID := "stage-cancel-" ++ a.id, createdAt := now, updatedAt := now }])
    pure true

/-- Is `id` a stage of the task? -/
def stageOf (db : Database) (taskID id : String) : Bool := db.stages.any fun s => s.taskID == taskID && s.id == id

/-- The row a cancelled stage task becomes. -/
def cancelledStageTask (now : Int) (t : Task) : Task :=
  { t with
    status := .cancelled, cancelLocked := false, cancelRequestedAt := t.cancelRequestedAt <|> some now
    upstreamID := none, activeStageID := none, finishedAt := some now, updatedAt := now, version := t.version + 1 }

/-- `finishStageTaskCancellation` (store.go:630); `now` is in seconds. -/
def finishStageTaskCancellation (callbackID taskID : String) (now : Int) : Prog Unit := do
  let _ ← exec (.update Tbl.stageAttempts (fun db (a : Attempt) => stageOf db taskID a.stageID && a.status.isOpen)
    fun _ (a : Attempt) =>
      { a with status := .failed, errorCode := some "task_cancelled", errorMessage := some "任务已取消"
               heartbeatAt := some (now * 1000), finishedAt := some (now * 1000) })
  let _ ← exec (.update Tbl.taskStages (fun _ (s : Stage) => s.taskID == taskID && !s.status.isDone)
    fun _ (s : Stage) =>
      { s with status := .cancelled, leaseToken := none, leaseExpiresAt := none, nextAttemptAt := none
               updatedAt := now * 1000, finishedAt := s.finishedAt <|> some (now * 1000)
               rowVersion := s.rowVersion + 1 })
  let n ← exec (.update Tbl.videoTasks (fun _ (t : Task) => t.taskID == taskID && t.status.isUnfinished)
    fun _ t => cancelledStageTask now t)
  oneRow n
  createCallbackDelivery callbackID taskID "cancelled" (now * 1000)

end MinimaxProxy.Store
