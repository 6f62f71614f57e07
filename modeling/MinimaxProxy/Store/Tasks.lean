import MinimaxProxy.Store.Routing

/-!
# The shared queue

`Create` and `ClaimNext` of `store.go`: a task enters the shared queue and leaves it for
a node. Bodies take `now` in seconds.
-/

namespace MinimaxProxy.Store
open Sql Sql.Prog

/-! ## Creation -/

/-- `validateInputSpoolFile` (input_spool_store.go:106); `validURL` is the check of the
parsed object URL. -/
def validateInputSpoolFile (validURL : String → Bool) (f : SpoolFile) : Except Err Unit :=
  if f.id = "" ∨ f.taskID = "" ∨ f.role = "" ∨ f.mediaType = "" ∨ f.extension = "" ∨ f.relativePath = ""
      ∨ f.sizeBytes ≤ 0 ∨ f.sha256.length ≠ 64 then .error (.other "输入临时文件元数据无效")
  else if !f.sha256.toList.all fun c => c.isDigit || ('a' ≤ c && c ≤ 'f') || ('A' ≤ c && c ≤ 'F') then
    .error (.other "输入临时文件 SHA-256 无效")
  else if ¬ (f.contentType = "image_url" ∨ f.contentType = "video_url" ∨ f.contentType = "audio_url") then
    .error (.other "输入临时文件内容类型无效")
  else if f.sourceKind ≠ "data_uri" then .error (.other "输入临时文件来源类型无效")
  else if f.objectURL.any fun u => !validURL u then .error (.other "对象存储输入 URL 无效")
  else .ok ()

/-- An unexpired idempotency record whose task is undeleted. -/
def idempotent (owner keyHash : String) (now : Int) (db : Database) : Option IdempotencyKey :=
  (db.rows Tbl.idempotencyKeys).find? fun (k : IdempotencyKey) => k.apiKeyID == owner && k.keyHash == keyHash
    && k.expiresAt > now && db.tasks.any fun t => t.taskID == k.taskID && t.deletedAt.isNone

/-- The row `Create` inserts. -/
def newTask (input : NewTask) (now expires : Int) (queueSeq : Nat) : Task :=
  { queueSeq := queueSeq, taskID := input.taskID, apiKeyID := input.apiKeyID, model := input.model
    scenario := input.scenario, requestJSON := input.requestJSON, requestHash := input.requestHash
    status := .queuedOpen, resolution := input.resolution, duration := input.duration, ratioRequested := input.ratio
    usageInputImageCount := input.inputImageCount, callbackURLCiphertext := input.callbackURLCiphertext
    callbackURLNonce := input.callbackURLNonce, profileID := nullEmpty input.profileID
    profileVersion := nullZero input.profileVersion, configSnapshotJSON := nullEmpty input.configSnapshotJSON
    configHash := nullEmpty input.configHash, createdAt := now, updatedAt := now, expiresAt := expires }

def insertStage (taskID : String) (now : Int) (s : Stage) : Prog Unit := do
  require (!(s.id == "" || s.configSnapshotJSON == "" || s.maxAttempts < 1)) (.other "任务阶段快照无效")
  let _ ← exec (.insert Tbl.taskStages fun _ _ =>
    [{ id := s.id, taskID := taskID, stageOrder := s.stageOrder, stageType := s.stageType, maxAttempts := s.maxAttempts
       configSnapshotJSON := s.configSnapshotJSON, createdAt := now * 1000, updatedAt := now * 1000 }])

def insertSpoolFile (validURL : String → Bool) (taskID : String) (now : Int) (f : SpoolFile) : Prog Unit := do
  let f := { f with taskID := if f.taskID = "" then taskID else f.taskID
                    sourceKind := if f.sourceKind = "" then "data_uri" else f.sourceKind
                    createdAt := now * 1000, updatedAt := now * 1000 }
  match validateInputSpoolFile validURL f with
  | .error e => .fail e
  | .ok () => do
    let _ ← exec (.insert Tbl.taskInputSpoolFiles fun _ _ => [f])

/-- The part of `Create` that writes the new task (store.go:197). -/
def insertTask (o : Options) (validURL : String → Bool) (input : NewTask) (keyHash : String) (now : Int) : Prog Task := do
  let input ← prepareTaskRouting input now
  let _ ← exec (.insert Tbl.videoTasks fun _ seq => [newTask input now (now + o.retention) seq])
  let _ ← exec (.update Tbl.videoTasks (fun _ (t : Task) => t.taskID == input.taskID) fun _ (t : Task) =>
    { t with protocolVersion := input.protocolVersion, routeState := .ready
             routingSnapshotJSON := input.routingSnapshotJSON, requestNormalizer := input.requestNormalizer })
  if input.callbackURLCiphertext.isSome then do
    require (!(input.callbackDeliveryID == "" || input.callbackRequestBody == "" || input.callbackRequestBodyHash == ""))
      (.other "callback 投递快照不完整")
    let _ ← exec (.insert Tbl.callbackDeliveries fun _ _ =>
      [{ id := input.callbackDeliveryID, taskID := input.taskID, externalStatus := "queued", stateVersion := 1
         requestBodyHash := input.callbackRequestBodyHash, requestBody := input.callbackRequestBody
         createdAt := now * 1000, updatedAt := now * 1000 }])
  forEach (insertStage input.taskID now) input.stages
  forEach (insertSpoolFile validURL input.taskID now) input.inputSpoolFiles
  if keyHash ≠ "" then do
    let _ ← exec (.insert Tbl.idempotencyKeys fun _ id =>
      [{ id := id, apiKeyID := input.apiKeyID, keyHash := keyHash, requestHash := input.requestHash
         taskID := input.taskID, createdAt := now, expiresAt := now + o.idempotencyTTL }])
  rebalance o now
  query (getWith input.apiKeyID input.taskID now)

/-- The limits that `Create` checks. -/
def checkLimits (o : Options) (owner : String) : Prog Unit := do
  let own ← select fun (db : Database) => (db.tasks.filter fun t =>
    t.apiKeyID == owner && t.deletedAt.isNone && t.status.isUnfinished).length
  require ((own : Int) < o.perKeyLimit) .perKeyLimit
  let all ← select fun (db : Database) => (db.tasks.filter fun t => t.deletedAt.isNone && t.status.isUnfinished).length
  require ((all : Int) < o.globalLimit) .globalLimit

/-- `Create` (store.go:153); `available` is the answer of the resource check, if there is
one. -/
def createBody (o : Options) (validURL : String → Bool) (input : NewTask) (keyHash : String) (available : Option Bool)
    (now : Int) : Prog Task := do
  let replay ← (if keyHash = "" then pure none else select (idempotent input.apiKeyID keyHash now) : Prog (Option IdempotencyKey))
  match replay with
  | some k => do
    require (k.requestHash == input.requestHash) .idempotencyConflict
    query (getWith input.apiKeyID k.taskID now)
  | none => do
    require (available != some false) .resourceUnavailable
    if keyHash ≠ "" then do
      let _ ← exec (.delete Tbl.idempotencyKeys fun _ (k : IdempotencyKey) =>
        k.apiKeyID == input.apiKeyID && k.keyHash == keyHash)
    checkLimits o input.apiKeyID
    insertTask o validURL input keyHash now

def create (o : Options) (validURL : String → Bool) (input : NewTask) (keyHash : String) (available : Option Bool)
    (now : Int) : Call Task :=
  immediate (createBody o validURL input keyHash available (unix now))

/-! ## Claim -/

/-- The row a claimed task becomes. -/
def claimedTask (node : String) (now : Int) (t : Task) : Task :=
  { t with
    status := .dispatching, cancelLocked := true, upstreamID := some node
    startedAt := t.startedAt <|> some now, updatedAt := now, version := t.version + 1 }

/-- `ClaimNext` (store.go:419); `expectedVersion` is the optional node version. -/
def claimNextBody (o : Options) (upstreamID : String) (expectedVersion : Option Int) (now : Int) : Prog Task := do
  match expectedVersion with
  | none => pure ()
  | some v => do
    let current ← select fun (db : Database) => (db.nodes.filter fun n =>
      n.id == upstreamID && n.version == v && n.enabled && n.deletedAt.isNone).length
    require (current == 1) .nodeConfigStale
  let active ← select fun (db : Database) => (db.tasks.filter fun t =>
    t.upstreamID == some upstreamID && t.status.isTaken).length
  require (active == 0) .upstreamBusy
  takeTask o upstreamID now (claimedTask upstreamID now)

def claimNext (o : Options) (upstreamID : String) (expectedVersion : Option Int) (now : Int) : Call Task :=
  immediate (claimNextBody o upstreamID expectedVersion (unix now))

end MinimaxProxy.Store
