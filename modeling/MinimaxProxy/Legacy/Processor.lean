import MinimaxProxy.Service.System
import MinimaxProxy.Sim.Proc

/-!
# The legacy processor

`worker/processor.go`: one pass of the worker of a legacy node. It resumes the task the node
works on, or claims one, submits it and polls until the task is over. What the upstream
answers, what the clock says and whether the context is cancelled is chosen freely. The loops
take a number of rounds: a worker that is cut off after them has crashed there.
-/

namespace MinimaxProxy.Legacy
open Sql Store Sim

/-! ## What the worker shares with the rest -/

/-- What a worker did for a task: a call of the submit API, or a stored retry mark. -/
inductive Entry
  | call (taskID : String)
  | mark (taskID : String)
deriving DecidableEq

/-- The database; `minted` has the task ids drawn so far, and `log`, which no part of the
program reads, what this worker did, the latest first. -/
structure World where
  db : Database
  minted : List String
  log : List Entry := []

/-- A store operation, at any time and with any failures. -/
def store {α : Type} (c : Int → Call α) : Proc World (Except Err α) :=
  .perform fun w r w' => ∃ now faults n, r = (c now faults n w.db).result ∧ w' = { w with db := (c now faults n w.db).db }

/-- `BeginRetry`, with the record of a success. -/
def retry (taskID upstreamID : String) (jobIDsBefore : List String) (galleryBefore : String) : Proc World (Except Err Unit) :=
  .perform fun w r w' => ∃ now faults n, r = (beginRetry taskID upstreamID jobIDsBefore galleryBefore now faults n w.db).result ∧
    w' = { w with db := (beginRetry taskID upstreamID jobIDsBefore galleryBefore now faults n w.db).db
                  log := if r = .ok () then .mark taskID :: w.log else w.log }

/-- How a submission ends: `gradio.ErrRequestRejected` says that the service refused it. -/
inductive Answer
  | accepted
  | rejected
  | unknown

/-- `Client.Call` of the submit API for a task. -/
def submit (taskID : String) : Proc World Answer := .perform fun w _ w' => w' = { w with log := .call taskID :: w.log }

/-- `ActiveForUpstream` (store.go:271). The statement has no order, so any row may be found. -/
inductive Active (upstreamID : String) (db : Database) : Except Err Task → Prop
  | found (t : Task) : t ∈ db.tasks → t.upstreamID = some upstreamID → t.status.isTaken = true → t.deletedAt = none →
      Active upstreamID db (scanTask t)
  | none : (∀ t ∈ db.tasks, t.upstreamID = some upstreamID → t.status.isTaken = true → t.deletedAt.isSome = true) →
      Active upstreamID db (.error .taskNotFound)
  | failed (e : Err) : e ≠ .taskNotFound → Active upstreamID db (.error e)

def activeForUpstream (upstreamID : String) : Proc World (Except Err Task) := .perform fun w r w' => w' = w ∧ Active upstreamID w.db r

/-! ## The upstream -/

inductive JobStatus
  | pending | inProgress | completed | failed | cancelled | other
deriving DecidableEq

/-- `gradio.Job`. -/
structure Job where
  id : String
  status : JobStatus

/-- `gradio.ObservationStatus`. -/
inductive ObservedStatus
  | idle | running | failed | unknown
deriving DecidableEq

/-- What a check returns: the gallery, if there is one, and the observation. -/
structure Check where
  gallery : Option (List String)
  status : ObservedStatus
  privateQueue : Option Int

/-- The one new video of a gallery: more than one, no public address, or both addresses. -/
inductive Video
  | ambiguous
  | unmapped
  | found (internalURL publicURL : String)

/-- `GetJob` or `CancelJob`. -/
inductive JobAnswer
  | missing
  | failed
  | found (status : JobStatus)

/-- What a pass needs to know of its node. `hasJobs` says whether the client has the jobs API,
`validate` gives the ratio of a request that is still valid, and the last three are
`encoding/json` on lists of strings. -/
structure Processor where
  id : String
  nodeVersion : Int
  hasJobs : Bool
  validate : GenerationRequest → Option String
  marshal : List String → String
  unmarshal : String → Option (List String)
  marshal_text : ∀ urls, marshal urls ≠ ""

/-- `jobIDs` (processor.go:543). -/
def jobIDs (jobs : List Job) : List String := jobs.map (·.id)

/-- `newJobs` (processor.go:562). -/
def newJobs (before : List String) (current : List Job) : List Job := current.filter fun j => !before.contains j.id

/-- `activeJobs` (processor.go:576). -/
def activeJobs (jobs : List Job) : List Job := jobs.filter fun j => j.status == .pending || j.status == .inProgress

/-- `parseJobIDs` (processor.go:551). -/
def parseJobIDs : Doc (List String) → Option (List String)
  | .value ids => some ids
  | .unreadable => none

/-- `countNew` (processor.go:609). -/
def countNew (before current : List String) : Nat := (current.filter fun url => !before.contains url).length

/-- `queueEmpty` (processor.go:586). -/
def queueEmpty (c : Check) : Bool := c.privateQueue == some 0

/-! ## Ends of a pass -/

section
variable (o : Options) (p : Processor)

/-- `fail` (processor.go:601). -/
def fail (task : Task) (code message : String) : Proc World Unit := do
  let callbackID ← Proc.choose String
  let _ ← store (markFailed task.taskID p.id code message callbackID)
  pure ()

/-- `markReconciling` (processor.go:590): is there no error? -/
def Processor.markReconciling (task : Task) : Proc World Bool :=
  if task.status = .reconciling then pure true
  else do
    match ← store (Store.markReconciling task.taskID p.id) with
    | .ok () | .error .stateConflict => pure true
    | .error _ => pure false

/-- `timeout` (processor.go:362). -/
def timeout (task : Task) (code message : String) : Proc World Unit := do
  if task.upstreamJobID.getD "" ≠ "" ∧ p.hasJobs then do
    let _ ← Proc.choose JobAnswer
    fail p task code message
  else fail p task code message

/-- The first loop of `cancel`: the job to cancel, if one is known. The pass may also end. -/
def findJob (task : Task) : Nat → Proc World (Option String)
  | 0 => pure none
  | rounds + 1 => do
    match ← Proc.choose (Option (List Job)) with
    | none => do
      if ← Proc.choose Bool then pure (some "")
      else if ← Proc.choose Bool then pure none
      else findJob task rounds
    | some current =>
      match parseJobIDs task.upstreamJobsBeforeJSON with
      | none => pure none
      | some before =>
        match if task.attemptStartedAt.isNone then activeJobs current else newJobs before current with
        | [] => pure (some "")
        | [job] => pure (some job.id)
        | _ => do
          if ← Proc.choose Bool then pure (some "")
          else if ← Proc.choose Bool then pure none
          else findJob task rounds

/-- The second loop of `cancel`: does the pass go on? -/
def cancelJob : Nat → Proc World Bool
  | 0 => pure false
  | rounds + 1 => do
    match ← Proc.choose JobAnswer with
    | .missing | .found _ => pure true
    | .failed => do
      if ← Proc.choose Bool then pure true
      else if ← Proc.choose Bool then pure false
      else cancelJob rounds

/-- `cancel` (processor.go:437). -/
def cancel (task : Task) (rounds : Nat) : Proc World Unit := do
  let known := task.upstreamJobID.getD ""
  let found ← if p.hasJobs ∧ known = "" then findJob task rounds else pure (some known)
  match found with
  | none => pure ()
  | some jobID => do
    let goesOn ← if p.hasJobs ∧ jobID ≠ "" then cancelJob rounds else pure true
    if goesOn then do
      let callbackID ← Proc.choose String
      let _ ← store (finishCancelled task.taskID p.id callbackID)
      pure ()
    else pure ()

/-! ## Polling -/

/-- What follows a submission with the jobs `before` it: does the pass go on? -/
def submitted (task : Task) (before : List String) (ambiguous : String) : Proc World Bool := do
  match ← Proc.choose (Option (List Job)) with
  | none => do
    match ← store (markReconciling task.taskID p.id) with
    | .ok () => pure true
    | .error _ => pure false
  | some after =>
    match newJobs before after with
    | [] => do
      match ← store (markReconciling task.taskID p.id) with
      | .ok () => pure true
      | .error _ => pure false
    | [job] => do
      match ← store (bindUpstreamJob task.taskID p.id job.id) with
      | .ok () => pure true
      | .error _ => pure false
    | _ => do
      fail p task "upstream_job_ambiguous" ambiguous
      pure false

/-- The part of `retryOrFail` from the mark on (processor.go:393); `again` is the poll it ends with. -/
def resubmit (task : Task) (currentJobs : List Job) (galleryBefore : List String) (again : Proc World Unit) : Proc World Unit := do
  match ← retry task.taskID p.id (jobIDs currentJobs) (p.marshal galleryBefore) with
  | .error _ => pure ()
  | .ok () => do
    -- `prepareArguments`
    if ← Proc.choose Bool then
      match ← submit task.taskID with
      | .rejected => fail p task "upstream_rejected" "私有服务拒绝重试任务参数"
      | .unknown => do
        match ← store (markReconciling task.taskID p.id) with
        | .error _ => pure ()
        | .ok () => pollAgain
      | .accepted => do
        if ← submitted p task (jobIDs currentJobs) "重试后检测到多个新增私有任务" then pollAgain else pure ()
    else fail p task "upstream_media_upload_failed" "参考音频上传私有服务失败"
where
  pollAgain : Proc World Unit := do
    match ← activeForUpstream p.id with
    | .error _ => pure ()
    | .ok _ => again

/-- `retryOrFail` (processor.go:375). -/
def retryOrFail (task : Task) (galleryBefore : List String) (code message : String) (again : Proc World Unit) : Proc World Unit := do
  if task.retryCount ≥ 1 ∨ !p.hasJobs then fail p task code message
  else
    match ← Proc.choose (Option (List Job)) with
    | none => pure ()
    | some currentJobs =>
      if task.upstreamJobID.getD "" ≠ "" then
        match ← Proc.choose JobAnswer with
        | .failed => pure ()
        | .missing | .found _ => resubmit p task currentJobs galleryBefore again
      else resubmit p task currentJobs galleryBefore again

/-- The end of a round: the task has timed out, the context is cancelled, or there is another
round. -/
def nextRound (task : Task) (code message : String) (again : Proc World Unit) : Proc World Unit := do
  if ← Proc.choose Bool then timeout p task code message
  else if ← Proc.choose Bool then pure ()
  else again

/-- The part of a round that asks for the jobs (processor.go:292). `again` is given the number of
times the job was complete without a result. -/
def pollJobs (task : Task) (check : Check) (current : List String) (completed : Nat) (again : Nat → Proc World Unit)
    (retried : Proc World Unit) : Proc World Unit := do
  let next (completed : Nat) := nextRound p task "execution_timeout" "任务执行超过配置的最长时间" (again completed)
  let jobID := task.upstreamJobID.getD ""
  if !p.hasJobs then next completed
  else if jobID = "" then
    match parseJobIDs task.upstreamJobsBeforeJSON with
    | none => fail p task "recovery_context_invalid" "私有任务基线无法解析"
    | some before =>
      match ← Proc.choose (Option (List Job)) with
      | none => do
        if ← p.markReconciling task then next completed else pure ()
      | some currentJobs =>
        match if task.attemptStartedAt.isNone then activeJobs currentJobs else newJobs before currentJobs with
        | [] =>
          if check.status = .idle ∧ queueEmpty check then
            retryOrFail p task current "upstream_job_lost" "私有任务不存在且未发现生成结果" retried
          else next completed
        | [job] => do
          match ← store (bindUpstreamJob task.taskID p.id job.id) with
          | .error _ => pure ()
          | .ok () => next completed
        | _ => fail p task "upstream_job_ambiguous" "检测到多个新增私有任务"
  else
    match ← Proc.choose JobAnswer with
    | .missing => retryOrFail p task current "upstream_job_lost" "私有任务不存在且未发现生成结果" retried
    | .failed => do
      if ← p.markReconciling task then do
        if ← Proc.choose Bool then timeout p task "upstream_unavailable_timeout" "私有服务持续不可用，任务已结束"
        else next completed
      else pure ()
    | .found .failed => fail p task "upstream_failed" "私有服务报告生成失败"
    | .found .cancelled => fail p task "upstream_cancelled" "私有任务已被取消"
    | .found .completed =>
      if completed + 1 ≥ 3 then fail p task "upstream_result_missing" "私有任务已完成但未发现生成结果"
      else next (completed + 1)
    | .found _ => next 0

/-- One round of `poll` (processor.go:223) with the gallery `baseline`. -/
def pollRound (ratio : String) (baseline : List String) (completed rounds : Nat) (again : List String → Nat → Proc World Unit) :
    Proc World Unit := do
  match ← activeForUpstream p.id with
  | .error _ => pure ()
  | .ok task =>
    if task.status = .cancelling then cancel p task rounds
    else
      match ← Proc.choose (Option Check) with
      | none => do
        let goesOn ← p.markReconciling task
        -- the context may be cancelled
        if ← Proc.choose Bool then pure ()
        else if goesOn then
          nextRound p task "upstream_unavailable_timeout" "私有服务持续不可用，任务已结束" (again baseline completed)
        else pure ()
      | some check =>
        match check.gallery with
        | none => fail p task "upstream_protocol_error" "上游未返回 Gallery"
        | some current =>
          if countNew baseline current = 1 then
            match ← Proc.choose Video with
            | .ambiguous => fail p task "result_ambiguous" "无法识别唯一生成视频"
            | .unmapped => fail p task "result_url_invalid" "生成视频地址无法公开映射"
            | .found internalURL publicURL => do
              let callbackID ← Proc.choose String
              let _ ← store (markSucceeded task.taskID p.id internalURL publicURL ratio callbackID)
              pure ()
          else if countNew baseline current > 1 then fail p task "result_ambiguous" "检测到多个新增视频"
          else if check.status = .failed then fail p task "upstream_failed" "私有服务报告生成失败"
          else pollJobs p task check current completed (again baseline) (again current 0)

/-- `poll` (processor.go:223). -/
def poll (ratio : String) : Nat → List String → Nat → Proc World Unit
  | 0, _, _ => pure ()
  | rounds + 1, baseline, completed => pollRound p ratio baseline completed rounds (poll ratio rounds)

/-- The ratio of the stored request, or why it is not valid any more. -/
def validated (task : Task) : Except String String :=
  match task.requestJSON with
  | .unreadable _ => .error "持久化请求无法解析"
  | .value request =>
    match p.validate request with
    | none => .error "持久化请求不再符合配置"
    | some ratio => .ok ratio

/-- `resume` (processor.go:190). -/
def resume (task : Task) (rounds : Nat) : Proc World Unit := do
  let gallery := task.galleryBeforeJSON.getD ""
  if task.status = .cancelling then cancel p task rounds
  else if gallery = "" then
    if task.status = .dispatching then do
      let _ ← store (requeue o task.taskID p.id)
      pure ()
    else fail p task "recovery_context_missing" "恢复任务缺少 Gallery 基线"
  else
    match p.unmarshal gallery, validated p task with
    | none, _ => fail p task "recovery_context_invalid" "Gallery 基线无法解析"
    | some _, .error message => fail p task "invalid_persisted_request" message
    | some baseline, .ok ratio => do
      match ← store (markReconciling task.taskID p.id) with
      | .error _ => pure ()
      | .ok () => poll p ratio rounds baseline 0

/-! ## A pass -/

/-- The end of a pass with a task that was submitted (processor.go:184). -/
def pollActive (ratio : String) (baseline : List String) (rounds : Nat) : Proc World Unit := do
  match ← activeForUpstream p.id with
  | .error _ => pure ()
  | .ok _ => poll p ratio rounds baseline 0

/-- The first submission of a task, whose baseline is stored (processor.go:142). -/
def submitFirst (task : Task) (ratio : String) (baseline : List String) (rounds : Nat) : Proc World Unit := do
  match ← submit task.taskID with
  | .rejected => fail p task "upstream_rejected" "私有服务拒绝任务参数"
  | .unknown => do
    match ← store (markReconciling task.taskID p.id) with
    | .error _ => pure ()
    | .ok () => pollActive p ratio baseline rounds
  | .accepted =>
    if p.hasJobs then
      match ← activeForUpstream p.id with
      | .error _ => pure ()
      | .ok persisted =>
        match parseJobIDs persisted.upstreamJobsBeforeJSON with
        | none => fail p task "recovery_context_invalid" "私有任务基线无法解析"
        | some before => do
          if ← submitted p task before "无法识别唯一私有任务" then pollActive p ratio baseline rounds else pure ()
    else
      match ← store (markRunning task.taskID p.id) with
      | .error _ => pure ()
      | .ok () => pollActive p ratio baseline rounds

/-- The baseline of the gallery, and then the submission (processor.go:119). -/
def submitWithBaseline (task : Task) (ratio : String) (rounds : Nat) : Proc World Unit := do
  match ← Proc.choose (Option Check) with
  | none => do
    let _ ← store (requeue o task.taskID p.id)
    pure ()
  | some check =>
    match check.gallery with
    | none => fail p task "upstream_protocol_error" "上游未返回 Gallery"
    | some baseline => do
      match ← store (saveBaseline task.taskID p.id (p.marshal baseline)) with
      | .error _ => pure ()
      | .ok () => do
        -- `prepareArguments`
        if ← Proc.choose Bool then submitFirst p task ratio baseline rounds
        else fail p task "upstream_media_upload_failed" "参考音频上传私有服务失败"

/-- A claimed task (processor.go:90). -/
def processClaimed (task : Task) (rounds : Nat) : Proc World Unit := do
  if task.protocolVersion ≠ some .legacy ∨ task.routeState ≠ .ready ∨ task.upstreamID ≠ some p.id then pure ()
  else
    match validated p task with
    | .error message => fail p task "invalid_persisted_request" message
    | .ok ratio =>
      if p.hasJobs then
        match ← Proc.choose (Option (List Job)) with
        | none => do
          let _ ← store (requeue o task.taskID p.id)
          pure ()
        | some before => do
          match ← store (saveSubmissionContext task.taskID p.id (jobIDs before)) with
          | .error _ => pure ()
          | .ok () => submitWithBaseline o p task ratio rounds
      else submitWithBaseline o p task ratio rounds

/-- `ProcessOne` (processor.go:62). -/
def processOne (rounds : Nat) : Proc World Unit := do
  match ← activeForUpstream p.id with
  | .ok active =>
    if active.protocolVersion ≠ some .legacy ∨ active.routeState ≠ .ready ∨ active.upstreamID ≠ some p.id then pure ()
    else resume o p active rounds
  | .error .taskNotFound => do
    match ← store (claimNext o p.id (if p.nodeVersion > 0 then some p.nodeVersion else none)) with
    | .error _ => pure ()
    | .ok task => processClaimed o p task rounds
  | .error _ => pure ()

end

/-! ## The rest of the system -/

/-- A submission may have happened: the gallery before it is stored. -/
def Baseline (t : Task) : Prop := t.galleryBeforeJSON.getD "" ≠ ""

/-- No gallery is stored for the task while it is in dispatch at the node. -/
def Unstored (db : Database) (taskID nodeID : String) : Prop :=
  ∀ t ∈ db.tasks, t.taskID = taskID → t.upstreamID = some nodeID → t.status = .dispatching → ¬ Baseline t

/-- The workers of the other legacy nodes run this code too: the galleries they store are JSON
texts, and they give a task back to the queue only before its gallery is stored. -/
def Follows (db : Database) : Service.Deed → Prop
  | .saveBaseline _ _ urls => urls ≠ ""
  | .beginRetry _ _ _ galleryBefore => galleryBefore ≠ ""
  | .requeue taskID upstreamID => Unstored db taskID upstreamID
  | _ => True

/-- What else happens: any operation of the store by anyone, with task ids drawn anew, and the
steps of the workers of H3 nodes. -/
inductive Env (o : Options) (w : World) : World → Prop
  | deed (d : Service.Deed) (now : Int) (faults : Faults Err) (n : Nat) (unused : ∀ id ∈ d.mints, id ∉ w.minted)
      (follows : Follows w.db d) : Env o w { w with db := d.after o now faults n w.db, minted := d.mints ++ w.minted }
  | work (nodeID : String) (k : Service.Work) (now : Int) (faults : Faults Err) (n : Nat) (seat seat' : Service.Seat) (db : Database)
      (taken : k.step o nodeID now faults n w.db seat = some (db, seat')) : Env o w { w with db := db }

/-- One worker, which may crash and start again at any time. -/
def system (o : Options) (p : Processor) : System World Unit where
  env := Env o
  starts _ q _ := ∃ rounds, q = processOne o p rounds
  again := True

/-- The same, where no other stores a gallery for a task in dispatch at the node. -/
def apart (o : Options) (p : Processor) : System World Unit :=
  { system o p with env := fun w w' => Env o w w' ∧ ∀ id, Unstored w.db id p.id → Unstored w'.db id p.id }

end MinimaxProxy.Legacy
