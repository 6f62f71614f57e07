import MinimaxProxy.Sql.Evolve
import MinimaxProxy.Store.Operations

/-!
# The life cycle of a task

Every change that an operation of the store makes to a row of `video_tasks`, on the columns
that decide what happens to the task (`Core`). `Kind` names the changes and `CoreMove` gives
each with the guards under which it is made; that the operations make no others is shown in
the modules after this one.
-/

namespace MinimaxProxy

/-- The deciding columns of a task. -/
structure Core where
  taskID : String
  apiKeyID : String
  queueSeq : Nat
  protocol : Option Protocol
  routeState : RouteState
  status : TaskStatus
  cancelLocked : Bool
  upstreamID : Option String
  slot : Bool
  activeStageID : Option String
  deliveryRequired : Bool
  dispatch : Option (Doc DispatchSnapshot)
  originURL : Option String
  publicURL : Option String
  resultArtifactID : Option String
  errorCode : Option String
  deletedAt : Option Int
  expiresAt : Int
  callback : Bool
  version : Int

/-- The deciding columns of the row. -/
def Task.core (t : Task) : Core where
  taskID := t.taskID
  apiKeyID := t.apiKeyID
  queueSeq := t.queueSeq
  protocol := t.protocolVersion
  routeState := t.routeState
  status := t.status
  cancelLocked := t.cancelLocked
  upstreamID := t.upstreamID
  slot := t.upstreamSlotActive
  activeStageID := t.activeStageID
  deliveryRequired := t.deliveryRequired
  dispatch := t.dispatchSnapshotJSON
  originURL := t.resultInternalURL
  publicURL := t.resultPublicURL
  resultArtifactID := t.resultArtifactID
  errorCode := t.errorCode
  deletedAt := t.deletedAt
  expiresAt := t.expiresAt
  callback := t.callbackURLCiphertext.isSome
  version := t.version

/-- A row moves to the next version. -/
def Core.next (c : Core) : Core := { c with version := c.version + 1 }

/-- A task of an official or remote node that ran, has ended, and runs again. -/
structure Core.Revived (c : Core) : Prop where
  protocol : c.protocol = some .official ∨ c.protocol = some .tk2sd
  free : c.slot = false
  taken : c.status.isTaken = true

namespace Store
open Sql Sql.Prog

/-- The changes of a task. -/
inductive Kind
  -- Anyone.
  | rank | route | cancelQueued | cancelStages | askCancel | note
  -- A deletion, and one of a task that has been revived since it was decided.
  | delete | deleteLive
  -- Claims.
  | claimLegacy | claimOfficial | claimRemote
  -- Legacy workers.
  | work | succeed | fail | finishCancel | requeue
  -- Stage workers.
  | dispatch | execute | advance | finishStages | failStages
  -- Official workers.
  | bindOfficial | generate | failOfficial
  -- Remote workers.
  | bindRemote | resume | complete
  -- Upload workers and the administrator's retry, also of a task that is deleted.
  | undeliver | deliver | retry | retryDeleted
deriving DecidableEq

/-- The snapshot a claim or an attempt stores. -/
def dispatchOf (n : Node) (model : String) : Doc DispatchSnapshot := .value
  { nodeID := n.id, nodeVersion := n.version, protocolVersion := n.protocolVersion, serviceURL := n.serviceURL
    upstreamModel := model }

/-- The changes with their guards. -/
inductive CoreMove (c : Core) : Kind → Core → Prop
  | rank (locked : Bool) : c.deletedAt = none → c.status.isQueued = true →
      CoreMove c .rank { c.next with status := if locked then .queuedLocked else .queuedOpen, cancelLocked := locked }
  | route (p : Protocol) : c.routeState = .awaitingRoute → c.status.isQueued = true →
      CoreMove c .route { c.next with protocol := some p, routeState := .ready }
  | cancelQueued : c.status.isQueued = true → CoreMove c .cancelQueued { c.next with status := .cancelled, cancelLocked := false }
  | cancelStages : c.status.isUnfinished = true → c.slot = false →
      CoreMove c .cancelStages
        { c.next with status := .cancelled, cancelLocked := false, upstreamID := none, activeStageID := none }
  | askCancel : c.status.isTaken = true → c.slot = true ∨ present c.upstreamID = true ∧ present c.activeStageID = false →
      CoreMove c .askCancel { c.next with status := .cancelling }
  | delete (time : Int) : c.deletedAt = none → c.status.isTerminal = true → CoreMove c .delete { c.next with deletedAt := some time }
  | deleteLive (time : Int) : c.deletedAt = none → c.Revived → CoreMove c .deleteLive { c.next with deletedAt := some time }
  | note : CoreMove c .note c.next
  | claimLegacy (node : String) : c.deletedAt = none → c.routeState = .ready → c.protocol = some .legacy →
      c.status.isQueued = true →
      CoreMove c .claimLegacy { c.next with status := .dispatching, cancelLocked := true, upstreamID := some node }
  | claimOfficial (node : Node) (model : String) : c.deletedAt = none → c.routeState = .ready → c.protocol = some .official →
      c.status.isQueued = true → node.protocolVersion = .official → node.id ≠ "" →
      CoreMove c .claimOfficial
        { c.next with status := .dispatching, cancelLocked := true, upstreamID := some node.id, slot := true
                      deliveryRequired := node.replaceResultURL, dispatch := some (dispatchOf node model) }
  | claimRemote (node : Node) (model : String) : c.deletedAt = none → c.routeState = .ready → c.protocol = some .tk2sd →
      c.status.isQueued = true → node.protocolVersion = .tk2sd → node.id ≠ "" →
      CoreMove c .claimRemote
        { c.next with status := .dispatching, cancelLocked := true, upstreamID := some node.id, slot := true
                      deliveryRequired := node.replaceResultURL, dispatch := some (dispatchOf node model) }
  | work (status : TaskStatus) (errorCode : Option String) : c.protocol = some .legacy → c.status.isActive = true →
      status.isActive = true → CoreMove c .work { c.next with status := status, errorCode := errorCode }
  | succeed (origin url : String) : c.protocol = some .legacy → c.status.isActive = true →
      CoreMove c .succeed { c.next with status := .succeeded, originURL := some origin, publicURL := some url }
  | fail (code : String) : c.protocol = some .legacy → c.status.isActive = true →
      CoreMove c .fail { c.next with status := .failed, errorCode := some code }
  | finishCancel : c.protocol = some .legacy → c.status = .cancelling →
      CoreMove c .finishCancel { c.next with status := .cancelled, cancelLocked := false }
  | requeue : c.protocol = some .legacy → c.status = .dispatching →
      CoreMove c .requeue { c.next with status := .queuedOpen, cancelLocked := false, upstreamID := none }
  | dispatch (node stage : String) (snapshot : Option (Doc DispatchSnapshot)) : c.deletedAt = none → c.routeState = .ready →
      c.protocol = some .h3 → c.status.adminCanCancel = true → stage ≠ "" →
      CoreMove c .dispatch
        { c.next with status := .dispatching, cancelLocked := true, upstreamID := some node, activeStageID := some stage
                      dispatch := snapshot }
  | execute (node stage : String) : c.deletedAt = none → c.protocol = some .h3 → c.status.isActive = true → stage ≠ "" →
      CoreMove c .execute { c.next with status := .running, upstreamID := some node, activeStageID := some stage }
  | advance : c.deletedAt = none → c.protocol = some .h3 → c.status.isActive = true →
      CoreMove c .advance { c.next with status := .running, upstreamID := none, activeStageID := none }
  | finishStages (artifact : Option String) : c.deletedAt = none → c.protocol = some .h3 → c.status.isActive = true →
      CoreMove c .finishStages { c.next with status := .succeeded, resultArtifactID := artifact, activeStageID := none }
  | failStages (code : String) : c.deletedAt = none → c.protocol = some .h3 → c.status.isActive = true →
      CoreMove c .failStages { c.next with status := .failed, errorCode := some code, activeStageID := none }
  | bindOfficial : c.protocol = some .official → c.slot = true → c.status = .dispatching →
      CoreMove c .bindOfficial { c.next with status := .running }
  | generate (origin : String) (url : Option String) (delivers : Bool) : c.protocol = some .official → c.slot = true →
      c.status = .dispatching ∨ c.status = .running →
      CoreMove c .generate
        { c.next with status := if delivers then .reconciling else .succeeded, originURL := some origin, publicURL := url
                      slot := false }
  | failOfficial (code : String) : c.protocol = some .official → c.slot = true → c.status = .dispatching ∨ c.status = .running →
      CoreMove c .failOfficial { c.next with status := .failed, errorCode := some code, slot := false }
  | bindRemote : c.slot = true → c.status.isTaken = true →
      CoreMove c .bindRemote { c.next with status := if c.status = .cancelling then c.status else .running }
  | resume : c.status = .cancelling → CoreMove c .resume { c.next with status := .running }
  | complete (r : RemoteCompletion) : c.slot = true → c.deletedAt = none → c.status.isTaken = true →
      CoreMove c .complete
        { c.next with status := r.taskStatus, slot := false, originURL := c.originURL <|> nullEmpty r.resultURL
                      publicURL := if r.delivers then none else nullEmpty r.resultURL, errorCode := nullEmpty r.errorCode }
  | undeliver : c.status = .reconciling →
      CoreMove c .undeliver { c.next with status := .failed, errorCode := some "result_upload_failed" }
  | retry : c.status = .failed → c.errorCode = some "result_upload_failed" → c.originURL.isSome = true → c.deletedAt = none →
      CoreMove c .retry { c.next with status := .reconciling, errorCode := none }
  | retryDeleted : c.status = .failed → c.errorCode = some "result_upload_failed" → c.originURL.isSome = true →
      c.deletedAt.isSome = true → CoreMove c .retryDeleted { c.next with status := .reconciling, errorCode := none }
  | deliver (url : String) : c.status = .reconciling → c.originURL.isSome = true →
      CoreMove c .deliver { c.next with status := .succeeded, publicURL := some url, errorCode := none }

theorem CoreMove.owner {c c' : Core} {k : Kind} (move : CoreMove c k c') : c'.apiKeyID = c.apiKeyID := by
  cases move <;> rfl

/-- A task keeps its id, its place in the queue, its expiry and its callback. -/
theorem CoreMove.keeps {c c' : Core} {k : Kind} (move : CoreMove c k c') :
    c'.taskID = c.taskID ∧ c'.queueSeq = c.queueSeq ∧ c'.expiresAt = c.expiresAt ∧ c'.callback = c.callback := by
  cases move <;> exact ⟨rfl, rfl, rfl, rfl⟩

theorem CoreMove.queued_of_rank {c c' : Core} (move : CoreMove c .rank c') : c.status.isQueued = true := by
  cases move with
  | rank locked undeleted queued => exact queued

theorem CoreMove.status_of_failStages {c c' : Core} (move : CoreMove c .failStages c') : c'.status = .failed := by
  cases move
  rfl

theorem CoreMove.status_of_advance {c c' : Core} (move : CoreMove c .advance c') : c'.status = .running := by
  cases move
  rfl

end Store

end MinimaxProxy
