import MinimaxProxy.Sim.Runs
import MinimaxProxy.Store.CancelSteps
import MinimaxProxy.Store.CleanupJobs

/-!
# The service

Handlers, the workers of all four protocols, upload, callback and deletion workers and the
administrator share the database through one connection (store.go:53). A run interleaves
their transactions and single statements in any order; the clock and the failures of
statements are free at every step. A call of several parts appears as its parts, and what it
remembers between them is part of the state: a deletion decided by a read, a task that a
legacy worker has, and the stage of each H3 worker.
-/

namespace MinimaxProxy.Service
open Sql Store

/-- Transactions and single statements whose callers remember nothing, and those of callers
that know their task. -/
inductive Deed
  -- API handlers and the administrator.
  | create (validURL : String → Bool) (input : NewTask) (keyHash : String) (available : Option Bool)
  | cancelQueued (owner taskID callbackID : String)
  | adminCancel (taskID callbackID : String)
  | requestRemoteCancel (taskID : String)
  | requestTaskDeletion (uuid : Nat → String) (taskID : String) (reason : DeletionReason) (requestedBy : String)
  | adminDelete (taskID : String) (purged : Option (List Location))
  | retryResultUpload (taskID : String)
  | previewArtifactCleanup (jobID secret : String) (olderThanDays : Int) (requestedBy : String)
  | confirmArtifactCleanup (uuid : Nat → String) (token confirmation : String)
  | retryArtifactCleanup (jobID : String) (nodeIDs : List String)
  -- Nodes, their catalogs and the routes.
  | createModelNode (input : NodeInput)
  | updateModelNode (id : String) (expectedVersion : Int) (input : NodeInput)
  | deleteModelNode (id : String) (expectedVersion : Int)
  | importLegacyNodes (inputs : List NodeInput)
  | refreshModelCatalog (nodeID : String) (nodeVersion catalogRevision : Int) (items : List CatalogItem) (errorCode : String)
  | bindModelRoute (model : String) (protocol : Protocol) (admin : String) (version revision : Int)
  | bindLegacyTaskRoute (normalize : Normalize) (taskID : String) (nodeProtocol : Protocol) (version revision : Int)
  -- Legacy workers.
  | claimNext (upstreamID : String) (version : Int)
  | saveBaseline (taskID upstreamID urls : String)
  | saveSubmissionContext (taskID upstreamID : String) (jobIDs : List String)
  | bindUpstreamJob (taskID upstreamID jobID : String)
  | beginRetry (taskID upstreamID : String) (jobIDsBefore : List String) (galleryBefore : String)
  | markRunning (taskID upstreamID : String)
  | markReconciling (taskID upstreamID : String)
  | markSucceeded (taskID upstreamID internalURL publicURL ratio callbackID : String)
  | finishCancelled (taskID upstreamID callbackID : String)
  | markFailed (taskID upstreamID code message callbackID : String)
  | requeue (taskID upstreamID : String)
  -- Official workers.
  | claimNextOfficial (nodeID : String) (nodeVersion capacity : Int)
  | saveOfficialSubmissionBaseline (taskID nodeID : String) (taskIDs : List String)
  | bindOfficialTask (taskID nodeID upstreamTaskID : String)
  | markOfficialGenerated (taskID nodeID originURL ratio : String) (uploadJob : Option UploadJob) (callbackID : String)
  | markOfficialFailed (taskID nodeID code message : String) (feedback : Option UpstreamFeedback) (callbackID : String)
  -- Remote workers.
  | claimNextRemote (nodeID : String) (nodeVersion capacity : Int) (admission : List Admission)
  | acquireRemoteLease (taskID nodeID token : String) (ttl : Int)
  | renewRemoteLease (r : RemoteRun) (ttl : Int)
  | releaseRemoteLease (r : RemoteRun) (next : Int) (code : String) (reconcile : Bool)
  | saveRemoteAsset (r : RemoteRun) (a : NodeAsset)
  | prepareRemoteRequest (r : RemoteRun) (body : String) (valid : Bool)
  | beginRemoteSubmission (r : RemoteRun)
  | bindRemoteTask (r : RemoteRun) (id : String)
  | observeRemoteTask (r : RemoteRun) (status : RemoteStatus) (cancelState : CancelState)
  | completeRemoteRun (r : RemoteRun) (c : RemoteCompletion) (callbackID : String)
  | updateRemoteResult (taskID nodeID url : String) (expiresAt : Int) (metadataJSON : String) (metadataStatus : MetadataStatus)
  -- Upload, callback and deletion workers, and the retention worker.
  | recoverExhaustedResultUploads (uuid : Nat → String)
  | claimUploadJob (leaseToken : String) (leaseDuration : Int)
  | failResultUploadAttempt (jobID leaseToken code message : String) (retryable : Bool) (nextAttempt : Int) (callbackID : String)
  | completeResultUpload (jobID leaseToken publicURL : String) (bytesUploaded : Int) (callbackID : String)
  | claimCallbackDelivery (leaseUntil : Int)
  | markCallbackSucceeded (id : String) (httpStatus : Int)
  | scheduleCallbackRetry (id : String) (attempt httpStatus : Int) (message : String) (nextAttempt : Int)
  | markCallbackFailed (id : String) (attempt httpStatus : Int) (message : String)
  | claimDeletionItem (nodeID leaseToken : String) (leaseDuration : Int)
  | renewDeletionLease (itemID leaseToken : String) (leaseDuration : Int)
  | failDeletionItem (itemID leaseToken code message : String) (nextAttempt : Int) (terminal : Bool)
  | completeDeletionItem (itemID leaseToken : String) (absent : Bool) (deletedBytes : Int)
  | dropExpiredKeys (size : Nat)
  -- Cancelled attempts on H3 nodes.
  | bindBarrierExecution (nodeID : String) (rowVersion : Int) (executionID : String)
  | deferNodeDispatchBarrier (nodeID : String) (rowVersion : Int) (errorCode : String) (retryAt : Int)
  | resolveNodeDispatchBarrier (nodeID : String) (rowVersion : Int)
  -- Copies of artifacts: inputs that a worker imports, and migrations between nodes.
  | registerInputArtifact (sha : String → String) (validMedia : Bool)
    (artifactID taskID : String) (kind : ArtifactKind) (nodeID nodeArtifactID : String)
      (sizeBytes : Int) (digest mediaJSON : String)
  | createArtifactLocation (l : Location)
  | updateImportingArtifactLocation (locationID nodeArtifactID : String) (sizeBytes : Int) (digest : String)
  | activatePrimaryArtifactLocation (artifactID locationID : String) (sizeBytes : Int) (digest : String)

/-- The database after it, with failures `faults` from statement `n` on. -/
def Deed.after (o : Options) (now : Int) (faults : Faults Err) (n : Nat) (db : Database) : Deed → Database
  | .create validURL input keyHash available => (Store.create o validURL input keyHash available now faults n db).db
  | .cancelQueued owner taskID callbackID => (Store.cancelQueued o owner taskID callbackID now faults n db).db
  | .adminCancel taskID callbackID => (Store.adminCancel o taskID callbackID now faults n db).db
  | .requestRemoteCancel taskID => (Store.requestRemoteCancel taskID now faults n db).db
  | .requestTaskDeletion uuid taskID reason requestedBy => (Store.requestTaskDeletion uuid taskID reason requestedBy now faults n db).db
  | .adminDelete taskID purged => (Store.adminDelete taskID purged faults n db).db
  | .retryResultUpload taskID => (Store.retryResultUpload taskID now faults n db).db
  | .previewArtifactCleanup jobID secret olderThanDays requestedBy =>
    (Store.previewArtifactCleanup jobID secret olderThanDays requestedBy now faults n db).db
  | .confirmArtifactCleanup uuid token confirmation => (Store.confirmArtifactCleanup uuid token confirmation now faults n db).db
  | .retryArtifactCleanup jobID nodeIDs => (Store.retryArtifactCleanup jobID nodeIDs now faults n db).db
  | .createModelNode input => (Store.createModelNode input now faults n db).db
  | .updateModelNode id expectedVersion input => (Store.updateModelNode id expectedVersion input now faults n db).db
  | .deleteModelNode id expectedVersion => (Store.deleteModelNode id expectedVersion now faults n db).db
  | .importLegacyNodes inputs => (Store.importLegacyNodes inputs now faults n db).db
  | .refreshModelCatalog nodeID nodeVersion catalogRevision items errorCode =>
    (Store.refreshModelCatalog nodeID nodeVersion catalogRevision items errorCode now faults n db).db
  | .bindModelRoute model protocol admin version revision => (Store.bindModelRoute model protocol admin version revision now faults n db).db
  | .bindLegacyTaskRoute normalize taskID nodeProtocol version revision =>
    (Store.bindLegacyTaskRoute o normalize taskID nodeProtocol version revision now faults n db).db
  | .claimNext upstreamID version => (Store.claimNext o upstreamID (some version) now faults n db).db
  | .saveBaseline taskID upstreamID urls => (Store.saveBaseline taskID upstreamID urls now faults n db).db
  | .saveSubmissionContext taskID upstreamID jobIDs => (Store.saveSubmissionContext taskID upstreamID jobIDs now faults n db).db
  | .bindUpstreamJob taskID upstreamID jobID => (Store.bindUpstreamJob taskID upstreamID jobID now faults n db).db
  | .beginRetry taskID upstreamID jobIDsBefore galleryBefore =>
    (Store.beginRetry taskID upstreamID jobIDsBefore galleryBefore now faults n db).db
  | .markRunning taskID upstreamID => (Store.markRunning taskID upstreamID now faults n db).db
  | .markReconciling taskID upstreamID => (Store.markReconciling taskID upstreamID now faults n db).db
  | .markSucceeded taskID upstreamID internalURL publicURL ratio callbackID =>
    (Store.markSucceeded taskID upstreamID internalURL publicURL ratio callbackID now faults n db).db
  | .finishCancelled taskID upstreamID callbackID => (Store.finishCancelled taskID upstreamID callbackID now faults n db).db
  | .markFailed taskID upstreamID code message callbackID => (Store.markFailed taskID upstreamID code message callbackID now faults n db).db
  | .requeue taskID upstreamID => (Store.requeue o taskID upstreamID now faults n db).db
  | .claimNextOfficial nodeID nodeVersion capacity => (Store.claimNextOfficial o nodeID nodeVersion capacity now faults n db).db
  | .saveOfficialSubmissionBaseline taskID nodeID taskIDs => (Store.saveOfficialSubmissionBaseline taskID nodeID taskIDs now faults n db).db
  | .bindOfficialTask taskID nodeID upstreamTaskID => (Store.bindOfficialTask taskID nodeID upstreamTaskID now faults n db).db
  | .markOfficialGenerated taskID nodeID originURL ratio uploadJob callbackID =>
    (Store.markOfficialGenerated taskID nodeID originURL ratio uploadJob callbackID now faults n db).db
  | .markOfficialFailed taskID nodeID code message feedback callbackID =>
    (Store.markOfficialFailed taskID nodeID code message feedback callbackID now faults n db).db
  | .claimNextRemote nodeID nodeVersion capacity admission =>
    (Store.claimNextRemote o nodeID nodeVersion capacity admission now faults n db).db
  | .acquireRemoteLease taskID nodeID token ttl => (Store.acquireRemoteLease taskID nodeID token ttl now faults n db).db
  | .renewRemoteLease r ttl => (Store.renewRemoteLease r ttl now faults n db).db
  | .releaseRemoteLease r next code reconcile => (Store.releaseRemoteLease r next code reconcile now faults n db).db
  | .saveRemoteAsset r a => (Store.saveRemoteAsset r a now faults n db).db
  | .prepareRemoteRequest r body valid => (Store.prepareRemoteRequest r body valid now faults n db).db
  | .beginRemoteSubmission r => (Store.beginRemoteSubmission r now faults n db).db
  | .bindRemoteTask r id => (Store.bindRemoteTask r id now faults n db).db
  | .observeRemoteTask r status cancelState => (Store.observeRemoteTask r status cancelState now faults n db).db
  | .completeRemoteRun r c callbackID => (Store.completeRemoteRun r c callbackID now faults n db).db
  | .updateRemoteResult taskID nodeID url expiresAt metadataJSON metadataStatus =>
    (Store.updateRemoteResult taskID nodeID url expiresAt metadataJSON metadataStatus now faults n db).db
  | .recoverExhaustedResultUploads uuid => (Store.recoverExhaustedResultUploads uuid now faults n db).db
  | .claimUploadJob leaseToken leaseDuration => (immediate (claimUploadJobBody leaseToken leaseDuration now) faults n db).db
  | .failResultUploadAttempt jobID leaseToken code message retryable nextAttempt callbackID =>
    (Store.failResultUploadAttempt jobID leaseToken code message retryable nextAttempt callbackID now faults n db).db
  | .completeResultUpload jobID leaseToken publicURL bytesUploaded callbackID =>
    (Store.completeResultUpload jobID leaseToken publicURL bytesUploaded callbackID now faults n db).db
  | .claimCallbackDelivery leaseUntil => (Store.claimCallbackDelivery leaseUntil now faults n db).db
  | .markCallbackSucceeded id httpStatus => (Store.markCallbackSucceeded id httpStatus now faults n db).db
  | .scheduleCallbackRetry id attempt httpStatus message nextAttempt =>
    (Store.scheduleCallbackRetry id attempt httpStatus message nextAttempt now faults n db).db
  | .markCallbackFailed id attempt httpStatus message => (Store.markCallbackFailed id attempt httpStatus message now faults n db).db
  | .claimDeletionItem nodeID leaseToken leaseDuration => (Store.claimDeletionItem nodeID leaseToken leaseDuration now faults n db).db
  | .renewDeletionLease itemID leaseToken leaseDuration => (Store.renewDeletionLease itemID leaseToken leaseDuration now faults n db).db
  | .failDeletionItem itemID leaseToken code message nextAttempt terminal =>
    (Store.failDeletionItem itemID leaseToken code message nextAttempt terminal now faults n db).db
  | .completeDeletionItem itemID leaseToken absent deletedBytes =>
    (Store.completeDeletionItem itemID leaseToken absent deletedBytes now faults n db).db
  | .dropExpiredKeys size => (Store.dropExpiredKeys size now faults n db).db
  | .bindBarrierExecution nodeID rowVersion executionID => (Store.bindBarrierExecution nodeID rowVersion executionID now faults n db).db
  | .deferNodeDispatchBarrier nodeID rowVersion errorCode retryAt =>
    (Store.deferNodeDispatchBarrier nodeID rowVersion errorCode retryAt now faults n db).db
  | .resolveNodeDispatchBarrier nodeID rowVersion => (Store.resolveNodeDispatchBarrier nodeID rowVersion faults n db).db
  | .registerInputArtifact sha validMedia artifactID taskID kind nodeID nodeArtifactID sizeBytes digest mediaJSON =>
    (Store.registerInputArtifact sha validMedia artifactID taskID kind nodeID nodeArtifactID sizeBytes digest mediaJSON now faults n db).db
  | .createArtifactLocation l => (Store.createArtifactLocation l now faults n db).db
  | .updateImportingArtifactLocation locationID nodeArtifactID sizeBytes digest =>
    (Store.updateImportingArtifactLocation locationID nodeArtifactID sizeBytes digest faults n db).db
  | .activatePrimaryArtifactLocation artifactID locationID sizeBytes digest =>
    (Store.activatePrimaryArtifactLocation artifactID locationID sizeBytes digest now faults n db).db

/-! ## Stage workers -/

/-- What the worker of an H3 node is at (`ProcessOne`, orchestrator.go:69): it has claimed a
stage that had so many attempts, has seen that none of them is open, or works on an attempt. -/
inductive Seat
  | idle
  | claimed (stageID token : String) (attempts : Int)
  | fresh (stageID token : String) (attempts : Int)
  | working (stageID token attemptID : String)

/-- The steps of the worker. It may return or crash at any time (`leave`). -/
inductive Work
  | claim (leaseToken : String) (leaseDuration : Int)
  | resume
  | begin (a : Attempt)
  | bind (executionID callbackID : String)
  | renew (leaseDuration : Int)
  | complete (sha : String → String) (validMedia : Bool) (out : StageOutput) (callbackID : String)
  | fail (code message : String) (retryAt : Int) (terminal : Bool) (callbackID : String)
  | leave

/-- `resumeStageAttempt` (orchestrator.go:153), as far as the choice of the attempt goes. -/
def resumed (nodeID stageID token : String) (attempts : Int) (db : Database) : Seat :=
  if attempts = 0 then .fresh stageID token attempts
  else match getRunningStageAttempt stageID token db with
    | .error _ => .fresh stageID token attempts
    | .ok a =>
      if !a.status.isOpen then .fresh stageID token attempts
      else if a.nodeID = nodeID then .working stageID token a.id
      else .idle

/-- The worker goes on after a call that went well. -/
def Seat.after {α : Type} (out : Outcome schema Err α) (next : α → Seat) : Seat :=
  match out.result with
  | .ok a => next a
  | .error _ => .idle

/-- A step of the worker of `nodeID`, if it can take it. -/
def Work.step (o : Options) (nodeID : String) (now : Int) (faults : Faults Err) (n : Nat) (db : Database) :
    Seat → Work → Option (Database × Seat)
  | .idle, .claim leaseToken leaseDuration =>
    let out := Store.claimStage nodeID leaseToken leaseDuration now faults n db
    some (out.db, .after out fun s => .claimed s.id leaseToken s.attemptCount)
  | .claimed stageID token attempts, .resume => some (db, resumed nodeID stageID token attempts db)
  | .fresh stageID token attempts, .begin a =>
    if a.stageID = stageID ∧ a.attemptNo = attempts + 1 ∧ a.nodeID = nodeID ∧ a.status = .dispatching then
      let out := Store.createStageAttempt o a token now faults n db
      some (out.db, .after out fun _ => .working stageID token a.id)
    else none
  | .working stageID token attemptID, .bind executionID callbackID =>
    let out := Store.bindStageExecution stageID token attemptID executionID callbackID now faults n db
    some (out.db, .after out fun _ => .working stageID token attemptID)
  | .working stageID token attemptID, .renew leaseDuration =>
    let out := Store.renewStageLease stageID token leaseDuration now faults n db
    some (out.db, .after out fun _ => .working stageID token attemptID)
  | .working stageID token attemptID, .complete sha validMedia out callbackID =>
    if out.stageID = stageID then
      some ((Store.completeStageWithOutput sha validMedia out token attemptID callbackID now faults n db).db, .idle)
    else none
  | .working stageID token attemptID, .fail code message retryAt terminal callbackID =>
    some ((Store.failStage stageID token attemptID code message retryAt terminal callbackID now faults n db).db, .idle)
  | _, .leave => some (db, .idle)
  | _, _ => none

/-- What the step of a worker can be. -/
inductive Work.Taken (o : Options) (nodeID : String) (now : Int) (faults : Faults Err) (n : Nat) (db : Database) :
    Seat → Work → Database → Seat → Prop
  | claim (leaseToken : String) (leaseDuration : Int) : Taken o nodeID now faults n db .idle (.claim leaseToken leaseDuration)
      (Store.claimStage nodeID leaseToken leaseDuration now faults n db).db
      (.after (Store.claimStage nodeID leaseToken leaseDuration now faults n db) fun s => .claimed s.id leaseToken s.attemptCount)
  | resume (stageID token : String) (attempts : Int) : Taken o nodeID now faults n db (.claimed stageID token attempts) .resume db
      (resumed nodeID stageID token attempts db)
  | begin (stageID token : String) (attempts : Int) (a : Attempt)
      (proper : a.stageID = stageID ∧ a.attemptNo = attempts + 1 ∧ a.nodeID = nodeID ∧ a.status = .dispatching) :
      Taken o nodeID now faults n db (.fresh stageID token attempts) (.begin a) (Store.createStageAttempt o a token now faults n db).db
        (.after (Store.createStageAttempt o a token now faults n db) fun _ => .working stageID token a.id)
  | bind (stageID token attemptID executionID callbackID : String) :
      Taken o nodeID now faults n db (.working stageID token attemptID) (.bind executionID callbackID)
        (Store.bindStageExecution stageID token attemptID executionID callbackID now faults n db).db
        (.after (Store.bindStageExecution stageID token attemptID executionID
          callbackID now faults n db) fun _ => .working stageID token attemptID)
  | renew (stageID token attemptID : String) (leaseDuration : Int) :
      Taken o nodeID now faults n db (.working stageID token attemptID) (.renew leaseDuration)
        (Store.renewStageLease stageID token leaseDuration now faults n db).db
        (.after (Store.renewStageLease stageID token leaseDuration now faults n db) fun _ => .working stageID token attemptID)
  | complete (stageID token attemptID : String) (sha : String → String) (validMedia : Bool) (out : StageOutput) (callbackID : String)
      (proper : out.stageID = stageID) :
      Taken o nodeID now faults n db (.working stageID token attemptID) (.complete sha validMedia out callbackID)
        (Store.completeStageWithOutput sha validMedia out token attemptID callbackID now faults n db).db .idle
  | fail (stageID token attemptID code message : String) (retryAt : Int) (terminal : Bool) (callbackID : String) :
      Taken o nodeID now faults n db (.working stageID token attemptID) (.fail code message retryAt terminal callbackID)
        (Store.failStage stageID token attemptID code message retryAt terminal callbackID now faults n db).db .idle
  | leave (seat : Seat) : Taken o nodeID now faults n db seat .leave db .idle

theorem Work.taken {o : Options} {nodeID : String} {now : Int}
    {faults : Faults Err} {n : Nat} {db db' : Database} {seat seat' : Seat} {w : Work}
    (step : w.step o nodeID now faults n db seat = some (db', seat')) : Work.Taken o nodeID now faults n db seat w db' seat' := by
  cases w with
  | begin | complete =>
    cases seat <;> try cases step
    simp only [Work.step] at step
    split at step <;> cases step
    constructor
    assumption
  | _ => cases seat <;> cases step <;> constructor

/-! ## The system -/

/-- The database, and what the callers between two parts of a call remember. -/
structure State where
  db : Database
  /-- The latest time seen. -/
  clock : Int := 0
  /-- Task ids that have been drawn. -/
  minted : List String := []
  /-- Tasks that were over when their deletion was decided, and are still to be deleted. -/
  decided : List String := []
  /-- Tasks that legacy workers have had. -/
  legacy : List String := []
  /-- Lease tokens and attempt ids that stage workers have drawn. -/
  drawn : List String := []
  seats : String → Seat := fun _ => .idle

inductive Op
  | deed (d : Deed)
  /-- The read of `RequestOwnedTaskDeletion`, of `CancelOrDelete` or of `CleanupExpired`. -/
  | decide (taskID : String)
  /-- The deletion is given up: the caller is gone, or an earlier one of its batch failed. -/
  | abandon (taskID : String)
  /-- A legacy worker finds or claims the task (processor.go:70, 90). -/
  | recognise (taskID : String)
  | work (nodeID : String) (w : Work)

/-- One operation with the time and the failures it meets. -/
structure Event where
  op : Op
  now : Int
  faults : Faults Err := noFaults
  statement : Nat := 0

/-- What the caller knows: a new task has an unused id, a deletion has been decided, and a
legacy worker works on its tasks, on the version of the node it was started with. -/
def Deed.Known (s : State) : Deed → Prop
  | .create _ input _ _ => input.taskID ∉ s.minted
  | .requestTaskDeletion _ taskID _ _ => taskID ∈ s.decided
  | .claimNext upstreamID version => ∀ m ∈ s.db.nodes, m.id = upstreamID → m.version = version → m.protocolVersion = .legacy
  | .saveBaseline taskID .. | .saveSubmissionContext taskID .. | .bindUpstreamJob taskID .. | .beginRetry taskID ..
  | .markRunning taskID .. | .markReconciling taskID .. | .markSucceeded taskID .. | .finishCancelled taskID ..
  | .markFailed taskID .. | .requeue taskID .. => taskID ∈ s.legacy
  | _ => True

/-- The id that a creation draws. -/
def Deed.mints : Deed → List String
  | .create _ input _ _ => [input.taskID]
  | _ => []

/-- A decision is carried out once. -/
def Deed.decided (decided : List String) : Deed → List String
  | .requestTaskDeletion _ taskID _ _ => decided.erase taskID
  | _ => decided

/-- The token that a claim draws, and the id of a new attempt. -/
def Work.draws : Work → List String
  | .claim leaseToken _ => [leaseToken]
  | .begin a => [a.id]
  | _ => []

/-- A step of the system. -/
inductive Step (o : Options) (s : State) : Event → State → Prop
  | deed (d : Deed) (now : Int) (faults : Faults Err) (n : Nat) (known : d.Known s) :
      Step o s ⟨.deed d, now, faults, n⟩
        { s with db := d.after o now faults n s.db, clock := max s.clock now, minted := d.mints ++ s.minted
                 decided := d.decided s.decided }
  | decide (t : Task) (now : Int) (faults : Faults Err) (n : Nat) (stored : t ∈ s.db.tasks) (undeleted : t.deletedAt = none)
      (isOver : t.status.isTerminal = true) :
      Step o s ⟨.decide t.taskID, now, faults, n⟩ { s with clock := max s.clock now, decided := t.taskID :: s.decided }
  | abandon (taskID : String) (now : Int) (faults : Faults Err) (n : Nat) :
      Step o s ⟨.abandon taskID, now, faults, n⟩ { s with clock := max s.clock now, decided := s.decided.erase taskID }
  | recognise (t : Task) (now : Int) (faults : Faults Err) (n : Nat) (stored : t ∈ s.db.tasks)
      (protocol : t.protocolVersion = some .legacy) (ready : t.routeState = .ready) :
      Step o s ⟨.recognise t.taskID, now, faults, n⟩ { s with clock := max s.clock now, legacy := t.taskID :: s.legacy }
  | work (nodeID : String) (w : Work) (now : Int) (faults : Faults Err) (n : Nat) (db : Database) (seat : Seat)
      (named : nodeID ≠ "") (new : ∀ id ∈ w.draws, id ∉ s.drawn)
      (taken : w.step o nodeID now faults n s.db (s.seats nodeID) = some (db, seat)) :
      Step o s ⟨.work nodeID w, now, faults, n⟩
        { s with db := db, clock := max s.clock now, drawn := w.draws ++ s.drawn
                 seats := Function.update s.seats nodeID seat }

/-- `t` is reached from `s` by events that meet `ok`. -/
def Reaches (o : Options) (ok : State → Event → Prop) : State → State → Prop := Sim.Run (Step o) ok

/-- A configured database before the first request. -/
structure Start (s : State) : Prop where
  tasks : s.db.tasks = []
  stages : s.db.stages = []
  attempts : s.db.attempts = []
  items : items s.db = []
  callbacks : s.db.callbacks = []
  keys : s.db.rows .idempotencyKeys = []
  uploads : s.db.uploadJobs = []
  runs : s.db.remoteRuns = []
  decided : s.decided = []
  legacy : s.legacy = []
  seats : ∀ nodeID, s.seats nodeID = .idle

/-! ## Given runs -/

instance (s : State) (d : Deed) : Decidable (d.Known s) := by
  cases d <;> dsimp only [Deed.Known] <;> infer_instance

/-- The state after the event, if it can happen. -/
def Event.next (o : Options) (s : State) (e : Event) : Option State :=
  match e.op with
  | .deed d =>
    if d.Known s then
      some { s with db := d.after o e.now e.faults e.statement s.db, clock := max s.clock e.now, minted := d.mints ++ s.minted
                    decided := d.decided s.decided }
    else none
  | .decide taskID =>
    match s.db.tasks.find? fun t => t.taskID == taskID && t.deletedAt == none && t.status.isTerminal with
    | some t => some { s with clock := max s.clock e.now, decided := t.taskID :: s.decided }
    | none => none
  | .abandon taskID => some { s with clock := max s.clock e.now, decided := s.decided.erase taskID }
  | .recognise taskID =>
    match s.db.tasks.find? fun t => t.taskID == taskID && t.protocolVersion == some .legacy && t.routeState == .ready with
    | some t => some { s with clock := max s.clock e.now, legacy := t.taskID :: s.legacy }
    | none => none
  | .work nodeID w =>
    if nodeID ≠ "" ∧ ∀ id ∈ w.draws, id ∉ s.drawn then
      match w.step o nodeID e.now e.faults e.statement s.db (s.seats nodeID) with
      | some (db, seat) =>
        some { s with db := db, clock := max s.clock e.now, drawn := w.draws ++ s.drawn
                      seats := Function.update s.seats nodeID seat }
      | none => none
    else none

theorem Event.step_of_next {o : Options} {s t : State} {e : Event} (h : e.next o s = some t) : Step o s e t := by
  obtain ⟨op, now, faults, n⟩ := e
  cases op with
  | deed d =>
    simp only [Event.next] at h
    split at h
    · rename_i known
      cases h
      exact .deed d now faults n known
    · cases h
  | decide taskID =>
    simp only [Event.next] at h
    split at h
    · rename_i t found
      cases h
      have met := List.find?_some found
      simp only [Bool.and_eq_true, beq_iff_eq] at met
      obtain ⟨⟨rfl, undeleted⟩, isOver⟩ := met
      exact .decide t now faults n (List.mem_of_find?_eq_some found) undeleted isOver
    · cases h
  | abandon taskID =>
    cases h
    exact .abandon taskID now faults n
  | recognise taskID =>
    simp only [Event.next] at h
    split at h
    · rename_i t found
      cases h
      have met := List.find?_some found
      simp only [Bool.and_eq_true, beq_iff_eq] at met
      obtain ⟨⟨rfl, protocol⟩, ready⟩ := met
      exact .recognise t now faults n (List.mem_of_find?_eq_some found) protocol ready
    · cases h
  | work nodeID w =>
    simp only [Event.next] at h
    split at h
    · rename_i valid
      split at h
      · rename_i db seat taken
        cases h
        exact .work nodeID w now faults n db seat valid.1 valid.2 taken
      · cases h
    · cases h

def State.after (o : Options) (s : State) (events : List Event) : State := Sim.after (Event.next o) s events

theorem Event.step_after {o : Options} {s : State} {e : Event} (possible : (e.next o s).isSome = true) : Step o s e (s.after o [e]) := by
  obtain ⟨t, next⟩ := Option.isSome_iff_exists.mp possible
  have last : s.after o [e] = t := by
    show (e.next o s).getD s = t
    rw [next]
    rfl
  exact last ▸ Event.step_of_next next

theorem reaches_of_meets {o : Options} {ok : State → Event → Prop} {s : State}
    {events : List Event} (met : Sim.Meets (Event.next o) ok s events) :
    Reaches o ok s (s.after o events) := Sim.run_after (fun _ _ _ => Event.step_of_next) met

theorem reaches_after {o : Options} {ok : State → Event → Prop} {s : State} (events : List Event) (met : ∀ e ∈ events, ∀ t, ok t e) :
    Reaches o ok s (s.after o events) := reaches_of_meets (Sim.meets_of_all met)

end MinimaxProxy.Service
