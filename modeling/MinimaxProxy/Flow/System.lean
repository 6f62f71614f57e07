import MinimaxProxy.Service.System
import MinimaxProxy.Store.DeliveryMoves
import MinimaxProxy.Store.OfficialMoves

/-!
# The life of official and remote tasks

Handlers, node workers and upload workers share the database through one connection
(store.go:53), so a run interleaves their transactions and single statements in any order.
Operations of several parts appear as their parts: `RequestAdminCancel` reads the slot of
the task first and may act on an outdated or a failed read, hence `requestRemoteCancel` and
`adminCancel` are steps of their own; `ClaimResultUploadJob` recovers exhausted jobs and then
claims one. The clock and the failures of statements are free at every step. The nodes and
their catalogs are those of the start.
-/

namespace MinimaxProxy.Flow
open Sql Store

variable {db db' : Database} {e : Event} {faults : Faults Err} {n : Nat} {now : Int} {s : State}

/-- The deeds of a run: those of API handlers, official workers, remote workers, upload workers
and the administrator's retry. -/
def ofRun : Service.Deed → Bool
  | .create .. | .cancelQueued .. | .requestTaskDeletion .. | .adminCancel .. | .requestRemoteCancel .. => true
  | .claimNextOfficial .. | .saveOfficialSubmissionBaseline .. | .bindOfficialTask .. | .markOfficialGenerated ..
  | .markOfficialFailed .. => true
  | .claimNextRemote .. | .acquireRemoteLease .. | .renewRemoteLease .. | .releaseRemoteLease .. | .saveRemoteAsset ..
  | .prepareRemoteRequest .. | .beginRemoteSubmission .. | .bindRemoteTask .. | .observeRemoteTask .. | .completeRemoteRun ..
  | .updateRemoteResult .. => true
  | .recoverExhaustedResultUploads .. | .claimUploadJob .. | .failResultUploadAttempt .. | .completeResultUpload ..
  | .retryResultUpload .. => true
  | _ => false

/-- The upload attempt that the deed starts: the job and its round. -/
def starts (now : Int) (faults : Faults Err) (n : Nat) (db : Database) : Service.Deed → Option (String × Int)
  | .claimUploadJob leaseToken leaseDuration =>
    match (immediate (claimUploadJobBody leaseToken leaseDuration now) faults n db).result with
    | .ok j => some (j.id, j.roundNo)
    | .error _ => none
  | _ => none

/-- The database, and the upload attempts started so far. -/
structure State where
  db : Database
  started : List (String × Int) := []

/-- One deed with the time and the failures it meets. -/
structure Event where
  op : Service.Deed
  now : Int
  faults : Faults Err := noFaults
  statement : Nat := 0
  isOp : ofRun op = true

def Event.next (o : Options) (s : State) (e : Event) : State where
  db := e.op.after o e.now e.faults e.statement s.db
  started := (starts e.now e.faults e.statement s.db e.op).toList ++ s.started

/-- `t` is reached from `s` by events that meet `ok`. -/
def Reaches (o : Options) (ok : State → Event → Prop) : State → State → Prop :=
  Sim.Run (fun s e t => t = e.next o s) ok

/-- A configured database before the first request. -/
structure Start (s : State) : Prop where
  tasks : s.db.tasks = []
  runs : s.db.remoteRuns = []
  jobs : s.db.uploadJobs = []
  attempts : s.db.attempts = []
  started : s.started = []

/-! ## The administrator's cancel -/

section
variable {o : Options} {s : State}

theorem reaches_after (op : Service.Deed) (isOp : ofRun op = true) (idle : starts now faults n s.db op = none) :
    Reaches o (fun _ _ => True) s { s with db := op.after o now faults n s.db } := by
  have step : Reaches o (fun _ _ => True) s (Event.next o s ⟨op, now, faults, n, isOp⟩) := .tail _ .refl trivial rfl
  rwa [Event.next, idle] at step

/-- The whole call is a run. -/
theorem requestAdminCancel_reaches {taskID callbackID : String} :
    Reaches o (fun _ _ => True) s { s with db := (requestAdminCancel o taskID callbackID now faults n s.db).db } := by
  have reads : (Prog.direct (Prog.attempt (Prog.select (remoteSlot taskID)) : Prog (Except Err Bool))).ReadOnly :=
    direct_readOnly (by simp)
  unfold requestAdminCancel
  rcases reads.bind_db _ faults n s.db with same | ⟨seen, m, went⟩
  · rw [same]
    exact .refl
  · rw [went]
    split
    · exact reaches_after (.requestRemoteCancel taskID) rfl rfl
    · exact reaches_after (.adminCancel taskID callbackID) rfl rfl

end

/-! ## What an event does -/

variable {allowed : Task → Prop} {o : Options}

/-- The event is no administrator's cancel on the general path, or the task it would mark as
cancelling is an `allowed` one. -/
def Event.Allows (allowed : Task → Prop) (s : State) (e : Event) : Prop :=
  ∀ taskID callbackID, e.op = .adminCancel taskID callbackID →
    ∀ t ∈ s.db.tasks, t.taskID = taskID → t.status.isActive = true → allowed t

def isAdminCancel : Service.Deed → Bool
  | .adminCancel _ _ => true
  | _ => false

theorem Event.allows_other (other : isAdminCancel e.op = false) : e.Allows allowed s := by
  intro taskID callbackID general
  rw [general] at other
  cases other

/-- A change of a remote worker or of anyone else. -/
inductive Change (nodes : List Node) (allowed : Task → Prop) (v v' : View) : Prop
  | move : Move nodes allowed v v' → Change nodes allowed v v'
  | acquired (token : String) (now : Int) : AcquireMove token now v v' → Change nodes allowed v v'
  | leased (r : RemoteRun) (now : Int) (act : LeaseAct) : LeasedMove r now act v v' → Change nodes allowed v v'

/-- What every event does to the database. -/
structure Changes (allowed : Task → Prop) (db db' : Database) : Prop extends Frame db db' where
  acts : ∀ id, Relation.ReflTransGen (Change db.nodes allowed) (view db id) (view db' id)

theorem Changes.of_behaves (h : Behaves allowed db db') : Changes allowed db db' :=
  ⟨h.toFrame, fun id => Relation.ReflTransGen.mono (fun _ _ moved => Change.move moved) _ _ (h.acts id)⟩

theorem Changes.of_only {k : String} {M : View → View → Prop} (h : Only k M db db') (frame : Frame db db')
    (le : ∀ v v', M v v' → Change db.nodes allowed v v') : Changes allowed db db' := by
  refine ⟨frame, fun id => ?_⟩
  rcases h id with same | ⟨-, moved⟩
  · rw [same]
  · exact .single (le _ _ moved)

theorem Changes.of_leased {r : RemoteRun} {act : LeaseAct}
    (h : Only r.taskID (LeasedMove r now act) db db') (frame : Frame db db') : Changes allowed db db' :=
  .of_only h frame fun _ _ => .leased r now act

/-- An operation of a remote worker on the run it has, or wants, the lease of. -/
def isWorker : Service.Deed → Bool
  | .acquireRemoteLease .. | .renewRemoteLease .. | .releaseRemoteLease .. | .saveRemoteAsset .. | .prepareRemoteRequest ..
  | .beginRemoteSubmission .. | .bindRemoteTask .. | .observeRemoteTask .. | .completeRemoteRun .. => true
  | _ => false

theorem Event.behaves (none : s.db.attempts = []) (ok : e.Allows allowed s)
    (other : isWorker e.op = false) : Behaves allowed s.db (e.next o s).db := by
  obtain ⟨op, now, faults, n, isOp⟩ := e
  cases op with
  | create => exact create_behaves
  | cancelQueued => exact cancelQueued_behaves
  | requestTaskDeletion => exact requestTaskDeletion_behaves
  | adminCancel taskID callbackID =>
    refine adminCancel_behaves none fun t found active => ?_
    exact ok taskID callbackID rfl t (mem_of_find found) (key_of_find found) active
  | requestRemoteCancel => exact requestRemoteCancel_only.behaves (framing_immediate (by simp [requestRemoteCancelBody]) ..) fun _ _ => id
  | claimNextOfficial => exact claimNextOfficial_behaves ..
  | saveOfficialSubmissionBaseline => exact saveOfficialSubmissionBaseline_only.behaves (framing_direct (by simp) ..) fun _ _ => id
  | bindOfficialTask => exact bindOfficialTask_only.behaves (framing_direct (by simp) ..) fun _ _ => id
  | markOfficialGenerated => exact markOfficialGenerated_behaves ..
  | markOfficialFailed => exact markOfficialFailed_behaves
  | claimNextRemote => exact claimNextRemote_behaves
  | updateRemoteResult => exact updateRemoteResult_only.behaves (framing_ite fail_framing (framing_direct (by simp)) ..) fun _ _ => id
  | recoverExhaustedResultUploads => exact recoverExhaustedResultUploads_behaves ..
  | claimUploadJob => exact claimUploadJob_behaves ..
  | failResultUploadAttempt => exact failResultUploadAttempt_behaves ..
  | completeResultUpload => exact completeResultUpload_behaves ..
  | retryResultUpload => exact retryResultUpload_behaves ..
  | _ => first | (cases isOp; done) | cases other

theorem Event.changes (none : s.db.attempts = []) (ok : e.Allows allowed s) :
    Changes allowed s.db (e.next o s).db := by
  cases worker : isWorker e.op with
  | false => exact .of_behaves (Event.behaves none ok worker)
  | true =>
    obtain ⟨op, now, faults, n, _⟩ := e
    cases op with
    | acquireRemoteLease =>
      exact .of_only acquireRemoteLease_only (framing_ite fail_framing
        (framing_immediate (by simp [acquireRemoteLeaseBody])) ..) fun _ _ => .acquired _ _
    | renewRemoteLease => exact .of_leased renewRemoteLease_only (framing_ite fail_framing (framing_direct (by simp [leasedUpdate])) ..)
    | releaseRemoteLease => exact .of_leased releaseRemoteLease_only (framing_direct (by simp [leasedUpdate]) ..)
    | saveRemoteAsset r a =>
      refine ⟨framing_ite fail_framing (framing_direct (by simp)) faults n s.db, fun id => ?_⟩
      have same := saveRemoteAsset_view r a now faults n s.db id
      exact same ▸ .refl
    | prepareRemoteRequest =>
      exact .of_leased prepareRemoteRequest_only (framing_ite
        fail_framing (framing_direct (by simp [leasedUpdate])) ..)
    | beginRemoteSubmission => exact .of_leased beginRemoteSubmission_only (framing_direct (by simp [leasedUpdate]) ..)
    | bindRemoteTask =>
      exact .of_leased bindRemoteTask_only (framing_ite fail_framing
        (framing_immediate (by simp [bindRemoteTaskBody, leasedUpdate])) ..)
    | observeRemoteTask =>
      exact .of_leased observeRemoteTask_only (framing_ite fail_framing (framing_ite fail_framing (framing_immediate
        (by simp [observeRemoteTaskBody, leasedUpdate]))) ..)
    | completeRemoteRun => exact .of_leased completeRemoteRun_only (completeRemoteRun_framing ..)
    | _ => cases worker

/-! ## Invariants of views -/

theorem Start.view (start : Start s) (id : String) : view s.db id = ⟨none, none, none⟩ := by
  simp [Store.view, findTask, findRun, findUploadJob, start.tasks, start.runs, start.jobs]

/-- The nodes as the table holds them: each has a name. -/
def Named (nodes : List Node) : Prop := ∀ n ∈ nodes, n.id ≠ ""

theorem nodes_named : Named db.nodes := by
  intro n mem empty
  have checked : Node.check n = true := (db Tbl.modelServiceNodes).checked n mem
  simp [Node.check, empty] at checked

/-- What the empty view has and every change keeps holds of every view that is reached. -/
theorem Reaches.views {J : List Node → View → Prop} (empty : ∀ nodes, J nodes ⟨none, none, none⟩)
    (keeps : ∀ nodes v v', Named nodes → J nodes v → Change nodes allowed v v' → J nodes v') {t : State} (start : Start s)
    (run : Reaches o (fun s e => e.Allows allowed s) s t) : t.db.attempts = [] ∧ ∀ id, J t.db.nodes (view t.db id) := by
  refine Sim.Run.invariant (fun t : State => t.db.attempts = [] ∧ ∀ id, J t.db.nodes (view t.db id)) ?_ ?_ run
  · exact ⟨start.attempts, fun id => start.view id ▸ empty _⟩
  · rintro t e u ⟨none, holds⟩ ok rfl
    have changes : Changes allowed t.db (e.next o t).db := Event.changes none ok
    refine ⟨changes.attempts none, fun id => ?_⟩
    have all (v : View) (reached : Relation.ReflTransGen (Change t.db.nodes allowed) (view t.db id) v) : J t.db.nodes v := by
      induction reached with
      | refl => exact holds id
      | tail _ changed ih => exact keeps _ _ _ nodes_named ih changed
    exact changes.nodes ▸ all _ (changes.acts id)

/-! ## One remote task with a delivered result -/

def State.after (o : Options) (s : State) (events : List Event) : State := Sim.after (fun s e => some (Event.next o s e)) s events

theorem reaches_list {ok : State → Event → Prop} {events : List Event}
    (met : ∀ e ∈ events, ∀ s, ok s e) : Reaches o ok s (s.after o events) :=
  Sim.run_after (fun _ _ _ next => (Option.some.inj next).symm) (Sim.meets_of_all met)

/-- A remote node that wants its results stored, with one model. -/
def remoteConfig : State where
  db := DB.empty.load
    [.insert Tbl.modelServiceNodes fun _ _ =>
      [{ id := "n1", serviceURL := "https://n1", protocolVersion := .tk2sd, replaceResultURL := true
         apiKeyCiphertext := some "c", apiKeyNonce := some "n", apiKeyFingerprint := some "f", apiKeyID := some "i"
         createdAt := 0, updatedAt := 0 }],
    .insert Tbl.nodeModelCatalogs fun _ _ =>
      [{ nodeID := "n1", source := .builtin, connectionFingerprint := catalogFingerprint .tk2sd "https://n1" "f"
         lastStatus := .ready, lastSuccessAt := some 0, createdAt := 0, updatedAt := 0 }],
    .insert Tbl.nodeModels fun _ _ =>
      [{ nodeID := "n1", modelID := "sd-2", enabled := true
         capabilitiesJSON := .value { modes := [{ scenario := "t2va", durations := [4] }] }, createdAt := 0, updatedAt := 0 }],
    .insert Tbl.routingState fun _ _ => [{ instanceID := "i1", revision := 1, updatedAt := 0 }]]

theorem remoteConfig_start : Start remoteConfig := ⟨rfl, rfl, rfl, rfl, rfl⟩

def remoteRequest : NewTask :=
  { protocolVersion := some .tk2sd, taskID := "t1", apiKeyID := "k1", model := "sd-2", scenario := "t2va"
    requestJSON := .value { model := "sd-2", content := [] }, requestHash := "h", resolution := "", ratio := "", duration := 4 }

/-- The copy of the run that the worker with the lease has. -/
def remoteLease : RemoteRun :=
  { taskID := "t1", nodeID := "n1", phase := .preparing, submissionKey := "proxy:i1:t1", leaseToken := some "w1"
    leaseExpiresAt := some 61, createdAt := 1, updatedAt := 1 }

def remoteCreate : Event := ⟨.create (fun _ => true) remoteRequest "" none, 1000, noFaults, 0, rfl⟩

/-- The task is created and claimed, and a worker takes its lease. -/
def remoteClaim : List Event :=
  [remoteCreate, ⟨.claimNextRemote "n1" 1 1 [], 1000, noFaults, 0, rfl⟩,
   ⟨.acquireRemoteLease "t1" "n1" "w1" 60, 1000, noFaults, 0, rfl⟩]

/-- The worker submits it and sees it succeed; the result waits for its upload. -/
def remoteDelivery : List Event :=
  remoteClaim ++
  [⟨.prepareRemoteRequest remoteLease "b" true, 1000, noFaults, 0, rfl⟩, ⟨.beginRemoteSubmission remoteLease, 1000, noFaults, 0, rfl⟩,
   ⟨.bindRemoteTask remoteLease "u1", 1000, noFaults, 0, rfl⟩,
   ⟨.completeRemoteRun remoteLease
      { status := .succeeded, resultURL := "https://n1/v"
        uploadJob := some (newUploadJob "j1" "t1" "o" 1000) } "c1", 1000, noFaults, 0, rfl⟩]

/-- An upload worker takes the job of the finished task. -/
def remoteUpload : List Event := remoteDelivery ++ [⟨.claimUploadJob "w2" 60000, 1000, noFaults, 0, rfl⟩]

def remoteOptions : Options := ⟨1, 10, 10, 86400, 3600⟩

/-- An administrator cancels the task while its result waits. -/
def cancelledDelivery : State where
  db := (requestAdminCancel remoteOptions "t1" "c2" 1000 noFaults 0 (remoteConfig.after remoteOptions remoteDelivery).db).db

theorem cancelledDelivery_reached : Reaches remoteOptions (fun _ _ => True) remoteConfig cancelledDelivery := by
  have delivered : Reaches remoteOptions (fun _ _ => True) remoteConfig (remoteConfig.after remoteOptions remoteDelivery) :=
    reaches_list fun _ _ _ => trivial
  exact delivered.trans requestAdminCancel_reaches

end MinimaxProxy.Flow
