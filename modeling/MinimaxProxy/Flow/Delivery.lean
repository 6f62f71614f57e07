import MinimaxProxy.Flow.Placement

/-!
# A result and its upload job

The job is open while the task is `reconciling`, fails with it and succeeds with it, as long
as no administrator's cancel takes the general path for a remote task whose result waits for
its upload; official tasks are refused there (store.go:588). However a run goes, a round of a
job starts at most three attempts.
-/

namespace MinimaxProxy.Flow
open Sql Store

variable {db : Database} {j : Option UploadJob} {now : Int} {r : Option RemoteRun} {t : Option Task}

/-- A task and its job tell the same. -/
structure Delivers (t : Task) (j : UploadJob) : Prop where
  isOpen : UploadJob.isOpen j = true ↔ t.status = .reconciling
  failed : j.status = .failed ↔ t.status = .failed ∧ t.errorCode = some "result_upload_failed"
  succeeded : j.status = .succeeded ↔ t.status = .succeeded ∧ t.resultPublicURL = some j.publicURL

/-- Every undeleted task agrees with its job. -/
def DeliveryAgrees (db : Database) : Prop :=
  ∀ t ∈ db.tasks, t.deletedAt = none → ∀ j ∈ db.uploadJobs, j.taskID = t.taskID → Delivers t j

/-- No round of a job has started more than three attempts. -/
def ThreeAttempts (s : State) : Prop := ∀ id round, s.started.count (id, round) ≤ 3

section
variable {nodes : List Node} {t : Task} {r : Option RemoteRun} {j : UploadJob}

theorem delivers_open (status : UploadJob.isOpen j = true) (task : t.status = .reconciling) : Delivers t j := by
  refine ⟨by simp [status, task], ?_, ?_⟩
  all_goals
    rw [task]
    refine ⟨fun isOver => ?_, fun h => by cases h.1⟩
    rw [UploadJob.isOpen, isOver] at status
    cases status

theorem delivers_failed (status : j.status = .failed) (task : t.status = .failed)
    (code : t.errorCode = some "result_upload_failed") : Delivers t j := by
  constructor <;> simp [UploadJob.isOpen, status, task, code]

theorem delivers_succeeded (status : j.status = .succeeded) (task : t.status = .succeeded)
    (url : t.resultPublicURL = some j.publicURL) : Delivers t j := by
  constructor <;> simp [UploadJob.isOpen, status, task, url]

theorem Delivers.of_open (h : Delivers t j) (status : UploadJob.isOpen j = true) : t.status = .reconciling := h.isOpen.mp status

/-- Of the tasks in work only a `reconciling` one has a job. -/
theorem Delivers.of_taken (h : Delivers t j) (taken : t.status.isTaken = true) : t.status = .reconciling := by
  cases status : j.status with
  | failed => exact absurd taken (by rw [(h.failed.mp status).1]; decide)
  | succeeded => exact absurd taken (by rw [(h.succeeded.mp status).1]; decide)
  | _ => exact h.of_open (by simp [UploadJob.isOpen, status])

theorem Delivers.retask (t' : Task) (h : Delivers t j) (status : t'.status = t.status) (code : t'.errorCode = t.errorCode)
    (url : t'.resultPublicURL = t.resultPublicURL) : Delivers t' j := by
  obtain ⟨isOpen, failed, succeeded⟩ := h
  exact ⟨status ▸ isOpen, status ▸ code ▸ failed, status ▸ url ▸ succeeded⟩

end

def DeliversView : View → Prop
  | ⟨some t, _, some j⟩ => Delivers t j
  | _ => True

/-- Remote tasks whose result waits are not cancelled on the general path. -/
def notDelivering (t : Task) : Prop := ¬ (t.protocolVersion = some .tk2sd ∧ t.status = .reconciling)

variable {nodes : List Node} {v v' : View}

theorem delivers_undelivered {j j' : UploadJob} {message : String}
    (h : DeliversView ⟨t, r, some j⟩) (isOpen : UploadJob.isOpen j = true) (failed : j'.status = .failed) :
    DeliversView ⟨t.map (undelivered message now), r, some j'⟩ := by
  cases t with
  | none => trivial
  | some t =>
    have status := Delivers.of_open h isOpen
    show Delivers (undelivered message now t) j'
    rw [undelivered, if_pos status]
    exact delivers_failed failed rfl rfl

theorem delivers_delivery (h : DeliversView v) (moved : DeliveryMove v v') : DeliversView v' := by
  have uploading {j : UploadJob} (status : j.status = .uploading) : UploadJob.isOpen j = true := by
    rw [UploadJob.isOpen, status]
    rfl
  cases moved with
  | @upload t r j token lease now isOpen _ =>
    cases t with
    | none => trivial
    | some t => exact delivers_open rfl (Delivers.of_open h isOpen)
  | exhaust _ _ isOpen => exact delivers_undelivered h isOpen rfl
  | @defer t r j next code message now status =>
    cases t with
    | none => trivial
    | some t => exact delivers_open rfl (Delivers.of_open h (uploading status))
  | fail _ _ _ _ status => exact delivers_undelivered h (uploading status) rfl
  | store _ _ _ _ _ => exact delivers_succeeded rfl rfl rfl
  | retry _ _ _ _ => exact delivers_open rfl rfl

/-- A change that needs a free job: there is none to disagree with. -/
theorem delivers_of_none (none : j = none) :
    DeliversView ⟨t, r, j⟩ := by
  subst none
  cases t <;> trivial

theorem delivers_rerun {r' : Option RemoteRun} (h : DeliversView ⟨t, r, j⟩) :
    DeliversView ⟨t, r', j⟩ := by
  cases t with
  | none => trivial
  | some t =>
    cases j with
    | none => trivial
    | some j => exact h

/-- A change of the task that the job does not see. -/
theorem delivers_retask {t : Task} {t' : Task} {r' : Option RemoteRun} (h : DeliversView ⟨some t, r, j⟩)
    (status : t'.status = t.status) (code : t'.errorCode = t.errorCode) (url : t'.resultPublicURL = t.resultPublicURL) :
    DeliversView ⟨some t', r', j⟩ := by
  cases j with
  | none => trivial
  | some j => exact Delivers.retask t' h status code url

theorem delivers_leased {r : RemoteRun} {act : LeaseAct} (placed : PlacedView nodes v) (h : DeliversView v)
    (moved : LeasedMove r now act v v') : DeliversView v' := by
  cases moved with
  | renew _ _ _ => exact delivers_rerun h
  | release _ _ _ _ _ => exact delivers_rerun h
  | prepare _ _ _ _ => exact delivers_rerun h
  | begin _ _ _ => exact delivers_rerun h
  | bind _ _ _ _ occupies => exact delivers_of_none (Placed.no_job placed occupies.2.1)
  | observe _ _ _ => exact delivers_rerun h
  | @refuse t s j status _ _ =>
    cases t with
    | none => trivial
    | some t =>
      cases j with
      | none => trivial
      | some j =>
        have other : t.status ≠ .cancelling := by
          intro cancelling
          have reconciling := Delivers.of_taken h (by rw [cancelling]; rfl)
          rw [cancelling] at reconciling
          cases reconciling
        show Delivers (resumedTask now t) j
        rw [resumedTask, if_neg other]
        exact h
  | complete _ _ _ _ _ _ occupies => exact delivers_of_none (Placed.no_job placed occupies.2.1)
  | deliver c _ _ _ _ _ delivers _ _ =>
    exact delivers_open rfl (by simp [remoteCompletedTask, RemoteCompletion.taskStatus, delivers])

/-- An administrator's cancel on the general path finds no job: the task of an open one is on
an official node or a remote one. -/
theorem no_job_of_adminCancel {t : Task} (placed : Placed nodes t r j)
    (h : DeliversView ⟨some t, r, j⟩) (allowed : notDelivering t) (active : t.status.isActive = true)
    (free : heldByOfficial nodes t = false) : j = none := by
  cases j with
  | none => rfl
  | some j =>
    have reconciling : t.status = .reconciling := Delivers.of_taken h (by rw [TaskStatus.isTaken, active]; rfl)
    rcases placed.held (.inr rfl) with run | official
    · obtain ⟨s, rfl⟩ := Option.isSome_iff_exists.mp run
      exact absurd ⟨(placed.run s rfl).1, reconciling⟩ allowed
    · rw [free] at official
      cases official

theorem delivers_move (named : Named nodes) (placed : PlacedView nodes v) (h : DeliversView v)
    (moved : Move nodes notDelivering v v') : DeliversView v' := by
  cases moved with
  | create t fresh => exact delivers_of_none placed.2
  | rank _ _ queued => exact delivers_of_none (Placed.no_job_of_queued placed queued)
  | cancelQueued _ queued => exact delivers_of_none (Placed.no_job_of_queued placed queued)
  | delete now state => exact delivers_retask h rfl rfl rfl
  | adminCancelQueued _ queued => exact delivers_of_none (Placed.no_job_of_queued placed queued)
  | cancelStages now stages _ => exact delivers_of_none (placed_stages now named placed stages).2.2.2
  | adminCancel now allowed active _ free => exact delivers_of_none (no_job_of_adminCancel placed h allowed active free)
  | claimOfficial _ _ _ _ _ queued => exact delivers_of_none (Placed.no_job_of_queued placed queued)
  | saveBaseline _ _ _ _ => exact delivers_retask h rfl rfl rfl
  | bindOfficial _ _ official _ => exact delivers_of_none (Placed.no_job placed official.2)
  | generate _ _ _ official _ => exact delivers_of_none (Placed.no_job placed official.2)
  | deliver _ _ _ _ _ _ _ _ => exact delivers_open rfl rfl
  | failOfficial _ _ _ _ official _ => exact delivers_of_none (Placed.no_job placed official.2)
  | claimRemote _ _ _ _ _ _ queued => exact delivers_of_none (Placed.no_job_of_queued placed queued)
  | requestCancel _ _ _ _ slot _ => exact delivers_of_none (Placed.no_job placed slot)
  | updateResult u same =>
    rw [same]
    exact delivers_retask h rfl rfl rfl
  | delivery moved => exact delivers_delivery h moved

theorem delivers_change (named : Named nodes) (placed : PlacedView nodes v) (h : DeliversView v)
    (changed : Change nodes notDelivering v v') : DeliversView v' := by
  cases changed with
  | move moved => exact delivers_move named placed h moved
  | acquired token now moved =>
    cases moved with
    | acquire _ _ _ _ => exact delivers_rerun h
  | leased r now act moved => exact delivers_leased placed h moved

/-! ## Attempts -/

/-- A job stays; its round and, within the round, its attempts only go up. -/
def Grows : Option UploadJob → Option UploadJob → Prop
  | none, _ => True
  | some _, none => False
  | some j, some j' => j'.id = j.id ∧ (j.roundNo < j'.roundNo ∨ j.roundNo = j'.roundNo ∧ j.attemptNo ≤ j'.attemptNo)

theorem Grows.refl (j : Option UploadJob) : Grows j j := by
  cases j with
  | none => trivial
  | some j => exact ⟨rfl, .inr ⟨rfl, Int.le_refl _⟩⟩

theorem Grows.trans {a b c : Option UploadJob} (first : Grows a b) (last : Grows b c) : Grows a c := by
  cases a with
  | none => trivial
  | some a =>
    cases b with
    | none => exact first.elim
    | some b =>
      cases c with
      | none => exact last.elim
      | some c =>
        refine ⟨last.1.trans first.1, ?_⟩
        have round := first.2
        have round' := last.2
        omega

theorem grows_delivery (moved : DeliveryMove v v') : Grows v.job v'.job := by
  cases moved with
  | upload _ _ _ _ _ => exact ⟨rfl, .inr ⟨rfl, by simp only [claimedJob]; omega⟩⟩
  | exhaust _ _ _ => exact ⟨rfl, .inr ⟨rfl, Int.le_refl _⟩⟩
  | defer _ _ _ _ _ => exact ⟨rfl, .inr ⟨rfl, Int.le_refl _⟩⟩
  | fail _ _ _ _ _ => exact ⟨rfl, .inr ⟨rfl, Int.le_refl _⟩⟩
  | store _ _ _ _ _ => exact ⟨rfl, .inr ⟨rfl, Int.le_refl _⟩⟩
  | retry _ _ _ _ => exact ⟨rfl, .inl (by simp only [retriedJob]; omega)⟩

theorem grows_change {allowed : Task → Prop} (changed : Change nodes allowed v v') : Grows v.job v'.job := by
  cases changed with
  | move moved =>
    cases moved with
    | deliver => trivial
    | delivery moved => exact grows_delivery moved
    | _ => exact .refl _
  | acquired token now moved =>
    cases moved
    exact .refl _
  | leased r now act moved =>
    cases moved with
    | deliver => trivial
    | _ => exact .refl _

/-- The attempts that the job with this id may have started in a round. -/
def budget (db : Database) (id : String) (round : Int) : Int :=
  match db.uploadJobs.find? (·.id == id) with
  | none => 0
  | some j => if round < j.roundNo then 3 else if round = j.roundNo then j.attemptNo else 0

theorem job_checked {j : UploadJob} (mem : j ∈ db.uploadJobs) :
    0 ≤ j.attemptNo ∧ j.attemptNo ≤ 3 ∧ j.maxAttempts = 3 := by
  have checked : UploadJob.check j = true := (db Tbl.resultUploadJobs).checked j mem
  simp only [UploadJob.check, Bool.and_eq_true, decide_eq_true_eq, beq_iff_eq] at checked
  omega

theorem budget_le (db : Database) (id : String) (round : Int) : 0 ≤ budget db id round ∧ budget db id round ≤ 3 := by
  unfold budget
  split
  · decide
  · next j found =>
    have checked := job_checked (mem_of_find found)
    split
    · decide
    · split
      · exact ⟨checked.1, checked.2.1⟩
      · decide

theorem budget_of_mem {j : UploadJob} (mem : j ∈ db.uploadJobs) (round : Int) :
    budget db j.id round = if round < j.roundNo then 3 else if round = j.roundNo then j.attemptNo else 0 := by
  rw [budget, find_of_mem (job_ids_distinct db) mem]

theorem budget_mono {db' : Database} (grows : ∀ id, Grows (view db id).job (view db' id).job) {id : String} {round : Int} :
    budget db id round ≤ budget db' id round := by
  cases found : db.uploadJobs.find? (·.id == id) with
  | none =>
    have zero : budget db id round = 0 := by rw [budget, found]
    exact zero ▸ (budget_le db' id round).1
  | some j =>
    obtain rfl : j.id = id := key_of_find found
    have mem := mem_of_find found
    have grown := grows j.taskID
    rw [view_job_iff.mpr ⟨mem, rfl⟩] at grown
    cases after : (view db' j.taskID).job with
    | none =>
      rw [after] at grown
      exact grown.elim
    | some j' =>
      rw [after] at grown
      obtain ⟨same, round'⟩ := grown
      have mem' := (view_job_iff.mp after).1
      have checked := job_checked mem
      have checked' := job_checked mem'
      rw [budget_of_mem mem, ← same, budget_of_mem mem']
      split_ifs <;> omega

/-- A claim pays for the attempt it starts. -/
theorem budget_claim {leaseToken : String} {leaseDuration : Int} {db' : Database} {r : UploadJob}
    (out : (claimUploadJobBody leaseToken leaseDuration now).Returns db r db') :
    budget db' r.id r.roundNo = budget db r.id r.roundNo + 1 := by
  obtain ⟨job, mem, rfl, -, -, -, found, after, -⟩ := claimUploadJobBody_returns out
  have mem' : claimedJob leaseToken leaseDuration now job ∈ db'.uploadJobs :=
    (view_job_iff.mp (congrArg View.job after)).1
  have paid := budget_of_mem mem' job.roundNo
  have before := budget_of_mem mem job.roundNo
  simp only [claimedJob, Int.lt_irrefl, if_false, if_true] at paid before ⊢
  rw [paid, before]

/-- Only a claim that succeeds starts an attempt. -/
theorem starts_some {o : Options} {op : Service.Deed} {faults : Faults Err}
    {n : Nat} {p : String × Int} (started : starts now faults n db op = some p) :
    ∃ leaseToken leaseDuration r, (claimUploadJobBody leaseToken leaseDuration now).Returns db r (op.after o now faults n db) ∧
      p = (r.id, r.roundNo) := by
  cases op with
  | claimUploadJob leaseToken leaseDuration =>
    simp only [starts] at started
    split at started
    · next r result => exact ⟨leaseToken, leaseDuration, r, immediate_ok result, (Option.some.inj started).symm⟩
    · cases started
  | _ => cases started

/-- Every started attempt is within the budget of its round. -/
def Within (s : State) : Prop := ∀ id round, (s.started.count (id, round) : Int) ≤ budget s.db id round

variable {o : Options} {s t : State}

theorem within_event {e : Event} (none : s.db.attempts = []) (h : Within s) : Within (e.next o s) := by
  have changes : Changes (fun _ => True) s.db (e.next o s).db := Event.changes none fun _ _ _ _ _ _ _ => trivial
  have grows (id : String) : Grows (view s.db id).job (view (e.next o s).db id).job := by
    have all (v : View) (reached : Relation.ReflTransGen (Change s.db.nodes fun _ => True) (view s.db id) v) :
        Grows (view s.db id).job v.job := by
      induction reached with
      | refl => exact .refl _
      | tail _ changed ih => exact ih.trans (grows_change changed)
    exact all _ (changes.acts id)
  intro id round
  have kept := (h id round).trans (budget_mono grows)
  show (((starts e.now e.faults e.statement s.db e.op).toList ++ s.started).count (id, round) : Int) ≤ _
  cases started : starts e.now e.faults e.statement s.db e.op with
  | none => exact kept
  | some p =>
    obtain ⟨leaseToken, leaseDuration, r, out, rfl⟩ := starts_some (o := o) started
    rw [Option.toList_some, List.singleton_append, List.count_cons]
    by_cases this : (r.id, r.roundNo) = (id, round)
    · cases this
      have paid : budget (e.next o s).db r.id r.roundNo = _ := budget_claim out
      have before := h r.id r.roundNo
      simp only [beq_self_eq_true, if_true]
      omega
    · rw [if_neg (by simpa using this)]
      exact kept

/-- However a run goes, at most three attempts are started in each round. -/
theorem three_attempts (start : Start s) (run : Reaches o (fun _ _ => True) s t) : ThreeAttempts t := by
  have all := Sim.Run.invariant (fun t : State => t.db.attempts = [] ∧ Within t) (s := s) ⟨start.attempts, fun id round => by
    rw [start.started]
    exact (budget_le s.db id round).1⟩ (fun t e u h _ step => ?_) run
  · intro id round
    have within := all.2 id round
    have three := (budget_le t.db id round).2
    omega
  · subst step
    have changes : Changes (fun _ => True) t.db (e.next o t).db := Event.changes h.1 fun _ _ _ _ _ _ _ => trivial
    exact ⟨changes.attempts h.1, within_event h.1 h.2⟩

/-- In every run in which no administrator's cancel takes the general path for a remote task
whose result waits, every undeleted task agrees with its job, and no round of a job starts
more than three attempts. -/
theorem delivery_agrees (start : Start s) (run : Reaches o (fun s e => e.Allows notDelivering s) s t) :
    DeliveryAgrees t.db ∧ ThreeAttempts t := by
  have all := run.views (J := fun nodes v => PlacedView nodes v ∧ DeliversView v) (fun _ => ⟨⟨rfl, rfl⟩, trivial⟩)
    (fun nodes v v' named h changed => ⟨placed_change named h.1 changed, delivers_change named h.1 h.2 changed⟩) start
  refine ⟨fun u mem _ j stored same => ?_, three_attempts start (run.mono fun _ _ _ => trivial)⟩
  have delivers := (all.2 u.taskID).2
  rw [show view t.db u.taskID = ⟨some u, (view t.db u.taskID).run, some j⟩ from by
    rw [← view_task_iff.mpr ⟨mem, rfl⟩, ← view_job_iff.mpr ⟨stored, same⟩]] at delivers
  exact delivers

/-- A run that meets the condition and has started an attempt. -/
theorem delivery_agrees_run : (remoteConfig.after remoteOptions remoteUpload).started = [("j1", 1)] ∧
      DeliveryAgrees (remoteConfig.after remoteOptions remoteUpload).db ∧
      ThreeAttempts (remoteConfig.after remoteOptions remoteUpload) := by
  refine ⟨by decide +kernel, delivery_agrees remoteConfig_start (reaches_list fun e mem s => Event.allows_other ?_)⟩
  have none : remoteUpload.all (!isAdminCancel ·.op) = true := rfl
  simpa using List.all_eq_true.mp none e mem

/-- Without the condition: the administrator's cancel leaves the job open under a task that
is no longer `reconciling`. -/
theorem general_cancel_strands_job :
    Start remoteConfig ∧ Reaches remoteOptions (fun _ _ => True) remoteConfig cancelledDelivery ∧
      ¬ DeliveryAgrees cancelledDelivery.db := by
  refine ⟨remoteConfig_start, cancelledDelivery_reached, fun agrees => ?_⟩
  have rows : (cancelledDelivery.db.tasks.map fun t => (t.taskID, t.status, t.deletedAt)) = [("t1", .cancelling, none)] := by
    decide +kernel
  have jobs : (cancelledDelivery.db.uploadJobs.map fun j => (j.taskID, j.status)) = [("t1", .pending)] := by decide +kernel
  obtain ⟨t, only, row⟩ := List.map_eq_singleton_iff.mp rows
  obtain ⟨j, single, job⟩ := List.map_eq_singleton_iff.mp jobs
  simp only [Prod.mk.injEq] at row job
  have delivers := agrees t (by rw [only]; simp) row.2.2 j (by rw [single]; simp) (job.1.trans row.1.symm)
  have reconciling := delivers.of_open (by rw [UploadJob.isOpen, job.2]; rfl)
  rw [row.2.1] at reconciling
  cases reconciling

end MinimaxProxy.Flow
