import MinimaxProxy.Flow.Placement

/-!
# Cancelling in both tables

A remote task is `cancelling` when its run says that a cancel is requested. The two agree as
long as no administrator's cancel takes the general path for a remote task in work:
`RequestAdminCancel` (store.go:564) chooses the path by the slot it read before, and the
general path marks any active task.
-/

namespace MinimaxProxy.Flow
open Sql Store

/-- The tables agree on which remote tasks are being cancelled. -/
def CancelAgrees (db : Database) : Prop :=
  ∀ t ∈ db.tasks, t.protocolVersion = some .tk2sd →
    (t.status = .cancelling ↔ ∃ s ∈ db.remoteRuns,
      s.taskID = t.taskID ∧ s.phase ≠ .terminal ∧ s.cancelState = .requested ∧ t.upstreamSlotActive = true)

/-- The task and its run agree. -/
def Agrees (t : Task) (r : Option RemoteRun) : Prop :=
  t.protocolVersion = some .tk2sd → (t.status = .cancelling ↔ ∃ s, r = some s ∧ s.phase ≠ .terminal ∧ s.cancelState = .requested)

def AgreesView : View → Prop
  | ⟨none, _, _⟩ => True
  | ⟨some t, r, _⟩ => Agrees t r

section
variable {nodes : List Node} {t : Task} {r : Option RemoteRun} {j : Option UploadJob}

theorem agrees_of_protocol (other : t.protocolVersion ≠ some .tk2sd) : Agrees t r := fun remote => absurd remote other

/-- A task without a slot has no open run. -/
theorem agrees_of_free (h : Placed nodes t r j) (free : t.upstreamSlotActive = false) (status : t.status ≠ .cancelling) :
    Agrees t r := by
  refine fun _ => ⟨fun cancelling => absurd cancelling status, ?_⟩
  rintro ⟨s, rfl, phase, -⟩
  have slot := (h.run s rfl).2.2.2.mpr phase
  exact absurd slot (by rw [free]; decide)

theorem Agrees.retask (t' : Task) (h : Agrees t r) (protocol : t'.protocolVersion = t.protocolVersion)
    (status : t'.status = .cancelling ↔ t.status = .cancelling) : Agrees t' r := by
  unfold Agrees
  rw [protocol, status]
  exact h

theorem agrees_rerun {t : Option Task} {s s' : RemoteRun}
    (h : AgreesView ⟨t, some s, j⟩) (phase : s'.phase ≠ .terminal ↔ s.phase ≠ .terminal)
    (cancel : s'.cancelState = s.cancelState) : AgreesView ⟨t, some s', j⟩ := by
  cases t with
  | none => trivial
  | some t =>
    intro remote
    refine (h remote).trans ⟨?_, ?_⟩
    · rintro ⟨_, ⟨⟩, isOpen, requested⟩
      exact ⟨s', rfl, phase.mpr isOpen, cancel.trans requested⟩
    · rintro ⟨_, ⟨⟩, isOpen, requested⟩
      exact ⟨s, rfl, phase.mp isOpen, cancel.symm.trans requested⟩

end

variable {nodes : List Node} {v v' : View}

theorem agrees_leased {r : RemoteRun} {now : Int} {act : LeaseAct} (h : AgreesView v) (placed' : PlacedView nodes v')
    (moved : LeasedMove r now act v v') : AgreesView v' := by
  cases moved with
  | renew _ _ _ => exact agrees_rerun h Iff.rfl rfl
  | release _ _ _ _ _ => exact agrees_rerun h Iff.rfl rfl
  | prepare _ _ phase _ => exact agrees_rerun h (by simp [phase]) rfl
  | begin _ _ phase => exact agrees_rerun h (by rcases phase with phase | ⟨phase, -⟩ <;> simp [phase]) rfl
  | @bind t s j id _ phase _ _ =>
    refine agrees_rerun (s := s) ?_ (by simp [phase]) rfl
    refine Agrees.retask (boundTask id now t) h rfl ?_
    show (if t.status = .cancelling then t.status else .running) = _ ↔ _
    split
    · rfl
    · next running => simp [running]
  | observe _ _ _ => exact agrees_rerun h Iff.rfl rfl
  | @refuse t s j status _ phase =>
    cases t with
    | none => trivial
    | some t =>
      intro _
      refine ⟨fun cancelling => ?_, ?_⟩
      · have status : (resumedTask now t).status ≠ .cancelling := by
          unfold resumedTask
          split
          · exact nofun
          · assumption
        exact absurd cancelling status
      · rintro ⟨_, ⟨⟩, -, requested⟩
        cases requested
  | complete c _ _ _ _ _ _ => exact agrees_of_free placed' rfl (taskStatus_over).2
  | deliver c _ _ _ _ _ _ _ _ => exact agrees_of_free placed' rfl (taskStatus_over).2

/-- The end of an upload leaves `cancelling` as it is: it only turns `reconciling` tasks. -/
theorem agrees_undelivered {t : Option Task} {r : Option RemoteRun} {j j' : Option UploadJob} {message : String} {now : Int}
    (h : AgreesView ⟨t, r, j⟩) : AgreesView ⟨t.map (undelivered message now), r, j'⟩ := by
  cases t with
  | none => trivial
  | some t =>
    show Agrees (undelivered message now t) r
    unfold undelivered
    split
    · next reconciling => exact Agrees.retask _ h rfl (by simp [undeliveredTask, reconciling])
    · exact h

theorem agrees_delivery (h : AgreesView v) (moved : DeliveryMove v v') : AgreesView v' := by
  cases moved with
  | @upload t r j _ _ _ _ _ => cases t <;> exact h
  | exhaust _ _ _ => exact agrees_undelivered h
  | @defer t r j _ _ _ _ _ => cases t <;> exact h
  | fail _ _ _ _ _ => exact agrees_undelivered h
  | store _ _ _ _ reconciling => exact Agrees.retask _ h rfl (by simp [deliveredTask, reconciling])
  | retry _ _ failed _ => exact Agrees.retask _ h rfl (by simp [retriedTask, failed])

/-- Remote tasks in work are not cancelled on the general path. -/
def notRemote (t : Task) : Prop := t.protocolVersion ≠ some .tk2sd

theorem agrees_move (named : Named nodes) (placed : PlacedView nodes v) (placed' : PlacedView nodes v') (h : AgreesView v)
    (moved : Move nodes notRemote v v') : AgreesView v' := by
  cases moved with
  | create t fresh => exact agrees_of_free placed' fresh.slot (by rw [fresh.status]; decide)
  | @rank t r j locked now queued =>
    have free := Placed.slot_of_queued placed queued
    exact agrees_of_free placed' free (by cases locked <;> simp [rankedTask])
  | cancelQueued now queued =>
    have free := Placed.slot_of_queued placed queued
    exact agrees_of_free placed' free (fun h => by cases h)
  | delete now state => exact Agrees.retask _ h rfl Iff.rfl
  | adminCancelQueued now queued =>
    have free := Placed.slot_of_queued placed queued
    exact agrees_of_free placed' free (fun h => by cases h)
  | cancelStages now stages _ =>
    obtain ⟨-, -, free, -⟩ := placed_stages now named placed stages
    exact agrees_of_free placed' free (fun h => by cases h)
  | adminCancel now other _ _ _ => exact agrees_of_protocol other
  | claimOfficial _ _ _ _ official _ => exact agrees_of_protocol (by simp [officialClaimedTask, official])
  | saveBaseline _ _ official _ => exact agrees_of_protocol (by simp [officialSavedTask, official.1])
  | bindOfficial _ _ official _ => exact agrees_of_protocol (by simp [officialBoundTask, official.1])
  | generate _ _ _ official _ => exact agrees_of_protocol (by simp [officialGeneratedTask, official.1])
  | deliver _ _ _ _ _ _ official _ => exact agrees_of_protocol (by simp [officialGeneratedTask, official.1])
  | failOfficial _ _ _ _ official _ => exact agrees_of_protocol (by simp [officialFailedTask, official.1])
  | claimRemote node key now _ _ _ _ =>
    refine fun _ => ⟨(fun h => by cases h), ?_⟩
    rintro ⟨_, ⟨⟩, -, requested⟩
    cases requested
  | requestCancel now phase _ _ _ _ => exact fun _ => ⟨fun _ => ⟨_, rfl, phase, rfl⟩, fun _ => rfl⟩
  | updateResult u same =>
    rw [same]
    exact Agrees.retask _ h rfl Iff.rfl
  | delivery moved => exact agrees_delivery h moved

theorem agrees_change (named : Named nodes) (placed : PlacedView nodes v) (placed' : PlacedView nodes v') (h : AgreesView v)
    (changed : Change nodes notRemote v v') : AgreesView v' := by
  cases changed with
  | move moved => exact agrees_move named placed placed' h moved
  | acquired token now moved =>
    cases moved with
    | acquire _ _ _ _ => exact agrees_rerun h Iff.rfl rfl
  | leased r now act moved => exact agrees_leased h placed' moved

/-- In every run in which no administrator's cancel takes the general path for a remote task
in work, the tables agree in every state. -/
theorem cancelling_iff_requested {o : Options} {s t : State} (start : Start s)
    (run : Reaches o (fun s e => e.Allows notRemote s) s t) : CancelAgrees t.db := by
  have all := run.views (J := fun nodes v => PlacedView nodes v ∧ AgreesView v) (fun _ => ⟨⟨rfl, rfl⟩, trivial⟩)
    (fun nodes v v' named h changed =>
      have placed' := placed_change named h.1 changed
      ⟨placed', agrees_change named h.1 placed' h.2 changed⟩) start
  intro u mem remote
  have found : (view t.db u.taskID).task = some u := view_task_iff.mpr ⟨mem, rfl⟩
  have holds := all.2 u.taskID
  rw [View.eq_mk found rfl] at holds
  obtain ⟨placed, agrees⟩ := holds
  rw [agrees remote]
  constructor
  · rintro ⟨r, run, phase, requested⟩
    obtain ⟨mem, same⟩ := view_run_iff.mp run
    exact ⟨r, mem, same, phase, requested, (placed.run r run).2.2.2.mpr phase⟩
  · rintro ⟨r, mem, same, phase, requested, -⟩
    exact ⟨r, view_run_iff.mpr ⟨mem, same⟩, phase, requested⟩

/-- The claimed task is cancelled by request. -/
def remoteCancel : List Event := remoteClaim ++ [⟨.requestRemoteCancel "t1", 1000, noFaults, 0, rfl⟩]

/-- A run that meets the condition and has a task that is cancelling. -/
theorem cancelling_iff_requested_run : (∃ t ∈ (remoteConfig.after remoteOptions remoteCancel).db.tasks,
      t.protocolVersion = some .tk2sd ∧ t.status = .cancelling) ∧
    CancelAgrees (remoteConfig.after remoteOptions remoteCancel).db := by
  refine ⟨by decide +kernel, cancelling_iff_requested remoteConfig_start (reaches_list fun e mem s => Event.allows_other ?_)⟩
  have none : remoteCancel.all (!isAdminCancel ·.op) = true := rfl
  simpa using List.all_eq_true.mp none e mem

/-- Without the condition: the result of a remote task waits for its upload, the slot is
free, and the administrator's cancel marks the task as cancelling with its run ended. -/
theorem general_cancel_disagrees :
    Start remoteConfig ∧ Reaches remoteOptions (fun _ _ => True) remoteConfig cancelledDelivery ∧
      ¬ CancelAgrees cancelledDelivery.db := by
  refine ⟨remoteConfig_start, cancelledDelivery_reached, fun agrees => ?_⟩
  have rows : (cancelledDelivery.db.tasks.map fun t => (t.protocolVersion, t.status, t.upstreamSlotActive)) =
    [(some .tk2sd, .cancelling, false)] := by decide +kernel
  obtain ⟨t, only, row⟩ := List.map_eq_singleton_iff.mp rows
  simp only [Prod.mk.injEq] at row
  obtain ⟨remote, cancelling, free⟩ := row
  obtain ⟨s, -, -, -, -, slot⟩ := (agrees t (by rw [only]; simp) remote).mp cancelling
  rw [free] at slot
  cases slot

end MinimaxProxy.Flow
