import MinimaxProxy.Service.Finality

/-!
# Slots of remote tasks

A slot of a remote node is taken with the run of the task, in one transaction, and given back when
the run ends. In between, everyone else may rank, cancel or delete tasks. What a task and its run
say about each other is looked at id by id.
-/

namespace MinimaxProxy.Store
open Sql Sql.Prog

variable {c c' : Core} {db db' : Database} {now : Int} {v v' : View}

/-- The task holds a slot for a remote run. -/
def RemoteSlot (t : Task) : Prop := t.protocolVersion = some .tk2sd ∧ t.upstreamSlotActive = true

/-- An open run has its slot, and a slot its open run. -/
structure View.Fits (v : View) : Prop where
  held : ∀ s, v.run = some s → s.phase ≠ .terminal → ∃ t, v.task = some t ∧ RemoteSlot t ∧ t.upstreamID = some s.nodeID
  run : ∀ t, v.task = some t → RemoteSlot t → ∃ s, v.run = some s ∧ s.phase ≠ .terminal

/-- The task keeps its place. -/
structure SamePlace (t t' : Task) : Prop where
  protocol : t'.protocolVersion = t.protocolVersion
  slot : t'.upstreamSlotActive = t.upstreamSlotActive
  node : t'.upstreamID = t.upstreamID

theorem SamePlace.refl (t : Task) : SamePlace t t := ⟨rfl, rfl, rfl⟩

theorem SamePlace.remoteSlot {t t' : Task} (h : SamePlace t t') : RemoteSlot t' ↔ RemoteSlot t := by
  rw [RemoteSlot, RemoteSlot, h.protocol, h.slot]

/-- The run changes, but neither its node nor its end; the task keeps its place. -/
theorem View.Fits.rerun {t t' : Option Task} {s s' : RemoteRun} {j j' : Option UploadJob} (h : View.Fits ⟨t, some s, j⟩)
    (kept : ∀ task, t = some task → ∃ task', t' = some task' ∧ SamePlace task task') (node : s'.nodeID = s.nodeID)
    (isOpen : s.phase ≠ .terminal) (still : s'.phase ≠ .terminal) : View.Fits ⟨t', some s', j'⟩ where
  held u same _ := by
    cases same
    obtain ⟨task, found, slot, named⟩ := h.held s rfl isOpen
    obtain ⟨task', found', place⟩ := kept task found
    exact ⟨task', found', place.remoteSlot.mpr slot, by rw [place.node, named, node]⟩
  run _ _ _ := ⟨s', rfl, still⟩

/-- The end of the run frees the slot. -/
theorem View.Fits.over {t : Task} {s : RemoteRun} {j : Option UploadJob}
    (free : t.upstreamSlotActive = false) (isOver : s.phase = .terminal) :
    View.Fits ⟨some t, some s, j⟩ where
  held u same isOpen := by
    cases same
    exact absurd isOver isOpen
  run task found slot := by
    cases found
    exact absurd slot.2 (by rw [free]; decide)

/-- The queue is ranked. -/
theorem View.Fits.map (h : v.Fits) (f : Task → Task) (place : ∀ t, SamePlace t (f t)) : View.Fits { v with task := v.task.map f } where
  held s same isOpen := by
    obtain ⟨task, found, slot, named⟩ := h.held s same isOpen
    exact ⟨f task, by simp [found], (place task).remoteSlot.mpr slot, (place task).node.trans named⟩
  run task' found slot := by
    obtain ⟨task, stored, rfl⟩ := Option.map_eq_some_iff.mp found
    exact h.run task stored ((place task).remoteSlot.mp slot)

theorem samePlace_resumed {t : Task} : SamePlace t (resumedTask now t) := by
  rw [resumedTask]
  split
  · exact ⟨rfl, rfl, rfl⟩
  · exact .refl t

theorem LeasedMove.fits {r : RemoteRun} {act : LeaseAct} (move : LeasedMove r now act v v') (h : v.Fits) :
    v'.Fits := by
  have unchanged (t : Option Task) (task : Task) (found : t = some task) : ∃ task', t = some task' ∧ SamePlace task task' :=
    ⟨task, found, .refl task⟩
  cases move with
  | renew ttl held isOpen => exact h.rerun (unchanged _) rfl isOpen isOpen
  | release next code reconcile held isOpen => exact h.rerun (unchanged _) rfl isOpen isOpen
  | prepare body held phase => exact h.rerun (unchanged _) rfl (by rw [phase]; nofun) nofun
  | begin held _ phase =>
    refine h.rerun (unchanged _) rfl (fun isOver => ?_) nofun
    rcases phase with phase | ⟨phase, -⟩ <;> cases phase.symm.trans isOver
  | bind id held phase =>
    refine h.rerun (fun task found => ⟨_, rfl, ?_⟩) rfl (by rw [phase]; nofun) nofun
    cases found
    exact ⟨rfl, rfl, rfl⟩
  | observe status held phase =>
    exact h.rerun (unchanged _) rfl (fun isOver => absurd (phase.symm.trans isOver) nofun)
      fun isOver => absurd (phase.symm.trans isOver) nofun
  | refuse status held phase =>
    exact h.rerun (fun task found => ⟨_, congrArg (Option.map _) found, samePlace_resumed⟩) rfl
      (fun isOver => absurd (phase.symm.trans isOver) nofun) fun isOver => absurd (phase.symm.trans isOver) nofun
  | complete c => exact .over rfl rfl
  | deliver c => exact .over rfl rfl

theorem AcquireMove.fits {token : String} (move : AcquireMove token now v v') (h : v.Fits) : v'.Fits := by
  cases move with
  | acquire ttl isOpen => exact h.rerun (fun task found => ⟨task, found, .refl task⟩) rfl isOpen isOpen

theorem AskMove.fits (move : AskMove now v v') (h : v.Fits) : v'.Fits := by
  cases move with
  | ask isOpen =>
    refine h.rerun (fun task found => ⟨_, rfl, ?_⟩) rfl isOpen isOpen
    cases found
    exact ⟨rfl, rfl, rfl⟩

theorem ClaimMove.fits {nodes : List Node} (move : ClaimMove nodes now v v') : v'.Fits := by
  cases move with
  | @claim t _ node key _ _ protocol queued =>
    refine ⟨fun s same _ => ?_, fun _ _ _ => ⟨_, rfl, nofun⟩⟩
    cases same
    exact ⟨_, rfl, ⟨protocol, rfl⟩, rfl⟩

/-- Id by id. -/
def SlotsFit (db : Database) : Prop := ∀ id, (view db id).Fits

theorem SlotsFit.only {k : String} {M : View → View → Prop} (h : SlotsFit db) (only : Only k M db db')
    (fits : ∀ v v', M v v' → v.Fits → v'.Fits) : SlotsFit db' := by
  intro id
  rcases only id with same | ⟨-, moved⟩
  · rw [same]
    exact h id
  · exact fits _ _ moved (h id)

theorem SlotsFit.rebalance {o : Options} (h : SlotsFit db) (out : (Store.rebalance o now).Returns db () db') :
    SlotsFit db' := by
  intro id
  obtain ⟨_, mid, ranking, done⟩ := returns_bind.mp out
  obtain ⟨-, rfl⟩ := returns_pure.mp done
  rw [view_updateTasks (returns_exec.mp ranking) fun _ => rfl]
  refine (h id).map _ fun t => ?_
  split
  · exact ⟨rfl, rfl, rfl⟩
  · exact .refl t

theorem SlotsFit.claimNextRemote (h : SlotsFit db) (o : Options) (nodeID : String) (nodeVersion capacity : Int)
    (admission : List Admission) (now : Int) (faults : Faults Err) (n : Nat) :
    SlotsFit (Store.claimNextRemote o nodeID nodeVersion capacity admission now faults n db).db := by
  rw [Store.claimNextRemote]
  split
  · exact h
  rcases immediate_effect (claimNextRemoteBody o nodeID nodeVersion capacity admission (unix now)) faults with same | ⟨r, out⟩
  · rw [same]
    exact h
  · obtain ⟨taskID, mid, moved, -, ranked⟩ := claimNextRemote_claims out
    exact (h.only moved fun _ _ move _ => move.fits).rebalance ranked

/-- A purge takes the run of the task with it. -/
theorem SlotsFit.purged {taskID : String} (h : SlotsFit db) (gone : Purged taskID db db') : SlotsFit db' := by
  have old (t : Task) (mem : t ∈ db'.tasks) : t ∈ db.tasks := by
    rw [gone.tasks] at mem
    exact (List.mem_filter.mp mem).1
  refine fun id => ⟨fun s found isOpen => ?_, fun t found slot => ?_⟩
  · obtain ⟨mem, named⟩ := view_run_iff.mp found
    rw [gone.runs] at mem
    obtain ⟨stored, hasTask⟩ := List.mem_filter.mp mem
    obtain ⟨u, left, same⟩ := List.any_eq_true.mp hasTask
    obtain ⟨t, isTask, slot, node⟩ := (h id).held s (view_run_iff.mpr ⟨stored, named⟩) isOpen
    obtain ⟨mem, isNamed⟩ := view_task_iff.mp isTask
    have same : u.taskID = t.taskID := by rw [beq_iff_eq.mp same, named, isNamed]
    rw [← task_unique (old u left) mem same] at slot node
    exact ⟨u, view_task_iff.mpr ⟨left, same.trans isNamed⟩, slot, node⟩
  · obtain ⟨left, named⟩ := view_task_iff.mp found
    obtain ⟨s, isRun, isOpen⟩ := (h id).run t (view_task_iff.mpr ⟨old t left, named⟩) slot
    obtain ⟨stored, isNamed⟩ := view_run_iff.mp isRun
    refine ⟨s, view_run_iff.mpr ⟨?_, isNamed⟩, isOpen⟩
    rw [gone.runs]
    exact List.mem_filter.mpr ⟨stored, List.any_eq_true.mpr ⟨t, left, by simp [named, isNamed]⟩⟩

end MinimaxProxy.Store

namespace MinimaxProxy.Service
open Sql Sql.Prog Store

/-- What everyone but a claim and the end of the run keeps. -/
structure Settled (c c' : Core) : Prop where
  taskID : c'.taskID = c.taskID
  slot : c'.protocol = some .tk2sd ∧ c'.slot = true ↔ c.protocol = some .tk2sd ∧ c.slot = true
  node : c.protocol = some .tk2sd → c.slot = true → c'.upstreamID = c.upstreamID

theorem Settled.refl (c : Core) : Settled c c := ⟨rfl, .rfl, fun _ _ => rfl⟩

theorem Settled.trans {a b : Core} (first : Settled a b) (last : Settled b c) : Settled a c :=
  ⟨last.taskID.trans first.taskID, last.slot.trans first.slot, fun protocol slot => by
    have held := first.slot.mpr ⟨protocol, slot⟩
    exact (last.node held.1 held.2).trans (first.node protocol slot)⟩

theorem settled_of_same (taskID : c'.taskID = c.taskID) (protocol : c'.protocol = c.protocol) (slot : c'.slot = c.slot)
    (node : c.slot = true → c'.upstreamID = c.upstreamID) : Settled c c' :=
  ⟨taskID, by rw [protocol, slot], fun _ => node⟩

theorem settled_of_other (taskID : c'.taskID = c.taskID)
    (protocol : c'.protocol = c.protocol) (other : c.protocol ≠ some .tk2sd) : Settled c c' :=
  ⟨taskID, ⟨fun h => absurd (protocol.symm.trans h.1) other, fun h => absurd h.1 other⟩, fun h => absurd h other⟩

theorem settled_of_free (taskID : c'.taskID = c.taskID) (before : c.slot = false) (after : c'.slot = false) : Settled c c' :=
  ⟨taskID, ⟨fun h => absurd h.2 (by rw [after]; decide), fun h => absurd h.2 (by rw [before]; decide)⟩,
    fun _ h => absurd h (by rw [before]; decide)⟩

theorem settled_of_move {k : Kind} (sound : Sound c) (move : CoreMove c k c') (other : k ∉ [Kind.claimRemote, .complete]) :
    Settled c c' := by
  cases move with
  | claimRemote | complete => exact absurd (by simp) other
  | route _ awaiting queued =>
    have free : c.slot = false := sound.free (idle_of_queued queued)
    exact settled_of_free rfl free free
  | cancelStages unfinished free => exact settled_of_free rfl free free
  | claimLegacy _ _ _ protocol => exact settled_of_other rfl rfl (by rw [protocol]; nofun)
  | claimOfficial _ _ _ _ protocol => exact settled_of_other rfl rfl (by rw [protocol]; nofun)
  | requeue protocol => exact settled_of_other rfl rfl (by rw [protocol]; nofun)
  | dispatch _ _ _ _ _ protocol => exact settled_of_other rfl rfl (by rw [protocol]; nofun)
  | execute _ _ _ protocol => exact settled_of_other rfl rfl (by rw [protocol]; nofun)
  | advance _ protocol => exact settled_of_other rfl rfl (by rw [protocol]; nofun)
  | generate _ _ _ protocol => exact settled_of_other rfl rfl (by rw [protocol]; nofun)
  | failOfficial _ protocol => exact settled_of_other rfl rfl (by rw [protocol]; nofun)
  | _ => exact settled_of_same rfl rfl rfl fun _ => rfl

/-- A new task holds no slot. -/
theorem Op.fresh_free (op : Op) (new : op.effect.fresh c) : c.slot = false := by
  cases op with
  | deed d =>
    cases d with
    | create _ input =>
      obtain ⟨_, _, _, _, rfl⟩ := new
      rfl
    | _ => exact new.elim
  | decide | abandon | recognise => exact new.elim
  | work _ w => cases w <;> exact new.elim

section
variable {o : Options} {s t : State} {e : Event}

/-- A step that leaves the runs alone, and neither claims nor ends one. -/
theorem Step.slotsFit (inv : Inv s) (step : Step o s e t) (kinds : ∀ k ∈ e.op.effect.kinds, k ∉ [Kind.claimRemote, .complete])
    (runs : t.db.remoteRuns = s.db.remoteRuns) (stays : ∀ c, ¬ e.op.effect.gone c) (fits : SlotsFit s.db) : SlotsFit t.db := by
  have moves (c : Core) (k : Kind) (c' : Core) (sound : Sound c) (mem : k ∈ e.op.effect.kinds) (move : CoreMove c k c') : Settled c c' :=
    settled_of_move sound move (kinds k mem)
  have sameRun (id : String) : (view t.db id).run = (view s.db id).run := by
    show findRun t.db id = findRun s.db id
    rw [findRun, findRun, runs]
  refine fun id => ⟨fun r found isOpen => ?_, fun t' found slot => ?_⟩
  · rw [sameRun] at found
    obtain ⟨task, isTask, slot, node⟩ := (fits id).held r found isOpen
    obtain ⟨stored, named⟩ := view_task_iff.mp isTask
    rcases Step.forth inv step Settled.refl (fun _ _ _ => Settled.trans) moves task stored with ⟨task', stored', settled⟩ | ⟨c, gone, -⟩
    · have same : task'.taskID = task.taskID := settled.taskID
      exact ⟨task', view_task_iff.mpr ⟨stored', same.trans named⟩, settled.slot.mpr slot, (settled.node slot.1 slot.2).trans node⟩
    · exact absurd gone (stays c)
  · obtain ⟨stored', named⟩ := view_task_iff.mp found
    rw [sameRun]
    rcases Step.back inv step Settled.refl (fun _ _ _ => Settled.trans) moves t' stored' with ⟨task, stored, settled⟩ | ⟨c, new, settled⟩
    · have same : t'.taskID = task.taskID := settled.taskID
      exact (fits id).run task (view_task_iff.mpr ⟨stored, same.symm.trans named⟩) (settled.slot.mp slot)
    · exact absurd (settled.slot.mp slot).2 (by rw [e.op.fresh_free new]; decide)

theorem Step.fits (inv : Inv s) (step : Step o s e t) (fits : SlotsFit s.db) : SlotsFit t.db := by
  have quiet (op : e.op.effect.tables.contains .taskRemoteRuns = false) (kinds : ∀ k ∈ e.op.effect.kinds, k ∉ [Kind.claimRemote, .complete])
      (stays : ∀ c, ¬ e.op.effect.gone c) : SlotsFit t.db := by
    refine Step.slotsFit inv step kinds ?_ stays fits
    exact Effect.same_rows (Step.evolves inv step) (by decide) (by simpa using op)
  cases step with
  | deed d now faults n known =>
    cases d with
    | requestRemoteCancel taskID => exact fits.only requestRemoteCancel_asks fun _ _ => AskMove.fits
    | adminDelete taskID purged =>
      rcases adminDelete_cases purged with same | gone
      · show SlotsFit (adminDelete taskID purged faults n s.db).db
        rw [same]
        exact fits
      · exact fits.purged gone
    | claimNextRemote nodeID nodeVersion capacity admission =>
      exact fits.claimNextRemote o nodeID nodeVersion capacity admission now faults n
    | acquireRemoteLease taskID nodeID token ttl =>
      exact fits.only acquireRemoteLease_only fun _ _ => AcquireMove.fits
    | renewRemoteLease r ttl => exact fits.only renewRemoteLease_only fun _ _ => LeasedMove.fits
    | releaseRemoteLease r next code reconcile =>
      exact fits.only releaseRemoteLease_only fun _ _ => LeasedMove.fits
    | prepareRemoteRequest r body valid =>
      exact fits.only prepareRemoteRequest_only fun _ _ => LeasedMove.fits
    | beginRemoteSubmission r => exact fits.only beginRemoteSubmission_only fun _ _ => LeasedMove.fits
    | bindRemoteTask r id => exact fits.only bindRemoteTask_only fun _ _ => LeasedMove.fits
    | observeRemoteTask r status cancelState =>
      exact fits.only observeRemoteTask_only fun _ _ => LeasedMove.fits
    | completeRemoteRun r c callbackID =>
      exact fits.only completeRemoteRun_only fun _ _ => LeasedMove.fits
    | _ =>
      refine quiet ?_ ?_ fun _ => id
      all_goals
        dsimp only [Op.effect, Deed.effect, createEffect, legacyEffect, requestTaskDeletionEffect]
        decide
  | decide | abandon | recognise => exact fits
  | work nodeID w =>
    cases w <;> exact quiet (by dsimp only [Op.effect, Work.effect]; decide) (by dsimp only [Op.effect, Work.effect]; decide) fun _ => id

end

/-- Slot, run and row of each remote task. -/
structure SlotAccounts (db : Database) : Prop where
  slot : ∀ t ∈ db.tasks, t.protocolVersion = some .tk2sd →
    (t.upstreamSlotActive = true ↔ ∃ r ∈ db.remoteRuns, r.taskID = t.taskID ∧ r.phase ≠ .terminal)
  node : ∀ t ∈ db.tasks, t.protocolVersion = some .tk2sd → t.upstreamSlotActive = true →
    ∀ r ∈ db.remoteRuns, r.taskID = t.taskID → t.upstreamID = some r.nodeID
  status : ∀ t ∈ db.tasks, t.protocolVersion = some .tk2sd → t.upstreamSlotActive = true →
    t.status = .dispatching ∨ t.status = .running ∨ t.status = .reconciling ∨ t.status = .cancelling

theorem SlotsFit.accounts (fits : SlotsFit db) (sound : ∀ t ∈ db.tasks, Sound t.core) : SlotAccounts db := by
  have held (t : Task) (stored : t ∈ db.tasks) (r : RemoteRun) (mem : r ∈ db.remoteRuns) (named : r.taskID = t.taskID)
      (isOpen : r.phase ≠ .terminal) : t.upstreamSlotActive = true ∧ t.upstreamID = some r.nodeID := by
    obtain ⟨u, isTask, slot, node⟩ := (fits t.taskID).held r (view_run_iff.mpr ⟨mem, named⟩) isOpen
    obtain ⟨isStored, same⟩ := view_task_iff.mp isTask
    rw [task_unique isStored stored same] at slot node
    exact ⟨slot.2, node⟩
  have run (t : Task) (stored : t ∈ db.tasks) (protocol : t.protocolVersion = some .tk2sd) (slot : t.upstreamSlotActive = true) :
      ∃ r ∈ db.remoteRuns, r.taskID = t.taskID ∧ r.phase ≠ .terminal := by
    obtain ⟨r, found, isOpen⟩ := (fits t.taskID).run t (view_task_iff.mpr ⟨stored, rfl⟩) ⟨protocol, slot⟩
    obtain ⟨mem, named⟩ := view_run_iff.mp found
    exact ⟨r, mem, named, isOpen⟩
  refine ⟨fun t stored protocol => ⟨run t stored protocol, fun ⟨r, mem, named, isOpen⟩ => (held t stored r mem named isOpen).1⟩, ?_, ?_⟩
  · intro t stored protocol slot r mem named
    obtain ⟨r', mem', named', isOpen⟩ := run t stored protocol slot
    rw [eq_of_key (runs_distinct db) mem mem' (named.trans named'.symm)]
    exact (held t stored r' mem' named' isOpen).2
  · intro t stored protocol slot
    have taken : t.status.isTaken = true := ((sound t stored).slot slot).2.1
    revert taken
    cases t.status <;> decide

theorem Reaches.fits {o : Options} {ok : State → Event → Prop} {s t : State}
    (start : Start s) (run : Reaches o ok s t) : Inv t ∧ SlotsFit t.db := by
  have first : SlotsFit s.db := fun id => by
    have noRun : (view s.db id).run = none := by
      show findRun s.db id = none
      rw [findRun, start.runs]
      rfl
    have noTask : (view s.db id).task = none := by
      show findTask s.db id = none
      rw [findTask, start.tasks]
      rfl
    exact ⟨fun r found => absurd (noRun.symm.trans found) (fun h => by cases h),
      fun t found => absurd (noTask.symm.trans found) (fun h => by cases h)⟩
  exact Reaches.holds (J := fun u => SlotsFit u.db) start first (fun _ _ _ inv fits _ step => step.fits inv fits) run

/-- In every run, a remote task holds a slot exactly while its run is open; then it is at work, on the
node of the run. -/
theorem remote_slots_account {o : Options} {s t : State} (start : Start s) (run : Reaches o (fun _ _ => True) s t) : SlotAccounts t.db := by
  obtain ⟨inv, fits⟩ := Reaches.fits start run
  exact SlotsFit.accounts fits inv.orderly.sound

/-- A task is claimed, and its run begins. -/
theorem remote_slots_account_claimed :
    ((remoteStart.after Flow.remoteOptions (undelivered.take 3)).db.tasks.map fun t => (t.taskID, t.status, t.upstreamSlotActive))
        = [("t1", .dispatching, true)] ∧
      ((remoteStart.after Flow.remoteOptions (undelivered.take 3)).db.remoteRuns.map fun r => (r.taskID, r.nodeID, r.phase))
        = [("t1", "n1", .preparing)] ∧
      SlotAccounts (remoteStart.after Flow.remoteOptions (undelivered.take 3)).db :=
  ⟨by decide +kernel, by decide +kernel, remote_slots_account remoteStart_start (reaches_after _ fun _ _ _ => trivial)⟩

end MinimaxProxy.Service
