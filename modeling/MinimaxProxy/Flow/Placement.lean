import MinimaxProxy.Flow.System

/-!
# Where a task is

What every run keeps, whoever cancels what: a slot is held by a task in work, on the node of
its remote run or on an official node, and a task with an upload job holds none.
-/

namespace MinimaxProxy.Flow
open Sql Store

variable {j : Option UploadJob} {now : Int} {r : Option RemoteRun} {s : RemoteRun} {t : Task}

/-- A task in work neither waits nor is it cancelled. -/
theorem not_waiting_of_taken {st : TaskStatus} (taken : st.isTaken = true) : ¬ (st.isQueued = true ∨ st = .cancelled) := by
  revert taken
  cases st <;> decide

section
variable {nodes : List Node} {t : Task} {r : Option RemoteRun} {j : Option UploadJob}

/-- A task with its run and its job. -/
structure Placed (nodes : List Node) (t : Task) (r : Option RemoteRun) (j : Option UploadJob) : Prop where
  stage : t.activeStageID = none
  slot : t.upstreamSlotActive = true → t.status.isTaken = true ∧ t.status ≠ .reconciling
  held : t.upstreamSlotActive = true ∨ j.isSome → r.isSome ∨ heldByOfficial nodes t = true
  run : ∀ s, r = some s → t.protocolVersion = some .tk2sd ∧ t.upstreamID = some s.nodeID ∧ s.nodeID ≠ "" ∧
    (t.upstreamSlotActive = true ↔ s.phase ≠ .terminal)
  waiting : r = none → t.protocolVersion = some .tk2sd → t.status.isQueued = true ∨ t.status = .cancelled
  job : j.isSome → t.upstreamSlotActive = false ∧ t.status.isQueued = false

namespace Placed

theorem slot_of_queued (h : Placed nodes t r j) (queued : t.status.isQueued = true) : t.upstreamSlotActive = false := by
  cases slot : t.upstreamSlotActive with
  | false => rfl
  | true => exact absurd (.inl queued) (not_waiting_of_taken (h.slot slot).1)

theorem no_job (h : Placed nodes t r j) (slot : t.upstreamSlotActive = true) : j = none := by
  cases j with
  | none => rfl
  | some j => exact absurd slot (by rw [(h.job rfl).1]; decide)

theorem no_job_of_queued (h : Placed nodes t r j) (queued : t.status.isQueued = true) : j = none := by
  cases j with
  | none => rfl
  | some j => exact absurd queued (by rw [(h.job rfl).2]; decide)

theorem no_run (h : Placed nodes t r j) (protocol : t.protocolVersion ≠ some .tk2sd) : r = none := by
  cases r with
  | none => rfl
  | some s => exact absurd (h.run s rfl).1 protocol

/-- A task that a remote run or an official node has is known by its node. -/
theorem present_upstreamID (h : Placed nodes t r j) (named : Named nodes) (held : r.isSome ∨ heldByOfficial nodes t = true) :
    present t.upstreamID = true := by
  have of_name (id : String) (ne : id ≠ "") (eq : t.upstreamID = some id) : present t.upstreamID = true := by
    simp [present, eq, ne]
  rcases held with some | official
  · obtain ⟨s, rfl⟩ := Option.isSome_iff_exists.mp some
    exact of_name s.nodeID (h.run s rfl).2.2.1 (h.run s rfl).2.1
  · obtain ⟨n, mem, eq⟩ := List.any_eq_true.mp official
    simp only [Bool.and_eq_true, beq_iff_eq] at eq
    exact of_name n.id (named n mem) eq.1

/-- The stages of a task in work are not cancelled: it has none, and it is on a node. -/
theorem no_stages (h : Placed nodes t r j) (named : Named nodes) (held : r.isSome ∨ heldByOfficial nodes t = true) :
    ¬ (present t.activeStageID = true ∨ present t.upstreamID = false) := by
  rw [h.stage, h.present_upstreamID named held]
  decide

/-- The status becomes `st`; the place stays. -/
theorem restatus (t' : Task) (st : TaskStatus) (h : Placed nodes t r j) (stage : t'.activeStageID = t.activeStageID)
    (protocol : t'.protocolVersion = t.protocolVersion) (node : t'.upstreamID = t.upstreamID)
    (slot : t'.upstreamSlotActive = t.upstreamSlotActive) (status : t'.status = st)
    (taken : t.upstreamSlotActive = true → st.isTaken = true ∧ st ≠ .reconciling)
    (queued : st.isQueued = true → t.status.isQueued = true)
    (waiting : t.status.isQueued = true ∨ t.status = .cancelled → st.isQueued = true ∨ st = .cancelled) :
    Placed nodes t' r j where
  stage := stage.trans h.stage
  slot held := status ▸ taken (slot ▸ held)
  held some := by
    rw [heldByOfficial, node]
    exact h.held (slot ▸ some)
  run s some := by
    rw [protocol, node, slot]
    exact h.run s some
  waiting none remote := status ▸ waiting (h.waiting none (protocol ▸ remote))
  job some := by
    refine ⟨slot.trans (h.job some).1, ?_⟩
    rw [← Bool.not_eq_true, status]
    exact fun back => absurd (queued back) (by rw [(h.job some).2]; decide)

/-- A task in the queue moves within it, or is cancelled there. -/
theorem requeue (t' : Task) (h : Placed nodes t r j) (stage : t'.activeStageID = t.activeStageID)
    (protocol : t'.protocolVersion = t.protocolVersion) (node : t'.upstreamID = t.upstreamID)
    (slot : t'.upstreamSlotActive = t.upstreamSlotActive) (queued : t.status.isQueued = true)
    (status : t'.status.isQueued = true ∨ t'.status = .cancelled) : Placed nodes t' r j := by
  refine h.restatus t' _ stage protocol node slot rfl (fun held => ?_) (fun _ => queued) fun _ => status
  rw [h.slot_of_queued queued] at held
  cases held

/-- A task in work gets a status in which it may keep its slot. -/
theorem rework (t' : Task) (st : TaskStatus) (h : Placed nodes t r j) (stage : t'.activeStageID = t.activeStageID)
    (protocol : t'.protocolVersion = t.protocolVersion) (node : t'.upstreamID = t.upstreamID)
    (slot : t'.upstreamSlotActive = t.upstreamSlotActive) (status : t'.status = st)
    (taken : st.isTaken = true ∧ st ≠ .reconciling) (working : t.status.isTaken = true) : Placed nodes t' r j := by
  refine h.restatus t' st stage protocol node slot status (fun _ => taken) (fun queued => ?_) fun waiting => ?_
  · exact absurd (.inl queued) (not_waiting_of_taken taken.1)
  · exact absurd waiting (not_waiting_of_taken working)

/-- The run changes; node and end stay. -/
theorem rerun {s' : RemoteRun} (h : Placed nodes t (some s) j) (node : s'.nodeID = s.nodeID)
    (phase : s'.phase ≠ .terminal ↔ s.phase ≠ .terminal) : Placed nodes t (some s') j where
  stage := h.stage
  slot := h.slot
  held := fun _ => .inl rfl
  run := by
    intro u same
    cases same
    rw [node, phase]
    exact h.run s rfl
  waiting := nofun
  job := h.job

theorem rejob {j j' : UploadJob} (h : Placed nodes t r (some j)) : Placed nodes t r (some j') :=
  ⟨h.stage, h.slot, fun _ => h.held (.inr rfl), h.run, h.waiting, fun _ => h.job rfl⟩

/-- The slot is given back, with or without a job. -/
theorem leave (t' : Task) (h : Placed nodes t r j) (stage : t'.activeStageID = t.activeStageID)
    (protocol : t'.protocolVersion = t.protocolVersion) (node : t'.upstreamID = t.upstreamID)
    (free : t'.upstreamSlotActive = false) (held : t.upstreamSlotActive = true) {r' : Option RemoteRun}
    {j' : Option UploadJob} (ended : r'.isSome = r.isSome ∧ ∀ s s', r = some s → r' = some s' → s'.nodeID = s.nodeID ∧ s'.phase = .terminal)
    (queued : t'.status.isQueued = false) (protocols : r = none → t.protocolVersion ≠ some .tk2sd) :
    Placed nodes t' r' j' where
  stage := stage.trans h.stage
  slot taken := absurd taken (by rw [free]; decide)
  held _ := by
    rw [heldByOfficial, node, ended.1]
    exact h.held (.inl held)
  run s' some := by
    obtain ⟨s, found⟩ := Option.isSome_iff_exists.mp (ended.1.symm.trans (some ▸ rfl))
    obtain ⟨same, isOver⟩ := ended.2 s s' found some
    obtain ⟨remote, place, name, -⟩ := h.run s found
    rw [protocol, node, free, same, isOver]
    exact ⟨remote, place, name, by decide⟩
  waiting empty remote := by
    have gone : r = none := by
      rw [← Option.not_isSome_iff_eq_none, ← ended.1, empty]
      decide
    exact absurd (protocol ▸ remote) (protocols gone)
  job _ := ⟨free, queued⟩

end Placed
end

/-- A view without a task is empty. -/
def PlacedView (nodes : List Node) : View → Prop
  | ⟨none, r, j⟩ => r = none ∧ j = none
  | ⟨some t, r, j⟩ => Placed nodes t r j

variable {nodes : List Node} {allowed : Task → Prop} {v v' : View}

theorem placed_rerun {t : Option Task} {s' : RemoteRun} (h : PlacedView nodes ⟨t, some s, j⟩)
    (node : s'.nodeID = s.nodeID) (phase : s'.phase ≠ .terminal ↔ s.phase ≠ .terminal) :
    PlacedView nodes ⟨t, some s', j⟩ := by
  cases t with
  | none => exact absurd h.1 (by simp)
  | some t => exact Placed.rerun h node phase

theorem placed_bound {id : String} (h : Placed nodes t r j) (taken : t.status.isTaken = true) : Placed nodes (boundTask id now t) r j := by
  refine h.rework (boundTask id now t) (if t.status = .cancelling then t.status else .running) rfl rfl rfl rfl rfl ?_ taken
  split
  · next cancelling => rw [cancelling]; decide
  · decide

theorem placed_resumed (h : Placed nodes t r j) :
    Placed nodes (resumedTask now t) r j := by
  unfold resumedTask
  split
  · next cancelling => exact h.rework _ .running rfl rfl rfl rfl rfl (by decide) (by rw [cancelling]; rfl)
  · exact h

theorem taskStatus_over {c : RemoteCompletion} : c.taskStatus.isQueued = false ∧ c.taskStatus ≠ .cancelling := by
  unfold RemoteCompletion.taskStatus
  split
  · decide
  · split <;> decide

theorem placed_completed {j' : Option UploadJob} {c : RemoteCompletion}
    (h : Placed nodes t (some s) j) (slot : t.upstreamSlotActive = true) :
    Placed nodes (remoteCompletedTask c now t) (some (completedRun c now s)) j' := by
  refine h.leave (remoteCompletedTask c now t) rfl rfl rfl rfl slot ⟨rfl, ?_⟩ (taskStatus_over).1 nofun
  rintro _ _ ⟨⟩ ⟨⟩
  exact ⟨rfl, rfl⟩

theorem placed_leased {r : RemoteRun} {act : LeaseAct} (h : PlacedView nodes v) (moved : LeasedMove r now act v v') :
    PlacedView nodes v' := by
  cases moved with
  | renew _ _ _ => exact placed_rerun h rfl Iff.rfl
  | release _ _ _ _ _ => exact placed_rerun h rfl Iff.rfl
  | prepare _ _ phase _ => exact placed_rerun h rfl (by simp [phase])
  | begin _ _ phase => exact placed_rerun h rfl (by rcases phase with phase | ⟨phase, -⟩ <;> simp [phase])
  | bind id _ phase _ occupies => exact placed_rerun (placed_bound h occupies.2.2) rfl (by simp [phase])
  | observe _ _ _ => exact placed_rerun h rfl Iff.rfl
  | @refuse t s j status _ _ =>
    refine placed_rerun (s := s) ?_ rfl Iff.rfl
    cases t with
    | none => exact h
    | some t => exact placed_resumed h
  | complete c _ _ _ _ _ occupies => exact placed_completed h occupies.2.1
  | deliver c _ _ _ _ _ _ _ occupies => exact placed_completed h occupies.2.1

theorem placed_undelivered {t : Option Task} {j : UploadJob} {message : String}
    (h : PlacedView nodes ⟨t, r, some j⟩) : PlacedView nodes ⟨t.map (undelivered message now), r, some j⟩ := by
  cases t with
  | none => exact h
  | some t =>
    show Placed nodes (undelivered message now t) r (some j)
    have free := (Placed.job h rfl).1
    unfold undelivered
    split
    · next reconciling =>
      refine Placed.restatus _ .failed h rfl rfl rfl rfl rfl (fun slot => ?_) nofun fun waiting => ?_
      · exact absurd slot (by rw [free]; decide)
      · exact absurd waiting (not_waiting_of_taken (by rw [reconciling]; rfl))
    · exact h

theorem placed_rejob {t : Option Task} {j j' : UploadJob} (h : PlacedView nodes ⟨t, r, some j⟩) :
    PlacedView nodes ⟨t, r, some j'⟩ := by
  cases t with
  | none => exact absurd h.2 (by simp)
  | some t => exact Placed.rejob h

theorem placed_delivery (h : PlacedView nodes v) (moved : DeliveryMove v v') : PlacedView nodes v' := by
  cases moved with
  | upload _ _ _ _ _ => exact placed_rejob h
  | exhaust _ _ _ => exact placed_undelivered (placed_rejob h)
  | defer _ _ _ _ _ => exact placed_rejob h
  | fail _ _ _ _ _ => exact placed_undelivered (placed_rejob h)
  | @store t r j url bytes now _ reconciling =>
    have free := (Placed.job h rfl).1
    refine Placed.restatus _ .succeeded (Placed.rejob h) rfl rfl rfl rfl rfl (fun slot => ?_) nofun fun waiting => ?_
    · exact absurd slot (by rw [free]; decide)
    · exact absurd waiting (not_waiting_of_taken (by rw [reconciling]; rfl))
  | @retry t r j now _ failed _ =>
    have free := (Placed.job h rfl).1
    refine Placed.restatus _ .reconciling (Placed.rejob h) rfl rfl rfl rfl rfl (fun slot => ?_) nofun fun waiting => ?_
    · exact absurd slot (by rw [free]; decide)
    · rw [failed] at waiting
      exact absurd waiting (by decide)

/-- An official task that holds a slot is on an official node and has no run. -/
theorem placed_official (h : Placed nodes t r j) (official : OfficialSlot t) : r = none ∧ t.protocolVersion ≠ some .tk2sd := by
  have other : t.protocolVersion ≠ some .tk2sd := by
    rw [official.1]
    decide
  exact ⟨h.no_run other, other⟩

/-- A free task is taken to `node`, with a remote run there or by an official one. -/
theorem placed_claimed {t' : Task} {r' : Option RemoteRun} (h : Placed nodes t r j)
    (queued : t.status.isQueued = true) (stage : t'.activeStageID = t.activeStageID) (status : t'.status = .dispatching)
    (held : r'.isSome ∨ heldByOfficial nodes t' = true)
    (run : ∀ s, r' = some s → t'.protocolVersion = some .tk2sd ∧ t'.upstreamID = some s.nodeID ∧ s.nodeID ≠ "" ∧
      (t'.upstreamSlotActive = true ↔ s.phase ≠ .terminal))
    (waiting : r' = none → t'.protocolVersion ≠ some .tk2sd) : Placed nodes t' r' j := by
  obtain rfl := h.no_job_of_queued queued
  refine ⟨stage.trans h.stage, fun _ => ?_, fun _ => held, run, fun none remote => absurd remote (waiting none), nofun⟩
  rw [status]
  decide

theorem placed_fresh (fresh : Fresh t) : Placed nodes t none none where
  stage := fresh.stage
  slot held := absurd held (by rw [fresh.slot]; decide)
  held held := absurd held (by rw [fresh.slot]; decide)
  run _ eq := by cases eq
  waiting _ _ := .inl (by rw [fresh.status]; rfl)
  job := nofun

/-- Only a task without run and job is cancelled by its stages. -/
theorem placed_stages (now : Int) (named : Named nodes)
    (h : Placed nodes t r j) (stages : present t.activeStageID = true ∨ present t.upstreamID = false) :
    Placed nodes (cancelledStageTask now t) r j ∧ r = none ∧ t.upstreamSlotActive = false ∧ j = none := by
  have free : ¬ (r.isSome ∨ heldByOfficial nodes t = true) := fun held => h.no_stages named held stages
  have slot : t.upstreamSlotActive = false := by
    rw [← Bool.not_eq_true]
    exact fun held => free (h.held (.inl held))
  obtain rfl : r = none := by
    rw [← Option.not_isSome_iff_eq_none]
    exact fun some => free (.inl some)
  obtain rfl : j = none := by
    rw [← Option.not_isSome_iff_eq_none]
    exact fun some => free (h.held (.inr some))
  have kept : (cancelledStageTask now t).upstreamSlotActive = false := slot
  refine ⟨?_, rfl, slot, rfl⟩
  constructor
  · rfl
  · exact fun held => absurd held (by rw [kept]; decide)
  · exact fun held => absurd held (by rw [kept]; decide)
  · exact fun _ eq => by cases eq
  · exact fun _ _ => .inr rfl
  · exact nofun

theorem placed_move (named : Named nodes) (h : PlacedView nodes v) (moved : Move nodes allowed v v') :
    PlacedView nodes v' := by
  cases moved with
  | @create r j t fresh =>
    obtain ⟨rfl, rfl⟩ := h
    exact placed_fresh fresh
  | @rank t r j locked now queued =>
    refine Placed.requeue (rankedTask locked now t) h rfl rfl rfl rfl queued (.inl ?_)
    cases locked <;> rfl
  | @cancelQueued t r j now queued => exact Placed.requeue (ownerCancelledTask now t) h rfl rfl rfl rfl queued (.inr rfl)
  | delete now state => exact Placed.restatus _ _ h rfl rfl rfl rfl rfl (Placed.slot h) id id
  | @adminCancelQueued t r j now queued =>
    exact Placed.requeue (adminCancelledTask now t) h rfl rfl rfl rfl queued (.inr rfl)
  | cancelStages now stages _ => exact (placed_stages now named h stages).1
  | @adminCancel t r j now _ active _ _ =>
    refine Placed.rework (adminCancellingTask now t) .cancelling h rfl rfl rfl rfl rfl (by decide) ?_
    rw [TaskStatus.isTaken, active]
    rfl
  | @claimOfficial t r j node now mem protocol official queued =>
    have other : t.protocolVersion ≠ some .tk2sd := by
      rw [official]
      decide
    obtain rfl := Placed.no_run h other
    refine placed_claimed h queued rfl rfl (.inr ?_) (fun _ eq => by cases eq) fun _ => other
    exact List.any_eq_true.mpr ⟨node, mem, by simp [officialClaimedTask, protocol]⟩
  | @saveBaseline t r j ids now official status =>
    exact Placed.restatus _ _ h rfl rfl rfl rfl rfl (Placed.slot h) id id
  | @bindOfficial t r j id now official status =>
    exact Placed.rework (officialBoundTask id now t) .running h rfl rfl rfl rfl rfl (by decide) (Placed.slot h official.2).1
  | @generate t r j originURL ratio now official status =>
    obtain ⟨rfl, other⟩ := placed_official h official
    exact Placed.leave (officialGeneratedTask originURL ratio false now t) h rfl rfl rfl rfl official.2
      ⟨rfl, fun _ _ eq => by cases eq⟩ rfl fun _ => other
  | @deliver t r originURL ratio id objectKey now ms official status =>
    obtain ⟨rfl, other⟩ := placed_official h official
    exact Placed.leave (officialGeneratedTask originURL ratio true now t) h rfl rfl rfl rfl official.2
      ⟨rfl, fun _ _ eq => by cases eq⟩ rfl fun _ => other
  | @failOfficial t r j code message feedback now official status =>
    obtain ⟨rfl, other⟩ := placed_official h official
    exact Placed.leave (officialFailedTask code message feedback now t) h rfl rfl rfl rfl official.2
      ⟨rfl, fun _ _ eq => by cases eq⟩ rfl fun _ => other
  | @claimRemote t j node key now mem protocol remote queued =>
    refine placed_claimed h queued rfl rfl (.inl rfl) (fun s eq => ?_) nofun
    cases eq
    exact ⟨remote, rfl, named node mem, by simp [remoteClaimedTask]⟩
  | @requestCancel t s j now phase _ _ slot taken =>
    refine placed_rerun (s := s) ?_ rfl Iff.rfl
    exact Placed.rework (cancellingTask now t) .cancelling h rfl rfl rfl rfl rfl (by decide) taken
  | @updateResult t r j u same =>
    rw [same]
    exact Placed.restatus _ _ h rfl rfl rfl rfl rfl (Placed.slot h) id id
  | delivery moved => exact placed_delivery h moved

theorem placed_change (named : Named nodes) (h : PlacedView nodes v) (changed : Change nodes allowed v v') :
    PlacedView nodes v' := by
  cases changed with
  | move moved => exact placed_move named h moved
  | acquired token now moved =>
    cases moved with
    | acquire _ _ _ _ => exact placed_rerun h rfl Iff.rfl
  | leased r now act moved => exact placed_leased h moved

end MinimaxProxy.Flow
