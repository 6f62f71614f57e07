import MinimaxProxy.Service.Slots

/-!
# Remote runs

A remote run goes through its phases in order, only the holder of its lease moves it, and it goes
away only with its task.
-/

namespace MinimaxProxy.Service
open Sql Sql.Prog Store

variable {e : Event} {o : Options} {ok : State → Event → Prop} {r : RemoteRun} {s t u : State} {v v' : View}

/-- The lease under which a worker acts. -/
def Op.lease : Op → Option String
  | .deed (.renewRemoteLease r _) | .deed (.releaseRemoteLease r ..) | .deed (.prepareRemoteRequest r ..)
  | .deed (.beginRemoteSubmission r) | .deed (.bindRemoteTask r _) | .deed (.observeRemoteTask r ..)
  | .deed (.completeRemoteRun r ..) => r.leaseToken
  | _ => none

/-- What an event can do to the run of a task. -/
inductive RunChange (e : Event) (v v' : View) : Prop
  | same : v'.run = v.run → RunChange e v v'
  | begun (t : Task) : v.task = some t → v.run = none → RunChange e v v'
  | asked : AskMove (unix e.now) v v' → RunChange e v v'
  | acquired (token : String) : AcquireMove token (unix e.now) v v' → RunChange e v v'
  | leased (copy : RemoteRun) (act : LeaseAct) : e.op.lease = copy.leaseToken → LeasedMove copy (unix e.now) act v v' → RunChange e v v'
  | purged : (∀ t, v.task = some t → t.status.isTerminal = true) → v'.task = none → v'.run = none → RunChange e v v'

theorem RunChange.of_only {k : String} {M : View → View → Prop} {db db' : Database} (only : Only k M db db')
    (changes : ∀ v v', M v v' → RunChange e v v') (id : String) : RunChange e (view db id) (view db' id) := by
  rcases only id with same | ⟨-, moved⟩
  · exact .same (by rw [same])
  · exact changes _ _ moved

theorem waiting_of_claim {nodes : List Node} {now : Int} (claimed : ClaimMove nodes now v v') : ∃ t, v.task = some t ∧ v.run = none := by
  cases claimed
  exact ⟨_, rfl, rfl⟩

theorem RunChange.of_claim {nodeID : String} {nodeVersion capacity : Int}
    {admission : List Admission} {now : Int} {faults : Faults Err} {n : Nat}
    {db : Database} (id : String) :
    RunChange e (view db id) (view (claimNextRemote o nodeID nodeVersion capacity admission now faults n db).db id) := by
  rw [claimNextRemote]
  split
  · exact .same rfl
  rcases immediate_effect (claimNextRemoteBody o nodeID nodeVersion capacity admission (unix now)) faults with same | ⟨_, out⟩
  · exact .same (by rw [same])
  obtain ⟨_, mid, moved, -, ranked⟩ := claimNextRemote_claims out
  obtain ⟨_, _, ranking, done⟩ := returns_bind.mp ranked
  obtain ⟨-, rfl⟩ := returns_pure.mp done
  rw [view_updateTasks (returns_exec.mp ranking) fun _ => rfl]
  rcases moved id with same | ⟨-, claimed⟩
  · exact .same (show (view mid id).run = _ by rw [same])
  · obtain ⟨t, stored, none⟩ := waiting_of_claim claimed
    exact .begun t stored none

theorem RunChange.of_purge {taskID : String} {db db' : Database}
    (gone : Purged taskID db db') (id : String) : RunChange e (view db id) (view db' id) := by
  cases left : (view db' id).task with
  | none =>
    have none (t : Task) (stored : t ∈ db'.tasks) : t.taskID ≠ id := fun named => by
      cases left.symm.trans (view_task_iff.mpr ⟨stored, named⟩)
    refine .purged (fun t found => ?_) left (Option.eq_none_iff_forall_ne_some.mpr fun r found => ?_)
    · obtain ⟨stored, named⟩ := view_task_iff.mp found
      by_cases isTask : t.taskID = taskID
      · exact gone.isOver t stored isTask
      · exact absurd named (none t (by rw [gone.tasks]; exact List.mem_filter.mpr ⟨stored, by simpa using isTask⟩))
    · obtain ⟨stored, named⟩ := view_run_iff.mp found
      rw [gone.runs] at stored
      obtain ⟨t, isTask, same⟩ := List.any_eq_true.mp (List.mem_filter.mp stored).2
      exact none t isTask ((beq_iff_eq.mp same).trans named)
  | some t =>
    obtain ⟨stored, rfl⟩ := view_task_iff.mp left
    refine .same (Option.ext fun r => ?_)
    rw [view_run_iff, view_run_iff, gone.runs, List.mem_filter, and_assoc]
    refine and_congr_right fun _ => ⟨And.right, fun named => ⟨List.any_eq_true.mpr ⟨t, stored, ?_⟩, named⟩⟩
    rw [named, beq_self_eq_true]

theorem Step.runs (inv : Inv s) (step : Step o s e t) (id : String) : RunChange e (view s.db id) (view t.db id) := by
  have quiet (free : e.op.effect.tables.contains .taskRemoteRuns = false) : RunChange e (view s.db id) (view t.db id) := by
    have rows : t.db.remoteRuns = s.db.remoteRuns := Effect.same_rows (Step.evolves inv step) (by decide) (by simpa using free)
    refine .same ?_
    show findRun t.db id = findRun s.db id
    rw [findRun, findRun, rows]
  cases step with
  | deed d now faults n known =>
    cases d with
    | requestRemoteCancel => exact .of_only requestRemoteCancel_asks (fun _ _ => .asked) id
    | adminDelete taskID purged =>
      rcases adminDelete_cases purged with same | gone
      · exact .same (congrArg (fun db => (view db id).run) same)
      · exact .of_purge gone id
    | claimNextRemote => exact .of_claim id
    | acquireRemoteLease => exact .of_only acquireRemoteLease_only (fun _ _ => .acquired _) id
    | renewRemoteLease => exact .of_only renewRemoteLease_only (fun _ _ => .leased _ _ rfl) id
    | releaseRemoteLease => exact .of_only releaseRemoteLease_only (fun _ _ => .leased _ _ rfl) id
    | prepareRemoteRequest => exact .of_only prepareRemoteRequest_only (fun _ _ => .leased _ _ rfl) id
    | beginRemoteSubmission => exact .of_only beginRemoteSubmission_only (fun _ _ => .leased _ _ rfl) id
    | bindRemoteTask => exact .of_only bindRemoteTask_only (fun _ _ => .leased _ _ rfl) id
    | observeRemoteTask => exact .of_only observeRemoteTask_only (fun _ _ => .leased _ _ rfl) id
    | completeRemoteRun => exact .of_only completeRemoteRun_only (fun _ _ => .leased _ _ rfl) id
    | _ => exact quiet (by dsimp only [Op.effect, Deed.effect, createEffect, legacyEffect, requestTaskDeletionEffect]; decide)
  | decide | abandon | recognise => exact .same rfl
  | work nodeID w => cases w <;> exact quiet (by dsimp only [Op.effect, Work.effect]; decide)

/-! ## Phases -/

/-- The order of the phases. -/
def phaseRank : RemotePhase → Nat
  | .preparing => 0
  | .prepared => 1
  | .submitIntent => 2
  | .submitted => 3
  | .terminal => 4

theorem phaseRank_le (phase : RemotePhase) : phaseRank phase ≤ phaseRank .terminal := by
  cases phase <;> decide

/-- How a run goes on. -/
structure Advances (r r' : RemoteRun) : Prop where
  key : r'.nodeID = r.nodeID ∧ r'.submissionKey = r.submissionKey
  phase : phaseRank r.phase ≤ phaseRank r'.phase
  body : 1 ≤ phaseRank r.phase → r'.requestBodyJSON = r.requestBodyJSON ∧ r'.requestBodyHash = r.requestBodyHash
  job : 3 ≤ phaseRank r.phase → r'.upstreamTaskID = r.upstreamTaskID
  asked : r.cancelState ≠ .none → r'.cancelState ≠ .none
  refused : r.cancelState = .rejected → r'.cancelState = .rejected ∨ r'.phase = .terminal
  ended : r.phase = .terminal → r' = r

theorem Advances.refl (r : RemoteRun) : Advances r r :=
  ⟨⟨rfl, rfl⟩, Nat.le_refl _, fun _ => ⟨rfl, rfl⟩, fun _ => rfl, id, .inl, fun _ => rfl⟩

theorem Advances.trans {a b c : RemoteRun} (first : Advances a b) (last : Advances b c) : Advances a c := by
  obtain ⟨key, phase, body, job, asked, refused, ended⟩ := first
  obtain ⟨key', phase', body', job', asked', refused', ended'⟩ := last
  constructor <;> grind

theorem advances_of_leased {copy : RemoteRun} {now : Int} {act : LeaseAct} (moved : LeasedMove copy now act v v') (found : v.run = some r) :
    ∃ r', v'.run = some r' ∧ Advances r r' := by
  cases moved with
  | renew _ _ phase | release _ _ _ _ phase | prepare _ _ phase | bind _ _ phase | observe _ _ phase | refuse _ _ phase =>
    cases found
    exact ⟨_, rfl, by constructor <;> simp [phase, phaseRank, releasedRun, preparedRun, boundRun, refusedRun]⟩
  | begin _ _ phase =>
    cases found
    exact ⟨_, rfl, by rcases phase with phase | ⟨phase, -⟩ <;> constructor <;> simp [phase, phaseRank, begunRun]⟩
  | complete _ _ phase | deliver _ _ _ _ _ phase =>
    cases found
    refine ⟨_, rfl, ?_⟩
    constructor <;> simp only [completedRun, phaseRank_le, phase, false_implies, implies_true, and_self, or_true]
    grind

theorem RunChange.advances (change : RunChange e v v') (found : v.run = some r) :
    (∃ r', v'.run = some r' ∧ Advances r r') ∨ v'.task = none := by
  cases change with
  | same kept => exact .inl ⟨r, kept.trans found, .refl r⟩
  | begun _ _ none => cases none.symm.trans found
  | asked moved =>
    obtain ⟨phase, -, unrefused⟩ := moved
    cases found
    exact .inl ⟨_, rfl, by constructor <;> simp [phase, unrefused]⟩
  | acquired _ moved =>
    obtain ⟨_, phase⟩ := moved
    cases found
    exact .inl ⟨_, rfl, by constructor <;> simp [phase]⟩
  | leased _ _ _ moved => exact .inl (advances_of_leased moved found)
  | purged _ gone _ => exact .inr gone

theorem RunChange.before (change : RunChange e v v') (found : v'.run = some r) : (∃ r, v.run = some r) ∨ ∃ t, v.task = some t := by
  cases change with
  | same kept => exact .inl ⟨r, kept.symm.trans found⟩
  | begun t stored => exact .inr ⟨t, stored⟩
  | asked moved | acquired _ moved | leased _ _ _ moved => cases moved <;> exact .inl ⟨_, rfl⟩
  | purged _ _ none => cases none.symm.trans found

theorem Reaches.minted (start : Start s) (run : Reaches o ok s t) : Inv t ∧ ∀ r ∈ t.db.remoteRuns, r.taskID ∈ t.minted := by
  refine Reaches.holds (J := fun t => ∀ r ∈ t.db.remoteRuns, r.taskID ∈ t.minted) start (by simp [start.runs]) ?_ run
  intro t e u inv minted _ step r stored
  rcases (step.runs inv r.taskID).before (view_run_iff.mpr ⟨stored, rfl⟩) with ⟨old, found⟩ | ⟨task, found⟩
  · obtain ⟨mem, same⟩ := view_run_iff.mp found
    exact step.minted_subset (same ▸ minted old mem)
  · obtain ⟨mem, same⟩ := view_task_iff.mp found
    exact step.minted_subset (same ▸ inv.minted task mem)

/-- A purged task does not come back. -/
theorem Step.stays_gone {id : String} (inv : Inv s) (step : Step o s e t) (known : id ∈ s.minted) (gone : (view s.db id).task = none) :
    (view t.db id).task = none := by
  refine Option.eq_none_iff_forall_ne_some.mpr fun task found => ?_
  obtain ⟨stored, named⟩ := view_task_iff.mp found
  rcases step.back inv (R := fun c c' => c'.taskID = c.taskID) (fun _ => rfl)
    (fun _ _ _ first last => last.trans first) (fun _ _ _ _ _ move => move.keeps.1)
    task stored with ⟨old, mem, same⟩ | ⟨c, new, same⟩
  · cases gone.symm.trans (view_task_iff.mpr ⟨mem, same.symm.trans named⟩)
  · exact (step.fresh new).2 ((same.symm.trans named) ▸ known)

/-- In every run, a remote run keeps its node and its submission key, goes through its phases in order, keeps the body it has
prepared and the job it is bound to, does not forget a request to cancel it nor take one after a refusal, and is not written
again once it has ended; it is removed only with its task. -/
theorem remote_runs_advance (start : Start s) (run : Reaches o ok s t) (later : Reaches o ok t u) :
    ∀ r ∈ t.db.remoteRuns, (∃ r' ∈ u.db.remoteRuns, r'.taskID = r.taskID ∧ Advances r r') ∨
      ∀ task ∈ u.db.tasks, task.taskID ≠ r.taskID := by
  intro r stored
  obtain ⟨inv, minted⟩ := Reaches.minted start run
  have goes : Inv u ∧ r.taskID ∈ u.minted ∧ ((∃ r', (view u.db r.taskID).run = some r' ∧
      Advances r r') ∨ (view u.db r.taskID).task = none) := by
    refine Sim.Run.invariant (fun u => Inv u ∧ r.taskID ∈ u.minted ∧
      ((∃ r', (view u.db r.taskID).run = some r' ∧ Advances r r') ∨ (view u.db r.taskID).task = none))
      ⟨inv, minted r stored, .inl ⟨r, view_run_iff.mpr ⟨stored, rfl⟩, .refl r⟩⟩ ?_ later
    rintro v e w ⟨inv, known, goes⟩ - step
    refine ⟨inv.step step, step.minted_subset known, ?_⟩
    rcases goes with ⟨c, found, first⟩ | gone
    · exact ((step.runs inv _).advances found).imp_left fun ⟨c', found', last⟩ => ⟨c', found', first.trans last⟩
    · exact .inr (step.stays_gone inv known gone)
  rcases goes.2.2 with ⟨r', found, advanced⟩ | gone
  · obtain ⟨mem, named⟩ := view_run_iff.mp found
    exact .inl ⟨r', mem, named, advanced⟩
  · exact .inr fun task mem named => by cases gone.symm.trans (view_task_iff.mpr ⟨mem, named⟩)

/-- A worker has the lease of a new run. -/
def leased : State := remoteStart.after Flow.remoteOptions (undelivered.take 3)

/-- The run has ended, and the task has failed. -/
def released : State := leased.after Flow.remoteOptions (undelivered.drop 3)

theorem remote_runs_advance_ended :
    (leased.db.remoteRuns.map (·.phase), released.db.remoteRuns.map (·.phase)) = ([.preparing], [.terminal]) ∧
      ∀ r ∈ leased.db.remoteRuns, (∃ r' ∈ released.db.remoteRuns, r'.taskID = r.taskID ∧ Advances r r') ∨
        ∀ task ∈ released.db.tasks, task.taskID ≠ r.taskID :=
  ⟨by decide +kernel, remote_runs_advance remoteStart_start (reaches_after _ fun _ _ _ => trivial) (reaches_after _ fun _ _ _ => trivial)⟩

/-! ## Leases -/

/-- An event of anyone but the holder of the lease of `r`, before it ends. -/
structure Outside (r : RemoteRun) (e : Event) : Prop where
  lasts : unix e.now < r.leaseExpiresAt.getD 0
  other : e.op.lease ≠ r.leaseToken

/-- The run is as it was, or has been asked to be cancelled. -/
def Untouched (r r' : RemoteRun) : Prop := r' = r ∨ r' = { r with cancelState := .requested, nextPollAt := none, updatedAt := r'.updatedAt }

theorem Untouched.lease {c : RemoteRun} (same : Untouched r c) :
    c.phase = r.phase ∧ c.leaseToken = r.leaseToken ∧ c.leaseExpiresAt = r.leaseExpiresAt := by
  rcases same with rfl | same
  · exact ⟨rfl, rfl, rfl⟩
  · rw [same]
    exact ⟨rfl, rfl, rfl⟩

theorem token_of_leased {copy : RemoteRun} {now : Int} {act : LeaseAct} (moved : LeasedMove copy now act v v') (found : v.run = some r) :
    copy.leaseToken = r.leaseToken := by
  cases moved <;> cases found <;> simp_all [holds]

/-- A run that is open is not purged, since its task is at work. -/
theorem RunChange.untouched {c : RemoteRun} (change : RunChange e v v')
    (outside : Outside r e) (isOpen : r.phase ≠ .terminal) (fits : v.Fits)
    (sound : ∀ t, v.task = some t → Sound t.core) (found : v.run = some c) (same : Untouched r c) :
    ∃ c', v'.run = some c' ∧ Untouched r c' := by
  obtain ⟨phase, token, expires⟩ := same.lease
  cases change with
  | same kept => exact ⟨c, kept.trans found, same⟩
  | begun _ _ none => cases none.symm.trans found
  | asked moved =>
    cases moved
    cases found
    refine ⟨_, rfl, .inr ?_⟩
    rcases same with rfl | same
    · rfl
    · rw [same]
  | acquired _ moved =>
    obtain ⟨_, _, _, ended⟩ := moved
    cases found
    exact absurd (expires ▸ ended) (not_le.mpr outside.lasts)
  | leased copy act isCopy moved => exact absurd (isCopy.trans ((token_of_leased moved found).trans token)) outside.other
  | purged isOver =>
    obtain ⟨task, isTask, slot, -⟩ := fits.held c found (phase ▸ isOpen)
    have taken : task.status.isTaken = true := ((sound task isTask).slot slot.2).2.1
    exact absurd (idle_of_terminal (isOver task isTask)) (by rw [taken]; decide)

/-- In every run, while the lease of an open run lasts, all others can only ask to cancel it: its holder finds it as it was
otherwise, and still has the lease. -/
theorem leased_runs_untouched (start : Start s) (run : Reaches o ok s t) (stored : r ∈ t.db.remoteRuns) (isOpen : r.phase ≠ .terminal)
    (later : Reaches o (fun _ => Outside r) t u) : ∃ r' ∈ u.db.remoteRuns, Untouched r r' := by
  suffices kept : Inv u ∧ SlotsFit u.db ∧ ∃ r', (view u.db r.taskID).run = some r' ∧ Untouched r r' by
    obtain ⟨-, -, r', found, same⟩ := kept
    exact ⟨r', (view_run_iff.mp found).1, same⟩
  obtain ⟨inv, fits⟩ := Reaches.fits start run
  refine Sim.Run.invariant (fun u => Inv u ∧ SlotsFit u.db ∧ ∃ r', (view u.db r.taskID).run = some r' ∧ Untouched r r')
    ⟨inv, fits, r, view_run_iff.mpr ⟨stored, rfl⟩, .inl rfl⟩ ?_ later
  rintro v e w ⟨inv, fits, c, found, same⟩ outside step
  refine ⟨inv.step step, step.fits inv fits, (step.runs inv _).untouched outside isOpen (fits _) (fun task isTask => ?_) found same⟩
  exact inv.orderly.sound task (view_task_iff.mp isTask).1

/-- Another worker wants the lease, the administrator wants the task purged, and then it is to be cancelled. -/
def contest : List Event :=
  [⟨.deed (.acquireRemoteLease "t1" "n1" "w2" 60), 2000, noFaults, 0⟩, ⟨.deed (.adminDelete "t1" (some [])), 2000, noFaults, 0⟩,
   ⟨.deed (.requestRemoteCancel "t1"), 3000, noFaults, 0⟩]

theorem leased_runs_untouched_contested :
    (leased.after Flow.remoteOptions contest).db.remoteRuns.map (fun r => (r.leaseToken, r.cancelState)) = [(some "w1", .requested)] ∧
      ∃ r ∈ (leased.after Flow.remoteOptions contest).db.remoteRuns, Untouched Flow.remoteLease r := by
  have others : ∀ e ∈ contest, ∀ s : State, Outside Flow.remoteLease e := by
    simp only [contest, List.mem_cons, List.not_mem_nil, or_false]
    rintro _ (rfl | rfl | rfl) _ <;> exact ⟨by decide, by decide⟩
  exact ⟨by decide +kernel, leased_runs_untouched remoteStart_start (reaches_after _ fun _ _ _ => trivial) (by decide +kernel) (by decide)
    (reaches_after _ others)⟩

end MinimaxProxy.Service
