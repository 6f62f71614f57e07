import MinimaxProxy.Service.Dispatch

/-!
# Barriers close their nodes

A cancel puts a barrier on the node of the open attempt of its task. `ClaimStage` asks for the
barrier (stage_store.go:88), `CreateStageAttempt` does not: it asks for the lease of the stage,
which the cancel has taken away. So a node with a barrier gets no attempt, and has none that
another cancel could find, as long as the stage in hand is the only one that its worker can have.
-/

namespace MinimaxProxy.Service
open Sql Sql.Prog Store

/-! ## What the deeds do to them -/

/-- Barriers stay until they are resolved, and a new one comes with the cancellation of a task. -/
structure BarrierMove (op : Op) (db db' : Database) : Prop where
  forth : ∀ b ∈ db.barriers, (∃ b' ∈ db'.barriers, SameBarrier b b') ∨ op = .deed (.resolveNodeDispatchBarrier b.nodeID b.rowVersion)
  back : (∀ b' ∈ db'.barriers, ∃ b ∈ db.barriers, SameBarrier b b') ∨ ∃ taskID, CancelsStages taskID db db' ∧ Barred taskID db db'

theorem barrierMove_of_map {op : Op} {db db' : Database} {f : Barrier → Barrier} (keeps : ∀ b, SameBarrier b (f b))
    (rows : db'.barriers = db.barriers.map f) : BarrierMove op db db' where
  forth b stored := .inl ⟨f b, rows ▸ List.mem_map_of_mem stored, keeps b⟩
  back := .inl fun b' mem => by
    rw [rows] at mem
    obtain ⟨b, stored, rfl⟩ := List.mem_map.mp mem
    exact ⟨b, stored, keeps b⟩

theorem barrierMove_of_same {op : Op} {db db' : Database} (same : db'.barriers = db.barriers) : BarrierMove op db db' :=
  barrierMove_of_map .refl (same.trans (List.map_id _).symm)

theorem barrierMove_updated {op : Op} {db : Database} {sel : Barrier → Bool} {set : Barrier → Barrier} (keeps : ∀ b, SameBarrier b (set b))
    {faults : Faults Err} {n : Nat} : BarrierMove op db
      ((exec (.update Tbl.nodeDispatchBarriers (fun _ b => sel b) fun _ b => set b) >>= barrierOneRow).direct faults n db).db := by
  obtain ⟨f, same, rows⟩ := barriers_updated keeps
  exact barrierMove_of_map same rows

section
variable {o : Options} {s t : State} {e : Event}

theorem Deed.barriers (d : Deed) (o : Options) (now : Int) (faults : Faults Err) (n : Nat) (orderly : Orderly s.db) (known : d.Known s) :
    BarrierMove (.deed d) s.db (d.after o now faults n s.db) := by
  have plain (other : .nodeDispatchBarriers ∉ d.effect.tables) : BarrierMove (.deed d) s.db (d.after o now faults n s.db) :=
    barrierMove_of_same (Effect.same_rows (d.evolves o now faults n orderly known) (by decide) other)
  cases d with
  | adminCancel taskID callbackID =>
    rcases adminCancel_cases orderly.pipeline orderly.sound with quietly | ⟨cancels, -, barred⟩
    · exact barrierMove_of_same (Effect.same_rows quietly (by decide) (by decide))
    · refine ⟨fun b stored => .inl ⟨b, ?_, .refl b⟩, .inr ⟨taskID, cancels, barred⟩⟩
      rcases barred with same | ⟨_, _, _, -, -, -, -, rows⟩
      · exact same ▸ stored
      · rw [Deed.after, rows]
        exact List.mem_append_left _ stored
  | bindBarrierExecution nodeID rowVersion executionID =>
    rw [Deed.after, Store.bindBarrierExecution]
    refine barrierMove_updated ?_
    exact fun _ => ⟨rfl, rfl, rfl, rfl⟩
  | deferNodeDispatchBarrier nodeID rowVersion errorCode retryAt =>
    rw [Deed.after, Store.deferNodeDispatchBarrier]
    refine barrierMove_updated ?_
    exact fun _ => ⟨rfl, rfl, rfl, rfl⟩
  | resolveNodeDispatchBarrier nodeID rowVersion =>
    rcases barriers_resolved with same | rows
    · exact barrierMove_of_same same
    · refine ⟨fun b stored => ?_, .inl fun b' mem => ⟨b', ?_, .refl b'⟩⟩
      · by_cases hit : (b.nodeID == nodeID && b.rowVersion == rowVersion) = true
        · simp only [Bool.and_eq_true, beq_iff_eq] at hit
          exact .inr (by rw [hit.1, hit.2])
        · refine .inl ⟨b, ?_, .refl b⟩
          rw [Deed.after, rows]
          exact List.mem_filter.mpr ⟨stored, by rw [Bool.eq_false_iff.mpr hit]; rfl⟩
      · rw [Deed.after, rows] at mem
        exact (List.mem_filter.mp mem).1
  | create | markSucceeded | finishCancelled | markFailed | requeue =>
    exact plain (by dsimp only [Deed.effect, createEffect, legacyEffect]; decide)
  | _ => exact plain (by dsimp only [Deed.effect, legacyEffect, requestTaskDeletionEffect]; decide)

theorem Step.barriers (inv : Inv s) (step : Step o s e t) : BarrierMove e.op s.db t.db := by
  cases step with
  | deed d now faults n known => exact d.barriers o now faults n inv.orderly known
  | work nodeID w now faults n db seat named new taken =>
    exact barrierMove_of_same (Effect.same_rows (inv.worked named new taken).law (by decide) (w.plain (by decide)))
  | decide | abandon | recognise => exact barrierMove_of_same rfl

/-! ## What keeps the node closed -/

/-- The node of the barrier has no open attempt, and its worker no lease; the barrier is for an
attempt on the node. -/
structure ClosedBy (b : Barrier) (s : State) : Prop where
  attempts : ∀ a ∈ s.db.attempts, a.status.isOpen = true → a.nodeID ≠ b.nodeID
  leases : ∀ stageID token, (s.seats b.nodeID).lease = some (stageID, token) →
    ∀ stage ∈ s.db.stages, stage.id = stageID → stage.leaseToken ≠ some token
  drawn : b.attemptID ∈ s.drawn
  operation : b.cancelOperationID = "stage-cancel-" ++ b.attemptID
  origin : ∀ a ∈ s.db.attempts, a.id = b.attemptID → a.nodeID = b.nodeID

variable {b b' : Barrier} {db : Database}

theorem ClosedBy.quiet (h : ClosedBy b s) (same : SameBarrier b b') (descend : Descend NoneNew s.db db)
    (spares : ∀ stageID token, Spares stageID token s.db db) : ClosedBy b' { s with db := db } := by
  have old {a' : Attempt} (mem : a' ∈ db.attempts) : ∃ a ∈ s.db.attempts, Stems a a' := by
    rcases descend a' mem with found | no
    · exact found
    · exact no.elim
  refine ⟨fun a' mem isOpen => ?_, fun stageID token lease stage isStage named held => ?_, same.attempt ▸ h.drawn,
    by rw [same.operation, same.attempt]; exact h.operation, fun a' mem named => ?_⟩
  · obtain ⟨a, stored, stems⟩ := old mem
    rw [stems.node, same.node]
    exact h.attempts a stored (stems.isOpen isOpen)
  · obtain ⟨was, isStored, isNamed, isHeld, -⟩ := spares stageID token stage isStage named held
    exact h.leases stageID token (same.node ▸ lease) was isStored isNamed isHeld
  · obtain ⟨a, stored, stems⟩ := old mem
    rw [stems.node, same.node]
    exact h.origin a stored (stems.id.symm.trans (named.trans same.attempt))

/-- The cancellation of the task in hand ends the attempt and takes the lease. -/
theorem closedBy_cancelled (inv : Inv s) (inHand : InHand s) {taskID : String}
    (cancels : CancelsStages taskID s.db db) {stage : Stage} {a : Attempt}
    (found : lastOpenAttempt s.db taskID = some (stage, a)) (node : b.nodeID = a.nodeID) (attempt : b.attemptID = a.id)
    (operation : b.cancelOperationID = "stage-cancel-" ++ a.id) : ClosedBy b { s with db := db } := by
  obtain ⟨stored, ofTask, isAttempt, ofStage, isOpen⟩ := lastOpenAttempt_spec found
  refine ⟨fun a' mem isOpen' here => ?_, fun stageID token lease stage' isStage named held => ?_, attempt ▸ inv.attempts a isAttempt,
    by rw [attempt]; exact operation, fun a' mem named => ?_⟩
  · obtain ⟨a₀, stored₀, ended⟩ := cancels.attempt mem
    obtain ⟨stems, other⟩ := stems_cancelled ended
    have sameStage := inHand.one a₀ stored₀ a isAttempt (stems.isOpen isOpen') isOpen (stems.node.symm.trans (here.trans node))
    have own : stageOf s.db taskID a₀.stageID = true := stageOf_iff.mpr ⟨stage, stored, ofTask, (sameStage.trans ofStage).symm⟩
    rw [other isOpen'] at own
    cases own
  · have inHandStage := inHand.seat a isAttempt isOpen stageID token (node ▸ lease)
    obtain ⟨was, isStored, cancelled⟩ := cancels.stage isStage
    obtain ⟨rfl, other⟩ := other_of_leased inv.orderly.pipeline isStored cancelled held
    rw [eq_of_key (stages_distinct s.db) isStored stored (named.trans (inHandStage.trans ofStage))] at other
    exact other ofTask
  · obtain ⟨a₀, stored₀, ended⟩ := cancels.attempt mem
    have stems := (stems_cancelled ended).1
    rw [node, stems.node, eq_of_key (attempts_distinct s.db) stored₀ isAttempt (stems.id.symm.trans (named.trans attempt))]

theorem ClosedBy.work (h : ClosedBy b s) (stored : b ∈ s.db.barriers) (inv : Inv s) {nodeID : String} {w : Work} {now : Int}
    {faults : Faults Err} {n : Nat} {seat : Seat} (new : ∀ id ∈ w.draws, id ∉ s.drawn)
    (worked : Worked nodeID (s.seats nodeID) w s.db db seat)
    (taken : w.step o nodeID now faults n s.db (s.seats nodeID) = some (db, seat)) :
    ClosedBy b { s with db := db, drawn := w.draws ++ s.drawn, seats := Function.update s.seats nodeID seat } := by
  have old (stageID token : String) (lease : (s.seats b.nodeID).lease = some (stageID, token)) :
      ∀ stage ∈ db.stages, stage.id = stageID → stage.leaseToken ≠ some token := by
    intro stage isStage named held
    rcases worked.tokens stage isStage token held with drawn | ⟨was, isStored, same, isHeld⟩
    · exact new token drawn (inv.leases b.nodeID stageID token lease)
    · exact h.leases stageID token lease was isStored (same.trans named) isHeld
  refine ⟨fun a' mem isOpen here => ?_, fun stageID token lease => ?_, List.mem_append_right _ h.drawn, h.operation, fun a' mem named => ?_⟩
  · rcases worked.descend a' mem with ⟨a, isStored, stems⟩ | begun
    · exact h.attempts a isStored (stems.isOpen isOpen) (stems.node.symm.trans here)
    · obtain ⟨token, lease, stage, isStage, isNamed, isHeld⟩ := begun.held
      exact h.leases _ token (here.symm.trans begun.node ▸ lease) stage isStage isNamed isHeld
  · by_cases own : b.nodeID = nodeID
    · subst own
      simp only [Function.update_self] at lease
      rcases Work.leases taken with unleased | same | claimed
      · cases unleased.symm.trans lease
      · exact old stageID token (same ▸ lease)
      · exact absurd rfl (claimed.unbarred b stored)
    · simp only [Function.update_of_ne own] at lease
      exact old stageID token lease
  · rcases worked.descend a' mem with ⟨a, isStored, stems⟩ | begun
    · exact stems.node.trans (h.origin a isStored (stems.id.symm.trans named))
    · exact absurd h.drawn (named ▸ new _ begun.drawn)

/-- Every barrier closes its node. -/
def Closed (s : State) : Prop := ∀ b ∈ s.db.barriers, ClosedBy b s

theorem Closed.step (h : Closed s) (inv : Inv s) (inHand : InHand s) (step : Step o s e t) : Closed t := by
  have moves := step.barriers inv
  intro b' mem
  cases step with
  | deed d now faults n known =>
    have kept := inv.undisturbed d now faults n known (o := o)
    have quiet {b : Barrier} (stored : b ∈ s.db.barriers) (same : SameBarrier b b') :=
      (h b stored).quiet same kept.descend kept.spares
    rcases moves.back with back | ⟨taskID, cancels, barred⟩
    · obtain ⟨b, stored, same⟩ := back b' mem
      exact { quiet stored same with }
    · rcases barred with same | ⟨stage, a, b, found, node, attempt, operation, rows⟩
      · exact { quiet (same ▸ mem) (.refl b') with }
      · rw [rows] at mem
        rcases List.mem_append.mp mem with old | new
        · exact { quiet old (.refl b') with }
        · rw [List.mem_singleton.mp new]
          exact { closedBy_cancelled inv inHand cancels found node attempt operation with }
  | work nodeID w now faults n db seat named new taken =>
    have worked := inv.worked named new taken
    have stored : b' ∈ s.db.barriers := by
      have same : Database.barriers db = s.db.barriers := Effect.same_rows worked.law (by decide) (w.plain (by decide))
      exact same ▸ mem
    exact { (h b' stored).work stored inv new worked taken with }
  | decide | abandon | recognise => exact { h b' mem with }

/-! ## What the barriers are for -/

/-- A barrier stays until it is resolved, while it is there no attempt is made on its node, and a
cancel of a task with an open attempt ends as it would without the barriers. -/
structure BarriersHold (o : Options) (s : State) : Prop where
  stays : ∀ e t, Step o s e t → ∀ b ∈ s.db.barriers, (∃ b' ∈ t.db.barriers, SameBarrier b b') ∨
    e.op = .deed (.resolveNodeDispatchBarrier b.nodeID b.rowVersion)
  bars : ∀ e t, Step o s e t → ∀ b ∈ s.db.barriers, ∀ a' ∈ t.db.attempts, a'.nodeID = b.nodeID → ∃ a ∈ s.db.attempts, a.id = a'.id
  cancels : ∀ stage ∈ s.db.stages, ∀ a ∈ s.db.attempts, a.stageID = stage.id → a.status.isOpen = true → ∀ callbackID now faults n,
    (requestAdminCancel o stage.taskID callbackID now faults n s.db).result =
    (requestAdminCancel o stage.taskID callbackID now faults n (unbarred s.db)).result

theorem Closed.bars (h : Closed s) (inv : Inv s) (step : Step o s e t) (stored : b ∈ s.db.barriers) {a' : Attempt}
    (mem : a' ∈ t.db.attempts) (here : a'.nodeID = b.nodeID) : ∃ a ∈ s.db.attempts, a.id = a'.id := by
  cases step with
  | deed d now faults n known =>
    rcases (inv.undisturbed d now faults n known (o := o)).descend a' mem with ⟨a, isStored, stems⟩ | no
    · exact ⟨a, isStored, stems.id.symm⟩
    · exact no.elim
  | work nodeID w now faults n db seat named new taken =>
    rcases (inv.worked named new taken).descend a' mem with ⟨a, isStored, stems⟩ | begun
    · exact ⟨a, isStored, stems.id.symm⟩
    · obtain ⟨token, lease, stage, isStage, isNamed, isHeld⟩ := begun.held
      exact absurd isHeld ((h b stored).leases _ token (here.symm.trans begun.node ▸ lease) stage isStage isNamed)
  | decide | abandon | recognise => exact ⟨a', mem, rfl⟩

/-- The barriers are on other nodes than an open attempt, and for other attempts. -/
theorem Closed.free (h : Closed s) {taskID : String} {stage : Stage} {a : Attempt} (found : lastOpenAttempt s.db taskID = some (stage, a)) :
    Unbarred s.db a := by
  obtain ⟨-, -, isAttempt, -, isOpen⟩ := lastOpenAttempt_spec found
  intro b stored
  have closed := h b stored
  have other : b.nodeID ≠ a.nodeID := (closed.attempts a isAttempt isOpen).symm
  refine ⟨other, fun same => ?_⟩
  rw [closed.operation, String.append_right_inj] at same
  exact other (closed.origin a isAttempt same.symm).symm

/-- A task without a remote slot is cancelled by the administrator's transaction. -/
theorem requestAdminCancel_result {taskID : String} (noSlot : remoteSlot taskID db = false) (callbackID : String) (now : Int)
    (faults : Faults Err) (n : Nat) :
    (requestAdminCancel o taskID callbackID now faults n db).result = (adminCancel o taskID callbackID now faults (n + 1) db).result := by
  have seen : ∃ r, r ≠ .ok true ∧
      (attempt (select (remoteSlot taskID)) : Prog (Except Err Bool)).direct faults n db = ⟨.ok r, db, n + 1⟩ := by
    simp only [direct, attempt, select, query, Prog.bind, orElse, run]
    cases faults n with
    | some e => exact ⟨.error e, (fun h => by cases h), rfl⟩
    | none => exact ⟨.ok false, (fun h => by cases h), by rw [noSlot]⟩
  obtain ⟨r, other, seen⟩ := seen
  rw [requestAdminCancel, Call.bind_of_ok seen]
  split
  · exact absurd rfl other
  · rfl

/-- In every run of sequential stage workers, one for each node, which claim no stage but the one
in hand. -/
theorem barriers_hold (start : Start s) (noBarriers : s.db.barriers = []) (run : Reaches o ClaimsOwn s t) : BarriersHold o t := by
  have first : Closed s := fun b mem => by rw [noBarriers] at mem; cases mem
  obtain ⟨inv, inHand, closed⟩ := Reaches.holds (J := fun u => InHand u ∧ Closed u) start ⟨start.inHand, first⟩
    (fun _ _ _ inv h met step => ⟨h.1.step inv met step, h.2.step inv h.1 step⟩) run
  refine ⟨fun e u step b stored => (step.barriers inv).forth b stored,
    fun e u step b stored a' mem here => closed.bars inv step stored mem here,
    fun stage isStage a isAttempt ofStage isOpen callbackID now faults n => ?_⟩
  have noSlot : remoteSlot stage.taskID t.db = false := by
    rw [remoteSlot, List.any_eq_false]
    intro task isTask hit
    simp only [Bool.and_eq_true, beq_iff_eq] at hit
    have staffed := inv.orderly.pipeline.staffed a isAttempt isOpen stage isStage ofStage.symm task isTask hit.1.1.1
    cases staffed.protocol.symm.trans hit.1.2
  have noSlot' : remoteSlot stage.taskID (unbarred t.db) = false := noSlot
  rw [requestAdminCancel_result noSlot, requestAdminCancel_result noSlot']
  exact (adminCancel_agree (fun _ _ found => closed.free found)).result

end

/-- The first task is cancelled during its attempt. -/
def barredRun : List Event := stageRun.take 5 ++ [⟨.deed (.adminCancel "t1" "c9"), 1000, noFaults, 0⟩]

theorem barriers_hold_cancelled :
    ((stageStart.after Flow.remoteOptions barredRun).db.barriers.map fun b => (b.nodeID, b.attemptID)) = [("n1", "a1")] ∧
      BarriersHold Flow.remoteOptions (stageStart.after Flow.remoteOptions barredRun) :=
  ⟨by decide +kernel, barriers_hold stageStart_start rfl (reaches_of_meets (by decide +kernel))⟩

/-- The worker has claimed the second task after a restart when the first one is cancelled. -/
def passedState : State :=
  stageStart.after Flow.remoteOptions (sharedRun.take 8 ++ [⟨.deed (.adminCancel "t1" "c9"), 1000, noFaults, 0⟩])

def passingAttempt : Event := ⟨.work "n1" (.begin (stageAttempt "b1" "u1" 1)), 1000, noFaults, 0⟩

/-- It makes its attempt in spite of the barrier, and then the second task cannot be cancelled. -/
theorem restarted_worker_passes_barrier :
    ∃ t u e, Reaches Flow.remoteOptions (fun _ _ => True) stageStart t ∧ Step Flow.remoteOptions t e u ∧
      (t.db.barriers.map fun b => (b.nodeID, b.attemptID)) = [("n1", "a1")] ∧
      (t.db.attempts.map fun a => (a.id, a.nodeID)) = [("a1", "n1")] ∧
      (u.db.attempts.map fun a => (a.id, a.nodeID, a.stageID, a.status)) = [("a1", "n1", "s1", .failed), ("b1", "n1", "u1", .dispatching)] ∧
      (requestAdminCancel Flow.remoteOptions "t2" "c10" 1000 noFaults 0 u.db).result = .error (.sqlite .unique) ∧
      (requestAdminCancel Flow.remoteOptions "t2" "c10" 1000 noFaults 0 (unbarred u.db)).result = .ok () ∧
      ¬ BarriersHold Flow.remoteOptions t ∧ ¬ BarriersHold Flow.remoteOptions u := by
  have step : Step Flow.remoteOptions passedState passingAttempt (passedState.after Flow.remoteOptions [passingAttempt]) :=
    Event.step_after (by decide +kernel)
  have passes : ∃ b ∈ passedState.db.barriers, ∃ a' ∈ (passedState.after Flow.remoteOptions [passingAttempt]).db.attempts,
      a'.nodeID = b.nodeID ∧ ∀ a ∈ passedState.db.attempts, a.id ≠ a'.id := by decide +kernel
  have fails : ∃ stage ∈ (passedState.after Flow.remoteOptions [passingAttempt]).db.stages,
      ∃ a ∈ (passedState.after Flow.remoteOptions [passingAttempt]).db.attempts,
        a.stageID = stage.id ∧ a.status.isOpen = true ∧ stage.taskID = "t2" := by decide +kernel
  have refused : (requestAdminCancel Flow.remoteOptions "t2" "c10" 1000 noFaults 0
      (passedState.after Flow.remoteOptions [passingAttempt]).db).result = .error (.sqlite .unique) := by decide +kernel
  have taken : (requestAdminCancel Flow.remoteOptions "t2" "c10" 1000 noFaults 0
      (unbarred (passedState.after Flow.remoteOptions [passingAttempt]).db)).result = .ok () := by decide +kernel
  refine ⟨passedState, _, _, reaches_after _ fun _ _ _ => trivial,
    step, by decide +kernel, by decide +kernel, by decide +kernel, refused, taken,
    fun hold => ?_, fun hold => ?_⟩
  · obtain ⟨b, stored, a', mem, here, new⟩ := passes
    obtain ⟨a, isStored, same⟩ := hold.bars _ _ step b stored a' mem here
    exact new a isStored same
  · obtain ⟨stage, isStage, a, isAttempt, ofStage, isOpen, named⟩ := fails
    have equal := hold.cancels stage isStage a isAttempt ofStage isOpen "c10" 1000 noFaults 0
    rw [named, refused, taken] at equal
    cases equal

end MinimaxProxy.Service
