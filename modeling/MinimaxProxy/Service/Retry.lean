import Mathlib.Algebra.Group.Int.Defs
import MinimaxProxy.Service.Stages

/-!
# The retries of a stage

When an attempt ends badly, `Processor.fail` (orchestrator.go:516) decides whether the stage
has another one. It reckons with the row that the worker read when it claimed the stage: an
attempt that the worker has begun is not counted there, one that it has taken up after a
restart is.
-/

namespace MinimaxProxy.Service
open Sql Sql.Prog Store

/-! ## The decision -/

/-- `retryableCode` (orchestrator.go:570). -/
def retryableCode (code : String) : Bool :=
  ["node_submit_unavailable", "node_execution_unavailable", "node_artifact_unavailable", "comfyui_unavailable",
    "stage_runtime_unavailable", "artifact_locked"].contains code

/-- `backoff` (orchestrator.go:579), in milliseconds. -/
def backoff (attempt : Int) : Int := 2 ^ (max (min attempt 8 - 1) 0).toNat * 1000

/-- `Processor.fail` (orchestrator.go:516) for an attempt of the stage that was read as `stage`,
at `now`; the store gets to it `later`. Where there is no attempt yet, the worker begins one
first. -/
def fail (stage : Stage) (attemptID code message : String) (terminal : Bool) (callbackID : String) (now later : Int) : Call Unit :=
  failStage stage.id (stage.leaseToken.getD "") attemptID code message (now + backoff (stage.attemptCount + 1))
    (terminal || stage.attemptCount + 1 ≥ stage.maxAttempts || !retryableCode code) callbackID later

theorem backoff_pos (attempt : Int) : 0 < backoff attempt := Int.mul_pos (Int.pow_pos (by decide)) (by decide)

/-! ## What the workers have read -/

/-- The row of the claimed stage, and whether the attempt was found there. -/
structure Memory where
  stage : Stage
  resumed : Bool

/-- What the worker of `nodeID` remembers after a step. -/
def Work.recall (nodeID : String) (now : Int) (faults : Faults Err)
    (n : Nat) (db : Database) (memory : Option Memory) : Work → Option Memory
  | .claim leaseToken leaseDuration =>
    match (Store.claimStage nodeID leaseToken leaseDuration now faults n db).result with
    | .ok stage => some ⟨stage, false⟩
    | .error _ => none
  | .resume => memory.map ({ · with resumed := true })
  | .begin _ => memory.map ({ · with resumed := false })
  | _ => memory

/-- The service, and what its workers remember. -/
structure Watch where
  state : State
  memory : String → Option Memory := fun _ => none

def Watch.recall (w : Watch) (e : Event) : String → Option Memory :=
  match e.op with
  | .work nodeID x => Function.update w.memory nodeID (x.recall nodeID e.now e.faults e.statement w.state.db (w.memory nodeID))
  | _ => w.memory

/-- A step of the service. -/
def Watch.Step (o : Options) (w : Watch) (e : Event) (w' : Watch) : Prop :=
  Service.Step o w.state e w'.state ∧ w'.memory = w.recall e

/-- The attempts that the worker has begun since it read the row. -/
def Memory.begun (m : Memory) : Seat → Int
  | .working .. => if m.resumed then 0 else 1
  | _ => 0

/-- While the worker has the lease, the row is as it remembers it. -/
def Recalls (db : Database) (seat : Seat) (memory : Option Memory) : Prop :=
  ∀ stageID token, seat.lease = some (stageID, token) → ∃ m, memory = some m ∧ m.stage.id = stageID ∧ m.stage.leaseToken = some token ∧
    ∀ s ∈ db.stages, s.id = stageID → s.leaseToken = some token →
      s.maxAttempts = m.stage.maxAttempts ∧ s.attemptCount = m.stage.attemptCount + m.begun seat

theorem recalls_idle {db : Database} {memory : Option Memory} : Recalls db .idle memory := nofun

/-! ## The budget of a stage -/

/-- A leased stage was there before, with the same budget. -/
def Budgeted (db db' : Database) : Prop :=
  ∀ s' ∈ db'.stages, s'.leaseToken.isSome = true → ∃ s ∈ db.stages, s.id = s'.id ∧ s'.maxAttempts = s.maxAttempts

section
variable {db db' : Database} {seat seat' : Seat} {memory : Option Memory}

/-- A worker whose lease is spared remembers the row as it is. -/
theorem Recalls.spared (recalls : Recalls db seat memory) (budgeted : Budgeted db db')
    (spares : ∀ stageID token, seat.lease = some (stageID, token) → Spares stageID token db db') : Recalls db' seat memory := by
  intro stageID token lease
  obtain ⟨m, kept, ofStage, holds, row⟩ := recalls stageID token lease
  refine ⟨m, kept, ofStage, holds, fun s' mem named held => ?_⟩
  obtain ⟨s, stored, isNamed, isHeld, count, -, -⟩ := spares stageID token lease s' mem named held
  obtain ⟨u, isStage, same, budget⟩ := budgeted s' mem (by rw [held]; rfl)
  obtain rfl := eq_of_key (stages_distinct db) isStage stored (same.trans (named.trans isNamed.symm))
  have old := row u stored isNamed isHeld
  exact ⟨budget.trans old.1, count.trans old.2⟩

theorem Handled.budgeted (handled : Handled db db') : Budgeted db db' := by
  intro s' mem leased
  cases handled with
  | quiet quiet =>
    rw [quiet.stages] at mem
    exact ⟨s', mem, rfl, rfl⟩
  | added adds =>
    rcases adds.stage mem with old | isNew
    · exact ⟨s', old, rfl, rfl⟩
    · rw [isNew.unleased] at leased
      cases leased
  | cancelled cancels =>
    obtain ⟨s, stored, cancelled⟩ := cancels.stage mem
    exact ⟨s, stored, cancelled.same.1.symm, cancelled.same.2.2.2.2.1⟩
  | dropped drops => exact ⟨s', (drops.stage.mp mem).1, rfl, rfl⟩
  | settled settles =>
    obtain ⟨s, stored, settled⟩ := settles.stage mem
    exact ⟨s, stored, settled.same.1.symm, settled.same.2.2.2.2.1⟩

end

/-! ## Steps of the workers -/

/-- The attempts of the stage that the step makes, if it goes well. -/
def Work.makes (stageID : String) : Work → Int
  | .begin a => if a.stageID = stageID then 1 else 0
  | _ => 0

/-- A stage before and after the step of a worker. -/
structure Tally (w : Work) (seat' : Seat) (s s' : Stage) : Prop where
  id : s.id = s'.id
  budget : s'.maxAttempts = s.maxAttempts
  token : ∀ token, s'.leaseToken = some token → s.leaseToken = some token ∨ ∃ leaseDuration, w = .claim token leaseDuration
  count : seat' ≠ .idle → s'.attemptCount = s.attemptCount + w.makes s.id

section
variable {o : Options} {nodeID : String} {now : Int} {faults : Faults Err} {n : Nat} {db db' : Database} {seat seat' : Seat} {w : Work}

theorem tally_of_same (stages : db'.stages = db.stages) (makesNone : seat' ≠ .idle → ∀ stageID, w.makes stageID = 0) :
    ∀ s' ∈ db'.stages, ∃ s ∈ db.stages, Tally w seat' s s' := by
  intro s mem
  rw [stages] at mem
  exact ⟨s, mem, rfl, rfl, fun _ => .inl, fun goesOn => by rw [makesNone goesOn, Int.add_zero]⟩

theorem tally_of_map {f : Stage → Stage} (stages : db'.stages = db.stages.map f) (each : ∀ s ∈ db.stages, Tally w seat' s (f s)) :
    ∀ s' ∈ db'.stages, ∃ s ∈ db.stages, Tally w seat' s s' := by
  intro s' mem
  rw [stages] at mem
  obtain ⟨s, stored, rfl⟩ := List.mem_map.mp mem
  exact ⟨s, stored, each s stored⟩

/-- One stage is written by the step, and no attempt is made. -/
theorem tally_of_sets {s s' : Stage} (sets : SetsStage db db' s s') (budget : s'.maxAttempts = s.maxAttempts)
    (count : s'.attemptCount = s.attemptCount) (makesNone : ∀ stageID, w.makes stageID = 0)
    (token : ∀ token, s'.leaseToken = some token → s.leaseToken = some token ∨ ∃ leaseDuration, w = .claim token leaseDuration) :
    ∀ u' ∈ db'.stages, ∃ u ∈ db.stages, Tally w seat' u u' := by
  refine tally_of_map sets.stages fun u stored => ?_
  split
  · rename_i own
    obtain rfl := eq_of_key (stages_distinct db) stored sets.stored own
    exact ⟨sets.same.1.symm, budget, token, fun _ => by rw [makesNone, Int.add_zero, count]⟩
  · exact ⟨rfl, rfl, fun _ => .inl, fun _ => by rw [makesNone, Int.add_zero]⟩

theorem Work.tally (h : Pipeline db) (seated : Seated db nodeID seat)
    (taken : w.step o nodeID now faults n db seat = some (db', seat')) : ∀ s' ∈ db'.stages, ∃ s ∈ db.stages, Tally w seat' s s' := by
  cases Work.taken taken with
  | claim leaseToken leaseDuration =>
    rcases immediate_effect (claimStageBody nodeID leaseToken leaseDuration now) faults with same | ⟨r, out⟩
    · exact tally_of_same (by rw [claimStage, same]) fun _ _ => rfl
    · obtain ⟨s, leases, -⟩ := claimStage_spec out
      have sets : SetsStage db _ s (leasedStage nodeID leaseToken leaseDuration now s) :=
        ⟨leases.leasable.stored, ⟨rfl, rfl, rfl⟩, leases.stages⟩
      exact tally_of_sets sets rfl rfl (fun _ => rfl) fun token held => .inr ⟨leaseDuration, by rw [← Option.some.inj held]⟩
  | resume | leave => exact tally_of_same rfl fun _ _ => rfl
  | begin stageID token attempts a proper =>
    rcases immediate_cases (createStageAttemptBody o a token now) faults with ⟨e, error, same⟩ | ⟨r, ok, out⟩
    · rw [createStageAttempt, Seat.after_error error, same]
      exact tally_of_same rfl fun goesOn => absurd rfl goesOn
    · rw [createStageAttempt, Seat.after_ok ok]
      obtain ⟨s, makes⟩ := createStageAttempt_spec out h.named
      obtain ⟨updated, stages⟩ := makes.stages
      refine tally_of_map stages fun u stored => ?_
      split
      · rename_i own
        obtain rfl := eq_of_key (stages_distinct db) stored makes.stored own
        exact ⟨rfl, rfl, fun _ => .inl, fun _ => by rw [Work.makes, if_pos makes.named]⟩
      · rename_i other
        exact ⟨rfl, rfl, fun _ => .inl, fun _ => by rw [Work.makes, makes.named, if_neg (Ne.symm other), Int.add_zero]⟩
  | bind stageID token attemptID executionID callbackID =>
    rw [bindStageExecution]
    rcases immediateShadowed_effect (bindStageExecutionBody stageID token attemptID executionID callbackID now) faults with same | ⟨r, out⟩
    · exact tally_of_same (by rw [same]) fun _ _ => rfl
    · rcases bindStageExecution_spec h out with same | ⟨a, a', s, s', binds⟩
      · exact tally_of_same (same .taskStages) fun _ _ => rfl
      · obtain ⟨sameToken, -, count, budget, -⟩ := binds.stage
        exact tally_of_sets binds.sets budget count (fun _ => rfl) fun token' held => .inl (sameToken ▸ held)
  | renew stageID token attemptID leaseDuration =>
    cases renewStageLease_cases with
    | idle same => exact tally_of_same (same .taskStages) fun _ _ => rfl
    | renewed s s' isStage isNamed held row stages others =>
      obtain ⟨expires, updated, version, rfl⟩ := row
      have sets : SetsStage db _ s { s with leaseExpiresAt := expires, updatedAt := updated, rowVersion := version } :=
        ⟨isStage, ⟨rfl, rfl, rfl⟩, stages⟩
      exact tally_of_sets sets rfl rfl (fun _ => rfl) fun _ => .inl
  | complete stageID token attemptID sha validMedia out callbackID =>
    rw [completeStageWithOutput]
    cases validateStageOutput validMedia out with
    | error e => exact tally_of_same rfl fun _ _ => rfl
    | ok _ =>
      rcases immediate_effect (completeStageWithOutputBody sha out token attemptID callbackID now) faults with same | ⟨r, ran⟩
      · exact tally_of_same (by rw [same]) fun _ _ => rfl
      · obtain ⟨artifactID, a, a', s, s', completes⟩ := completeStageWithOutput_spec ran
        refine tally_of_map completes.stages fun u stored => ?_
        split
        · rename_i own
          obtain rfl := eq_of_key (stages_distinct db) stored completes.stageStored own
          refine ⟨completes.sameStage.1.symm, completes.kept.2.1, fun token' held => ?_, fun goesOn => absurd rfl goesOn⟩
          rw [completes.done.2.2] at held
          cases held
        · exact ⟨rfl, rfl, fun _ => .inl, fun goesOn => absurd rfl goesOn⟩
  | fail stageID token attemptID code message retryAt terminal callbackID =>
    rw [failStage]
    rcases immediate_effect (failStageBody stageID token attemptID code message retryAt terminal callbackID now) faults with same | ⟨r, out⟩
    · exact tally_of_same (by rw [same]) fun _ _ => rfl
    · obtain ⟨a, a', s, s', fails, -⟩ := failStage_spec seated.working_of out
      refine tally_of_sets fails.sets fails.kept.2.1 fails.kept.1 (fun _ => rfl) fun token' held => ?_
      rw [fails.status.2] at held
      cases held

theorem budgeted_of_tally (tally : ∀ s' ∈ db'.stages, ∃ s ∈ db.stages, Tally w seat' s s') : Budgeted db db' := by
  intro s' mem _
  obtain ⟨s, stored, kept⟩ := tally s' mem
  exact ⟨s, stored, kept.id, kept.budget⟩

variable {memory : Option Memory}

/-- The worker goes on with its lease. -/
theorem Recalls.after {f : Memory → Memory} (recalls : Recalls db seat memory)
    (tally : ∀ s' ∈ db'.stages, ∃ s ∈ db.stages, Tally w seat' s s')
    (unclaimed : ∀ token leaseDuration, w ≠ .claim token leaseDuration) (goesOn : seat' ≠ .idle) (lease : seat'.lease = seat.lease)
    (same : ∀ m, (f m).stage = m.stage)
    (begun : ∀ m stageID token, seat.lease = some (stageID, token) → (f m).begun seat' = m.begun seat + w.makes stageID) :
    Recalls db' seat' (memory.map f) := by
  intro stageID token has
  rw [lease] at has
  obtain ⟨m, rfl, ofStage, holds, row⟩ := recalls stageID token has
  refine ⟨f m, rfl, (same m).symm ▸ ofStage, (same m).symm ▸ holds, fun s' mem named held => ?_⟩
  obtain ⟨s, stored, kept⟩ := tally s' mem
  have isNamed : s.id = stageID := kept.id.trans named
  rcases kept.token token held with was | ⟨leaseDuration, isClaim⟩
  · obtain ⟨budget, count⟩ := row s stored isNamed was
    rw [same, kept.budget, kept.count goesOn, begun m stageID token has, isNamed]
    exact ⟨budget, by rw [count, Int.add_assoc]⟩
  · exact absurd isClaim (unclaimed _ _)

/-- The worker goes on with its attempt, if the call went well. -/
theorem Recalls.goesOn {α : Type} {out : Outcome schema Err α} {stageID token attemptID : String}
    (recalls : Recalls db (.working stageID token attemptID) memory)
    (tally : ∀ s' ∈ db'.stages, ∃ s ∈ db.stages, Tally w (.after out fun _ => .working stageID token attemptID) s s')
    (unclaimed : ∀ token leaseDuration, w ≠ .claim token leaseDuration) (makesNone : ∀ stageID, w.makes stageID = 0) :
    Recalls db' (.after out fun _ => .working stageID token attemptID) memory := by
  cases result : out.result with
  | error e =>
    rw [Seat.after_error result]
    exact recalls_idle
  | ok u =>
    rw [Seat.after_ok result] at tally ⊢
    have kept := recalls.after tally unclaimed nofun rfl (f := id) (fun _ => rfl) fun m id _ _ => by rw [makesNone, Int.add_zero]; rfl
    rwa [Option.map_id_fun, id] at kept

theorem resumed_cases {stageID token : String} {attempts : Int} :
    resumed nodeID stageID token attempts db = .idle ∨ resumed nodeID stageID token attempts db = .fresh stageID token attempts ∨
      ∃ attemptID, resumed nodeID stageID token attempts db = .working stageID token attemptID := by
  rw [resumed]
  split
  · exact .inr (.inl rfl)
  · split
    · exact .inr (.inl rfl)
    · rename_i a _
      split
      · exact .inr (.inl rfl)
      · split
        · exact .inr (.inr ⟨a.id, rfl⟩)
        · exact .inl rfl

/-- A worker remembers the row across its own steps. -/
theorem Work.recalls (h : Pipeline db) (seated : Seated db nodeID seat) (recalls : Recalls db seat memory)
    (taken : w.step o nodeID now faults n db seat = some (db', seat')) : Recalls db' seat' (w.recall nodeID now faults n db memory) := by
  have tally := Work.tally h seated taken
  cases Work.taken taken with
  | claim leaseToken leaseDuration =>
    rcases immediate_cases (claimStageBody nodeID leaseToken leaseDuration now) faults with ⟨e, error, same⟩ | ⟨r, ok, out⟩
    · rw [claimStage, Seat.after_error error]
      exact recalls_idle
    · rw [claimStage, Seat.after_ok ok]
      obtain ⟨s, leases, rfl⟩ := claimStage_spec out
      intro stageID token lease
      cases lease
      refine ⟨⟨leasedStage nodeID leaseToken leaseDuration now s, false⟩,
        by rw [Work.recall, claimStage, ok], rfl, rfl, fun u mem named _ => ?_⟩
      rw [eq_of_key (stages_distinct _) mem (leases.turn h).new named]
      exact ⟨rfl, (Int.add_zero _).symm⟩
  | resume stageID token attempts =>
    rcases resumed_cases with is | is | ⟨attemptID, is⟩
    · rw [is]
      exact recalls_idle
    all_goals
      rw [is] at tally ⊢
      exact recalls.after tally (fun _ _ h => by cases h) (fun h => by cases h) rfl (fun _ => rfl) fun _ _ _ _ => rfl
  | begin stageID token attempts a proper =>
    cases result : (createStageAttempt o a token now faults n db).result with
    | error e =>
      rw [Seat.after_error result]
      exact recalls_idle
    | ok u =>
      rw [Seat.after_ok result] at tally ⊢
      refine recalls.after tally (fun _ _ h => by cases h) (fun h => by cases h) rfl (fun _ => rfl) fun m id token' lease => ?_
      cases lease
      rw [Work.makes, if_pos proper.1]
      rfl
  | bind stageID token attemptID executionID callbackID =>
    exact recalls.goesOn tally (fun _ _ h => by cases h) fun _ => rfl
  | renew stageID token attemptID leaseDuration =>
    exact recalls.goesOn tally (fun _ _ h => by cases h) fun _ => rfl
  | complete | fail | leave => exact recalls_idle

end

/-! ## Runs -/

/-- What holds in every state: the workers remember their rows as they are. -/
structure Watch.Sound (w : Watch) : Prop where
  inv : Inv w.state
  recalls : ∀ nodeID, Recalls w.state.db (w.state.seats nodeID) (w.memory nodeID)

section
variable {o : Options} {s : State} {w w' : Watch} {e : Event}

theorem Watch.Sound.step (sound : w.Sound) (step : w.Step o e w') : w'.Sound := by
  obtain ⟨t, memory⟩ := w'
  obtain ⟨stepped, rfl⟩ := step
  refine ⟨sound.inv.step stepped, fun nodeID => ?_⟩
  cases stepped with
  | deed d now faults n known =>
    have handled := d.handled o now faults n sound.inv.orderly known (sound.inv.known_deed known) fun id mem t stored same =>
      known.unused id mem (same ▸ sound.inv.minted t stored)
    exact (sound.recalls nodeID).spared handled.budgeted fun _ _ _ => (handled.undisturbed sound.inv.orderly.pipeline).spares _ _
  | work other x now faults n db seat named new taken =>
    have pipeline := sound.inv.orderly.pipeline
    have tally := Work.tally pipeline (sound.inv.seated other) taken
    by_cases own : nodeID = other
    · subst own
      simp only [Watch.recall, Function.update_self]
      exact Work.recalls pipeline (sound.inv.seated nodeID) (sound.recalls nodeID) taken
    · simp only [Watch.recall, Function.update_of_ne own]
      exact (sound.recalls nodeID).spared (budgeted_of_tally tally) fun stageID token lease =>
        (sound.inv.worked named new taken).spares stageID token (sound.inv.foreign new own lease)
  | decide | abandon | recognise => exact sound.recalls nodeID

theorem Watch.sound (start : Start s) (run : Sim.Run (Watch.Step o) (fun _ _ => True) ⟨s, fun _ => none⟩ w) : w.Sound := by
  refine Sim.Run.invariant Watch.Sound ⟨start.inv, fun nodeID => ?_⟩ (fun _ _ _ sound _ step => sound.step step) run
  rw [start.seats]
  exact recalls_idle

/-! ## A failed attempt -/

theorem Seat.of_attempt {seat : Seat} {attemptID : String} (works : seat.attempt = some attemptID) :
    ∃ stageID token, seat = .working stageID token attemptID := by
  cases seat with
  | working stageID token id =>
    cases works
    exact ⟨stageID, token, rfl⟩
  | _ => cases works

/-- The stage has failed with its last attempt, and is pending again after another one. -/
def Rescheduled (attemptNo : Int) (stage : Stage) (now : Int) (db' : Database) : Prop :=
  ∃ s' ∈ db'.stages, s'.id = stage.id ∧ (s'.status = .failed ↔ attemptNo = stage.maxAttempts) ∧
    (attemptNo ≠ stage.maxAttempts → s'.status = .pending ∧ ∃ next, s'.nextAttemptAt = some next ∧ now < next)

/-- The row of the stage after a call that went well. -/
theorem failStage_row {stageID token attemptID code message callbackID : String} {retryAt now : Int} {terminal : Bool} {faults : Faults Err}
    {n : Nat} {db : Database} (working : Working stageID token attemptID db)
    (ok : (failStage stageID token attemptID code message retryAt terminal callbackID now faults n db).result = .ok ()) :
    ∃ s ∈ db.stages, s.id = stageID ∧ s.leaseToken = some token ∧
      ∃ s' ∈ Database.stages (failStage stageID token attemptID code message
        retryAt terminal callbackID now faults n db).db, s'.id = stageID ∧
        s'.status = (if terminal then .failed else .pending) ∧ s'.nextAttemptAt = if terminal then none else some retryAt := by
  rcases immediate_cases (failStageBody stageID token attemptID code message retryAt terminal callbackID now) faults with
    ⟨e, error, -⟩ | ⟨r, -, out⟩
  · rw [failStage, error] at ok
    cases ok
  · obtain ⟨_, _, s, s', fails, next⟩ := failStage_spec working out
    have written : s' ∈ Database.stages (failStage stageID token attemptID
        code message retryAt terminal callbackID now faults n db).db := by
      rw [failStage, fails.sets.stages]
      exact List.mem_map.mpr ⟨s, fails.sets.stored, if_pos rfl⟩
    exact ⟨s, fails.sets.stored, fails.stageNamed, fails.token, s', written, fails.sets.same.1.trans fails.stageNamed, fails.status.1, next⟩

/-- The number of the attempt, from what the worker remembers. -/
theorem Watch.Sound.number (sound : w.Sound) {nodeID stageID token attemptID : String}
    (works : w.state.seats nodeID = .working stageID token attemptID)
    {m : Memory} (remembers : w.memory nodeID = some m) {stage : Stage} (isStage : stage ∈ w.state.db.stages) (own : stage.id = stageID)
    (held : stage.leaseToken = some token) {a : Attempt} (isAttempt : a ∈ w.state.db.attempts) (named : a.id = attemptID) :
    stage.maxAttempts = m.stage.maxAttempts ∧ a.attemptNo ≤ stage.maxAttempts ∧
      a.attemptNo = m.stage.attemptCount + if m.resumed then 0 else 1 := by
  have pipeline := sound.inv.orderly.pipeline
  have recalls := sound.recalls nodeID
  have seated := sound.inv.seated nodeID
  rw [works] at recalls seated
  rw [remembers] at recalls
  obtain ⟨_, same, -, -, row⟩ := recalls stageID token rfl
  cases same
  obtain ⟨budget, count⟩ := row stage isStage own held
  -- the attempt is open, hence the last one that the stage counts
  obtain ⟨b, mem, isNamed, ofStage, isOpen⟩ := seated.working_of stage isStage own held
  obtain rfl := eq_of_key (attempts_distinct _) mem isAttempt (isNamed.trans named.symm)
  have number := (pipeline.runs b mem isOpen stage isStage (own.trans ofStage.symm)).number
  exact ⟨budget, number ▸ (pipeline.budget stage isStage).2, number.trans count⟩

/-- A retryable failure of attempt `k` ends the stage if and only if `k` is its last attempt, and
otherwise puts it off, except for an attempt before the last one that was taken up after a restart. -/
theorem failed_attempt_retried (start : Start s) (run : Sim.Run (Watch.Step o) (fun _ _ => True) ⟨s, fun _ => none⟩ w)
    {nodeID attemptID : String} (works : (w.state.seats nodeID).attempt = some attemptID)
    {m : Memory} (remembers : w.memory nodeID = some m)
    {stage : Stage} (isStage : stage ∈ w.state.db.stages) (own : stage.id = m.stage.id) {a : Attempt} (isAttempt : a ∈ w.state.db.attempts)
    (named : a.id = attemptID) {code message callbackID : String} {now later : Int} {faults : Faults Err} {n : Nat}
    (retryable : retryableCode code = true)
    (ok : (fail m.stage attemptID code message false callbackID now later faults n w.state.db).result = .ok ()) :
    Rescheduled a.attemptNo stage now (fail m.stage attemptID code message false callbackID now later faults n w.state.db).db ↔
      ¬ (m.resumed = true ∧ a.attemptNo + 1 = stage.maxAttempts) := by
  have sound := Watch.sound start run
  obtain ⟨stageID, token, seat⟩ := Seat.of_attempt works
  have recalls := sound.recalls nodeID
  have seated := sound.inv.seated nodeID
  rw [seat] at recalls seated
  obtain ⟨m', same, ofStage, holds, -⟩ := recalls stageID token rfl
  obtain rfl : m = m' := Option.some.inj (remembers.symm.trans same)
  -- the row that is written
  simp only [fail, ofStage, holds, Option.getD_some, retryable, Bool.not_true, Bool.or_false, Bool.false_or] at ok ⊢
  obtain ⟨u, stored, ofIt, held, u', written, isIt, status, next⟩ := failStage_row seated.working_of ok
  obtain rfl := eq_of_key (stages_distinct _) stored isStage (ofIt.trans (own.trans ofStage).symm)
  obtain ⟨budget, most, number⟩ := sound.number seat remembers isStage ofIt held isAttempt named
  have only {s' : Stage} (mem : s' ∈ Database.stages _) (same : s'.id = u.id) : s' = u' :=
    eq_of_key (stages_distinct _) mem written (same.trans (ofIt.trans isIt.symm))
  by_cases last : m.stage.attemptCount + 1 ≥ m.stage.maxAttempts
  · simp only [last, decide_true, if_true] at status
    constructor
    · rintro ⟨s', mem, same, ends, -⟩ ⟨-, early⟩
      obtain rfl := only mem same
      have := ends.mp status
      omega
    · intro spared
      have isLast : a.attemptNo = u.maxAttempts := by
        cases resumed : m.resumed <;> simp [resumed] at number spared <;> omega
      exact ⟨u', written, isIt.trans ofIt.symm, ⟨fun _ => isLast, fun _ => status⟩, fun other => absurd isLast other⟩
  · simp only [last, decide_false, if_false, Bool.false_eq_true] at status next
    have notLast : a.attemptNo ≠ u.maxAttempts ∧ (m.resumed = true → a.attemptNo + 1 ≠ u.maxAttempts) := by
      constructor
      · cases resumed : m.resumed <;> simp [resumed] at number <;> omega
      · intro isResumed
        rw [isResumed, if_pos rfl] at number
        omega
    refine ⟨fun _ early => notLast.2 early.1 early.2, fun _ => ⟨u', written, isIt.trans ofIt.symm, ?_, fun _ => ⟨status, _, next, ?_⟩⟩⟩
    · rw [status]
      exact ⟨nofun, fun isLast => absurd isLast notLast.1⟩
    · have := backoff_pos (m.stage.attemptCount + 1)
      omega

end

/-- The state after the events; those that cannot happen are left out. -/
def Watch.next (o : Options) (w : Watch) (e : Event) : Option Watch := (e.next o w.state).map fun t => ⟨t, w.recall e⟩

theorem Watch.step_of_next {o : Options} (w : Watch) (e : Event) (w' : Watch) (next : w.next o e = some w') : w.Step o e w' := by
  obtain ⟨t, possible, rfl⟩ := Option.map_eq_some_iff.mp next
  exact ⟨Event.step_of_next possible, rfl⟩

def watched (events : List Event) : Watch := Sim.after (Watch.next Flow.remoteOptions) ⟨stageStart, fun _ => none⟩ events

theorem watched_run {events : List Event} :
    Sim.Run (Watch.Step Flow.remoteOptions) (fun _ _ => True) ⟨stageStart, fun _ => none⟩ (watched events) := by
  refine Sim.run_after Watch.step_of_next ?_
  generalize (⟨stageStart, fun _ => none⟩ : Watch) = w
  induction events generalizing w with
  | nil => trivial
  | cons e rest ih => exact ⟨trivial, ih _⟩

/-- The worker of `n1` reports that the first attempt of `s1` has failed for a passing reason. -/
def firstFailure (w : Watch) (m : Memory) : Outcome schema Err Unit :=
  fail m.stage "a1" "comfyui_unavailable" "" false "c9" 2000 2000 noFaults 0 w.state.db

/-- The worker is at the first attempt of two, and its report will be accepted. -/
def atFirst (resumed : Bool) (w : Watch) : Bool :=
  (w.state.seats "n1").attempt == some "a1" && (w.memory "n1").any fun m =>
    m.resumed == resumed && m.stage.id == "s1" && (firstFailure w m).result.toBool
      && w.state.db.stages.any (fun s => s.id == "s1" && s.maxAttempts == 2)
      && w.state.db.attempts.any fun a => a.id == "a1" && a.attemptNo == 1

theorem atFirst_iff {resumed : Bool} {w : Watch} (h : atFirst resumed w = true) : (w.state.seats "n1").attempt = some "a1" ∧
    ∃ m, w.memory "n1" = some m ∧ m.resumed = resumed ∧ m.stage.id = "s1" ∧ (firstFailure w m).result = .ok () ∧
      (∃ s ∈ w.state.db.stages, s.id = "s1" ∧ s.maxAttempts = 2) ∧ ∃ a ∈ w.state.db.attempts, a.id = "a1" ∧ a.attemptNo = 1 := by
  simp only [atFirst, Bool.and_eq_true, beq_iff_eq, Option.any_eq_true, List.any_eq_true] at h
  obtain ⟨works, m, remembers, ⟨⟨⟨is, named⟩, ok⟩, stage⟩, attempt⟩ := h
  refine ⟨works, m, remembers, is, named, ?_, stage, attempt⟩
  cases result : (firstFailure w m).result with
  | ok => rfl
  | error e =>
    rw [result] at ok
    cases ok

/-- An attempt that the worker has begun: the first of two, and the stage is put off. -/
theorem begun_attempt_retried : ∃ w m stage a,
    Sim.Run (Watch.Step Flow.remoteOptions) (fun _ _ => True) ⟨stageStart, fun _ => none⟩ w ∧ w.memory "n1" = some m ∧ m.resumed = false ∧
      stage ∈ w.state.db.stages ∧ stage.maxAttempts = 2 ∧ a ∈ w.state.db.attempts ∧ a.attemptNo = 1 ∧
      Rescheduled a.attemptNo stage 2000 (firstFailure w m).db := by
  obtain ⟨works, m, remembers, is, named, ok, ⟨stage, isStage, own, most⟩, a, isAttempt, isIt, number⟩ :=
    atFirst_iff (show atFirst false (watched (stageRun.take 5)) = true by decide +kernel)
  refine ⟨_, m, stage, a, watched_run, remembers, is, isStage, most, isAttempt, number, ?_⟩
  refine (failed_attempt_retried stageStart_start watched_run works remembers isStage (own.trans named.symm) isAttempt isIt
    (by decide) ok).mpr ?_
  rw [is]
  exact fun h => nomatch h.1

/-- The same attempt taken up after a restart: the stage fails for good, with one attempt left. -/
theorem resumed_attempt_ends_stage : ∃ w m stage a,
    Sim.Run (Watch.Step Flow.remoteOptions) (fun _ _ => True) ⟨stageStart, fun _ => none⟩ w ∧ (w.state.seats "n1").attempt = some a.id ∧
      w.memory "n1" = some m ∧ m.resumed = true ∧ stage ∈ w.state.db.stages ∧ stage.id = m.stage.id ∧ stage.maxAttempts = 2 ∧
      a ∈ w.state.db.attempts ∧ a.attemptNo = 1 ∧ (firstFailure w m).result = .ok () ∧
      ((Database.stages (firstFailure w m).db).map fun s => (s.id, s.status)) = [("s1", .failed), ("s2", .pending)] ∧
      ¬ Rescheduled a.attemptNo stage 2000 (firstFailure w m).db := by
  have here : atFirst true (watched (stageRun.take 8)) = true := by decide +kernel
  obtain ⟨works, m, remembers, is, named, ok, ⟨stage, isStage, own, most⟩, a, isAttempt, isIt, number⟩ := atFirst_iff here
  have rows : ((watched (stageRun.take 8)).memory "n1").all (fun m =>
      (Database.stages (firstFailure (watched (stageRun.take 8)) m).db).map
      (fun s => (s.id, s.status)) == [("s1", .failed), ("s2", .pending)]) = true := by
    decide +kernel
  rw [remembers, Option.all_some, beq_iff_eq] at rows
  refine ⟨_, m, stage, a, watched_run, isIt ▸ works, remembers, is, isStage, own.trans named.symm, most, isAttempt, number, ok, rows, ?_⟩
  rintro ⟨s', mem, same, ends, -⟩
  have row : (s'.id, s'.status) ∈ [("s1", StageStatus.failed), ("s2", .pending)] := by
    rw [← rows]
    exact List.mem_map_of_mem mem
  rw [same, own] at row
  simp only [List.mem_cons, Prod.mk.injEq, true_and, List.not_mem_nil, or_false] at row
  rcases row with isFailed | ⟨other, -⟩
  · have := ends.mp isFailed
    omega
  · exact absurd other (by decide)

end MinimaxProxy.Service
