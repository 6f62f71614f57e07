import MinimaxProxy.Service.Seats

/-!
# The steps of a stage worker

Each step keeps the stages in order, leaves the worker with what it knows of its stage, and
spares the leases of the other workers.
-/

namespace MinimaxProxy.Service
open Sql Sql.Prog Store

variable {a : Attempt} {attemptID stageID token : String}

/-- The bound of a step. -/
def Work.effect : Work → Effect
  | .claim .. | .renew .. => { kinds := [], tables := [.taskStages] }
  | .resume | .leave => { kinds := [] }
  | .begin .. => dispatchEffect
  | .bind .. => executeEffect
  | .complete .. => completeStageEffect
  | .fail .. => failStageEffect

theorem Work.stable (w : Work) : w.effect.Stable := by
  cases w <;> exact Effect.stable_of_trivial (fun _ => trivial) fun _ new => new.elim

/-- An attempt that the step has made: the worker had the lease of its stage. -/
structure Begun (nodeID : String) (seat : Seat) (w : Work) (db : Database) (a : Attempt) : Prop where
  drawn : a.id ∈ w.draws
  node : a.nodeID = nodeID
  held : ∃ token, seat.lease = some (a.stageID, token) ∧ ∃ s ∈ db.stages, s.id = a.stageID ∧ s.leaseToken = some token

/-- A lease of the worker of another node. -/
structure Foreign (nodeID : String) (seat : Seat) (w : Work) (db : Database) (stageID token : String) : Prop where
  drawn : token ∉ w.draws
  other : ∀ id, seat.lease ≠ some (id, token)
  node : ∀ s ∈ db.stages, s.id = stageID → s.leaseToken = some token → s.currentNodeID ≠ some nodeID

/-- What a step does. -/
structure Worked (nodeID : String) (seat : Seat) (w : Work) (db db' : Database) (seat' : Seat) : Prop where
  pipeline : Pipeline db'
  law : w.effect.law.Evolves db db'
  spares : ∀ stageID token, Foreign nodeID seat w db stageID token → Spares stageID token db db'
  descend : Descend (Begun nodeID seat w db) db db'
  tokens : ∀ s' ∈ db'.stages, ∀ token, s'.leaseToken = some token →
    token ∈ w.draws ∨ ∃ s ∈ db.stages, s.id = s'.id ∧ s.leaseToken = some token
  seated : Seated db' nodeID seat'
  lease : seat'.lease = none ∨ seat'.lease = seat.lease ∨ ∃ id, ∃ token ∈ w.draws, seat'.lease = some (id, token)
  attempt : ∀ id, seat'.attempt = some id → seat.attempt = some id ∨ ∃ a ∈ db'.attempts, a.id = id

section
variable {nodeID : String} {seat seat' : Seat} {w : Work} {db db' : Database} {s s' : Stage}

/-- A turn spares every lease that is not on the stage after it. -/
theorem Turn.spares (turn : Turn db db' s s') (other : s'.id = stageID → s'.leaseToken ≠ some token) :
    Spares stageID token db db' := by
  intro u' mem named held
  rcases turn.cases mem with rfl | ⟨u, stored, apart, _, rfl⟩
  · exact absurd held (other named)
  · refine ⟨u, stored, named, held, rfl, rfl, fun a ofStage => turn.others a ?_⟩
    rw [ofStage, ← named]
    exact apart

theorem Turn.tokens (turn : Turn db db' s s') {u' : Stage} (mem : u' ∈ db'.stages) (held : u'.leaseToken = some token) :
    u' = s' ∨ ∃ u ∈ db.stages, u.id = u'.id ∧ u.leaseToken = some token := by
  rcases turn.cases mem with rfl | ⟨u, stored, -, _, rfl⟩
  · exact .inl rfl
  · exact .inr ⟨u, stored, rfl, held⟩

theorem worked_of_same (h : Pipeline db) (same : ∀ t, db'.rows t = db.rows t) (seated : Seated db' nodeID seat')
    (lease : seat'.lease = none ∨ seat'.lease = seat.lease)
    (attempt : ∀ id, seat'.attempt = some id → seat.attempt = some id ∨ ∃ a ∈ db'.attempts, a.id = id) :
    Worked nodeID seat w db db' seat' := by
  have tasks : db'.tasks = db.tasks := same .videoTasks
  have stages : db'.stages = db.stages := same .taskStages
  have attempts : db'.attempts = db.attempts := same .stageAttempts
  refine ⟨h.quiet ⟨stages, attempts, fun t mem => ⟨t, tasks ▸ mem, .refl _⟩, fun t mem => ⟨t, tasks ▸ mem, rfl⟩⟩, ?_,
    fun _ _ _ => spares_of_same stages attempts _ _, fun a mem => .inl ⟨a, attempts ▸ mem, .refl a⟩,
    fun s mem token held => .inr ⟨s, stages ▸ mem, rfl, held⟩, seated, lease.imp_right .inl, attempt⟩
  refine Effect.evolves_of ?_ fun t _ _ => same t
  rw [tasks]
  exact .refl

theorem worked_idle (h : Pipeline db) : Worked nodeID seat w db db .idle :=
  worked_of_same h (fun _ => rfl) (.idle _ _) (.inl rfl) nofun

/-! ## Claiming and resuming -/

theorem worked_claim {leaseToken : String} {leaseDuration now : Int} (h : Pipeline db)
    (leases : Leases nodeID leaseToken leaseDuration now s db db') :
    Worked nodeID .idle (.claim leaseToken leaseDuration) db db' (.claimed s.id leaseToken s.attemptCount) := by
  have turn := leases.turn h
  have attempts : db'.attempts = db.attempts := leases.others .stageAttempts (by decide)
  have tasks : db'.tasks = db.tasks := leases.others .videoTasks (by decide)
  refine ⟨h.turn turn, Effect.evolves_of (by rw [tasks]; exact .refl) fun t _ free =>
    leases.others t fun is => free (by simp [is, Work.effect]),
    fun stageID token foreign => Turn.spares turn fun _ held => ?_,
      fun a mem => .inl ⟨a, attempts ▸ mem, .refl a⟩, fun u mem token held => ?_,
    ⟨fun stageID token lease u mem named held => ?_, nofun⟩, .inr (.inr ⟨_, _, List.mem_singleton.mpr rfl, rfl⟩), nofun⟩
  · exact foreign.drawn (by rw [← Option.some.inj held]; exact List.mem_singleton.mpr rfl)
  · rcases Turn.tokens turn mem held with rfl | old
    · exact .inl (by rw [← Option.some.inj held]; exact List.mem_singleton.mpr rfl)
    · exact .inr old
  · cases lease
    obtain rfl := eq_of_key (stages_distinct db') mem turn.new named
    exact ⟨rfl, rfl⟩

/-- The attempt that is read is the last one of the leased stage, if there is any. -/
theorem getRunningStageAttempt_spec (stored : s ∈ db.stages) (named : s.id = stageID) (held : s.leaseToken = some token) :
    (∀ e, getRunningStageAttempt stageID token db = .error e → ∀ b ∈ db.attempts, b.stageID ≠ stageID) ∧
      ∀ a, getRunningStageAttempt stageID token db = .ok a → ∀ b ∈ db.attempts, b.stageID = stageID → b.attemptNo ≤ a.attemptNo := by
  have listed (b : Attempt) (mem : b ∈ db.attempts) (ofStage : b.stageID = stageID) : b ∈ db.attempts.filter fun a =>
      a.stageID == stageID && db.stages.any fun s => s.id == a.stageID && s.leaseToken == some token := by
    refine List.mem_filter.mpr ⟨mem, ?_⟩
    simp only [Bool.and_eq_true, beq_iff_eq, List.any_eq_true]
    exact ⟨ofStage, s, stored, named.trans ofStage.symm, held⟩
  constructor
  · intro e notFound b mem ofStage
    rw [getRunningStageAttempt] at notFound
    cases found : first (fun (a b : Attempt) => decide (a.attemptNo > b.attemptNo)) (db.attempts.filter fun a =>
      a.stageID == stageID && db.stages.any fun s => s.id == a.stageID && s.leaseToken == some token) with
    | none =>
      have isListed := listed b mem ofStage
      rw [first_none.mp found] at isListed
      cases isListed
    | some a => rw [found] at notFound; cases notFound
  · intro a found b mem ofStage
    have least := first_least (fun a => by simp) (fun a b c => by simp only [decide_eq_false_iff_not]; omega)
      (fun a b => by simp only [decide_eq_true_eq, decide_eq_false_iff_not]; omega) (elim_ok.mp found) b (listed b mem ofStage)
    simpa using least

theorem getRunningStageAttempt_mem (found : getRunningStageAttempt stageID token db = .ok a) :
    a ∈ db.attempts ∧ a.stageID = stageID := by
  obtain ⟨mem, hit⟩ := List.mem_filter.mp (first_mem (elim_ok.mp found))
  simp only [Bool.and_eq_true, beq_iff_eq] at hit
  exact ⟨mem, hit.1⟩

theorem worked_resume {attempts : Int} (h : Pipeline db) (seated : Seated db nodeID (.claimed stageID token attempts)) :
    Worked nodeID (.claimed stageID token attempts) .resume db db (resumed nodeID stageID token attempts db) := by
  -- the worker goes on with a new attempt if it finds none that is open
  have fresh (closed : ∀ s ∈ db.stages, s.id = stageID → s.leaseToken = some token →
      ∀ a ∈ db.attempts, a.stageID = s.id → a.status.isOpen = false) :
      Worked nodeID (.claimed stageID token attempts) .resume db db (.fresh stageID token attempts) := by
    refine worked_of_same h (fun _ => rfl) ⟨fun id token' lease s stored named held => ?_, nofun⟩ (.inr rfl) nofun
    cases lease
    exact ⟨(seated.leased _ _ rfl s stored named held).1, closed s stored named held⟩
  rw [resumed]
  split
  · rename_i untried
    refine fresh fun s stored named held a mem ofStage => ?_
    have count : s.attemptCount = 0 := (seated.leased _ _ rfl s stored named held).2.trans untried
    have begun := h.begun mem stored ofStage.symm
    omega
  · split
    · rename_i e missing
      refine fresh fun s stored named held a mem ofStage => ?_
      exact absurd (ofStage.trans named) ((getRunningStageAttempt_spec stored named held).1 e missing a mem)
    · rename_i last found
      obtain ⟨isAttempt, ofIt⟩ := getRunningStageAttempt_mem found
      split
      · rename_i closed
        refine fresh fun s stored named held a mem ofStage => ?_
        rw [← Bool.not_eq_true]
        intro isOpen
        -- an open attempt is the last one
        have least := (getRunningStageAttempt_spec stored named held).2 last found a mem (ofStage.trans named)
        have runs := h.runs a mem isOpen s stored ofStage.symm
        obtain ⟨u, isU, ofU, -, most⟩ := h.numbered last isAttempt
        obtain rfl := eq_of_key (stages_distinct db) isU stored (ofU.trans (ofIt.trans named.symm))
        have number : a.attemptNo = last.attemptNo := by
          have := runs.number
          omega
        obtain rfl := eq_of_key numbers_distinct mem isAttempt (by rw [ofStage, ofIt, named, number])
        rw [isOpen] at closed
        cases closed
      · rename_i isOpen
        split
        · rename_i here
          refine worked_of_same h (fun _ => rfl) ⟨fun id token' lease s stored named held => ?_, fun id works a mem named => ?_⟩ (.inr rfl)
            fun id works => .inr ⟨last, isAttempt, Option.some.inj works⟩
          · cases lease
            exact ⟨(seated.leased _ _ rfl s stored named held).1, last, isAttempt, rfl, ofIt.trans named.symm, by simpa using isOpen⟩
          · cases works
            rw [eq_of_key (attempts_distinct db) mem isAttempt named]
            exact here
        · exact worked_idle h

/-! ## Attempts -/

/-- A worker may return after any step. -/
theorem Worked.leave (worked : Worked nodeID seat w db db' seat') : Worked nodeID seat w db db' .idle :=
  ⟨worked.pipeline, worked.law, worked.spares, worked.descend, worked.tokens, .idle _ _, .inl rfl, nofun⟩

theorem descend_of_relabels {f : Attempt → Attempt} {new : Attempt → Prop} (relabels : Relabels s f db db') : Descend new db db' := by
  intro a' mem
  obtain ⟨a, stored, rfl⟩ := relabels.mem mem
  have same := relabels.same a stored
  exact .inl ⟨a, stored, same.1, same.2.2.2, same.2.1, relabels.wasOpen a stored⟩

theorem worked_begin {attempts : Int} (h : Pipeline db) (sound : ∀ t ∈ db.tasks, Sound t.core)
    (makes : Attempts a token s db db') (seated : Seated db nodeID (.fresh stageID token attempts)) (ofStage : a.stageID = stageID)
    (here : a.nodeID = nodeID) (named : nodeID ≠ "") (status : a.status = .dispatching) (unused : ∀ b ∈ db.attempts, b.id ≠ a.id) :
    Worked nodeID (.fresh stageID token attempts) (.begin a) db db' (.working stageID token a.id) := by
  have isNamed : s.id = stageID := makes.named.symm.trans ofStage
  obtain ⟨on, free⟩ := seated.leased _ _ rfl s makes.stored isNamed makes.token
  obtain ⟨s', turn, sameToken, sameNode⟩ := makes.turn h sound (here ▸ named) free
  obtain ⟨started, rows⟩ := makes.attempts
  have added : { a with startedAt := started } ∈ db'.attempts := by
    rw [rows]
    simp
  refine ⟨h.turn turn, makes.tasks, fun id token' foreign => Turn.spares turn fun _ held => ?_,
    fun b mem => ?_, fun u mem token' held => ?_,
    ⟨fun id token' lease u mem isU held => ?_, fun id works b mem isB => ?_⟩,
      .inr (.inl rfl), fun id works => .inr ⟨_, added, Option.some.inj works⟩⟩
  · rw [sameToken, makes.token] at held
    exact foreign.other stageID (by rw [Seat.lease, Option.some.inj held])
  · rw [rows, List.mem_append, List.mem_singleton] at mem
    rcases mem with old | rfl
    · exact .inl ⟨b, old, .refl b⟩
    · exact .inr ⟨List.mem_singleton.mpr rfl, here, token, by rw [Seat.lease, ofStage], s, makes.stored, makes.named.symm, makes.token⟩
  · rcases Turn.tokens turn mem held with rfl | old
    · exact .inr ⟨s, makes.stored, turn.same.1.symm, sameToken ▸ held⟩
    · exact .inr old
  · cases lease
    obtain rfl := eq_of_key (stages_distinct db') mem turn.new (isU.trans (isNamed.symm.trans turn.same.1.symm))
    exact ⟨sameNode.trans on, _, added, rfl, ofStage.trans isU.symm, by rw [status]; rfl⟩
  · cases works
    rw [rows, List.mem_append, List.mem_singleton] at mem
    rcases mem with old | rfl
    · exact absurd isB (unused b old)
    · exact here

theorem worked_bind {a' : Attempt} {executionID callbackID : String} (h : Pipeline db)
    (sound : ∀ t ∈ db.tasks, Sound t.core) (binds : Binds stageID token attemptID a a' s s' db db')
    (seated : Seated db nodeID (.working stageID token attemptID)) :
    Worked nodeID (.working stageID token attemptID) (.bind executionID callbackID) db db' (.working stageID token attemptID) := by
  have turn := binds.turn h sound
  have relabels := binds.relabels
  obtain ⟨sameToken, sameNode, -⟩ := binds.stage
  have here : a.nodeID = nodeID := seated.working _ rfl a binds.stored binds.named
  have on : s.currentNodeID = some nodeID := by
    rw [← here]
    exact (h.runs a binds.stored binds.isOpen s binds.sets.stored (binds.stageNamed.trans binds.ofStage.symm)).node
  have changed (b : Attempt) (mem : b ∈ db.attempts) : (if b.id = a.id then a' else b) ∈ db'.attempts := by
    rw [binds.attempts]
    exact List.mem_map_of_mem mem
  refine ⟨h.turn turn, binds.tasks, fun id token' foreign => Turn.spares turn fun isNamed held => ?_, descend_of_relabels relabels,
    fun u mem token' held => ?_, ⟨fun id token' lease u mem isU held => ?_, fun id works b mem isB => ?_⟩, .inr (.inl rfl), fun _ => .inl⟩
  · exact foreign.node s binds.sets.stored (turn.same.1.symm.trans isNamed) (sameToken ▸ held) on
  · rcases Turn.tokens turn mem held with rfl | old
    · exact .inr ⟨s, binds.sets.stored, turn.same.1.symm, sameToken ▸ held⟩
    · exact .inr old
  · cases lease
    obtain rfl := eq_of_key (stages_distinct db') mem turn.new (isU.trans (binds.stageNamed.symm.trans turn.same.1.symm))
    obtain ⟨-, b, isB, isNamed, ofStage, isOpen⟩ := seated.leased _ _ rfl s binds.sets.stored binds.stageNamed (sameToken ▸ held)
    have same := relabels.same b isB
    refine ⟨sameNode.trans on, _, changed b isB, same.1.trans isNamed, same.2.1.trans (ofStage.trans turn.same.1.symm), ?_⟩
    split
    · exact binds.stillOpen
    · exact isOpen
  · obtain ⟨c, stored, rfl⟩ := relabels.mem mem
    have same := relabels.same c stored
    exact same.2.2.2.trans (seated.working id works c stored (same.1.symm.trans isB))

theorem worked_renew {leaseDuration : Int} (h : Pipeline db) (renewal : Renewal stageID token db db')
    (seated : Seated db nodeID (.working stageID token attemptID)) :
    Worked nodeID (.working stageID token attemptID) (.renew leaseDuration) db db' (.working stageID token attemptID) := by
  cases renewal with
  | idle same =>
    have stages : db'.stages = db.stages := same .taskStages
    have attempts : db'.attempts = db.attempts := same .stageAttempts
    refine worked_of_same h same ?_ (.inr rfl) fun _ => .inl
    exact seated.spared (fun _ _ _ => spares_of_same stages attempts _ _) (descend_of_same attempts) fun _ _ _ no => no.elim
  | renewed s s' isStage isNamed held row stages others =>
    obtain ⟨expires, updated, version, rfl⟩ := row
    have attempts : db'.attempts = db.attempts := others .stageAttempts (by decide)
    have tasks : db'.tasks = db.tasks := others .videoTasks (by decide)
    have same : SameStage s { s with leaseExpiresAt := expires, updatedAt := updated, rowVersion := version } :=
      ⟨⟨rfl, rfl, rfl⟩, ⟨rfl, rfl⟩, ⟨rfl, rfl⟩, rfl, rfl, rfl⟩
    have turn := same.turn h ⟨isStage, same.same, stages⟩ (.refl attempts) tasks
    refine ⟨h.turn turn, Effect.evolves_of (by rw [tasks]; exact .refl) fun t _ free => others t fun is => free (by simp [is, Work.effect]),
      fun id token' foreign => Turn.spares turn fun _ held' => ?_,
        fun a mem => .inl ⟨a, attempts ▸ mem, .refl a⟩, fun u mem token' held' => ?_,
      ⟨fun id token' lease u mem isU held' => ?_, fun id works b mem isB => ?_⟩, .inr (.inl rfl), fun _ => .inl⟩
    · exact foreign.other stageID (by rw [Seat.lease, Option.some.inj (held.symm.trans held')])
    · rcases Turn.tokens turn mem held' with rfl | old
      · exact .inr ⟨s, isStage, rfl, held'⟩
      · exact .inr old
    · cases lease
      obtain rfl := eq_of_key (stages_distinct db') mem turn.new (isU.trans isNamed.symm)
      obtain ⟨on, knows⟩ := seated.leased _ _ rfl s isStage isNamed held
      exact ⟨on, knows.of_same rfl rfl fun a _ => by rw [attempts]⟩
    · rw [attempts] at mem
      exact seated.working id works b mem isB

theorem Seated.working_of (seated : Seated db nodeID (.working stageID token attemptID)) :
    Working stageID token attemptID db := by
  intro s stored isNamed held
  obtain ⟨-, a, mem, isAttempt, ofStage, isOpen⟩ := seated.leased _ _ rfl s stored isNamed held
  exact ⟨a, mem, isAttempt, ofStage.trans isNamed, isOpen⟩

/-- The worker gives the stage up. -/
theorem worked_end {f : Attempt → Attempt} (h : Pipeline db) (turn : Turn db db' s s') (relabels : Relabels s f db db')
    (law : w.effect.law.Evolves db db') (free : s'.leaseToken = none) : Worked nodeID seat w db db' .idle := by
  refine ⟨h.turn turn, law, fun id token foreign => Turn.spares turn fun _ held =>
    ?_, descend_of_relabels relabels, fun u mem token held => ?_,
    .idle _ _, .inl rfl, nofun⟩
  · rw [free] at held
    cases held
  · rcases Turn.tokens turn mem held with rfl | old
    · rw [free] at held
      cases held
    · exact .inr old

end

/-! ## Every step -/

theorem Seat.after_ok {α : Type} {out : Outcome schema Err α} {a : α} (ok : out.result = .ok a) (next : α → Seat) :
    Seat.after out next = next a := by rw [Seat.after, ok]

theorem Seat.after_error {α : Type} {out : Outcome schema Err α} {e : Err} (error : out.result = .error e) (next : α → Seat) :
    Seat.after out next = .idle := by rw [Seat.after, error]

theorem Worked.after {nodeID : String} {seat next : Seat} {w : Work} {db db' : Database} {α : Type} {out : Outcome schema Err α}
    (goesOn : Worked nodeID seat w db db' next) : Worked nodeID seat w db db' (.after out fun _ => next) := by
  cases result : out.result with
  | ok _ => rw [Seat.after_ok result]; exact goesOn
  | error e => rw [Seat.after_error result]; exact goesOn.leave

theorem Work.worked {o : Options} {nodeID : String} {now : Int}
    {faults : Faults Err} {n : Nat} {db db' : Database} {seat seat' : Seat} {w : Work}
    (h : Pipeline db) (sound : ∀ t ∈ db.tasks, Sound t.core) (named : nodeID ≠ "") (seated : Seated db nodeID seat)
    (unused : ∀ id ∈ w.draws, ∀ a ∈ db.attempts, a.id ≠ id) (taken : w.step o nodeID now faults n db seat = some (db', seat')) :
    Worked nodeID seat w db db' seat' := by
  cases Work.taken taken with
  | claim leaseToken leaseDuration =>
    rcases immediate_cases (claimStageBody nodeID leaseToken leaseDuration now) faults with ⟨e, error, same⟩ | ⟨r, ok, out⟩
    · rw [claimStage, Seat.after_error error, same]
      exact worked_idle h
    · rw [claimStage, Seat.after_ok ok]
      obtain ⟨s, leases, rfl⟩ := claimStage_spec out
      have worked := worked_claim h leases
      exact worked
  | resume => exact worked_resume h seated
  | begin stageID token attempts a proper =>
    rcases immediate_cases (createStageAttemptBody o a token now) faults with ⟨e, error, same⟩ | ⟨r, ok, out⟩
    · rw [createStageAttempt, Seat.after_error error, same]
      exact worked_idle h
    · rw [createStageAttempt, Seat.after_ok ok]
      obtain ⟨s, makes⟩ := createStageAttempt_spec out h.named
      exact worked_begin h sound makes seated proper.1 proper.2.2.1 named proper.2.2.2 (unused a.id (List.mem_singleton.mpr rfl))
  | bind stageID token attemptID executionID callbackID =>
    refine Worked.after ?_
    have idle {d : Database} (same : ∀ t, DB.rows d t = db.rows t) :
        Worked nodeID (.working stageID token attemptID) (.bind executionID callbackID) db d (.working stageID token attemptID) :=
      worked_of_same h same (seated.spared (fun _ _ _ => spares_of_same (same .taskStages) (same .stageAttempts) _ _)
        (descend_of_same (same .stageAttempts)) fun _ _ _ no => no.elim) (.inr rfl) fun _ => .inl
    rw [bindStageExecution]
    rcases immediateShadowed_effect (bindStageExecutionBody stageID token attemptID executionID callbackID now) faults with same | ⟨r, out⟩
    · exact idle fun t => by rw [same]
    · rcases bindStageExecution_spec h out with same | ⟨a, a', s, s', binds⟩
      · exact idle same
      · exact worked_bind h sound binds seated
  | renew stageID token attemptID leaseDuration =>
    exact Worked.after (worked_renew h renewStageLease_cases seated)
  | complete stageID token attemptID sha validMedia out callbackID proper =>
    rw [completeStageWithOutput]
    cases validateStageOutput validMedia out with
    | error e => exact worked_idle h
    | ok _ =>
      rcases immediate_effect (completeStageWithOutputBody sha out token attemptID callbackID now) faults with same | ⟨r, ran⟩
      · rw [same]
        exact worked_idle h
      · obtain ⟨artifactID, a, a', s, s', completes⟩ := completeStageWithOutput_spec ran
        exact worked_end h (completes.turn h) completes.relabels (completes.evolves h) completes.done.2.2
  | fail stageID token attemptID code message retryAt terminal callbackID =>
    rw [failStage]
    rcases immediate_effect (failStageBody stageID token attemptID code message retryAt terminal callbackID now) faults with same | ⟨r, out⟩
    · rw [same]
      exact worked_idle h
    · obtain ⟨a, a', s, s', fails, -⟩ := failStage_spec seated.working_of out
      exact worked_end h (fails.turn h) fails.relabels (fails.evolves h) fails.status.2
  | leave => exact worked_idle h

end MinimaxProxy.Service
