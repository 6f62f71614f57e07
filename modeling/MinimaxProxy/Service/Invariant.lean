import MinimaxProxy.Service.Workers

/-!
# What holds in every state of a run

The rows of the tasks make sense, the stages are in order, and what the callers remember is
still true. Every step is bounded by an effect, and all later results use that alone.
-/

namespace MinimaxProxy.Service
open Sql Sql.Prog Store

variable {R : Core → Core → Prop} {c : Core} {db : Database} {nodeID : String} {w : Work}

/-- A task of legacy nodes, for good. -/
structure Legacy (c : Core) : Prop where
  protocol : c.protocol = some .legacy
  ready : c.routeState = .ready

theorem legacy_after {c' : Core} {k : Kind} (move : CoreMove c k c') (legacy : Legacy c) : Legacy c' := by
  cases move with
  | route p awaiting => exact absurd (awaiting.symm.trans legacy.ready) nofun
  | _ => exact ⟨legacy.protocol, legacy.ready⟩

/-- What a step keeps of a task. -/
structure Aged (c c' : Core) : Prop where
  taskID : c'.taskID = c.taskID
  isOver : Over c → Over c'
  legacy : Legacy c → Legacy c'

theorem Aged.refl (c : Core) : Aged c c := ⟨rfl, id, id⟩

theorem Aged.trans {a b : Core} (first : Aged a b) (last : Aged b c) : Aged a c :=
  ⟨last.taskID.trans first.taskID, last.isOver ∘ first.isOver, last.legacy ∘ first.legacy⟩

theorem aged_of_move {c' : Core} {k : Kind} (sound : Sound c) (move : CoreMove c k c') : Aged c c' :=
  ⟨move.keeps.1, move.isOver sound, legacy_after move⟩

structure Inv (s : State) : Prop where
  orderly : Orderly s.db
  minted : ∀ t ∈ s.db.tasks, t.taskID ∈ s.minted
  decided : ∀ id ∈ s.decided, id ∈ s.minted ∧ ∀ t ∈ s.db.tasks, t.taskID = id → Over t.core
  legacy : ∀ id ∈ s.legacy, id ∈ s.minted ∧ ∀ t ∈ s.db.tasks, t.taskID = id → Legacy t.core
  tokens : ∀ stage ∈ s.db.stages, ∀ token, stage.leaseToken = some token → token ∈ s.drawn
  attempts : ∀ a ∈ s.db.attempts, a.id ∈ s.drawn
  seated : ∀ nodeID, Seated s.db nodeID (s.seats nodeID)
  leases : ∀ nodeID id token, (s.seats nodeID).lease = some (id, token) → token ∈ s.drawn
  works : ∀ nodeID id, (s.seats nodeID).attempt = some id → id ∈ s.drawn
  apart : ∀ nodeID nodeID' id id' token, (s.seats nodeID).lease = some (id, token) → (s.seats nodeID').lease = some (id', token) →
    nodeID = nodeID'

/-- The bound of an operation. -/
def Op.effect : Op → Effect
  | .deed d => d.effect
  | .decide _ | .abandon _ | .recognise _ => { kinds := [] }
  | .work _ w => w.effect

theorem Op.stable (op : Op) : op.effect.Stable := by
  cases op with
  | deed d => exact d.stable
  | work _ w => exact w.stable
  | decide | abandon | recognise => exact Effect.stable_of_trivial (fun _ => trivial) fun _ new => new.elim

section
variable {o : Options} {s t : State} {e : Event}

/-- What the caller of a deed knows is true. -/
theorem Inv.known_deed (inv : Inv s) {d : Deed} (known : d.Known s) : ∀ t ∈ s.db.tasks, d.effect.Known t := by
  intro t mem
  refine ⟨inv.orderly.sound t mem, ?_⟩
  cases d with
  | requestTaskDeletion uuid taskID reason requestedBy => exact fun named => (inv.decided taskID known).2 t mem named
  | saveBaseline taskID | saveSubmissionContext taskID | bindUpstreamJob taskID | beginRetry taskID | markRunning taskID
  | markReconciling taskID | markSucceeded taskID | finishCancelled taskID | markFailed taskID | requeue taskID =>
    exact fun named => ((inv.legacy taskID known).2 t mem named).protocol
  | _ => trivial

theorem Deed.Known.unused {d : Deed} (known : d.Known s) : ∀ id ∈ d.mints, id ∉ s.minted := by
  intro id mem
  cases d with
  | create validURL input keyHash available =>
    obtain rfl := List.mem_singleton.mp mem
    exact known
  | _ => cases mem

theorem Step.known (inv : Inv s) (step : Step o s e t) : ∀ t ∈ s.db.tasks, e.op.effect.Known t := by
  intro t mem
  have sound := inv.orderly.sound t mem
  cases step with
  | deed d now faults n known => exact inv.known_deed known t mem
  | decide | abandon | recognise => exact ⟨sound, trivial⟩
  | work nodeID w => cases w <;> exact ⟨sound, trivial⟩

theorem Inv.worked (inv : Inv s) {now : Int} {faults : Faults Err} {n : Nat}
    {seat : Seat} (named : nodeID ≠ "") (new : ∀ id ∈ w.draws, id ∉ s.drawn)
    (taken : w.step o nodeID now faults n s.db (s.seats nodeID) = some (db, seat)) : Worked nodeID (s.seats nodeID) w s.db db seat :=
  Work.worked inv.orderly.pipeline inv.orderly.sound named (inv.seated nodeID)
    (fun id mem a stored same => new id mem (same ▸ inv.attempts a stored)) taken

theorem Step.evolves (inv : Inv s) (step : Step o s e t) : e.op.effect.law.Evolves s.db t.db := by
  cases step with
  | deed d now faults n known => exact d.evolves o now faults n inv.orderly known
  | decide | abandon | recognise => exact Laws.chains.refl _
  | work nodeID w now faults n db seat named new taken => exact (inv.worked named new taken).law

/-- A task after the step was there, or it is a new one. -/
theorem Step.back (inv : Inv s) (step : Step o s e t) (refl : ∀ c, R c c) (trans : ∀ a b c, R a b → R b c → R a c)
    (moves : ∀ c k c', Sound c → k ∈ e.op.effect.kinds → CoreMove c k c' → R c c') :
    ∀ t' ∈ t.db.tasks, (∃ t ∈ s.db.tasks, R t.core t'.core) ∨ ∃ c, e.op.effect.fresh c ∧ R c t'.core :=
  Effect.back e.op.stable (Step.evolves inv step) (Step.known inv step) refl trans moves

/-- A task before the step is still there, or it has been removed. -/
theorem Step.forth (inv : Inv s) (step : Step o s e t) (refl : ∀ c, R c c) (trans : ∀ a b c, R a b → R b c → R a c)
    (moves : ∀ c k c', Sound c → k ∈ e.op.effect.kinds → CoreMove c k c' → R c c') :
    ∀ t₀ ∈ s.db.tasks, (∃ t' ∈ t.db.tasks, R t₀.core t'.core) ∨ ∃ c, e.op.effect.gone c ∧ R t₀.core c :=
  Effect.forth e.op.stable (Step.evolves inv step) (Step.known inv step) refl trans moves

/-- A new task has an id that was never used. -/
theorem Step.fresh (step : Step o s e t) (new : e.op.effect.fresh c) :
    c.taskID ∈ t.minted ∧ c.taskID ∉ s.minted := by
  cases step with
  | deed d now faults n known =>
    cases d with
    | create validURL input keyHash available =>
      obtain ⟨_, _, _, _, rfl⟩ := new
      exact ⟨List.mem_append_left _ (List.mem_singleton.mpr rfl), known⟩
    | _ => exact new.elim
  | decide | abandon | recognise => exact new.elim
  | work nodeID w => cases w <;> exact new.elim

/-- The row of a task before and after the step. -/
theorem Step.between (inv : Inv s) (step : Step o s e t) (refl : ∀ c, R c c)
    (trans : ∀ a b c, R a b → R b c → R a c) (moves : ∀ c k c', Sound c → k ∈ e.op.effect.kinds → CoreMove c k c' → R c c')
    (named : ∀ c c', R c c' → c'.taskID = c.taskID) {task task' : Task} (stored : task ∈ s.db.tasks) (stored' : task' ∈ t.db.tasks)
    (same : task'.taskID = task.taskID) : R task.core task'.core := by
  rcases Step.back inv step refl trans moves task' stored' with ⟨old, mem, related⟩ | ⟨c, new, related⟩
  · have kept : task'.taskID = old.taskID := named _ _ related
    rwa [task_unique stored mem (same.symm.trans kept)]
  · have kept : task'.taskID = c.taskID := named _ _ related
    have unused := (step.fresh new).2
    rw [← kept, same] at unused
    exact absurd (inv.minted task stored) unused

theorem Step.aged (inv : Inv s) (step : Step o s e t) : ∀ t' ∈ t.db.tasks, (∃ t ∈ s.db.tasks, Aged t.core t'.core) ∨
    (t'.taskID ∈ t.minted ∧ t'.taskID ∉ s.minted) := by
  intro t' mem
  rcases Step.back inv step Aged.refl (fun _ _ _ => Aged.trans)
    (fun _ _ _ sound _ move => aged_of_move sound move) t' mem with old | ⟨c, new, aged⟩
  · exact .inl old
  · have named : t'.taskID = c.taskID := aged.taskID
    rw [named]
    exact .inr (step.fresh new)

/-! ## Every step keeps it -/

theorem previews_of_law {e : Effect} {db' : Database} (law : e.law.Evolves db db') (items : Tbl.artifactDeletionItems ∉ e.tables)
    (jobs : Tbl.artifactDeletionJobs ∉ e.tables) (previews : Previews db) : Previews db' :=
  previews.of_same (Effect.same_rows law (by decide) items) (Effect.same_rows law (by decide) jobs)

theorem Deed.previews (d : Deed) (o : Options) (now : Int) (faults : Faults Err) (n : Nat) (orderly : Orderly s.db) (known : d.Known s) :
    Previews (d.after o now faults n s.db) := by
  have law := d.evolves o now faults n orderly known
  have previews := orderly.previews
  cases d with
  | requestTaskDeletion uuid taskID reason requestedBy =>
    exact requestTaskDeletion_previews uuid taskID reason requestedBy now faults n s.db previews
  | adminDelete taskID purged => exact adminDelete_sweeps sweeps_previews faults n s.db taskID purged previews
  | previewArtifactCleanup jobID secret olderThanDays requestedBy =>
    exact previewArtifactCleanup_previews jobID secret olderThanDays requestedBy now faults n s.db previews
  | confirmArtifactCleanup uuid token confirmation =>
    exact (confirmArtifactCleanup_evolves uuid token confirmation now faults n previews).2
  | retryArtifactCleanup => exact retryArtifactCleanup_sweeps sweeps_previews faults n s.db previews
  | claimDeletionItem => exact claimDeletionItem_sweeps sweeps_previews faults n s.db previews
  | renewDeletionLease => exact renewDeletionLease_sweeps sweeps_previews faults n s.db previews
  | failDeletionItem => exact failDeletionItem_sweeps sweeps_previews faults n s.db previews
  | completeDeletionItem => exact completeDeletionItem_sweeps sweeps_previews faults n s.db previews
  | _ =>
    exact previews_of_law law (by dsimp only [Deed.effect, createEffect, legacyEffect]; decide)
      (by dsimp only [Deed.effect, createEffect, legacyEffect]; decide) previews

/-- What the callers remember of the tasks, after a step. -/
theorem remember {minted ids : List String} {P : Core → Prop}
    (aged : ∀ t' ∈ db.tasks, (∃ t ∈ s.db.tasks, Aged t.core t'.core) ∨ (t'.taskID ∈ minted ∧ t'.taskID ∉ s.minted))
    (grows : ∀ id ∈ s.minted, id ∈ minted) (stays : ∀ c c', Aged c c' → P c → P c')
    (holds : ∀ id ∈ ids, id ∈ s.minted ∧ ∀ t ∈ s.db.tasks, t.taskID = id → P t.core) :
    ∀ id ∈ ids, id ∈ minted ∧ ∀ t ∈ db.tasks, t.taskID = id → P t.core := by
  intro id mem
  obtain ⟨known, held⟩ := holds id mem
  refine ⟨grows id known, fun t' stored named => ?_⟩
  rcases aged t' stored with ⟨t, old, aged⟩ | ⟨-, new⟩
  · exact stays _ _ aged (held t old (aged.taskID.symm.trans named))
  · exact absurd (named ▸ known) new

theorem Inv.named (inv : Inv s) {minted : List String}
    (aged : ∀ t' ∈ db.tasks, (∃ t ∈ s.db.tasks, Aged t.core t'.core) ∨ (t'.taskID ∈ minted ∧ t'.taskID ∉ s.minted))
    (grows : ∀ id ∈ s.minted, id ∈ minted) : ∀ t ∈ db.tasks, t.taskID ∈ minted := by
  intro t' stored
  rcases aged t' stored with ⟨t, old, aged⟩ | ⟨new, -⟩
  · have same : t'.taskID = t.taskID := aged.taskID
    exact same ▸ grows _ (inv.minted t old)
  · exact new

theorem Deed.decided_subset (d : Deed) {decided : List String} {id : String} (mem : id ∈ d.decided decided) : id ∈ decided := by
  cases d with
  | requestTaskDeletion => exact List.mem_of_mem_erase mem
  | _ => exact mem

theorem Inv.undisturbed (inv : Inv s) (d : Deed) (now : Int) (faults : Faults Err) (n : Nat) (known : d.Known s) :
    Undisturbed s.db (d.after o now faults n s.db) :=
  d.undisturbed o now faults n inv.orderly known (inv.known_deed known) fun id mem t stored same =>
    known.unused id mem (same ▸ inv.minted t stored)

theorem Inv.deed (inv : Inv s) (d : Deed) (now : Int) (faults : Faults Err) (n : Nat) (known : d.Known s) :
    Inv { s with db := d.after o now faults n s.db, clock := max s.clock now, minted := d.mints ++ s.minted
                 decided := d.decided s.decided } := by
  have step : Step o s ⟨.deed d, now, faults, n⟩ _ := .deed d now faults n known
  have aged := step.aged inv
  have grows : ∀ id ∈ s.minted, id ∈ d.mints ++ s.minted := fun _ => List.mem_append_right _
  have tasks := inv.known_deed known
  have kept := inv.undisturbed d now faults n known (o := o)
  have law := d.evolves o now faults n inv.orderly known
  refine ⟨⟨Effect.sound_after d.stable law tasks, kept.pipeline, d.previews o now faults n inv.orderly known⟩, inv.named aged grows,
    remember aged grows (fun _ _ aged => aged.isOver) fun id mem => inv.decided id (d.decided_subset mem),
    remember aged grows (fun _ _ aged => aged.legacy) inv.legacy, ?_, ?_, ?_, inv.leases, inv.works, inv.apart⟩
  · intro stage mem token held
    obtain ⟨old, stored, -, was, -⟩ := kept.spares stage.id token stage mem rfl held
    exact inv.tokens old stored token was
  · intro a' mem
    rcases kept.descend a' mem with ⟨a, stored, stems⟩ | new
    · exact stems.id ▸ inv.attempts a stored
    · cases new
  · exact fun nodeID => (inv.seated nodeID).spared (fun _ _ _ => kept.spares _ _) kept.descend fun _ _ _ no => no.elim

theorem Work.plain (w : Work) {table : Tbl} (other : table ∉ [.taskStages, .stageAttempts, .taskArtifacts, .artifactLocations,
    .callbackDeliveries]) : table ∉ w.effect.tables := by
  intro mem
  have sub : ∀ x ∈ w.effect.tables, x ∈ [Tbl.taskStages, .stageAttempts, .taskArtifacts, .artifactLocations, .callbackDeliveries] := by
    cases w <;> dsimp only [Work.effect] <;> decide
  exact other (sub table mem)

/-- The lease of another worker is none of this step's business. -/
theorem Inv.foreign (inv : Inv s) {other : String} (new : ∀ id ∈ w.draws, id ∉ s.drawn) (apart : other ≠ nodeID)
    {stageID token : String} (lease : (s.seats other).lease = some (stageID, token)) :
    Foreign nodeID (s.seats nodeID) w s.db stageID token where
  drawn mem := new token mem (inv.leases other stageID token lease)
  other id same := apart (inv.apart other nodeID stageID id token lease same)
  node stage mem named held same := by
    have on := ((inv.seated other).leased stageID token lease stage mem named held).1
    exact apart (Option.some.inj (on.symm.trans same))

theorem Inv.work (inv : Inv s) {now : Int} {faults : Faults Err} {n : Nat}
    {seat : Seat} (named : nodeID ≠ "") (new : ∀ id ∈ w.draws, id ∉ s.drawn)
    (taken : w.step o nodeID now faults n s.db (s.seats nodeID) = some (db, seat)) :
    Inv { s with db := db, clock := max s.clock now, drawn := w.draws ++ s.drawn, seats := Function.update s.seats nodeID seat } := by
  have step : Step o s ⟨.work nodeID w, now, faults, n⟩ _ := .work nodeID w now faults n db seat named new taken
  have aged := step.aged inv
  have worked := inv.worked named new taken
  have grows : ∀ id ∈ s.drawn, id ∈ w.draws ++ s.drawn := fun _ => List.mem_append_right _
  have attempts : ∀ a ∈ db.attempts, a.id ∈ w.draws ++ s.drawn := by
    intro a' mem
    rcases worked.descend a' mem with ⟨a, stored, stems⟩ | begun
    · exact stems.id ▸ grows _ (inv.attempts a stored)
    · exact List.mem_append_left _ begun.drawn
  have lease : ∀ id token, seat.lease = some (id, token) → token ∈ w.draws ∨ (s.seats nodeID).lease = some (id, token) := by
    intro id token held
    rcases worked.lease with none | same | ⟨id', token', drawn, same⟩
    · cases none.symm.trans held
    · exact .inr (same ▸ held)
    · cases same.symm.trans held
      exact .inl drawn
  refine ⟨⟨Effect.sound_after w.stable worked.law (step.known inv), worked.pipeline,
    previews_of_law worked.law (w.plain (by decide)) (w.plain (by decide)) inv.orderly.previews⟩, inv.named aged fun _ => id,
    remember aged (fun _ => id) (fun _ _ aged => aged.isOver) inv.decided,
    remember aged (fun _ => id) (fun _ _ aged => aged.legacy) inv.legacy, ?_, attempts, ?_, ?_, ?_, ?_⟩
  · intro stage mem token held
    rcases worked.tokens stage mem token held with drawn | ⟨old, stored, -, was⟩
    · exact List.mem_append_left _ drawn
    · exact grows _ (inv.tokens old stored token was)
  · intro other
    by_cases own : other = nodeID
    · subst own
      simpa only [Function.update_self] using worked.seated
    · simp only [Function.update_of_ne own]
      refine (inv.seated other).spared (fun stageID token held => worked.spares stageID token (inv.foreign new own held)) worked.descend ?_
      exact fun id works a begun same => new a.id begun.drawn (same ▸ inv.works other id works)
  · intro other id token held
    by_cases own : other = nodeID
    · subst own
      simp only [Function.update_self] at held
      rcases lease id token held with drawn | old
      · exact List.mem_append_left _ drawn
      · exact grows _ (inv.leases other id token old)
    · simp only [Function.update_of_ne own] at held
      exact grows _ (inv.leases other id token held)
  · intro other id works
    by_cases own : other = nodeID
    · subst own
      simp only [Function.update_self] at works
      rcases worked.attempt id works with old | ⟨a, stored, rfl⟩
      · exact grows _ (inv.works other id old)
      · exact attempts a stored
    · simp only [Function.update_of_ne own] at works
      exact grows _ (inv.works other id works)
  · intro first last id id' token held held'
    -- a token this worker has just drawn is no other worker's
    have foreign : ∀ other stageID, other ≠ nodeID → (s.seats other).lease = some (stageID, token) →
        seat.lease ≠ some (id, token) ∧ seat.lease ≠ some (id', token) := by
      intro other stageID apart theirs
      have no : ∀ id, seat.lease ≠ some (id, token) := by
        intro id same
        rcases lease id token same with drawn | old
        · exact new token drawn (inv.leases other stageID token theirs)
        · exact apart (inv.apart other nodeID stageID id token theirs old)
      exact ⟨no id, no id'⟩
    by_cases own : first = nodeID <;> by_cases own' : last = nodeID
    · rw [own, own']
    · subst own
      simp only [Function.update_self, Function.update_of_ne own'] at held held'
      exact absurd held (foreign last id' own' held').1
    · subst own'
      simp only [Function.update_self, Function.update_of_ne own] at held held'
      exact absurd held' (foreign first id own held).2
    · simp only [Function.update_of_ne own, Function.update_of_ne own'] at held held'
      exact inv.apart first last id id' token held held'

theorem Inv.step (inv : Inv s) (step : Step o s e t) : Inv t := by
  cases step with
  | deed d now faults n known => exact inv.deed d now faults n known
  | work nodeID w now faults n db seat named new taken => exact inv.work named new taken
  | decide task now faults n stored undeleted isOver =>
    refine { inv with decided := fun id mem => ?_ }
    rcases List.mem_cons.mp mem with rfl | old
    · refine ⟨inv.minted task stored, fun t mem same => ?_⟩
      rw [task_unique mem stored same]
      exact .inl isOver
    · exact inv.decided id old
  | abandon taskID => exact { inv with decided := fun id mem => inv.decided id (List.mem_of_mem_erase mem) }
  | recognise task now faults n stored protocol ready =>
    refine { inv with legacy := fun id mem => ?_ }
    rcases List.mem_cons.mp mem with rfl | old
    · refine ⟨inv.minted task stored, fun t mem same => ?_⟩
      rw [task_unique mem stored same]
      exact ⟨protocol, ready⟩
    · exact inv.legacy id old

theorem Start.inv (start : Start s) : Inv s := by
  have noTasks : ∀ t : Task, t ∉ s.db.tasks := fun t mem => by rw [start.tasks] at mem; cases mem
  have noStages : ∀ st : Stage, st ∉ s.db.stages := fun st mem => by rw [start.stages] at mem; cases mem
  have noAttempts : ∀ a : Attempt, a ∉ s.db.attempts := fun a mem => by rw [start.attempts] at mem; cases mem
  have pipeline : Pipeline s.db := by
    constructor
    case numbered | runs | staffed => exact fun a mem => absurd mem (noAttempts a)
    case result => exact fun t mem => absurd mem (noTasks t)
    all_goals exact fun st mem => absurd mem (noStages st)
  refine ⟨⟨fun t mem => absurd mem (noTasks t), pipeline, ?_⟩, fun t mem => absurd mem (noTasks t), ?_, ?_,
    fun st mem => absurd mem (noStages st), fun a mem => absurd mem (noAttempts a), ?_, ?_, ?_, ?_⟩
  · intro i mem
    rw [start.items] at mem
    cases mem
  · simp [start.decided]
  · simp [start.legacy]
  · intro nodeID
    rw [start.seats]
    exact .idle _ _
  all_goals simp [start.seats, Seat.lease, Seat.attempt]

/-- It holds in every state of every run, and with it what every step keeps. -/
theorem Reaches.holds {ok : State → Event → Prop} {J : State → Prop} (start : Start s) (first : J s)
    (keeps : ∀ t e u, Inv t → J t → ok t e → Step o t e u → J u) (run : Reaches o ok s t) : Inv t ∧ J t :=
  Sim.Run.invariant (fun t => Inv t ∧ J t) ⟨start.inv, first⟩ (fun t e u h met step => ⟨h.1.step step, keeps t e u h.1 h.2 met step⟩) run

theorem Reaches.inv {ok : State → Event → Prop} (start : Start s) (run : Reaches o ok s t) : Inv t :=
  (Reaches.holds (J := fun _ => True) start trivial (fun _ _ _ _ _ _ _ => trivial) run).1

end

end MinimaxProxy.Service
