import MinimaxProxy.Service.Bounds
import MinimaxProxy.Store.OfficialSteps

/-!
# Stage workers and their leases

What the worker of an H3 node knows holds as long as its token is on the stage. A step spares a
lease if it leaves the leased stage and its attempts alone; a token on a stage is the newest
one drawn for it, so a worker spares the leases of the others.
-/

namespace MinimaxProxy.Service
open Sql Sql.Prog Store

/-- The stage and the token of a worker. -/
def Seat.lease : Seat → Option (String × String)
  | .idle => none
  | .claimed stageID token _ | .fresh stageID token _ | .working stageID token _ => some (stageID, token)

/-- The attempt it works on. -/
def Seat.attempt : Seat → Option String
  | .working _ _ attemptID => some attemptID
  | _ => none

/-- What it knows of the stage while it has the lease. -/
def Seat.Knows (db : Database) : Seat → Stage → Prop
  | .idle, _ => True
  | .claimed _ _ attempts, s => s.attemptCount = attempts
  | .fresh .., s => ∀ a ∈ db.attempts, a.stageID = s.id → a.status.isOpen = false
  | .working _ _ attemptID, s => ∃ a ∈ db.attempts, a.id = attemptID ∧ a.stageID = s.id ∧ a.status.isOpen = true

structure Seated (db : Database) (nodeID : String) (seat : Seat) : Prop where
  leased : ∀ stageID token, seat.lease = some (stageID, token) → ∀ s ∈ db.stages, s.id = stageID → s.leaseToken = some token →
    s.currentNodeID = some nodeID ∧ seat.Knows db s
  working : ∀ attemptID, seat.attempt = some attemptID → ∀ a ∈ db.attempts, a.id = attemptID → a.nodeID = nodeID

theorem Seated.idle (db : Database) (nodeID : String) : Seated db nodeID .idle := ⟨nofun, nofun⟩

/-- What an attempt keeps. -/
structure Stems (a a' : Attempt) : Prop where
  id : a'.id = a.id
  node : a'.nodeID = a.nodeID
  stage : a'.stageID = a.stageID
  isOpen : a'.status.isOpen = true → a.status.isOpen = true

theorem Stems.refl (a : Attempt) : Stems a a := ⟨rfl, rfl, rfl, fun isOpen => isOpen⟩

/-- Attempts stay where they are, and the others are new. -/
def Descend (new : Attempt → Prop) (db db' : Database) : Prop :=
  ∀ a' ∈ db'.attempts, (∃ a ∈ db.attempts, Stems a a') ∨ new a'

/-- No attempt is new. -/
abbrev NoneNew (_ : Attempt) : Prop := False

/-- A leased stage was leased before, with the same attempts. -/
def Spares (stageID token : String) (db db' : Database) : Prop :=
  ∀ s' ∈ db'.stages, s'.id = stageID → s'.leaseToken = some token → ∃ s ∈ db.stages, s.id = stageID ∧ s.leaseToken = some token ∧
    s'.attemptCount = s.attemptCount ∧ s'.currentNodeID = s.currentNodeID ∧
      ∀ a : Attempt, a.stageID = stageID → (a ∈ db'.attempts ↔ a ∈ db.attempts)

section
variable {db db' : Database} {nodeID : String} {seat : Seat} {new : Attempt → Prop}

theorem Seat.Knows.of_same {s s' : Stage} (knows : seat.Knows db s) (id : s'.id = s.id) (count : s'.attemptCount = s.attemptCount)
    (attempts : ∀ a : Attempt, a.stageID = s.id → (a ∈ db'.attempts ↔ a ∈ db.attempts)) : seat.Knows db' s' := by
  cases seat with
  | idle => trivial
  | claimed _ _ attempts => exact count.trans knows
  | fresh =>
    intro a mem ofStage
    rw [id] at ofStage
    exact knows a ((attempts a ofStage).mp mem) ofStage
  | working =>
    obtain ⟨a, mem, named, ofStage, isOpen⟩ := knows
    exact ⟨a, (attempts a ofStage).mpr mem, named, ofStage.trans id.symm, isOpen⟩

/-- A worker whose lease is spared knows what it knew. -/
theorem Seated.spared (seated : Seated db nodeID seat)
    (spares : ∀ stageID token, seat.lease = some (stageID, token) → Spares stageID token db db')
    (descend : Descend new db db') (old : ∀ attemptID, seat.attempt = some attemptID →
      ∀ a, new a → a.id ≠ attemptID) : Seated db' nodeID seat where
  leased stageID token lease s' mem named held := by
    obtain ⟨s, stored, isNamed, isHeld, count, node, attempts⟩ := spares stageID token lease s' mem named held
    obtain ⟨on, knows⟩ := seated.leased stageID token lease s stored isNamed isHeld
    refine ⟨node.trans on, knows.of_same (named.trans isNamed.symm) count fun a ofStage => attempts a (ofStage.trans isNamed)⟩
  working attemptID works a' mem named := by
    rcases descend a' mem with ⟨a, stored, stems⟩ | isNew
    · exact stems.node.trans (seated.working attemptID works a stored (stems.id.symm.trans named))
    · exact absurd named (old attemptID works a' isNew)

/-! ## The deeds -/

theorem spares_of_same (stages : db'.stages = db.stages) (attempts : db'.attempts = db.attempts) (stageID token : String) :
    Spares stageID token db db' := by
  intro s mem named held
  rw [stages] at mem
  exact ⟨s, mem, named, held, rfl, rfl, fun a _ => by rw [attempts]⟩

theorem descend_of_same (attempts : db'.attempts = db.attempts) : Descend NoneNew db db' := by
  intro a mem
  rw [attempts] at mem
  exact .inl ⟨a, mem, .refl a⟩

variable {taskID : String}

theorem spares_added (adds : AddsTask taskID db db') (stageID token : String) : Spares stageID token db db' := by
  intro s mem named held
  rcases adds.stage mem with old | isNew
  · exact ⟨s, old, named, held, rfl, rfl, fun a _ => by rw [adds.attempts]⟩
  · rw [isNew.unleased] at held
    cases held

theorem spares_dropped (drops : DropsTask taskID db db') (stageID token : String) : Spares stageID token db db' := by
  intro s mem named held
  refine ⟨s, (drops.stage.mp mem).1, named, held, rfl, rfl, fun a ofStage => ⟨drops.attempt, fun stored => ?_⟩⟩
  exact drops.kept stored mem (ofStage.trans named.symm)

theorem descend_dropped (drops : DropsTask taskID db db') : Descend NoneNew db db' := fun a mem => .inl ⟨a, drops.attempt mem, .refl a⟩

theorem not_done_of_leased (h : Pipeline db) {s : Stage} (stored : s ∈ db.stages) {token : String} (held : s.leaseToken = some token) :
    s.status.isDone = false := by
  rcases h.leased s stored (by rw [held]; rfl) with is | is
  · rw [is]
    rfl
  · revert is
    cases s.status <;> decide

/-- A stage that is still leased is one of another task. -/
theorem other_of_leased (h : Pipeline db) {s s' : Stage} (stored : s ∈ db.stages) (cancelled : CancelledStage taskID s s') {token : String}
    (held : s'.leaseToken = some token) : s' = s ∧ s.taskID ≠ taskID := by
  obtain rfl : s' = s := by
    rcases cancelled.cases with same | ⟨-, -, noToken⟩
    · exact same
    · rw [noToken] at held
      cases held
  refine ⟨rfl, fun own => ?_⟩
  have isOver := (cancelled.own own (not_done_of_leased h stored held)).2
  rw [isOver] at held
  cases held

theorem spares_cancelled (h : Pipeline db) (cancels : CancelsStages taskID db db')
    (stageID token : String) : Spares stageID token db db' := by
  intro s' mem named held
  obtain ⟨s, stored, cancelled⟩ := cancels.stage mem
  -- it is a stage of another task, and so are its attempts
  obtain ⟨rfl, other⟩ := other_of_leased h stored cancelled held
  refine ⟨s', stored, named, held, rfl, rfl, fun a ofStage => ?_⟩
  obtain ⟨f, attempts, each⟩ := cancels.attempts
  have apart (b : Attempt) (ofIt : b.stageID = stageID) : stageOf db taskID b.stageID = false := by
    rw [← Bool.not_eq_true, stageOf_iff]
    rintro ⟨u, isU, ofTask, same⟩
    rw [eq_of_key (stages_distinct db) isU stored (same.trans (ofIt.trans named.symm))] at ofTask
    exact other ofTask
  rw [attempts]
  constructor
  · intro isAttempt
    obtain ⟨b, isOld, rfl⟩ := List.mem_map.mp isAttempt
    have ofIt : b.stageID = stageID := (each b isOld).same.2.1.symm.trans ofStage
    rw [(each b isOld).other (apart b ofIt)]
    exact isOld
  · intro isOld
    exact List.mem_map.mpr ⟨a, isOld, (each a isOld).other (apart a ofStage)⟩

/-- An attempt that is open after it is of another task. -/
theorem stems_cancelled {a a' : Attempt} (ended : CancelledAttempt db taskID a a') :
    Stems a a' ∧ (a'.status.isOpen = true → stageOf db taskID a.stageID = false) := by
  have other (isOpen : a'.status.isOpen = true) : stageOf db taskID a.stageID = false := by
    cases own : stageOf db taskID a.stageID with
    | true => exact absurd isOpen (by rw [ended.own own]; decide)
    | false => rfl
  exact ⟨⟨ended.same.1, ended.same.2.2.2, ended.same.2.1, fun isOpen => ended.other (other isOpen) ▸ isOpen⟩, other⟩

theorem descend_cancelled (cancels : CancelsStages taskID db db') : Descend NoneNew db db' := by
  intro a' mem
  obtain ⟨a, stored, ended⟩ := cancels.attempt mem
  exact .inl ⟨a, stored, (stems_cancelled ended).1⟩

theorem spares_settled (settles : SettlesStages taskID db db') (stageID token : String) : Spares stageID token db db' := by
  intro s' mem named held
  obtain ⟨s, stored, settled⟩ := settles.stage mem
  obtain rfl : s' = s := by
    rcases settled.cases with same | ⟨-, -, -, noToken⟩
    · exact same
    · rw [noToken] at held
      cases held
  exact ⟨s', stored, named, held, rfl, rfl, fun a _ => by rw [settles.attempts]⟩

end

/-- How a deed deals with the stages. -/
inductive Handled (db db' : Database) : Prop
  | quiet : Quiet db db' → Handled db db'
  | added {taskID : String} : AddsTask taskID db db' → Handled db db'
  | cancelled {taskID : String} : CancelsStages taskID db db' → Handled db db'
  | dropped {taskID : String} : DropsTask taskID db db' → Handled db db'
  | settled {taskID : String} : SettlesStages taskID db db' → Handled db db'

theorem handled_of_same {db db' : Database} (same : db' = db) : Handled db db' := by
  subst same
  exact .quiet ⟨rfl, rfl, fun t mem => ⟨t, mem, .refl _⟩, fun t mem => ⟨t, mem, rfl⟩⟩

theorem Deed.handled (d : Deed) (o : Options) (now : Int) (faults : Faults Err) (n : Nat) {s : State} (orderly : Orderly s.db)
    (known : d.Known s) (tasks : ∀ t ∈ s.db.tasks, d.effect.Known t) (unused : ∀ id ∈ d.mints, ∀ t ∈ s.db.tasks, t.taskID ≠ id) :
    Handled s.db (d.after o now faults n s.db) := by
  have law := d.evolves o now faults n orderly known
  cases staged : d.staged with
  | false => exact .quiet ((Deed.gentle staged).quiet d.stable law tasks)
  | true =>
    cases d with
    | create validURL input keyHash available =>
      exact (create_adds orderly.sound (unused _ (List.mem_singleton.mpr rfl))).elim
        handled_of_same .added
    | adminCancel taskID callbackID =>
      rcases adminCancel_cases orderly.pipeline orderly.sound with quietly | ⟨cancels, -⟩
      · have gentle : Gentle cancelTaskEffect := ⟨by decide, by decide, by decide, fun _ => id, fun _ => id⟩
        exact .quiet (gentle.quiet (Effect.stable_of_trivial (fun _ => trivial) fun _ new => new.elim) quietly
          fun t mem => ⟨orderly.sound t mem, trivial⟩)
      · exact .cancelled cancels
    | adminDelete taskID purged => exact (adminDelete_drops purged).elim handled_of_same .dropped
    | markOfficialGenerated taskID nodeID originURL ratio uploadJob callbackID =>
      exact (markOfficialGenerated_settles orderly.sound).elim
        handled_of_same .settled
    | markOfficialFailed taskID nodeID code message feedback callbackID =>
      exact (markOfficialFailed_settles orderly.sound).elim
        handled_of_same .settled
    | _ => cases staged

/-- What a deed leaves to the stage workers. -/
structure Undisturbed (db db' : Database) : Prop where
  pipeline : Pipeline db'
  spares : ∀ stageID token, Spares stageID token db db'
  descend : Descend NoneNew db db'

theorem Handled.undisturbed {db db' : Database} (handled : Handled db db') (h : Pipeline db) : Undisturbed db db' := by
  cases handled with
  | quiet quiet => exact ⟨h.quiet quiet, spares_of_same quiet.stages quiet.attempts, descend_of_same quiet.attempts⟩
  | added adds => exact ⟨h.added adds, spares_added adds, descend_of_same adds.attempts⟩
  | cancelled cancels => exact ⟨h.cancels cancels, spares_cancelled h cancels, descend_cancelled cancels⟩
  | dropped drops => exact ⟨h.dropped drops, spares_dropped drops, descend_dropped drops⟩
  | settled settles => exact ⟨h.settles settles, spares_settled settles, descend_of_same settles.attempts⟩

theorem Deed.undisturbed (d : Deed) (o : Options) (now : Int) (faults : Faults Err) (n : Nat) {s : State} (orderly : Orderly s.db)
    (known : d.Known s) (tasks : ∀ t ∈ s.db.tasks, d.effect.Known t) (unused : ∀ id ∈ d.mints, ∀ t ∈ s.db.tasks, t.taskID ≠ id) :
    Undisturbed s.db (d.after o now faults n s.db) :=
  (d.handled o now faults n orderly known tasks unused).undisturbed orderly.pipeline

end MinimaxProxy.Service
