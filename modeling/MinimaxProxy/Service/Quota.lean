import MinimaxProxy.Service.Finality

/-!
# Quotas

The limits of unfinished tasks are looked at when a task is created. A task that has ended comes
back only by the retry of its upload, so the limits hold in every run in which each retry is made
while there is room for its task.
-/

namespace MinimaxProxy.Service
open Sql Sql.Prog Store

/-- Does the task count? -/
def counts (t : Task) : Bool := t.deletedAt.isNone && t.status.isUnfinished

/-- The numbers of undeleted unfinished tasks are in the limits. -/
structure WithinLimits (o : Options) (db : Database) : Prop where
  own : ∀ apiKeyID, ((db.tasks.filter fun t => t.apiKeyID == apiKeyID && t.deletedAt.isNone && t.status.isUnfinished).length : Int)
    ≤ o.perKeyLimit
  all : ((db.tasks.filter fun t => t.deletedAt.isNone && t.status.isUnfinished).length : Int) ≤ o.globalLimit

/-- The retry of an undeleted failed task is made while the limits have room for it. -/
def RetriesFit (o : Options) (s : State) (e : Event) : Prop :=
  ∀ t ∈ s.db.tasks, e.op = .deed (.retryResultUpload t.taskID) → t.deletedAt = none → t.status = .failed → Within o t.apiKeyID s.db

/-! ## Counts -/

/-- A task that counts did so before, or it is the one that the limits had room for. -/
def Admits (o : Options) (db db' : Database) : Prop :=
  ∃ id, ∀ t' ∈ db'.tasks, counts t' = true →
    (∃ t ∈ db.tasks, t.taskID = t'.taskID ∧ t.apiKeyID = t'.apiKeyID ∧ counts t = true) ∨ (t'.taskID = id ∧ Within o t'.apiKeyID db)

/-- The tasks of a kind that count are at most one more. -/
theorem filter_length_le {db db' : Database} {p : Task → Bool} {id : String}
    (origin : ∀ t' ∈ db'.tasks, p t' = true → (∃ t ∈ db.tasks, t.taskID = t'.taskID ∧ p t = true) ∨ t'.taskID = id) :
    (db'.tasks.filter p).length ≤ (db.tasks.filter p).length + 1 := by
  have distinct := (tasks_distinct db').filter p
  refine (length_le_of_keys distinct (id :: (db.tasks.filter p).map (·.taskID)) fun t' mem => ?_).trans (by simp)
  obtain ⟨stored, hit⟩ := List.mem_filter.mp mem
  rcases origin t' stored hit with ⟨t, old, same, counted⟩ | named
  · exact List.mem_cons_of_mem _ (List.mem_map.mpr ⟨t, List.mem_filter.mpr ⟨old, counted⟩, same⟩)
  · exact named ▸ List.mem_cons_self

theorem filter_length_kept {db db' : Database} {p : Task → Bool}
    (origin : ∀ t' ∈ db'.tasks, p t' = true → ∃ t ∈ db.tasks, t.taskID = t'.taskID ∧ p t = true) :
    (db'.tasks.filter p).length ≤ (db.tasks.filter p).length := by
  have distinct := (tasks_distinct db').filter p
  refine (length_le_of_keys distinct ((db.tasks.filter p).map (·.taskID)) fun t' mem => ?_).trans (by simp)
  obtain ⟨stored, hit⟩ := List.mem_filter.mp mem
  obtain ⟨t, old, same, counted⟩ := origin t' stored hit
  exact List.mem_map.mpr ⟨t, List.mem_filter.mpr ⟨old, counted⟩, same⟩

/-- A count stays within its limit if it grows by one only where there is room. -/
theorem count_within {db db' : Database} {p : Task → Bool} {limit : Int} (id : String) (before : ((db.tasks.filter p).length : Int) ≤ limit)
    (admits : ∀ t' ∈ db'.tasks, p t' = true →
      (∃ t ∈ db.tasks, t.taskID = t'.taskID ∧ p t = true) ∨ (t'.taskID = id ∧ ((db.tasks.filter p).length : Int) < limit)) :
    ((db'.tasks.filter p).length : Int) ≤ limit := by
  by_cases room : ((db.tasks.filter p).length : Int) < limit
  · have grown := filter_length_le fun t' mem hit => (admits t' mem hit).imp_right And.left
    omega
  · have kept := filter_length_kept fun t' mem hit => (admits t' mem hit).resolve_right fun new => room new.2
    omega

theorem WithinLimits.admits {o : Options} {db db' : Database} (h : WithinLimits o db) (admits : Admits o db db') : WithinLimits o db' := by
  obtain ⟨id, admits⟩ := admits
  refine ⟨fun apiKeyID => count_within id (h.own apiKeyID) fun t' mem hit => ?_, count_within id h.all fun t' mem hit => ?_⟩
  · rw [Bool.and_assoc, Bool.and_eq_true, beq_iff_eq] at hit
    obtain ⟨rfl, counted⟩ := hit
    rcases admits t' mem counted with ⟨t, stored, same, owner, counted⟩ | ⟨named, room⟩
    · exact .inl ⟨t, stored, same, by rw [Bool.and_assoc, owner, beq_self_eq_true, Bool.true_and]; exact counted⟩
    · exact .inr ⟨named, room.own⟩
  · rcases admits t' mem hit with ⟨t, stored, same, -, counted⟩ | ⟨named, room⟩
    · exact .inl ⟨t, stored, same, counted⟩
    · exact .inr ⟨named, room.all⟩

/-! ## Steps -/

/-- What every step keeps of a task. -/
structure Owned (c c' : Core) : Prop where
  taskID : c'.taskID = c.taskID
  owner : c'.apiKeyID = c.apiKeyID
  undeleted : c'.deletedAt.isNone = true → c.deletedAt.isNone = true

theorem Owned.refl (c : Core) : Owned c c := ⟨rfl, rfl, id⟩

theorem Owned.trans {a b c : Core} (first : Owned a b) (last : Owned b c) : Owned a c :=
  ⟨last.taskID.trans first.taskID, last.owner.trans first.owner, first.undeleted ∘ last.undeleted⟩

theorem owned_of_move {c c' : Core} {k : Kind} (move : CoreMove c k c') : Owned c c' := by
  refine ⟨move.keeps.1, move.owner, fun undeleted => ?_⟩
  cases move <;> first | exact undeleted | cases undeleted

theorem unfinished_of_not_terminal {s : TaskStatus} (h : s.isTerminal = false) : s.isUnfinished = true := by
  cases s <;> first | rfl | cases h

/-- The task that the operation can add to those that count. -/
def Op.admits : Op → String
  | .deed (.create _ input _ _) => input.taskID
  | .deed (.retryResultUpload taskID) => taskID
  | _ => ""

section
variable {o : Options} {s t : State} {e : Event}

/-- A new task comes from a creation that found room for it. -/
theorem Step.fresh_within (step : Step o s e t) {c : Core} (new : e.op.effect.fresh c) :
    t.db = s.db ∨ c.taskID = e.op.admits ∧ Within o c.apiKeyID s.db := by
  cases step with
  | deed d now faults n known =>
    cases d with
    | create validURL input keyHash available =>
      obtain ⟨_, _, _, _, rfl⟩ := new
      rcases immediate_effect (createBody o validURL input keyHash available (unix now)) faults with same | ⟨r, out⟩
      · exact .inl same
      · exact (createBody_spec out).within.imp_right fun room => ⟨rfl, room⟩
    | _ => exact new.elim
  | decide | abandon | recognise => exact new.elim
  | work nodeID w => cases w <;> exact new.elim

theorem Step.admits (inv : Inv s) (step : Step o s e t) (fits : RetriesFit o s e) : Admits o s.db t.db := by
  refine ⟨e.op.admits, fun t' mem counted => ?_⟩
  obtain ⟨undeleted, unfinished⟩ := Bool.and_eq_true_iff.mp counted
  rcases Step.back inv step Owned.refl (fun _ _ _ => Owned.trans) (fun _ _ _ _ _ => owned_of_move) t' mem with
    ⟨task, stored, kept⟩ | ⟨c, new, kept⟩
  · have same : t'.taskID = task.taskID := kept.taskID
    have live : task.deletedAt.isNone = true := kept.undeleted undeleted
    cases isOver : task.status.isTerminal with
    | false => exact .inl ⟨task, stored, same.symm, kept.owner.symm, by rw [counts, live, unfinished_of_not_terminal isOver]; rfl⟩
    | true =>
      rcases step.final inv stored mem same isOver with still | ⟨failed, -, isRetry⟩
      · exact absurd isOver (by rw [← still, not_terminal_of_unfinished unfinished]; decide)
      · have room := fits task stored isRetry (Option.isNone_iff_eq_none.mp live) failed
        exact .inr ⟨by rw [same, isRetry]; rfl, by rw [show t'.apiKeyID = task.apiKeyID from kept.owner]; exact room⟩
  · rcases step.fresh_within new with same | ⟨named, room⟩
    · rw [same] at mem
      exact .inl ⟨t', mem, rfl, rfl, counted⟩
    · have owner : t'.apiKeyID = c.apiKeyID := kept.owner
      have same : t'.taskID = c.taskID := kept.taskID
      exact .inr ⟨same.trans named, owner ▸ room⟩

end

/-- In every run in which each retry fits, the undeleted unfinished tasks of each key and of all keys
are in the limits. -/
theorem unfinished_within_limits {o : Options} {s t : State} (ownLimit : 0 ≤ o.perKeyLimit) (allLimit : 0 ≤ o.globalLimit)
    (start : Start s) (run : Reaches o (RetriesFit o) s t) : WithinLimits o t.db := by
  have empty : WithinLimits o s.db := ⟨fun _ => by rw [start.tasks]; exact ownLimit, by rw [start.tasks]; exact allLimit⟩
  exact (Reaches.holds (J := fun u => WithinLimits o u.db) start empty
    (fun _ _ _ inv within fits step => within.admits (step.admits inv fits)) run).2

/-- One unfinished task for each key, and one in all. -/
def oneTask : Options := ⟨1, 1, 1, 86400, 3600⟩

/-- The task whose upload has failed, and the next one of its key. -/
def undeliveredAndNext : List Event :=
  undelivered ++ [⟨.deed (.create (fun _ => true) { Flow.remoteRequest with taskID := "t2" } "" none), 1000, noFaults, 0⟩]

theorem undeliveredAndNext_fits {s : State} : ∀ e ∈ undeliveredAndNext, RetriesFit oneTask s e := by
  intro e mem t _ isRetry
  have none : ∀ e ∈ undeliveredAndNext, ∀ taskID, e.op ≠ .deed (.retryResultUpload taskID) := by
    simp [undeliveredAndNext, undelivered]
  exact absurd isRetry (none e mem t.taskID)

theorem unfinished_within_limits_next : ((remoteStart.after oneTask undeliveredAndNext).db.tasks.map
    fun t => (t.taskID, t.apiKeyID, t.status))
        = [("t1", "k1", .failed), ("t2", "k1", .queuedLocked)] ∧
      WithinLimits oneTask (remoteStart.after oneTask undeliveredAndNext).db :=
  ⟨by decide +kernel, unfinished_within_limits (by decide) (by decide) remoteStart_start
    (reaches_after undeliveredAndNext fun e mem s => undeliveredAndNext_fits e mem)⟩

/-- The retry of the first task brings both to work. -/
theorem retry_exceeds_limits :
    ∃ t, Reaches oneTask (fun _ _ => True) remoteStart t ∧
      (t.db.tasks.map fun t => (t.apiKeyID, t.deletedAt, t.status)) = [("k1", none, .reconciling), ("k1", none, .queuedLocked)] ∧
      ¬ WithinLimits oneTask t.db := by
  have rows : ((remoteStart.after oneTask (undeliveredAndNext ++ [⟨.deed (.retryResultUpload "t1"), 1000, noFaults, 0⟩])).db.tasks.map
      fun t => (t.apiKeyID, t.deletedAt, t.status)) = [("k1", none, .reconciling), ("k1", none, .queuedLocked)] := by decide +kernel
  refine ⟨_, reaches_after _ fun _ _ _ => trivial, rows, fun within => ?_⟩
  exact absurd within.all (by decide +kernel)

end MinimaxProxy.Service
