import MinimaxProxy.Service.Finality

/-!
# The stages of an H3 task

What the order of the stages and the leases of their workers come to, in every state of every
run: whoever crashes, restarts or lets a lease expire.
-/

namespace MinimaxProxy.Service
open Sql Sql.Prog Store

/-- The attempts of a stage. -/
def attemptsOf (db : Database) (s : Stage) : List Attempt := db.attempts.filter (·.stageID == s.id)

/-- The stages of every task are done one after the other, each by one attempt at a time that
stays on its node, and hand their results on. -/
structure StagesInOrder (o : Options) (t : State) : Prop where
  single : ∀ a ∈ t.db.attempts, ∀ b ∈ t.db.attempts, b.stageID = a.stageID → a.status.isOpen = true → b.status.isOpen = true → b = a
  staged : ∀ a ∈ t.db.attempts, ∃ s ∈ t.db.stages, s.id = a.stageID
  numbers : ∀ s ∈ t.db.stages,
    ((attemptsOf t.db s).map (·.attemptNo)).Perm ((List.range s.attemptCount.toNat).map fun i : Nat => (i : Int) + 1)
  budget : ∀ s ∈ t.db.stages, 0 ≤ s.attemptCount ∧ s.attemptCount ≤ s.maxAttempts
  resumed : ∀ nodeID, ∀ a ∈ t.db.attempts, (t.seats nodeID).attempt = some a.id → a.nodeID = nodeID
  placed : ∀ e u, Step o t e u → ∀ a ∈ t.db.attempts, ∀ a' ∈ u.db.attempts, a'.id = a.id → a'.nodeID = a.nodeID
  ordered : ∀ a ∈ t.db.attempts, ∀ s ∈ t.db.stages, s.id = a.stageID → ∀ e ∈ t.db.stages, e.taskID = s.taskID →
    e.stageOrder < s.stageOrder → Passed e
  chained : ∀ p ∈ t.db.stages, ∀ s ∈ t.db.stages, Follows t.db.stages p s → s.inputArtifactID = p.outputArtifactID
  result : ∀ task ∈ t.db.tasks, task.protocolVersion = some .h3 → task.status = .succeeded → ∃ s ∈ t.db.stages,
    s.taskID = task.taskID ∧ Last t.db.stages s ∧ s.status = .succeeded ∧ task.resultArtifactID = s.outputArtifactID

/-- The numbers of the attempts of a stage have no gap and no double. -/
theorem numbers_of_pipeline {db : Database} (h : Pipeline db) {s : Stage} (stored : s ∈ db.stages) :
    ((attemptsOf db s).map (·.attemptNo)).Perm ((List.range s.attemptCount.toNat).map fun i : Nat => (i : Int) + 1) := by
  have distinct : ((attemptsOf db s).map (·.attemptNo)).Nodup := by
    rw [List.Nodup, List.pairwise_map, attemptsOf, List.pairwise_filter]
    refine (numbers_distinct).imp fun {a b} differ ofStage ofStage' same => differ ?_
    rw [beq_iff_eq] at ofStage ofStage'
    rw [ofStage, ofStage', same]
  have range : ((List.range s.attemptCount.toNat).map fun i : Nat => (i : Int) + 1).Nodup :=
    List.nodup_range.map fun i j same => by omega
  refine (List.perm_ext_iff_of_nodup distinct range).mpr fun k => ?_
  have nonneg := (h.budget s stored).1
  simp only [List.mem_map, List.mem_range, attemptsOf, List.mem_filter, beq_iff_eq]
  constructor
  · rintro ⟨a, ⟨mem, ofStage⟩, rfl⟩
    obtain ⟨u, isStage, same, first, last⟩ := h.numbered a mem
    obtain rfl := eq_of_key (stages_distinct db) isStage stored (same.trans ofStage)
    exact ⟨(a.attemptNo - 1).toNat, by omega, by omega⟩
  · rintro ⟨i, bound, rfl⟩
    obtain ⟨a, mem, ofStage, number⟩ := h.counted s stored (i + 1) (by omega) (by omega)
    exact ⟨a, ⟨mem, ofStage⟩, number⟩

section
variable {o : Options} {s t : State} {e : Event}

/-- Attempts keep their nodes, and new ones have ids that were never used. -/
theorem Step.descend (inv : Inv s) (step : Step o s e t) : ∃ new, Descend new s.db t.db ∧ ∀ a, new a → a.id ∉ s.drawn := by
  cases step with
  | deed d now faults n known =>
    exact ⟨NoneNew, (inv.undisturbed d now faults n known).descend, fun _ no => no.elim⟩
  | work nodeID w now faults n db seat named new taken =>
    exact ⟨_, (inv.worked named new taken).descend, fun a begun => new a.id begun.drawn⟩
  | decide | abandon | recognise => exact ⟨NoneNew, descend_of_same rfl, fun _ no => no.elim⟩

/-- In every run of sequential stage workers, one for each node. -/
theorem stages_in_order (start : Start s) (run : Reaches o (fun _ _ => True) s t) : StagesInOrder o t := by
  have inv := Reaches.inv start run
  have pipeline := inv.orderly.pipeline
  refine ⟨fun a mem b mem' same isOpen isOpen' => pipeline.open_unique mem mem' same isOpen isOpen', fun a mem => ?_,
    fun s stored => numbers_of_pipeline pipeline stored, pipeline.budget,
    fun nodeID a mem works => (inv.seated nodeID).working a.id works a mem rfl, ?_, ?_, pipeline.chained, pipeline.result⟩
  · obtain ⟨s, stored, same, -⟩ := pipeline.numbered a mem
    exact ⟨s, stored, same⟩
  · intro e u step a mem a' mem' same
    obtain ⟨new, descend, unused⟩ := step.descend inv
    rcases descend a' mem' with ⟨b, stored, stems⟩ | isNew
    · rw [eq_of_key (attempts_distinct t.db) mem stored (same.symm.trans stems.id)]
      exact stems.node
    · exact absurd (inv.attempts a mem) (same ▸ unused _ isNew)
  · intro a mem s stored ofStage
    exact pipeline.ordered s stored (.inl (pipeline.begun mem stored ofStage))

end

/-! ## A task with two stages -/

/-- An H3 node with one model. -/
def stageStart : State where
  db := DB.empty.load
    [.insert Tbl.modelServiceNodes fun _ _ =>
      [{ id := "n1", serviceURL := "https://n1", protocolVersion := .h3
         apiKeyCiphertext := some "c", apiKeyNonce := some "n", apiKeyFingerprint := some "f", apiKeyID := some "i"
         createdAt := 0, updatedAt := 0 }],
    .insert Tbl.nodeModelCatalogs fun _ _ =>
      [{ nodeID := "n1", source := .builtin, connectionFingerprint := "f"
         lastStatus := .ready, lastSuccessAt := some 0, createdAt := 0, updatedAt := 0 }],
    .insert Tbl.nodeModels fun _ _ =>
      [{ nodeID := "n1", modelID := "h3", enabled := true
         capabilitiesJSON := .value { modes := [{ scenario := "t2va", durations := [4] }] }, createdAt := 0, updatedAt := 0 }]]

theorem stageStart_start : Start stageStart := ⟨rfl, rfl, rfl, rfl, rfl, rfl, rfl, rfl, rfl, rfl, fun _ => rfl⟩

def stageRequest : NewTask :=
  { protocolVersion := some .h3, taskID := "t1", apiKeyID := "k1", model := "h3", scenario := "t2va"
    requestJSON := .value { model := "h3", content := [] }, requestHash := "h", resolution := "", ratio := "", duration := 4
    stages :=
      [{ id := "s1", taskID := "t1", stageOrder := 1, stageType := .generation, maxAttempts := 2
         configSnapshotJSON := "c", createdAt := 1, updatedAt := 1 },
       { id := "s2", taskID := "t1", stageOrder := 2, stageType := .interpolation, maxAttempts := 2
         configSnapshotJSON := "c", createdAt := 1, updatedAt := 1 }] }

def stageAttempt (id stageID : String) (number : Int) : Attempt :=
  { id := id, stageID := stageID, attemptNo := number, operationID := id, nodeID := "n1", status := .dispatching, startedAt := 1 }

def stageOutput (stageID : String) : StageOutput :=
  { taskID := "t1", stageID := stageID, nodeID := "n1", nodeArtifactID := stageID, sizeBytes := 1
    digest := String.ofList (List.replicate 64 'a'), mediaJSON := "\x7b\x7d" }

/-- SHA-256 of the texts of the run. -/
def stageSha : String → String
  | "s1" => "e8bc163c82eee18733288c7d4ac636db"
  | "s2" => "ad328846aa18b32a335816374511cac1"
  | "n1\x00s1" => "e5bd04ceb35a5a99153ab22521789dc5"
  | "n1\x00s2" => "1d47594e98da6fbd1d074ffa77d16e6f"
  | _ => ""

/-- The worker crashes during the first attempt, resumes it, fails and tries again. -/
def stageRun : List Event :=
  [⟨.deed (.create (fun _ => true) stageRequest "" none), 1000, noFaults, 0⟩,
   ⟨.work "n1" (.claim "k1" 10), 1000, noFaults, 0⟩, ⟨.work "n1" .resume, 1000, noFaults, 0⟩,
   ⟨.work "n1" (.begin (stageAttempt "a1" "s1" 1)), 1000, noFaults, 0⟩, ⟨.work "n1" (.bind "x1" "c1"), 1000, noFaults, 0⟩,
   ⟨.work "n1" .leave, 1000, noFaults, 0⟩,
   ⟨.work "n1" (.claim "k2" 10), 2000, noFaults, 0⟩, ⟨.work "n1" .resume, 2000, noFaults, 0⟩,
   ⟨.work "n1" (.fail "e" "m" 2000 false "c2"), 2000, noFaults, 0⟩,
   ⟨.work "n1" (.claim "k3" 10), 3000, noFaults, 0⟩, ⟨.work "n1" .resume, 3000, noFaults, 0⟩,
   ⟨.work "n1" (.begin (stageAttempt "a2" "s1" 2)), 3000, noFaults, 0⟩, ⟨.work "n1" (.bind "x2" "c3"), 3000, noFaults, 0⟩,
   ⟨.work "n1" (.complete stageSha true (stageOutput "s1") "c4"), 3000, noFaults, 0⟩,
   ⟨.work "n1" (.claim "k4" 10), 4000, noFaults, 0⟩, ⟨.work "n1" .resume, 4000, noFaults, 0⟩,
   ⟨.work "n1" (.begin (stageAttempt "a3" "s2" 1)), 4000, noFaults, 0⟩, ⟨.work "n1" (.bind "x3" "c5"), 4000, noFaults, 0⟩,
   ⟨.work "n1" (.complete stageSha true (stageOutput "s2") "c6"), 4000, noFaults, 0⟩]

/-- A run in which two attempts of the first stage and one of the second end in a result. -/
theorem stages_in_order_run :
    ((stageStart.after Flow.remoteOptions stageRun).db.attempts.map fun a => (a.stageID, a.attemptNo)) = [("s1", 1), ("s1", 2), ("s2", 1)] ∧
      ((stageStart.after Flow.remoteOptions stageRun).db.tasks.map (·.status)) = [.succeeded] ∧
      StagesInOrder Flow.remoteOptions (stageStart.after Flow.remoteOptions stageRun) :=
  ⟨by decide +kernel, by decide +kernel, stages_in_order stageStart_start (reaches_after stageRun fun _ _ _ => trivial)⟩

end MinimaxProxy.Service
