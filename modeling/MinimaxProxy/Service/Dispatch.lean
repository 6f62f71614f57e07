import MinimaxProxy.Service.Stages
import MinimaxProxy.Store.Barriers

/-!
# One attempt on a node

The worker of a node is sequential, but it may return and claim again while an attempt of its
is still open on the node (orchestrator.go:69), and `ClaimStage` looks at the open attempts of
the stage it takes only (stage_store.go:79). As long as no claim takes another stage than
the one in hand, a node has one open attempt at most. Then a barrier closes the node as well:
the worker of a cancelled task has lost its lease, so it makes no attempt, and another cancel
finds no open attempt on the node.
-/

namespace MinimaxProxy.Service
open Sql Sql.Prog Store

/-- The stage that the scan finds for the node is the one of its open attempt, if it has one. -/
def TakesOwn (nodeID : String) (db : Database) : Except Err Stage → Prop
  | .ok stage => ∀ a ∈ db.attempts, a.status.isOpen = true → a.nodeID = nodeID → stage.id = a.stageID
  | .error _ => True

/-- Claims are made so. -/
def ClaimsOwn (s : State) (e : Event) : Prop :=
  ∀ nodeID leaseToken leaseDuration, e.op = .work nodeID (.claim leaseToken leaseDuration) →
    TakesOwn nodeID s.db ((nextEligibleStage nodeID e.now).eval s.db).1

/-- The stage in hand: all open attempts on a node are of one stage, the one of its worker. -/
structure InHand (s : State) : Prop where
  one : ∀ a ∈ s.db.attempts, ∀ b ∈ s.db.attempts, a.status.isOpen = true →
    b.status.isOpen = true → a.nodeID = b.nodeID → a.stageID = b.stageID
  seat : ∀ a ∈ s.db.attempts, a.status.isOpen = true → ∀ stageID token,
    (s.seats a.nodeID).lease = some (stageID, token) → stageID = a.stageID

section
variable {o : Options} {nodeID : String} {now : Int} {faults : Faults Err} {n : Nat} {db db' : Database} {seat seat' : Seat} {w : Work}

/-- A new lease is one of a claim. -/
structure Claimed (nodeID : String) (now : Int) (db : Database) (seat : Seat) (w : Work) (seat' : Seat) : Prop where
  idle : seat.lease = none
  unbarred : ∀ b ∈ db.barriers, b.nodeID ≠ nodeID
  leased : ∃ leaseToken leaseDuration stage, w = .claim leaseToken leaseDuration ∧
    ((nextEligibleStage nodeID now).eval db).1 = .ok stage ∧ seat'.lease = some (stage.id, leaseToken)

theorem Seat.after_lease {α : Type} (out : Outcome schema Err α) {next : α → Seat} {lease : Option (String × String)}
    (goes : ∀ a, (next a).lease = lease) : (Seat.after out next).lease = none ∨ (Seat.after out next).lease = lease := by
  cases result : out.result with
  | error e => exact .inl (by rw [Seat.after_error result]; rfl)
  | ok a => exact .inr (by rw [Seat.after_ok result, goes])

theorem resumed_lease {stageID token : String} {attempts : Int} :
    (resumed nodeID stageID token attempts db).lease = none ∨ (resumed nodeID stageID token attempts db).lease = some (stageID, token) := by
  rw [resumed]
  split
  · exact .inr rfl
  · split
    · exact .inr rfl
    · split
      · exact .inr rfl
      · split
        · exact .inr rfl
        · exact .inl rfl

/-- A worker keeps its lease, gives it up or claims a stage. -/
theorem Work.leases (taken : w.step o nodeID now faults n db seat = some (db', seat')) :
    seat'.lease = none ∨ seat'.lease = seat.lease ∨ Claimed nodeID now db seat w seat' := by
  cases Work.taken taken with
  | claim leaseToken leaseDuration =>
    rcases immediate_cases (claimStageBody nodeID leaseToken leaseDuration now) faults with ⟨e, error, same⟩ | ⟨r, ok, out⟩
    · exact .inl (by rw [claimStage, Seat.after_error error]; rfl)
    · obtain ⟨s, leases, rfl⟩ := claimStage_spec out
      exact .inr (.inr ⟨rfl, leases.unbarred, leaseToken, leaseDuration, _, rfl, leases.scanned, by rw [claimStage, Seat.after_ok ok]; rfl⟩)
  | resume stageID token attempts => exact (resumed_lease).imp_right .inl
  | begin | bind | renew => exact (Seat.after_lease _ fun _ => rfl).imp_right .inl
  | complete | fail | leave => exact .inl rfl

end

/-! ## Attempts -/

section
variable {o : Options} {s t : State} {e : Event}

/-- Attempts end, and nobody begins one. -/
theorem InHand.ended (h : InHand s) {db : Database} (descend : Descend NoneNew s.db db) : InHand { s with db := db } := by
  have old {a' : Attempt} (mem : a' ∈ db.attempts) (isOpen : a'.status.isOpen = true) :
      ∃ a ∈ s.db.attempts, a.status.isOpen = true ∧ a'.nodeID = a.nodeID ∧ a'.stageID = a.stageID := by
    rcases descend a' mem with ⟨a, stored, stems⟩ | no
    · exact ⟨a, stored, stems.isOpen isOpen, stems.node, stems.stage⟩
    · exact no.elim
  constructor
  · intro a' mem b' mem' isOpen isOpen' here
    obtain ⟨a, stored, aOpen, node, stage⟩ := old mem isOpen
    obtain ⟨b, stored', bOpen, node', stage'⟩ := old mem' isOpen'
    rw [stage, stage']
    exact h.one a stored b stored' aOpen bOpen (node.symm.trans (here.trans node'))
  · intro a' mem isOpen stageID token lease
    obtain ⟨a, stored, aOpen, node, stage⟩ := old mem isOpen
    rw [stage]
    exact h.seat a stored aOpen stageID token (node ▸ lease)

theorem InHand.work (h : InHand s) {nodeID : String} {w : Work} {now : Int} {faults : Faults Err} {n : Nat} {db : Database} {seat : Seat}
    (worked : Worked nodeID (s.seats nodeID) w s.db db seat) (met : ClaimsOwn s ⟨.work nodeID w, now, faults, n⟩)
    (taken : w.step o nodeID now faults n s.db (s.seats nodeID) = some (db, seat)) :
    InHand { s with db := db, seats := Function.update s.seats nodeID seat } := by
  constructor
  · intro a' mem b' mem' isOpen isOpen' here
    rcases worked.descend a' mem with ⟨a, stored, stems⟩ | begun <;> rcases worked.descend b' mem' with ⟨b, stored', stems'⟩ | begun'
    · rw [stems.stage, stems'.stage]
      exact h.one a stored b stored' (stems.isOpen isOpen) (stems'.isOpen isOpen') (stems.node.symm.trans (here.trans stems'.node))
    · obtain ⟨token, lease, -⟩ := begun'.held
      have node : a.nodeID = nodeID := stems.node.symm.trans (here.trans begun'.node)
      rw [stems.stage]
      exact (h.seat a stored (stems.isOpen isOpen) _ token (node.symm ▸ lease)).symm
    · obtain ⟨token, lease, -⟩ := begun.held
      have node : b.nodeID = nodeID := stems'.node.symm.trans (here.symm.trans begun.node)
      rw [stems'.stage]
      exact h.seat b stored' (stems'.isOpen isOpen') _ token (node.symm ▸ lease)
    · obtain ⟨token, lease, -⟩ := begun.held
      obtain ⟨token', lease', -⟩ := begun'.held
      exact (Prod.mk.inj (Option.some.inj (lease.symm.trans lease'))).1
  · intro a' mem isOpen stageID token lease
    by_cases own : a'.nodeID = nodeID
    · subst own
      simp only [Function.update_self] at lease
      rcases Work.leases taken with unleased | same | claimed
      · cases unleased.symm.trans lease
      · rw [same] at lease
        rcases worked.descend a' mem with ⟨a, stored, stems⟩ | begun
        · rw [stems.stage]
          exact h.seat a stored (stems.isOpen isOpen) stageID token (stems.node ▸ lease)
        · obtain ⟨token', held, -⟩ := begun.held
          exact (Prod.mk.inj (Option.some.inj (lease.symm.trans held))).1
      · obtain ⟨leaseToken, leaseDuration, stage, rfl, took, isLease⟩ := claimed.leased
        cases isLease.symm.trans lease
        rcases worked.descend a' mem with ⟨a, stored, stems⟩ | begun
        · have own := met _ _ _ rfl
          rw [took] at own
          rw [stems.stage]
          exact own a stored (stems.isOpen isOpen) stems.node.symm
        · obtain ⟨token', held, -⟩ := begun.held
          cases claimed.idle.symm.trans held
    · simp only [Function.update_of_ne own] at lease
      rcases worked.descend a' mem with ⟨a, stored, stems⟩ | begun
      · rw [stems.stage]
        exact h.seat a stored (stems.isOpen isOpen) stageID token (stems.node ▸ lease)
      · exact absurd begun.node own

theorem InHand.step (h : InHand s) (inv : Inv s) (met : ClaimsOwn s e) (step : Step o s e t) : InHand t := by
  cases step with
  | deed d now faults n known =>
    exact { h.ended (inv.undisturbed d now faults n known (o := o)).descend with }
  | work nodeID w now faults n db seat named new taken => exact { h.work (inv.worked named new taken) met taken with }
  | decide | abandon | recognise => exact { h with }

theorem Start.inHand (start : Start s) : InHand s := by
  have noAttempts : ∀ a, a ∉ s.db.attempts := fun a mem => by rw [start.attempts] at mem; cases mem
  exact ⟨fun a mem => absurd mem (noAttempts a), fun a mem => absurd mem (noAttempts a)⟩

/-- No node has two open attempts. -/
def SingleAttempts (db : Database) : Prop :=
  ∀ a ∈ db.attempts, ∀ b ∈ db.attempts, a.status.isOpen = true → b.status.isOpen = true → a.nodeID = b.nodeID → a = b

/-- In every run of sequential stage workers, one for each node, which claim no stage but the
one in hand. -/
theorem single_attempt_on_node (start : Start s) (run : Reaches o ClaimsOwn s t) : SingleAttempts t.db := by
  obtain ⟨inv, inHand⟩ := Reaches.holds (J := InHand) start start.inHand (fun _ _ _ inv h met step => h.step inv met step) run
  intro a mem b mem' isOpen isOpen' here
  exact inv.orderly.pipeline.open_unique mem' mem (inHand.one a mem b mem' isOpen isOpen' here) isOpen' isOpen

end

instance (nodeID : String) (db : Database) (result : Except Err Stage) : Decidable (TakesOwn nodeID db result) := by
  cases result <;> unfold TakesOwn <;> infer_instance

instance (s : State) (e : Event) : Decidable (ClaimsOwn s e) :=
  match isOp : e.op with
  | .work nodeID (.claim leaseToken leaseDuration) =>
    decidable_of_iff (TakesOwn nodeID s.db ((nextEligibleStage nodeID e.now).eval s.db).1)
      ⟨fun own _ _ _ same => by
        cases isOp.symm.trans same
        exact own, fun claims => claims _ _ _ isOp⟩
  | .deed _ | .decide _ | .abandon _ | .recognise _ => isTrue fun _ _ _ same => nomatch isOp.symm.trans same
  | .work _ .resume | .work _ (.begin _) | .work _ (.bind _ _) | .work _ (.renew _) | .work _ (.complete ..)
  | .work _ (.fail _ _ _ _ _) | .work _ .leave => isTrue fun _ _ _ same => nomatch isOp.symm.trans same

/-- The worker crashes during an attempt, claims its stage again when the lease has ended, and goes on. -/
theorem single_attempt_on_node_resumed :
    ((stageStart.after Flow.remoteOptions (stageRun.take 8)).db.attempts.map fun a =>
      (a.id, a.nodeID, a.status)) = [("a1", "n1", .running)] ∧
      SingleAttempts (stageStart.after Flow.remoteOptions (stageRun.take 8)).db :=
  ⟨by decide +kernel, single_attempt_on_node stageStart_start (reaches_of_meets (by decide +kernel))⟩

/-- A second task, for the same node. -/
def secondRequest : NewTask :=
  { stageRequest with
    taskID := "t2"
    stages := [{ id := "u1", taskID := "t2", stageOrder := 1, stageType := .generation, maxAttempts := 2
                 configSnapshotJSON := "c", createdAt := 1, updatedAt := 1 }] }

/-- The worker is restarted during the attempt of the first task, and claims the second one before
the lease of the first has ended. -/
def sharedRun : List Event :=
  [⟨.deed (.create (fun _ => true) stageRequest "" none), 1000, noFaults, 0⟩,
   ⟨.deed (.create (fun _ => true) secondRequest "" none), 1000, noFaults, 0⟩,
   ⟨.work "n1" (.claim "k1" 10), 1000, noFaults, 0⟩, ⟨.work "n1" .resume, 1000, noFaults, 0⟩,
   ⟨.work "n1" (.begin (stageAttempt "a1" "s1" 1)), 1000, noFaults, 0⟩, ⟨.work "n1" .leave, 1000, noFaults, 0⟩,
   ⟨.work "n1" (.claim "k2" 10), 1000, noFaults, 0⟩, ⟨.work "n1" .resume, 1000, noFaults, 0⟩,
   ⟨.work "n1" (.begin (stageAttempt "b1" "u1" 1)), 1000, noFaults, 0⟩]

theorem restarted_worker_shares_node :
    ∃ t, Reaches Flow.remoteOptions (fun _ _ => True) stageStart t ∧
      (t.db.attempts.map fun a => (a.id, a.nodeID, a.stageID, a.status)) =
        [("a1", "n1", "s1", .dispatching), ("b1", "n1", "u1", .dispatching)] ∧ ¬ SingleAttempts t.db := by
  refine ⟨_, reaches_after sharedRun fun _ _ _ => trivial, by decide +kernel, fun single => ?_⟩
  have two : ∃ a ∈ (stageStart.after Flow.remoteOptions sharedRun).db.attempts,
      ∃ b ∈ (stageStart.after Flow.remoteOptions sharedRun).db.attempts,
      a.status.isOpen = true ∧ b.status.isOpen = true ∧ a.nodeID = b.nodeID ∧ a.id ≠ b.id := by decide +kernel
  obtain ⟨a, mem, b, mem', isOpen, isOpen', here, differ⟩ := two
  exact differ (congrArg Attempt.id (single a mem b mem' isOpen isOpen' here))

end MinimaxProxy.Service
