import MinimaxProxy.Service.Quota
import MinimaxProxy.Store.Isolation

/-!
# Idempotency keys

In every run the keys of an owner name tasks of that owner: only `Create` stores a key, for the
task that it inserts, and no task changes hands.
-/

namespace MinimaxProxy.Service
open Sql Sql.Prog Store

def keys (db : Database) : List IdempotencyKey := db.rows Tbl.idempotencyKeys

/-- Keys are only removed. -/
def keyLaw : Laws schema
  | .idempotencyKeys => ⟨fun _ _ => False, fun _ => False, fun _ => True⟩
  | _ => .any

theorem keyLaw_gone {tbl : Tbl} {r : tbl.Row} : (keyLaw tbl).gone r := by
  cases tbl <;> trivial

@[simp] theorem obeys_key_other {w : Dml} (other : ¬ w.table = .idempotencyKeys) : Obeys keyLaw w := by
  refine obeys_of_any ?_ fun _ _ _ _ _ _ => keyLaw_gone
  generalize w.table = tbl at other
  cases tbl with
  | idempotencyKeys => exact absurd rfl other
  | _ => rfl

@[simp] theorem obeys_key_delete {sel : Database → IdempotencyKey → Bool} : Obeys keyLaw (.delete Tbl.idempotencyKeys sel) :=
  obeys_delete (fun _ _ _ => trivial) fun _ _ _ _ _ _ => keyLaw_gone

theorem keys_of_law {db db' : Database} (law : keyLaw.Evolves db db') : ∀ k ∈ keys db', k ∈ keys db := fun k mem => by
  rcases Law.Evolves.back (R := Eq) (law .idempotencyKeys) (fun _ => rfl) (fun _ _ _ => Eq.trans) (fun _ _ => False.elim) k mem with
    ⟨_, stored, rfl⟩ | ⟨_, no, -⟩
  · exact stored
  · exact no.elim

section
variable {o : Options} {s t : State} {e : Event}

/-- The key of a new task. -/
def Op.KeyOf (k : IdempotencyKey) : Op → Prop
  | .deed (.create _ input _ _) => k.taskID = input.taskID ∧ k.apiKeyID = input.apiKeyID
  | _ => False

theorem create_keys {validURL : String → Bool} {input : NewTask} {keyHash : String} {available : Option Bool} {now : Int}
    {faults : Faults Err} {n : Nat} {db : Database} {k : IdempotencyKey}
    (mem : k ∈ keys (create o validURL input keyHash available now faults n db).db) :
    k ∈ keys db ∨ (k.taskID = input.taskID ∧ k.apiKeyID = input.apiKeyID) := by
  rcases immediate_effect (createBody o validURL input keyHash available (unix now)) faults with same | ⟨r, out⟩
  · rw [create, same] at mem
    exact .inl mem
  rw [create] at mem
  generalize (immediate (createBody o validURL input keyHash available (unix now)) faults n db).db = db' at mem out
  cases createBody_spec out with
  | replayed => exact .inl mem
  | inserted start mid d row _ _ kept _ inserted ranked _ =>
    have ranking : (rebalance o (unix now)).Writes (Obeys keyLaw) := by simp [rebalance]
    have early : k ∈ keys mid := keys_of_law (ranking.evolves ranked) k mem
    have old (was : k ∈ keys start) : k ∈ keys db := by
      rw [keys, kept] at was
      exact (List.mem_filter.mp was).1
    rcases inserted.keys with ⟨-, rows⟩ | ⟨-, id, rows⟩
    · rw [keys, rows] at early
      exact .inl (old early)
    · rw [keys, rows] at early
      rcases List.mem_append.mp early with was | new
      · exact .inl (old was)
      · rw [List.mem_singleton.mp new]
        exact .inr ⟨rfl, rfl⟩

theorem confirmArtifactCleanup_keys {uuid : Nat → String} {token confirmation : String} {now : Int} :
    Lawful keyLaw (confirmArtifactCleanup uuid token confirmation now) := by
  unfold confirmArtifactCleanup
  split
  · exact lawful_ite lawful_fail (lawful_immediate (by simp [confirmArtifactCleanupBody]))
  · exact lawful_fail

theorem Step.keys (inv : Inv s) (step : Step o s e t) {k : IdempotencyKey} (mem : k ∈ keys t.db) : k ∈ keys s.db ∨ e.op.KeyOf k := by
  have plain (free : .idempotencyKeys ∉ e.op.effect.tables) : k ∈ Service.keys s.db ∨ e.op.KeyOf k := by
    rw [Service.keys, Effect.same_rows (Step.evolves inv step) (by decide) free] at mem
    exact .inl mem
  cases step with
  | deed d now faults n known =>
    cases d with
    | create => exact create_keys mem
    | requestTaskDeletion =>
      exact .inl (keys_of_law (lawful_immediate (by simp [requestTaskDeletionBody]) faults n s.db) k mem)
    | dropExpiredKeys => exact .inl (keys_of_law (lawful_direct (by simp) faults n s.db) k mem)
    | confirmArtifactCleanup => exact .inl (keys_of_law (confirmArtifactCleanup_keys faults n s.db) k mem)
    | adminDelete _ purged =>
      exact .inl (keys_of_law (lawful_immediate (by cases purged <;> simp [adminDeleteBody, purgeRows]) faults n s.db) k mem)
    | _ => exact plain (by dsimp only [Op.effect, Deed.effect, legacyEffect]; decide)
  | work nodeID w => exact plain (Work.plain w (by decide))
  | decide | abandon | recognise => exact .inl mem

/-- What a key says of its task. -/
def KeyOwned (s : State) (k : IdempotencyKey) : Prop :=
  k.taskID ∈ s.minted ∧ ∀ task ∈ s.db.tasks, task.taskID = k.taskID → task.apiKeyID = k.apiKeyID

theorem KeyOwned.step {k : IdempotencyKey} (h : KeyOwned s k) (inv : Inv s) (step : Step o s e t) : KeyOwned t k := by
  refine ⟨step.minted_subset h.1, fun task' mem named => ?_⟩
  rcases Step.back inv step Owned.refl (fun _ _ _ => Owned.trans) (fun _ _ _ _ _ => owned_of_move) task' mem with
    ⟨task, stored, kept⟩ | ⟨c, new, kept⟩
  · exact kept.owner.trans (h.2 task stored (kept.taskID.symm.trans named))
  · have same : c.taskID = k.taskID := kept.taskID.symm.trans named
    exact absurd (same ▸ h.1) (step.fresh new).2

theorem Op.KeyOf.owned {k : IdempotencyKey} (isKey : e.op.KeyOf k) (inv : Inv s) (step : Step o s e t) : KeyOwned t k := by
  cases step with
  | deed d now faults n known =>
    cases d with
    | create validURL input keyHash available =>
      have step : Step o s ⟨.deed (.create validURL input keyHash available), now, faults, n⟩ _ := .deed _ now faults n known
      refine ⟨List.mem_append_left _ (List.mem_singleton.mpr isKey.1), fun task' mem named => ?_⟩
      rcases Step.back inv step Owned.refl (fun _ _ _ => Owned.trans) (fun _ _ _ _ _ => owned_of_move) task' mem with
        ⟨task, stored, kept⟩ | ⟨c, ⟨_, _, _, _, rfl⟩, kept⟩
      · have same : task.taskID = input.taskID := kept.taskID.symm.trans (named.trans isKey.1)
        exact absurd (same ▸ inv.minted task stored) known
      · exact kept.owner.trans isKey.2.symm
    | _ => exact isKey.elim
  | _ => exact isKey.elim

/-- In every run, a key of an owner names no task of another one. -/
theorem keys_owned {ok : State → Event → Prop} (start : Start s) (run : Reaches o ok s t) (owner : String) : KeysOwned owner t.db := by
  have first : ∀ k ∈ Service.keys s.db, KeyOwned s k := fun k mem => by
    rw [Service.keys, start.keys] at mem
    cases mem
  obtain ⟨-, owned⟩ := Reaches.holds (J := fun s => ∀ k ∈ Service.keys s.db, KeyOwned s k) start first
    (fun t e u inv owned _ step k mem => (step.keys inv mem).elim
      (fun old => (owned k old).step inv step) fun new => new.owned inv step) run
  rintro k mem rfl task stored named
  exact (owned k mem).2 task stored named

end

end MinimaxProxy.Service
