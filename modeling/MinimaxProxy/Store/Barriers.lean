import MinimaxProxy.Sql.Blind
import MinimaxProxy.Store.CancelSteps

/-!
# Barriers in the way of a cancel

A cancel reads no barrier, and writes one for the open attempt of its task. So it ends as it
would without the stored barriers, unless one of them is on the node of that attempt or has its
cancel operation.
-/

namespace MinimaxProxy.Store
open Sql Sql.Prog

/-- The database without its barriers. -/
def unbarred (db : Database) : Database := db.put .nodeDispatchBarriers .empty

theorem parent_ne_barriers {t : Tbl} (r : schema.Row t) : ∀ k ∈ schema.refs t r, k.parent ≠ .nodeDispatchBarriers := by
  intro k mem
  cases t <;> simp only [schema, Tbl.refs, Tbl.ref, List.mem_append, List.mem_cons, List.mem_map, List.not_mem_nil] at mem <;> grind

/-! ## Their rows -/

/-- What a barrier keeps. -/
structure SameBarrier (b b' : Barrier) : Prop where
  node : b'.nodeID = b.nodeID
  task : b'.taskID = b.taskID
  attempt : b'.attemptID = b.attemptID
  operation : b'.cancelOperationID = b.cancelOperationID

theorem SameBarrier.refl (b : Barrier) : SameBarrier b b := ⟨rfl, rfl, rfl, rfl⟩

section
variable {db : Database}

/-- An UPDATE by the worker of the node. -/
theorem barriers_updated {sel : Barrier → Bool} {set : Barrier → Barrier}
    (keeps : ∀ b, SameBarrier b (set b)) {faults : Faults Err} {n : Nat} :
    ∃ f : Barrier → Barrier, (∀ b, SameBarrier b (f b)) ∧ Database.barriers
      ((exec (.update Tbl.nodeDispatchBarriers (fun _ b => sel b) fun _ b => set b) >>=
        barrierOneRow).direct faults n db).db = db.barriers.map f := by
  rcases direct_effect writes_barrierOneRow faults with same | ⟨m, applied⟩
  · exact ⟨id, .refl, by rw [same, List.map_id]⟩
  · obtain ⟨tab, moved, rows, -⟩ := apply_update applied
    refine ⟨fun b => if sel b then set b else b, fun b => ?_, by rw [moved, Database.barriers, DB.rows_put_self]; exact rows⟩
    dsimp only
    split
    · exact keeps b
    · exact .refl b

/-- A barrier is resolved in the version that the worker has read. -/
theorem barriers_resolved {nodeID : String} {rowVersion : Int} {faults : Faults Err} {n : Nat} :
    Database.barriers (resolveNodeDispatchBarrier nodeID rowVersion faults n db).db = db.barriers ∨
      Database.barriers (resolveNodeDispatchBarrier nodeID rowVersion faults n db).db =
        db.barriers.filter fun b => !(b.nodeID == nodeID && b.rowVersion == rowVersion) := by
  rcases direct_effect writes_barrierOneRow faults with same | ⟨m, applied⟩
  · exact .inl (by rw [resolveNodeDispatchBarrier, same])
  · obtain ⟨gone, -⟩ := apply_delete applied
    exact .inr (by rw [resolveNodeDispatchBarrier, gone]; exact remove_rows _)

/-! ## A cancel does not read them -/

theorem blind_rebalance {o : Options} {now : Int} : (rebalance o now).Blind Tbl.nodeDispatchBarriers :=
  blind_bind (blind_exec (blind_update (by decide) (fun _ _ => rfl) (fun _ _ => rfl) parent_ne_barriers)) fun _ => blind_pure

theorem blind_oneRow {n : Nat} : (oneRow n).Blind Tbl.nodeDispatchBarriers := by
  rw [oneRow]
  exact blind_ite blind_pure blind_fail

theorem blind_createCallbackDelivery {id taskID status : String} {now : Int} :
    (createCallbackDelivery id taskID status now).Blind Tbl.nodeDispatchBarriers := by
  refine blind_bind (blind_query fun _ _ => rfl) fun t => blind_ite blind_pure ?_
  exact blind_bind (blind_exec (blind_insert (by decide) (fun _ _ _ => rfl) parent_ne_barriers)) fun _ => blind_pure

theorem blind_finishStageTaskCancellation {callbackID taskID : String} {now : Int} :
    (finishStageTaskCancellation callbackID taskID now).Blind Tbl.nodeDispatchBarriers := by
  refine blind_bind (blind_exec (blind_update (by decide) (fun _ _ => rfl) (fun _ _ => rfl) parent_ne_barriers)) fun _ => ?_
  refine blind_bind (blind_exec (blind_update (by decide) (fun _ _ => rfl) (fun _ _ => rfl) parent_ne_barriers)) fun _ => ?_
  refine blind_bind (blind_exec (blind_update (by decide) (fun _ _ => rfl) (fun _ _ => rfl) parent_ne_barriers)) fun n => ?_
  exact blind_bind blind_oneRow fun _ => blind_createCallbackDelivery

/-- The stored barriers are on other nodes and for other attempts. -/
def Unbarred (db : Database) (a : Attempt) : Prop := ∀ b ∈ db.barriers, b.nodeID ≠ a.nodeID ∧ b.cancelOperationID ≠ "stage-cancel-" ++ a.id

theorem agree_unbarred : DB.Agree Tbl.nodeDispatchBarriers db (unbarred db) := fun _ other => (DB.put_of_ne _ other).symm

theorem barrier_agree {taskID : String} {now : Int} (free : ∀ s a, lastOpenAttempt db taskID = some (s, a) → Unbarred db a)
    {faults : Faults Err} {n : Nat} :
    ((createNodeDispatchBarrierForTask taskID now).run faults n db).Agree Tbl.nodeDispatchBarriers
      ((createNodeDispatchBarrierForTask taskID now).run faults n (unbarred db)) := by
  refine agree_query agree_unbarred (fun found read faults n => ?_) rfl faults
  match found with
  | none => exact ⟨rfl, rfl, agree_unbarred⟩
  | some (s, a) =>
    refine agree_bind (insert_agree (fun old stored => ?_) (fun _ _ _ => rfl) (parent_ne_barriers _) faults) fun _ => blind_pure
    obtain ⟨node, operation⟩ := free s a (Except.ok.inj read) old stored
    simp only [Tbl.fits, Barrier.fits, Bool.and_eq_true, bne_iff_ne]
    exact ⟨node, operation⟩

/-- A cancel ends as it would without the stored barriers. -/
theorem adminCancel_agree {o : Options} {taskID callbackID : String} {now : Int}
    (free : ∀ s a, lastOpenAttempt db taskID = some (s, a) → Unbarred db a) {faults : Faults Err} {n : Nat} :
    (adminCancel o taskID callbackID now faults n db).Agree Tbl.nodeDispatchBarriers
      (adminCancel o taskID callbackID now faults n (unbarred db)) := by
  have found (t : Task) (faults : Faults Err) (n : Nat) : ((cancelFound o t taskID callbackID (unix now)).run faults n db).Agree
      Tbl.nodeDispatchBarriers ((cancelFound o t taskID callbackID (unix now)).run faults n (unbarred db)) := by
    refine agree_bind (barrier_agree free) fun barrier => ?_
    refine blind_ite (blind_ite blind_finishStageTaskCancellation ?_) (blind_ite (blind_ite blind_finishStageTaskCancellation
      (blind_ite ?_ blind_pure)) blind_fail)
    · refine blind_bind (blind_exec (blind_update (by decide) (fun _ _ => rfl) (fun _ _ => rfl) parent_ne_barriers)) fun n => ?_
      exact blind_bind blind_oneRow fun _ => blind_bind blind_rebalance fun _ => blind_createCallbackDelivery
    · refine blind_bind (blind_exec (blind_update (by decide) (fun _ _ => rfl) (fun _ _ => rfl) parent_ne_barriers)) fun n => ?_
      exact blind_oneRow
  refine immediate_agree agree_unbarred (fun faults n => agree_query agree_unbarred (fun t _ faults n => ?_) rfl faults) faults
  dsimp only
  split
  · refine agree_query agree_unbarred (fun official _ faults n => ?_) rfl faults
    cases official with
    | true => exact ⟨rfl, rfl, agree_unbarred⟩
    | false => exact found t faults n
  · exact found t faults n

end

end MinimaxProxy.Store
