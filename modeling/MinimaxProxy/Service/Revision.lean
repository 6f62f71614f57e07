import MinimaxProxy.Service.Stages
import MinimaxProxy.Store.Revision

/-!
# The routing revision during a run

Every step raises the revision or leaves the routing of every model as it is. A task that is
created with the revision some earlier state had was therefore routed by what is stored now.
-/

namespace MinimaxProxy.Service
open Sql Sql.Prog Store

/-- The tables that routes and offers are read from. -/
def routingTables : List Tbl := [.modelServiceNodes, .nodeModels, .modelRoutes, .routingState]

section
variable {o : Options} {s t u : State} {e : Event} {db db' : Database}

theorem revised_of_effect {eff : Effect} (law : eff.law.Evolves db db') (free : ∀ t ∈ routingTables, t ∉ eff.tables) : Revised db db' := by
  have same {t : Tbl} (mem : t ∈ routingTables) : db'.rows t = db.rows t :=
    Effect.same_rows law (by rintro rfl; revert mem; decide) (free t mem)
  exact .inr ⟨sameRouting_of_rows (same (t := .modelServiceNodes) (by decide)) (same (t := .nodeModels) (by decide))
    (same (t := .modelRoutes) (by decide)) (same (t := .routingState) (by decide)), same (t := .routingState) (by decide)⟩

theorem revised_of_body {α : Type} {p : Prog α} (body : ∀ r db', p.Returns db r db' → Revised db db') {faults : Faults Err} {n : Nat} :
    Revised db (immediate p faults n db).db := by
  rcases immediate_effect p faults with same | ⟨r, out⟩
  · rw [same]
    exact revised_refl
  · exact body _ _ out

theorem revised_of_raises {α : Type} {p : Prog α} (raises : p.Keeps Raised) {faults : Faults Err} {n : Nat} :
    Revised db (immediate p faults n db).db :=
  revised_of_body (fun _ _ out => .inl (raises _ _ _ out))

/-- The deeds that write the routing tables. -/
def Deed.routes : Deed → Bool
  | .createModelNode .. | .updateModelNode .. | .deleteModelNode ..
  | .importLegacyNodes .. | .refreshModelCatalog .. | .bindModelRoute .. => true
  | _ => false

theorem Deed.revised (d : Deed) (routes : d.routes = true) (o : Options) (now : Int) (faults : Faults Err) (n : Nat) (db : Database) :
    Revised db (d.after o now faults n db) := by
  cases d with
  | createModelNode input => exact revised_of_raises createModelNode_raises
  | updateModelNode id expectedVersion input => exact revised_of_raises updateModelNode_raises
  | deleteModelNode id expectedVersion => exact revised_of_raises deleteModelNode_raises
  | bindModelRoute model protocol admin version revision =>
    exact revised_of_raises bindModelRoute_raises
  | importLegacyNodes inputs => exact revised_of_body (fun _ _ => importLegacyNodes_revised)
  | refreshModelCatalog nodeID nodeVersion catalogRevision items errorCode =>
    show Revised db (Store.refreshModelCatalog nodeID nodeVersion catalogRevision items errorCode now faults n db).db
    unfold Store.refreshModelCatalog
    generalize (if errorCode = "" then validateCatalogItems items [] else .ok ()) = checked
    split
    · exact revised_refl
    cases checked with
    | error e => exact revised_refl
    | ok u => exact revised_of_body (fun _ _ => refreshModelCatalog_revised)
  | _ => cases routes

theorem Deed.unrouted {d : Deed} (other : d.routes = false) : ∀ t ∈ routingTables, t ∉ d.effect.tables := by
  cases d
  all_goals first | (dsimp only [Deed.effect, createEffect, legacyEffect, requestTaskDeletionEffect]; decide) | exact nomatch other

theorem Step.revised (inv : Inv s) (step : Step o s e t) : Revised s.db t.db := by
  cases step with
  | deed d now faults n known =>
    cases routes : d.routes with
    | true => exact d.revised routes o now faults n s.db
    | false => exact revised_of_effect (d.evolves o now faults n inv.orderly known) (Deed.unrouted routes)
  | decide | abandon | recognise => exact revised_refl
  | work nodeID w now faults n db seat named new taken =>
    exact revised_of_effect (inv.worked named new taken).law (by cases w <;> dsimp only [Work.effect] <;> decide)

/-! ## Over a run -/

/-- Routing is set up: there is a revision, as the migration stores it. -/
def HasRevision (db : Database) : Prop := ∃ r, db.rows Tbl.routingState = [r] ∧ 0 < RoutingState.revision r

theorem revision_of_row {r : RoutingState} (row : db.rows Tbl.routingState = [r]) : revision db = r.revision := by rw [revision, row]

/-- What has happened to the routing: nothing, or the revision is higher. -/
def Since (db db' : Database) : Prop := (SameRouting db db' ∧ revision db' = revision db) ∨ revision db < revision db'

theorem since_of_revised (has : HasRevision db) (h : Revised db db') : HasRevision db' ∧ Since db db' := by
  obtain ⟨r, row, positive⟩ := has
  rcases h with raised | ⟨same, level⟩
  · obtain ⟨r', row', less⟩ := raised r row
    exact ⟨⟨r', row', positive.trans less⟩, .inr (by rw [revision_of_row row, revision_of_row row']; exact less)⟩
  · have row' := level.trans row
    exact ⟨⟨r, row', positive⟩, .inl ⟨same, by rw [revision_of_row row, revision_of_row row']⟩⟩

theorem Since.trans {db'' : Database} (first : Since db db') (last : Since db' db'') : Since db db'' := by
  rcases first with ⟨same, level⟩ | less
  · rcases last with ⟨same', level'⟩ | less'
    · exact .inl ⟨same.trans same', level'.trans level⟩
    · exact .inr (level ▸ less')
  · rcases last with ⟨-, level'⟩ | less'
    · exact .inr (level'.symm ▸ less)
    · exact .inr (less.trans less')

theorem Reaches.since {ok : State → Event → Prop} (inv : Inv s) (has : HasRevision s.db) (run : Reaches o ok s t) :
    Inv t ∧ HasRevision t.db ∧ Since s.db t.db := by
  refine Sim.Run.invariant (fun t => Inv t ∧ HasRevision t.db ∧ Since s.db t.db) ⟨inv, has, .inl ⟨.refl _, rfl⟩⟩ ?_ run
  rintro t e u ⟨inv, has, since⟩ - step
  obtain ⟨has', later⟩ := since_of_revised has (Step.revised inv step)
  exact ⟨inv.step step, has', since.trans later⟩

/-! ## Creation -/

/-- A node that serves a task: it is enabled and has the protocol of the task, its catalog has not
expired, and its model accepts what the task requires. -/
structure Served (db : Database) (now : Int) (p : Protocol) (model : String) (r : TaskRequirements) (n : Node) : Prop where
  node : n ∈ db.nodes ∧ n.enabled = true ∧ n.deletedAt = none ∧ n.protocolVersion = p
  catalog : ∃ c ∈ db.catalogs, c.nodeID = n.id ∧ (c.source = .discovered → ∃ expiry, c.validUntil = some expiry ∧ now < expiry)
  model : ∃ m ∈ db.nodeModels, m.nodeID = n.id ∧ m.modelID = model ∧ m.enabled = true ∧ m.present = true ∧
    ∃ c, m.capabilitiesJSON = .value c ∧ c.accepts r = true

theorem served_of_checked {input : NewTask} {now : Int} {p : Protocol} {doc : SnapshotDoc} (h : Checked input now p doc db) :
    revision db = input.routingRevision ∧ ∃ snapshot, doc = .value snapshot ∧ ∃ n, Served db now p input.model snapshot.requirements n := by
  obtain ⟨⟨r, rest, row, same⟩, snapshot, isDoc, id, listed, cat, read, serves⟩ := h
  refine ⟨by rw [revision, row]; exact same, snapshot, isDoc, ?_⟩
  obtain ⟨n, isNode, rfl⟩ := List.mem_map.mp listed
  obtain ⟨stored, checks⟩ := List.mem_filter.mp isNode
  simp only [Bool.and_eq_true, beq_iff_eq, Option.isNone_iff_eq_none, List.any_eq_true] at checks
  obtain ⟨⟨⟨⟨enabled, undeleted⟩, protocol⟩, -⟩, c, isCatalog, mine, unexpired⟩ := checks
  obtain ⟨item, isItem, fits⟩ := List.any_eq_true.mp serves
  obtain ⟨m, isModel, decoded⟩ := (mem_mapM_ok (catalogWith_returns read).2).2 item isItem
  obtain ⟨isModel, onNode⟩ := List.mem_filter.mp isModel
  have stores := stores_of_decode (by simpa using onNode) decoded
  simp only [CatalogItem.serves, Bool.and_eq_true, beq_iff_eq] at fits
  obtain ⟨⟨⟨named, isEnabled⟩, isPresent⟩, accepts⟩ := fits
  refine ⟨n, ⟨stored, enabled, undeleted, protocol⟩, ⟨c, isCatalog, mine, fun discovered => ?_⟩, m, isModel, stores.node,
    stores.model.trans named, stores.data.1.trans isEnabled, stores.data.2.1.trans isPresent, item.capabilities, stores.data.2.2.2, accepts⟩
  rw [discovered] at unexpired
  cases valid : c.validUntil with
  | none => simp [valid] at unexpired
  | some expiry => exact ⟨expiry, rfl, by simpa [valid] using unexpired⟩

/-- Ranking the queue leaves the route of every task as it was stored. -/
theorem rebalance_route {now : Int} {r : Task} (out : (rebalance o now).Returns db () db') (stored : r ∈ db'.tasks) :
    ∃ row ∈ db.tasks, r.taskID = row.taskID ∧ r.model = row.model ∧ r.protocolVersion = row.protocolVersion ∧
      r.routingSnapshotJSON = row.routingSnapshotJSON := by
  obtain ⟨n, mid, ranked, done⟩ := returns_bind.mp out
  obtain ⟨-, rfl⟩ := returns_pure.mp done
  obtain ⟨tab, rfl, rows, -⟩ := apply_update (returns_exec.mp ranked)
  rw [Database.tasks, DB.rows_put_self, rows] at stored
  obtain ⟨row, isRow, rfl⟩ := List.mem_map.mp stored
  refine ⟨row, isRow, ?_⟩
  split <;> exact ⟨rfl, rfl, rfl, rfl⟩

/-- The task carries the route that was checked against the database it was inserted into. -/
theorem served_of_created {input : NewTask} {keyHash : String} {now : Int} {r : Task} (created : Created o input keyHash now db r db')
    (named : 0 < input.routingRevision) (unused : ∀ u ∈ db.tasks, u.taskID ≠ input.taskID) (mine : r.taskID = input.taskID) :
    revision db = input.routingRevision ∧ ∃ p snapshot, r.protocolVersion = some p ∧ r.routingSnapshotJSON = some (.value snapshot) ∧
      ∃ n, Served db now p r.model snapshot.requirements n := by
  cases created with
  | replayed k _ _ _ read => exact absurd mine (unused r (getWith_stored read).1)
  | inserted start mid _ row _ _ _ same inserted ranked read =>
    obtain ⟨p, doc, protocol, snapshotDoc, checked⟩ := inserted.routed.checked named
    obtain ⟨level, snapshot, rfl, node, served⟩ := served_of_checked checked
    obtain ⟨row', isRow', sameID, model, protocol', doc'⟩ := rebalance_route ranked (getWith_stored read).1
    -- the returned row is the inserted one: no older task has its id
    have isRow : row' = row := by
      rw [inserted.tasks] at isRow'
      rcases List.mem_append.mp isRow' with old | new
      · have old : row' ∈ db.tasks := by rwa [Database.tasks, same .videoTasks (by decide)] at old
        exact absurd (sameID.symm.trans mine) (unused row' old)
      · exact List.mem_singleton.mp new
    subst isRow
    have rows {t : Tbl} (other : t ≠ .idempotencyKeys) : start.rows t = db.rows t := same t other
    refine ⟨?_, p, snapshot, protocol'.trans protocol, doc'.trans snapshotDoc, node, ?_, ?_, ?_⟩
    · rw [← level, revision, revision, rows (by decide)]
    · have := served.node
      rwa [Database.nodes, rows (by decide)] at this
    · have := served.catalog
      rwa [Database.catalogs, rows (by decide)] at this
    · have := served.model
      rwa [Database.nodeModels, rows (by decide), ← inserted.routed.model, ← model] at this

/-- The routing revision in a state: a step that changes the routing of a model raises it, and a
task that a request creates with it, however many other steps lie between, finds the routing as it
was all the while and a node that serves it. -/
structure RevisionSound (o : Options) (s : State) : Prop where
  raises : ∀ e t, Step o s e t → ¬ SameRouting s.db t.db → revision s.db < revision t.db
  commits : ∀ u t, Reaches o (fun _ _ => True) s u → Reaches o (fun _ _ => True) u t →
    ∀ validURL input keyHash available now faults n r, input.routingRevision = revision s.db →
      (∀ v ∈ t.db.tasks, v.taskID ≠ input.taskID) → (create o validURL input keyHash available now faults n t.db).result = .ok r →
      r.taskID = input.taskID → SameRouting s.db u.db ∧ SameRouting s.db t.db ∧
        ∃ p snapshot, r.protocolVersion = some p ∧ r.routingSnapshotJSON = some (.value snapshot) ∧
          ∃ n, Served t.db (unix now) p r.model snapshot.requirements n

/-- In every run from a database with a revision. -/
theorem revision_sound (start : Start s) (has : HasRevision s.db) (run : Reaches o (fun _ _ => True) s t) : RevisionSound o t := by
  obtain ⟨inv, has, -⟩ := Reaches.since start.inv has run
  refine ⟨fun e u step changed => ?_, fun u v first last validURL input keyHash available now faults n r named unused out mine => ?_⟩
  · rcases (since_of_revised has (Step.revised inv step)).2 with ⟨same, -⟩ | less
    · exact absurd same changed
    · exact less
  · obtain ⟨inv', has', since⟩ := Reaches.since inv has first
    obtain ⟨-, -, since'⟩ := Reaches.since inv' has' last
    have positive : 0 < input.routingRevision := by
      obtain ⟨row, only, positive⟩ := has
      rwa [named, revision_of_row only]
    obtain ⟨level, served⟩ := served_of_created (createBody_spec (immediate_ok out)) positive unused mine
    -- the revision has not moved since it was read, so neither has the routing
    have level : revision v.db = revision t.db := level.trans named
    rcases since with ⟨same, level'⟩ | less <;> rcases since' with ⟨same', level''⟩ | less'
    · exact ⟨same, same.trans same', served⟩
    · omega
    · omega
    · omega

end

/-- The node of `stageStart`, with a route to its model. -/
def routedStart : State where
  db := stageStart.db.load
    [.insert Tbl.modelRoutes fun _ _ =>
      [{ modelID := "h3", protocolVersion := some .h3, selectionMode := .auto, createdAt := 0, updatedAt := 0 }],
     .insert Tbl.routingState fun _ _ => [{ instanceID := "i", updatedAt := 0 }]]

theorem routedStart_start : Start routedStart := ⟨rfl, rfl, rfl, rfl, rfl, rfl, rfl, rfl, rfl, rfl, fun _ => rfl⟩

def revisedRequest : NewTask := { stageRequest with routingRevision := 1 }

/-- The administrator binds the model to the protocol it has. -/
def boundRun : List Event := [⟨.deed (.bindModelRoute "h3" .h3 "admin" 1 1), 1000, noFaults, 0⟩]

/-- The request is accepted with the revision it has read, and refused once the route is
bound. -/
theorem revision_sound_bound : (create Flow.remoteOptions
    (fun _ => true) revisedRequest "" none 1000 noFaults 0 routedStart.db).result.isOk = true ∧
      (revision (routedStart.after Flow.remoteOptions boundRun).db = 2 ∧
        (create Flow.remoteOptions (fun _ => true) revisedRequest "" none 1000 noFaults 0
          (routedStart.after Flow.remoteOptions boundRun).db).result.isOk = false) ∧
      RevisionSound Flow.remoteOptions (routedStart.after Flow.remoteOptions boundRun) :=
  ⟨by decide +kernel, by decide +kernel,
    revision_sound routedStart_start ⟨_, rfl, by decide⟩ (reaches_after _ fun _ _ _ => trivial)⟩

end MinimaxProxy.Service
