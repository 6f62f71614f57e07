import MinimaxProxy.Store.NodeEffects

/-!
# The routing revision

A resolver reads a route, the nodes and their catalogs one after the other
(routing/service.go:26), and `Create` compares the revision that came with the route. So every
operation that changes what the resolver reads has to raise the revision. All of them end with
`bumpRouting`, but a discovery that finds the stored catalog again: it writes the same models.
-/

namespace MinimaxProxy.Store
open Sql Sql.Prog

variable {c : ModelCatalog} {db db' : Database} {nodeID : String} {now : Int}

/-! ## What is routed by -/

/-- The revision; there is none before routing is set up. -/
def revision (db : Database) : Int :=
  match db.rows Tbl.routingState with
  | [] => 0
  | (r : RoutingState) :: _ => r.revision

/-- What `routeWith` returns, but for the count of waiting legacy tasks. -/
def shownRoute (db : Database) (model : String) : Except Err Route :=
  ((routeWith model).eval db).1.map fun r => { r.1 with legacyAwaitingTasks := 0 }

/-- The model on the enabled nodes. -/
def shownModels (db : Database) (model : String) : List (String × List (Bool × Bool × Doc ModelCapability)) :=
  (db.nodes.filter fun n => n.enabled && n.deletedAt.isNone).map fun n =>
    (n.id, (db.nodeModels.filter fun m => m.nodeID == n.id && m.modelID == model).map fun m => (m.enabled, m.present, m.capabilitiesJSON))

/-- The routing of no model has changed. -/
def SameRouting (db db' : Database) : Prop := ∀ model,
    shownRoute db' model = shownRoute db model ∧ shownModels db' model = shownModels db model

/-- A row of `node_models` without its time. -/
def NodeModel.offer (m : NodeModel) : NodeModel := { m with updatedAt := 0 }

section
variable {db db' : Database}

theorem SameRouting.refl (db : Database) : SameRouting db db := fun _ => ⟨rfl, rfl⟩

theorem SameRouting.trans {db'' : Database} (first : SameRouting db db') (last : SameRouting db' db'') : SameRouting db db'' :=
  fun model => ⟨(last model).1.trans (first model).1, (last model).2.trans (first model).2⟩

theorem shownRoute_eq {model : String} : shownRoute db model =
    match db.rows Tbl.routingState with
    | [] => .error .noRows
    | _ :: _ => match (db.rows Tbl.modelRoutes).find? fun (r : ModelRoute) => r.modelID == model with
      | none => .error .unsupportedModel
      | some r => .ok
        { model := model, protocolVersion := r.protocolVersion, selectionMode := r.selectionMode, version := r.version
          state := routeState r.protocolVersion r.selectionMode (candidatesFor db model)
            (if r.protocolVersion.isNone then .ambiguous else .unavailable)
          candidates := candidatesFor db model, legacyAwaitingTasks := 0 } := by
  rw [shownRoute, routeWith, eval_bind, eval_query]
  cases db.rows Tbl.routingState with
  | nil => rfl
  | cons r rows =>
    dsimp only
    rw [eval_bind, eval_query]
    cases (db.rows Tbl.modelRoutes).find? fun (r : ModelRoute) => r.modelID == model with
    | none => rfl
    | some route => rfl

/-- The offers depend on the models without their times. -/
theorem sameRouting_of_offers (nodes : db'.nodes = db.nodes)
    (models : db'.nodeModels.map NodeModel.offer = db.nodeModels.map NodeModel.offer)
    (routes : db'.rows Tbl.modelRoutes = db.rows Tbl.modelRoutes) (state : db'.rows Tbl.routingState = db.rows Tbl.routingState) :
    SameRouting db db' := by
  have filtered (p : NodeModel → Bool) (only : ∀ m, p (NodeModel.offer m) = p m) {β : Type} (f : NodeModel → β)
      (same : ∀ m, f (NodeModel.offer m) = f m) : (db'.nodeModels.filter p).map f = (db.nodeModels.filter p).map f := by
    have through (rows : List NodeModel) : (rows.filter p).map f = ((rows.map NodeModel.offer).filter p).map f := by
      rw [List.filter_map, List.map_map]
      refine (congrArg (fun q => (rows.filter q).map f) (funext fun m => (only m).symm)).trans ?_
      exact List.map_congr_left fun m _ => (same m).symm
    rw [through db'.nodeModels, through db.nodeModels, models]
  have offered : offers db' = offers db := by
    have flat := congrArg List.flatten (filtered (fun m => m.enabled && m.present) (fun _ => rfl) (fun m =>
      (db.nodes.filter fun n => n.id == m.nodeID && n.enabled && n.deletedAt.isNone).map fun n =>
      (m.modelID, n.protocolVersion, n.id)) fun _ => rfl)
    simpa only [offers, nodes, List.flatMap_def] using flat
  intro model
  constructor
  · rw [shownRoute_eq, shownRoute_eq, routes, state, candidatesFor, candidatesFor, offered]
  · rw [shownModels, shownModels, nodes]
    exact List.map_congr_left fun n _ => congrArg _ (filtered _ (fun _ => rfl) _ fun _ => rfl)

theorem sameRouting_of_rows (nodes : db'.nodes = db.nodes) (models : db'.nodeModels = db.nodeModels)
    (routes : db'.rows Tbl.modelRoutes = db.rows Tbl.modelRoutes) (state : db'.rows Tbl.routingState = db.rows Tbl.routingState) :
    SameRouting db db' := sameRouting_of_offers nodes (by rw [models]) routes state

end

/-! ## Raising it -/

/-- The revision has been raised, if there is one. -/
def Raised (db db' : Database) : Prop :=
  ∀ r, db.rows Tbl.routingState = [r] → ∃ r', db'.rows Tbl.routingState = [r'] ∧ RoutingState.revision r < RoutingState.revision r'

/-- It is as before. -/
def Level (db db' : Database) : Prop := db'.rows Tbl.routingState = db.rows Tbl.routingState

theorem level_chains : Chains Level := ⟨fun _ => rfl, fun first last => last.trans first⟩

section
variable {α β : Type} {p : Prog α} {f : α → Prog β}

theorem level_exec {w : Dml} (other : w.table ≠ .routingState) : (exec w : Prog Nat).Keeps Level :=
  keeps_exec fun _ _ _ applied => apply_rows_of_ne applied other.symm fun _ _ _ isKey => absurd isKey List.not_mem_nil

theorem level_read (reads : p.Writes fun _ => False) : p.Keeps Level := reads.keeps level_chains fun _ no => no.elim

theorem raises_after (first : p.Keeps Level) (rest : ∀ a, (f a).Keeps Raised) : (p >>= f).Keeps Raised :=
  keeps_then (fun level raised r row => raised r (level.trans row)) first rest

theorem raises_before (first : p.Keeps Raised) (rest : ∀ a, (f a).Keeps Level) : (p >>= f).Keeps Raised := by
  refine keeps_then (fun raised level r row => ?_) first rest
  obtain ⟨r', row', less⟩ := raised r row
  exact ⟨r', level.trans row', less⟩

theorem bumpRouting_raises : (bumpRouting now).Keeps Raised := by
  refine raises_before (keeps_exec fun db n db' applied r row => ?_) fun _ => keeps_pure level_chains
  obtain ⟨tab, rfl, rows, -⟩ := apply_update applied
  refine ⟨_, by rw [DB.rows_put_self, rows, row]; rfl, ?_⟩
  show RoutingState.revision r < RoutingState.revision r + 1
  omega

theorem syncModelRoutes_level : (syncModelRoutes now).Keeps Level :=
  keeps_bind level_chains (level_exec (by simp)) fun _ => keeps_pure level_chains

theorem writeNodeModel_level {m : CatalogItem} : (writeNodeModel nodeID m now).Keeps Level :=
  keeps_bind level_chains (level_exec (by simp)) fun _ => keeps_pure level_chains

theorem hideNodeModels_level : (hideNodeModels nodeID now).Keeps Level :=
  keeps_bind level_chains (level_exec (by simp)) fun _ => keeps_pure level_chains

theorem require_level {b : Bool} {e : Err} : (require b e).Keeps Level := level_read writes_require

theorem writeNodeCatalog_raises {n : NodeInput} : (writeNodeCatalog n now).Keeps Raised := by
  refine raises_after (level_read (writes_attempt.mpr (writes_catalogWith _))) fun found => raises_after ?_ fun old => ?_
  · split
    · exact keeps_pure level_chains
    · exact keeps_pure level_chains
    · exact keeps_fail
  extract_lets fingerprint
  have ends : (syncModelRoutes now >>= fun _ => bumpRouting now).Keeps Raised :=
    raises_after syncModelRoutes_level fun _ => bumpRouting_raises
  split
  · exact raises_after require_level fun _ => ends
  split
  · exact keeps_fail
  refine raises_after require_level fun _ => ?_
  split
  · exact keeps_fail
  refine raises_after require_level fun _ => raises_after (level_exec (by simp)) fun _ => ?_
  refine raises_after hideNodeModels_level fun _ => ?_
  exact raises_after (keeps_forEach level_chains fun m _ => writeNodeModel_level) fun _ => ends

theorem createModelNode_raises {input : NodeInput} : (createModelNodeBody input now).Keeps Raised := by
  refine raises_after (level_read writes_select) fun n => raises_after require_level fun _ => ?_
  refine raises_after (level_exec (by simp)) fun _ => ?_
  exact raises_before writeNodeCatalog_raises fun _ => level_read writes_query

theorem updateNode_level {id : String} {version : Int} {set : Node → Node} : (updateNode id version set).Keeps Level :=
  keeps_bind level_chains (level_exec (by simp)) fun _ => require_level

theorem updateModelNode_raises {id : String} {expectedVersion : Int} {input : NodeInput} :
    (updateModelNodeBody id expectedVersion input now).Keeps Raised := by
  refine raises_after (level_read writes_query) fun current => raises_after require_level fun _ => ?_
  dsimp only
  split
  on_goal 1 => refine raises_after (level_read writes_select) fun _ => raises_after require_level fun _ => ?_
  all_goals
    refine raises_after (level_read writes_select) fun active => raises_after require_level fun _ => ?_
    refine raises_after updateNode_level fun _ => raises_after require_level fun _ => raises_after require_level fun _ => ?_
    refine raises_after (level_exec (by simp)) fun _ => ?_
    exact raises_before writeNodeCatalog_raises fun _ => level_read writes_query

theorem deleteModelNode_raises {id : String} {expectedVersion : Int} : (deleteModelNodeBody id expectedVersion now).Keeps Raised := by
  refine raises_after (level_read writes_query) fun current => raises_after require_level fun _ => raises_after require_level fun _ => ?_
  refine raises_after (level_read writes_select) fun _ => raises_after require_level fun _ => ?_
  refine raises_after (level_read writes_select) fun _ => raises_after require_level fun _ => ?_
  exact raises_after updateNode_level fun _ => bumpRouting_raises

theorem bindModelRoute_raises {model : String} {protocol : Protocol} {admin : String} {version revision : Int} :
    (bindModelRouteBody model protocol admin version revision now).Keeps Raised := by
  refine raises_after (level_read (writes_routeWith model)) fun r =>
    raises_after require_level fun _ => raises_after require_level fun _ => ?_
  exact raises_after (level_exec (by simp)) fun _ => raises_before bumpRouting_raises fun _ => level_read (writes_routeWith model)

/-- The revision is raised if the routing of a model changes. -/
def Revised (db db' : Database) : Prop := Raised db db' ∨ (SameRouting db db' ∧ Level db db')

theorem revised_refl : Revised db db := .inr ⟨.refl db, rfl⟩

theorem raises_forEach {g : α → Prog Unit} (each : ∀ a, (g a).Keeps Raised) (a : α) (l : List α) : (forEach g (a :: l)).Keeps Raised := by
  induction l generalizing a with
  | nil => exact raises_before (each a) fun _ => keeps_pure level_chains
  | cons b l ih =>
    refine keeps_then (fun raised later r row => ?_) (each a) fun _ => ih b
    obtain ⟨r₁, row₁, less₁⟩ := raised r row
    obtain ⟨r₂, row₂, less₂⟩ := later r₁ row₁
    exact ⟨r₂, row₂, less₁.trans less₂⟩

/-- Nodes are imported once; an import without nodes writes that it was made. -/
theorem importLegacyNodes_revised {inputs : List NodeInput} {r : Int × Bool}
    (out : (importLegacyNodesBody inputs now).Returns db r db') : Revised db db' := by
  obtain ⟨found, d1, read, rest⟩ := returns_bind.mp out
  obtain ⟨-, rfl⟩ := returns_select.mp read
  cases found with
  | some b =>
    obtain ⟨-, rfl⟩ := returns_pure.mp rest
    exact revised_refl
  | none =>
    obtain ⟨existing, d2, counted, rest₁⟩ := returns_bind.mp rest
    obtain ⟨-, rfl⟩ := returns_select.mp counted
    have recorded {count : Int} {imported : Bool} {d d' : Database} {r : Int × Bool} (ends : (do
        let _ ← exec (.insert Tbl.nodeConfigBootstrap
            fun _ _ => [{ source := "yaml_upstreams", importedCount := count, completedAt := now }])
        pure (count, imported) : Prog (Int × Bool)).Returns d r d') : SameRouting d d' ∧ Level d d' := by
      obtain ⟨_, mid, inserted, last⟩ := returns_bind.mp ends
      obtain ⟨-, rfl⟩ := returns_pure.mp last
      have others (t : Tbl) (other : t ≠ .nodeConfigBootstrap) := apply_insert_rows_of_ne (returns_exec.mp inserted) other
      exact ⟨sameRouting_of_rows (others .modelServiceNodes (by decide)) (others .nodeModels (by decide)) (others .modelRoutes (by decide))
        (others .routingState (by decide)), others .routingState (by decide)⟩
    dsimp only at rest₁
    split at rest₁
    · obtain ⟨_, d3, imported, last⟩ := returns_bind.mp rest₁
      cases sorted : inputs.insertionSort fun a b => a.id ≤ b.id with
      | nil =>
        rw [sorted] at imported
        obtain ⟨-, rfl⟩ := returns_pure.mp imported
        exact .inr (recorded last)
      | cons input later =>
        rw [sorted] at imported
        have each (input : NodeInput) : (do
            let _ ← exec (.insert Tbl.modelServiceNodes fun _ _ => [newNode input now])
            writeNodeCatalog (storedInput input) now : Prog Unit).Keeps Raised :=
          raises_after (level_exec (by simp)) fun _ => writeNodeCatalog_raises
        have raised := raises_forEach each input later _ _ _ imported
        refine .inl fun row isRow => ?_
        obtain ⟨row', isRow', less⟩ := raised row isRow
        exact ⟨row', (recorded last).2.trans isRow', less⟩
    · exact .inr (recorded rest₁)

/-! ## A discovery that finds nothing new -/

/-- The decoded models of a node. -/
theorem catalogWith_returns (out : (catalogWith nodeID).Returns db c db') :
    db' = db ∧ (db.nodeModels.filter (·.nodeID == nodeID)).mapM decodeModel = .ok c.items := by
  obtain ⟨row, d1, read, rest⟩ := returns_bind.mp out
  obtain ⟨-, rfl⟩ := returns_query.mp read
  obtain ⟨items, d2, decoded, last⟩ := returns_bind.mp rest
  obtain ⟨isItems, rfl⟩ := returns_query.mp decoded
  obtain ⟨rfl, rfl⟩ := returns_pure.mp last
  exact ⟨rfl, isItems⟩

theorem mem_mapM_ok {ε γ δ : Type} {g : γ → Except ε δ} {l : List γ} {r : List δ} (out : l.mapM g = .ok r) :
    (∀ a ∈ l, ∃ b ∈ r, g a = .ok b) ∧ ∀ b ∈ r, ∃ a ∈ l, g a = .ok b := by
  induction l generalizing r with
  | nil =>
    obtain rfl : [] = r := Except.ok.inj out
    exact ⟨nofun, nofun⟩
  | cons a l ih =>
    rw [List.mapM_cons] at out
    cases first : g a with
    | error e => rw [first] at out; cases out
    | ok b =>
      cases rest : l.mapM g with
      | error e => rw [first, rest] at out; cases out
      | ok bs =>
        rw [first, rest] at out
        obtain rfl : b :: bs = r := Except.ok.inj out
        obtain ⟨forth, back⟩ := ih rest
        constructor
        · intro x mem
          rcases List.mem_cons.mp mem with rfl | later
          · exact ⟨b, List.mem_cons_self, first⟩
          · obtain ⟨y, isY, eq⟩ := forth x later
            exact ⟨y, List.mem_cons_of_mem _ isY, eq⟩
        · intro y mem
          rcases List.mem_cons.mp mem with rfl | later
          · exact ⟨a, List.mem_cons_self, first⟩
          · obtain ⟨x, isX, eq⟩ := back y later
            exact ⟨x, List.mem_cons_of_mem _ isX, eq⟩

/-- The stored row of a discovered model. -/
structure Stores (nodeID : String) (c : CatalogItem) (m : NodeModel) : Prop where
  node : m.nodeID = nodeID
  model : m.modelID = c.modelID
  data : m.enabled = c.enabled ∧ m.present = c.present ∧ m.verified = c.verified ∧ m.capabilitiesJSON = .value c.capabilities

theorem stores_of_decode {c : CatalogItem} {m : NodeModel} (node : m.nodeID = nodeID) (decoded : decodeModel m = .ok c) :
    Stores nodeID c m := by
  unfold decodeModel at decoded
  cases isDoc : m.capabilitiesJSON with
  | unreadable => rw [isDoc] at decoded; cases decoded
  | value d =>
    rw [isDoc] at decoded
    cases decoded
    exact ⟨node, rfl, rfl, rfl, rfl, isDoc⟩

theorem models_distinct : db.nodeModels.Pairwise fun a b => (a.nodeID, a.modelID) ≠ (b.nodeID, b.modelID) := by
  refine (db Tbl.nodeModels).fit.imp fun {a b} fits same => ?_
  simp [Tbl.fits, NodeModel.fits, (Prod.mk.inj same).1, (Prod.mk.inj same).2] at fits

/-- A row while its models are written again: it is as before, or its model is among the rest. -/
structure Rewritten (nodeID : String) (rest : List CatalogItem) (m m' : NodeModel) : Prop where
  key : m'.nodeID = m.nodeID ∧ m'.modelID = m.modelID ∧ m'.createdAt = m.createdAt
  data : NodeModel.offer m' = NodeModel.offer m ∨ ∃ c ∈ rest, Stores nodeID c m

/-- The rows are written with the data they had. -/
theorem writeNodeModels_same {rows : List NodeModel} (distinct : rows.Pairwise fun a b => (a.nodeID, a.modelID) ≠ (b.nodeID, b.modelID))
    {items : List CatalogItem} (stored : ∀ c ∈ items, ∃ m ∈ rows, Stores nodeID c m) {g : NodeModel → NodeModel}
    (rewritten : db.nodeModels = rows.map g) (each : ∀ m ∈ rows, Rewritten nodeID items m (g m)) {u : Unit}
    (out : (forEach (fun m => writeNodeModel nodeID m now) items).Returns db u db') :
    db'.nodeModels.map NodeModel.offer = rows.map NodeModel.offer ∧ ∀ t, t ≠ .nodeModels → db'.rows t = db.rows t := by
  induction items generalizing db g with
  | nil =>
    obtain ⟨-, rfl⟩ := returns_pure.mp out
    refine ⟨?_, fun _ _ => rfl⟩
    rw [rewritten, List.map_map]
    refine List.map_congr_left fun m mem => ?_
    rcases (each m mem).data with same | ⟨c, inNil, -⟩
    · exact same
    · cases inNil
  | cons c items ih =>
    obtain ⟨_, mid, written, rest⟩ := returns_bind.mp out
    obtain ⟨_, d, upserted, last⟩ := returns_bind.mp written
    obtain ⟨-, rfl⟩ := returns_pure.mp last
    rw [returns_exec] at upserted
    obtain ⟨m₀, isRow, stores⟩ := stored c List.mem_cons_self
    have found : (db.nodeModels.find? fun old => nodeID == old.nodeID && c.modelID == old.modelID).isSome = true := by
      rw [List.find?_isSome, rewritten]
      have key := (each m₀ isRow).key
      exact ⟨g m₀, List.mem_map_of_mem isRow, by rw [key.1, key.2.1, stores.node, stores.model]; simp⟩
    obtain ⟨tab, rfl, updated⟩ := apply_upsert_merge upserted rfl found fun _ => rfl
    have next : Database.nodeModels (db.put .nodeModels tab) = rows.map fun m =>
        if nodeID == (g m).nodeID && c.modelID == (g m).modelID then
          { g m with
            enabled := c.enabled, present := c.present
            capabilitiesJSON := .value c.capabilities, verified := c.verified, updatedAt := now }
        else g m := by
      have mapped : tab.rows = (rows.map g).map _ := updated.trans (congrArg _ rewritten)
      rw [Database.nodeModels, DB.rows_put_self, mapped, List.map_map]
      rfl
    have rewritten := ih (fun c' mem => stored c' (List.mem_cons_of_mem _ mem)) next
    suffices again : ∀ m ∈ rows, Rewritten nodeID items m _ from
      ⟨(rewritten again rest).1, fun t other => ((rewritten again rest).2 t other).trans (DB.rows_put_of_ne tab other)⟩
    intro m mem
    obtain ⟨⟨node, model, created⟩, data⟩ := each m mem
    split
    · rename_i hit
      simp only [Bool.and_eq_true, beq_iff_eq] at hit
      -- the item is the one that this row had
      obtain rfl : m = m₀ := eq_of_key distinct mem isRow (by
        rw [stores.node, stores.model, ← node, ← model, ← hit.1, ← hit.2])
      obtain ⟨enabled, present, verified, capabilities⟩ := stores.data
      refine ⟨⟨node, model, created⟩, .inl ?_⟩
      simp only [NodeModel.offer, node, model, created, ← enabled, ← present, ← verified, ← capabilities]
    · rename_i miss
      refine ⟨⟨node, model, created⟩, data.imp_right fun ⟨c', isItem, stores'⟩ => ?_⟩
      rcases List.mem_cons.mp isItem with rfl | later
      · exact absurd (by rw [node, model, stores'.node, stores'.model]; simp) miss
      · exact ⟨c', later, stores'⟩

/-- Does a discovery differ from the stored catalog? -/
def discoveryChanges (old : ModelCatalog) (current : List CatalogItem) : Bool :=
  current.any (fun m => old.items.find? (·.modelID == m.modelID) != some m)
    || old.items.any fun m => m.present && !current.any (·.modelID == m.modelID)

/-- A discovery that changes nothing writes the models with the data they had. -/
theorem refreshed_same {old : ModelCatalog} {items : List CatalogItem} {hidden : Database} {u u' : Unit}
    (decoded : (db.nodeModels.filter (·.nodeID == nodeID)).mapM decodeModel = .ok old.items)
    (unchanged : discoveryChanges old items = false)
    (hides : (hideNodeModels nodeID now).Returns db u hidden)
    (writes : (forEach (fun m => writeNodeModel nodeID m now) items).Returns hidden u' db') : Revised db db' := by
  obtain ⟨forth, back⟩ := mem_mapM_ok decoded
  simp only [discoveryChanges, Bool.or_eq_false_iff, List.any_eq_false, bne_iff_ne, Decidable.not_not, Bool.and_eq_true, Bool.not_eq_true',
    not_and, beq_iff_eq] at unchanged
  have stored (c : CatalogItem) (mem : c ∈ items) : ∃ m ∈ db.nodeModels, Stores nodeID c m := by
    obtain ⟨m, isRow, isItem⟩ := back c (List.mem_of_find?_eq_some (unchanged.1 c mem))
    obtain ⟨isModel, node⟩ := List.mem_filter.mp isRow
    exact ⟨m, isModel, stores_of_decode (by simpa using node) isItem⟩
  obtain ⟨_, d, updated, last⟩ := returns_bind.mp hides
  obtain ⟨-, rfl⟩ := returns_pure.mp last
  rw [returns_exec] at updated
  obtain ⟨tab, rfl, rows, -⟩ := apply_update updated
  have rewritten : Database.nodeModels (db.put .nodeModels tab) = db.nodeModels.map fun m => if m.nodeID == nodeID then
      { m with present := false, updatedAt := now } else m := by
    rw [Database.nodeModels, DB.rows_put_self]
    exact rows
  have again : ∀ m ∈ db.nodeModels, Rewritten nodeID items m
      (if m.nodeID == nodeID then { m with present := false, updatedAt := now } else m) := by
    intro m mem
    by_cases node : m.nodeID = nodeID
    · rw [if_pos (beq_iff_eq.mpr node)]
      refine ⟨⟨rfl, rfl, rfl⟩, ?_⟩
      by_cases present : m.present = true
      · right
        obtain ⟨c, isItem, isDecoded⟩ := forth m (List.mem_filter.mpr ⟨mem, beq_iff_eq.mpr node⟩)
        have stores := stores_of_decode node isDecoded
        obtain ⟨c', listed, same⟩ : ∃ c' ∈ items, c'.modelID = c.modelID := by
          by_contra unlisted
          exact unchanged.2 c isItem (stores.data.2.1 ▸ present) fun x listed same => unlisted ⟨x, listed, same⟩
        obtain ⟨m', isRow, stores'⟩ := stored c' listed
        obtain rfl : m' = m := eq_of_key models_distinct isRow mem (by
          rw [stores'.node, stores'.model, same, node, stores.model])
        exact ⟨c', listed, stores'⟩
      · left
        rw [Bool.not_eq_true] at present
        simp only [NodeModel.offer, present]
    · rw [if_neg (by simpa using node)]
      exact ⟨⟨rfl, rfl, rfl⟩, .inl rfl⟩
  obtain ⟨offers, others⟩ := writeNodeModels_same models_distinct stored rewritten again writes
  have rest (t : Tbl) (other : t ≠ .nodeModels) : db'.rows t = db.rows t := (others t other).trans (DB.rows_put_of_ne tab other)
  exact .inr ⟨sameRouting_of_offers (rest .modelServiceNodes (by decide))
    offers (rest .modelRoutes (by decide)) (rest .routingState (by decide)),
    rest .routingState (by decide)⟩

/-- Other tables may have been written before. -/
theorem Revised.after {mid : Database} (h : Revised mid db')
    (others : ∀ t, t ≠ .nodeModelCatalogs → mid.rows t = db.rows t) : Revised db db' := by
  have state : mid.rows Tbl.routingState = db.rows Tbl.routingState := others .routingState (by decide)
  rcases h with raised | ⟨same, level⟩
  · exact .inl fun r row => raised r (state.trans row)
  · have first : SameRouting db mid := sameRouting_of_rows (others .modelServiceNodes (by decide)) (others .nodeModels (by decide))
      (others .modelRoutes (by decide)) state
    exact .inr ⟨first.trans same, level.trans state⟩

/-- A refresh notes an error, or writes what was discovered. -/
theorem refreshModelCatalog_cases {nodeVersion catalogRevision : Int} {items : List CatalogItem} {errorCode : String}
    (out : (refreshModelCatalogBody nodeID nodeVersion catalogRevision items errorCode now).Returns db c db') :
    (errorCode ≠ "" ∧ ∀ t, t ≠ .nodeModelCatalogs → db'.rows t = db.rows t) ∨
    (errorCode = "" ∧ ∃ (old : ModelCatalog) (dated hidden written : Database) (u u' : Unit),
      (db.nodeModels.filter (·.nodeID == nodeID)).mapM decodeModel = .ok old.items
      ∧ (∀ t, t ≠ .nodeModelCatalogs → dated.rows t = db.rows t)
      ∧ (hideNodeModels nodeID now).Returns dated u hidden
      ∧ (forEach (fun m => writeNodeModel nodeID m now) (items.map (discovered old))).Returns hidden u' written
      ∧ ((discoveryChanges old (items.map (discovered old)) = false ∧ db' = written)
        ∨ (syncModelRoutes now >>= fun _ => bumpRouting now >>= fun _ => catalogWith nodeID).Returns written c db')) := by
  obtain ⟨node, d1, read, rest₁⟩ := returns_bind.mp out
  obtain ⟨-, rfl⟩ := returns_query.mp read
  obtain ⟨_, d2, required, rest₂⟩ := returns_bind.mp rest₁
  obtain ⟨-, rfl⟩ := returns_require.mp required
  obtain ⟨old, d3, catalog, rest₃⟩ := returns_bind.mp rest₂
  obtain ⟨rfl, decoded⟩ := catalogWith_returns catalog
  obtain ⟨_, d4, required', rest₄⟩ := returns_bind.mp rest₃
  obtain ⟨-, rfl⟩ := returns_require.mp required'
  obtain ⟨_, d5, required'', rest₅⟩ := returns_bind.mp rest₄
  obtain ⟨-, rfl⟩ := returns_require.mp required''
  split at rest₅
  · rename_i failed
    obtain ⟨_, d6, noted, last⟩ := returns_bind.mp rest₅
    obtain ⟨rfl, -⟩ := catalogWith_returns last
    exact .inl ⟨failed, fun t other => apply_update_rows_of_ne (returns_exec.mp noted) other⟩
  · rename_i succeeded
    obtain ⟨_, d6, dated, rest₆⟩ := returns_bind.mp rest₅
    obtain ⟨u, d7, hidden, rest₇⟩ := returns_bind.mp rest₆
    obtain ⟨u', d8, written, rest₈⟩ := returns_bind.mp rest₇
    refine .inr ⟨Decidable.not_not.mp succeeded, old, d6, d7, d8, u, u', decoded,
      fun t other => apply_update_rows_of_ne (returns_exec.mp dated) other, hidden, written, ?_⟩
    split at rest₈
    · exact .inr rest₈
    · rename_i unchanged
      obtain ⟨rfl, -⟩ := catalogWith_returns rest₈
      exact .inl ⟨Bool.eq_false_iff.mpr unchanged, rfl⟩

theorem refreshModelCatalog_revised {nodeVersion catalogRevision : Int} {items : List CatalogItem} {errorCode : String}
    (out : (refreshModelCatalogBody nodeID nodeVersion catalogRevision items errorCode now).Returns db c db') : Revised db db' := by
  rcases refreshModelCatalog_cases out with ⟨-, others⟩ | ⟨-, old, dated, hidden, written, u, u', decoded, others, hides, writes, ends⟩
  · exact (revised_refl).after others
  refine Revised.after ?_ others
  rcases ends with ⟨unchanged, rfl⟩ | ends
  · have models : Database.nodeModels dated = Database.nodeModels db := others .nodeModels (by decide)
    refine refreshed_same ?_ unchanged hides writes
    rw [models]
    exact decoded
  · have raises : (syncModelRoutes now >>= fun _ => bumpRouting now >>= fun _ => catalogWith nodeID).Keeps Raised :=
      raises_after syncModelRoutes_level fun _ => raises_before bumpRouting_raises fun _ => level_read (writes_catalogWith nodeID)
    refine .inl fun r row => raises _ _ _ ends r ?_
    have level := keeps_forEach level_chains (fun m _ => writeNodeModel_level) _ _ _ writes
    exact level.trans ((hideNodeModels_level _ _ _ hides).trans row)

end

end MinimaxProxy.Store
