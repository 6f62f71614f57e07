import MinimaxProxy.Store.Revision

/-!
# Catalogs under discovery

`RefreshModelCatalog` marks every model of a node absent and writes the discovered ones again.
The row of a model is looked up by its key, and what a refresh has done is said about the row
found under each key: so the choices of the administrators are followed through any number of
refreshes.
-/

namespace MinimaxProxy.Store
open Sql Sql.Prog

/-- The primary key of `node_models`. -/
structure ModelKey where
  node : String
  model : String
deriving DecidableEq

def NodeModel.key (m : NodeModel) : ModelKey := ⟨m.nodeID, m.modelID⟩

/-- The row of a model of a node. -/
def storedModel (db : Database) (nodeID model : String) : Option NodeModel := db.nodeModels.find? (NodeModel.key · == ⟨nodeID, model⟩)

/-- The choice of the administrators for a model, if it is known. -/
def enabledFlag (db : Database) (nodeID model : String) : Option Bool := (storedModel db nodeID model).map (·.enabled)

/-- The capabilities under which a node offers a model: it has to be enabled and present. -/
def offeredModel (db : Database) (nodeID model : String) : Option (Doc ModelCapability) :=
  ((storedModel db nodeID model).filter fun m => m.enabled && m.present).map (·.capabilitiesJSON)

section
variable {nodeID : String} {now : Int} {db db' : Database}

theorem storedModel_of_rows (rows : db'.nodeModels = db.nodeModels) : storedModel db' = storedModel db := by
  funext nodeID model
  rw [storedModel, rows]
  rfl

/-! ## Its statements -/

theorem hideNodeModels_stored {u : Unit} (out : (hideNodeModels nodeID now).Returns db u db') (n model : String) :
    storedModel db' n model = (storedModel db n model).map fun m =>
      if n = nodeID then { m with present := false, updatedAt := now } else m := by
  obtain ⟨_, d, updated, last⟩ := returns_bind.mp out
  obtain ⟨-, rfl⟩ := returns_pure.mp last
  have find : storedModel db' n model = (storedModel db n model).map fun m =>
      if m.nodeID == nodeID then { m with present := false, updatedAt := now } else m :=
    apply_update_find (returns_exec.mp updated) fun _ => rfl
  rw [find]
  cases found : storedModel db n model with
  | none => rfl
  | some m =>
    have isKey : NodeModel.key m = ⟨n, model⟩ := key_of_find found
    have node : m.nodeID = n := congrArg ModelKey.node isKey
    simp only [Option.map_some, node, beq_iff_eq]

/-- The row of a discovered model after it was written. -/
structure Written (c : CatalogItem) (row : Option NodeModel) : Prop where
  stored : row.map (·.enabled) = some c.enabled
  offer : (row.map fun m => (m.present, m.capabilitiesJSON)) = some (c.present, .value c.capabilities)

theorem writeNodeModel_stored {c : CatalogItem} {u : Unit} (out : (writeNodeModel nodeID c now).Returns db u db') :
    Written c (storedModel db' nodeID c.modelID) ∧
      ∀ n model, ModelKey.mk n model ≠ ⟨nodeID, c.modelID⟩ → storedModel db' n model = storedModel db n model := by
  obtain ⟨_, d, upserted, last⟩ := returns_bind.mp out
  obtain ⟨-, rfl⟩ := returns_pure.mp last
  have byKey (node model : String) (old : NodeModel) :
      (node == old.nodeID && model == old.modelID) = (NodeModel.key old == ⟨node, model⟩) := by
    rw [Bool.eq_iff_iff, Bool.and_eq_true, beq_iff_eq, beq_iff_eq, beq_iff_eq, NodeModel.key, ModelKey.mk.injEq, eq_comm, @eq_comm _ model]
  have find (k : ModelKey) : (db'.rows Tbl.nodeModels).find? (NodeModel.key · == k) = if k = ⟨nodeID, c.modelID⟩ then _ else _ :=
    apply_upsert_find (returns_exec.mp upserted) rfl (byKey nodeID c.modelID) (fun _ => rfl) fun _ => rfl
  constructor
  · have row : storedModel db' nodeID c.modelID = _ := (find ⟨nodeID, c.modelID⟩).trans (if_pos rfl)
    rw [row]
    cases (db.rows Tbl.nodeModels).find? (NodeModel.key · == ⟨nodeID, c.modelID⟩) with
    | none => exact ⟨rfl, rfl⟩
    | some old => exact ⟨rfl, rfl⟩
  · intro n model other
    exact (find ⟨n, model⟩).trans (if_neg other)

/-- The rows after the discovered models were written: theirs, and the rest as before. -/
theorem writeNodeModels_stored {items : List CatalogItem} (distinct : (items.map (·.modelID)).Nodup) {u : Unit}
    (out : (forEach (fun m => writeNodeModel nodeID m now) items).Returns db u db') :
    (∀ c ∈ items, Written c (storedModel db' nodeID c.modelID)) ∧
      ∀ n model, (∀ c ∈ items, ModelKey.mk n model ≠ ⟨nodeID, c.modelID⟩) → storedModel db' n model = storedModel db n model := by
  induction items generalizing db with
  | nil =>
    obtain ⟨-, rfl⟩ := returns_pure.mp out
    exact ⟨nofun, fun _ _ _ => rfl⟩
  | cons c items ih =>
    obtain ⟨_, mid, first, rest⟩ := returns_bind.mp out
    obtain ⟨fresh, distinct⟩ := List.nodup_cons.mp distinct
    obtain ⟨written, others⟩ := writeNodeModel_stored first
    obtain ⟨later, kept⟩ := ih distinct rest
    constructor
    · refine List.forall_mem_cons.mpr ⟨?_, later⟩
      rw [kept nodeID c.modelID fun c' mem same => fresh (List.mem_map.mpr ⟨c', mem, (ModelKey.mk.inj same).2.symm⟩)]
      exact written
    · intro n model apart
      obtain ⟨head, tail⟩ := List.forall_mem_cons.mp apart
      exact (kept n model tail).trans (others n model head)

/-- The routes are written after the models. -/
theorem route_models {c : ModelCatalog}
    (out : (syncModelRoutes now >>= fun _ => bumpRouting now >>= fun _ =>
      catalogWith nodeID).Returns db c db') : db'.nodeModels = db.nodeModels := by
  obtain ⟨_, d1, synced, rest⟩ := returns_bind.mp out
  obtain ⟨_, d2, bumped, last⟩ := returns_bind.mp rest
  obtain ⟨rfl, -⟩ := catalogWith_returns last
  obtain ⟨_, d3, updated, last'⟩ := returns_bind.mp bumped
  obtain ⟨-, rfl⟩ := returns_pure.mp last'
  obtain ⟨_, d4, inserted, last''⟩ := returns_bind.mp synced
  obtain ⟨-, rfl⟩ := returns_pure.mp last''
  have routes : Database.nodeModels d1 = Database.nodeModels db := apply_insert_rows_of_ne (returns_exec.mp inserted) (by decide)
  have state : Database.nodeModels db' = Database.nodeModels d1 := apply_update_rows_of_ne (returns_exec.mp updated) (by decide)
  exact state.trans routes

/-! ## The known choices -/

theorem find_decoded {rows : List NodeModel} {items : List CatalogItem} (decoded : rows.mapM decodeModel = .ok items) (model : String) :
    (items.find? (·.modelID == model)).map (·.enabled) = (rows.find? (·.modelID == model)).map (·.enabled) := by
  induction rows generalizing items with
  | nil =>
    obtain rfl : [] = items := Except.ok.inj decoded
    rfl
  | cons row rows ih =>
    rw [List.mapM_cons] at decoded
    cases first : decodeModel row with
    | error e => rw [first] at decoded; cases decoded
    | ok c =>
      cases rest : rows.mapM decodeModel with
      | error e => rw [first, rest] at decoded; cases decoded
      | ok later =>
        rw [first, rest] at decoded
        obtain rfl : c :: later = items := Except.ok.inj decoded
        have stores := stores_of_decode rfl first
        rw [List.find?_cons, List.find?_cons, stores.model]
        split
        · simp [stores.data.1]
        · exact ih rest

/-- A discovered model has the flag that is stored for it, and starts disabled. -/
theorem discovered_enabled {old : ModelCatalog} (decoded : (db.nodeModels.filter (·.nodeID == nodeID)).mapM decodeModel = .ok old.items)
    (c : CatalogItem) : (discovered old c).enabled = (enabledFlag db nodeID c.modelID).getD false := by
  have found := find_decoded decoded c.modelID
  have byKey : (fun m : NodeModel => decide ((m.nodeID == nodeID) = true ∧ (m.modelID == c.modelID) = true)) =
      fun m => NodeModel.key m == ⟨nodeID, c.modelID⟩ := by
    funext m
    rw [Bool.eq_iff_iff, decide_eq_true_iff, beq_iff_eq, beq_iff_eq, beq_iff_eq, NodeModel.key, ModelKey.mk.injEq]
  rw [List.find?_filter, byKey] at found
  exact congrArg (·.getD false) found

theorem validateCatalogItems_nodup {items : List CatalogItem} {seen : List String} (h : validateCatalogItems items seen = .ok ()) :
    (items.map (·.modelID)).Nodup ∧ ∀ c ∈ items, c.modelID ∉ seen := by
  induction items generalizing seen with
  | nil => exact ⟨List.nodup_nil, nofun⟩
  | cons c items ih =>
    rw [validateCatalogItems] at h
    split at h
    · cases h
    rename_i valid
    split at h
    · cases h
    obtain ⟨distinct, apart⟩ := ih h
    refine ⟨List.nodup_cons.mpr ⟨fun again => ?_, distinct⟩, List.forall_mem_cons.mpr ⟨fun old => ?_, fun c' mem old => ?_⟩⟩
    · obtain ⟨c', mem, same⟩ := List.mem_map.mp again
      exact apart c' mem (same ▸ List.mem_cons_self)
    · exact valid (by simp [old])
    · exact apart c' mem (List.mem_cons_of_mem _ old)

/-! ## A refresh -/

/-- The choices are kept, and new models are disabled. -/
def KeepsFlags (db db' : Database) : Prop :=
  ∀ n model, enabledFlag db' n model = enabledFlag db n model ∨ (enabledFlag db n model = none ∧ enabledFlag db' n model = some false)

/-- What a successful refresh of a node with a list has done to the models. -/
structure Refreshed (nodeID : String) (items : List CatalogItem) (db db' : Database) : Prop where
  flags : KeepsFlags db db'
  /-- The node offers the enabled models of the list with the capabilities of the list. -/
  offered : ∀ model capabilities, offeredModel db' nodeID model = some capabilities ↔
    enabledFlag db' nodeID model = some true ∧ ∃ c ∈ items, c.modelID = model ∧ capabilities = .value c.capabilities
  others : ∀ n model, n ≠ nodeID → offeredModel db' n model = offeredModel db n model

theorem refreshModelCatalog_refreshed {nodeVersion catalogRevision : Int} {items : List CatalogItem} {c : ModelCatalog}
    (distinct : (items.map (·.modelID)).Nodup)
    (out : (refreshModelCatalogBody nodeID nodeVersion catalogRevision items "" now).Returns db c db') : Refreshed nodeID items db db' := by
  rcases refreshModelCatalog_cases out with ⟨failed, -⟩ | ⟨-, old, dated, hidden, written, u, u', decoded, others, hides, writes, ends⟩
  · exact absurd rfl failed
  have last : storedModel db' = storedModel written := by
    rcases ends with ⟨-, rfl⟩ | routed
    · rfl
    · exact storedModel_of_rows (route_models routed)
  have first : storedModel dated = storedModel db := storedModel_of_rows (others .nodeModels (by decide))
  have ids : (items.map (discovered old)).map (·.modelID) = items.map (·.modelID) := by
    rw [List.map_map]
    rfl
  obtain ⟨listed, kept⟩ := writeNodeModels_stored (ids ▸ distinct) writes
  have hid (n model : String) := (hideNodeModels_stored hides n model).trans (by rw [first])
  rw [← last] at listed kept
  -- the row of a listed model, and of any other
  have own (c : CatalogItem) (mem : c ∈ items) : Written (discovered old c) (storedModel db' nodeID c.modelID) :=
    listed (discovered old c) (List.mem_map_of_mem mem)
  have other (n model : String) (apart : n = nodeID → ∀ c ∈ items, c.modelID ≠ model) : storedModel db' n model =
      (storedModel db n model).map fun m => if n = nodeID then { m with present := false, updatedAt := now } else m := by
    refine (kept n model fun c mem same => ?_).trans (hid n model)
    obtain ⟨c', isItem, rfl⟩ := List.mem_map.mp mem
    exact apart (ModelKey.mk.inj same).1 c' isItem (ModelKey.mk.inj same).2.symm
  constructor
  case flags =>
    intro n model
    by_cases isListed : n = nodeID ∧ ∃ c ∈ items, c.modelID = model
    · obtain ⟨rfl, c, mem, rfl⟩ := isListed
      have flag : enabledFlag db' n c.modelID = some ((enabledFlag db n c.modelID).getD false) := by
        rw [← discovered_enabled decoded c]
        exact (own c mem).stored
      rw [flag]
      cases enabledFlag db n c.modelID with
      | none => exact .inr ⟨rfl, rfl⟩
      | some b => exact .inl rfl
    · left
      rw [enabledFlag, other n model fun isNode c mem same => isListed ⟨isNode, c, mem, same⟩, Option.map_map, enabledFlag]
      refine congrArg (Option.map · _) (funext fun m => ?_)
      show NodeModel.enabled (if n = nodeID then _ else m) = m.enabled
      split <;> rfl
  case offered =>
    intro model capabilities
    by_cases isListed : ∃ c ∈ items, c.modelID = model
    · obtain ⟨c, mem, rfl⟩ := isListed
      have row := own c mem
      have flag : enabledFlag db' nodeID c.modelID = some (discovered old c).enabled := row.stored
      obtain ⟨m, isRow, isFlag⟩ := Option.map_eq_some_iff.mp row.stored
      have offer := row.offer
      rw [isRow] at offer
      obtain ⟨present, isDoc⟩ := Prod.mk.inj (Option.some.inj offer)
      rw [flag, offeredModel, isRow, Option.filter_some, isFlag, present]
      have unique {c' : CatalogItem} (mem' : c' ∈ items) (same : c'.modelID = c.modelID) :
          c' = c := List.inj_on_of_nodup_map distinct mem' mem same
      constructor
      · intro offered
        split at offered
        · rename_i enabled
          refine ⟨congrArg some (Bool.and_eq_true_iff.mp enabled).1, c, mem, rfl, ?_⟩
          rw [← Option.some.inj offered]
          exact isDoc
        · cases offered
      · rintro ⟨enabled, c', mem', same, rfl⟩
        rw [Option.some.inj enabled, unique mem' same]
        exact congrArg some isDoc
    · have row := other nodeID model fun _ c mem same => isListed ⟨c, mem, same⟩
      constructor
      · intro offered
        rw [offeredModel, row] at offered
        cases found : storedModel db nodeID model with
        | none => rw [found] at offered; cases offered
        | some m => rw [found] at offered; simp at offered
      · rintro ⟨-, c, mem, same, -⟩
        exact absurd ⟨c, mem, same⟩ isListed
  case others =>
    intro n model isOther
    rw [offeredModel, other n model fun isNode => absurd isNode isOther, offeredModel]
    simp [isOther]

end

/-! ## Any number of refreshes -/

/-- A call of `RefreshModelCatalog`, with its time and its failures. -/
structure RefreshCall where
  nodeID : String
  nodeVersion : Int
  catalogRevision : Int
  items : List CatalogItem := []
  errorCode : String := ""
  now : Int := 0
  faults : Faults Err
  n : Nat := 0

namespace RefreshCall

def outcome (c : RefreshCall) (db : Database) : Outcome schema Err ModelCatalog :=
  refreshModelCatalog c.nodeID c.nodeVersion c.catalogRevision c.items c.errorCode c.now c.faults c.n db

/-- It stores what was discovered; a call that reports an error code or returns an error does not. -/
def Succeeds (c : RefreshCall) (db : Database) : Prop := c.errorCode = "" ∧ (c.outcome db).result.isOk = true

/-- A call is a refresh, or has left the models alone. -/
theorem cases (c : RefreshCall) (db : Database) : (c.Succeeds db ∧ Refreshed c.nodeID c.items db (c.outcome db).db) ∨
      (¬ c.Succeeds db ∧ storedModel (c.outcome db).db = storedModel db) := by
  unfold Succeeds outcome refreshModelCatalog
  split
  · exact .inr ⟨fun h => (nomatch h.2), rfl⟩
  generalize valid : (if c.errorCode = "" then validateCatalogItems c.items [] else .ok ()) = checked
  cases checked with
  | error e => exact .inr ⟨fun h => (nomatch h.2), rfl⟩
  | ok _ =>
  dsimp only
  rcases immediate_cases (refreshModelCatalogBody c.nodeID c.nodeVersion c.catalogRevision c.items c.errorCode (unix c.now)) c.faults with
    ⟨e, failed, same⟩ | ⟨a, returned, out⟩
  · refine .inr ⟨fun h => ?_, ?_⟩
    · rw [failed] at h
      cases h.2
    · rw [same]
  by_cases noted : c.errorCode = ""
  · rw [if_pos noted] at valid
    left
    refine ⟨⟨noted, by rw [returned]; rfl⟩, ?_⟩
    rw [noted] at out ⊢
    exact refreshModelCatalog_refreshed (validateCatalogItems_nodup valid).1 out
  · right
    refine ⟨fun h => noted h.1, ?_⟩
    rcases refreshModelCatalog_cases out with ⟨-, others⟩ | ⟨none, -⟩
    · exact storedModel_of_rows (others .nodeModels (by decide))
    · exact absurd none noted

end RefreshCall

/-- The database after some calls. -/
def afterCalls (calls : List RefreshCall) (db : Database) : Database := calls.foldl (fun db c => (c.outcome db).db) db

theorem KeepsFlags.refl (db : Database) : KeepsFlags db db := fun _ _ => .inl rfl

theorem KeepsFlags.trans {a b c : Database} (first : KeepsFlags a b) (last : KeepsFlags b c) : KeepsFlags a c := by
  intro n model
  rcases last n model with same | ⟨none, disabled⟩
  · rw [same]
    exact first n model
  · rcases first n model with same | ⟨-, disabled'⟩
    · exact .inr ⟨same ▸ none, disabled⟩
    · rw [none] at disabled'
      cases disabled'

theorem RefreshCall.keepsFlags (c : RefreshCall) (db : Database) : KeepsFlags db (c.outcome db).db := by
  rcases c.cases db with ⟨-, refreshed⟩ | ⟨-, same⟩
  · exact refreshed.flags
  · intro n model
    rw [enabledFlag, same]
    exact .inl rfl

theorem afterCalls_keepsFlags (calls : List RefreshCall) (db : Database) : KeepsFlags db (afterCalls calls db) := by
  induction calls generalizing db with
  | nil => exact .refl db
  | cons c calls ih => exact (c.keepsFlags db).trans (ih _)

/-- What one more call does to the models that its node offers, and to those of any other. -/
structure RefreshSound (c : RefreshCall) (db : Database) : Prop where
  flags : KeepsFlags db (c.outcome db).db
  /-- After a success they are the enabled models of the list, with its capabilities. -/
  success : c.Succeeds db → ∀ model capabilities, offeredModel (c.outcome db).db c.nodeID model = some capabilities ↔
    enabledFlag (c.outcome db).db c.nodeID model = some true ∧ ∃ item ∈ c.items,
      item.modelID = model ∧ capabilities = .value item.capabilities
  failure : ¬ c.Succeeds db → ∀ model, offeredModel (c.outcome db).db c.nodeID model = offeredModel db c.nodeID model
  others : ∀ n model, n ≠ c.nodeID → offeredModel (c.outcome db).db n model = offeredModel db n model

/-- In every sequence of refreshes the choices are kept, and each refresh offers its list. -/
theorem refreshes_keep_choices (db : Database) (calls : List RefreshCall) (c : RefreshCall) :
    KeepsFlags db (afterCalls calls db) ∧ RefreshSound c (afterCalls calls db) := by
  refine ⟨afterCalls_keepsFlags calls db, ?_⟩
  rcases c.cases (afterCalls calls db) with ⟨succeeds, refreshed⟩ | ⟨fails, same⟩
  · exact ⟨refreshed.flags, fun _ => refreshed.offered, fun fails => absurd succeeds fails, refreshed.others⟩
  · have unchanged (n model : String) : offeredModel (c.outcome (afterCalls calls db)).db n model =
      offeredModel (afterCalls calls db) n model := by
      rw [offeredModel, same]
      rfl
    exact ⟨c.keepsFlags _, fun succeeds => absurd succeeds fails, fun _ => unchanged c.nodeID, fun n model _ => unchanged n model⟩

/-- A discovered model that is enabled. -/
def listedModel : CatalogItem := { modelID := "m", capabilities := { modes := [{ scenario := "t2va", durations := [5] }] } }

/-- Its node. -/
def discoveredNode : Database := DB.load (DB.empty : Database)
  [.insert Tbl.modelServiceNodes fun _ _ =>
    [{ id := "n", serviceURL := "http://h", protocolVersion := .tk2sd, apiKeyCiphertext := some "c", apiKeyNonce := some "o"
       apiKeyFingerprint := some "f", apiKeyID := some "k", createdAt := 0, updatedAt := 0 }],
   .insert Tbl.nodeModelCatalogs fun _ _ =>
    [{ nodeID := "n", source := .discovered
       connectionFingerprint := catalogFingerprint .tk2sd "http://h" "f", lastStatus := .ready, createdAt := 0, updatedAt := 0 }],
   .insert Tbl.nodeModels fun _ _ =>
    [{ nodeID := "n", modelID := "m", enabled := true
       capabilitiesJSON := .value listedModel.capabilities, verified := true, createdAt := 0, updatedAt := 0 }]]

/-- The model disappears and returns, and is enabled as before. -/
theorem refreshes_keep_choices_returning : (offeredModel discoveredNode "n" "m" = some (.value listedModel.capabilities)
      ∧ offeredModel (afterCalls [⟨"n", 1, 1, [], "", 0, noFaults, 0⟩] discoveredNode) "n" "m" = none
      ∧ offeredModel (afterCalls [⟨"n", 1, 1, [], "", 0, noFaults, 0⟩,
        ⟨"n", 1, 2, [listedModel], "", 0, noFaults, 0⟩] discoveredNode) "n" "m"
        = some (.value listedModel.capabilities))
    ∧ RefreshSound ⟨"n", 1, 2, [listedModel], "", 0, noFaults, 0⟩ (afterCalls [⟨"n", 1, 1, [], "", 0, noFaults, 0⟩] discoveredNode) :=
  ⟨by decide +kernel, (refreshes_keep_choices _ _ _).2⟩

end MinimaxProxy.Store
