import MinimaxProxy.Domain.Catalog
import MinimaxProxy.Store.Basic

/-!
# Model catalogs and routes

`model_catalog_store.go` and `model_route_store.go`. A catalog's models are read
without their `ORDER BY`, which nothing here depends on.
-/

namespace MinimaxProxy.Store
open Sql Sql.Prog

/-- A stored model with its capabilities decoded. -/
def decodeModel (m : NodeModel) : Except Err CatalogItem :=
  match m.capabilitiesJSON with
  | .unreadable => .error .decode
  | .value c => .ok { modelID := m.modelID, enabled := m.enabled, present := m.present, verified := m.verified, capabilities := c }

/-- The text `CatalogFingerprint` (model_catalog_store.go:15) digests. -/
def catalogFingerprint (protocol : Protocol) (serviceURL apiKeyFingerprint : String) : String :=
  protocol.name ++ "\x00" ++ serviceURL ++ "\x00" ++ apiKeyFingerprint

/-- `catalogWith` (model_catalog_store.go:23). -/
def catalogWith (nodeID : String) : Prog ModelCatalog := do
  let c ← query fun (db : Database) => (db.catalogs.find? (·.nodeID == nodeID)).elim (.error .nodeNotFound) .ok
  let items ← query fun (db : Database) => (db.nodeModels.filter (·.nodeID == nodeID)).mapM decodeModel
  pure { nodeID := nodeID, source := c.source, revision := c.revision, status := c.lastStatus
         fingerprint := c.connectionFingerprint, lastAttemptAt := c.lastAttemptAt.getD 0
         lastSuccessAt := c.lastSuccessAt.getD 0, validUntil := c.validUntil.getD 0
         lastErrorCode := c.lastErrorCode, items := items }

/-- `bumpRouting` (model_catalog_store.go:163). -/
def bumpRouting (now : Int) : Prog Unit := do
  let _ ← exec (.update Tbl.routingState (fun _ _ => true)
    fun _ (r : RoutingState) => { r with revision := r.revision + 1, updatedAt := now })

/-- The offers a route is chosen from: enabled present models of enabled nodes. -/
def offers (db : Database) : List (String × Protocol × String) :=
  (db.nodeModels.filter fun m => m.enabled && m.present).flatMap fun m =>
    (db.nodes.filter fun n => n.id == m.nodeID && n.enabled && n.deletedAt.isNone).map fun n =>
      (m.modelID, n.protocolVersion, n.id)

/-- The route a model gets when it is first offered: its one protocol, or none. -/
def newRoute (offered : List (String × Protocol × String)) (now : Int) (model : String) : ModelRoute :=
  match ((offered.filter (·.1 == model)).map (·.2.1)).eraseDups with
  | [p] => { modelID := model, protocolVersion := some p, selectionMode := .auto, createdAt := now, updatedAt := now }
  | _ => { modelID := model, protocolVersion := none, selectionMode := .unresolved, createdAt := now, updatedAt := now }

/-- `syncModelRoutes` (model_catalog_store.go:167): `ON CONFLICT(model_id) DO NOTHING`. -/
def syncModelRoutes (now : Int) : Prog Unit := do
  let _ ← exec (.insert Tbl.modelRoutes fun (db : Database) _ =>
    (((offers db).map (·.1)).eraseDups.filter fun model =>
      !(db.rows Tbl.modelRoutes).any fun (r : ModelRoute) => r.modelID == model).map (newRoute (offers db) now))

/-- `writeNodeModel` (model_catalog_store.go:155). -/
def writeNodeModel (nodeID : String) (m : CatalogItem) (now : Int) : Prog Unit := do
  let _ ← exec (.upsert Tbl.nodeModels
    (fun _ => some { nodeID := nodeID, modelID := m.modelID, enabled := m.enabled, present := m.present
                     capabilitiesJSON := .value m.capabilities, verified := m.verified, createdAt := now, updatedAt := now })
    (fun (new old : NodeModel) => new.nodeID == old.nodeID && new.modelID == old.modelID)
    fun (new old : NodeModel) => some
      { old with enabled := new.enabled, present := new.present, capabilitiesJSON := new.capabilitiesJSON
                 verified := new.verified, updatedAt := new.updatedAt })

/-- The models of a node are marked absent before the current ones are written. -/
def hideNodeModels (nodeID : String) (now : Int) : Prog Unit := do
  let _ ← exec (.update Tbl.nodeModels (fun _ (m : NodeModel) => m.nodeID == nodeID)
    fun _ (m : NodeModel) => { m with present := false, updatedAt := now })

/-- The result of a discovery, with the choices of the stored catalog: a known model keeps
its `enabled` flag, a new one starts disabled. -/
def discovered (old : ModelCatalog) (m : CatalogItem) : CatalogItem :=
  { m with present := true, verified := true
           enabled := ((old.items.find? (·.modelID == m.modelID)).map (·.enabled)).getD false }

/-- `RefreshModelCatalog` (model_catalog_store.go:174), in its transaction. -/
def refreshModelCatalogBody (nodeID : String) (nodeVersion catalogRevision : Int)
    (items : List CatalogItem) (errorCode : String) (now : Int) : Prog ModelCatalog := do
  let node ← query fun (db : Database) =>
    (db.nodes.find? fun n => n.id == nodeID && n.deletedAt.isNone).elim (.error .noRows) .ok
  require (node.version == nodeVersion) .nodeVersionConflict
  let old ← catalogWith nodeID
  require (old.revision == catalogRevision && old.fingerprint ==
    catalogFingerprint node.protocolVersion node.serviceURL (node.apiKeyFingerprint.getD "")) .catalogConflict
  require (old.source == .discovered) (.other "协议不支持模型发现")
  if errorCode ≠ "" then do
    let _ ← exec (.update Tbl.nodeModelCatalogs (fun _ (c : Catalog) => c.nodeID == nodeID)
      fun _ (c : Catalog) => { c with lastStatus := .error, lastAttemptAt := some now, lastErrorCode := errorCode, updatedAt := now })
    catalogWith nodeID
  else do
    let current := items.map (discovered old)
    let changed := current.any (fun m => old.items.find? (·.modelID == m.modelID) != some m)
      || old.items.any fun m => m.present && !current.any (·.modelID == m.modelID)
    let _ ← exec (.update Tbl.nodeModelCatalogs (fun _ (c : Catalog) => c.nodeID == nodeID)
      fun _ (c : Catalog) =>
        { c with revision := if changed then old.revision + 1 else old.revision
                 lastStatus := if items.isEmpty then .empty else .ready
                 lastAttemptAt := some now, lastSuccessAt := some now, validUntil := some (now + 1800)
                 lastErrorCode := "", updatedAt := now })
    hideNodeModels nodeID now
    forEach (fun m => writeNodeModel nodeID m now) current
    if changed then do
      syncModelRoutes now
      bumpRouting now
    catalogWith nodeID

/-- `RefreshModelCatalog`: the checks made before the transaction, then the transaction. -/
def refreshModelCatalog (nodeID : String) (nodeVersion catalogRevision : Int)
    (items : List CatalogItem) (errorCode : String) (now : Int) : Call ModelCatalog :=
  if items.length > 256 then direct (.fail (.other "模型清单过大"))
  else match (if errorCode = "" then validateCatalogItems items [] else .ok ()) with
    | .error e => direct (.fail e)
    | .ok () => immediate (refreshModelCatalogBody nodeID nodeVersion catalogRevision items errorCode (unix now))

/-! ## Routes -/

/-- `domain.RouteCandidate`, without the health count that the store leaves at zero. -/
structure RouteCandidate where
  protocolVersion : Protocol
  nodeIDs : List String

inductive RouteAvailability
  | ready | ambiguous | unavailable
deriving DecidableEq

/-- `domain.ModelRoute`; the wait reason follows from `state`. -/
structure Route where
  model : String
  protocolVersion : Option Protocol
  selectionMode : SelectionMode
  version : Int
  state : RouteAvailability
  candidates : List RouteCandidate
  legacyAwaitingTasks : Nat

/-- Nodes that offer the model, grouped by protocol. -/
def candidatesFor (db : Database) (model : String) : List RouteCandidate :=
  let offered := (offers db).filter (·.1 == model)
  (offered.map (·.2.1)).eraseDups.map fun p => ⟨p, (offered.filter (·.2.1 == p)).map (·.2.2)⟩

/-- The fold of `routeWith` over the candidates (model_route_store.go:63). -/
def routeState (selected : Option Protocol) (mode : SelectionMode) :
    List RouteCandidate → RouteAvailability → RouteAvailability
  | [], state => state
  | c :: rest, state =>
    let state := if some c.protocolVersion = selected ∧ state ≠ .ambiguous then .ready else state
    routeState selected mode rest
      (if mode ≠ .manual ∧ some c.protocolVersion ≠ selected then .ambiguous else state)

/-- `routeWith` (model_route_store.go:22): the route of a model and the routing revision. -/
def routeWith (model : String) : Prog (Route × Int) := do
  let revision ← query fun (db : Database) => match db.rows Tbl.routingState with
    | [] => .error .noRows
    | (r : RoutingState) :: _ => .ok r.revision
  let r ← query fun (db : Database) =>
    ((db.rows Tbl.modelRoutes).find? fun (r : ModelRoute) => r.modelID == model).elim (.error .unsupportedModel) .ok
  let candidates ← select fun (db : Database) => candidatesFor db model
  let waiting ← select fun (db : Database) => (db.tasks.filter fun t =>
    t.model == model && t.routeState == .awaitingRoute && t.deletedAt.isNone && t.status.isQueued).length
  pure ({ model := model, protocolVersion := r.protocolVersion, selectionMode := r.selectionMode, version := r.version
          state := routeState r.protocolVersion r.selectionMode candidates
            (if r.protocolVersion.isNone then .ambiguous else .unavailable)
          candidates := candidates, legacyAwaitingTasks := waiting }, revision)

/-- `BindModelRoute` (model_route_store.go:117). -/
def bindModelRouteBody (model : String) (protocol : Protocol) (admin : String) (version revision now : Int) :
    Prog (Route × Int) := do
  let (r, current) ← routeWith model
  require (r.version == version && current == revision) .routeChanged
  require (r.candidates.any (·.protocolVersion == protocol)) .routeUnavailable
  let _ ← exec (.update Tbl.modelRoutes (fun _ (r : ModelRoute) => r.modelID == model)
    fun _ (r : ModelRoute) =>
      { r with protocolVersion := some protocol, selectionMode := .manual, version := r.version + 1
               updatedBy := admin, updatedAt := now })
  bumpRouting now
  routeWith model

def bindModelRoute (model : String) (protocol : Protocol) (admin : String) (version revision now : Int) :
    Call (Route × Int) :=
  immediate (bindModelRouteBody model protocol admin version revision (unix now))

end MinimaxProxy.Store
