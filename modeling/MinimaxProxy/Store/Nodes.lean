import Mathlib.Data.List.Sort
import MinimaxProxy.Store.Catalog

/-!
# Service nodes

`model_node.go`, and `writeNodeCatalog` of `model_catalog_store.go`. Bodies take `now` in
seconds.
-/

namespace MinimaxProxy.Store
open Sql Sql.Prog

/-- `domain.ModelNodeInput`; durations are in milliseconds. -/
structure NodeInput where
  id : String
  serviceURL : String := ""
  protocolVersion : Protocol
  apiKeyCiphertext : Option String := none
  apiKeyNonce : Option String := none
  apiKeyFingerprint : String := ""
  upstreamModel : String := ""
  maxConcurrency : Int := 0
  replaceResultURL : Bool := false
  legacyModelCompat : Bool := false
  modelCatalog : Option ModelCatalog := none
  baseURL : String := ""
  jobsBaseURL : String := ""
  publicBaseURL : String := ""
  healthPath : String := ""
  submitAPIName : String := ""
  checkAPIName : String := ""
  pollInterval : Int
  requestTimeout : Int
  enabled : Bool := true

/-- Protocols other than the legacy one. -/
def Protocol.isDirect (p : Protocol) : Bool := p == .h3 || p == .official || p == .tk2sd

/-- The columns `nodePersistenceValues` (model_node.go:299) sets, on the row `n`. -/
def nodePersistenceValues (input : NodeInput) (n : Node) : Node :=
  let n := { n with pollIntervalMs := input.pollInterval, requestTimeoutMs := input.requestTimeout, enabled := input.enabled }
  if Protocol.isDirect input.protocolVersion then
    let apiName := if input.protocolVersion = .official then "minimax_v2" else "node_v1"
    { n with
      serviceURL := input.serviceURL, protocolVersion := input.protocolVersion, apiKeyCiphertext := input.apiKeyCiphertext
      apiKeyNonce := input.apiKeyNonce, apiKeyFingerprint := some input.apiKeyFingerprint, apiKeyID := some ""
      baseURL := input.serviceURL, jobsBaseURL := input.serviceURL, publicBaseURL := input.serviceURL
      healthPath := if input.protocolVersion = .official then "/v2/query/video_generation" else "/internal/v1/health"
      submitAPIName := apiName, checkAPIName := apiName, upstreamModel := input.upstreamModel
      maxConcurrency := if input.protocolVersion = .h3 ∨ input.maxConcurrency = 0 then 1 else input.maxConcurrency
      replaceResultURL := input.replaceResultURL }
  else
    { n with
      serviceURL := input.baseURL, protocolVersion := .legacy, apiKeyCiphertext := none, apiKeyNonce := none
      apiKeyFingerprint := none, apiKeyID := none, baseURL := input.baseURL, jobsBaseURL := input.jobsBaseURL
      publicBaseURL := input.publicBaseURL, healthPath := input.healthPath, submitAPIName := input.submitAPIName
      checkAPIName := input.checkAPIName, upstreamModel := "", maxConcurrency := 1, replaceResultURL := false }

/-- A new row. -/
def newNode (input : NodeInput) (now : Int) : Node :=
  nodePersistenceValues input
    { id := input.id, serviceURL := "", protocolVersion := .legacy, createdAt := now, updatedAt := now }

/-- The input with the protocol and address that were stored. -/
def storedInput (input : NodeInput) : NodeInput :=
  if Protocol.isDirect input.protocolVersion then input
  else { input with protocolVersion := .legacy, serviceURL := input.baseURL }

/-! ## Catalog -/

/-- The catalog a node without one of its own gets. -/
def defaultCatalog (p : Protocol) (d : Definition) (now : Int) : ModelCatalog :=
  if d.modelSource = .discovered then { source := .discovered, status := .uninitialized }
  else { source := d.modelSource, status := .ready, lastSuccessAt := now
         items := [{ modelID := "MiniMax-H3", enabled := true, present := true, verified := d.modelSource == .builtin
                     capabilities := p.builtinCapability }] }

/-- The given catalog, with what a discovery has meanwhile found. -/
def mergedCatalog (c old : ModelCatalog) (fingerprint : String) : ModelCatalog :=
  if c.source = .discovered ∧ old.fingerprint = fingerprint then
    let c := if old.lastSuccessAt > c.lastSuccessAt then
      { c with lastSuccessAt := old.lastSuccessAt, validUntil := old.validUntil } else c
    if old.lastAttemptAt > c.lastAttemptAt then
      { c with lastAttemptAt := old.lastAttemptAt, status := old.status, lastErrorCode := old.lastErrorCode } else c
  else c

/-- The catalog to write. -/
def chooseCatalog (n : NodeInput) (old : Option ModelCatalog) (fingerprint : String) (now : Int) : Except Err ModelCatalog :=
  match n.modelCatalog, old with
  | some c, some old => if c.revision ≠ old.revision then .error .catalogConflict else .ok (mergedCatalog c old fingerprint)
  | some c, none => .ok c
  | none, _ => n.protocolVersion.lookup.elim (.error (.other "未知节点协议")) fun d => .ok (defaultCatalog n.protocolVersion d now)

/-- `writeNodeCatalog` (model_catalog_store.go:55). -/
def writeNodeCatalog (n : NodeInput) (now : Int) : Prog Unit := do
  let found ← attempt (catalogWith n.id)
  let old ← (match found with
    | .ok old => pure (some old)
    | .error .nodeNotFound => pure none
    | .error e => .fail e : Prog (Option ModelCatalog))
  let fingerprint := catalogFingerprint n.protocolVersion n.serviceURL n.apiKeyFingerprint
  match old.filter fun old => n.modelCatalog.isNone && old.fingerprint == fingerprint with
  | some old => do
    require (!n.enabled || old.hasEnabled now) .routeUnavailable
    syncModelRoutes now
    bumpRouting now
  | none =>
    match chooseCatalog n old fingerprint now with
    | .error e => .fail e
    | .ok c => do
      require (c.items.length ≤ 256) (.other "节点模型数量超过限制")
      match validateCatalogItems c.items [] with
      | .error e => .fail e
      | .ok () => do
        require (!n.enabled || c.hasEnabled now) .routeUnavailable
        let _ ← exec (.upsert Tbl.nodeModelCatalogs
          (fun _ => some { nodeID := n.id, source := c.source, revision := (old.map (·.revision + 1)).getD 1
                           connectionFingerprint := fingerprint, lastStatus := c.status
                           lastAttemptAt := nullZero c.lastAttemptAt, lastSuccessAt := nullZero c.lastSuccessAt
                           validUntil := nullZero c.validUntil, lastErrorCode := c.lastErrorCode
                           createdAt := now, updatedAt := now })
          (fun (new old : Catalog) => new.nodeID == old.nodeID)
          fun (new old : Catalog) => some { new with createdAt := old.createdAt })
        hideNodeModels n.id now
        forEach (fun m => writeNodeModel n.id m now) c.items
        syncModelRoutes now
        bumpRouting now

/-! ## Operations -/

/-- The undeleted node with this id. -/
def currentNode (id : String) (e : Err) : Prog Node :=
  query fun (db : Database) => (db.nodes.find? fun n => n.id == id && n.deletedAt.isNone).elim (.error e) .ok

/-- `CreateModelNode` (model_node.go:40). -/
def createModelNodeBody (input : NodeInput) (now : Int) : Prog Node := do
  let existing ← select fun (db : Database) => (db.nodes.filter (·.id == input.id)).length
  require (existing == 0) .nodeIDConflict
  let _ ← exec (.insert Tbl.modelServiceNodes fun _ _ => [newNode input now])
  writeNodeCatalog (storedInput input) now
  currentNode input.id .noRows

def createModelNode (input : NodeInput) (now : Int) : Call Node := immediate (createModelNodeBody input (unix now))

/-- `activeTaskCount` (model_node.go:233). -/
def activeTaskCount (nodeID : String) (db : Database) : Nat :=
  (db.tasks.filter fun t => t.upstreamID == some nodeID && t.status.isTaken && t.deletedAt.isNone).length
    + (db.barriers.filter (·.nodeID == nodeID)).length

/-- `retainedRemoteResults` (model_node.go:263). -/
def retainedRemoteResults (nodeID : String) (now : Int) (db : Database) : Nat :=
  (db.tasks.filter fun t => t.upstreamID == some nodeID && t.protocolVersion == some .tk2sd && t.deletedAt.isNone
    && t.expiresAt > now && t.status == .succeeded && (!t.deliveryRequired || t.resultPublicURL.getD "" == "")).length

/-- `sameDirectConnectionExceptCapacity` (model_node.go:257). -/
def sameDirectConnectionExceptCapacity (n : Node) (i : NodeInput) : Bool :=
  n.serviceURL == i.serviceURL && n.protocolVersion == i.protocolVersion && n.apiKeyFingerprint.getD "" == i.apiKeyFingerprint
    && n.pollIntervalMs == i.pollInterval && n.requestTimeoutMs == i.requestTimeout && n.upstreamModel == i.upstreamModel
    && n.replaceResultURL == i.replaceResultURL

/-- `sameNodeConnection` (model_node.go:249). -/
def sameNodeConnection (n : Node) (i : NodeInput) : Bool :=
  if !Protocol.isDirect n.protocolVersion && !Protocol.isDirect i.protocolVersion then
    n.baseURL == i.baseURL && n.jobsBaseURL == i.jobsBaseURL && n.publicBaseURL == i.publicBaseURL
      && n.healthPath == i.healthPath && n.submitAPIName == i.submitAPIName && n.checkAPIName == i.checkAPIName
      && n.pollIntervalMs == i.pollInterval && n.requestTimeoutMs == i.requestTimeout
  else if n.serviceURL != i.serviceURL || n.protocolVersion != i.protocolVersion
      || n.apiKeyFingerprint.getD "" != i.apiKeyFingerprint || n.pollIntervalMs != i.pollInterval
      || n.requestTimeoutMs != i.requestTimeout then false
  else if n.protocolVersion == .official || n.protocolVersion == .tk2sd then
    n.upstreamModel == i.upstreamModel && n.maxConcurrency == i.maxConcurrency && n.replaceResultURL == i.replaceResultURL
  else true

/-- May the node be changed while tasks run on it (model_node.go:97)? -/
def allowedWhileActive (n : Node) (i : NodeInput) : Bool :=
  (n.enabled && !i.enabled && sameNodeConnection n i)
    || (sameNodeConnection n i && n.enabled == i.enabled && n.legacyModelCompat == i.legacyModelCompat)
    || (n.protocolVersion == .tk2sd && i.protocolVersion == n.protocolVersion && i.serviceURL == n.serviceURL
      && i.legacyModelCompat == n.legacyModelCompat && i.apiKeyFingerprint != n.apiKeyFingerprint.getD "")
    || (n.enabled && i.enabled && (n.protocolVersion == .official || n.protocolVersion == .tk2sd)
      && i.protocolVersion == n.protocolVersion && sameDirectConnectionExceptCapacity n i && i.maxConcurrency > n.maxConcurrency)

/-- Change the undeleted node at the expected version; no such row is a version conflict. -/
def updateNode (id : String) (version : Int) (set : Node → Node) : Prog Unit := do
  let n ← exec (.update Tbl.modelServiceNodes (fun _ (n : Node) => n.id == id && n.version == version && n.deletedAt.isNone)
    fun _ n => set n)
  require (n == 1) .nodeVersionConflict

/-- `UpdateModelNode` (model_node.go:68). -/
def updateModelNodeBody (id : String) (expectedVersion : Int) (input : NodeInput) (now : Int) : Prog Node := do
  let current ← currentNode id .nodeNotFound
  require (current.version == expectedVersion) .nodeVersionConflict
  if current.protocolVersion = .tk2sd ∧ (current.protocolVersion ≠ input.protocolVersion ∨ current.serviceURL ≠ input.serviceURL)
  then do
    let dependent ← select (retainedRemoteResults id now)
    require (dependent == 0) .nodeHasActiveTask
  let active ← select (activeTaskCount id)
  require (active == 0 || allowedWhileActive current input) .nodeHasActiveTask
  updateNode id expectedVersion fun n => { nodePersistenceValues input n with version := n.version + 1, updatedAt := now }
  require (!(current.legacyModelCompat && !input.legacyModelCompat && active > 0)) .nodeHasActiveTask
  require (!(!current.legacyModelCompat && input.legacyModelCompat)) .stateConflict
  let _ ← exec (.update Tbl.modelServiceNodes (fun _ (n : Node) => n.id == id)
    fun _ (n : Node) => { n with legacyModelCompat := input.legacyModelCompat })
  writeNodeCatalog { storedInput input with id := id } now
  currentNode id .noRows

def updateModelNode (id : String) (expectedVersion : Int) (input : NodeInput) (now : Int) : Call Node :=
  immediate (updateModelNodeBody id expectedVersion input (unix now))

/-- `DeleteModelNode` (model_node.go:139). -/
def deleteModelNodeBody (id : String) (expectedVersion now : Int) : Prog Unit := do
  let current ← currentNode id .nodeNotFound
  require (current.version == expectedVersion) .nodeVersionConflict
  require (!current.enabled) .nodeMustBeDisabled
  let active ← select (activeTaskCount id)
  require (active == 0) .nodeHasActiveTask
  let dependent ← select (retainedRemoteResults id now)
  require (dependent == 0) .nodeHasActiveTask
  updateNode id expectedVersion fun n => { n with deletedAt := some now, updatedAt := now, version := n.version + 1 }
  bumpRouting now

def deleteModelNode (id : String) (expectedVersion now : Int) : Call Unit :=
  immediate (deleteModelNodeBody id expectedVersion (unix now))

/-- `ImportLegacyNodes` (model_node.go:190): once, into an empty table. -/
def importLegacyNodesBody (inputs : List NodeInput) (now : Int) : Prog (Int × Bool) := do
  match ← select fun (db : Database) =>
    (db.rows Tbl.nodeConfigBootstrap).find? fun (b : Bootstrap) => b.source == "yaml_upstreams" with
  | some b => pure (b.importedCount, false)
  | none => do
    let existing ← select fun (db : Database) => db.nodes.length
    if existing = 0 then
      forEach (fun input => do
        let _ ← exec (.insert Tbl.modelServiceNodes fun _ _ => [newNode input now])
        writeNodeCatalog (storedInput input) now) (inputs.insertionSort fun a b => a.id ≤ b.id)
    let count : Int := if existing = 0 then inputs.length else 0
    let _ ← exec (.insert Tbl.nodeConfigBootstrap fun _ _ =>
      [{ source := "yaml_upstreams", importedCount := count, completedAt := now }])
    pure (count, existing == 0)

def importLegacyNodes (inputs : List NodeInput) (now : Int) : Call (Int × Bool) :=
  immediate (importLegacyNodesBody inputs (unix now))

end MinimaxProxy.Store
