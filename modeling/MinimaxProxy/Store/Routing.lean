import MinimaxProxy.Store.Catalog

/-!
# Which task a node may take

`task_routing_store.go`. `nextEligibleTask` pages through the waiting tasks, a hundred
at a time, and takes the first whose protocol, catalog, capability and media sources
the node accepts. The queue has finitely many tasks, so the number of tasks bounds the
number of pages; it is read with the first page.
-/

namespace MinimaxProxy.Store
open Sql Sql.Prog

/-- `task.ProtocolVersion == ""`. -/
def protocolUnset (t : Task) : Bool := t.protocolVersion.isNone || t.protocolVersion == some (.other "")

/-- Does the item offer the model with capabilities the requirements fit? -/
def CatalogItem.serves (m : CatalogItem) (model : String) (r : TaskRequirements) : Bool :=
  m.modelID == model && m.enabled && m.present && m.capabilities.accepts r

/-- `taskEligibleForNode` (task_routing_store.go:111); `now` is in seconds. -/
def taskEligibleForNode (task : Task) (nodeID : String) (now : Int) : Prog Bool :=
  if task.routeState != .ready || protocolUnset task then pure false
  else do
    match ← select fun (db : Database) => db.nodes.find? fun n => n.id == nodeID && n.deletedAt.isNone with
    | none => pure (task.protocolVersion == some .legacy)
    | some node =>
      if !node.enabled || some node.protocolVersion != task.protocolVersion then pure false
      else do
        let cat ← catalogWith nodeID
        if cat.source == .discovered && cat.validUntil ≤ now then pure false
        else match task.routingSnapshotJSON with
          | some (.value snapshot) => pure (cat.items.any fun m => CatalogItem.serves m task.model snapshot.requirements)
          | _ => .fail .decode

/-- `strings.ToLower` on the letters whose lower case is ASCII. -/
def lowerChar (c : Char) : Char := if c = 'İ' then 'i' else if c = 'K' then 'k' else c.toLower

/-- `strings.Cut(url, ":")`, with the part before the colon in lower case. -/
def cutScheme (url : String) : String × List Char :=
  let (source, tail) := url.toList.span (· ≠ ':')
  (String.ofList (source.map lowerChar), tail.drop 1)

/-- The reference under which a spooled input is stored: `proxy-input://<task>/<id>`. -/
def spoolRef (f : SpoolFile) : String := "proxy-input://" ++ f.taskID ++ "/" ++ f.id

/-- The spool files a `proxy-input` reference of item `index` names. -/
def spooled (db : Database) (taskID : String) (index : Nat) (item : GenerationContent) (url : String) : Nat :=
  (db.spoolFiles.filter fun f => f.taskID == taskID && f.contentIndex == index && f.contentType == item.type
    && f.role == item.role && spoolRef f == url).length

/-- The `switch source` of `nextEligibleTask` (task_routing_store.go:303). -/
def sourceAccepted (task : Task) (index : Nat) (item : GenerationContent) (url : String) : Prog Bool :=
  let (source, tail) := cutScheme url
  if source = "http" ∨ source = "https" ∨ source = "data" then pure true
  else if source = "mm_file" then
    pure (task.protocolVersion == some .official && tail.take 2 == ['/', '/'] && tail.length > 2)
  else if source = "proxy-input" then do
    let count ← select fun (db : Database) => spooled db task.taskID index item url
    pure (count == 1)
  else pure false

/-- Every media item of the request has an accepted source. -/
def mediaAccepted (task : Task) : Nat → List GenerationContent → Prog Bool
  | _, [] => pure true
  | index, item :: rest =>
    match item.media with
    | none => mediaAccepted task (index + 1) rest
    | some media => do
      if ← sourceAccepted task index item media.url then mediaAccepted task (index + 1) rest else pure false

/-- The body of the loop over one page: is this task taken? -/
def accepted (nodeID : String) (now : Int) (task : Task) : Prog Bool := do
  if ← taskEligibleForNode task nodeID now then
    match task.requestJSON with
    | .unreadable _ => pure false
    | .value request => mediaAccepted task 0 request.content
  else pure false

/-- The first task of a page that is taken. -/
def firstAccepted (nodeID : String) (now : Int) : List Task → Prog (Option Task)
  | [] => pure none
  | task :: rest => do
    if ← accepted nodeID now task then pure (some task) else firstAccepted nodeID now rest

/-- One page of waiting tasks: `queue_seq>? ORDER BY queue_seq LIMIT 100`. -/
def waitingPage (after : Nat) (db : Database) : Except Err (List Task) :=
  ((db.tasks.filter fun t => Waiting t && t.queueSeq > after).take 100).mapM scanTask

/-- The loop of `nextEligibleTask` from a page on; at most `pages` more are read. -/
def scanPages (nodeID : String) (now : Int) : Nat → List Task → Prog Task
  | 0, tasks => do
    match ← firstAccepted nodeID now tasks with
    | some task => pure task
    | none => .fail .queueEmpty
  | pages + 1, tasks => do
    match ← firstAccepted nodeID now tasks with
    | some task => pure task
    | none =>
      if tasks.length < 100 then .fail .queueEmpty
      else do
        let next ← query (waitingPage ((tasks.getLast?.map (·.queueSeq)).getD 0))
        scanPages nodeID now pages next

/-- `nextEligibleTask` (task_routing_store.go:262); `now` is in seconds. -/
def nextEligibleTask (nodeID : String) (now : Int) : Prog Task := do
  let (tasks, pages) ← query fun (db : Database) => (waitingPage 0 db).map fun tasks => (tasks, db.tasks.length)
  scanPages nodeID now pages tasks

/-- The end of `ClaimNext` (store.go:439) and `ClaimNextOfficial` (official_task_store.go:73):
take the next eligible task, write `claim` into its row, and read it back. -/
def takeTask (o : Options) (nodeID : String) (now : Int) (claim : Task → Task) : Prog Task := do
  let selected ← nextEligibleTask nodeID now
  let n ← exec (.update Tbl.videoTasks (fun _ (t : Task) => t.taskID == selected.taskID && t.status == selected.status)
    fun _ t => claim t)
  oneRow n
  rebalance o now
  query (getWith selected.apiKeyID selected.taskID now)

/-! ## Routing a new or an old task -/

/-- `domain.NewTask`: what `Create` is given. -/
structure NewTask where
  protocolVersion : Option Protocol := none
  routingSnapshotJSON : Option SnapshotDoc := none
  requestNormalizer : String := ""
  routingRevision : Int := 0
  taskID : String
  apiKeyID : String
  model : String
  scenario : String
  requestJSON : RequestDoc
  requestHash : String
  resolution : String
  ratio : String
  duration : Int
  inputImageCount : Int := 0
  callbackURLCiphertext : Option String := none
  callbackURLNonce : Option String := none
  callbackDeliveryID : String := ""
  callbackRequestBody : String := ""
  callbackRequestBodyHash : String := ""
  profileID : String := ""
  profileVersion : Int := 0
  configSnapshotJSON : String := ""
  configHash : String := ""
  stages : List Stage := []
  inputSpoolFiles : List SpoolFile := []

/-- The protocols that offer a model. -/
def offeredProtocols (db : Database) (model : String) : List Protocol :=
  (((offers db).filter (·.1 == model)).map (·.2.1)).eraseDups

/-- The first block of `prepareTaskRouting`: a task without a protocol takes the one that
offers its model. -/
def chooseProtocol (input : NewTask) : Prog Protocol :=
  match input.protocolVersion with
  | some p => pure p
  | none => do
    match ← select fun (db : Database) => offeredProtocols db input.model with
    | [p] => pure p
    | [] => pure (if input.stages.isEmpty then .legacy else .h3)
    | _ => .fail .routeAmbiguous

/-- Nodes that serve the protocol and model with a valid catalog. -/
def servingNodes (protocol : Protocol) (model : String) (now : Int) (db : Database) : List String :=
  (db.nodes.filter fun n => n.enabled && n.deletedAt.isNone && n.protocolVersion == protocol
    && (db.nodeModels.any fun m => m.nodeID == n.id && m.modelID == model && m.enabled && m.present)
    && (db.catalogs.any fun c => c.nodeID == n.id && (c.source != .discovered || (c.validUntil.any (· > now))))).map (·.id)

/-- Does one of the nodes' catalogs accept the requirements? Every catalog is read. -/
def anyServes (model : String) (r : TaskRequirements) : List String → Prog Bool
  | [] => pure false
  | id :: ids => do
    let cat ← catalogWith id
    let rest ← anyServes model r ids
    pure (cat.items.any (fun m => CatalogItem.serves m model r) || rest)

/-- `prepareTaskRouting` (task_routing_store.go:13): the input with its route filled in. -/
def prepareTaskRouting (input : NewTask) (now : Int) : Prog NewTask := do
  let protocol ← chooseProtocol input
  require protocol.lookup.isSome .routeUnavailable
  let normalizer := if input.requestNormalizer = "" then "legacy-h3-v1" else input.requestNormalizer
  let doc := input.routingSnapshotJSON.getD (.value
    { model := input.model, protocolVersion := protocol, normalizerVersion := normalizer
      requirements := { scenario := input.scenario, duration := input.duration, resolution := input.resolution } })
  match doc with
  | .unreadable _ => .fail .decode
  | .value snapshot => do
    require (snapshot.protocolVersion == protocol && snapshot.model == input.model) .routeChanged
    if input.routingRevision > 0 then do
      let current ← query fun (db : Database) => match db.rows Tbl.routingState with
        | [] => .error .noRows
        | (r : RoutingState) :: _ => .ok r.revision
      require (current == input.routingRevision) .routeChanged
      let ids ← select (servingNodes protocol input.model now)
      require (!ids.isEmpty) .routeUnavailable
      let eligible ← anyServes input.model snapshot.requirements ids
      require eligible .modelInput
    pure { input with protocolVersion := some protocol, routingSnapshotJSON := some doc, requestNormalizer := normalizer }

/-- Is there any sign that the task was ever dispatched? -/
def dispatchEvidence (db : Database) (taskID : String) : Nat :=
  (db.attempts.filter fun a => stageOf db taskID a.stageID).length
    + (db.barriers.filter (·.taskID == taskID)).length + (db.remoteRuns.filter (·.taskID == taskID)).length

/-- References of the request to spooled inputs are checked and replaced by a plain URL
(task_routing_store.go:191). -/
def resolveSpoolRefs (taskID : String) : Nat → List GenerationContent → Prog (List GenerationContent)
  | _, [] => pure []
  | index, item :: rest => do
    let item ← match item.media with
      | none => pure item
      | some media =>
        if media.url.toList.length > 14 ∧ media.url.toList.take 14 = "proxy-input://".toList then do
          let count ← select fun (db : Database) => spooled db taskID index item media.url
          require (count == 1) .modelInput
          let plain : Option MediaURL := some ⟨"https://migration.invalid/input"⟩
          pure (if item.type = "image_url" then { item with imageURL := plain }
            else if item.type = "video_url" then { item with videoURL := plain } else { item with audioURL := plain })
        else pure item
    let rest ← resolveSpoolRefs taskID (index + 1) rest
    pure (item :: rest)

/-- `protocol.Normalize`: the requirements of a request under a protocol and a capability. -/
abbrev Normalize : Type := Protocol → GenerationRequest → ModelCapability → Option TaskRequirements

/-- The requirements under the last node whose catalog accepts the request; each node stops
at its first model that does (task_routing_store.go:210). -/
def chooseRequirements (normalize : Normalize) (protocol : Protocol) (model : String) (request : GenerationRequest) :
    List String → Option TaskRequirements → Prog (Option TaskRequirements)
  | [], chosen => pure chosen
  | id :: ids, chosen => do
    let cat ← catalogWith id
    let found := cat.items.findSome? fun m =>
      if m.modelID == model && m.enabled && m.present then normalize protocol request m.capabilities else none
    chooseRequirements normalize protocol model request ids (found <|> chosen)

/-- `BindLegacyTaskRoute` (task_routing_store.go:146); `now` is in seconds. -/
def bindLegacyTaskRouteBody (o : Options) (normalize : Normalize) (taskID : String) (nodeProtocol : Protocol)
    (version revision now : Int) : Prog Task := do
  let task ← query fun (db : Database) =>
    (db.tasks.find? fun t => t.taskID == taskID && t.deletedAt.isNone).elim (.error .taskNotFound) scanTask
  require (task.version == version && task.routeState == .awaitingRoute && task.status.isQueued
    && (task.upstreamJobID.getD "" == "") && (task.gradioEventID.getD "" == "")
    && !task.officialSubmissionBaselineSaved && (task.attemptStartedAt.getD 0 ≤ 0)) .stateConflict
  let evidence ← select fun (db : Database) => dispatchEvidence db taskID
  require (evidence == 0) .stateConflict
  let (r, rev) ← routeWith task.model
  require (revision == rev) .routeChanged
  require (r.candidates.any (·.protocolVersion == nodeProtocol)) .routeUnavailable
  match task.requestJSON with
  | .unreadable _ => .fail .decode
  | .value request => do
    let content ← resolveSpoolRefs taskID 0 request.content
    let nodeIDs := (r.candidates.filter (·.protocolVersion == nodeProtocol)).flatMap (·.nodeIDs)
    match ← chooseRequirements normalize nodeProtocol task.model { request with content := content } nodeIDs none with
    | none => .fail .modelInput
    | some requirements => do
      let plan := (nodeProtocol.lookup.map (·.parameterPlan)).getD ""
      require (!(plan == "h3_profile" && task.configSnapshotJSON.getD "" == "")) .modelInput
      let _ ← exec (.update Tbl.videoTasks (fun _ (t : Task) => t.taskID == taskID && t.version == version)
        fun _ (t : Task) =>
          { t with
            protocolVersion := some nodeProtocol, routeState := .ready
            routingSnapshotJSON := some (.value
              { model := task.model, protocolVersion := nodeProtocol, routeVersion := r.version, routingRevision := rev
                selectionMode := "manual", parameterPlan := plan, normalizerVersion := task.requestNormalizer
                requirements := requirements })
            routingWaitReason := "", updatedAt := now, version := t.version + 1 })
      rebalance o now
      query fun (db : Database) => (findTask db taskID).elim (.error .noRows) scanTask

def bindLegacyTaskRoute (o : Options) (normalize : Normalize) (taskID : String) (nodeProtocol : Protocol)
    (version revision now : Int) : Call Task :=
  immediate (bindLegacyTaskRouteBody o normalize taskID nodeProtocol version revision (unix now))

end MinimaxProxy.Store
