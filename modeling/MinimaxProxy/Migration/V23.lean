import MinimaxProxy.Inputs.Validation
import MinimaxProxy.Schema.Config
import MinimaxProxy.Schema.Tasks

/-!
# The migration to routed tasks

`migration_v23.go`: tasks get a protocol and a route state. A task that may have been submitted
must not be submitted again through another protocol, so what the database knows of its
submission decides. The columns of `video_tasks` that the migration does not read have the type
`ρ`; the statements that set up the tables are left out, and so are their failures, after which
the transaction is rolled back.
-/

namespace MinimaxProxy.Migration
open Inputs

/-! ## Before -/

/-- `capabilities_json` of a node. -/
structure Capabilities where
  stages : List String := []
  scenarios : List String := []
  ratios : List String := []

/-- `migrationV23Node`: a row of `model_service_nodes`. -/
structure Node where
  id : String
  protocol : Protocol
  serviceURL : String := ""
  fingerprint : String := ""
  upstreamModel : String := ""
  capabilities : Doc Capabilities := .unreadable
  version : Int := 1
  enabled : Bool := true
  deleted : Option Int := none

/-- `migrationV23Task`: the columns of a row of `video_tasks` that are read, and the others. -/
structure OldTask (ρ : Type) where
  queueSeq : Int
  id : String
  model : String := "MiniMax-H3"
  scenario : String := "t2va"
  status : TaskStatus
  request : Doc GenerationRequest := .unreadable
  resolution : String := ""
  duration : Int := 4
  ratio : String := ""
  node : Option String := none
  job : Option String := none
  event : Option String := none
  baseline : Bool := false
  slot : Bool := false
  attempt : Option Int := none
  config : Option String := none
  /-- The text of `upstream_jobs_before_json`. -/
  jobsBefore : String := "[]"
  others : ρ
deriving DecidableEq

/-- A database before the migration: `task_id` and `queue_seq` are unique, and the latter was handed out from one on. -/
structure OldDatabase (ρ : Type) where
  tasks : List (OldTask ρ)
  nodes : List Node
  stages : List Stage
  attempts : List Attempt
  barriers : List Barrier
  spool : List SpoolFile
  distinct : tasks.Pairwise fun a b => a.id ≠ b.id ∧ a.queueSeq ≠ b.queueSeq
  sequence : ∀ t ∈ tasks, 0 < t.queueSeq

/-! ## Evidence -/

/-- What is known of the submission of a task. -/
structure Evidence where
  found : Bool
  protocols : List Protocol := []
  unknown : Bool := false
  owner : Option Node := none

/-- The protocols that tasks could be submitted by. -/
def supported (p : Protocol) : Bool := p = .h3 ∨ p = .legacy ∨ p = .official

/-- `addNode` (migration_v23.go:493). -/
def addNode (nodes : List Node) (id : String) (e : Evidence) : Evidence :=
  match nodes.find? (·.id == id) with
  | none => { e with unknown := true }
  | some n =>
    if supported n.protocol then
      { e with protocols := if e.protocols.contains n.protocol then e.protocols
        else e.protocols ++ [n.protocol], owner := e.owner.or (some n) }
    else { e with unknown := true }

/-- Might the attempt still run? -/
def unfinished (a : Attempt) : Bool :=
  a.finishedAt.isNone || a.status == .dispatching || a.status == .running || a.status == .validating || a.status == .unknown

section
variable {ρ : Type} (lib : Library) (db : OldDatabase ρ) (t : OldTask ρ)

/-- The attempts and barriers of a task with their nodes, and whether they are unfinished (migration_v23.go:507). -/
def holders : List (String × Bool) :=
  (db.attempts.filter fun a => db.stages.any fun s => s.id == a.stageID && s.taskID == t.id).map (fun a => (a.nodeID, unfinished a))
    ++ (db.barriers.filter (·.taskID == t.id)).map fun b => (b.nodeID, true)

def addHolder (nodes : List Node) (e : Evidence) (row : String × Bool) : Evidence :=
  if row.2 then addNode nodes row.1 { e with found := true } else { e with found := true }

/-- The evidence in the row itself. -/
def ownEvidence : Bool := t.node.isSome || t.job.isSome || t.event.isSome || t.baseline || t.slot || t.attempt.isSome

/-- What `backfillV23Task` gathers (migration_v23.go:486). -/
def gather : Evidence :=
  let e : Evidence := { found := ownEvidence t }
  let e := match t.node with
    | none => e
    | some id => addNode db.nodes id e
  let e := (holders db t).foldl (addHolder db.nodes) e
  if lib.trimSpace t.jobsBefore ≠ "[]" then { e with found := true } else e

/-! ## Eligible nodes -/

/-- `migrationV23Supports` (migration_v23.go:601). -/
def supports (n : Node) : Bool :=
  if t.model ≠ "MiniMax-H3" ∨ t.duration < 4 ∨ t.duration > 15 ∨ ¬ ["480P", "768P", "2K"].contains t.resolution then false
  else match n.protocol with
    | .official => ["768P", "2K"].contains t.resolution
    | .legacy => t.scenario = "t2va" ∨ t.scenario = "i2va" ∨ t.scenario = "r2va"
    | .h3 =>
      if t.config.isNone then false
      else match n.capabilities with
        | .unreadable => false
        | .value c => c.stages.contains "generation" && c.scenarios.contains (trimEnd "a" t.scenario) && c.ratios.contains t.ratio
    | _ => false

/-- The source of a medium (migration_v23.go:733). -/
def validSource (index : Nat) (type role raw : String) : Bool :=
  match lib.parse raw with
  | none => false
  | some u =>
    if u.user then false
    else match u.scheme with
      | "http" | "https" => u.host ≠ ""
      | "mm_file" => u.host ≠ "" ∨ u.opaquePart ≠ ""
      | "proxy-input" =>
        if u.host ≠ t.id ∨ u.rawQuery ≠ "" ∨ u.fragment ≠ "" ∨ u.path = "" ∨ '/' ∈ u.path.toList.drop 1 then false
        else (db.spool.filter fun f => f.id == trimStart "/" u.path && f.taskID == t.id && f.contentIndex == index && f.contentType == type
          && f.role == role && (f.sourceKind == "data_uri" || f.sourceKind == "object_storage") && f.sizeBytes > 0
          && f.sha256.length == 64).length = 1
      | _ => false

/-- An item of a request, and the counts after it (migration_v23.go:690). -/
def validItem (index : Nat) (item : GenerationContent) (n : Counts) : Option Counts :=
  match item.type with
  | "text" =>
    if lib.trimSpace item.text = "" ∨ item.text.length > 14000 ∨ item.role ≠ "" ∨
        item.imageURL.isSome ∨ item.videoURL.isSome ∨ item.audioURL.isSome
    then none else some { n with text := n.text + 1 }
  | "image_url" => do
    let image ← item.imageURL
    let role := if item.role = "" then "first_frame" else item.role
    if item.videoURL.isSome ∨ item.audioURL.isSome ∨ item.text ≠ "" then none
    else do
      let n ← (countImage role n).toOption
      if validSource lib db t index item.type role image.url then some n else none
  | "video_url" => do
    let video ← item.videoURL
    if item.imageURL.isSome ∨ item.audioURL.isSome ∨ item.text ≠ "" ∨ item.role ≠ "reference_video" then none
    else if validSource lib db t index item.type item.role video.url then some { n with referenceVideos := n.referenceVideos + 1 } else none
  | "audio_url" => do
    let audio ← item.audioURL
    if item.imageURL.isSome ∨ item.videoURL.isSome ∨ item.text ≠ "" ∨ item.role ≠ "reference_audio" then none
    else if validSource lib db t index item.type item.role audio.url then some { n with referenceAudios := n.referenceAudios + 1 } else none
  | _ => none

def validItems : List GenerationContent → Nat → Counts → Option Counts
  | [], _, n => some n
  | item :: rest, index, n => do
    let n ← validItem lib db t index item n
    validItems rest (index + 1) n

/-- `migrationV23ValidateRequest` (migration_v23.go:664). -/
def validRequest : Bool :=
  match t.request with
  | .unreadable => false
  | .value r =>
    if r.model ≠ t.model ∨ r.duration ≠ t.duration ∨ r.resolution ≠ t.resolution ∨ r.content.length < 1 ∨ r.content.length > 16 then false
    else match validItems lib db t r.content 0 {} with
      | none => false
      | some n =>
        let frames := n.first + n.last
        let references := n.referenceImages + n.referenceVideos + n.referenceAudios
        if n.text ≠ 1 ∨ n.first > 1 ∨ n.last > 1 ∨ n.referenceImages > 9 ∨ n.referenceVideos > 3 ∨ n.referenceAudios > 3
          ∨ (frames > 0 ∧ references > 0) then false
        else
          let scenario := if frames > 0 then "i2va" else if references > 0 then "r2va" else "t2va"
          scenario = t.scenario ∧ validRatio t.ratio ∧ ¬ (scenario = "t2va" ∧ t.ratio = "adaptive")

/-- The protocols of the nodes that could take the task (migration_v23.go:549). -/
def eligible : List Protocol :=
  ((db.nodes.filter fun n => n.enabled && n.deleted.isNone && supports t n && validRequest lib db t).map (·.protocol)).dedup

/-! ## Routes -/

/-- The columns that the migration adds to a task and sets. -/
structure Route where
  protocol : Option Protocol := none
  state : RouteState := .awaitingRoute
  routing : Option RouteSnapshot := none
  dispatch : Option DispatchSnapshot := none
  reason : String := ""
deriving DecidableEq

/-- The route that the evidence leads to (migration_v23.go:531). -/
def evidentRoute (e : Evidence) : Route :=
  let terminal := t.status.isTerminal
  let r : Route := if terminal then { state := .legacyUnknown, reason := "legacy_protocol_unknown" }
    else { state := .awaitingRoute, reason := "legacy_route_unresolved" }
  let r : Route := match e.protocols, e.unknown with
    | [p], false => { protocol := some p, state := .ready }
    | _, _ =>
      if !terminal && (e.found || !t.status.isQueued) then
        { r with state := .migrationBlocked, reason := "legacy_submission_unresolved" }
      else r
  if e.protocols.length > 1 && !terminal then
    { r with protocol := none, state := .migrationBlocked, reason := "legacy_protocol_conflict" }
  else r

/-- A queued task without evidence may go to the one protocol that can take it. -/
def chosenRoute (e : Evidence) : Route :=
  if !e.found && t.status.isQueued then
    match eligible lib db t with
    | [p] => { protocol := some p, state := .ready }
    | _ => evidentRoute t e
  else evidentRoute t e

/-- `migrationV23Requirements` (migration_v23.go:627). -/
def requirements : TaskRequirements :=
  let media : List GenerationContent := match t.request with
    | .unreadable => []
    | .value r => r.content.filter fun c => ["image_url", "video_url", "audio_url"].contains c.type
  { scenario := t.scenario, duration := t.duration, resolution := t.resolution, mediaCount := media.length
    roles := media.map fun c => if c.role = "" ∧ c.type = "image_url" then "first_frame" else c.role
    inputSources := media.map fun c =>
      let raw := ((c.media.map (·.url)).getD "").toList
      let source := String.ofList (((Text.cut ':' raw).map (·.1)).getD raw)
      if source = "proxy-input" then "data" else source }

/-- The snapshots of a route that is ready (migration_v23.go:567). -/
def withSnapshots (owner : Option Node) (r : Route) : Route :=
  match r.state, r.protocol with
  | .ready, some p =>
    { r with
      routing := some { model := t.model, protocolVersion := p, routeVersion := 1, routingRevision := 1, selectionMode := "auto"
                        parameterPlan := if p = .official then "direct" else "h3_profile", normalizerVersion := "legacy-h3-v1"
                        requirements := requirements t }
      dispatch := owner.map fun n =>
        { nodeID := n.id, nodeVersion := n.version, protocolVersion := p, serviceURL := n.serviceURL
          upstreamModel := if p = .official ∧ lib.trimSpace n.upstreamModel ≠ "" then n.upstreamModel else t.model } }
  | _, _ => r

/-- `backfillV23Task` (migration_v23.go:486). -/
def backfillTask : Route :=
  let e := gather lib db t
  withSnapshots lib t e.owner (chosenRoute lib db t e)

end

/-! ## The migration -/

/-- A row of `video_tasks` with the new columns. -/
structure NewTask (ρ : Type) where
  old : OldTask ρ
  route : Route := {}
  requestNormalizer : String := "legacy-h3-v1"
deriving DecidableEq

section
variable {ρ : Type} (lib : Library) (db : OldDatabase ρ)

/-- The first row after a place in the queue. -/
def rowAfter (rows : List (NewTask ρ)) (after : Int) : Option (NewTask ρ) :=
  Sql.first (fun a b => a.old.queueSeq < b.old.queueSeq) (rows.filter fun r => after < r.old.queueSeq)

/-- `backfillV23Tasks` (migration_v23.go:454), for so many rows. -/
def backfillTasks : Nat → Int → List (NewTask ρ) → List (NewTask ρ)
  | 0, _, rows => rows
  | n + 1, after, rows =>
    match rowAfter rows after with
    | none => rows
    | some row =>
      backfillTasks n row.old.queueSeq (rows.map fun r =>
        if r.old.id = row.old.id then { r with route := backfillTask lib db row.old } else r)

/-- `migrateV23` (migration_v23.go:161) on the tasks: they are copied, backfilled, counted and compared. -/
def migrateV23 [DecidableEq ρ] : Except Err (List (NewTask ρ)) :=
  let rows := backfillTasks lib db db.tasks.length 0 (db.tasks.map fun t => { old := t })
  if rows.length ≠ db.tasks.length then .error (.other "迁移改变原表行数: video_tasks")
  else if rows.any fun r => !db.tasks.contains r.old then .error (.other "迁移改变原任务数据")
  else .ok rows

end

/-! ## What the evidence says -/

/-- The protocol of a node that is known. -/
def nodeProtocol (nodes : List Node) (id : String) : Option Protocol := ((nodes.find? (·.id == id)).map (·.protocol)).filter supported

/-- The nodes that own a task or hold an unfinished attempt or a barrier for it. -/
def involved {ρ : Type} (db : OldDatabase ρ) (t : OldTask ρ) : List String :=
  t.node.toList ++ ((holders db t).filter (·.2)).map (·.1)

/-- There is evidence that a task was submitted. -/
def Submitted {ρ : Type} (lib : Library) (db : OldDatabase ρ) (t : OldTask ρ) : Prop :=
  ownEvidence t = true ∨ holders db t ≠ [] ∨ lib.trimSpace t.jobsBefore ≠ "[]"

/-- The evidence that some nodes give. -/
structure Gathered (nodes : List Node) (ids : List String) (e : Evidence) : Prop where
  known : ∀ p, p ∈ e.protocols ↔ ∃ id ∈ ids, nodeProtocol nodes id = some p
  unknown : e.unknown = true ↔ ∃ id ∈ ids, nodeProtocol nodes id = none
  nodup : e.protocols.Nodup

section
variable {nodes : List Node} {ids : List String} {e : Evidence}

theorem addNode_cases (nodes : List Node) (id : String) (e : Evidence) : (addNode nodes id e).found = e.found ∧
    ((nodeProtocol nodes id = none ∧ (addNode nodes id e).protocols = e.protocols ∧ (addNode nodes id e).unknown = true) ∨
      ∃ p, nodeProtocol nodes id = some p ∧ (addNode nodes id e).unknown = e.unknown ∧
        (addNode nodes id e).protocols = if e.protocols.contains p then e.protocols else e.protocols ++ [p]) := by
  unfold addNode nodeProtocol
  cases nodes.find? (·.id == id) with
  | none => exact ⟨rfl, .inl ⟨rfl, rfl, rfl⟩⟩
  | some n =>
    by_cases known : supported n.protocol = true
    · refine ⟨?_, .inr ⟨n.protocol, Option.filter_some_pos known, ?_⟩⟩ <;> simp [known]
    · refine ⟨?_, .inl ⟨Option.filter_some_neg (by simpa using known), ?_⟩⟩ <;> simp [known]

theorem Gathered.addNode (h : Gathered nodes ids e) (id : String) : Gathered nodes (ids ++ [id]) (addNode nodes id e) := by
  have last {q : Option Protocol} : (∃ x ∈ ids ++ [id], nodeProtocol nodes x = q) ↔
      (∃ x ∈ ids, nodeProtocol nodes x = q) ∨ nodeProtocol nodes id = q := by
    simp [or_and_right, exists_or]
  obtain ⟨-, ⟨none, protocols, unknown⟩ | ⟨p, some, unknown, protocols⟩⟩ := addNode_cases nodes id e
  · refine ⟨fun q => ?_, ?_, protocols ▸ h.nodup⟩
    · rw [protocols, h.known q, last, none]
      simp
    · rw [unknown, last, none]
      simp
  · refine ⟨fun q => ?_, ?_, ?_⟩
    · rw [protocols, last, some, ← h.known q]
      split
      · rename_i old
        rw [Option.some_inj]
        exact ⟨.inl, fun h => h.elim (fun mem => mem) fun same => same ▸ (List.contains_iff_mem.mp old)⟩
      · rw [List.mem_append, List.mem_singleton, Option.some_inj, eq_comm]
    · rw [unknown, h.unknown, last, some]
      simp
    · rw [protocols]
      split
      · exact h.nodup
      · rename_i new
        refine List.nodup_append.mpr ⟨h.nodup, by simp, fun x mem y isY same => ?_⟩
        rw [same, List.mem_singleton.mp isY] at mem
        exact new (List.contains_iff_mem.mpr mem)

/-- The fields that count do not depend on `found`. -/
theorem Gathered.congr {e' : Evidence} (h : Gathered nodes ids e)
    (protocols : e'.protocols = e.protocols) (unknown : e'.unknown = e.unknown) :
    Gathered nodes ids e' := ⟨protocols ▸ h.known, unknown ▸ h.unknown, protocols ▸ h.nodup⟩

theorem Gathered.addHolders (h : Gathered nodes ids e) (rows : List (String × Bool)) :
    Gathered nodes (ids ++ (rows.filter (·.2)).map (·.1)) (rows.foldl (addHolder nodes) e)
      ∧ ((rows.foldl (addHolder nodes) e).found = true ↔ e.found = true ∨ rows ≠ []) := by
  induction rows generalizing e ids with
  | nil => simpa using h
  | cons row rows ih =>
    have found : (addHolder nodes e row).found = true := by
      unfold addHolder
      split
      · exact (addNode_cases ..).1
      · rfl
    cases held : row.2 with
    | true =>
      have step : Gathered nodes (ids ++ [row.1]) (addHolder nodes e row) := by
        have marked : Gathered nodes ids { e with found := true } := h.congr rfl rfl
        rw [addHolder, if_pos held]
        exact marked.addNode row.1
      obtain ⟨gathered, rest⟩ := ih step
      refine ⟨?_, ?_⟩
      · simpa [held] using gathered
      · simpa [found] using rest
    | false =>
      have step : Gathered nodes ids (addHolder nodes e row) := by
        rw [addHolder, held]
        exact h.congr rfl rfl
      obtain ⟨gathered, rest⟩ := ih step
      refine ⟨?_, ?_⟩
      · simpa [held] using gathered
      · simpa [found] using rest

end

/-- `gather` sees all evidence, and the protocols of all nodes that are involved. -/
theorem gather_spec {ρ : Type} (lib : Library) (db : OldDatabase ρ) (t : OldTask ρ) :
    Gathered db.nodes (involved db t) (gather lib db t) ∧ ((gather lib db t).found = true ↔ Submitted lib db t) := by
  have start : Gathered db.nodes [] { found := ownEvidence t } := ⟨by simp, by simp, List.nodup_nil⟩
  have own : Gathered db.nodes t.node.toList (match t.node with
      | none => { found := ownEvidence t }
      | some id => addNode db.nodes id { found := ownEvidence t })
      ∧ (match t.node with
      | none => { found := ownEvidence t }
      | some id => addNode db.nodes id { found := ownEvidence t } : Evidence).found = ownEvidence t := by
    cases t.node with
    | none => exact ⟨start, rfl⟩
    | some id => exact ⟨start.addNode id, (addNode_cases ..).1⟩
  obtain ⟨gathered, found⟩ := own.1.addHolders (holders db t)
  rw [own.2] at found
  unfold gather
  dsimp only
  split
  · rename_i jobs
    exact ⟨gathered.congr rfl rfl, fun _ => .inr (.inr jobs), fun _ => rfl⟩
  · rename_i none
    refine ⟨gathered, found.trans ?_⟩
    simp only [Submitted, none, or_false]

/-! ## The route of a submitted task -/

section
variable {ρ : Type} (lib : Library) (db : OldDatabase ρ) (t : OldTask ρ)

/-- The snapshots do not change where a route leads. -/
theorem withSnapshots_keeps (owner : Option Node) (r : Route) :
    (withSnapshots lib t owner r).state = r.state ∧ (withSnapshots lib t owner r).protocol = r.protocol := by
  unfold withSnapshots
  split <;> exact ⟨rfl, rfl⟩

/-- A task that is not finished and for which evidence was found goes to the one protocol that is known, or is blocked. -/
theorem evidentRoute_cases {e : Evidence} (unfinished : t.status.isTerminal = false) (found : e.found = true) :
    (∃ p, e.protocols = [p] ∧ e.unknown = false ∧ (evidentRoute t e).state = .ready ∧ (evidentRoute t e).protocol = some p) ∨
    ((∀ p, e.protocols = [p] → e.unknown = true) ∧ (evidentRoute t e).state = .migrationBlocked ∧ (evidentRoute t e).protocol = none) := by
  obtain ⟨found', protocols, unknown, owner⟩ := e
  obtain rfl : found' = true := found
  unfold evidentRoute
  match protocols, unknown with
  | [p], false => exact .inl ⟨p, rfl, rfl, by simp⟩
  | [_], true => exact .inr ⟨fun _ _ => rfl, by simp [unfinished]⟩
  | [], _ => exact .inr ⟨(nomatch ·, ·), by simp [unfinished]⟩
  | _ :: _ :: _, _ => exact .inr ⟨(nomatch ·, ·), by simp [unfinished]⟩

/-- What is asked of the route of a task that was submitted and is not finished: it leads to the protocol of the nodes that
    are involved when they all are known and have one, and otherwise the task waits for a decision. -/
structure Settled (r : Route) : Prop where
  ready_or_blocked : r.state = .ready ∨ r.state = .migrationBlocked
  ready_iff (p : Protocol) : (r.state = .ready ∧ r.protocol = some p) ↔
    involved db t ≠ [] ∧ ∀ id ∈ involved db t, nodeProtocol db.nodes id = some p
  ready_protocol : r.state = .ready → ∃ p, r.protocol = some p
  blocked_protocol : r.state = .migrationBlocked → r.protocol = none

/-- The nodes all are known and have one protocol. -/
theorem Gathered.single {nodes : List Node} {ids : List String} {e : Evidence} (h : Gathered nodes ids e) (p : Protocol) :
    (e.protocols = [p] ∧ e.unknown = false) ↔ ids ≠ [] ∧ ∀ id ∈ ids, nodeProtocol nodes id = some p := by
  constructor
  · rintro ⟨one, none⟩
    obtain ⟨id, mem, -⟩ := (h.known p).mp (one ▸ List.mem_singleton_self p)
    refine ⟨List.ne_nil_of_mem mem, fun id mem => ?_⟩
    cases known : nodeProtocol nodes id with
    | none => exact absurd (h.unknown.mpr ⟨id, mem, known⟩) (by simp [none])
    | some q =>
      have isP : q ∈ e.protocols := (h.known q).mpr ⟨id, mem, known⟩
      rw [one, List.mem_singleton] at isP
      rw [isP]
  · rintro ⟨some, all⟩
    obtain ⟨id, mem⟩ := List.exists_mem_of_ne_nil ids some
    refine ⟨?_, ?_⟩
    · refine List.perm_singleton.mp ((List.perm_ext_iff_of_nodup h.nodup (by simp)).mpr fun q => ?_)
      rw [h.known q, List.mem_singleton]
      refine ⟨fun ⟨id, mem, known⟩ => ?_, fun same => ⟨id, mem, same ▸ all id mem⟩⟩
      exact Option.some_inj.mp (known.symm.trans (all id mem))
    · refine Bool.eq_false_iff.mpr fun unknown => ?_
      obtain ⟨id, mem, none⟩ := h.unknown.mp unknown
      exact nomatch none.symm.trans (all id mem)

theorem backfillTask_settled (unfinished : t.status.isTerminal = false)
    (submitted : Submitted lib db t) : Settled db t (backfillTask lib db t) := by
  obtain ⟨gathered, found⟩ := gather_spec lib db t
  have seen : (gather lib db t).found = true := found.mpr submitted
  have chosen : chosenRoute lib db t (gather lib db t) = evidentRoute t (gather lib db t) := by
    rw [chosenRoute, seen]
    rfl
  obtain ⟨state, protocol⟩ := withSnapshots_keeps lib t (gather lib db t).owner (chosenRoute lib db t (gather lib db t))
  rw [chosen] at state protocol
  unfold backfillTask
  dsimp only
  rw [chosen]
  obtain ⟨p, one, known, ready, leads⟩ | ⟨mixed, blocked, none⟩ := evidentRoute_cases t unfinished seen
  · rw [ready] at state
    rw [leads] at protocol
    refine ⟨.inl state, fun q => ?_, fun _ => ⟨p, protocol⟩, fun blocked => nomatch state.symm.trans blocked⟩
    rw [← gathered.single q, state, protocol, one]
    simp [known]
  · rw [blocked] at state
    rw [none] at protocol
    refine ⟨.inr state, fun q => ?_, fun ready => (nomatch state.symm.trans ready), fun _ => protocol⟩
    rw [← gathered.single q, protocol]
    exact ⟨fun h => (nomatch h.2), fun h => absurd (mixed q h.1) (by simp [h.2])⟩

end

/-! ## The cursor over the queue -/

section
variable {ρ : Type} (lib : Library) (db : OldDatabase ρ)

/-- The rows when the tasks up to a place in the queue have been given their route. -/
def filled (place : Int) : List (NewTask ρ) :=
  db.tasks.map fun t => { old := t, route := if t.queueSeq ≤ place then backfillTask lib db t else {} }

/-- The cursor moves to the next place that a task has. -/
theorem rowAfter_filled {place : Int} {row : NewTask ρ} (h : rowAfter (filled lib db place) place = some row) :
    row.old ∈ db.tasks ∧ place < row.old.queueSeq ∧ ∀ t ∈ db.tasks, place < t.queueSeq → row.old.queueSeq ≤ t.queueSeq := by
  have mem := Sql.first_mem h
  rw [List.mem_filter, decide_eq_true_eq] at mem
  obtain ⟨t, stored, rfl⟩ := List.mem_map.mp mem.1
  refine ⟨stored, mem.2, fun u waiting later => ?_⟩
  have least := Sql.first_least (fun _ => by simp) (fun _ _ _ => by simp only [decide_eq_false_iff_not]; omega)
    (fun _ _ => by simp only [decide_eq_true_eq, decide_eq_false_iff_not]; omega) h _
    (List.mem_filter.mpr ⟨List.mem_map.mpr ⟨u, waiting, rfl⟩, decide_eq_true later⟩)
  simpa using least

/-- No two tasks have one id or one place in the queue. -/
theorem OldDatabase.apart {a b : OldTask ρ} (ha : a ∈ db.tasks) (hb : b ∈ db.tasks) (ne : a ≠ b) :
    a.id ≠ b.id ∧ a.queueSeq ≠ b.queueSeq := by
  have symm : Std.Symm fun a b : OldTask ρ => a.id ≠ b.id ∧ a.queueSeq ≠ b.queueSeq := ⟨fun _ _ h => ⟨h.1.symm, h.2.symm⟩⟩
  exact db.distinct.forall ha hb ne

/-- An update of the row at the cursor moves the rows on. -/
theorem filled_step {place : Int} {row : NewTask ρ} (h : rowAfter (filled lib db place) place = some row) :
    ((filled lib db place).map fun r => if r.old.id = row.old.id then { r with route := backfillTask lib db row.old } else r)
      = filled lib db row.old.queueSeq := by
  obtain ⟨stored, ahead, least⟩ := rowAfter_filled lib db h
  unfold filled
  rw [List.map_map]
  refine List.map_congr_left fun t mem => ?_
  dsimp only [Function.comp_apply]
  by_cases same : t = row.old
  · rw [if_pos (congrArg OldTask.id same), if_pos (Int.le_of_eq (congrArg OldTask.queueSeq same)), same]
  · obtain ⟨id, seq⟩ := db.apart mem stored same
    -- no task stands between the old place of the cursor and the new one
    have side : t.queueSeq ≤ place ↔ t.queueSeq ≤ row.old.queueSeq := by
      have := least t mem
      omega
    rw [if_neg id]
    simp only [side]

/-- The tasks that the cursor has not reached. -/
def ahead (place : Int) : List (OldTask ρ) := db.tasks.filter fun t => place < t.queueSeq

theorem ahead_step {place : Int} {row : NewTask ρ} (h : rowAfter (filled lib db place) place = some row) :
    (ahead db row.old.queueSeq).length < (ahead db place).length := by
  obtain ⟨stored, later, -⟩ := rowAfter_filled lib db h
  have fewer : ahead db row.old.queueSeq = (ahead db place).filter fun t => row.old.queueSeq < t.queueSeq := by
    unfold ahead
    rw [List.filter_filter]
    refine List.filter_congr fun t _ => ?_
    rw [← Bool.decide_and, decide_eq_decide]
    omega
  rw [fewer, List.length_filter_lt_length_iff_exists]
  exact ⟨row.old, List.mem_filter.mpr ⟨stored, decide_eq_true later⟩, by simp⟩

theorem filled_all {place : Int} (none : ahead db place = []) :
    filled lib db place = db.tasks.map fun t => { old := t, route := backfillTask lib db t } := by
  refine List.map_congr_left fun t mem => ?_
  have reached : ¬ place < t.queueSeq := by simpa using List.filter_eq_nil_iff.mp none t mem
  rw [if_pos (Int.not_lt.mp reached)]

theorem rowAfter_none {place : Int} (h : rowAfter (filled lib db place) place = none) : ahead db place = [] := by
  refine List.filter_eq_nil_iff.mpr fun t mem later => ?_
  have none := List.filter_eq_nil_iff.mp (Sql.first_none.mp h) _ (List.mem_map.mpr ⟨t, mem, rfl⟩)
  exact none later

/-- The loop gives every task its route. -/
theorem backfillTasks_filled (n : Nat) (place : Int) (enough : (ahead db place).length ≤ n) :
    backfillTasks lib db n place (filled lib db place) = db.tasks.map fun t => { old := t, route := backfillTask lib db t } := by
  induction n generalizing place with
  | zero =>
    have none : ahead db place = [] := List.eq_nil_of_length_eq_zero (Nat.le_zero.mp enough)
    exact filled_all lib db none
  | succ n ih =>
    unfold backfillTasks
    cases next : rowAfter (filled lib db place) place with
    | none => exact filled_all lib db (rowAfter_none lib db next)
    | some row =>
      have fewer := ahead_step lib db next
      dsimp only
      rw [filled_step lib db next]
      exact ih row.old.queueSeq (by omega)

end

/-- After the migration every row of `video_tasks` has its earlier columns, and a task that was submitted and is not finished
    leads to the one protocol of all nodes that are involved, or is blocked. -/
theorem migrateV23_keeps_evidence {ρ : Type} [DecidableEq ρ] (lib : Library) (db : OldDatabase ρ) :
    ∃ rows, migrateV23 lib db = .ok rows ∧ rows.map (·.old) = db.tasks
      ∧ ∀ row ∈ rows, row.old.status.isTerminal = false → Submitted lib db row.old → Settled db row.old row.route := by
  have start : (db.tasks.map fun t => ({ old := t } : NewTask ρ)) = filled lib db 0 := by
    refine List.map_congr_left fun t mem => ?_
    rw [if_neg (by have := db.sequence t mem; omega)]
  have rows : backfillTasks lib db db.tasks.length 0 (db.tasks.map fun t => { old := t }) =
      db.tasks.map fun t => { old := t, route := backfillTask lib db t } := by
    rw [start]
    exact backfillTasks_filled lib db _ 0 (List.length_filter_le ..)
  refine ⟨db.tasks.map fun t => { old := t, route := backfillTask lib db t }, ?_, ?_, ?_⟩
  · unfold migrateV23
    rw [rows]
    simp
  · exact (List.map_map ..).trans (List.map_id db.tasks)
  · intro row mem unfinished submitted
    obtain ⟨t, -, rfl⟩ := List.mem_map.mp mem
    exact backfillTask_settled lib db t unfinished submitted

/-- A running task of one node for which a node with another protocol still holds a barrier. -/
def contested : OldDatabase Unit where
  tasks := [{ queueSeq := 1, id := "t", status := .running, node := some "a", others := () }]
  nodes := [{ id := "a", protocol := .h3 }, { id := "b", protocol := .official }]
  stages := []
  attempts := []
  barriers := [{ nodeID := "b", taskID := "t", stageID := "s", attemptID := "x",
                 operationID := "o", cancelOperationID := "c", createdAt := 0, updatedAt := 0 }]
  spool := []
  distinct := List.pairwise_singleton _ _
  sequence := by simp

def contestedLibrary : Library where
  parse _ := none
  trimSpace := id
  toLower := id
  equalFold a b := a == b
  sha256 := id
  size _ := 0
  rel _ path := some path

/-- It is blocked. -/
theorem migrateV23_keeps_evidence_contested :
    ∃ rows, migrateV23 contestedLibrary contested = .ok rows ∧
      rows.map (·.old) = contested.tasks ∧ ∀ row ∈ rows, row.route.state = .migrationBlocked := by
  obtain ⟨rows, migrated, kept, settled⟩ := migrateV23_keeps_evidence contestedLibrary contested
  refine ⟨rows, migrated, kept, fun row mem => ?_⟩
  have isTask : row.old ∈ contested.tasks := kept ▸ List.mem_map_of_mem mem
  have old : row.old = { queueSeq := 1, id := "t", status := .running, node := some "a", others := () } := List.mem_singleton.mp isTask
  have route := settled row mem (by rw [old]; rfl) (.inl (by rw [old]; rfl))
  refine route.ready_or_blocked.resolve_left fun ready => ?_
  obtain ⟨p, leads⟩ := route.ready_protocol ready
  have all := ((route.ready_iff p).mp ⟨ready, leads⟩).2
  rw [old] at all
  have first : some Protocol.h3 = some p := all "a" (by decide)
  have second : some Protocol.official = some p := all "b" (by decide)
  exact nomatch first.trans second.symm

end MinimaxProxy.Migration
