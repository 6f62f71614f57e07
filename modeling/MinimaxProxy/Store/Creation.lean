import MinimaxProxy.Store.ClaimEffects

/-!
# What `Create` stores

One transaction: an unexpired record of the same key answers the request, and otherwise the
task, its stages, its first callback and the record of the key are inserted and the queue is
ranked.
-/

namespace MinimaxProxy.Store
open Sql Sql.Prog

variable {db db' : Database} {input : NewTask} {now : Int} {o : Options}

/-- The deciding columns of a new task. -/
def newCore (taskID apiKeyID : String) (queueSeq : Nat) (protocol : Protocol) (expiresAt : Int) (callback : Bool) : Core where
  taskID := taskID
  apiKeyID := apiKeyID
  queueSeq := queueSeq
  protocol := some protocol
  routeState := .ready
  status := .queuedOpen
  cancelLocked := false
  upstreamID := none
  slot := false
  activeStageID := none
  deliveryRequired := false
  dispatch := none
  originURL := none
  publicURL := none
  resultArtifactID := none
  errorCode := none
  deletedAt := none
  expiresAt := expiresAt
  callback := callback
  version := 0

/-- A stage as it is inserted. -/
structure NewStage (taskID : String) (s : Stage) : Prop where
  named : s.id ≠ ""
  taskID : s.taskID = taskID
  status : s.status = .pending
  attempts : s.attemptCount = 0
  budget : 1 ≤ s.maxAttempts
  unleased : s.leaseToken = none
  input : s.inputArtifactID = none
  output : s.outputArtifactID = none

/-- The record of the key. -/
def newKey (o : Options) (input : NewTask) (keyHash : String) (now : Int) (id : Nat) : IdempotencyKey where
  id := id
  apiKeyID := input.apiKeyID
  keyHash := keyHash
  requestHash := input.requestHash
  taskID := input.taskID
  createdAt := now
  expiresAt := now + o.idempotencyTTL

/-- A file is recorded for the task that it names, or for the new one. -/
def NewFile (taskID : String) (files : List SpoolFile) (f : SpoolFile) : Prop :=
  f.taskID = taskID ∨ f.taskID ≠ "" ∧ ∃ g ∈ files, f.taskID = g.taskID

def creationTables : List Tbl := [.videoTasks, .taskStages, .callbackDeliveries, .taskInputSpoolFiles, .idempotencyKeys]

/-- A new task that names a routing revision was checked against it and against the catalog of a
node that serves it. -/
structure Checked (input : NewTask) (now : Int) (p : Protocol) (doc : SnapshotDoc) (db : Database) : Prop where
  revision : ∃ r rest, db.rows Tbl.routingState = r :: rest ∧ RoutingState.revision r = input.routingRevision
  served : ∃ snapshot, doc = .value snapshot ∧ ∃ id ∈ servingNodes p input.model now db, ∃ cat, (catalogWith id).Returns db cat db ∧
    (cat.items.any fun m => CatalogItem.serves m input.model snapshot.requirements) = true

/-- The route of the stored task. -/
structure Routed (input : NewTask) (now : Int) (row : Task) (db : Database) : Prop where
  model : row.model = input.model
  checked : 0 < input.routingRevision → ∃ p doc, row.protocolVersion = some p ∧
    row.routingSnapshotJSON = some doc ∧ Checked input now p doc db

/-- A new task, with one of the ids. -/
structure Stamped (time : Int) (ids : List String) (t : Task) : Prop where
  taskID : t.taskID ∈ ids
  createdAt : t.createdAt = time
  updatedAt : t.updatedAt = time
  gallery : t.galleryBeforeJSON = none

/-- The rows of a new task; the queue is not ranked yet. -/
structure Inserted (o : Options) (input : NewTask) (keyHash : String) (now : Int) (row : Task) (db mid : Database) : Prop where
  core : ∃ p, row.core = newCore input.taskID input.apiKeyID row.queueSeq p (now + o.retention) input.callbackURLCiphertext.isSome
  owner : row.apiKeyID = input.apiKeyID
  stamped : Stamped now [input.taskID] row
  tasks : mid.tasks = db.tasks ++ [row]
  stages : ∃ new, mid.stages = db.stages ++ new ∧ ∀ s ∈ new, NewStage input.taskID s
  callbacks : ∃ new, mid.callbacks = db.callbacks ++ new ∧ ∀ d ∈ new, d.taskID = input.taskID
  keys : (keyHash = "" ∧ mid.rows Tbl.idempotencyKeys = db.rows Tbl.idempotencyKeys) ∨
    (keyHash ≠ "" ∧ ∃ id, mid.rows Tbl.idempotencyKeys = db.rows Tbl.idempotencyKeys ++ [newKey o input keyHash now id])
  files : ∃ new, mid.rows Tbl.taskInputSpoolFiles = db.rows Tbl.taskInputSpoolFiles ++ new ∧
    ∀ f ∈ new, NewFile input.taskID input.inputSpoolFiles f
  others : ∀ t, t ∉ creationTables → mid.rows t = db.rows t
  routed : Routed input now row db

theorem anyServes_returns {model : String} {r : TaskRequirements} {ids : List String} {b : Bool}
    (out : (anyServes model r ids).Returns db b db') : db' = db ∧ (b = true → ∃ id ∈ ids, ∃ cat, (catalogWith id).Returns db cat db ∧
      (cat.items.any fun m => CatalogItem.serves m model r) = true) := by
  induction ids generalizing b db' with
  | nil =>
    obtain ⟨rfl, rfl⟩ := returns_pure.mp out
    exact ⟨rfl, nofun⟩
  | cons id ids ih =>
    obtain ⟨cat, d1, read, rest⟩ := returns_bind.mp out
    obtain rfl := read.readOnly (writes_catalogWith id)
    obtain ⟨later, d2, others, last⟩ := returns_bind.mp rest
    obtain ⟨rfl, found⟩ := ih others
    obtain ⟨rfl, rfl⟩ := returns_pure.mp last
    refine ⟨rfl, fun serves => ?_⟩
    rcases Bool.or_eq_true_iff.mp serves with here | there
    · exact ⟨id, List.mem_cons_self, cat, read, here⟩
    · obtain ⟨id', listed, rest⟩ := found there
      exact ⟨id', List.mem_cons_of_mem _ listed, rest⟩

theorem prepareTaskRouting_returns {input' : NewTask} (out : (prepareTaskRouting input now).Returns db input' db') :
    db' = db ∧ ∃ p doc n, input' = { input with protocolVersion := some p, routingSnapshotJSON := some doc, requestNormalizer := n } ∧
      (0 < input.routingRevision → Checked input now p doc db) := by
  obtain rfl := out.readOnly writes_prepareTaskRouting
  refine ⟨rfl, ?_⟩
  simp only [prepareTaskRouting, returns_bind, returns_require] at out
  obtain ⟨p, d1, chosen, _, d2, ⟨-, rfl⟩, out⟩ := out
  obtain rfl := chosen.readOnly writes_chooseProtocol
  generalize (if input.requestNormalizer = "" then _ else _) = n at out
  generalize input.routingSnapshotJSON.getD _ = doc at out
  cases doc with
  | unreadable q => exact absurd out returns_fail
  | value snapshot =>
    simp only [returns_bind, returns_require] at out
    obtain ⟨_, d3, ⟨-, rfl⟩, out⟩ := out
    split at out
    · simp only [returns_bind, returns_query, returns_require, returns_select, returns_pure] at out
      obtain ⟨current, d4, ⟨read, rfl⟩, _, d5, ⟨same, rfl⟩, ids, d6, ⟨rfl, rfl⟩, _,
        d7, ⟨-, rfl⟩, eligible, d8, serves, _, d9, ⟨isEligible, rfl⟩, rfl, rfl⟩ := out
      refine ⟨p, .value snapshot, n, rfl, fun _ => ⟨?_, snapshot, rfl, (anyServes_returns serves).2 isEligible⟩⟩
      split at read
      · cases read
      · rename_i row rest rows
        cases read
        exact ⟨row, rest, rows, by simpa using same⟩
    · rename_i unchecked
      simp only [returns_pure] at out
      obtain ⟨rfl, -⟩ := out
      exact ⟨_, _, _, rfl, fun checked => absurd checked unchecked⟩

/-! ## Stages, files and the first callback -/

/-- What is inserted beside the task. -/
def attachLaw (taskID : String) (files : List SpoolFile) : Laws schema
  | .taskStages => .inserts (NewStage taskID)
  | .callbackDeliveries => .inserts (CallbackDelivery.taskID · = taskID)
  | .taskInputSpoolFiles => .inserts (NewFile taskID files)
  | _ => .fixed

section
variable {taskID : String} {files : List SpoolFile} {now : Int}

theorem attachLaw_fixed {t : Tbl} (other : t ∉ creationTables) : attachLaw taskID files t = .fixed := by
  cases t <;> first | rfl | exact absurd (by decide) other

theorem insertStage_keeps_law {s : Stage} : (insertStage taskID now s).Keeps (attachLaw taskID files).Evolves := by
  intro db u db' out
  simp only [insertStage, returns_bind, returns_require, returns_exec, returns_pure] at out
  obtain ⟨_, _, ⟨valid, rfl⟩, _, mid, inserted, -, rfl⟩ := out
  simp only [Bool.not_eq_true', Bool.or_eq_false_iff, beq_eq_false_iff_ne, decide_eq_false_iff_not, not_lt] at valid
  refine obeys_insert (fun _ _ r mem => ?_) _ _ _ inserted
  obtain rfl := List.mem_singleton.mp mem
  exact ⟨valid.1.1, rfl, rfl, rfl, valid.2, rfl, rfl, rfl⟩

theorem writes_insertSpoolFile {validURL : String → Bool} {f : SpoolFile} (listed : f ∈ files) :
    (insertSpoolFile validURL taskID now f).Writes (Obeys (attachLaw taskID files)) := by
  unfold insertSpoolFile
  extract_lets g
  split
  · exact writes_fail
  · refine writes_bind (writes_exec.mpr (obeys_insert fun _ _ r mem => ?_)) fun _ => writes_pure
    obtain rfl := List.mem_singleton.mp mem
    show NewFile taskID files g
    by_cases unnamed : f.taskID = ""
    · exact .inl (if_pos unnamed)
    · have named : g.taskID = f.taskID := if_neg unnamed
      exact .inr ⟨by rwa [named], f, listed, named⟩

end

/-- The task is inserted and routed by two statements. -/
theorem newTask_rows {p : Protocol} {doc : SnapshotDoc} {normalizer : String}
    {mid mid' : Database} {n m : Nat}
    (inserted : (Dml.insert Tbl.videoTasks fun _ seq => [newTask input now (now + o.retention) seq]).apply db = .ok (n, mid))
    (routed : (Dml.update Tbl.videoTasks (fun _ (t : Task) => t.taskID == input.taskID) fun _ (t : Task) =>
      { t with protocolVersion := some p, routeState := .ready, routingSnapshotJSON := some doc
               requestNormalizer := normalizer }).apply mid = .ok (m, mid')) :
    ∃ row : Task, (∃ p, row.core = newCore input.taskID input.apiKeyID
      row.queueSeq p (now + o.retention) input.callbackURLCiphertext.isSome) ∧
      row.apiKeyID = input.apiKeyID ∧ Stamped now [input.taskID] row ∧
        (row.model = input.model ∧ row.protocolVersion = some p ∧ row.routingSnapshotJSON = some doc) ∧
      mid'.tasks = db.tasks ++ [row] ∧ ∀ t, t ≠ .videoTasks → mid'.rows t = db.rows t := by
  refine ⟨{ newTask input now (now + o.retention) ((db Tbl.videoTasks).seq + 1) with
    protocolVersion := some p, routeState := .ready, routingSnapshotJSON := some doc, requestNormalizer := normalizer },
    ⟨p, rfl⟩, rfl, ⟨List.mem_singleton.mpr rfl, rfl, rfl, rfl⟩, ⟨rfl, rfl, rfl⟩, ?_, fun t other => ?_⟩
  · have free := apply_insert_free inserted List.mem_cons_self (tasks_distinct mid)
    obtain ⟨tab, rfl, rows, -⟩ := apply_insert inserted
    obtain ⟨tab', rfl, rows', -⟩ := apply_update routed
    rw [Database.tasks, DB.rows_put_self, rows', DB.rows_put_self, rows, updateRows, List.map_append]
    have kept : ∀ t ∈ db.tasks, t.taskID ≠ input.taskID := by
      intro t mem same
      exact List.find?_eq_none.mp free t mem (by simp [same, newTask])
    congr 1
    · refine (List.map_congr_left fun t mem => ?_).trans (List.map_id _)
      exact if_neg (by simpa using kept t mem)
    · simp [newTask]
  · rw [apply_update_rows_of_ne routed other, apply_insert_rows_of_ne inserted other]

section
variable (o : Options) (validURL : String → Bool) (input : NewTask) (keyHash : String) (now : Int)

/-- The last part of `insertTask`: the record of the key and the queue. -/
def recordTask : Prog Task :=
  if keyHash ≠ "" then do
    let _ ← exec (.insert Tbl.idempotencyKeys fun _ id => [newKey o input keyHash now id])
    rebalance o now
    query (getWith input.apiKeyID input.taskID now)
  else do
    rebalance o now
    query (getWith input.apiKeyID input.taskID now)

/-- The part before it: stages and files. -/
def attachFiles : Prog Task := do
  forEach (insertStage input.taskID now) input.stages
  forEach (insertSpoolFile validURL input.taskID now) input.inputSpoolFiles
  recordTask o input keyHash now

end

section
variable {o : Options} {validURL : String → Bool} {input : NewTask} {keyHash : String} {now : Int} {db db' : Database} {r : Task}

theorem attachFiles_returns (out : (attachFiles o validURL input keyHash now).Returns db r db') :
    ∃ mid, (attachLaw input.taskID input.inputSpoolFiles).Evolves db mid ∧ (recordTask o input keyHash now).Returns mid r db' := by
  obtain ⟨_, staged, stages, out⟩ := returns_bind.mp out
  obtain ⟨_, filed, files, out⟩ := returns_bind.mp out
  refine ⟨filed, Laws.chains.trans (keeps_forEach Laws.chains (fun s _ => insertStage_keeps_law) _ _ _ stages) ?_, out⟩
  exact (writes_forEach fun _ listed => writes_insertSpoolFile listed).evolves files

theorem recordTask_returns (out : (recordTask o input keyHash now).Returns db r db') :
    ∃ mid, (∀ t, t ≠ .idempotencyKeys → mid.rows t = db.rows t) ∧
      ((keyHash = "" ∧ mid.rows Tbl.idempotencyKeys = db.rows Tbl.idempotencyKeys) ∨
        (keyHash ≠ "" ∧ ∃ id, mid.rows Tbl.idempotencyKeys = db.rows Tbl.idempotencyKeys ++ [newKey o input keyHash now id])) ∧
      (rebalance o now).Returns mid () db' ∧ getWith input.apiKeyID input.taskID now db' = .ok r := by
  unfold recordTask at out
  split at out
  · rename_i keyed
    simp only [returns_bind, returns_exec, returns_query] at out
    obtain ⟨_, mid, inserted, _, _, ranked, read, rfl⟩ := out
    refine ⟨mid, fun t other => apply_insert_rows_of_ne inserted other, .inr ⟨keyed, ?_⟩, ranked, read⟩
    obtain ⟨tab, rfl, rows, -⟩ := apply_insert inserted
    exact ⟨_, by rw [DB.rows_put_self]; exact rows⟩
  · rename_i free
    simp only [returns_bind, returns_query] at out
    obtain ⟨_, _, ranked, read, rfl⟩ := out
    exact ⟨db, fun _ _ => rfl, .inl ⟨not_not.mp free, rfl⟩, ranked, read⟩

theorem insertTask_spec (out : (insertTask o validURL input keyHash now).Returns db r db') :
    ∃ row mid, Inserted o input keyHash now row db mid ∧ (rebalance o now).Returns mid () db' ∧
      getWith input.apiKeyID input.taskID now db' = .ok r := by
  simp only [insertTask, returns_bind, returns_exec] at out
  obtain ⟨input', db, prepared, _, mid, inserted, _, routed, isRouted, out⟩ := out
  obtain ⟨rfl, p, doc, n, rfl, checked⟩ := prepareTaskRouting_returns prepared
  obtain ⟨row, core, owner, stamped, ⟨model, protocol, snapshot⟩, tasks, others⟩ := newTask_rows inserted isRouted
  have attached : ∃ mid, (attachLaw input.taskID input.inputSpoolFiles).Evolves routed mid ∧
      (recordTask o input keyHash now).Returns mid r db' := by
    split at out
    · obtain ⟨_, _, required, rest⟩ := returns_bind.mp out
      obtain ⟨-, rfl⟩ := returns_require.mp required
      obtain ⟨_, mid, announced, rest⟩ := returns_bind.mp rest
      obtain ⟨last, evolved, rest⟩ := attachFiles_returns rest
      refine ⟨last, Laws.chains.trans (obeys_insert (fun _ _ d mem => ?_) _ _ _ (returns_exec.mp announced)) evolved, rest⟩
      obtain rfl := List.mem_singleton.mp mem
      rfl
    · exact attachFiles_returns out
  obtain ⟨filed, evolved, out⟩ := attached
  obtain ⟨last, same, keys, ranked, read⟩ := recordTask_returns out
  have fixed (t : Tbl) (rule : attachLaw input.taskID input.inputSpoolFiles t = .fixed) : filed.rows t = routed.rows t := by
    have h := evolved t
    rw [rule] at h
    exact h.eq_of_fixed
  refine ⟨row, last, ⟨core, owner, stamped, ?_, ?_, ?_, ?_, ?_, fun t other => ?_, model,
    fun named => ⟨p, doc, protocol, snapshot, checked named⟩⟩, ranked, read⟩
  · rw [← tasks]
    exact (same .videoTasks (by decide)).trans (fixed .videoTasks rfl)
  · obtain ⟨new, rows, added⟩ := (evolved .taskStages).appends
    exact ⟨new, (same .taskStages (by decide)).trans (rows.trans (by rw [others .taskStages (by decide)]; rfl)), added⟩
  · obtain ⟨new, rows, added⟩ := (evolved .callbackDeliveries).appends
    exact ⟨new, (same .callbackDeliveries (by decide)).trans (rows.trans (by rw [others .callbackDeliveries (by decide)]; rfl)), added⟩
  · have before : filed.rows Tbl.idempotencyKeys = db.rows Tbl.idempotencyKeys :=
      (fixed .idempotencyKeys rfl).trans (others .idempotencyKeys (by decide))
    rwa [before] at keys
  · obtain ⟨new, rows, added⟩ := (evolved .taskInputSpoolFiles).appends
    exact ⟨new, (same .taskInputSpoolFiles (by decide)).trans (rows.trans (by rw [others .taskInputSpoolFiles (by decide)])), added⟩
  · have unlisted : attachLaw input.taskID input.inputSpoolFiles t = .fixed := attachLaw_fixed other
    simp only [creationTables, List.mem_cons, List.not_mem_nil, or_false, not_or] at other
    rw [same t other.2.2.2.2, ← others t other.1]
    exact fixed t unlisted

/-- The limits leave room for one more task of the key. -/
structure Within (o : Options) (apiKeyID : String) (db : Database) : Prop where
  own : ((db.tasks.filter fun t => t.apiKeyID == apiKeyID && t.deletedAt.isNone && t.status.isUnfinished).length : Int) < o.perKeyLimit
  all : ((db.tasks.filter fun t => t.deletedAt.isNone && t.status.isUnfinished).length : Int) < o.globalLimit

theorem returns_checkLimits {owner : String} {u : Unit} (out : (checkLimits o owner).Returns db u db') : Within o owner db ∧ db' = db := by
  simp only [checkLimits, returns_bind, returns_select, returns_require, decide_eq_true_eq] at out
  obtain ⟨_, _, ⟨rfl, rfl⟩, _, _, ⟨own, rfl⟩, _, _, ⟨rfl, rfl⟩, all, rfl⟩ := out
  exact ⟨⟨own, all⟩, rfl⟩

/-- What a successful `Create` has done: it answers from the record of the key, or it drops an
old record and inserts the task. -/
inductive Created (o : Options) (input : NewTask) (keyHash : String) (now : Int) (db : Database) (r : Task) : Database → Prop
  | replayed (k : IdempotencyKey) : keyHash ≠ "" → idempotent input.apiKeyID keyHash now db = some k →
      k.requestHash = input.requestHash → getWith input.apiKeyID k.taskID now db = .ok r → Created o input keyHash now db r db
  | inserted (start mid db' : Database) (row : Task) : Within o input.apiKeyID db →
    (keyHash ≠ "" → idempotent input.apiKeyID keyHash now db = none) →
      start.rows Tbl.idempotencyKeys = (db.rows Tbl.idempotencyKeys).filter
        (fun (k : IdempotencyKey) => keyHash = "" || !(k.apiKeyID == input.apiKeyID && k.keyHash == keyHash)) →
      (∀ t, t ≠ .idempotencyKeys → start.rows t = db.rows t) → Inserted o input keyHash now row start mid →
      (rebalance o now).Returns mid () db' → getWith input.apiKeyID input.taskID now db' = .ok r →
      Created o input keyHash now db r db'

theorem createBody_spec {available : Option Bool} (out : (createBody o validURL input keyHash available now).Returns db r db') :
    Created o input keyHash now db r db' := by
  obtain ⟨replay, seen, looked, rest⟩ := returns_bind.mp out
  have found : seen = db ∧ replay = if keyHash = "" then none else idempotent input.apiKeyID keyHash now db := by
    split at looked
    · rename_i free
      rw [if_pos free]
      exact (returns_pure.mp looked).symm
    · rename_i keyed
      rw [if_neg keyed]
      exact (returns_select.mp looked).symm
  clear out looked
  obtain ⟨rfl, isReplay⟩ := found
  cases replay with
  | some k =>
    simp only [returns_bind, returns_require, returns_query, beq_iff_eq] at rest
    obtain ⟨_, _, ⟨same, rfl⟩, read, rfl⟩ := rest
    split at isReplay
    · cases isReplay
    · rename_i keyed
      exact .replayed k keyed isReplay.symm same read
  | none =>
    obtain ⟨_, db, required, body⟩ := returns_bind.mp rest
    obtain ⟨-, rfl⟩ := returns_require.mp required
    have fresh : keyHash ≠ "" → idempotent input.apiKeyID keyHash now db = none := fun keyed => by
      rw [if_neg keyed] at isReplay
      exact isReplay.symm
    dsimp only at body
    split at body
    · rename_i keyed
      obtain ⟨_, _, deleted, rest⟩ := returns_bind.mp body
      obtain ⟨_, start, checked, last⟩ := returns_bind.mp rest
      obtain ⟨room, rfl⟩ := returns_checkLimits checked
      obtain ⟨row, mid, inserted, ranked, read⟩ := insertTask_spec last
      have tasks : Database.tasks start = Database.tasks db :=
        delete_others (returns_exec.mp deleted) (by decide) (show Tbl.videoTasks ≠ .idempotencyKeys by decide)
      refine .inserted start mid db' row ⟨tasks ▸ room.own, tasks ▸ room.all⟩ fresh ?_ (fun t other => ?_) inserted ranked read
      · rw [delete_rows (returns_exec.mp deleted)]
        simp [keyed]
      · exact delete_others (returns_exec.mp deleted) (by decide) other
    · rename_i free
      obtain ⟨_, db, checked, last⟩ := returns_bind.mp body
      obtain ⟨room, rfl⟩ := returns_checkLimits checked
      obtain ⟨row, mid, inserted, ranked, read⟩ := insertTask_spec last
      refine .inserted db mid db' row room fresh ?_ (fun _ _ => rfl) inserted ranked read
      simp [not_not.mp free]

end

/-- A task is inserted only where the limits have room. -/
theorem Created.within {keyHash : String} {r : Task}
    (created : Created o input keyHash now db r db') : db' = db ∨ Within o input.apiKeyID db := by
  cases created with
  | replayed => exact .inl rfl
  | inserted start mid _ row within => exact .inr within

def createEffect (taskID apiKeyID : String) : Effect where
  kinds := [.rank]
  tables := [.taskStages, .callbackDeliveries, .taskInputSpoolFiles, .idempotencyKeys]
  fresh c := ∃ queueSeq protocol expiresAt callback, c = newCore taskID apiKeyID queueSeq protocol expiresAt callback

theorem Created.evolves {keyHash : String} {r : Task}
    (created : Created o input keyHash now db r db') : (createEffect input.taskID input.apiKeyID).law.Evolves db db' := by
  cases created with
  | replayed => exact Laws.chains.refl db
  | inserted start mid _ row _ _ _ same inserted ranked _ =>
    refine Laws.chains.trans (Effect.evolves_of ?_ fun t isTasks unlisted => ?_) (evolves_rebalance (by simp [createEffect]) ranked)
    · have rows : mid.tasks = db.tasks ++ [row] := inserted.tasks.trans (by rw [Database.tasks, same .videoTasks (by decide)]; rfl)
      rw [rows]
      refine .single (.insert _ fun t mem => ?_)
      rw [List.mem_singleton.mp mem]
      obtain ⟨p, core⟩ := inserted.core
      exact ⟨_, p, _, _, core⟩
    · have unlisted : t ∉ creationTables := by
        intro listed
        rcases List.mem_cons.mp listed with first | rest
        · exact isTasks first
        · exact unlisted rest
      rw [inserted.others t unlisted]
      refine same t fun keys => unlisted ?_
      rw [keys]
      decide

theorem create_evolves (o : Options) (validURL : String → Bool) (input : NewTask) (keyHash : String) (available : Option Bool)
    (now : Int) (faults : Faults Err) (n : Nat) (db : Database) :
    (createEffect input.taskID input.apiKeyID).law.Evolves db (create o validURL input keyHash available now faults n db).db := by
  rcases immediate_effect (createBody o validURL input keyHash available (unix now)) faults with same | ⟨r, out⟩
  · rw [create, same]
    exact Laws.chains.refl db
  · exact (createBody_spec out).evolves

end MinimaxProxy.Store
