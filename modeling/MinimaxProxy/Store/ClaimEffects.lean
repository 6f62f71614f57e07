import MinimaxProxy.Store.ClaimLaw
import MinimaxProxy.Store.OfficialMoves
import MinimaxProxy.Store.WorkEffects

/-!
# What the claims change

A claim writes the row of one waiting task of the node's protocol, and ranks the queue again.
-/

namespace MinimaxProxy.Store
open Sql Sql.Prog

variable {admission : List Admission} {faults : Faults Err} {n : Nat} {nodeVersion : Int}

variable {capacity now : Int} {claim : Task → Task} {db db' : Database} {nodeID : String} {o : Options} {r t : Task}

section
variable {e : Effect}

/-- An UPDATE of tasks of one database. -/
theorem evolves_tasks {sel : Database → Task → Bool} {set : Database → Task → Task}
    (applied : (Dml.update Tbl.videoTasks sel set).apply db = .ok (n, db'))
    (h : ∀ t ∈ db.tasks, sel db t = true → e.moves t (set db t)) : e.law.Evolves db db' := by
  obtain ⟨tab, rfl, rows, -⟩ := apply_update applied
  refine .of_put (rows ▸ .single (.update _ fun t mem => ?_))
  by_cases hit : sel db t = true
  · exact .inr (by rw [if_pos hit]; exact h t mem hit)
  · exact .inl (if_neg hit)

theorem evolves_rebalance (mem : .rank ∈ e.kinds) {u : Unit}
    (out : (rebalance o now).Returns db u db') : e.law.Evolves db db' := (writes_rebalance mem).evolves out

end

/-- `claim` is written into the row of the waiting task `t`. -/
structure Takes (claim : Task → Task) (t : Task) (db mid : Database) : Prop where
  stored : t ∈ db.tasks
  waits : Waiting t = true
  rows : mid.tasks = updateRows (·.taskID == t.taskID) claim db.tasks
  others : ∀ tbl, tbl ≠ .videoTasks → mid.rows tbl = db.rows tbl

/-- The row that the statement of a claim can hit is the one that was selected. -/
theorem Takes.of_applied {mid : Database} {p : Task → Bool} (stored : t ∈ db.tasks) (waits : Waiting t = true) (meets : p t = true)
    (applied : (Dml.update Tbl.videoTasks (fun _ (u : Task) => u.taskID == t.taskID && p u) fun _ u => claim u).apply db
      = .ok (n, mid)) : Takes claim t db mid := by
  refine ⟨stored, waits, ?_, fun tbl other => apply_update_rows_of_ne applied other⟩
  obtain ⟨tab, rfl, rows, -⟩ := apply_update applied
  rw [Database.tasks, DB.rows_put_self, rows]
  refine List.map_congr_left fun u mem => ?_
  by_cases same : u.taskID = t.taskID
  · obtain rfl : u = t := task_unique mem stored same
    simp [meets]
  · simp [same]

/-- What a claim changes, if its change of `t` is of the kind. -/
theorem Takes.evolves {e : Effect} {mid : Database} {k : Kind}
    (takes : Takes claim t db mid) (mem : k ∈ e.kinds) (move : CoreMove t.core k (claim t).core) :
    e.law.Evolves db mid := by
  intro tbl
  by_cases tasks : tbl = .videoTasks
  · subst tasks
    have rows : mid.rows .videoTasks = updateRows (·.taskID == t.taskID) claim (db.rows .videoTasks) := takes.rows
    rw [rows]
    refine .single (.update _ fun u stored => ?_)
    by_cases same : u.taskID = t.taskID
    · obtain rfl : u = t := task_unique stored takes.stored same
      exact .inr (by rw [if_pos (by simp)]; exact fun _ => ⟨k, mem, move⟩)
    · exact .inl (by rw [if_neg (by simp [same])])
  · rw [takes.others tbl tasks]
    exact .refl

/-- A successful claim by the scan of the queue. -/
theorem takeTask_takes (out : (takeTask o nodeID now claim).Returns db r db') :
    ∃ t mid, Takes claim t db mid ∧ accepts db nodeID now t = .ok true ∧ (rebalance o now).Returns mid () db' ∧
      getWith t.apiKeyID t.taskID now db' = .ok r := by
  simp only [takeTask, returns_bind, returns_query, returns_exec, returns_oneRow] at out
  obtain ⟨t, db, scan, _, mid, claimed, _, mid', ⟨rfl, rfl⟩, _, mid'', ranked, read', rfl⟩ := out
  obtain ⟨stored, waits, verdict⟩ := nextEligibleTask_returns scan
  obtain rfl := scan.readOnly (writes_nextEligibleTask nodeID now)
  exact ⟨t, mid', .of_applied stored waits (p := fun u => u.status == t.status) (by simp) claimed, verdict, ranked, read'⟩

theorem waiting_spec (waits : Waiting t = true) :
    t.deletedAt = none ∧ t.routeState = .ready ∧ t.status.isQueued = true := by
  simp only [Waiting, Bool.and_eq_true, Option.isNone_iff_eq_none, beq_iff_eq] at waits
  exact ⟨waits.1.1, waits.1.2, waits.2⟩

/-! ## Legacy nodes -/

def claimNextEffect : Effect := { kinds := [.claimLegacy, .rank] }

/-- A worker claims for the version of the node it was started with, a legacy one. -/
theorem claimNext_evolves {upstreamID : String} {version : Int}
    (legacy : ∀ m ∈ db.nodes, m.id = upstreamID → m.version = version → m.protocolVersion = .legacy) :
    claimNextEffect.law.Evolves db (claimNext o upstreamID (some version) now faults n db).db := by
  rcases immediate_effect (claimNextBody o upstreamID (some version) (unix now)) faults with same | ⟨r, out⟩
  · rw [claimNext, same]
    exact Laws.chains.refl db
  rw [claimNext]
  generalize (immediate (claimNextBody o upstreamID (some version) (unix now)) faults n db).db = db' at out
  simp only [claimNextBody, returns_bind, returns_select, returns_require] at out
  obtain ⟨_, db, ⟨rfl, rfl⟩, _, db, ⟨current, rfl⟩, _, db, ⟨-, rfl⟩, _, db, ⟨-, rfl⟩, out⟩ := out
  obtain ⟨t, mid, takes, verdict, ranked, -⟩ := takeTask_takes out
  obtain ⟨m, stored, id, isVersion, enabled, undeleted⟩ := (QueueClaim.current_iff db upstreamID version).mp (beq_iff_eq.mp current)
  obtain ⟨undeleted', ready, queued⟩ := waiting_spec takes.waits
  have protocol := accepted_protocol verdict stored id undeleted
  rw [legacy m stored id isVersion] at protocol
  exact Laws.chains.trans (takes.evolves (k := .claimLegacy) (by decide) (.claimLegacy upstreamID undeleted' ready protocol queued))
    (evolves_rebalance (by decide) ranked)

/-! ## Nodes with slots -/

/-- The node of a claim: it is in use, of the protocol, and has a slot left. -/
structure Offers (p : Protocol) (node : Node) (db : Database) : Prop where
  stored : node ∈ db.nodes
  protocol : node.protocolVersion = p

theorem Offers.named {p : Protocol} {node : Node} (offers : Offers p node db) : node.id ≠ "" := by
  intro empty
  have checked : Node.check node = true := (db Tbl.modelServiceNodes).checked node offers.stored
  simp [Node.check, empty] at checked

/-- A successful claim of an official node. -/
theorem claimNextOfficial_takes (out : (claimNextOfficialBody o nodeID nodeVersion capacity now).Returns db r db') :
    ∃ node t mid, Offers .official node db ∧ node.id = nodeID ∧ t.protocolVersion = some .official ∧
      Takes (officialClaimedTask node now) t db mid ∧ (rebalance o now).Returns mid () db' := by
  simp only [claimNextOfficialBody, returns_bind, returns_query, returns_select, returns_require] at out
  obtain ⟨node, db, ⟨isNode, rfl⟩, _, db, ⟨rfl, rfl⟩, _, db, ⟨-, rfl⟩, out⟩ := out
  obtain ⟨t, mid, takes, verdict, ranked, -⟩ := takeTask_takes out
  obtain ⟨stored, matched⟩ : node ∈ Database.nodes db ∧ _ := found_spec isNode
  simp only [Bool.and_eq_true, beq_iff_eq, Option.isNone_iff_eq_none] at matched
  obtain ⟨⟨⟨⟨id, -⟩, -⟩, undeleted⟩, official⟩ := matched
  have protocol := accepted_protocol verdict stored id undeleted
  exact ⟨node, t, mid, ⟨stored, official⟩, id, official ▸ protocol, takes, ranked⟩

def claimNextOfficialEffect : Effect := { kinds := [.claimOfficial, .rank] }

theorem claimNextOfficial_evolves :
    claimNextOfficialEffect.law.Evolves db (claimNextOfficial o nodeID nodeVersion capacity now faults n db).db := by
  rw [claimNextOfficial]
  split
  · exact Laws.chains.refl db
  rcases immediate_effect (claimNextOfficialBody o nodeID nodeVersion capacity (unix now)) faults with same | ⟨r, out⟩
  · rw [same]
    exact Laws.chains.refl db
  obtain ⟨node, t, mid, offers, -, protocol, takes, ranked⟩ := claimNextOfficial_takes out
  obtain ⟨undeleted, ready, queued⟩ := waiting_spec takes.waits
  refine Laws.chains.trans (takes.evolves (k := .claimOfficial) (by decide) ?_) (evolves_rebalance (by decide) ranked)
  have move := CoreMove.claimOfficial (c := t.core) node (if node.legacyModelCompat then node.upstreamModel else t.model)
    undeleted ready protocol queued offers.protocol offers.named
  rwa [dispatchOf, offers.protocol] at move

/-- A successful claim of a remote node. -/
theorem claimNextRemote_takes (out : (claimNextRemoteBody o nodeID nodeVersion capacity admission now).Returns db r db') :
    ∃ node t mid, Offers .tk2sd node db ∧ node.id = nodeID ∧ t.protocolVersion = some .tk2sd ∧
      (∃ room, (admissionRoom nodeID (min capacity node.maxConcurrency) admission).Returns db room db ∧
        ((slotHolders nodeID db).length : Int) < room) ∧
      Takes (remoteClaimedTask node now) t db mid ∧ ∃ run : RemoteRun, ∃ mid' : Database, ∃ n,
        (Dml.insert Tbl.taskRemoteRuns fun _ _ => [run]).apply mid = .ok (n, mid') ∧ (rebalance o now).Returns mid' () db' := by
  simp only [claimNextRemoteBody, returns_bind, returns_query, returns_select, returns_require, returns_exec, returns_oneRow] at out
  obtain ⟨node, db, ⟨isNode, rfl⟩, _, db, ⟨rfl, rfl⟩, _, mid, admitted, out⟩ := out
  obtain rfl := admitted.readOnly writes_admissionRoom
  obtain ⟨_, db, ⟨room, rfl⟩, t, db, ⟨isNext, rfl⟩, _, db, ⟨-, rfl⟩, key, db, ⟨-, rfl⟩, out⟩ := out
  obtain ⟨_, db, ⟨-, rfl⟩, _, _, claimed, _, held, ⟨rfl, rfl⟩, _, mid, inserted, _, db', ranked, -, rfl⟩ := out
  obtain ⟨stored, claimable⟩ : t ∈ Database.tasks db ∧ remoteClaimable nodeID _ now db t = true := found_spec isNext
  obtain ⟨isStored, matched⟩ : node ∈ Database.nodes db ∧ _ := found_spec isNode
  simp only [Bool.and_eq_true, beq_iff_eq, Option.isNone_iff_eq_none] at matched
  obtain ⟨⟨⟨⟨id, -⟩, -⟩, -⟩, tk2sd⟩ := matched
  simp only [remoteClaimable, Bool.and_eq_true, beq_iff_eq] at claimable
  have waits : Waiting t = true := claimable.1.1.1.1.1.2
  exact ⟨node, t, held, ⟨isStored, tk2sd⟩, id, claimable.1.1.1.1.1.1, ⟨_, admitted, of_decide_eq_true room⟩,
    .of_applied stored waits (p := fun r => r.status.isQueued) (waiting_spec waits).2.2 claimed, _, mid, _, inserted, ranked⟩

def claimNextRemoteEffect : Effect := { kinds := [.claimRemote, .rank], tables := [.taskRemoteRuns] }

theorem claimNextRemote_evolves :
    claimNextRemoteEffect.law.Evolves db (claimNextRemote o nodeID nodeVersion capacity admission now faults n db).db := by
  rw [claimNextRemote]
  split
  · exact Laws.chains.refl db
  rcases immediate_effect (claimNextRemoteBody o nodeID nodeVersion capacity admission (unix now)) faults with same | ⟨r, out⟩
  · rw [same]
    exact Laws.chains.refl db
  obtain ⟨node, t, mid, offers, -, protocol, -, takes, run, mid', _, inserted, ranked⟩ := claimNextRemote_takes out
  obtain ⟨undeleted, ready, queued⟩ := waiting_spec takes.waits
  have recorded : claimNextRemoteEffect.law.Evolves mid mid' :=
    effect_table (by simp [claimNextRemoteEffect]) _ _ _ inserted
  refine Laws.chains.trans (takes.evolves (k := .claimRemote) (by decide) ?_)
    (Laws.chains.trans recorded (evolves_rebalance (by decide) ranked))
  have move := CoreMove.claimRemote (c := t.core) node t.model undeleted ready protocol queued offers.protocol offers.named
  rwa [dispatchOf, offers.protocol] at move

end MinimaxProxy.Store
