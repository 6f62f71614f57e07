import MinimaxProxy.Store.QueueScan
import MinimaxProxy.Store.TaskRows
import MinimaxProxy.Store.Tasks
import MinimaxProxy.Store.Official

/-!
# The claim law of the shared queue

`ClaimNext` and `ClaimNextOfficial` should take the first task that the node accepts and that
has not expired. The scan does not look at `expires_at`; the row is read back with it. So an
accepted task that has expired makes the call fail, and with it every task behind it
(`QueueClaim.law_iff`).
-/

namespace MinimaxProxy.Store
open Sql Sql.Prog

variable {c : QueueClaim} {db : Database} {nodeID : String} {now : Int} {o : Options} {s t : Task}

/-! ## Taking the selected task -/

/-- What a claim may change in the row it takes. -/
structure Claims (nodeID : String) (claim : Task → Task) : Prop where
  replaces : ∀ t, Replaces t (claim t)
  owner : ∀ t, (claim t).apiKeyID = t.apiKeyID
  expires : ∀ t, (claim t).expiresAt = t.expiresAt
  deleted : ∀ t, (claim t).deletedAt = t.deletedAt
  feedback : ∀ t, (claim t).upstreamFeedbackJSON = t.upstreamFeedbackJSON
  status : ∀ t, (claim t).status = .dispatching
  upstream : ∀ t, (claim t).upstreamID = some nodeID

theorem claimedTask_claims : Claims nodeID (claimedTask nodeID now) where
  replaces _ := .of_columns rfl rfl (fun _ h => h) ⟨rfl, rfl, rfl, rfl⟩ rfl ⟨rfl, rfl, rfl⟩
  owner _ := rfl
  expires _ := rfl
  deleted _ := rfl
  feedback _ := rfl
  status _ := rfl
  upstream _ := rfl

theorem officialClaimedTask_claims {node : Node} (checked : node.check = true) :
    Claims node.id (officialClaimedTask node now) where
  replaces t := by
    refine .of_columns rfl rfl (fun seq h => ?_) ⟨rfl, rfl, rfl, rfl⟩ rfl ⟨rfl, rfl, rfl⟩
    have version : 0 ≤ node.version := by
      simp only [Node.check, Bool.and_eq_true, decide_eq_true_eq] at checked
      omega
    simp only [Task.check, Bool.and_eq_true] at h ⊢
    exact ⟨⟨h.1.1, decide_eq_true version⟩, h.2⟩
  owner _ := rfl
  expires _ := rfl
  deleted _ := rfl
  feedback _ := rfl
  status _ := rfl
  upstream _ := rfl

/-- `r` is the row in which the node holds `t`, and no other task changed hands. -/
structure Taken (nodeID : String) (db : Database) (t r : Task) (db' : Database) : Prop where
  stored : r ∈ db'.tasks
  taskID : r.taskID = t.taskID
  status : r.status = .dispatching
  upstream : r.upstreamID = some nodeID
  others : ∀ u ∈ db'.tasks, u.taskID ≠ t.taskID → ∃ v ∈ db.tasks, SameHolder v u

/-- The claim's UPDATE hits the selected row and no other. -/
theorem claim_eval {claim : Task → Task} (claims : Claims nodeID claim) (stored : s ∈ db.tasks) :
    ∃ db' : Database, (exec (.update Tbl.videoTasks (fun _ (t : Task) => t.taskID == s.taskID && t.status == s.status)
        fun _ t => claim t) : Prog Nat).eval db = (.ok 1, db') ∧ Taken nodeID db s (claim s) db' := by
  obtain ⟨db', out, rows⟩ := updateTasks_eval (fun _ (t : Task) => t.taskID == s.taskID && t.status == s.status)
    (fun _ t => claim t) db fun t _ => claims.replaces t
  have hit : db.tasks.filter (fun t => t.taskID == s.taskID && t.status == s.status) = [s] := by
    rw [filter_of_key (tasks_distinct db) stored fun t _ h => by simp at h; exact h.1]
    simp
  rw [hit] at out
  refine ⟨db', out, ?_, (claims.replaces s).taskID, claims.status s, claims.upstream s, fun u hu other => ?_⟩
  · rw [rows]
    exact List.mem_map.mpr ⟨s, stored, by simp⟩
  · rw [rows] at hu
    obtain ⟨v, hv, rfl⟩ := List.mem_map.mp hu
    refine ⟨v, hv, ?_⟩
    by_cases same : (v.taskID == s.taskID && v.status == s.status) = true
    · rw [if_pos same, (claims.replaces v).taskID] at other
      simp only [Bool.and_eq_true, beq_iff_eq] at same
      exact absurd same.1 other
    · rw [if_neg same]
      exact ⟨rfl, rfl, .inl rfl⟩

theorem Taken.rebalanced {mid : Database} {r : Task} (taken : Taken nodeID db t r mid) (o : Options)
    (now : Int) : ∃ db' : Database, (rebalance o now).eval mid = (.ok (), db') ∧ Taken nodeID db t r db' := by
  obtain ⟨db', f, out, rows, same, kept⟩ := rebalance_eval o now mid
  refine ⟨db', out, ?_, taken.taskID, taken.status, taken.upstream, fun u hu other => ?_⟩
  · rw [rows]
    exact List.mem_map.mpr ⟨r, taken.stored, kept r (by rw [taken.status]; rfl)⟩
  · rw [rows] at hu
    obtain ⟨w, hw, rfl⟩ := List.mem_map.mp hu
    obtain ⟨v, hv, held⟩ := taken.others w hw (by rwa [(same w).taskID])
    refine ⟨v, hv, held.taskID.trans (same w).taskID, held.upstream.trans (same w).upstream, ?_⟩
    rcases held.status with h | h <;> rcases (same w).status with h' | h'
    · exact .inl (h.trans h')
    · exact .inr ⟨h ▸ h'.1, h'.2⟩
    · exact .inr ⟨h.1, h' ▸ h.2⟩
    · exact .inr ⟨h.1, h'.2⟩

/-- Once a task is selected, the claim succeeds unless the task has expired. -/
theorem takeTask_eval (o : Options) {claim : Task → Task}
    (claims : Claims nodeID claim) (selected : ((nextEligibleTask nodeID now).eval db).1 = .ok s) (mem : s ∈ waiting db)
    (readable : Readable s) :
    ∃ db' : Database, (takeTask o nodeID now claim).eval db =
        (if now < s.expiresAt then .ok (claim s) else .error .taskNotFound, db') ∧ Taken nodeID db s (claim s) db' := by
  obtain ⟨stored, isWaiting⟩ := List.mem_filter.mp mem
  have undeleted : s.deletedAt.isNone = true := by
    simp only [Waiting, Bool.and_eq_true] at isWaiting
    exact isWaiting.1.1
  have scan := eval_readOnly (writes_nextEligibleTask nodeID now) db
  rw [selected] at scan
  obtain ⟨mid, out, held⟩ := claim_eval claims stored
  obtain ⟨db', balanced, taken⟩ := held.rebalanced o now
  have one : (oneRow 1).eval mid = (.ok (), mid) := rfl
  refine ⟨db', ?_, taken⟩
  rw [takeTask, eval_bind_ok scan, eval_bind_ok out, eval_bind_ok one, eval_bind_ok balanced, eval_query]
  -- The row is read back by its id, its owner and its expiry.
  have found := find_of_key (tasks_distinct db') taken.stored (p := fun t => t.taskID == s.taskID && t.apiKeyID == s.apiKeyID
    && t.deletedAt.isNone && decide (t.expiresAt > now)) fun t _ h => by
      simp at h
      rw [taken.taskID, h.1.1.1]
  have scanned : scanTask (claim s) = .ok (claim s) := by
    simp only [Readable, scanTask, claims.feedback] at readable ⊢
    split at readable
    · cases readable
    · rfl
  simp only [getWith, found, taken.taskID, claims.owner, claims.deleted, claims.expires, undeleted]
  by_cases live : now < s.expiresAt
  · simp [live, scanned]
  · simp [live]

/-! ## The law -/

/-- A call of `ClaimNext` (the node version is optional: an upstream of the static
configuration has no node row) or of `ClaimNextOfficial`. -/
inductive QueueClaim
  | next (upstreamID : String) (expectedVersion : Option Int)
  | official (nodeID : String) (nodeVersion capacity : Int)

namespace QueueClaim

def node : QueueClaim → String
  | next upstreamID _ => upstreamID
  | official nodeID _ _ => nodeID

def call (o : Options) (now : Int) : QueueClaim → Call Task
  | next upstreamID expectedVersion => claimNext o upstreamID expectedVersion now
  | official nodeID nodeVersion capacity => claimNextOfficial o nodeID nodeVersion capacity now

/-- The node is enabled, has the version named, and has free capacity. -/
def Ready (db : Database) : QueueClaim → Prop
  | next upstreamID expectedVersion =>
    (∀ v, expectedVersion = some v →
      ∃ n ∈ db.nodes, n.id = upstreamID ∧ n.version = v ∧ n.enabled = true ∧ n.deletedAt = none) ∧
    ∀ t ∈ db.tasks, t.upstreamID = some upstreamID → t.status.isTaken = false
  | official nodeID nodeVersion capacity =>
    ∃ n ∈ db.nodes, (n.id = nodeID ∧ n.version = nodeVersion ∧ n.enabled = true ∧ n.deletedAt = none ∧
        n.protocolVersion = .official) ∧
      1 ≤ capacity ∧ ((db.tasks.filter fun t => t.upstreamID == some nodeID && t.upstreamSlotActive).length : Int) <
        min capacity n.maxConcurrency

end QueueClaim

/-- A waiting task that has not expired and that the node accepts. -/
structure Claimable (db : Database) (nodeID : String) (now : Int) (t : Task) : Prop where
  waiting : t ∈ waiting db
  unexpired : now < t.expiresAt
  accepted : accepts db nodeID now t = .ok true

structure FirstClaimable (db : Database) (nodeID : String) (now : Int) (t : Task) : Prop where
  claimable : Claimable db nodeID now t
  least : ∀ u, Claimable db nodeID now u → t.queueSeq ≤ u.queueSeq

/-- Every waiting task before `t` is refused, without an error, and the rows on the pages of
the queue up to `t` decode. -/
structure Unblocked (db : Database) (nodeID : String) (now : Int) (t : Task) : Prop where
  refused : ∀ u ∈ waiting db, u.queueSeq < t.queueSeq → accepts db nodeID now u = .ok false
  readable : ∀ u ∈ pagesTo ((waiting db).countP (·.queueSeq < t.queueSeq)) (waiting db), Readable u

/-- The call takes the first claimable task of a node that is ready; otherwise it returns an
error and changes nothing. -/
structure QueueClaim.Law (o : Options) (now : Int) (db : Database) (c : QueueClaim) : Prop where
  takes : ∀ t, c.Ready db → FirstClaimable db c.node (unix now) t →
    ∃ r, (c.call o now noFaults 0 db).result = .ok r ∧ Taken c.node db t r (c.call o now noFaults 0 db).db
  refuses : ¬ (c.Ready db ∧ ∃ t, Claimable db c.node (unix now) t) →
    ∃ e, (c.call o now noFaults 0 db).result = .error e ∧ (c.call o now noFaults 0 db).db = db

/-- The waiting tasks in front of one of them are those with a smaller `queue_seq`. -/
theorem waiting_split {before after : List Task} (whole : waiting db = before ++ t :: after) :
    before.length = (waiting db).countP (·.queueSeq < t.queueSeq) ∧
      ∀ u, u ∈ before ↔ u ∈ waiting db ∧ u.queueSeq < t.queueSeq := by
  have sorted := waiting_sorted db
  rw [whole, List.pairwise_append, List.pairwise_cons] at sorted
  obtain ⟨_, ⟨later, _⟩, across⟩ := sorted
  have earlier (u : Task) (hu : u ∈ before) : u.queueSeq < t.queueSeq := across u hu t List.mem_cons_self
  have notEarlier (u : Task) (hu : u ∈ t :: after) : ¬ u.queueSeq < t.queueSeq := by
    rcases List.mem_cons.mp hu with rfl | hu
    · exact Nat.lt_irrefl _
    · exact Nat.lt_asymm (later u hu)
  refine ⟨?_, fun u => ⟨fun hu => ⟨by rw [whole]; exact List.mem_append_left _ hu, earlier u hu⟩, ?_⟩⟩
  · rw [whole, List.countP_append, List.countP_eq_length.mpr fun u hu => decide_eq_true (earlier u hu),
      List.countP_eq_zero.mpr fun u hu => by simpa using notEarlier u hu]
    rfl
  · rintro ⟨hu, less⟩
    rw [whole] at hu
    rcases List.mem_append.mp hu with hu | hu
    · exact hu
    · exact absurd less (notEarlier u hu)

/-- The scan finds an accepted task exactly when nothing before it is in the way. -/
theorem selects_iff (mem : t ∈ waiting db) (accepted : accepts db nodeID now t = .ok true) :
    ((nextEligibleTask nodeID now).eval db).1 = .ok t ↔ Unblocked db nodeID now t := by
  rw [nextEligibleTask_eval]
  constructor
  · rintro ⟨before, after, whole, reached, readable⟩
    obtain ⟨count, earlier⟩ := waiting_split whole
    exact ⟨fun u hu less => reached.refused u ((earlier u).mpr ⟨hu, less⟩), count ▸ readable⟩
  · intro unblocked
    obtain ⟨before, after, whole⟩ := List.append_of_mem mem
    obtain ⟨count, earlier⟩ := waiting_split whole
    refine ⟨before, after, whole, ⟨fun u hu => ?_, accepted⟩, count ▸ unblocked.readable⟩
    obtain ⟨hu, less⟩ := (earlier u).mp hu
    exact unblocked.refused u hu less

/-- What the scan returns waits, is accepted and decodes. -/
theorem selected_spec (selected : ((nextEligibleTask nodeID now).eval db).1 = .ok s) :
    s ∈ waiting db ∧ accepts db nodeID now s = .ok true ∧ Readable s := by
  obtain ⟨before, after, whole, reached, readable⟩ := (nextEligibleTask_eval).mp selected
  refine ⟨by rw [whole]; simp, reached.accepted, readable s ?_⟩
  rw [pagesTo, whole, List.take_append, List.mem_append, List.mem_take_iff_getElem]
  refine .inr ((List.mem_take_iff_getElem).mpr ⟨0, ?_, rfl⟩)
  simp only [List.length_cons]
  omega

/-! ## The guards of the two calls -/

theorem eval_require_bind {α : Type} {c : Bool} {e : Err} (f : Unit → Prog α) :
    (require c e >>= f).eval db = if c = true then (f ()).eval db else (.error e, db) := by
  cases c <;> rfl

namespace QueueClaim

/-- The count of rows of a node, as `ClaimNext` reads it. -/
theorem current_iff (db : Database) (nodeID : String) (v : Int) :
    (db.nodes.filter fun n => n.id == nodeID && n.version == v && n.enabled && n.deletedAt.isNone).length = 1 ↔
      ∃ n ∈ db.nodes, n.id = nodeID ∧ n.version = v ∧ n.enabled = true ∧ n.deletedAt = none := by
  constructor
  · intro one
    obtain ⟨n, only⟩ := List.length_eq_one_iff.mp one
    have mem : n ∈ db.nodes.filter _ := only ▸ List.mem_singleton_self n
    obtain ⟨stored, h⟩ := List.mem_filter.mp mem
    simp only [Bool.and_eq_true, beq_iff_eq, Option.isNone_iff_eq_none] at h
    exact ⟨n, stored, h.1.1.1, h.1.1.2, h.1.2, h.2⟩
  · rintro ⟨n, stored, rfl, rfl, enabled, undeleted⟩
    rw [filter_of_key (nodes_distinct db) stored fun m _ h => by simp at h; exact h.1.1.1]
    simp [enabled, undeleted]

/-- The capacity check of `ClaimNext`: no task is held on the upstream. -/
theorem free_iff (db : Database) (upstreamID : String) :
    (db.tasks.filter fun t => t.upstreamID == some upstreamID && t.status.isTaken).length = 0 ↔
      ∀ t ∈ db.tasks, t.upstreamID = some upstreamID → t.status.isTaken = false := by
  simp [List.length_eq_zero_iff, List.filter_eq_nil_iff]

theorem claimNextBody_unversioned {upstreamID : String} : (claimNextBody o upstreamID none now).eval db =
      if ∀ t ∈ db.tasks, t.upstreamID = some upstreamID → t.status.isTaken = false then
        (takeTask o upstreamID now (claimedTask upstreamID now)).eval db
      else (.error .upstreamBusy, db) := by
  have body : (claimNextBody o upstreamID none now).eval db =
      if (_ == 0) = true then (takeTask o upstreamID now (claimedTask upstreamID now)).eval db
      else (.error .upstreamBusy, db) := eval_require_bind _
  simpa only [beq_iff_eq, free_iff] using body

theorem claimNextBody_versioned {upstreamID : String} {v : Int} : (claimNextBody o upstreamID (some v) now).eval db =
      if ∃ n ∈ db.nodes, n.id = upstreamID ∧ n.version = v ∧ n.enabled = true ∧ n.deletedAt = none then
        (claimNextBody o upstreamID none now).eval db
      else (.error .nodeConfigStale, db) := by
  have body : (claimNextBody o upstreamID (some v) now).eval db =
      if (_ == 1) = true then (claimNextBody o upstreamID none now).eval db else (.error .nodeConfigStale, db) :=
    eval_require_bind _
  simpa only [beq_iff_eq, current_iff] using body

/-- `ClaimNext` behind its guards. -/
theorem claimNextBody_eval {upstreamID : String} {expectedVersion : Option Int} :
    ((next upstreamID expectedVersion).Ready db → (claimNextBody o upstreamID expectedVersion now).eval db =
        (takeTask o upstreamID now (claimedTask upstreamID now)).eval db) ∧
      (¬ (next upstreamID expectedVersion).Ready db →
        ∃ e, (claimNextBody o upstreamID expectedVersion now).eval db = (.error e, db)) := by
  cases expectedVersion with
  | none =>
    rw [claimNextBody_unversioned]
    exact ⟨fun ready => if_pos ready.2, fun busy => ⟨_, if_neg fun free => busy ⟨nofun, free⟩⟩⟩
  | some v =>
    rw [claimNextBody_versioned, claimNextBody_unversioned]
    refine ⟨fun ⟨current, free⟩ => by rw [if_pos (current v rfl), if_pos free], fun busy => ?_⟩
    by_cases current : ∃ n ∈ db.nodes, n.id = upstreamID ∧ n.version = v ∧ n.enabled = true ∧ n.deletedAt = none
    · rw [if_pos current]
      exact ⟨_, if_neg fun free => busy ⟨fun w hw => Option.some.inj hw ▸ current, free⟩⟩
    · exact ⟨_, if_neg current⟩

/-- `ClaimNextOfficial` behind its guards. -/
theorem claimNextOfficialBody_eval {nodeVersion capacity : Int} :
    ((official nodeID nodeVersion capacity).Ready db → ∃ n ∈ db.nodes, n.id = nodeID ∧
        (claimNextOfficialBody o nodeID nodeVersion capacity now).eval db =
          (takeTask o nodeID now (officialClaimedTask n now)).eval db) ∧
      (¬ (official nodeID nodeVersion capacity).Ready db → 1 ≤ capacity →
        ∃ e, (claimNextOfficialBody o nodeID nodeVersion capacity now).eval db = (.error e, db)) := by
  have body : (claimNextOfficialBody o nodeID nodeVersion capacity now).eval db =
      (db.nodes.find? fun n => n.id == nodeID && n.version == nodeVersion && n.enabled && n.deletedAt.isNone
        && n.protocolVersion == .official).elim (.error .nodeConfigStale, db) fun n =>
        if decide (((db.tasks.filter fun t => t.upstreamID == some nodeID && t.upstreamSlotActive).length : Int) <
          min capacity n.maxConcurrency) = true then (takeTask o nodeID now (officialClaimedTask n now)).eval db
        else (.error .upstreamBusy, db) := by
    rw [claimNextOfficialBody, eval_bind, eval_query]
    cases db.nodes.find? _ with
    | none => rfl
    | some n => exact eval_require_bind _
  rw [body]
  constructor
  · rintro ⟨n, mem, ⟨rfl, rfl, enabled, undeleted, protocol⟩, room, free⟩
    refine ⟨n, mem, rfl, ?_⟩
    rw [find_of_key (nodes_distinct db) mem fun m _ h => by simp at h; exact h.1.1.1.1]
    simp only [beq_self_eq_true, enabled, undeleted, protocol, Option.isNone_none,
      Bool.and_self, if_true, Option.elim_some, free, decide_true]
  · intro busy room
    cases found : db.nodes.find? _ with
    | none => exact ⟨_, rfl⟩
    | some n =>
      have matched := List.find?_some found
      simp only [Bool.and_eq_true, beq_iff_eq, Option.isNone_iff_eq_none] at matched
      obtain ⟨⟨⟨⟨id, version⟩, enabled⟩, undeleted⟩, protocol⟩ := matched
      refine ⟨_, if_neg fun free => busy ⟨n, List.mem_of_find?_eq_some found, ⟨id, version, enabled, undeleted, protocol⟩,
        room, of_decide_eq_true free⟩⟩

/-- The transaction of the call, for a node that is ready, is `takeTask`. -/
theorem call_of_ready (o : Options) (now : Int) (ready : c.Ready db) :
    ∃ claim, Claims c.node claim ∧ ∃ p : Prog Task, c.call o now = immediate p ∧
      p.eval db = (takeTask o c.node (unix now) claim).eval db := by
  cases c with
  | next upstreamID expectedVersion =>
    exact ⟨_, claimedTask_claims, _, rfl, claimNextBody_eval.1 ready⟩
  | official nodeID nodeVersion capacity =>
    obtain ⟨n, mem, rfl, out⟩ := claimNextOfficialBody_eval.1 ready
    obtain ⟨_, _, _, room, _⟩ := ready
    exact ⟨_, officialClaimedTask_claims ((db Tbl.modelServiceNodes).checked n mem), _, if_neg (by omega), out⟩

theorem call_of_not_ready (busy : ¬ c.Ready db) :
    ∃ e, (c.call o now noFaults 0 db).result = .error e ∧ (c.call o now noFaults 0 db).db = db := by
  have fails {p : Prog Task} {e : Err} (out : p.eval db = (.error e, db)) :
      ∃ e, (immediate p noFaults 0 db).result = .error e ∧ (immediate p noFaults 0 db).db = db := by
    obtain ⟨result, left⟩ := immediate_noFaults p
    rw [out] at result left
    exact ⟨e, result, left⟩
  cases c with
  | next upstreamID expectedVersion =>
    obtain ⟨e, out⟩ := claimNextBody_eval.2 busy
    exact fails out
  | official nodeID nodeVersion capacity =>
    rw [call, claimNextOfficial]
    by_cases room : capacity < 1
    · rw [if_pos room]
      exact ⟨_, rfl, rfl⟩
    · rw [if_neg room]
      obtain ⟨e, out⟩ := claimNextOfficialBody_eval.2 busy (by omega)
      exact fails out

/-- What a call of a ready node does with the outcome of the scan. -/
theorem call_cases (o : Options) (now : Int) (ready : c.Ready db) :
    (∃ s r, ((nextEligibleTask c.node (unix now)).eval db).1 = .ok s ∧ unix now < s.expiresAt ∧
        (c.call o now noFaults 0 db).result = .ok r ∧ Taken c.node db s r (c.call o now noFaults 0 db).db) ∨
    ((∀ s, ((nextEligibleTask c.node (unix now)).eval db).1 = .ok s → ¬ unix now < s.expiresAt) ∧
      ∃ e, (c.call o now noFaults 0 db).result = .error e ∧ (c.call o now noFaults 0 db).db = db) := by
  obtain ⟨claim, claims, p, shape, ran⟩ := call_of_ready o now ready
  obtain ⟨result, left⟩ := immediate_noFaults p
  rw [shape, result, left, ran]
  cases scan : ((nextEligibleTask c.node (unix now)).eval db).1 with
  | error e =>
    have failed : (takeTask o c.node (unix now) claim).eval db = (.error e, db) := by
      refine eval_bind_error ?_
      rw [eval_readOnly (writes_nextEligibleTask c.node (unix now)) db, scan]
    rw [failed]
    exact .inr ⟨fun s => nofun, e, rfl, rfl⟩
  | ok s =>
    obtain ⟨mem, _, readable⟩ := selected_spec scan
    obtain ⟨db', out, taken⟩ := takeTask_eval o claims scan mem readable
    rw [out]
    by_cases live : unix now < s.expiresAt
    · rw [if_pos live]
      exact .inl ⟨s, claim s, rfl, live, rfl, taken⟩
    · rw [if_neg live]
      refine .inr ⟨fun s' h => ?_, _, rfl, rfl⟩
      cases h
      exact live

/-- The law holds exactly when no task in front of the first claimable one stops the scan:
an expired task that the node accepts, or a row or snapshot that does not decode. -/
theorem law_iff (o : Options) (now : Int) (db : Database) (c : QueueClaim) :
    c.Law o now db ↔
      ∀ t, c.Ready db → FirstClaimable db c.node (unix now) t → Unblocked db c.node (unix now) t := by
  constructor
  · intro law t ready first
    obtain ⟨r, result, taken⟩ := law.takes t ready first
    rcases call_cases o now ready with ⟨s, r', scan, live, result', taken'⟩ | ⟨_, e, failed, _⟩
    · rw [result] at result'
      cases result'
      obtain ⟨mem, accepted, _⟩ := selected_spec scan
      have same : s = t := task_unique (List.mem_filter.mp mem).1 (List.mem_filter.mp first.claimable.waiting).1
        (taken'.taskID.symm.trans taken.taskID)
      subst same
      exact (selects_iff mem accepted).mp scan
    · rw [result] at failed
      cases failed
  · intro unblocked
    constructor
    · intro t ready first
      have scan := (selects_iff first.claimable.waiting first.claimable.accepted).mpr (unblocked t ready first)
      rcases call_cases o now ready with ⟨s, r, scan', live, result, taken⟩ | ⟨expired, _⟩
      · rw [scan] at scan'
        cases scan'
        exact ⟨r, result, taken⟩
      · exact absurd first.claimable.unexpired (expired t scan)
    · intro none
      by_cases ready : c.Ready db
      · rcases call_cases o now ready with ⟨s, r, scan, live, _⟩ | ⟨_, failed⟩
        · obtain ⟨mem, accepted, _⟩ := selected_spec scan
          exact absurd ⟨ready, s, mem, live, accepted⟩ none
        · exact failed
      · exact call_of_not_ready ready

/-- A queued task for the official node that expires at `expires`. -/
def queuedTask (id : String) (expires : Int) (seq : Nat) : Task :=
  { queueSeq := seq, taskID := id, apiKeyID := "k1", requestJSON := .value { model := "MiniMax-H3", content := [] }
    createdAt := 0, updatedAt := 0, expiresAt := expires, routeState := .ready, protocolVersion := some .official
    routingSnapshotJSON := some (.value
      { model := "MiniMax-H3", protocolVersion := .official, requirements := { scenario := "t2va", duration := 4 } }) }

/-- An official node with one free slot; the first of its two tasks expired at 100. -/
def expiredHead : Database :=
  DB.empty.load
    [.insert Tbl.modelServiceNodes fun _ _ =>
      [{ id := "n1", serviceURL := "https://n1", protocolVersion := .official, apiKeyCiphertext := some "c"
         apiKeyNonce := some "n", apiKeyFingerprint := some "f", apiKeyID := some "i", createdAt := 0, updatedAt := 0 }],
    .insert Tbl.nodeModelCatalogs fun _ _ =>
      [{ nodeID := "n1", source := .builtin, connectionFingerprint := "f", lastStatus := .ready, createdAt := 0
         updatedAt := 0 }],
    .insert Tbl.nodeModels fun _ _ =>
      [{ nodeID := "n1", modelID := "MiniMax-H3", enabled := true
         capabilitiesJSON := .value { modes := [{ scenario := "t2va", durations := [4] }] }, createdAt := 0, updatedAt := 0 }],
    .insert Tbl.videoTasks fun _ seq => [queuedTask "t1" 100 seq],
    .insert Tbl.videoTasks fun _ seq => [queuedTask "t2" 1000 seq]]

/-- At time 200 the node could take `t2`, but the call stops at the expired `t1`. -/
theorem expired_head_blocks :
    ¬ (official "n1" 1 1).Law ⟨1, 1, 1, 1, 1⟩ 200000 expiredHead ∧
      ((official "n1" 1 1).call ⟨1, 1, 1, 1, 1⟩ 200000 noFaults 0 expiredHead).result = .error .taskNotFound := by
  have failed : ((official "n1" 1 1).call ⟨1, 1, 1, 1, 1⟩ 200000 noFaults 0 expiredHead).result = .error .taskNotFound := rfl
  have queue : waiting expiredHead = [queuedTask "t1" 100 1, queuedTask "t2" 1000 2] := rfl
  have ready : (official "n1" 1 1).Ready expiredHead :=
    ⟨_, List.mem_cons_self, ⟨rfl, rfl, rfl, rfl, rfl⟩, by decide, by decide⟩
  refine ⟨fun law => ?_, failed⟩
  have first : FirstClaimable expiredHead "n1" 200 (queuedTask "t2" 1000 2) := by
    refine ⟨⟨by rw [queue]; simp, by decide, rfl⟩, fun u claimable => ?_⟩
    have mem := claimable.waiting
    rw [queue] at mem
    rcases List.mem_cons.mp mem with rfl | mem
    · exact absurd claimable.unexpired (by decide)
    · exact Nat.le_of_eq (congrArg Task.queueSeq (List.mem_singleton.mp mem).symm)
  obtain ⟨r, result, _⟩ := law.takes _ ready first
  rw [failed] at result
  cases result

end QueueClaim
end MinimaxProxy.Store
