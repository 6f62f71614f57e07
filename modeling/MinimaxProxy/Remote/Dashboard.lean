import Mathlib.Data.Rat.Defs
import MinimaxProxy.Flow.System
import MinimaxProxy.Store.ClaimEffects

/-!
# The dashboard of a remote node

`Client.Dashboard` reads how many slots the accounts of a `tk2sd-v1` node have and how many
tasks hold them, and refuses an answer whose sums do not agree. `tk2sdAdmission` turns the
last answer into the admission under which `ClaimNextRemote` takes a task. An answer of before
the slots were introduced has one slot for each account, held by the task of its lease.
-/

namespace MinimaxProxy.Remote
open Sql Sql.Prog Store

variable {a : Admission} {d : Dashboard} {db db' : Database} {nodeID : String} {now slotOccupied : Int} {slots : Bool}

/-! ## Answers of the node -/

structure RawCounts where
  running : Option Int
  queued : Option Int
  succeeded : Option Int
  uncertain : Option Int
  failed : Option Int
  canceled : Option Int

structure RawAccount where
  lease : Option String := none
  notBefore : Option ℚ
  credits : Option Int := none
  activeCount : Option Int := none
  concurrencyLimit : Option Int := none
  availableSlots : Option Int := none

structure RawLogin where
  status : String
  canDispatch : Option Bool

/-- The answer to `GET /v1/dashboard`. -/
structure RawDashboard where
  counts : Option RawCounts
  occupied : Option Int
  capacity : Option Int
  slotCapacity : Option Int := none
  slotOccupied : Option Int := none
  concurrencyPerLine : Option Int := none
  accounts : Option (List RawAccount)
  login : Option RawLogin

/-- One page of the list of running tasks. -/
structure RawPage where
  total : Option Int
  items : Option (List (String × String))

inductive DashboardError
  | invalidResponse
  | request
deriving DecidableEq

/-! ## The client -/

/-- `validID` (client.go:280). -/
def validID (id : String) : Bool :=
  id.utf8ByteSize != 0 && id.utf8ByteSize ≤ 128 && id.toList.all fun c =>
    ('a' ≤ c && c ≤ 'z') || ('A' ≤ c && c ≤ 'Z') || ('0' ≤ c && c ≤ '9') || c == '_' || c == '-'

/-- The items of one page, after the ids that were read before. -/
def readItems : List (String × String) → List String → Except DashboardError (List String)
  | [], ids => .ok ids
  | (id, status) :: rest, ids =>
    if !validID id || ids.contains id || status != "running" then .error .invalidResponse
    else readItems rest (ids ++ [id])

/-- One turn of the loop of `activeTaskIDs` (active_tasks.go:16): the total, which is known after the
first page, and the ids so far. -/
def readPage (answer : Except DashboardError RawPage) (total : Option Int) (ids : List String) :
    Except DashboardError (Int × List String) := do
  let page ← answer
  match page.total, page.items with
  | some stated, some items =>
    if stated < 0 || stated > 10000 then .error .invalidResponse
    else if total.getD stated != stated || (items.length : Int) != min 100 (total.getD stated - ids.length) then
      .error .invalidResponse
    else do
      let ids ← readItems items ids
      .ok (stated, ids)
  | _, _ => .error .invalidResponse

/-- The loop from page `page` on, with `left` pages to go, and the number of its requests. -/
def readPages (pages : Nat → Except DashboardError RawPage) : Nat → Nat → Option Int → List String →
    Nat × Except DashboardError (List String)
  | 0, _, _, _ => (0, .error .invalidResponse)
  | left + 1, page, total, ids => match readPage (pages page) total ids with
    | .error e => (1, .error e)
    | .ok (stated, ids) =>
      if (ids.length : Int) = stated then (1, .ok ids)
      else
        let (requests, result) := readPages pages left (page + 1) (some stated) ids
        (requests + 1, result)

/-- `activeTaskIDs` (active_tasks.go:11), with the number of its requests. -/
def activeTaskIDs (pages : Nat → Except DashboardError RawPage) : Nat × Except DashboardError (List String) :=
  readPages pages 100 1 none []

inductive AccountStatus
  | idle | occupied | cooldown | full
deriving DecidableEq

structure DashboardAccount where
  label : String
  status : AccountStatus
  credits : Option Int
  activeCount : Int
  concurrencyLimit : Int
  availableSlots : Int
  cooldown : Bool

structure DashboardCounts where
  running : Int
  queued : Int
  succeeded : Int
  uncertain : Int
  failed : Int
  canceled : Int

structure Dashboard where
  counts : DashboardCounts
  occupied : Int
  capacity : Int
  accounts : List DashboardAccount
  loginStatus : String
  canDispatch : Bool
  leasedTaskIDs : List String
  slotCapacity : Int
  slotOccupied : Int
  concurrencyPerLine : Int
  coolingSlots : Int

/-- `dashboardLoginStatus` (dashboard.go:160). -/
def dashboardLoginStatus (status : String) : String :=
  if status ∈ ["valid", "checking", "expired", "login_required", "disabled", "unavailable"] then status else "unknown"

/-- The loop variables of `Dashboard` (dashboard.go:101). -/
structure Tally where
  active : Int := 0
  lines : Int := 0
  capacity : Int := 0
  cooling : Int := 0
  leased : List String := []
  accounts : List DashboardAccount := []

/-- How many tasks an account has, and how many it may have. -/
def accountSlots (slots : Bool) (slotOccupied total : Int) (a : RawAccount) : Option (Int × Int) :=
  if slots then
    match a.activeCount, a.concurrencyLimit, a.availableSlots with
    | some active, some limit, some available =>
      if active < 0 || limit < 1 || limit > 20 || active > slotOccupied - total || available != max (limit - active) 0 then none
      else some (active, limit)
    | _, _, _ => none
  else if a.activeCount.isSome || a.concurrencyLimit.isSome || a.availableSlots.isSome then none
  else some (if a.lease.isSome then 1 else 0, 1)

def accountStatus (slots cooldown : Bool) (active limit : Int) : AccountStatus :=
  -- The old answers keep `occupied` for a held account, whatever else holds of it.
  if !slots && active > 0 then .occupied
  else if cooldown then .cooldown
  else if active ≥ limit then .full
  else if active > 0 then .occupied
  else .idle

/-- The loop body of `Dashboard` (dashboard.go:102). -/
def readAccount (slots : Bool) (slotOccupied now : Int) (t : Tally) (a : RawAccount) : Option Tally := do
  let notBefore ← a.notBefore
  guard (!a.credits.any (· < 0))
  guard (a.lease.all validID)
  let (active, limit) ← accountSlots slots slotOccupied t.active a
  let cooldown : Bool := notBefore > (now : ℚ)
  let available := max (limit - active) 0
  pure
    { active := t.active + active
      lines := if active > 0 then t.lines + 1 else t.lines
      capacity := t.capacity + limit
      cooling := if cooldown then t.cooling + available else t.cooling
      leased := if slots then t.leased else t.leased ++ a.lease.toList
      accounts := t.accounts ++
        [{ label := "1-" ++ toString (t.accounts.length + 1), status := accountStatus slots cooldown active limit
           credits := a.credits, activeCount := active, concurrencyLimit := limit, availableSlots := available
           cooldown := cooldown }] }

/-- The six counts, if all are there and none is negative. -/
def readCounts (c : RawCounts) : Option DashboardCounts := do
  let counts : DashboardCounts :=
    ⟨← c.running, ← c.queued, ← c.succeeded, ← c.uncertain, ← c.failed, ← c.canceled⟩
  guard (0 ≤ counts.running ∧ 0 ≤ counts.queued ∧ 0 ≤ counts.succeeded ∧ 0 ≤ counts.uncertain ∧ 0 ≤ counts.failed
    ∧ 0 ≤ counts.canceled)
  pure counts

/-- The slots of the node as a whole: capacity, occupied and slots per account. -/
def readSlots (raw : RawDashboard) (capacity occupied : Int) : Option (Bool × Int × Int × Int) :=
  match raw.slotCapacity, raw.slotOccupied, raw.concurrencyPerLine with
  | none, none, none => some (false, capacity, occupied, 1)
  | some slotCapacity, some slotOccupied, some perLine =>
    if perLine < 1 || perLine > 20 || slotCapacity < 0 || slotOccupied < 0 then none
    else some (true, slotCapacity, slotOccupied, perLine)
  | _, _, _ => none

/-- What `Dashboard` makes of the answer itself, with whether it has slots. -/
def readDashboard (now : Int) (raw : RawDashboard) : Option (Bool × Dashboard) := do
  let rawCounts ← raw.counts
  let occupied ← raw.occupied
  let capacity ← raw.capacity
  let rawAccounts ← raw.accounts
  let login ← raw.login
  let canDispatch ← login.canDispatch
  let counts ← readCounts rawCounts
  guard (0 ≤ capacity ∧ 0 ≤ occupied ∧ occupied ≤ capacity ∧ (rawAccounts.length : Int) = capacity)
  let (slots, slotCapacity, slotOccupied, perLine) ← readSlots raw capacity occupied
  let t ← rawAccounts.foldlM (readAccount slots slotOccupied now) {}
  guard (t.lines = occupied ∧ t.active = slotOccupied ∧ t.capacity = slotCapacity)
  pure (slots,
    { counts := counts, occupied := occupied, capacity := capacity, accounts := t.accounts
      loginStatus := dashboardLoginStatus login.status, canDispatch := canDispatch, leasedTaskIDs := t.leased
      slotCapacity := slotCapacity, slotOccupied := slotOccupied, concurrencyPerLine := perLine, coolingSlots := t.cooling })

/-- `Client.Dashboard` (dashboard.go:47). The running tasks are read only if there may be room. -/
def dashboard (now : Int) (answer : Except DashboardError RawDashboard) (pages : Nat → Except DashboardError RawPage) :
    Except DashboardError Dashboard := do
  let raw ← answer
  match readDashboard now raw with
  | none => .error .invalidResponse
  | some (slots, d) =>
    if slots && d.canDispatch && d.counts.queued == 0 && d.slotOccupied < d.slotCapacity then do
      let ids ← (activeTaskIDs pages).2
      .ok { d with leasedTaskIDs := ids }
    else .ok d

/-- `tk2sdAdmission` (runtime_tk2sd.go:175), for the dashboard that was read at `checkedAt`. -/
def tk2sdAdmission (snapshot : Option Dashboard) (checkedAt : Option Int) (now maxAge : Int) : Option Admission := do
  let d ← snapshot
  let checkedAt ← checkedAt
  guard (now - maxAge ≤ checkedAt)
  if d.concurrencyPerLine = 0 then
    pure { capacity := d.capacity, occupied := d.occupied
           cooling := d.coolingSlots + (d.accounts.filter (·.status == .cooldown)).length
           queued := d.counts.queued, canDispatch := d.canDispatch, leasedTaskIDs := d.leasedTaskIDs }
  else
    pure { capacity := d.slotCapacity, occupied := max d.slotOccupied d.leasedTaskIDs.length, cooling := d.coolingSlots
           queued := d.counts.queued, canDispatch := d.canDispatch, leasedTaskIDs := d.leasedTaskIDs }

/-! ## The sums of an accepted answer -/

/-- The free slots of the accounts that are not cooling down. -/
def freeSlots (accounts : List DashboardAccount) : Int :=
  ((accounts.filter (!·.cooldown)).map fun a => max (a.concurrencyLimit - a.activeCount) 0).sum

theorem freeSlots_append {accounts : List DashboardAccount} {a : DashboardAccount} :
    freeSlots (accounts ++ [a])
      = freeSlots accounts + if a.cooldown then 0 else max (a.concurrencyLimit - a.activeCount) 0 := by
  unfold freeSlots
  rw [List.filter_append, List.map_append, List.sum_append]
  cases cooling : a.cooldown <;> simp [cooling]

/-- What the sums leave is free. It may be less: an account that is over its limit takes slots
from the sum and none from the others. -/
def Tally.Covered (t : Tally) : Prop := t.capacity - t.active - t.cooling ≤ freeSlots t.accounts

theorem readAccount_covered {t t' : Tally} {a : RawAccount}
    (read : readAccount slots slotOccupied now t a = some t') (covered : t.Covered) : t'.Covered := by
  simp only [readAccount, Option.bind_eq_bind, Option.bind_eq_some_iff, Option.pure_def, Option.some.injEq] at read
  obtain ⟨notBefore, -, _, -, _, -, ⟨active, limit⟩, -, rfl⟩ := read
  unfold Tally.Covered at covered ⊢
  dsimp only
  rw [freeSlots_append]
  dsimp only
  split <;> omega

theorem readAccounts_covered {rest : List RawAccount} {t t' : Tally}
    (read : rest.foldlM (readAccount slots slotOccupied now) t = some t') (covered : t.Covered) : t'.Covered := by
  induction rest generalizing t with
  | nil =>
    cases read
    exact covered
  | cons a rest ih =>
    rw [List.foldlM_cons, Option.bind_eq_bind, Option.bind_eq_some_iff] at read
    obtain ⟨next, first, rest⟩ := read
    exact ih rest (readAccount_covered first covered)

/-- What `tk2sdAdmission` relies on. -/
structure Dashboard.Sound (d : Dashboard) : Prop where
  perLine : 1 ≤ d.concurrencyPerLine
  covered : d.slotCapacity - d.slotOccupied - d.coolingSlots ≤ freeSlots d.accounts

theorem readSlots_perLine {raw : RawDashboard} {capacity occupied slotCapacity perLine : Int}
    (read : readSlots raw capacity occupied = some (slots, slotCapacity, slotOccupied, perLine)) : 1 ≤ perLine := by
  unfold readSlots at read
  split at read
  · cases read
    exact le_refl 1
  · split at read
    · cases read
    · next valid =>
      cases read
      simp only [Bool.or_eq_true, decide_eq_true_eq, not_or] at valid
      omega
  · cases read

theorem readDashboard_sound {raw : RawDashboard} (read : readDashboard now raw = some (slots, d)) : d.Sound := by
  simp only [readDashboard, Option.bind_eq_bind, Option.bind_eq_some_iff, Option.guard_eq_some', Option.pure_def,
    Option.some.injEq, Prod.mk.injEq] at read
  obtain ⟨_, -, _, -, _, -, accounts, -, _, -, _, -, _, -, _, -, ⟨_, _, _, _⟩, isSlots, t, isTally, _, sums, -, rfl⟩ := read
  obtain ⟨-, active, capacity⟩ := sums
  have covered : t.Covered := readAccounts_covered isTally (Int.le_refl 0)
  constructor
  · exact readSlots_perLine isSlots
  · rw [← active, ← capacity]
    exact covered

theorem dashboard_sound {answer : Except DashboardError RawDashboard} {pages : Nat → Except DashboardError RawPage}
    (accepted : dashboard now answer pages = .ok d) : d.Sound := by
  unfold dashboard at accepted
  cases answer with
  | error e => cases accepted
  | ok raw =>
    simp only [Bind.bind, Except.bind] at accepted
    split at accepted
    · cases accepted
    · next slots read isRead =>
      have sound := readDashboard_sound isRead
      split at accepted
      · split at accepted
        · cases accepted
        · cases accepted
          exact ⟨sound.perLine, sound.covered⟩
      · cases accepted
        exact sound

/-- The admission has the list of the dashboard and leaves no more than the free slots. -/
theorem tk2sdAdmission_covered {checkedAt : Option Int} {maxAge : Int} (sound : d.Sound)
    (admitted : tk2sdAdmission (some d) checkedAt now maxAge = some a) :
    a.leasedTaskIDs = d.leasedTaskIDs ∧ a.capacity - a.occupied - a.cooling ≤ freeSlots d.accounts := by
  have perLine := sound.perLine
  have covered := sound.covered
  simp only [tk2sdAdmission, Option.bind_eq_bind, Option.bind_eq_some_iff, Option.pure_def] at admitted
  obtain ⟨_, isSome, _, -, _, -, out⟩ := admitted
  cases isSome
  rw [if_neg (by omega)] at out
  cases out
  refine ⟨rfl, ?_⟩
  dsimp only
  omega

/-! ## The claim -/

/-- The task holds a slot of the node. -/
def holdsSlot (nodeID : String) (t : Task) : Bool := t.upstreamID == some nodeID && t.upstreamSlotActive

/-- The remote task of `t` is in the list. -/
def leased (ids : List String) (db : Database) (t : Task) : Bool :=
  ((findRun db t.taskID).bind (·.upstreamTaskID)).any fun id => id != "" && ids.contains id

/-- The tasks that hold a slot of the node and are not in the list. -/
def unleasedHolders (nodeID : String) (ids : List String) (db : Database) : List Task :=
  (slotHolders nodeID db).filter (!leased ids db ·)

theorem holders_split (nodeID : String) (a : Admission) (db : Database) :
    (slotHolders nodeID db).length = leasedHolders nodeID a db + (unleasedHolders nodeID a.leasedTaskIDs db).length :=
  List.length_eq_length_filter_add (leased a.leasedTaskIDs db)

/-- From `db` to `db'` only the named task may have got a slot of the node; none has lost its
slot or its remote task. -/
structure OneMore (nodeID taskID : String) (db db' : Database) : Prop where
  rows : ∃ f : Task → Task, db'.tasks = db.tasks.map f ∧ ∀ t, (f t).taskID = t.taskID ∧
    (holdsSlot nodeID t = true → holdsSlot nodeID (f t) = true) ∧
    (holdsSlot nodeID (f t) = true → holdsSlot nodeID t = true ∨ t.taskID = taskID)
  runs : ∀ id r, findRun db id = some r → findRun db' id = some r

theorem OneMore.holders_le {taskID : String} (h : OneMore nodeID taskID db db') :
    (slotHolders nodeID db').length ≤ (slotHolders nodeID db).length + 1 := by
  obtain ⟨f, rows, kept⟩ := h.rows
  have counted := countP_le_succ (tasks_distinct db) fun t _ => (kept t).2.2
  simp only [slotHolders, rows, ← List.countP_eq_length_filter, List.countP_map]
  exact counted

theorem OneMore.leased_le {taskID : String} (h : OneMore nodeID taskID db db') :
    leasedHolders nodeID a db ≤ leasedHolders nodeID a db' := by
  obtain ⟨f, rows, kept⟩ := h.rows
  simp only [leasedHolders, slotHolders, rows, List.filter_filter, ← List.countP_eq_length_filter, List.countP_map]
  refine List.countP_mono_left fun t _ met => ?_
  obtain ⟨isLeased, holds⟩ := Bool.and_eq_true_iff.mp met
  refine Bool.and_eq_true_iff.mpr ⟨?_, (kept t).2.1 holds⟩
  rw [(kept t).1]
  cases found : findRun db t.taskID with
  | none =>
    rw [found] at isLeased
    cases isLeased
  | some r =>
    rw [found] at isLeased
    rw [h.runs _ _ found]
    exact isLeased

theorem rebalance_slots {o : Options} (out : (rebalance o now).Returns db () db') : (∃ f : Task → Task, db'.tasks = db.tasks.map f ∧
      ∀ t, (f t).taskID = t.taskID ∧ ∀ nodeID, holdsSlot nodeID (f t) = holdsSlot nodeID t) ∧
      ∀ tbl, tbl ≠ .videoTasks → db'.rows tbl = db.rows tbl := by
  obtain ⟨n, mid, ranked, done⟩ := returns_bind.mp out
  obtain ⟨-, rfl⟩ := returns_pure.mp done
  have applied := returns_exec.mp ranked
  constructor
  · obtain ⟨tab, rfl, rows, -⟩ := apply_update applied
    refine ⟨_, (DB.rows_put_self ..).trans rows, fun t => ?_⟩
    split <;> exact ⟨rfl, fun _ => rfl⟩
  · intro tbl other
    exact apply_update_rows_of_ne applied other

/-- A successful claim gives a slot to one task. -/
theorem claimNextRemote_oneMore {o : Options} {nodeVersion capacity : Int} {admission : List Admission}
    {r : Task} (out : (claimNextRemoteBody o nodeID nodeVersion capacity admission now).Returns db r db') :
    (∃ limit room, (admissionRoom nodeID limit admission).Returns db room db ∧ ((slotHolders nodeID db).length : Int) < room) ∧
      ∃ taskID, OneMore nodeID taskID db db' := by
  obtain ⟨node, t, mid, -, rfl, -, ⟨room, admitted, fits⟩, takes, run, mid', n, inserted, ranked⟩ := claimNextRemote_takes out
  obtain ⟨⟨f, rows, kept⟩, others⟩ := rebalance_slots ranked
  have tasks : mid'.tasks = mid.tasks := apply_insert_rows_of_ne inserted (by decide)
  refine ⟨⟨_, room, admitted, fits⟩, t.taskID, ?_, ?_⟩
  · refine ⟨_, by rw [rows, tasks, takes.rows, updateRows, List.map_map], fun u => ?_⟩
    have claimed : holdsSlot node.id (remoteClaimedTask node now u) = true := by simp [holdsSlot, remoteClaimedTask]
    simp only [Function.comp]
    rw [(kept _).1, (kept _).2 node.id]
    by_cases named : u.taskID = t.taskID
    · rw [if_pos (by simp [named])]
      exact ⟨rfl, fun _ => claimed, fun _ => .inr named⟩
    · rw [if_neg (by simp [named])]
      exact ⟨rfl, id, .inl⟩
  · intro id r found
    have before : findRun mid id = some r := by
      rw [findRun, Database.remoteRuns, takes.others _ (by decide)]
      exact found
    rw [findRun, Database.remoteRuns, others _ (by decide)]
    rw [apply_insert_find inserted]
    exact Option.or_eq_some_iff.mpr (.inl before)

/-- The room that an admission leaves. -/
theorem admissionRoom_spec {limit room : Int} (out : (admissionRoom nodeID limit [a]).Returns db room db) :
    room ≤ a.capacity - a.occupied - a.cooling + leasedHolders nodeID a db := by
  simp only [admissionRoom, returns_bind, returns_require, returns_select, returns_pure] at out
  obtain ⟨_, _, ⟨-, rfl⟩, _, _, ⟨rfl, rfl⟩, _, _, ⟨-, rfl⟩, rfl, -⟩ := out
  exact min_le_right _ _

/-- Under the admission of an accepted dashboard, whatever has been claimed and completed since
the dashboard was read: after a claim, the tasks that the dashboard does not list hold no more
slots of the node than the dashboard showed as free. -/
theorem claims_fit_free_slots {now : Int} {answer : Except DashboardError RawDashboard}
    {pages : Nat → Except DashboardError RawPage} {d : Dashboard} (accepted : dashboard now answer pages = .ok d)
    {checkedAt : Option Int} {asked maxAge : Int} {a : Admission}
    (admitted : tk2sdAdmission (some d) checkedAt asked maxAge = some a)
    {o : Options} {nodeID : String} {nodeVersion capacity claimedAt : Int} {faults : Faults Err} {n : Nat} {db : Database} {t : Task}
    (claimed : (claimNextRemote o nodeID nodeVersion capacity [a] claimedAt faults n db).result = .ok t) :
    ((unleasedHolders nodeID d.leasedTaskIDs (claimNextRemote o nodeID nodeVersion capacity [a] claimedAt faults n db).db).length : Int)
      ≤ freeSlots d.accounts := by
  obtain ⟨listed, covered⟩ := tk2sdAdmission_covered (dashboard_sound accepted) admitted
  rw [← listed]
  unfold claimNextRemote at claimed ⊢
  split at claimed
  · cases claimed
  · next positive =>
    rw [if_neg positive]
    obtain ⟨⟨limit, room, isRoom, fits⟩, taskID, more⟩ := claimNextRemote_oneMore (immediate_ok claimed)
    have left := admissionRoom_spec isRoom
    have holders := more.holders_le
    have leases := more.leased_le (a := a)
    have split := holders_split nodeID a (immediate (claimNextRemoteBody o nodeID nodeVersion capacity [a] (unix claimedAt)) faults n db).db
    omega

/-- One account has two tasks under a limit that was lowered to one, the other has two free slots. -/
def loweredLimit : RawDashboard where
  counts := some ⟨some 2, some 0, some 0, some 0, some 0, some 0⟩
  occupied := some 1
  capacity := some 2
  slotCapacity := some 3
  slotOccupied := some 2
  concurrencyPerLine := some 2
  accounts := some
    [{ lease := some "u7", notBefore := some 0, activeCount := some 2, concurrencyLimit := some 1, availableSlots := some 0 },
     { notBefore := some 0, activeCount := some 0, concurrencyLimit := some 2, availableSlots := some 2 }]
  login := some ⟨"valid", some true⟩

def loweredLimitPage : RawPage := ⟨some 2, some [("u7", "running"), ("u8", "running")]⟩

/-- The dashboard that the client makes of it. -/
def loweredLimitDashboard : Dashboard where
  counts := ⟨2, 0, 0, 0, 0, 0⟩
  occupied := 1
  capacity := 2
  accounts := [⟨"1-1", .full, none, 2, 1, 0, false⟩, ⟨"1-2", .idle, none, 0, 2, 2, false⟩]
  loginStatus := "valid"
  canDispatch := true
  leasedTaskIDs := ["u7", "u8"]
  slotCapacity := 3
  slotOccupied := 2
  concurrencyPerLine := 2
  coolingSlots := 0

/-- The claim of the one task that waits for the node. -/
def loweredLimitClaim : Outcome schema Err Task :=
  claimNextRemote Flow.remoteOptions "n1" 1 1 [⟨3, 2, 0, 0, true, ["u7", "u8"]⟩] 1000 noFaults 0
    (create Flow.remoteOptions (fun _ => true) Flow.remoteRequest "" none 1000 noFaults 0 Flow.remoteConfig.db).db

theorem claims_fit_free_slots_lowered : (unleasedHolders "n1" loweredLimitDashboard.leasedTaskIDs loweredLimitClaim.db).length = 1 ∧
      freeSlots loweredLimitDashboard.accounts = 2 ∧
      ((unleasedHolders "n1" loweredLimitDashboard.leasedTaskIDs loweredLimitClaim.db).length : Int)
        ≤ freeSlots loweredLimitDashboard.accounts := by
  have accepted : dashboard 1 (.ok loweredLimit) (fun _ => .ok loweredLimitPage) = .ok loweredLimitDashboard := by
    rfl
  have admitted : tk2sdAdmission (some loweredLimitDashboard) (some 1) 1 60 = some ⟨3, 2, 0, 0, true, ["u7", "u8"]⟩ := by
    rfl
  obtain ⟨t, claimed⟩ : ∃ t, loweredLimitClaim.result = .ok t := by
    cases result : loweredLimitClaim.result with
    | ok t => exact ⟨t, rfl⟩
    | error e =>
      have succeeds : loweredLimitClaim.result.toOption.isSome = true := by decide +kernel
      rw [result] at succeeds
      cases succeeds
  exact ⟨by decide +kernel, by decide, claims_fit_free_slots accepted admitted claimed⟩

/-! ## The list of running tasks -/

section
variable {pages : Nat → Except DashboardError RawPage} {left page last : Nat} {total : Option Int} {ids out : List String}

/-- A page up to `last` reports the task as running. -/
def Reported (pages : Nat → Except DashboardError RawPage) (last : Nat) (id : String) : Prop :=
  ∃ page answer items, 1 ≤ page ∧ page ≤ last ∧ pages page = .ok answer ∧ answer.items = some items ∧ (id, "running") ∈ items

theorem Reported.mono {later : Nat} {id : String} (h : Reported pages last id) (le : last ≤ later) : Reported pages later id := by
  obtain ⟨page, answer, items, first, within, rest⟩ := h
  exact ⟨page, answer, items, first, within.trans le, rest⟩

/-- Ids that are distinct and valid, and that pages up to `last` report. -/
structure Listing (pages : Nat → Except DashboardError RawPage) (last : Nat) (ids : List String) : Prop where
  distinct : ids.Nodup
  valid : ∀ id ∈ ids, validID id = true
  reported : ∀ id ∈ ids, Reported pages last id

theorem Listing.readItems {answer : RawPage} {items all : List (String × String)} (first : 1 ≤ last)
    (answered : pages last = .ok answer) (isItems : answer.items = some all) (sub : items ⊆ all) (listing : Listing pages last ids)
    (read : readItems items ids = .ok out) : Listing pages last out := by
  induction items generalizing ids with
  | nil =>
    cases read
    exact listing
  | cons item rest ih =>
    obtain ⟨id, status⟩ := item
    rw [Remote.readItems] at read
    split at read
    · cases read
    next accepted =>
    simp only [Bool.or_eq_true, Bool.not_eq_true', bne_iff_ne, List.contains_eq_mem, decide_eq_true_eq, not_or, Bool.not_eq_false,
      not_not] at accepted
    obtain ⟨⟨valid, fresh⟩, rfl⟩ := accepted
    refine ih (List.subset_of_cons_subset sub) ⟨?_, ?_, ?_⟩ read
    · exact List.nodup_append.mpr ⟨listing.distinct, by simp, fun a old b new same => fresh (List.mem_singleton.mp new ▸ same ▸ old)⟩
    · simpa [or_imp, forall_and] using ⟨listing.valid, valid⟩
    · have new : Reported pages last id := ⟨last, answer, all, first, le_refl _, answered, isItems, sub (by simp)⟩
      simpa [or_imp, forall_and] using ⟨listing.reported, new⟩

theorem readPage_ok {answer : Except DashboardError RawPage} {stated : Int} (read : readPage answer total ids = .ok (stated, out)) :
    ∃ items, answer = .ok ⟨some stated, some items⟩ ∧ total.getD stated = stated ∧ readItems items ids = .ok out := by
  rw [readPage] at read
  rcases answer with e | ⟨_ | said, _ | items⟩
  case ok.some.some =>
    simp only [Bind.bind, Except.bind] at read
    split at read
    · cases read
    split at read
    · cases read
    next agrees =>
    cases got : readItems items ids with
    | error e =>
      rw [got] at read
      cases read
    | ok next =>
      rw [got] at read
      cases read
      simp only [Bool.or_eq_true, bne_iff_ne, not_or, not_not] at agrees
      exact ⟨items, rfl, agrees.1, got⟩
  all_goals cases read

/-- It asks for one page after the other, and no others have a part in the result. -/
theorem readPages_requests (pages : Nat → Except DashboardError RawPage) (left page : Nat) (total : Option Int) (ids : List String) :
    (readPages pages left page total ids).1 ≤ left ∧
      ∀ other, (∀ p, page ≤ p → p < page + (readPages pages left page total ids).1 → other p = pages p) →
        readPages other left page total ids = readPages pages left page total ids := by
  induction left generalizing page total ids with
  | zero => exact ⟨le_refl _, fun _ _ => rfl⟩
  | succ left ih =>
    rw [readPages]
    cases first : readPage (pages page) total ids with
    | error e =>
      refine ⟨by simp, fun other same => ?_⟩
      rw [readPages, same page (le_refl _) (by simp), first]
    | ok next =>
      obtain ⟨stated, next⟩ := next
      dsimp only
      split
      · next all =>
        refine ⟨by simp, fun other same => ?_⟩
        rw [readPages, same page (le_refl _) (by simp), first]
        exact if_pos all
      · next more =>
        obtain ⟨few, fixed⟩ := ih (page + 1) (some stated) next
        refine ⟨by simpa using few, fun other same => ?_⟩
        dsimp only at same
        rw [readPages, same page (le_refl _) (by omega), first]
        dsimp only
        rw [if_neg more, fixed other fun p low high => same p (by omega) (by omega)]

/-- The loop from a page on: every page up to its last one states the number of the ids. -/
theorem readPages_ok {requests : Nat} (first : 1 ≤ page) (read : readPages pages left page total ids = (requests, .ok out))
    (listing : Listing pages page ids) :
    ∃ last, page ≤ last ∧ last + 1 = page + requests ∧ Listing pages last out ∧ (∀ stated ∈ total, stated = out.length) ∧
      ∀ p, page ≤ p → p ≤ last → ∃ answer, pages p = .ok answer ∧ answer.total = some (out.length : Int) := by
  induction left generalizing page total ids requests with
  | zero => cases read
  | succ left ih =>
    rw [readPages] at read
    cases turn : readPage (pages page) total ids with
    | error e =>
      rw [turn] at read
      cases read
    | ok next =>
      obtain ⟨stated, next⟩ := next
      obtain ⟨items, answered, agrees, got⟩ := readPage_ok turn
      have after := listing.readItems first answered rfl (List.Subset.refl _) got
      have known : ∀ t ∈ total, t = stated := by
        rintro t rfl
        exact agrees
      rw [turn] at read
      dsimp only at read
      split at read
      · next all =>
        cases read
        refine ⟨page, le_refl _, rfl, after, fun t mem => (known t mem).trans all.symm, fun p low high => ?_⟩
        obtain rfl : p = page := by omega
        exact ⟨_, answered, congrArg some all.symm⟩
      · rcases rest : readPages pages left (page + 1) (some stated) next with ⟨more, result⟩
        rw [rest] at read
        obtain ⟨rfl, rfl⟩ := Prod.mk.inj read
        have later : Listing pages (page + 1) next := ⟨after.distinct, after.valid, fun id mem => (after.reported id mem).mono (by omega)⟩
        obtain ⟨last, low, high, done, number, totals⟩ := ih (by omega) rest later
        have all := number stated rfl
        refine ⟨last, by omega, by omega, done, fun t mem => (known t mem).trans all, fun p least most => ?_⟩
        rcases Nat.eq_or_lt_of_le least with rfl | beyond
        · exact ⟨_, answered, congrArg some all⟩
        · exact totals p beyond most

/-- Whatever the node answers, at most a hundred requests are made, for the pages 1, 2 and so on; no
other page has a part in the result. A list that is returned holds distinct valid ids that the pages
report as running, as many as each of them states. -/
theorem activeTaskIDs_listing (pages : Nat → Except DashboardError RawPage) :
    (activeTaskIDs pages).1 ≤ 100 ∧
    (∀ other, (∀ page, 1 ≤ page → page ≤ (activeTaskIDs pages).1 → other page = pages page) → activeTaskIDs other = activeTaskIDs pages) ∧
    ∀ ids, (activeTaskIDs pages).2 = .ok ids → 1 ≤ (activeTaskIDs pages).1 ∧
      ids.Nodup ∧ (∀ id ∈ ids, validID id = true ∧ Reported pages (activeTaskIDs pages).1 id) ∧
      ∀ page, 1 ≤ page → page ≤ (activeTaskIDs pages).1 → ∃ answer, pages page = .ok answer ∧ answer.total = some (ids.length : Int) := by
  obtain ⟨few, fixed⟩ := readPages_requests pages 100 1 none []
  refine ⟨few, fun other same => fixed other fun p low high =>
    same p low (Nat.lt_succ_iff.mp (by rw [activeTaskIDs]; omega)), fun ids read => ?_⟩
  obtain ⟨last, low, high, listing, -, totals⟩ := readPages_ok (le_refl 1) (Prod.ext rfl read) ⟨.nil, by simp, by simp⟩
  obtain rfl : last = (activeTaskIDs pages).1 := Nat.succ.inj (high.trans (Nat.add_comm _ _))
  exact ⟨low, listing.distinct, fun id mem => ⟨listing.valid id mem, listing.reported id mem⟩, totals⟩

/-- 101 tasks on two pages. -/
def twoPages (page : Nat) : Except DashboardError RawPage :=
  .ok ⟨some 101, some (((List.range 101).drop (100 * (page - 1))).take 100 |>.map fun n => (toString n, "running"))⟩

theorem activeTaskIDs_listing_two : (activeTaskIDs twoPages).1 = 2 ∧ ∃ ids, (activeTaskIDs twoPages).2 = .ok ids ∧ ids.length = 101 ∧
    ids.Nodup ∧ (∀ id ∈ ids, validID id = true ∧ Reported twoPages 2 id) ∧
      ∀ page, 1 ≤ page → page ≤ 2 → ∃ answer, twoPages page = .ok answer ∧ answer.total = some (ids.length : Int) := by
  have answer : ((activeTaskIDs twoPages).1, (activeTaskIDs twoPages).2.toOption.map List.length) = (2, some 101) := by decide +kernel
  obtain ⟨requests, count⟩ := Prod.mk.inj answer
  have listing := (activeTaskIDs_listing twoPages).2.2
  rw [requests] at listing
  cases read : (activeTaskIDs twoPages).2 with
  | error e =>
    rw [read] at count
    cases count
  | ok ids =>
    rw [read] at count
    exact ⟨requests, ids, rfl, Option.some.inj count, (listing ids read).2⟩

end

end MinimaxProxy.Remote
