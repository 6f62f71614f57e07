import Mathlib.Data.List.Sort
import MinimaxProxy.Store.QueueScan
import MinimaxProxy.Store.TaskRows
import MinimaxProxy.Text.Strings

/-!
# The task list

`Store.List` (`store.go`) cuts a page out of the matching tasks of a key, newest first. The
offset is a product of 64-bit integers; SQLite takes a negative offset for zero.
-/

namespace MinimaxProxy

def V2Status.text : V2Status → String
  | .queued => "queued"
  | .running => "running"
  | .succeeded => "succeeded"
  | .failed => "failed"
  | .cancelled => "cancelled"

end MinimaxProxy

namespace MinimaxProxy.Store
open Sql

/-- `domain.TaskFilter` (task.go:169). -/
structure TaskFilter where
  model : String := ""
  status : String := ""
  taskIDs : List String := []
  pageNum : Int64
  pageSize : Int64

/-- `taskPublicStatusSQL` (task_status.go:4). -/
def taskPublicStatus (db : Database) (t : Task) : V2Status :=
  let run := db.remoteRuns.find? (·.taskID == t.taskID)
  if t.status.isTerminal then t.status.v2
  else if t.protocolVersion == some .tk2sd && run.any (·.cancelState == .requested) then .running
  else if t.protocolVersion == some .tk2sd && run.any (fun r => r.phase == .preparing || r.phase == .prepared
      || (r.phase == .submitted && r.upstreamStatus == some .queued)) then .queued
  else if t.status.isQueued then .queued
  else .running

/-- `internalStatuses` (store.go:957). -/
def internalStatuses (status : String) : List TaskStatus :=
  [.queuedOpen, .queuedLocked, .dispatching, .running, .reconciling, .cancelling, .succeeded, .failed, .cancelled].filter
    fun s => s.v2.text == status

/-- The conditions of the query. -/
def TaskFilter.accepts (f : TaskFilter) (owner : String) (now : Int) (db : Database) (t : Task) : Bool :=
  t.apiKeyID == owner && t.deletedAt.isNone && t.expiresAt > now && (f.model == "" || t.model == f.model)
    && (f.status == "" || (taskPublicStatus db t).text == f.status) && (f.taskIDs.isEmpty || f.taskIDs.contains t.taskID)

/-- `ORDER BY created_at DESC,queue_seq DESC`. -/
def newestFirst (a b : Task) : Prop := b.createdAt < a.createdAt ∨ a.createdAt = b.createdAt ∧ b.queueSeq ≤ a.queueSeq

instance : DecidableRel newestFirst := fun _ _ => inferInstanceAs (Decidable (_ ∨ _))

/-- The tasks that the filter asks for, newest first. -/
def matchingTasks (owner : String) (f : TaskFilter) (now : Int) (db : Database) : List Task :=
  (db.tasks.filter (f.accepts owner now db)).insertionSort newestFirst

/-- `LIMIT ? OFFSET ?`. -/
def limitOffset {α : Type} (rows : List α) (limit offset : Int64) : List α := (rows.drop offset.toInt.toNat).take limit.toInt.toNat

/-- `List` (store.go:279): the tasks of the page and the number of all. -/
def list (owner : String) (f : TaskFilter) (now : Int) (db : Database) : Except Err (List Task × Nat) :=
  if f.status ≠ "" ∧ internalStatuses f.status = [] then .ok ([], 0)
  else
    let rows := matchingTasks owner f (unix now) db
    let pageNum := if f.pageNum ≤ 0 then 1 else f.pageNum
    let pageSize := if f.pageSize ≤ 0 then 20 else f.pageSize
    match (limitOffset rows pageSize ((pageNum - 1) * pageSize)).mapM scanTask with
    | .error e => .error e
    | .ok items => .ok (items, rows.length)

/-! ## Pages -/

section
variable {α : Type} {rows : List α}

/-- The rows at the positions of page `n` of size `s`. -/
def pageOf (rows : List α) (n s : Int) : List α := (rows.drop ((n - 1) * s).toNat).take s.toNat

theorem mem_take_drop {a b : Nat} {x : α} : x ∈ (rows.drop a).take b ↔ ∃ i, ∃ h : i < rows.length, a ≤ i ∧ i < a + b ∧ rows[i] = x := by
  rw [List.mem_iff_getElem]
  constructor
  · rintro ⟨i, bound, rfl⟩
    simp only [List.length_take, List.length_drop] at bound
    exact ⟨a + i, by omega, by omega, by omega, by simp⟩
  · rintro ⟨i, bound, low, high, rfl⟩
    refine ⟨i - a, by simp; omega, ?_⟩
    simp [Nat.add_sub_cancel' low]

/-- Rows from two different positions on are the same only if there are none. -/
theorem take_drop_eq (distinct : rows.Nodup) {a b size : Nat} (lt : a < b) (positive : 0 < size) :
    (rows.drop a).take size = (rows.drop b).take size ↔ rows.length ≤ a := by
  constructor
  · intro same
    by_contra short
    have bound : a < rows.length := Nat.lt_of_not_le short
    have first : rows[a] ∈ (rows.drop b).take size :=
      same ▸ mem_take_drop.mpr ⟨a, bound, Nat.le_refl a, Nat.lt_add_of_pos_right positive, rfl⟩
    obtain ⟨i, bound', low, -, eq⟩ := mem_take_drop.mp first
    have := (distinct.getElem_inj_iff).mp eq
    omega
  · intro short
    rw [List.drop_eq_nil_of_le short, List.drop_eq_nil_of_le (Nat.le_trans short (Nat.le_of_lt lt))]

theorem pages_disjoint (distinct : rows.Nodup) {m n s : Int} (other : m ≠ n) (hm : 1 ≤ m) (hn : 1 ≤ n) (hs : 1 ≤ s) :
    (pageOf rows m s).Disjoint (pageOf rows n s) := by
  intro x first second
  obtain ⟨i, hi, low, high, rfl⟩ := mem_take_drop.mp first
  obtain ⟨j, hj, low', high', eq⟩ := mem_take_drop.mp second
  obtain rfl := (distinct.getElem_inj_iff).mp eq
  obtain ⟨k, rfl⟩ : ∃ k : Nat, m = k + 1 := ⟨(m - 1).toNat, by omega⟩
  obtain ⟨l, rfl⟩ : ∃ l : Nat, n = l + 1 := ⟨(n - 1).toNat, by omega⟩
  obtain ⟨t, rfl⟩ : ∃ t : Nat, s = t + 1 := ⟨(s - 1).toNat, by omega⟩
  have start (k : Nat) : (((k : Int) + 1 - 1) * ((t : Int) + 1)).toNat = k * (t + 1) := by
    rw [Int.add_sub_cancel]
    norm_cast
  rw [start] at low high low' high'
  rcases Nat.lt_or_gt_of_ne (fun same : k = l => other (by rw [same])) with lt | lt
  · have := Nat.mul_le_mul_right (t + 1) lt
    rw [Nat.succ_mul] at this
    omega
  · have := Nat.mul_le_mul_right (t + 1) lt
    rw [Nat.succ_mul] at this
    omega

end

/-! ## The result -/

theorem matchingTasks_nodup (owner : String) (f : TaskFilter) (now : Int) (db : Database) : (matchingTasks owner f now db).Nodup := by
  have distinct : db.tasks.Nodup := (tasks_distinct db).imp fun differ same => differ (congrArg _ same)
  exact (List.perm_insertionSort _ _).nodup_iff.mpr (distinct.filter _)

/-- No task has a status that is none. -/
theorem matchingTasks_unknown {owner : String} {f : TaskFilter} {now : Int} {db : Database} (named : f.status ≠ "")
    (unknown : internalStatuses f.status = []) : matchingTasks owner f now db = [] := by
  suffices none : db.tasks.filter (f.accepts owner now db) = [] by rw [matchingTasks, none]; rfl
  rw [List.filter_eq_nil_iff]
  intro t _ accepted
  have shown : (taskPublicStatus db t).text = f.status := by
    simp only [TaskFilter.accepts, Bool.and_eq_true, Bool.or_eq_true, beq_iff_eq] at accepted
    exact accepted.1.2.resolve_left named
  rw [internalStatuses, List.filter_eq_nil_iff] at unknown
  have no (status : TaskStatus) : status.v2.text ≠ f.status := by
    intro same
    exact unknown status (by cases status <;> decide) (by rw [same, beq_self_eq_true])
  cases status : taskPublicStatus db t with
  | queued => exact no .queuedOpen (by rw [← shown, status]; rfl)
  | running => exact no .running (by rw [← shown, status]; rfl)
  | succeeded => exact no .succeeded (by rw [← shown, status]; rfl)
  | failed => exact no .failed (by rw [← shown, status]; rfl)
  | cancelled => exact no .cancelled (by rw [← shown, status]; rfl)

/-- The offset that SQLite sees. -/
theorem offset_toInt {n s : Int64} (hn : 1 ≤ n) : ((n - 1) * s).toInt = ((n.toInt - 1) * s.toInt).bmod (2 ^ 64) := by
  have low : 1 ≤ n.toInt := Int64.le_iff_toInt_le.mp hn
  have high := n.toInt_lt
  have before : (n - 1).toInt = n.toInt - 1 := by
    rw [Int64.toInt_sub]
    exact Int.bmod_eq_of_le (by show _ ≤ n.toInt - 1; omega) (by show n.toInt - 1 < _; omega)
  rw [Int64.toInt_mul, before]

/-- The page is cut out where it should be, unless the product overflows and rows are there. -/
theorem limitOffset_eq {rows : List Task} (distinct : rows.Nodup) {n s : Int64} (hn : 1 ≤ n) (hs : 1 ≤ s) :
    limitOffset rows s ((n - 1) * s) = pageOf rows n.toInt s.toInt ↔
      (n.toInt - 1) * s.toInt < 2 ^ 63 ∨ rows.length ≤ (((n.toInt - 1) * s.toInt).bmod (2 ^ 64)).toNat := by
  have lowS : 1 ≤ s.toInt := Int64.le_iff_toInt_le.mp hs
  have lowN : 1 ≤ n.toInt := Int64.le_iff_toInt_le.mp hn
  have positive : 0 ≤ (n.toInt - 1) * s.toInt := Int.mul_nonneg (by omega) (by omega)
  rw [limitOffset, pageOf, offset_toInt hn]
  generalize (n.toInt - 1) * s.toInt = offset at positive
  by_cases fits : offset < 2 ^ 63
  · rw [Int.bmod_eq_of_le (by show _ ≤ offset; omega) (by show offset < _; omega)]
    exact iff_of_true rfl (.inl fits)
  · have wrapped : (offset.bmod (2 ^ 64)).toNat < offset.toNat := by
      have : offset.bmod (2 ^ 64) < (2 ^ 64 + 1) / 2 := Int.bmod_lt (by decide)
      omega
    rw [take_drop_eq distinct wrapped (by omega)]
    exact ⟨.inr, fun h => h.resolve_left fits⟩

/-- `List` returns exactly the rows of the page, which are on no other page, if and only if
the offset does not overflow or lies behind the last row. -/
theorem list_page (owner : String) (f : TaskFilter) (now : Int) (db : Database) (hn : 1 ≤ f.pageNum) (hs : 1 ≤ f.pageSize) :
    let rows := matchingTasks owner f (unix now) db
    let n := f.pageNum.toInt
    let s := f.pageSize.toInt
    (Store.list owner f now db = .ok (pageOf rows n s, rows.length) ↔
      ((n - 1) * s < 2 ^ 63 ∨ rows.length ≤ (((n - 1) * s).bmod (2 ^ 64)).toNat) ∧
        ∀ t ∈ pageOf rows n s, Readable t) ∧
      ∀ m, 1 ≤ m → m ≠ n → (pageOf rows n s).Disjoint (pageOf rows m s) := by
  intro rows n s
  have distinct : rows.Nodup := matchingTasks_nodup ..
  have lowS : 1 ≤ s := Int64.le_iff_toInt_le.mp hs
  have lowN : 1 ≤ n := Int64.le_iff_toInt_le.mp hn
  refine ⟨?_, fun m hm other => pages_disjoint distinct (Ne.symm other) lowN hm lowS⟩
  unfold Store.list
  split
  · rename_i unknown
    have none : rows = [] := matchingTasks_unknown unknown.1 unknown.2
    simp [none, pageOf]
  · have num : (if f.pageNum ≤ 0 then 1 else f.pageNum) = f.pageNum := if_neg (by rw [Int64.le_iff_toInt_le]; exact by show ¬ n ≤ 0; omega)
    have size : (if f.pageSize ≤ 0 then 20 else f.pageSize) = f.pageSize :=
      if_neg (by rw [Int64.le_iff_toInt_le]; exact by show ¬ s ≤ 0; omega)
    simp only [num, size]
    rw [← limitOffset_eq distinct hn hs]
    show (match (limitOffset rows f.pageSize ((f.pageNum - 1) * f.pageSize)).mapM scanTask with
      | .error e => .error e
      | .ok items => .ok (items, rows.length) : Except Err (List Task × Nat)) = _ ↔ _
    cases read : (limitOffset rows f.pageSize ((f.pageNum - 1) * f.pageSize)).mapM scanTask with
    | error e =>
      refine ⟨nofun, fun ⟨same, fine⟩ => ?_⟩
      rw [mapM_scanTask.mpr ⟨rfl, same ▸ fine⟩] at read
      cases read
    | ok items =>
      obtain ⟨rfl, fine⟩ := mapM_scanTask.mp read
      simp only [Except.ok.injEq, Prod.mk.injEq, and_true]
      exact ⟨fun same => ⟨same, same ▸ fine⟩, fun h => h.1⟩

/-- Two tasks of one key. -/
def listedTask (id : String) (created : Int) (seq : Nat) : Task :=
  { queueSeq := seq, taskID := id, apiKeyID := "k1", requestJSON := .value { model := "MiniMax-H3", content := [] }
    createdAt := created, updatedAt := created, expiresAt := 1000 }

def listedTasks : Database :=
  DB.empty.load [.insert Tbl.videoTasks fun _ seq => [listedTask "t1" 1 seq], .insert Tbl.videoTasks fun _ seq => [listedTask "t2" 2 seq]]

/-- The second page of size one holds the older task. -/
theorem list_page_second :
    Store.list "k1" { pageNum := 2, pageSize := 1 } 5000 listedTasks = .ok ([listedTask "t1" 1 1], 2) := by
  have listed := (list_page "k1" { pageNum := 2, pageSize := 1 } 5000 listedTasks (by decide) (by decide)).1
  refine listed.mpr ⟨.inl (by decide), fun t mem => ?_⟩
  obtain rfl : t = listedTask "t1" 1 1 := List.mem_singleton.mp mem
  rfl

/-- A page far behind the last one starts again at the first task. -/
theorem overflowing_page_repeats :
    let f : TaskFilter := { pageNum := 92233720368547760, pageSize := 100 }
    Store.list "k1" f 5000 listedTasks = .ok ([listedTask "t2" 2 2, listedTask "t1" 1 1], 2) ∧
      pageOf (matchingTasks "k1" f (unix 5000) listedTasks) f.pageNum.toInt f.pageSize.toInt = [] ∧
      Store.list "k1" { f with pageNum := 1 } 5000 listedTasks = .ok ([listedTask "t2" 2 2, listedTask "t1" 1 1], 2) :=
  ⟨rfl, rfl, rfl⟩

end MinimaxProxy.Store
