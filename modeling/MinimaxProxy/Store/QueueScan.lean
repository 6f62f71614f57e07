import MinimaxProxy.Sql.Eval
import MinimaxProxy.Store.Routing

/-!
# What the scan of the queue finds

`nextEligibleTask` reads the waiting tasks page by page and runs the node's checks on each.
`nextEligibleTask_eval` says what it returns when no statement fails: the first waiting task
that the checks accept, provided that the checks refuse every task before it and that every
row of the pages read decodes.
-/

namespace MinimaxProxy.Store
open Sql Sql.Prog

variable {before done l : List Task} {s t u : Task}

/-- The waiting tasks, in queue order. -/
def waiting (db : Database) : List Task := db.tasks.filter Waiting

/-- The answer of the node's checks on a task, or the error they stop with. -/
def accepts (db : Database) (nodeID : String) (now : Int) (t : Task) : Except Err Bool :=
  ((accepted nodeID now t).eval db).1

/-- The row decodes. -/
def Readable (t : Task) : Prop := scanTask t = .ok t

/-! ## The checks only read -/

section
variable {P : Dml → Prop}

theorem reads_catalogWith (nodeID : String) : (catalogWith nodeID).Reads :=
  reads_bind reads_query fun _ => reads_bind reads_query fun _ => reads_pure

@[simp] theorem writes_catalogWith (nodeID : String) : (catalogWith nodeID).Writes P := (reads_catalogWith nodeID).writes

theorem reads_taskEligibleForNode (t : Task) (nodeID : String) (now : Int) : (taskEligibleForNode t nodeID now).Reads := by
  unfold taskEligibleForNode
  split
  · exact reads_pure
  · refine reads_bind reads_query fun node => ?_
    cases node with
    | none => exact reads_pure
    | some node =>
      dsimp only
      split
      · exact reads_pure
      · refine reads_bind (reads_catalogWith nodeID) fun cat => ?_
        split
        · exact reads_pure
        · split
          · exact reads_pure
          · exact reads_fail

theorem writes_taskEligibleForNode (t : Task) (nodeID : String) (now : Int) : (taskEligibleForNode t nodeID now).Writes P :=
  (reads_taskEligibleForNode t nodeID now).writes

theorem reads_sourceAccepted (t : Task) (index : Nat) (item : GenerationContent) (url : String) :
    (sourceAccepted t index item url).Reads := by
  unfold sourceAccepted
  dsimp only
  split
  · exact reads_pure
  · split
    · exact reads_pure
    · split
      · exact reads_bind reads_query fun _ => reads_pure
      · exact reads_pure

theorem reads_mediaAccepted (t : Task) (content : List GenerationContent) (index : Nat) : (mediaAccepted t index content).Reads := by
  induction content generalizing index with
  | nil => exact reads_pure
  | cons item rest ih =>
    unfold mediaAccepted
    split
    · exact ih (index + 1)
    · refine reads_bind (reads_sourceAccepted t index item _) fun accepted => ?_
      split
      · exact ih (index + 1)
      · exact reads_pure

theorem reads_accepted {nodeID : String} {now : Int} : (accepted nodeID now t).Reads := by
  refine reads_bind (reads_taskEligibleForNode t nodeID now) fun eligible => ?_
  split
  · split
    · exact reads_pure
    · exact reads_mediaAccepted t _ 0
  · exact reads_pure

theorem reads_firstAccepted (nodeID : String) (now : Int) (page : List Task) : (firstAccepted nodeID now page).Reads := by
  induction page with
  | nil => exact reads_pure
  | cons t rest ih =>
    refine reads_bind reads_accepted fun taken => ?_
    split
    · exact reads_pure
    · exact ih

theorem reads_scanPages (nodeID : String) (now : Int) (pages : Nat) (page : List Task) : (scanPages nodeID now pages page).Reads := by
  induction pages generalizing page with
  | zero =>
    refine reads_bind (reads_firstAccepted nodeID now page) fun found => ?_
    cases found with
    | some t => exact reads_pure
    | none => exact reads_fail
  | succ pages ih =>
    refine reads_bind (reads_firstAccepted nodeID now page) fun found => ?_
    cases found with
    | some t => exact reads_pure
    | none =>
      dsimp only
      split
      · exact reads_fail
      · exact reads_bind reads_query fun next => ih next

theorem reads_nextEligibleTask (nodeID : String) (now : Int) : (nextEligibleTask nodeID now).Reads :=
  reads_bind reads_query fun (tasks, pages) => reads_scanPages nodeID now pages tasks

@[simp] theorem writes_nextEligibleTask (nodeID : String) (now : Int) : (nextEligibleTask nodeID now).Writes P :=
  (reads_nextEligibleTask nodeID now).writes

end

theorem accepted_eval {nodeID : String} {now : Int} {db : Database} :
    (accepted nodeID now t).eval db = (accepts db nodeID now t, db) := eval_readOnly reads_accepted.only db

/-! ## One page -/

section
variable {db : Database} {nodeID : String} {now : Int}

/-- One task of a page: the error of the checks, the task, or the rest of the page. -/
theorem firstAccepted_cons {rest : List Task} : (firstAccepted nodeID now (t :: rest)).eval db =
      match accepts db nodeID now t with
      | .error e => (.error e, db)
      | .ok true => (.ok (some t), db)
      | .ok false => (firstAccepted nodeID now rest).eval db := by
  rw [firstAccepted, eval_bind, accepted_eval]
  cases accepts db nodeID now t with
  | error e => rfl
  | ok b => cases b <;> rfl

/-- The tasks before `s` are refused and `s` is accepted. -/
structure Reached (db : Database) (nodeID : String) (now : Int) (before : List Task) (s : Task) : Prop where
  refused : ∀ u ∈ before, accepts db nodeID now u = .ok false
  accepted : accepts db nodeID now s = .ok true

variable (db nodeID now) in
/-- A page ends in one of three ways: an accepted task, every task refused, or an error
of the checks after refused tasks only. -/
theorem firstAccepted_eval (page : List Task) : (∃ before s after, page = before ++ s :: after ∧ Reached db nodeID now before s ∧
        (firstAccepted nodeID now page).eval db = (.ok (some s), db)) ∨
    ((∀ u ∈ page, accepts db nodeID now u = .ok false) ∧ (firstAccepted nodeID now page).eval db = (.ok none, db)) ∨
    ∃ before u after e, page = before ++ u :: after ∧ (∀ w ∈ before, accepts db nodeID now w = .ok false) ∧
      accepts db nodeID now u = .error e ∧ (firstAccepted nodeID now page).eval db = (.error e, db) := by
  induction page with
  | nil => exact .inr (.inl ⟨by simp, rfl⟩)
  | cons t rest ih =>
    rw [firstAccepted_cons]
    cases verdict : accepts db nodeID now t with
    | error e => exact .inr (.inr ⟨[], t, rest, e, rfl, by simp, verdict, rfl⟩)
    | ok b =>
      cases b with
      | true => exact .inl ⟨[], t, rest, rfl, ⟨by simp, verdict⟩, rfl⟩
      | false =>
        obtain ⟨before, s, after, rfl, reached, out⟩ | ⟨refused, out⟩ | ⟨before, u, after, e, rfl, refused, failed, out⟩ := ih
        · refine .inl ⟨t :: before, s, after, rfl, ⟨?_, reached.accepted⟩, out⟩
          exact List.forall_mem_cons.mpr ⟨verdict, reached.refused⟩
        · exact .inr (.inl ⟨List.forall_mem_cons.mpr ⟨verdict, refused⟩, out⟩)
        · exact .inr (.inr ⟨t :: before, u, after, e, rfl, List.forall_mem_cons.mpr ⟨verdict, refused⟩, failed, out⟩)

/-- In one list only one task is reached, and it is reached before any error. -/
theorem Reached.unique {after before' after' : List Task} (reached : Reached db nodeID now before s)
    (refused : ∀ w ∈ before', accepts db nodeID now w = .ok false) (stops : accepts db nodeID now u ≠ .ok false)
    (same : before ++ s :: after = before' ++ u :: after') : before = before' ∧ s = u := by
  have stops' : accepts db nodeID now s ≠ .ok false := by rw [reached.accepted]; simp
  rcases List.append_eq_append_iff.mp same with ⟨mid, rfl, tail⟩ | ⟨mid, rfl, tail⟩
  · cases mid with
    | nil => simp at tail; simp [tail]
    | cons w mid =>
      simp at tail
      exact absurd (refused w (by simp)) (tail.1 ▸ stops')
  · cases mid with
    | nil => simp at tail; simp [tail]
    | cons w mid =>
      simp at tail
      exact absurd (reached.refused w (by simp)) (tail.1 ▸ stops)

/-! ## Paging -/

theorem mapM_scanTask {l' : List Task} : l.mapM scanTask = .ok l' ↔ l' = l ∧ ∀ t ∈ l, Readable t := by
  induction l generalizing l' with
  | nil => simp [pure, Except.pure, eq_comm]
  | cons t l ih =>
    rw [List.mapM_cons]
    have scanned : scanTask t = .ok t ∨ scanTask t = .error .decode := by
      unfold scanTask
      split <;> simp
    obtain ok | bad := scanned
    · cases rest : l.mapM scanTask with
      | error e =>
        have notAll : ¬ ∀ t ∈ l, Readable t := by
          intro all
          have := ih.mpr ⟨rfl, all⟩
          rw [rest] at this
          cases this
        simp only [ok, Bind.bind, Except.bind, reduceCtorEq, false_iff, not_and]
        exact fun _ all => notAll fun u hu => all u (by simp [hu])
      | ok read =>
        obtain ⟨rfl, all⟩ := ih.mp rest
        simp only [ok, Bind.bind, Except.bind, pure, Except.pure, Except.ok.injEq]
        refine ⟨fun h => ⟨h.symm, ?_⟩, fun h => h.1.symm⟩
        exact List.forall_mem_cons.mpr ⟨ok, all⟩
    · simp only [bad, Bind.bind, Except.bind, reduceCtorEq, false_iff, not_and]
      intro _ all
      have := all t (by simp)
      rw [Readable, bad] at this
      cases this

theorem waiting_sorted (db : Database) : (waiting db).Pairwise fun a b => a.queueSeq < b.queueSeq := by
  refine List.Pairwise.filter _ ((db Tbl.videoTasks).fit.imp fun {a b} h => ?_)
  have fits : Task.fits a b = true := h
  simp only [Task.fits, Bool.and_eq_true, decide_eq_true_eq] at fits
  exact fits.1

/-- The rows after the last one of a page. -/
theorem filter_after {left : List Task} {last : Task} (sorted : (done ++ last :: left).Pairwise fun a b => a.queueSeq < b.queueSeq) :
    (done ++ last :: left).filter (fun t => decide (t.queueSeq > last.queueSeq)) = left := by
  obtain ⟨-, tail, across⟩ := List.pairwise_append.mp sorted
  rw [List.filter_append, List.filter_eq_nil_iff.mpr, List.nil_append, List.filter_cons]
  · rw [List.pairwise_cons] at tail
    simpa using tail.1
  · intro t ht
    have := across t ht last (by simp)
    simp only [gt_iff_lt, decide_eq_true_eq]
    omega

theorem waitingPage_eq (after : Nat) (db : Database) :
    waitingPage after db = (((waiting db).filter fun t => decide (t.queueSeq > after)).take 100).mapM scanTask := by
  rw [waitingPage, waiting, List.filter_filter]
  congr 3
  funext t
  exact Bool.and_comm _ _

/-- The rows on the pages up to the one of the `n`-th row. -/
def pagesTo (n : Nat) (l : List Task) : List Task := l.take ((n / 100 + 1) * 100)

/-- `s` is the first accepted task of `l`, and the pages up to it decode; the first page is
not looked at. -/
def Found (db : Database) (nodeID : String) (now : Int) (l : List Task) (s : Task) : Prop :=
  ∃ before after, l = before ++ s :: after ∧ Reached db nodeID now before s ∧
    ∀ u ∈ (pagesTo before.length l).drop 100, Readable u

/-- Nothing is found past a row the checks stop at. -/
theorem Found.unique {after : List Task} (found : Found db nodeID now l s)
    (split : l = before ++ u :: after) (refused : ∀ w ∈ before, accepts db nodeID now w = .ok false)
    (stops : accepts db nodeID now u ≠ .ok false) : s = u := by
  obtain ⟨before', after', whole, reached, -⟩ := found
  exact (reached.unique refused stops (whole.symm.trans split)).2

theorem not_found_of_refused (refused : ∀ u ∈ l, accepts db nodeID now u = .ok false) :
    ¬ Found db nodeID now l s := by
  rintro ⟨before, after, rfl, reached, -⟩
  have := refused s (by simp)
  rw [reached.accepted] at this
  cases this

/-- A page whose tasks are all refused is skipped, and the next one has to decode. -/
theorem found_drop (full : 100 ≤ l.length) (refused : ∀ u ∈ l.take 100, accepts db nodeID now u = .ok false) :
    Found db nodeID now l s ↔ (∀ u ∈ (l.drop 100).take 100, Readable u) ∧ Found db nodeID now (l.drop 100) s := by
  have page : (l.take 100).length = 100 := by simp; omega
  constructor
  · rintro ⟨before, after, rfl, reached, readable⟩
    have long : 100 ≤ before.length := by
      by_contra short
      have inside : s ∈ (before ++ s :: after).take 100 := by
        rw [List.take_append, List.take_of_length_le (by omega)]
        obtain ⟨k, hk⟩ : ∃ k, 100 - before.length = k + 1 := ⟨99 - before.length, by omega⟩
        simp [hk]
      have := refused s inside
      rw [reached.accepted] at this
      cases this
    have split : (before ++ s :: after).drop 100 = before.drop 100 ++ s :: after := by
      rw [List.drop_append_of_le_length long]
    have pages : (before.length / 100 + 1) * 100 = 100 + ((before.length - 100) / 100 + 1) * 100 := by omega
    rw [pagesTo, pages, List.drop_take, Nat.add_sub_cancel_left] at readable
    refine ⟨fun u hu => readable u ?_, before.drop 100, after, split, ⟨fun u hu => ?_, reached.accepted⟩, fun u hu => ?_⟩
    · exact List.mem_of_mem_take (by rw [List.take_take, Nat.min_eq_left (by omega)]; exact hu : u ∈ (List.take _ _).take 100)
    · exact reached.refused u (List.mem_of_mem_drop hu)
    · rw [pagesTo, List.length_drop] at hu
      exact readable u (List.mem_of_mem_drop hu)
  · rintro ⟨next, before, after, split, reached, readable⟩
    refine ⟨l.take 100 ++ before, after, ?_, ⟨fun u hu => ?_, reached.accepted⟩, fun u hu => ?_⟩
    · rw [List.append_assoc, ← split, List.take_append_drop]
    · rcases List.mem_append.mp hu with hu | hu
      · exact refused u hu
      · exact reached.refused u hu
    · have pages : ((l.take 100 ++ before).length / 100 + 1) * 100 = 100 + (before.length / 100 + 1) * 100 := by
        rw [List.length_append, page]
        omega
      rw [pagesTo, pages, List.drop_take, Nat.add_sub_cancel_left] at hu
      have whole : u ∈ (pagesTo before.length (l.drop 100)).take 100 ++ (pagesTo before.length (l.drop 100)).drop 100 := by
        rw [List.take_append_drop]
        exact hu
      rcases List.mem_append.mp whole with hu | hu
      · rw [pagesTo, List.take_take, Nat.min_eq_left (by omega)] at hu
        exact next u hu
      · exact readable u hu

/-- A task reached on the first page is what is found. -/
theorem found_iff_of_page {after : List Task} (page : l.take 100 = before ++ t :: after)
    (reached : Reached db nodeID now before t) : Found db nodeID now l s ↔ t = s := by
  have split : l = before ++ t :: (after ++ l.drop 100) := by
    rw [← List.cons_append, ← List.append_assoc, ← page, List.take_append_drop]
  constructor
  · intro found
    exact (found.unique split reached.refused (by simp [reached.accepted])).symm
  · rintro rfl
    refine ⟨before, _, split, reached, fun u hu => ?_⟩
    have short : before.length < 100 := by
      have := congrArg List.length page
      simp only [List.length_take, List.length_append, List.length_cons] at this
      omega
    rw [pagesTo, Nat.div_eq_of_lt short, List.drop_take] at hu
    simp at hu

/-- An error on the first page leaves nothing to be found. -/
theorem not_found_of_error {after : List Task} {e : Err} (page : l.take 100 = before ++ u :: after)
    (refused : ∀ w ∈ before, accepts db nodeID now w = .ok false) (failed : accepts db nodeID now u = .error e) :
    ¬ Found db nodeID now l s := by
  intro found
  have split : l = before ++ u :: (after ++ l.drop 100) := by
    rw [← List.cons_append, ← List.append_assoc, ← page, List.take_append_drop]
  obtain rfl := found.unique split refused (by simp [failed])
  obtain ⟨before', after', -, reached, -⟩ := found
  rw [reached.accepted] at failed
  cases failed

/-- The page after a full one. -/
theorem waitingPage_next (whole : waiting db = done ++ l) (full : 100 ≤ l.length) :
    waitingPage (((l.take 100).getLast?.map (·.queueSeq)).getD 0) db = ((l.drop 100).take 100).mapM scanTask := by
  have nonempty : l.take 100 ≠ [] := by
    intro empty
    have := congrArg List.length empty
    simp only [List.length_take, List.length_nil] at this
    omega
  have split : waiting db = (done ++ (l.take 100).dropLast) ++ (l.take 100).getLast nonempty :: l.drop 100 := by
    rw [whole, List.append_assoc, ← List.singleton_append, ← List.append_assoc _ [_], List.dropLast_append_getLast,
      List.take_append_drop]
  rw [waitingPage_eq, List.getLast?_eq_some_getLast nonempty, split]
  have sorted := waiting_sorted db
  rw [split] at sorted
  rw [Option.map_some, Option.getD_some, filter_after sorted]

/-- The loop from a page on, over the rest `l` of the queue. -/
theorem scanPages_eval (pages : Nat) (whole : waiting db = done ++ l) (enough : l.length ≤ 100 * (pages + 1)) (s : Task) :
    ((scanPages nodeID now pages (l.take 100)).eval db).1 = .ok s ↔ Found db nodeID now l s := by
  induction pages generalizing done l with
  | zero =>
    rw [scanPages, eval_bind]
    obtain ⟨before, t, after, page, reached, out⟩ | ⟨refused, out⟩ | ⟨before, u, after, e, page, refused, failed, out⟩ :=
      firstAccepted_eval db nodeID now (l.take 100)
    · simp [out, found_iff_of_page page reached]
    · rw [List.take_of_length_le (by omega)] at refused
      simp [out, not_found_of_refused refused]
    · simp [out, not_found_of_error page refused failed]
  | succ pages ih =>
    rw [scanPages, eval_bind]
    obtain ⟨before, t, after, page, reached, out⟩ | ⟨refused, out⟩ | ⟨before, u, after, e, page, refused, failed, out⟩ :=
      firstAccepted_eval db nodeID now (l.take 100)
    · simp [out, found_iff_of_page page reached]
    · simp only [out]
      by_cases full : 100 ≤ l.length
      · have length : ¬ (l.take 100).length < 100 := by
          rw [List.length_take]
          omega
        rw [if_neg length, eval_bind, eval_query, waitingPage_next whole full, found_drop full refused]
        cases read : ((l.drop 100).take 100).mapM scanTask with
        | error e =>
          simp only [reduceCtorEq, false_iff, not_and]
          intro readable
          have := mapM_scanTask.mpr ⟨rfl, readable⟩
          rw [read] at this
          cases this
        | ok page =>
          obtain ⟨rfl, readable⟩ := mapM_scanTask.mp read
          have rest : waiting db = (done ++ l.take 100) ++ l.drop 100 := by
            rw [whole, List.append_assoc, List.take_append_drop]
          have left : (l.drop 100).length ≤ 100 * (pages + 1) := by
            rw [List.length_drop]
            omega
          rw [ih rest left]
          exact ⟨fun found => ⟨readable, found⟩, fun h => h.2⟩
      · rw [List.take_of_length_le (by omega)] at refused ⊢
        rw [if_pos (by omega)]
        simp [not_found_of_refused refused]
    · simp [out, not_found_of_error page refused failed]

theorem waitingPage_zero : waitingPage 0 db = ((waiting db).take 100).mapM scanTask := by
  rw [waitingPage_eq, List.filter_eq_self.mpr]
  intro t ht
  have checked : Task.check _ t = true := (db Tbl.videoTasks).checked t (List.mem_filter.mp ht).1
  simp only [Task.check, Bool.and_eq_true, decide_eq_true_eq] at checked
  simp only [gt_iff_lt, decide_eq_true_eq]
  omega

/-- The scan returns `s` exactly when `s` is the first accepted task of the queue and every
row on the pages up to it decodes. -/
theorem nextEligibleTask_eval : ((nextEligibleTask nodeID now).eval db).1 = .ok s ↔
      ∃ before after, waiting db = before ++ s :: after ∧ Reached db nodeID now before s ∧
        ∀ u ∈ pagesTo before.length (waiting db), Readable u := by
  rw [nextEligibleTask, eval_bind, eval_query, waitingPage_zero]
  have pages (before : List Task) : pagesTo before.length (waiting db) =
      (waiting db).take 100 ++ (pagesTo before.length (waiting db)).drop 100 := by
    conv_lhs => rw [← List.take_append_drop 100 (pagesTo before.length (waiting db))]
    rw [pagesTo, List.take_take, Nat.min_eq_left (by omega)]
  cases read : ((waiting db).take 100).mapM scanTask with
  | error e =>
    simp only [Except.map, reduceCtorEq, false_iff, not_exists, not_and]
    intro before after split reached readable
    have := mapM_scanTask.mpr ⟨rfl, fun u hu => readable u (by rw [pages before]; exact List.mem_append_left _ hu)⟩
    rw [read] at this
    cases this
  | ok page =>
    obtain ⟨rfl, readable⟩ := mapM_scanTask.mp read
    have enough : (waiting db).length ≤ 100 * (db.tasks.length + 1) := by
      have : (waiting db).length ≤ db.tasks.length := List.length_filter_le Waiting db.tasks
      omega
    simp only [Except.map]
    rw [scanPages_eval db.tasks.length (List.nil_append (waiting db)).symm enough]
    refine ⟨fun ⟨before, after, split, reached, rest⟩ => ⟨before, after, split, reached, fun u hu => ?_⟩,
      fun ⟨before, after, split, reached, all⟩ => ⟨before, after, split, reached, fun u hu => all u (List.mem_of_mem_drop hu)⟩⟩
    rw [pages before] at hu
    rcases List.mem_append.mp hu with hu | hu
    · exact readable u hu
    · exact rest u hu

/-- What the scan returns waits, and the node accepts it. -/
theorem nextEligibleTask_returns {db' : Database} (out : (nextEligibleTask nodeID now).Returns db s db') :
    s ∈ db.tasks ∧ Waiting s = true ∧ accepts db nodeID now s = .ok true := by
  have scan := (reads_nextEligibleTask nodeID now).eval _ _ _ out
  obtain ⟨before, after, split, reached, -⟩ := nextEligibleTask_eval.mp (congrArg Prod.fst scan)
  have waits : s ∈ waiting db := by simp [split]
  exact ⟨(List.mem_filter.mp waits).1, (List.mem_filter.mp waits).2, reached.accepted⟩

end

end MinimaxProxy.Store
