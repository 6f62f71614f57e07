import MinimaxProxy.Store.Pipeline
import MinimaxProxy.Store.QueueScan

/-!
# What the scan of the stages finds

`nextEligibleStage` reads the candidates of a claim in pages of one hundred, each after the last
row of the page before. `scanStagePages_eval` says that the pages make no difference: the scan ends
as one look at all candidates in their order does.
-/

namespace MinimaxProxy.Store
open Sql Sql.Prog

/-! ## The scan only reads -/

section
variable (nodeID : String) (now : Int)

theorem reads_stageTaken (c : Candidate) : (stageTaken nodeID now c).Reads := by
  refine reads_bind reads_query fun s => reads_bind reads_query fun active => ?_
  split
  · exact reads_pure
  · exact reads_bind reads_query fun t => reads_bind (reads_taskEligibleForNode t nodeID _) fun _ => reads_pure

theorem reads_firstTaken (batch : List Candidate) : (firstTaken nodeID now batch).Reads := by
  induction batch with
  | nil => exact reads_pure
  | cons c rest ih =>
    refine reads_bind (reads_stageTaken nodeID now c) fun found => ?_
    cases found with
    | some s => exact reads_pure
    | none => exact ih

theorem reads_scanStagePages (pages : Nat) (batch : List Candidate) : (scanStagePages nodeID now pages batch).Reads := by
  induction pages generalizing batch with
  | zero =>
    refine reads_bind (reads_firstTaken nodeID now batch) fun found => ?_
    cases found with
    | some s => exact reads_pure
    | none => exact reads_fail
  | succ pages ih =>
    refine reads_bind (reads_firstTaken nodeID now batch) fun found => ?_
    cases found with
    | some s => exact reads_pure
    | none =>
      dsimp only
      split
      · exact reads_fail
      · split
        · exact reads_fail
        · exact reads_bind reads_query fun _ => ih _

theorem reads_nextEligibleStage : (nextEligibleStage nodeID now).Reads :=
  reads_bind reads_query fun (batch, pages) => reads_scanStagePages nodeID now pages batch

@[simp] theorem writes_nextEligibleStage {P : Dml → Prop} : (nextEligibleStage nodeID now).Writes P :=
  (reads_nextEligibleStage nodeID now).writes

end

/-! ## Candidates -/

/-- All candidates of a claim, in the order of the query. -/
def candidates (nodeID : String) (now : Int) (db : Database) : Except Err (List Candidate) :=
  (db.tasks.flatMapM (taskCandidates nodeID now db)).map fun rows => rows.insertionSort fun a b => Candidate.le a b

/-- SQLite reads the request document and finds no file of the official service. -/
def plainRequest (t : Task) : Bool := officialFiles t.requestJSON == some false

/-- What the query selects. -/
def IsCandidate (nodeID : String) (now : Int) (db : Database) (c : Candidate) : Prop :=
  ∃ t ∈ db.tasks, ∃ s ∈ db.stages, stageCandidate nodeID now db s t = true ∧ plainRequest t = true ∧
    c = { id := s.id, queueSeq := t.queueSeq, stageOrder := s.stageOrder }

/-- `task.queue_seq>? OR (task.queue_seq=? AND candidate.stage_order>?)`. -/
def Candidate.after (queueSeq : Nat) (order : Int) (c : Candidate) : Bool :=
  c.queueSeq > queueSeq || (c.queueSeq == queueSeq && c.stageOrder > order)

/-- The cursor of `a` comes before `b`. -/
def Candidate.Before (a b : Candidate) : Prop := b.after a.queueSeq a.stageOrder = true

theorem Candidate.before_iff {a b : Candidate} :
    a.Before b ↔ a.queueSeq < b.queueSeq ∨ a.queueSeq = b.queueSeq ∧ a.stageOrder < b.stageOrder := by
  simp only [Before, after, Bool.or_eq_true, Bool.and_eq_true, decide_eq_true_eq, beq_iff_eq]
  omega

theorem Candidate.le_iff {a b : Candidate} :
    a.le b = true ↔ a.queueSeq < b.queueSeq ∨ a.queueSeq = b.queueSeq ∧ a.stageOrder ≤ b.stageOrder := by
  simp [le]

instance : Std.Total fun a b : Candidate => a.le b = true := ⟨fun a b => by simp only [Candidate.le_iff]; omega⟩
instance : IsTrans Candidate fun a b => a.le b = true := ⟨fun a b c => by simp only [Candidate.le_iff]; omega⟩

section
variable {nodeID : String} {now : Int} {db : Database} {l rows : List Candidate}

theorem flatMapM_ok {α β ε : Type} {f : α → Except ε (List β)} {as : List α} {bs : List β} (ok : as.flatMapM f = .ok bs) :
    bs = as.flatMap fun a => (f a).toOption.getD [] := by
  induction as generalizing bs with
  | nil =>
    cases ok
    rfl
  | cons a as ih =>
    rw [List.flatMapM_cons] at ok
    cases head : f a with
    | error e =>
      rw [head] at ok
      cases ok
    | ok first =>
      cases tail : as.flatMapM f with
      | error e =>
        rw [head, tail] at ok
        cases ok
      | ok rest =>
        rw [head, tail] at ok
        cases ok
        rw [List.flatMap_cons, head, ← ih tail]
        rfl

theorem taskCandidates_rows (t : Task) : (taskCandidates nodeID now db t).toOption.getD [] =
    if plainRequest t then (db.stages.filter fun s => stageCandidate nodeID now db s t).map fun s =>
      { id := s.id, queueSeq := t.queueSeq, stageOrder := s.stageOrder : Candidate } else [] := by
  unfold taskCandidates plainRequest
  rcases officialFiles t.requestJSON with _ | official | official
  · dsimp only
    split <;> rfl
  · rfl
  · rfl

theorem stageCandidate_task {s : Stage} {t : Task} (h : stageCandidate nodeID now db s t = true) : t.taskID = s.taskID := by
  simp only [stageCandidate, Bool.and_eq_true, beq_iff_eq, and_assoc] at h
  exact h.1

/-- The rows of the query: what it selects, no two of them at one place. -/
theorem rows_spec (listed : db.tasks.flatMapM (taskCandidates nodeID now db) = .ok rows) :
    (∀ c, c ∈ rows ↔ IsCandidate nodeID now db c) ∧ rows.Pairwise fun a b => ¬ (a.queueSeq = b.queueSeq ∧ a.stageOrder = b.stageOrder) := by
  simp only [flatMapM_ok listed, taskCandidates_rows]
  constructor
  · intro c
    rw [List.mem_flatMap, IsCandidate]
    refine exists_congr fun t => and_congr_right fun _ => ?_
    cases plainRequest t <;> simp [and_assoc, @eq_comm _ c]
  · refine List.pairwise_flatMap.mpr ⟨fun t _ => ?_, (db Tbl.videoTasks).fit.imp fun {t u} fits x ofT y ofU same => ?_⟩
    · split
      · refine List.pairwise_map.mpr (((db Tbl.taskStages).fit.filter _).imp_of_mem fun {s s'} mem mem' fits same => ?_)
        have order : s.stageOrder = s'.stageOrder := same.2
        have task : s.taskID = s'.taskID :=
          (stageCandidate_task (List.mem_filter.mp mem).2).symm.trans (stageCandidate_task (List.mem_filter.mp mem').2)
        have fits : Stage.fits s s' = true := fits
        simp [Stage.fits, task, order] at fits
      · exact .nil
    · have seq {v : Task} {c : Candidate} (mem : c ∈ if plainRequest v then
          (db.stages.filter fun s => stageCandidate nodeID now db s v).map fun s =>
            { id := s.id, queueSeq := v.queueSeq, stageOrder := s.stageOrder : Candidate } else []) : c.queueSeq = v.queueSeq := by
        split at mem
        · obtain ⟨s, -, rfl⟩ := List.mem_map.mp mem
          rfl
        · cases mem
      have fits : Task.fits t u = true := fits
      simp only [Task.fits, Bool.and_eq_true, decide_eq_true_eq] at fits
      have := same.1
      rw [seq ofT, seq ofU] at this
      omega

/-- Sorted rows that are all at places of their own. -/
theorem sorted_before (apart : rows.Pairwise fun a b => ¬ (a.queueSeq = b.queueSeq ∧ a.stageOrder = b.stageOrder)) :
    (rows.insertionSort fun a b => a.le b).Pairwise Candidate.Before := by
  have sorted := rows.pairwise_insertionSort fun a b => a.le b = true
  have symm {a b : Candidate} (h : ¬ (a.queueSeq = b.queueSeq ∧ a.stageOrder = b.stageOrder)) :
      ¬ (b.queueSeq = a.queueSeq ∧ b.stageOrder = a.stageOrder) := fun same => h ⟨same.1.symm, same.2.symm⟩
  refine (sorted.and (((List.perm_insertionSort _ rows).pairwise_iff symm).mpr apart)).imp fun {a b} h => ?_
  have order := Candidate.le_iff.mp h.1
  exact Candidate.before_iff.mpr (by omega)

theorem candidates_spec (listed : candidates nodeID now db = .ok l) :
    l.Pairwise Candidate.Before ∧ ∀ c, c ∈ l ↔ IsCandidate nodeID now db c := by
  unfold candidates at listed
  cases read : db.tasks.flatMapM (taskCandidates nodeID now db) with
  | error e =>
    rw [read] at listed
    cases listed
  | ok rows =>
    rw [read] at listed
    cases listed
    obtain ⟨all, apart⟩ := rows_spec read
    exact ⟨sorted_before apart, fun c => by rw [List.mem_insertionSort, all]⟩

/-- A page is the next hundred candidates after the cursor. -/
theorem candidatePage_eq (queueSeq : Nat) (order : Int) : candidatePage nodeID now queueSeq order db =
    (candidates nodeID now db).map fun l => (l.filter (·.after queueSeq order)).take 100 := by
  show (db.tasks.flatMapM (taskCandidates nodeID now db)).bind _ = _
  unfold candidates
  cases read : db.tasks.flatMapM (taskCandidates nodeID now db) with
  | error e => rfl
  | ok rows =>
    obtain ⟨-, apart⟩ := rows_spec read
    have same : (rows.filter (·.after queueSeq order)).insertionSort (fun a b => a.le b)
        = (rows.insertionSort fun a b => a.le b).filter (·.after queueSeq order) := by
      refine List.Perm.eq_of_pairwise (fun a b _ _ h h' => ?_) (sorted_before (apart.filter _)) ((sorted_before apart).filter _)
        ((List.perm_insertionSort _ _).trans ((List.perm_insertionSort _ rows).filter _).symm)
      rw [Candidate.before_iff] at h h'
      omega
    exact congrArg (fun l => Except.ok (l.take 100)) same

theorem filter_after_candidate {done left : List Candidate} {c : Candidate} (sorted : (done ++ c :: left).Pairwise Candidate.Before) :
    (done ++ c :: left).filter (·.after c.queueSeq c.stageOrder) = left := by
  obtain ⟨-, tail, across⟩ := List.pairwise_append.mp sorted
  have not_after {a : Candidate} (h : a.Before c ∨ a = c) : ¬ a.after c.queueSeq c.stageOrder = true := by
    intro after
    have later := Candidate.before_iff.mp (show c.Before a from after)
    rcases h with h | rfl
    · have := Candidate.before_iff.mp h
      omega
    · omega
  rw [List.filter_append, List.filter_eq_nil_iff.mpr fun a mem => not_after (.inl (across a mem c (by simp))), List.nil_append,
    List.filter_cons_of_neg (not_after (.inr rfl)), List.filter_eq_self]
  exact (List.pairwise_cons.mp tail).1

/-! ## Pages -/

/-- What the loop makes of a candidate: its stage if the node takes it, or the error of a check. -/
def verdict (nodeID : String) (now : Int) (db : Database) (c : Candidate) :
    Except Err (Option Stage) := ((stageTaken nodeID now c).eval db).1

theorem firstTaken_cons (c : Candidate) (rest : List Candidate) : (firstTaken nodeID now (c :: rest)).eval db =
    match verdict nodeID now db c with
    | .ok none => (firstTaken nodeID now rest).eval db
    | other => (other, db) := by
  rw [firstTaken, eval_bind, eval_readOnly (reads_stageTaken nodeID now c).only, verdict]
  rcases ((stageTaken nodeID now c).eval db).1 with e | _ | s <;> rfl

theorem firstTaken_append (a b : List Candidate) : (firstTaken nodeID now (a ++ b)).eval db =
    match (firstTaken nodeID now a).eval db with
    | (.ok none, mid) => (firstTaken nodeID now b).eval mid
    | other => other := by
  induction a with
  | nil => rfl
  | cons c a ih =>
    rw [List.cons_append, firstTaken_cons, firstTaken_cons, ih]
    rcases verdict nodeID now db c with e | _ | s <;> rfl

/-- The candidates of the page after a full one. -/
theorem candidatePage_next {done left : List Candidate} {c : Candidate} (listed : candidates nodeID now db = .ok (done ++ left))
    (last : (left.take 100).getLast? = some c) :
    candidatePage nodeID now c.queueSeq c.stageOrder db = .ok ((left.drop 100).take 100) := by
  obtain ⟨page, split⟩ := List.getLast?_eq_some_iff.mp last
  have whole : done ++ left = (done ++ page) ++ c :: left.drop 100 := by
    rw [List.append_assoc, ← List.singleton_append, ← List.append_assoc page, ← split, List.take_append_drop]
  rw [candidatePage_eq, listed, whole]
  rw [whole] at listed
  exact congrArg (fun l => Except.ok (l.take 100)) (filter_after_candidate (candidates_spec listed).1)

/-- The pages make no difference: with enough of them left, the loop ends as one look at all
candidates that are left does. -/
theorem scanStagePages_eval (pages : Nat) (done : List Candidate)
    {left : List Candidate} (listed : candidates nodeID now db = .ok (done ++ left))
    (enough : left.length ≤ 100 * (pages + 1)) :
    (scanStagePages nodeID now pages (left.take 100)).eval db = (scanStagePages nodeID now 0 left).eval db := by
  induction pages generalizing done left with
  | zero => rw [List.take_of_length_le (by omega)]
  | succ pages ih =>
    conv_rhs => rw [← List.take_append_drop 100 left]
    rw [scanStagePages, scanStagePages, eval_bind, eval_bind, firstTaken_append,
      eval_readOnly (reads_firstTaken nodeID now (left.take 100)).only]
    rcases ((firstTaken nodeID now (left.take 100)).eval db).1 with e | _ | s
    · rfl
    · dsimp only
      cases last : (left.take 100).getLast? with
      | none =>
        have empty : left = [] := by simpa using last
        subst empty
        rfl
      | some c =>
        dsimp only
        by_cases full : 100 ≤ left.length
        · have rest : candidates nodeID now db = .ok (done ++ left.take 100 ++ left.drop 100) := by
            rw [List.append_assoc, List.take_append_drop, listed]
          rw [if_neg (by simp; omega), eval_bind, eval_query, candidatePage_next listed last]
          exact (ih _ rest (by simp; omega)).trans (by rw [scanStagePages, eval_bind])
        · rw [if_pos (by simp; omega), List.drop_eq_nil_of_le (by omega)]
          rfl
    · rfl

end

/-! ## The stage that is found -/

/-- The node works on the stage: it has an open attempt of it, or holds it in flight. -/
def onNode (nodeID : String) (db : Database) (s : Stage) : Bool :=
  (db.attempts.any fun a => a.stageID == s.id && a.nodeID == nodeID &&
    a.status.isOpen) || (s.currentNodeID == some nodeID && inFlight s.status)

/-- `taskEligibleForNode` on the task of the stage. -/
def eligible (nodeID : String) (now : Int) (db : Database) (s : Stage) : Except Err Bool := do
  let t ← (findTask db s.taskID).elim (.error .noRows) scanTask
  ((taskEligibleForNode t nodeID (now / 1000)).eval db).1

/-- The node takes the stage `s` of the candidate. -/
def TakesStage (nodeID : String) (now : Int) (db : Database) (c : Candidate) (s : Stage) : Prop :=
  findStage db c.id = some s ∧ (onNode nodeID db s = true ∨ eligible nodeID now db s = .ok true)

/-- The stage of the candidate is not the node's, and not for it. -/
def PassesStage (nodeID : String) (now : Int) (db : Database) (c : Candidate) : Prop :=
  ∃ s, findStage db c.id = some s ∧ onNode nodeID db s = false ∧ eligible nodeID now db s = .ok false

section
variable {nodeID : String} {now : Int} {db : Database}

theorem verdict_eq (c : Candidate) : verdict nodeID now db c =
    match findStage db c.id with
    | none => .error .noRows
    | some s => if onNode nodeID db s then .ok (some s) else (eligible nodeID now db s).map fun b => if b then some s else none := by
  rw [verdict, stageTaken, eval_bind, eval_query]
  cases found : findStage db c.id with
  | none => rfl
  | some s =>
    have id : s.id = c.id := by simpa using List.find?_some found
    have active : decide ((db.attempts.filter fun a => a.stageID == c.id && a.nodeID == nodeID && a.status.isOpen).length > 0)
        = db.attempts.any fun a => a.stageID == s.id && a.nodeID == nodeID && a.status.isOpen := by
      rw [id, Bool.eq_iff_iff, decide_eq_true_iff, List.any_eq_true, gt_iff_lt, List.length_filter_pos_iff]
    dsimp only [Option.elim_some]
    rw [eval_bind, eval_select]
    dsimp only
    rw [active, ← onNode]
    cases onNode nodeID db s with
    | true => rfl
    | false =>
      rw [if_neg (by simp), if_neg (by simp), eval_bind, eval_query, eligible]
      cases findTask db s.taskID with
      | none => rfl
      | some t =>
        dsimp only [Option.elim_some]
        cases scanTask t with
        | error e => rfl
        | ok t =>
          dsimp only
          rw [eval_bind, eval_readOnly (writes_taskEligibleForNode t nodeID (now / 1000))]
          simp only [Bind.bind, Except.bind]
          cases ((taskEligibleForNode t nodeID (now / 1000)).eval db).1 <;> rfl

theorem verdict_some {c : Candidate} {s : Stage} : verdict nodeID now db c = .ok (some s) ↔ TakesStage nodeID now db c s := by
  rw [verdict_eq, TakesStage]
  cases findStage db c.id with
  | none => simp
  | some u =>
    simp only [Option.some.injEq]
    refine ⟨fun h => ?_, ?_⟩
    · split at h
      · next on =>
        cases h
        exact ⟨rfl, .inl on⟩
      · rcases e : eligible nodeID now db u with e' | _ | _
        all_goals rw [e] at h; cases h
        exact ⟨rfl, .inr e⟩
    · rintro ⟨rfl, on | e⟩
      · rw [if_pos on]
      · rw [e]
        simp [Except.map]

theorem verdict_none {c : Candidate} : verdict nodeID now db c = .ok none ↔ PassesStage nodeID now db c := by
  rw [verdict_eq, PassesStage]
  cases findStage db c.id with
  | none => simp
  | some u =>
    simp only [Option.some.injEq, exists_eq_left']
    cases onNode nodeID db u with
    | true => simp
    | false => rcases eligible nodeID now db u with e | _ | _ <;> simp [Except.map]

/-! No check stops with the error that stands for "none". -/

theorem eval_bind_ne {α β : Type} {p : Prog α} {f : α → Prog β} {e : Err} (head : (p.eval db).1 ≠ .error e)
    (rest : ∀ a mid, ((f a).eval mid).1 ≠ .error e) : ((p >>= f).eval db).1 ≠ .error e := by
  rw [eval_bind]
  split
  · exact rest _ _
  · next failed => simpa [failed] using head

theorem query_elim_ne {α β : Type} {look : Database → Option α} {read : α → Except Err β} {e e' : Err} (other : e' ≠ e)
    (reads : ∀ a, read a ≠ .error e) : ((query fun db => (look db).elim (.error e') read : Prog β).eval db).1 ≠ .error e := by
  rw [eval_query]
  cases look db with
  | none => simpa using other
  | some a => exact reads a

theorem decodeModels_ne (l : List NodeModel) : l.mapM decodeModel ≠ .error .noClaimableStage := by
  induction l with
  | nil => nofun
  | cons m l ih =>
    have first : decodeModel m ≠ .error .noClaimableStage := by
      unfold decodeModel
      split <;> nofun
    rw [List.mapM_cons]
    revert first ih
    rcases decodeModel m with e | item
    · exact fun _ first same => first (by cases same; rfl)
    · rcases l.mapM decodeModel with e | items
      · exact fun ih _ same => ih (by cases same; rfl)
      · exact fun _ _ => nofun

theorem taskEligible_ne (t : Task) (now : Int) : ((taskEligibleForNode t nodeID now).eval db).1 ≠ .error .noClaimableStage := by
  unfold taskEligibleForNode
  split
  · simp
  refine eval_bind_ne (by simp) fun node mid => ?_
  split
  · simp
  split
  · simp
  refine eval_bind_ne (eval_bind_ne (query_elim_ne nofun fun _ => nofun) fun _ _ => eval_bind_ne ?_ fun _ _ => by simp) fun cat mid => ?_
  · rw [eval_query]
    exact decodeModels_ne _
  · split
    · simp
    · split <;> simp

theorem verdict_ne (c : Candidate) : verdict nodeID now db c ≠ .error .noClaimableStage := by
  unfold verdict stageTaken
  refine eval_bind_ne (query_elim_ne nofun fun _ => nofun) fun s mid => eval_bind_ne (by simp) fun active mid => ?_
  split
  · simp
  refine eval_bind_ne (query_elim_ne nofun fun t => ?_) fun t mid => eval_bind_ne (taskEligible_ne t _) fun _ _ => by simp
  unfold scanTask
  split <;> nofun

/-- The first element that meets `Q` after others that meet `P`. -/
theorem first_cons {α : Type} {P Q : α → Prop} {a : α} {l : List α} :
    (∃ done x rest, a :: l = done ++ x :: rest ∧ (∀ d ∈ done, P d) ∧ Q x) ↔
      Q a ∨ P a ∧ ∃ done x rest, l = done ++ x :: rest ∧ (∀ d ∈ done, P d) ∧ Q x := by
  constructor
  · rintro ⟨_ | ⟨d, done⟩, x, rest, split, all, met⟩
    · exact .inl ((List.cons.inj split).1 ▸ met)
    · obtain ⟨rfl, rfl⟩ := List.cons.inj split
      exact .inr ⟨all a (by simp), done, x, rest, rfl, fun d mem => all d (by simp [mem]), met⟩
  · rintro (met | ⟨head, done, x, rest, rfl, all, met⟩)
    · exact ⟨[], a, l, rfl, by simp, met⟩
    · exact ⟨a :: done, x, rest, rfl, List.forall_mem_cons.mpr ⟨head, all⟩, met⟩

/-- One look at a list of candidates. -/
theorem scanStages_spec (l : List Candidate) : (∀ s, ((scanStagePages nodeID now 0 l).eval db).1 = .ok s ↔
      ∃ done c rest, l = done ++ c :: rest ∧ (∀ d ∈ done, PassesStage nodeID now db d) ∧ TakesStage nodeID now db c s) ∧
    (((scanStagePages nodeID now 0 l).eval db).1 = .error .noClaimableStage ↔ ∀ c ∈ l, PassesStage nodeID now db c) := by
  induction l with
  | nil => exact ⟨fun s => ⟨nofun, by simp⟩, ⟨fun _ => by simp, fun _ => rfl⟩⟩
  | cons c l ih =>
    have step : ((scanStagePages nodeID now 0 (c :: l)).eval db).1 = match verdict nodeID now db c with
        | .ok none => ((scanStagePages nodeID now 0 l).eval db).1
        | .ok (some s) => .ok s
        | .error e => .error e := by
      rw [scanStagePages, scanStagePages, eval_bind, firstTaken_cons, eval_bind]
      rcases verdict nodeID now db c with e | _ | s <;> rfl
    simp only [step, first_cons, List.forall_mem_cons, ← verdict_some, ← verdict_none] at ih ⊢
    rcases v : verdict nodeID now db c with e | _ | u
    · have other : e ≠ .noClaimableStage := fun same => verdict_ne c (same ▸ v)
      simp [other]
    · simpa using ih
    · simp

/-- There are no more candidates than stages. -/
theorem candidates_le {l : List Candidate} (listed : candidates nodeID now db = .ok l) : l.length ≤ db.stages.length := by
  obtain ⟨sorted, all⟩ := candidates_spec listed
  have distinct : (l.map (·.id)).Nodup := by
    refine List.pairwise_map.mpr (sorted.imp_of_mem fun {a b} memA memB before same => ?_)
    obtain ⟨t, ofT, s, ofS, isT, -, rfl⟩ := (all a).mp memA
    obtain ⟨t', ofT', s', ofS', isT', -, rfl⟩ := (all b).mp memB
    obtain rfl : s = s' := eq_of_key (stages_distinct db) ofS ofS' same
    obtain rfl : t = t' := task_unique ofT ofT' ((stageCandidate_task isT).trans (stageCandidate_task isT').symm)
    have := Candidate.before_iff.mp before
    omega
  have stored : l.map (·.id) ⊆ db.stages.map (·.id) := by
    intro id mem
    obtain ⟨c, memC, rfl⟩ := List.mem_map.mp mem
    obtain ⟨t, -, s, ofS, -, -, rfl⟩ := (all c).mp memC
    exact List.mem_map.mpr ⟨s, ofS, rfl⟩
  simpa using (List.subperm_of_subset distinct stored).length_le

/-- The pages of the scan, however many more the loop may read, are one look at all candidates. -/
theorem nextEligibleStage_eval {l : List Candidate} (listed : candidates nodeID now db = .ok l) (more : Nat) :
    (scanStagePages nodeID now (db.stages.length + more) (l.take 100)).eval db = (scanStagePages nodeID now 0 l).eval db ∧
      (nextEligibleStage nodeID now).eval db = (scanStagePages nodeID now 0 l).eval db := by
  have count := candidates_le listed
  have first : candidatePage nodeID now 0 (-1) db = .ok (l.take 100) := by
    have all : ∀ c ∈ l, c.after 0 (-1) = true := by
      intro c mem
      obtain ⟨t, ofT, s, -, -, -, rfl⟩ := ((candidates_spec listed).2 c).mp mem
      have checked : Task.check _ t = true := (db Tbl.videoTasks).checked t ofT
      simp only [Task.check, Bool.and_eq_true, decide_eq_true_eq] at checked
      simp only [Candidate.after, Bool.or_eq_true, decide_eq_true_eq]
      omega
    rw [candidatePage_eq, listed, Except.map, List.filter_eq_self.mpr all]
  refine ⟨scanStagePages_eval _ [] listed (by omega), ?_⟩
  rw [nextEligibleStage, eval_bind, eval_query, first]
  exact scanStagePages_eval _ [] listed (by omega)

theorem nextEligibleStage_error {e : Err} (unlisted : candidates nodeID now db = .error e) :
    ((nextEligibleStage nodeID now).eval db).1 = .error e := by
  simp [nextEligibleStage, eval_bind, candidatePage_eq, unlisted, Except.map]

/-- The scan over all candidates in their order, each of them once: the first that the node works on
or that is for it is returned, and none is reported exactly when every one is passed over. However
many more pages the loop may read, it reads no others. -/
theorem nextEligibleStage_first (nodeID : String) (now : Int) (db : Database) :
    match candidates nodeID now db with
    | .error e => ((nextEligibleStage nodeID now).eval db).1 = .error e
    | .ok l =>
      (l.Pairwise Candidate.Before ∧ ∀ c, c ∈ l ↔ IsCandidate nodeID now db c) ∧
      (∀ s, ((nextEligibleStage nodeID now).eval db).1 = .ok s ↔
        ∃ done c rest, l = done ++ c :: rest ∧ (∀ d ∈ done, PassesStage nodeID now db d) ∧ TakesStage nodeID now db c s) ∧
      (((nextEligibleStage nodeID now).eval db).1 = .error .noClaimableStage ↔ ∀ c ∈ l, PassesStage nodeID now db c) ∧
      ∀ more, (scanStagePages nodeID now (db.stages.length + more) (l.take 100)).eval db = (nextEligibleStage nodeID now).eval db := by
  cases listed : candidates nodeID now db with
  | error e => exact nextEligibleStage_error listed
  | ok l =>
    rw [(nextEligibleStage_eval listed 0).2]
    exact ⟨candidates_spec listed, (scanStages_spec l).1, (scanStages_spec l).2, fun more => (nextEligibleStage_eval listed more).1⟩

end
end MinimaxProxy.Store
