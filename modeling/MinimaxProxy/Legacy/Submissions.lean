import MinimaxProxy.Legacy.Processor
import MinimaxProxy.Service.Times

/-!
# How often a legacy task is submitted

A task for which something is in the log is not in the queue and has a stored gallery, and
nobody gives such a task back. So it is never claimed again, and its retry mark stays.
-/

namespace MinimaxProxy.Legacy
open Sql Sql.Prog Store Sim

variable {faults : Faults Err} {gallery upstreamID urls : String} {n : Nat} {now time : Int} {o : Options}

/-! ## Rows -/

/-- What happens to a row, seen by its worker: with a stored gallery it does not come back to the
queue, and it keeps its gallery and its mark. Nor does it get a gallery in the queue. -/
structure Spared (t t' : Task) : Prop where
  taskID : t'.taskID = t.taskID
  kept : t.status.isQueued = false → Baseline t →
    t'.status.isQueued = false ∧ Baseline t' ∧ (t.retryCount = 1 → t'.retryCount = 1)
  waits : t'.status.isQueued = true → Baseline t' → t.status.isQueued = true ∧ Baseline t

theorem Spared.refl (t : Task) : Spared t t := ⟨rfl, fun idle stored => ⟨idle, stored, id⟩, .intro⟩

theorem Spared.trans {a b c : Task} (first : Spared a b) (last : Spared b c) : Spared a c := by
  refine ⟨last.taskID.trans first.taskID, fun idle stored => ?_, fun queued stored => (last.waits queued stored).elim first.waits⟩
  obtain ⟨idle', stored', marked⟩ := first.kept idle stored
  obtain ⟨idle'', stored'', marked'⟩ := last.kept idle' stored'
  exact ⟨idle'', stored'', marked' ∘ marked⟩

theorem spared_of_touched {t t' : Task} (touched : Touched time false t t') : Spared t t' := by
  obtain ⟨retries, gallery, queued⟩ := touched.unmarked rfl
  refine ⟨touched.taskID, fun idle stored => ⟨?_, ?_, fun marked => retries.trans marked⟩, fun waits stored => ⟨queued waits, ?_⟩⟩
  · by_contra waits
    rw [queued (by simpa using waits)] at idle
    cases idle
  · rw [Baseline, gallery]
    exact stored
  · rw [Baseline, ← gallery]
    exact stored

/-- A new task, which has no gallery. -/
def IsNew (ids : List String) (t : Task) : Prop := t.taskID ∈ ids ∧ (t.status.isQueued = true → ¬ Baseline t)

section
variable {db db' : Database}

theorem spared_rows {ids : List String} (law : (touchLaw time false ids).Evolves db db') :
    ∀ t' ∈ db'.tasks, (∃ t ∈ db.tasks, Spared t t') ∨ IsNew ids t' := by
  intro t' mem
  rcases Law.Evolves.back (law .videoTasks) Spared.refl (fun _ _ _ => Spared.trans) (fun _ _ => spared_of_touched) t' mem with
    found | ⟨t, new, spared⟩
  · exact .inl found
  · exact .inr ⟨spared.taskID ▸ new.taskID, fun queued stored => (spared.waits queued stored).2 (by rw [new.gallery]; rfl)⟩

/-- One UPDATE of tasks and a check of the number of rows. -/
def guarded (sel : Task → Bool) (set : Task → Task) : Prog Unit := do
  let n ← exec (.update Tbl.videoTasks (fun _ => sel) fun _ => set)
  oneRow n

theorem applied_rows {sel : Task → Bool} {set : Task → Task}
    (applied : (Dml.update Tbl.videoTasks (fun _ => sel) fun _ => set : Dml).apply db = .ok (n, db')) :
    ∀ t' ∈ db'.tasks, (t' ∈ db.tasks ∧ sel t' = false) ∨ ∃ t ∈ db.tasks, sel t = true ∧ t' = set t := by
  obtain ⟨tab, rfl, rows, -⟩ := apply_update applied
  intro t' mem
  rw [Database.tasks, DB.rows_put_self, rows, updateRows] at mem
  obtain ⟨t, stored, rfl⟩ := List.mem_map.mp mem
  by_cases hit : sel t = true
  · exact .inr ⟨t, stored, hit, if_pos hit⟩
  · exact .inl (by rw [if_neg hit]; exact ⟨stored, by simpa using hit⟩)

theorem guarded_rows {sel : Task → Bool} {set : Task → Task} :
    ∀ t' ∈ Database.tasks (direct (guarded sel set) faults n db).db, t' ∈ db.tasks ∨ ∃ t ∈ db.tasks, sel t = true ∧ t' = set t := by
  intro t' mem
  rcases direct_effect (fun c => writes_oneRow c) faults with same | ⟨m, applied⟩
  · rw [guarded, same] at mem
    exact .inl mem
  · exact (applied_rows applied t' mem).imp_left And.left

/-- It went well: one row was met, and only that one has changed. -/
theorem guarded_ok {sel : Task → Bool} {set : Task → Task} (ok : (direct (guarded sel set) faults n db).result = .ok ()) :
    ∃ t ∈ db.tasks, sel t = true ∧ ∀ t' ∈ Database.tasks (direct (guarded sel set) faults n db).db,
      sel t' = false ∧ t' ∈ db.tasks ∨ t' = set t := by
  have out : (guarded sel set).Returns db () (direct (guarded sel set) faults n db).db := by
    have yields := (guarded sel set).run_yields faults n db
    rw [show ((guarded sel set).run faults n db).result = .ok () from ok] at yields
    exact yields
  generalize (direct (guarded sel set) faults n db).db = db' at out ⊢
  simp only [guarded, returns_bind, returns_exec, returns_oneRow] at out
  obtain ⟨m, mid, applied, rfl, rfl⟩ := out
  obtain ⟨-, -, -, one, -⟩ := apply_update applied
  obtain ⟨t, only⟩ := List.length_eq_one_iff.mp one.symm
  have hit (u : Task) : u ∈ db.tasks ∧ sel u = true ↔ u = t := by
    rw [← List.mem_filter, show db.tasks.filter sel = [t] from only, List.mem_singleton]
  obtain ⟨stored, met⟩ := (hit t).mpr rfl
  refine ⟨t, stored, met, fun t' mem => ?_⟩
  rcases applied_rows applied t' mem with ⟨old, missed⟩ | ⟨u, old, met', rfl⟩
  · exact .inl ⟨missed, old⟩
  · exact .inr (by rw [(hit u).mp ⟨old, met'⟩])

/-! ## The three operations that write marks -/

theorem saveBaseline_spares {taskID : String} (text : urls ≠ "") :
    ∀ t' ∈ Database.tasks (saveBaseline taskID upstreamID urls now faults n db).db, ∃ t ∈ db.tasks, Spared t t' := by
  intro t' mem
  rcases guarded_rows t' mem with old | ⟨t, stored, met, rfl⟩
  · exact ⟨t', old, .refl t'⟩
  · simp only [Bool.and_eq_true, beq_iff_eq] at met
    have idle : t.status.isQueued = false := by rw [met.2]; rfl
    exact ⟨t, stored, rfl, fun idle _ => ⟨idle, text, id⟩, fun queued _ => by cases idle.symm.trans queued⟩

theorem saveBaseline_stores {taskID : String} (text : urls ≠ "")
    (ok : (saveBaseline taskID upstreamID urls now faults n db).result = .ok ()) :
    ∀ t' ∈ Database.tasks (saveBaseline taskID upstreamID urls now faults n db).db, t'.taskID = taskID →
      t'.status.isQueued = false ∧ Baseline t' := by
  obtain ⟨t, stored, met, rows⟩ := guarded_ok ok
  simp only [Bool.and_eq_true, beq_iff_eq] at met
  intro t' mem named
  rcases rows t' mem with ⟨missed, old⟩ | rfl
  · rw [task_unique old stored (named.trans met.1.1.symm)] at missed
    simp [met] at missed
  · exact ⟨by show t.status.isQueued = false; rw [met.2]; rfl, text⟩

theorem beginRetry_spares (taskID upstreamID : String) (jobIDsBefore : List String) (text : gallery ≠ "") (now : Int)
    (faults : Faults Err) (n : Nat) (db : Database) :
    ∀ t' ∈ Database.tasks (beginRetry taskID upstreamID jobIDsBefore gallery now faults n db).db, ∃ t ∈ db.tasks, Spared t t' := by
  intro t' mem
  rcases guarded_rows t' mem with old | ⟨t, stored, -, rfl⟩
  · exact ⟨t', old, .refl t'⟩
  · exact ⟨t, stored, rfl, fun _ _ => ⟨rfl, text, fun _ => rfl⟩, fun queued _ => by cases queued⟩

theorem beginRetry_stores {taskID : String} {jobIDsBefore : List String}
    (text : gallery ≠ "") (ok : (beginRetry taskID upstreamID jobIDsBefore gallery now faults n db).result = .ok ()) :
    (∃ t ∈ db.tasks, t.taskID = taskID ∧ t.retryCount = 0) ∧
      ∀ t' ∈ Database.tasks (beginRetry taskID upstreamID jobIDsBefore gallery now faults n db).db, t'.taskID = taskID →
        t'.status.isQueued = false ∧ Baseline t' ∧ t'.retryCount = 1 := by
  obtain ⟨t, stored, met, rows⟩ := guarded_ok ok
  simp only [Bool.and_eq_true, beq_iff_eq] at met
  refine ⟨⟨t, stored, met.1.1.1, met.1.2⟩, fun t' mem named => ?_⟩
  rcases rows t' mem with ⟨missed, old⟩ | rfl
  · rw [task_unique old stored (named.trans met.1.1.1.symm)] at missed
    simp [met] at missed
  · exact ⟨rfl, text, rfl⟩

/-- A task is given back to the queue without a gallery; the others are spared. -/
theorem requeue_rows {taskID : String} :
    ∀ t' ∈ Database.tasks (requeue o taskID upstreamID now faults n db).db, ∃ t ∈ db.tasks, t'.taskID = t.taskID ∧
      (Spared t t' ∨ t.taskID = taskID ∧ t.upstreamID = some upstreamID ∧ t.status = .dispatching ∧
        (t'.status.isQueued = true → ¬ Baseline t')) := by
  intro t' mem
  rcases immediate_effect (requeueBody o taskID upstreamID (unix now)) faults with same | ⟨r, out⟩
  · rw [requeue, same] at mem
    exact ⟨t', mem, rfl, .inl (.refl t')⟩
  · rw [requeue] at mem
    generalize (immediate (requeueBody o taskID upstreamID (unix now)) faults n db).db = db' at out mem
    simp only [requeueBody, returns_bind, returns_exec, returns_oneRow] at out
    obtain ⟨m, mid, applied, _, _, ⟨-, rfl⟩, ranked⟩ := out
    have law : (touchLaw (unix now) false).Evolves _ db' := touches_rebalance.evolves ranked
    rcases spared_rows law t' mem with ⟨u, isMid, spared⟩ | none
    · rcases applied_rows applied u isMid with ⟨old, -⟩ | ⟨t, stored, met, rfl⟩
      · exact ⟨u, old, spared.taskID, .inl spared⟩
      · simp only [Bool.and_eq_true, beq_iff_eq] at met
        exact ⟨t, stored, spared.taskID, .inr ⟨met.1.1, met.1.2, met.2, fun queued based => (spared.waits queued based).2 rfl⟩⟩
    · cases none.1

theorem requeue_spares {taskID : String} (unstored : Unstored db taskID upstreamID) :
    ∀ t' ∈ Database.tasks (requeue o taskID upstreamID now faults n db).db, ∃ t ∈ db.tasks, Spared t t' := by
  intro t' mem
  obtain ⟨t, stored, same, spared | ⟨named, node, status, clean⟩⟩ := requeue_rows t' mem
  · exact ⟨t, stored, spared⟩
  · exact ⟨t, stored, same, fun _ based => absurd based (unstored t stored named node status),
      fun queued based => absurd based (clean queued)⟩

end

/-! ## The discipline -/

/-- The worker did something for the task. -/
def Logged (log : List Entry) (id : String) : Prop := .call id ∈ log ∨ .mark id ∈ log

/-- No second call is made without a mark before it. -/
def Ordered (log : List Entry) : Prop :=
  ∀ later earlier id, log = later ++ .call id :: earlier → .call id ∈ earlier → .mark id ∈ earlier

structure Inv (strict : Prop) (w : World) : Prop where
  minted : ∀ t ∈ w.db.tasks, t.taskID ∈ w.minted
  drawn : ∀ id, Logged w.log id → id ∈ w.minted
  rows : ∀ t ∈ w.db.tasks, Logged w.log t.taskID → t.status.isQueued = false ∧ Baseline t
  marks : ∀ t ∈ w.db.tasks, .mark t.taskID ∈ w.log → t.retryCount = 1
  calls : ∀ id, w.log.count (.call id) ≤ 1 ∨ w.log.count (.call id) ≤ 2 ∧ .mark id ∈ w.log
  ordered : Ordered w.log
  clean : strict → ∀ t ∈ w.db.tasks, t.status.isQueued = true → ¬ Baseline t

/-- Every task is spared. -/
structure Kept (w w' : World) : Prop where
  minted : ∀ id ∈ w.minted, id ∈ w'.minted
  rows : ∀ t' ∈ w'.db.tasks, t'.taskID ∈ w.minted → ∃ t ∈ w.db.tasks, Spared t t'

theorem Kept.refl (w : World) : Kept w w := ⟨fun _ => id, fun t mem _ => ⟨t, mem, .refl t⟩⟩

theorem Kept.trans {a b c : World} (first : Kept a b) (last : Kept b c) : Kept a c := by
  refine ⟨fun id mem => last.minted id (first.minted id mem), fun t mem known => ?_⟩
  obtain ⟨u, isU, spared⟩ := last.rows t mem (first.minted _ known)
  obtain ⟨v, isV, spared'⟩ := first.rows u isU (spared.taskID ▸ known)
  exact ⟨v, isV, spared'.trans spared⟩

/-- What others do to the world. -/
structure Rely (p : Processor) (strict : Prop) (w w' : World) : Prop extends Kept w w' where
  log : w'.log = w.log
  apart : strict → ∀ id, Unstored w.db id p.id → Unstored w'.db id p.id

/-- Whatever others do, this worker keeps `Inv`, and it only adds to the log. It spares every task
if the others are `strict`. -/
def discipline (p : Processor) (strict : Prop) : Discipline World Unit :=
  ⟨Inv strict, fun _ => Rely p strict, fun _ w w' => w.log <:+ w'.log ∧ (strict → Kept w w')⟩

section
variable {w : World} {db : Database} {strict : Prop}

/-- Rows that the worker did something for are spared; others may be given back. -/
theorem Inv.moved (inv : Inv strict w) (ids : List String) (unused : ∀ id ∈ ids, id ∉ w.minted)
    (rows : ∀ t' ∈ db.tasks, (∃ t ∈ w.db.tasks, t'.taskID = t.taskID ∧
      (Spared t t' ∨ ¬ Logged w.log t.taskID ∧ (t'.status.isQueued = true → ¬ Baseline t'))) ∨ IsNew ids t') :
    Inv strict { w with db := db, minted := ids ++ w.minted } := by
  have found {t' : Task} (mem : t' ∈ db.tasks) (logged : Logged w.log t'.taskID) : ∃ t ∈ w.db.tasks, Spared t t' := by
    rcases rows t' mem with ⟨t, stored, same, spared | ⟨unlogged, -⟩⟩ | new
    · exact ⟨t, stored, spared⟩
    · exact absurd (same ▸ logged) unlogged
    · exact absurd (inv.drawn _ logged) (unused _ new.1)
  refine ⟨fun t' mem => ?_, fun id logged => List.mem_append_right _ (inv.drawn id logged), fun t' mem logged => ?_,
    fun t' mem marked => ?_, inv.calls, inv.ordered, fun others t' mem queued based => ?_⟩
  · rcases rows t' mem with ⟨t, stored, same, -⟩ | new
    · exact List.mem_append_right _ (same ▸ inv.minted t stored)
    · exact List.mem_append_left _ new.1
  · obtain ⟨t, stored, spared⟩ := found mem logged
    obtain ⟨idle, baseline⟩ := inv.rows t stored (spared.taskID ▸ logged)
    exact ⟨(spared.kept idle baseline).1, (spared.kept idle baseline).2.1⟩
  · obtain ⟨t, stored, spared⟩ := found mem (.inr marked)
    obtain ⟨idle, baseline⟩ := inv.rows t stored (spared.taskID ▸ .inr marked)
    exact (spared.kept idle baseline).2.2 (inv.marks t stored (spared.taskID ▸ marked))
  · rcases rows t' mem with ⟨t, stored, -, spared | ⟨-, clean⟩⟩ | new
    · exact (spared.waits queued based).elim (inv.clean others t stored)
    · exact clean queued based
    · exact new.2 queued based

theorem kept_of_rows (ids : List String) (unused : ∀ id ∈ ids, id ∉ w.minted)
    (rows : ∀ t' ∈ db.tasks, (∃ t ∈ w.db.tasks, Spared t t') ∨ IsNew ids t') :
    Kept w { w with db := db, minted := ids ++ w.minted } := by
  refine ⟨fun id mem => List.mem_append_right _ mem, fun t' mem known => ?_⟩
  rcases rows t' mem with found | new
  · exact found
  · exact absurd known (unused _ new.1)

/-- A step in which every row is spared. -/
theorem Inv.spared (inv : Inv strict w) (ids : List String) (unused : ∀ id ∈ ids, id ∉ w.minted)
    (rows : ∀ t' ∈ db.tasks, (∃ t ∈ w.db.tasks, Spared t t') ∨ IsNew ids t') :
    Inv strict { w with db := db, minted := ids ++ w.minted } ∧ Kept w { w with db := db, minted := ids ++ w.minted } := by
  refine ⟨inv.moved ids unused fun t' mem => (rows t' mem).imp_left ?_, kept_of_rows ids unused rows⟩
  rintro ⟨t, stored, spared⟩
  exact ⟨t, stored, spared.taskID, .inl spared⟩

theorem Inv.touched (inv : Inv strict w) (law : (touchLaw time false).Evolves w.db db) :
    Inv strict { w with db := db } ∧ Kept w { w with db := db } :=
  inv.spared [] nofun (spared_rows law)

theorem Inv.env {w' : World} (inv : Inv strict w) (moved : Env o w w') : Inv strict w' ∧ Kept w w' := by
  cases moved with
  | work nodeID k now faults n seat seat' db taken => exact inv.touched (Service.Work.touches taken)
  | deed d now faults n unused follows =>
    cases marks : d.marks with
    | false =>
      have law := d.touches o now faults n w.db
      rw [marks] at law
      exact inv.spared _ unused (spared_rows law)
    | true =>
      cases d with
      | saveBaseline taskID upstreamID urls =>
        exact inv.spared _ unused fun t' mem => .inl (saveBaseline_spares follows t' mem)
      | beginRetry taskID upstreamID jobIDsBefore galleryBefore =>
        exact inv.spared _ unused fun t' mem => .inl (beginRetry_spares taskID upstreamID jobIDsBefore follows now faults n w.db t' mem)
      | requeue taskID upstreamID => exact inv.spared _ unused fun t' mem => .inl (requeue_spares follows t' mem)
      | _ => cases marks

theorem Env.log {w' : World} (moved : Env o w w') : w'.log = w.log := by
  cases moved <;> rfl

end

/-! ## What the worker knows -/

/-- Nothing has been done for the task yet. -/
def Unused (id : String) (w : World) : Prop := id ∈ w.minted ∧ ¬ Logged w.log id

/-- Nor is its gallery stored, if the others are strict. -/
def Fresh (p : Processor) (strict : Prop) (id : String) (w : World) : Prop := Unused id w ∧ (strict → Unstored w.db id p.id)

/-- Its gallery is stored, and it is not in the queue. -/
def Based (id : String) (w : World) : Prop := Unused id w ∧ ∀ t ∈ w.db.tasks, t.taskID = id → t.status.isQueued = false ∧ Baseline t

/-- Its retry is stored and was not submitted. -/
def Retrying (id : String) (w : World) : Prop := .mark id ∈ w.log ∧ w.log.count (.call id) ≤ 1

section
variable {id : String} {p : Processor} {strict : Prop}

theorem unused_stable : Stable (discipline p strict) () (Unused id) := fun w w' h rely _ => by
  have rely : Rely p strict w w' := rely
  exact ⟨rely.minted id h.1, by rw [rely.log]; exact h.2⟩

theorem fresh_stable : Stable (discipline p strict) () (Fresh p strict id) := fun w w' h rely inv => by
  have others : Rely p strict w w' := rely
  exact ⟨unused_stable w w' h.1 rely inv, fun apart => others.apart apart id (h.2 apart)⟩

theorem based_stable : Stable (discipline p strict) () (Based id) := fun w w' h rely inv => by
  have others : Rely p strict w w' := rely
  refine ⟨unused_stable w w' h.1 rely inv, fun t' mem named => ?_⟩
  obtain ⟨t, stored, spared⟩ := others.rows t' mem (named ▸ h.1.1)
  obtain ⟨idle, baseline⟩ := h.2 t stored (spared.taskID.symm.trans named)
  exact ⟨(spared.kept idle baseline).1, (spared.kept idle baseline).2.1⟩

theorem retrying_stable : Stable (discipline p strict) () (Retrying id) := fun w w' h rely _ => by
  have rely : Rely p strict w w' := rely
  rw [Retrying, rely.log]
  exact h

theorem nothing_stable : Stable (discipline p strict) () fun _ => True := fun _ _ _ _ _ => trivial

/-! ## Actions -/

variable {A : World → Prop} {w : World}

theorem guar_refl : (discipline p strict).guar () w w := ⟨List.suffix_rfl, fun _ => .refl w⟩

theorem safe_choose {β : Type} (stable : Stable (discipline p strict) () A) (pre : A w) :
    Safe (discipline p strict) () (Proc.choose β) (fun _ => A) w :=
  safe_perform stable (fun _ _ _ known inv same => by subst same; exact ⟨inv, guar_refl, known⟩) pre

theorem safe_quiet {α : Type} {c : Int → Call α} (lawful : ∀ now, Lawful (touchLaw (unix now) false) (c now))
    (stable : Stable (discipline p strict) () A) (keeps : ∀ s now faults n, A s → A { s with db := (c now faults n s.db).db }) (pre : A w) :
    Safe (discipline p strict) () (store c) (fun _ => A) w := by
  refine safe_perform stable (fun s r t known inv stepped => ?_) pre
  obtain ⟨now, faults, n, -, rfl⟩ := stepped
  obtain ⟨inv', kept⟩ := Inv.touched inv (lawful now faults n s.db)
  exact ⟨inv', ⟨List.suffix_rfl, fun _ => kept⟩, keeps _ _ _ _ known⟩

theorem safe_active (stable : Stable (discipline p strict) () A) (pre : A w) :
    Safe (discipline p strict) () (activeForUpstream upstreamID)
      (fun r v => A v ∧ Inv strict v ∧ ∀ t, r = .ok t → t ∈ v.db.tasks) w := by
  refine safe_perform stable (fun s r t known inv stepped => ?_) pre
  obtain ⟨rfl, active⟩ := stepped
  refine ⟨inv, guar_refl, known, inv, fun t ok => ?_⟩
  cases active with
  | found u stored =>
    rw [scanTask] at ok
    split at ok
    · cases ok
    · exact Except.ok.inj ok ▸ stored
  | none | failed => cases ok

theorem ordered_cons {log : List Entry} {e : Entry} (h : Ordered log) (last : ∀ id, e = .call id → .call id ∈ log → .mark id ∈ log) :
    Ordered (e :: log) := by
  intro later earlier id split called
  cases later with
  | nil =>
    obtain ⟨rfl, rfl⟩ := List.cons.inj split
    exact last id rfl called
  | cons first later =>
    obtain ⟨-, rest⟩ := List.cons.inj split
    exact h later earlier id rest called

/-- A call, the first for the task or the one after its mark. -/
theorem Inv.called (inv : Inv strict w) (may : Based id w ∨ Retrying id w) : Inv strict { w with log := .call id :: w.log } := by
  have rows : id ∈ w.minted ∧ ∀ t ∈ w.db.tasks, t.taskID = id → t.status.isQueued = false ∧ Baseline t := by
    rcases may with ⟨fresh, rows⟩ | ⟨marked, -⟩
    · exact ⟨fresh.1, rows⟩
    · exact ⟨inv.drawn id (.inr marked), fun t stored named => inv.rows t stored (named ▸ .inr marked)⟩
  have older {id' : String} (logged : Logged (.call id :: w.log) id') : id' = id ∨ Logged w.log id' := by
    rcases logged with called | marked
    · rcases List.mem_cons.mp called with same | old
      · exact .inl (Entry.call.inj same)
      · exact .inr (.inl old)
    · exact .inr (.inr (by simpa using marked))
  refine ⟨inv.minted, fun id' logged => ?_, fun t stored logged => ?_, fun t stored marked => ?_, fun id' => ?_, ?_, inv.clean⟩
  · rcases older logged with rfl | old
    · exact rows.1
    · exact inv.drawn id' old
  · rcases older logged with named | old
    · exact rows.2 t stored named
    · exact inv.rows t stored old
  · exact inv.marks t stored (by simpa using marked)
  · by_cases same : id' = id
    · subst same
      rw [List.count_cons_self]
      rcases may with ⟨fresh, -⟩ | ⟨marked, few⟩
      · rw [List.count_eq_zero_of_not_mem fun called => fresh.2 (.inl called)]
        exact .inl (Nat.le_refl 1)
      · exact .inr ⟨Nat.succ_le_succ few, List.mem_cons_of_mem _ marked⟩
    · rw [List.count_cons_of_ne (by simpa using Ne.symm same)]
      exact (inv.calls id').imp_right fun both => ⟨both.1, List.mem_cons_of_mem _ both.2⟩
  · refine ordered_cons inv.ordered fun id' same called => ?_
    obtain rfl := Entry.call.inj same
    rcases may with ⟨fresh, -⟩ | ⟨marked, -⟩
    · exact absurd (.inl called) fresh.2
    · exact marked

theorem safe_submit (may : Based id w ∨ Retrying id w) : Safe (discipline p strict) () (submit id) (fun _ _ => True) w := by
  have stable : Stable (discipline p strict) () fun v => Based id v ∨ Retrying id v := fun v v' h rely inv =>
    h.imp (based_stable v v' · rely inv) (retrying_stable v v' · rely inv)
  refine safe_perform stable (fun s r t known inv stepped => ?_) may
  subst stepped
  exact ⟨Inv.called inv known, ⟨List.suffix_cons _ _, fun _ => { Kept.refl s with }⟩, trivial⟩

/-- The mark of a stored retry. -/
theorem Inv.marked (inv : Inv strict w) (drawn : id ∈ w.minted)
    (rows : ∀ t ∈ w.db.tasks, t.taskID = id → t.status.isQueued = false ∧ Baseline t ∧ t.retryCount = 1) :
    Inv strict { w with log := .mark id :: w.log } := by
  have older {id' : String} (logged : Logged (.mark id :: w.log) id') : id' = id ∨ Logged w.log id' := by
    rcases logged with called | marked
    · exact .inr (.inl (by simpa using called))
    · rcases List.mem_cons.mp marked with same | old
      · exact .inl (Entry.mark.inj same)
      · exact .inr (.inr old)
  refine ⟨inv.minted, fun id' logged => ?_, fun t stored logged => ?_, fun t stored marked => ?_, fun id' => ?_,
    ordered_cons inv.ordered nofun, inv.clean⟩
  · rcases older logged with rfl | old
    · exact drawn
    · exact inv.drawn id' old
  · rcases older logged with named | old
    · exact ⟨(rows t stored named).1, (rows t stored named).2.1⟩
    · exact inv.rows t stored old
  · rcases List.mem_cons.mp marked with same | old
    · exact (rows t stored (Entry.mark.inj same)).2.2
    · exact inv.marks t stored old
  · have same : (Entry.mark id :: w.log).count (.call id') = w.log.count (.call id') := List.count_cons_of_ne (by simp)
    rw [same]
    exact (inv.calls id').imp_right fun both => ⟨both.1, List.mem_cons_of_mem _ both.2⟩

/-- A mark, stored for a task that had none. -/
theorem safe_retry (taskID upstreamID : String) (jobIDsBefore : List String) (text : gallery ≠ "") :
    Safe (discipline p strict) () (retry taskID upstreamID jobIDsBefore gallery) (fun r v => r = .ok () → Retrying taskID v) w := by
  refine safe_perform nothing_stable (fun s r t _ kept stepped => ?_) trivial
  have inv : Inv strict s := kept
  obtain ⟨now, faults, n, rfl, rfl⟩ := stepped
  obtain ⟨moved, kept⟩ := inv.spared [] nofun fun t' mem =>
    .inl (beginRetry_spares taskID upstreamID jobIDsBefore text now faults n s.db t' mem)
  by_cases ok : (beginRetry taskID upstreamID jobIDsBefore gallery now faults n s.db).result = .ok ()
  · rw [if_pos ok]
    obtain ⟨⟨u, stored, named, unmarked⟩, rows⟩ := beginRetry_stores text ok
    have unlogged : .mark taskID ∉ s.log := fun marked => by
      have := inv.marks u stored (named ▸ marked)
      omega
    have few : s.log.count (.call taskID) ≤ 1 := (inv.calls taskID).elim id fun both => absurd both.2 unlogged
    refine ⟨moved.marked (named ▸ inv.minted u stored) rows, ⟨List.suffix_cons _ _, fun _ => { kept with }⟩,
      fun _ => ⟨List.mem_cons_self, ?_⟩⟩
    show (Entry.mark taskID :: s.log).count (.call taskID) ≤ 1
    rwa [List.count_cons_of_ne (by simp)]
  · rw [if_neg ok]
    exact ⟨moved, ⟨List.suffix_rfl, fun _ => kept⟩, fun done => absurd done ok⟩

theorem safe_requeue (fresh : Fresh p strict id w) :
    Safe (discipline p strict) () (store (requeue o id p.id)) (fun _ _ => True) w := by
  refine safe_perform fresh_stable (fun s r t known kept stepped => ?_) fresh
  have inv : Inv strict s := kept
  obtain ⟨now, faults, n, -, rfl⟩ := stepped
  refine ⟨inv.moved [] nofun fun t' mem => .inl ?_,
    ⟨List.suffix_rfl, fun others => kept_of_rows [] nofun fun t' mem => .inl (requeue_spares (known.2 others) t' mem)⟩, trivial⟩
  obtain ⟨t, stored, same, spared | ⟨named, -, -, clean⟩⟩ := requeue_rows t' mem
  · exact ⟨t, stored, same, .inl spared⟩
  · exact ⟨t, stored, same, .inr ⟨named ▸ known.1.2, clean⟩⟩

theorem safe_saveBaseline (text : urls ≠ "") (unused : Unused id w) :
    Safe (discipline p strict) () (store (saveBaseline id upstreamID urls)) (fun r v => r = .ok () → Based id v) w := by
  refine safe_perform unused_stable (fun s r t known kept stepped => ?_) unused
  obtain ⟨now, faults, n, rfl, rfl⟩ := stepped
  obtain ⟨inv, kept⟩ := Inv.spared kept [] nofun fun t' mem => .inl (saveBaseline_spares text t' mem)
  exact ⟨inv, ⟨List.suffix_rfl, fun _ => kept⟩, fun ok => ⟨known, saveBaseline_stores text ok⟩⟩

theorem safe_context {jobs : List String} (fresh : Fresh p strict id w) :
    Safe (discipline p strict) () (store (saveSubmissionContext id upstreamID jobs)) (fun _ => Fresh p strict id) w := by
  refine safe_quiet (fun _ => saveSubmissionContext_touches) fresh_stable (fun s now faults n known => ?_) fresh
  refine ⟨known.1, fun others t' mem named node status => ?_⟩
  rcases guarded_rows t' mem with old | ⟨t, stored, -, rfl⟩
  · exact known.2 others t' old named node status
  · exact known.2 others t stored named node status

/-- A claimed task was in the queue, so nothing has been done for it. -/
theorem claimNext_queued {version : Option Int} {db : Database}
    {r : Task} (ok : (claimNext o upstreamID version now faults n db).result = .ok r) :
    ∃ t ∈ db.tasks, t.taskID = r.taskID ∧ t.status.isQueued = true := by
  have taken : ∃ db', (takeTask o upstreamID (unix now) (claimedTask upstreamID (unix now))).Returns db r db' := by
    have out := immediate_ok ok
    cases version with
    | none =>
      simp only [claimNextBody, returns_bind, returns_select, returns_require] at out
      obtain ⟨_, db, ⟨-, rfl⟩, _, db, ⟨-, rfl⟩, out⟩ := out
      exact ⟨_, out⟩
    | some v =>
      simp only [claimNextBody, returns_bind, returns_select, returns_require] at out
      obtain ⟨_, db, ⟨-, rfl⟩, _, db, ⟨-, rfl⟩, _, db, ⟨-, rfl⟩, _, db, ⟨-, rfl⟩, out⟩ := out
      exact ⟨_, out⟩
  obtain ⟨db', out⟩ := taken
  obtain ⟨t, mid, takes, -, -, read⟩ := takeTask_takes out
  exact ⟨t, takes.stored, (getWith_stored read).2.symm, (waiting_spec takes.waits).2.2⟩

theorem safe_claim {version : Option Int} :
    Safe (discipline p strict) () (store (claimNext o upstreamID version)) (fun r v => ∀ t, r = .ok t → Fresh p strict t.taskID v) w := by
  refine safe_perform nothing_stable (fun s r t _ kept stepped => ?_) trivial
  have inv : Inv strict s := kept
  obtain ⟨now, faults, n, rfl, rfl⟩ := stepped
  have law : (touchLaw (unix now) false).Evolves s.db (claimNext o upstreamID version now faults n s.db).db :=
    claimNext_touches faults n s.db
  obtain ⟨inv', kept⟩ := inv.touched law
  refine ⟨inv', ⟨List.suffix_rfl, fun _ => kept⟩, fun r ok => ?_⟩
  obtain ⟨u, stored, named, queued⟩ := claimNext_queued ok
  refine ⟨⟨named ▸ inv.minted u stored, fun logged => ?_⟩, fun others t' mem isIt _ _ based => ?_⟩
  · rw [(inv.rows u stored (named ▸ logged)).1] at queued
    cases queued
  · rcases Law.Evolves.back (R := fun a b : Task => b.taskID = a.taskID ∧ b.galleryBeforeJSON = a.galleryBeforeJSON)
      (law .videoTasks) (fun _ => ⟨rfl, rfl⟩) (fun _ _ _ first last => ⟨last.1.trans first.1, last.2.trans first.2⟩)
      (fun _ _ touched => ⟨touched.taskID, (touched.unmarked rfl).2.1⟩) t' mem with ⟨t, old, same, gallery⟩ | ⟨_, new, -⟩
    · obtain rfl := task_unique old stored (same.symm.trans (isIt.trans named.symm))
      exact inv.clean others t old queued (by rwa [Baseline, ← gallery])
    · cases new.taskID

end

/-! ## Parts that submit nothing -/

/-- Safe in every state. -/
def Harmless {α : Type} (q : Proc World α) : Prop := ∀ p strict w, Safe (discipline p strict) () q (fun _ _ => True) w

section
variable {α β : Type}

theorem harmless_pure {a : α} : Harmless (pure a : Proc World α) := fun _ _ _ => safe_pure trivial

theorem harmless_bind {q : Proc World α} {f : α → Proc World β} (first : Harmless q) (rest : ∀ a, Harmless (f a)) : Harmless (q >>= f) :=
  fun p strict w => safe_bind (first p strict w) fun a t _ => rest a p strict t

theorem harmless_choose : Harmless (Proc.choose β) := fun _ _ _ => safe_choose nothing_stable trivial

theorem harmless_quiet {c : Int → Call α} (lawful : ∀ now, Lawful (touchLaw (unix now) false) (c now)) : Harmless (store c) :=
  fun _ _ _ => safe_quiet lawful nothing_stable (fun _ _ _ _ => id) trivial

theorem harmless_active : Harmless (activeForUpstream upstreamID) :=
  fun _ _ _ => (safe_active nothing_stable trivial).weaken fun _ _ _ => trivial

/-- The pass ends with an error. -/
theorem harmless_ok {q : Proc World (Except Err α)} {f : Except Err α → Proc World Unit} (first : Harmless q)
    (stops : ∀ e, f (.error e) = pure ()) (goes : ∀ a, Harmless (f (.ok a))) : Harmless (q >>= f) := by
  refine harmless_bind first fun r => ?_
  cases r with
  | error e =>
    rw [stops]
    exact harmless_pure
  | ok a => exact goes a

/-- The time is over, the context is cancelled, or there is another round. -/
theorem harmless_round {late again : Proc World α} {stopped : α} (ends : Harmless late) (next : Harmless again) :
    Harmless (do if ← Proc.choose Bool then late else if ← Proc.choose Bool then pure stopped else again) := by
  refine harmless_bind harmless_choose fun isLate => ?_
  split
  · exact ends
  · refine harmless_bind harmless_choose fun isStopped => ?_
    split
    · exact harmless_pure
    · exact next

end

variable {p : Processor} {task : Task}

theorem harmless_fail {code message : String} : Harmless (fail p task code message) :=
  harmless_bind harmless_choose fun _ => harmless_bind (harmless_quiet fun _ => markFailed_touches) fun _ => harmless_pure

theorem harmless_markReconciling : Harmless (p.markReconciling task) := by
  unfold Processor.markReconciling
  split
  · exact harmless_pure
  · refine harmless_bind (harmless_quiet fun _ => markReconciling_touches) fun r => ?_
    split <;> exact harmless_pure

theorem harmless_timeout {code message : String} : Harmless (timeout p task code message) := by
  unfold timeout
  split
  · exact harmless_bind harmless_choose fun _ => harmless_fail
  · exact harmless_fail

theorem harmless_findJob {rounds : Nat} : Harmless (findJob task rounds) := by
  induction rounds with
  | zero => exact harmless_pure
  | succ rounds ih =>
    refine harmless_bind harmless_choose fun answer => ?_
    cases answer with
    | none => exact harmless_round harmless_pure ih
    | some current =>
      dsimp only
      split
      · exact harmless_pure
      · split
        · exact harmless_pure
        · exact harmless_pure
        · exact harmless_round harmless_pure ih

theorem harmless_cancelJob {rounds : Nat} : Harmless (cancelJob rounds) := by
  induction rounds with
  | zero => exact harmless_pure
  | succ rounds ih =>
    refine harmless_bind harmless_choose fun answer => ?_
    cases answer with
    | missing | found => exact harmless_pure
    | failed => exact harmless_round harmless_pure ih

theorem harmless_cancel {rounds : Nat} : Harmless (cancel p task rounds) := by
  unfold cancel
  extract_lets known finish decide
  have finished (goesOn : Bool) : Harmless (finish goesOn) := by
    dsimp only [finish]
    split
    · exact harmless_bind harmless_choose fun _ => harmless_bind (harmless_quiet fun _ => finishCancelled_touches) fun _ => harmless_pure
    · exact harmless_pure
  have decided (found : Option String) : Harmless (decide found) := by
    cases found with
    | none => exact harmless_pure
    | some jobID =>
      dsimp only [decide]
      split
      · exact harmless_bind harmless_cancelJob finished
      · exact harmless_bind harmless_pure finished
  split
  · exact harmless_bind harmless_findJob decided
  · exact harmless_bind harmless_pure decided

theorem harmless_submitted {before : List String} {ambiguous : String} : Harmless (submitted p task before ambiguous) := by
  refine harmless_bind harmless_choose fun answer => ?_
  cases answer with
  | none =>
    refine harmless_bind (harmless_quiet fun _ => markReconciling_touches) fun r => ?_
    split <;> exact harmless_pure
  | some after =>
    dsimp only
    split
    · refine harmless_bind (harmless_quiet fun _ => markReconciling_touches) fun r => ?_
      split <;> exact harmless_pure
    · refine harmless_bind (harmless_quiet fun _ => bindUpstreamJob_touches) fun r => ?_
      split <;> exact harmless_pure
    · exact harmless_bind harmless_fail fun _ => harmless_pure

/-! ## The retry and the polls -/

section
variable {again : Proc World Unit}

theorem harmless_resubmit {currentJobs : List Job} {galleryBefore : List String} (harmless : Harmless again) :
    Harmless (resubmit p task currentJobs galleryBefore again) := by
  have polls : Harmless (resubmit.pollAgain p again) := harmless_ok harmless_active (fun _ => rfl) fun _ => harmless
  intro _ _ w
  refine safe_bind (safe_retry task.taskID p.id (jobIDs currentJobs) (p.marshal_text galleryBefore)) fun r s marked => ?_
  split
  · exact harmless_pure _ _ s
  · refine safe_bind (safe_choose retrying_stable (marked rfl)) fun prepared s retrying => ?_
    split
    · refine safe_bind (safe_submit (.inr retrying)) fun answer s _ => ?_
      split
      · exact harmless_fail _ _ s
      · exact harmless_ok (harmless_quiet fun _ => markReconciling_touches) (fun _ => rfl) (fun _ => polls) _ _ s
      · refine safe_bind (harmless_submitted _ _ s) fun goesOn s _ => ?_
        split
        · exact polls _ _ s
        · exact harmless_pure _ _ s
    · exact harmless_fail _ _ s

theorem harmless_retryOrFail {galleryBefore : List String} {code message : String} (harmless : Harmless again) :
    Harmless (retryOrFail p task galleryBefore code message again) := by
  unfold retryOrFail
  split
  · exact harmless_fail
  refine harmless_bind harmless_choose fun jobs => ?_
  split
  · exact harmless_pure
  split
  · refine harmless_bind harmless_choose fun answer => ?_
    split
    · exact harmless_pure
    · exact harmless_resubmit harmless
    · exact harmless_resubmit harmless
  · exact harmless_resubmit harmless

theorem harmless_nextRound {code message : String} (harmless : Harmless again) : Harmless (nextRound p task code message again) :=
  harmless_round harmless_timeout harmless

end

theorem harmless_pollJobs {check : Check} {current : List String}
    {completed : Nat} {again : Nat → Proc World Unit} {retried : Proc World Unit}
    (harmless : ∀ n, Harmless (again n)) (harmless' : Harmless retried) :
    Harmless (pollJobs p task check current completed again retried) := by
  unfold pollJobs
  extract_lets next jobID
  have goesOn (n : Nat) : Harmless (next n) := harmless_nextRound (harmless n)
  split
  · exact goesOn _
  split
  · split
    · exact harmless_fail
    · refine harmless_bind harmless_choose fun jobs => ?_
      split
      · refine harmless_bind harmless_markReconciling fun marked => ?_
        split
        · exact goesOn _
        · exact harmless_pure
      · split
        · split
          · exact harmless_retryOrFail harmless'
          · exact goesOn _
        · refine harmless_bind (harmless_quiet fun _ => bindUpstreamJob_touches) fun r => ?_
          split
          · exact harmless_pure
          · exact goesOn _
        · exact harmless_fail
  · refine harmless_bind harmless_choose fun answer => ?_
    split
    · exact harmless_retryOrFail harmless'
    · refine harmless_bind harmless_markReconciling fun marked => ?_
      split
      · refine harmless_bind harmless_choose fun late => ?_
        split
        · exact harmless_timeout
        · exact goesOn _
      · exact harmless_pure
    · exact harmless_fail
    · exact harmless_fail
    · split
      · exact harmless_fail
      · exact goesOn _
    · exact goesOn _

theorem harmless_pollRound (ratio : String) (baseline : List String) (completed rounds : Nat) {again : List String → Nat → Proc World Unit}
    (harmless : ∀ gallery n, Harmless (again gallery n)) : Harmless (pollRound p ratio baseline completed rounds again) := by
  refine harmless_bind harmless_active fun r => ?_
  split
  · exact harmless_pure
  split
  · exact harmless_cancel
  refine harmless_bind harmless_choose fun answer => ?_
  split
  · refine harmless_bind harmless_markReconciling fun goesOn => harmless_bind harmless_choose fun stopped => ?_
    split
    · exact harmless_pure
    · split
      · exact harmless_nextRound (harmless _ _)
      · exact harmless_pure
  split
  · exact harmless_fail
  split
  · refine harmless_bind harmless_choose fun video => ?_
    split
    · exact harmless_fail
    · exact harmless_fail
    · exact harmless_bind harmless_choose fun _ => harmless_bind (harmless_quiet fun _ => markSucceeded_touches) fun _ => harmless_pure
  split
  · exact harmless_fail
  split
  · exact harmless_fail
  · exact harmless_pollJobs (harmless _) (harmless _ _)

theorem harmless_poll (ratio : String) (rounds : Nat) (baseline : List String) (completed : Nat) :
    Harmless (poll p ratio rounds baseline completed) := by
  induction rounds generalizing baseline completed with
  | zero => exact harmless_pure
  | succ rounds ih => exact harmless_pollRound ratio baseline completed rounds ih

/-! ## A pass -/

section
variable {o : Options} {strict : Prop} {w : World}

/-- Only a task without a stored gallery is given back. -/
theorem safe_resume {rounds : Nat} (fresh : ¬ Baseline task → Fresh p strict task.taskID w) :
    Safe (discipline p strict) () (resume o p task rounds) (fun _ _ => True) w := by
  unfold resume
  extract_lets gallery
  split
  · exact harmless_cancel _ _ w
  split
  · rename_i empty
    split
    · exact safe_bind (safe_requeue (fresh fun stored => stored empty)) fun _ s _ => harmless_pure _ _ s
    · exact harmless_fail _ _ w
  split
  · exact harmless_fail _ _ w
  · exact harmless_fail _ _ w
  · exact harmless_ok (harmless_quiet fun _ => markReconciling_touches) (fun _ => rfl) (fun _ => harmless_poll _ _ _ _) _ _ w

theorem safe_submitFirst {ratio : String} {baseline : List String} {rounds : Nat} (based : Based task.taskID w) :
    Safe (discipline p strict) () (submitFirst p task ratio baseline rounds) (fun _ _ => True) w := by
  have polls : Harmless (pollActive p ratio baseline rounds) :=
    harmless_ok harmless_active (fun _ => rfl) fun _ => harmless_poll _ _ _ _
  refine safe_bind (safe_submit (.inl based)) fun answer s _ => ?_
  split
  · exact harmless_fail _ _ s
  · exact harmless_ok (harmless_quiet fun _ => markReconciling_touches) (fun _ => rfl) (fun _ => polls) _ _ s
  · split
    · refine safe_bind (harmless_active _ _ s) fun r s _ => ?_
      split
      · exact harmless_pure _ _ s
      · split
        · exact harmless_fail _ _ s
        · refine safe_bind (harmless_submitted _ _ s) fun goesOn s _ => ?_
          split
          · exact polls _ _ s
          · exact harmless_pure _ _ s
    · exact harmless_ok (harmless_quiet fun _ => markRunning_touches) (fun _ => rfl) (fun _ => polls) _ _ s

theorem safe_submitWithBaseline {ratio : String} {rounds : Nat} (fresh : Fresh p strict task.taskID w) :
    Safe (discipline p strict) () (submitWithBaseline o p task ratio rounds) (fun _ _ => True) w := by
  refine safe_bind (safe_choose fresh_stable fresh) fun answer s fresh => ?_
  split
  · exact safe_bind (safe_requeue fresh) fun _ s _ => harmless_pure _ _ s
  split
  · exact harmless_fail _ _ s
  refine safe_bind (safe_saveBaseline (p.marshal_text _) fresh.1) fun r s based => ?_
  split
  · exact harmless_pure _ _ s
  · refine safe_bind (safe_choose based_stable (based rfl)) fun prepared s based => ?_
    split
    · exact safe_submitFirst based
    · exact harmless_fail _ _ s

theorem safe_processClaimed {rounds : Nat} (fresh : Fresh p strict task.taskID w) :
    Safe (discipline p strict) () (processClaimed o p task rounds) (fun _ _ => True) w := by
  unfold processClaimed
  split
  · exact harmless_pure _ _ w
  split
  · exact harmless_fail _ _ w
  split
  · refine safe_bind (safe_choose fresh_stable fresh) fun jobs s fresh => ?_
    split
    · exact safe_bind (safe_requeue fresh) fun _ s _ => harmless_pure _ _ s
    · refine safe_bind (safe_context fresh) fun r s fresh => ?_
      split
      · exact harmless_pure _ _ s
      · exact safe_submitWithBaseline fresh
  · exact safe_submitWithBaseline fresh

theorem safe_processOne {rounds : Nat} : Safe (discipline p strict) () (processOne o p rounds) (fun _ _ => True) w := by
  refine safe_bind (safe_active nothing_stable trivial) fun r s known => ?_
  obtain ⟨-, inv, found⟩ := known
  split
  · rename_i active
    split
    · exact harmless_pure _ _ s
    · have stored := found active rfl
      refine safe_resume fun unstored => ⟨⟨inv.minted active stored, fun logged => ?_⟩, fun _ t mem named _ _ based => ?_⟩
      · exact unstored (inv.rows active stored logged).2
      · exact unstored (task_unique mem stored named ▸ based)
  · refine safe_bind safe_claim fun r s fresh => ?_
    split
    · exact harmless_pure _ _ s
    · exact safe_processClaimed (fresh _ rfl)
  · exact harmless_pure _ _ s

end

/-! ## Runs -/

theorem sound_of_env {strict : Prop} {env : World → World → Prop}
    (others : ∀ w w', env w w' → Env o w w' ∧ (strict → ∀ id, Unstored w.db id p.id → Unstored w'.db id p.id)) :
    Sound (discipline p strict) (fun _ _ => True) { system o p with env := env } where
  refl _ w := { Kept.refl w with log := rfl, apart := fun _ _ => id }
  trans first last :=
    { Kept.trans first.toKept last.toKept with
      log := last.log.trans first.log
      apart := fun apart id unstored => last.apart apart id (first.apart apart id unstored) }
  guar other _ := absurd rfl other
  env inv moved := by
    obtain ⟨step, apart⟩ := others _ _ moved
    obtain ⟨inv', kept⟩ := Inv.env inv step
    exact ⟨inv', fun _ => { kept with log := step.log, apart := apart }⟩
  unused _ _ := trivial
  again _ _ _ _ := trivial
  start may _ _ := by
    obtain ⟨rounds, rfl⟩ := may
    exact safe_processOne

theorem system_sound : Sound (discipline p False) (fun _ _ => True) (system o p) := sound_of_env fun _ _ moved => ⟨moved, False.elim⟩

/-- The log of a run is never shortened. -/
theorem log_grows {c d : Config World Unit} (keeping : Keeping (discipline p False) (fun _ _ => True) c)
    (run : Relation.ReflTransGen (Step (system o p)) c d) : c.shared.log <:+ d.shared.log := by
  have grows := keeping.history system_sound (T := fun w w' => w.log <:+ w'.log) (fun _ => List.suffix_rfl)
    (fun first last => first.trans last) (fun _ _ _ guar => guar.1) ?_ run
  · exact grows
  · intro w w' inv moved
    exact ⟨[], moved.log.symm⟩

theorem keeping_start {strict : Prop} {c : Config World Unit} (idle : ∀ i, c.threads i = none) (empty : c.shared.log = [])
    (minted : ∀ t ∈ c.shared.db.tasks, t.taskID ∈ c.shared.minted)
    (clean : strict → ∀ t ∈ c.shared.db.tasks, t.status.isQueued = true → ¬ Baseline t) :
    Keeping (discipline p strict) (fun _ _ => True) c := by
  have unlogged (id : String) : ¬ Logged c.shared.log id := by
    rw [empty]
    rintro (called | marked)
    · cases called
    · cases marked
  have start : Inv strict c.shared := by
    refine ⟨minted, fun id logged => absurd logged (unlogged id), fun t _ logged => absurd logged (unlogged _),
      fun t _ marked => absurd (.inr marked) (unlogged _), fun id => .inl ?_, fun later earlier id split => ?_, clean⟩
    · rw [empty]
      exact Nat.zero_le 1
    · rw [empty] at split
      cases later <;> cases split
  exact ⟨start, fun i q running => absurd running (by rw [idle i]; nofun), fun _ _ => trivial⟩

/-- How the worker has submitted so far: a task at most twice, the second time after a mark; and
the mark of a task is still stored whenever the task is. -/
structure Bounded (o : Options) (p : Processor) (c : Config World Unit) : Prop where
  twice : ∀ id, c.shared.log.count (.call id) ≤ 2
  marked : Ordered c.shared.log
  kept : ∀ d, Relation.ReflTransGen (Step (system o p)) c d → ∀ t ∈ d.shared.db.tasks, .mark t.taskID ∈ c.shared.log → t.retryCount = 1

/-- In every run of the worker of one legacy node, with crashes and new starts at any time, any
answers of the upstream and anything else going on, a task is submitted at most twice. -/
theorem submissions_bounded (o : Options) (p : Processor) {c d : Config World Unit}
    (idle : ∀ i, c.threads i = none) (empty : c.shared.log = [])
    (minted : ∀ t ∈ c.shared.db.tasks, t.taskID ∈ c.shared.minted)
    (run : Relation.ReflTransGen (Step (system o p)) c d) : Bounded o p d := by
  have reached := (keeping_start idle empty minted False.elim).run system_sound run
  have inv : Inv False d.shared := reached.inv
  refine ⟨fun id => (inv.calls id).elim (fun few => Nat.le_succ_of_le few) And.left, inv.ordered, fun e more t stored marked => ?_⟩
  have later : Inv False e.shared := (reached.run system_sound more).inv
  exact later.marks t stored ((log_grows reached more).subset marked)

/-- The worker does what `Follows` asks of others: where no other stores a gallery for a task in
dispatch at its node, every task is spared in every run. -/
theorem processOne_follows (o : Options) (p : Processor) {c d : Config World Unit} (idle : ∀ i, c.threads i = none)
    (empty : c.shared.log = []) (minted : ∀ t ∈ c.shared.db.tasks, t.taskID ∈ c.shared.minted)
    (clean : ∀ t ∈ c.shared.db.tasks, t.status.isQueued = true → ¬ Baseline t)
    (run : Relation.ReflTransGen (Step (apart o p)) c d) : Kept c.shared d.shared := by
  have sound : Sound (discipline p True) (fun _ _ => True) (apart o p) :=
    sound_of_env fun _ _ moved => ⟨moved.1, fun _ => moved.2⟩
  exact (keeping_start idle empty minted fun _ => clean).history sound Kept.refl Kept.trans (fun _ _ _ guar => guar.2 trivial)
    (fun _ _ inv moved => (Inv.env inv moved.1).2) run

/-- The worker alone, where it is in its pass. -/
def alone (w : World) (q : Proc World Unit) : Config World Unit := ⟨w, fun _ => some q⟩

theorem alone_start (c : Config World Unit) (rounds : Nat) : Step (system o p) c (alone c.shared (processOne o p rounds)) := by
  have step : Step (system o p) c ⟨c.shared, Function.update c.threads () (some (processOne o p rounds))⟩ :=
    .start (.inr trivial) ⟨rounds, rfl⟩
  rwa [show Function.update c.threads () (some (processOne o p rounds)) = fun _ => some (processOne o p rounds) from
    funext fun _ => rfl] at step

theorem alone_step {β : Type} {act : World → β → World → Prop} {f : β → Proc World Unit} {w w' : World} (b : β)
    (stepped : act w b w') : Step (system o p) (alone w (Proc.perform act >>= f)) (alone w' (f b)) := by
  have step : Step (system o p) (alone w (Proc.perform act >>= f))
      ⟨w', Function.update (fun _ => some (Proc.perform act >>= f)) () (some (f b))⟩ :=
    .run rfl stepped
  rwa [show Function.update (fun _ => some (Proc.perform act >>= f)) () (some (f b)) = fun _ => some (f b) from funext fun _ => rfl] at step

/-- A node with the jobs API, whose galleries are empty. -/
def jobsNode : Processor where
  id := "n1"
  nodeVersion := 0
  hasJobs := true
  validate _ := some "16:9"
  marshal _ := "[]"
  unmarshal _ := some []
  marshal_text _ := by decide

/-- A task in the queue for legacy nodes. -/
def legacyTask : Task where
  queueSeq := 1
  taskID := "t1"
  apiKeyID := "k1"
  requestJSON := .value { model := "MiniMax-H3", content := [] }
  protocolVersion := some .legacy
  routeState := .ready
  routingSnapshotJSON := some (.value
    { model := "MiniMax-H3", protocolVersion := .legacy, requirements := { scenario := "t2va", duration := 4 } })
  createdAt := 0
  updatedAt := 0
  expiresAt := 1000

def queuedTask : World where
  db := DB.empty.load [.insert Tbl.videoTasks fun _ _ => [legacyTask]]
  minted := ["t1"]

/-- The database after the first submission, whose answer was lost. -/
def lostDB : Database :=
  let claimed := (claimNext Flow.remoteOptions "n1" none 1000 noFaults 0 queuedTask.db).db
  let context := (saveSubmissionContext "t1" "n1" [] 2000 noFaults 0 claimed).db
  let based := (saveBaseline "t1" "n1" "[]" 3000 noFaults 0 context).db
  (markReconciling "t1" "n1" 4000 noFaults 0 based).db

/-- Its only row. -/
def lostTask : Task :=
  { claimedTask "n1" 1 legacyTask with
    status := .reconciling, attemptStartedAt := some 2, galleryBeforeJSON := some "[]", updatedAt := 4, version := 4 }

theorem lostTask_active : Active jobsNode.id lostDB (.ok lostTask) := .found lostTask (List.mem_singleton.mpr rfl) rfl rfl rfl

/-- The worker claims the task, stores the jobs and the gallery before it, and submits it. -/
theorem queuedTask_submitted : Relation.ReflTransGen (Step (system Flow.remoteOptions jobsNode)) ⟨queuedTask, fun _ => none⟩
    (alone ⟨lostDB, ["t1"], [.call "t1"]⟩ (poll jobsNode "16:9" 1 [] 0)) := by
  have idle : Active jobsNode.id queuedTask.db (.error .taskNotFound) := .none (by decide +kernel)
  refine .head (alone_start _ 1) ?_
  refine .head (alone_step (Except.error Err.taskNotFound) ⟨rfl, idle⟩) ?_
  refine .head (alone_step (Except.ok (claimedTask "n1" 1 legacyTask)) ⟨1000, noFaults, 0, rfl, rfl⟩) ?_
  refine .head (alone_step (some []) rfl) ?_
  refine .head (alone_step (.ok ()) ⟨2000, noFaults, 0, rfl, rfl⟩) ?_
  refine .head (alone_step (some ⟨some [], .idle, some 0⟩) rfl) ?_
  refine .head (alone_step (.ok ()) ⟨3000, noFaults, 0, rfl, rfl⟩) ?_
  refine .head (alone_step true rfl) ?_
  refine .head (alone_step .unknown rfl) ?_
  refine .head (alone_step (.ok ()) ⟨4000, noFaults, 0, rfl, rfl⟩) ?_
  exact .head (alone_step (Except.ok lostTask) ⟨rfl, lostTask_active⟩) .refl

/-- No job and no video is found, so the retry is stored, the task is submitted again, and the
worker crashes. -/
def resubmitted : Config World Unit :=
  alone ⟨(beginRetry "t1" "n1" [] "[]" 5000 noFaults 0 lostDB).db, ["t1"], [.call "t1", .mark "t1", .call "t1"]⟩
    (processOne Flow.remoteOptions jobsNode 0)

theorem queuedTask_resubmitted :
    Relation.ReflTransGen (Step (system Flow.remoteOptions jobsNode)) ⟨queuedTask, fun _ => none⟩ resubmitted := by
  refine queuedTask_submitted.trans ?_
  refine .head (alone_step (Except.ok lostTask) ⟨rfl, lostTask_active⟩) ?_
  refine .head (alone_step (some ⟨some [], .idle, some 0⟩) rfl) ?_
  refine .head (alone_step (some []) rfl) ?_
  refine .head (alone_step (some []) rfl) ?_
  refine .head (alone_step (.ok ()) ⟨5000, noFaults, 0, rfl, rfl⟩) ?_
  refine .head (alone_step true rfl) ?_
  refine .head (alone_step .unknown rfl) ?_
  exact .single (alone_start _ 0)

theorem submissions_bounded_twice : resubmitted.shared.log = [.call "t1", .mark "t1", .call "t1"] ∧
    Bounded Flow.remoteOptions jobsNode resubmitted := by
  have minted : ∀ t ∈ Database.tasks queuedTask.db, t.taskID ∈ queuedTask.minted := by decide +kernel
  exact ⟨rfl, submissions_bounded _ _ (fun _ => rfl) rfl minted queuedTask_resubmitted⟩

end MinimaxProxy.Legacy
