import MinimaxProxy.Sql.Rules

/-!
# Runs without faults

`Prog.eval` runs a program when no statement fails by itself: only the engine's own
constraints can refuse one. The `eval_*` lemmas compute it along a `do` block, and
`apply_update_eq` says when an UPDATE is not refused.
-/

namespace Sql
variable {S : Schema} {ε α β : Type} [OfViolation ε]

namespace Prog

/-- The result and the store after a run without faults. -/
def eval : Prog S ε α → DB S → Except ε α × DB S
  | .ret a, db => (.ok a, db)
  | .fail e, db => (.error e, db)
  | .read k, db => (k (.ok db)).eval db
  | .write w k, db =>
    match w.apply db with
    | .error v => (k (.error (OfViolation.ofViolation v))).eval db
    | .ok (c, db') => (k (.ok c)).eval db'

theorem run_noFaults (p : Prog S ε α) (n : Nat) (db : DB S) :
    (p.run noFaults n db).result = (p.eval db).1 ∧ (p.run noFaults n db).db = (p.eval db).2 := by
  induction p generalizing n db with
  | ret a => exact ⟨rfl, rfl⟩
  | fail e => exact ⟨rfl, rfl⟩
  | read k ih => exact ih _ _ _
  | write w k ih =>
    simp only [run, eval, noFaults]
    cases w.apply db with
    | error v => exact ih _ _ _
    | ok r => exact ih _ _ _

@[simp] theorem eval_pure (a : α) (db : DB S) : (pure a : Prog S ε α).eval db = (.ok a, db) := rfl
@[simp] theorem eval_fail (e : ε) (db : DB S) : (fail e : Prog S ε α).eval db = (.error e, db) := rfl

theorem eval_bind (p : Prog S ε α) (f : α → Prog S ε β) (db : DB S) : (p >>= f).eval db =
      match p.eval db with
      | (.ok a, mid) => (f a).eval mid
      | (.error e, mid) => (.error e, mid) := by
  rw [bind_eq]
  induction p generalizing db with
  | ret a => rfl
  | fail e => rfl
  | read k ih => exact ih _ _
  | write w k ih =>
    simp only [bind, eval]
    cases w.apply db with
    | error v => exact ih _ _
    | ok r => exact ih _ _

theorem eval_bind_ok {p : Prog S ε α} {f : α → Prog S ε β} {db mid : DB S} {a : α} (h : p.eval db = (.ok a, mid)) :
    (p >>= f).eval db = (f a).eval mid := by
  rw [eval_bind, h]

theorem eval_bind_error {p : Prog S ε α} {f : α → Prog S ε β} {db mid : DB S} {e : ε} (h : p.eval db = (.error e, mid)) :
    (p >>= f).eval db = (.error e, mid) := by
  rw [eval_bind, h]

@[simp] theorem eval_query (f : DB S → Except ε α) (db : DB S) : (query f).eval db = (f db, db) := by
  simp only [query, eval]
  cases f db <;> rfl

@[simp] theorem eval_select (f : DB S → α) (db : DB S) : (select f : Prog S ε α).eval db = (.ok (f db), db) := eval_query _ db

theorem eval_exec_ok {w : Dml S} {db db' : DB S} {n : Nat} (h : w.apply db = .ok (n, db')) :
    (exec w : Prog S ε Nat).eval db = (.ok n, db') := by
  simp [exec, eval, h]

/-- A sequence returns a value if its parts do. -/
theorem eval_bind_iff {p : Prog S ε α} {f : α → Prog S ε β} {db db' : DB S} {b : β} :
    (p >>= f).eval db = (.ok b, db') ↔ ∃ a mid, p.eval db = (.ok a, mid) ∧ (f a).eval mid = (.ok b, db') := by
  constructor
  · intro out
    rw [eval_bind] at out
    split at out
    · next a mid ran => exact ⟨a, mid, ran, out⟩
    · cases out
  · rintro ⟨a, mid, ran, out⟩
    rw [eval_bind_ok ran, out]

theorem eval_exec_iff {w : Dml S} {db db' : DB S} {n : Nat} :
    (exec w : Prog S ε Nat).eval db = (.ok n, db') ↔ w.apply db = .ok (n, db') := by
  constructor
  · intro out
    simp only [exec, eval] at out
    cases applied : w.apply db with
    | error v => rw [applied] at out; cases out
    | ok r => rw [applied] at out; cases out; rfl
  · exact eval_exec_ok

/-- A program without data statements leaves the store alone. -/
theorem eval_readOnly {p : Prog S ε α} (h : p.Writes fun _ => False) (db : DB S) : p.eval db = ((p.eval db).1, db) := by
  have unchanged := direct_readOnly h noFaults 0 db
  have ran := (p.run_noFaults 0 db).2
  exact Prod.ext rfl (ran.symm.trans unchanged)

/-! ## Programs that only read -/

/-- The program only reads, and returns nothing but what it returns without faults. -/
structure Reads (p : Prog S ε α) : Prop where
  only : p.Writes fun _ => False
  eval : ∀ db db' a, p.Returns db a db' → p.eval db = (.ok a, db')

theorem Reads.writes {P : Dml S → Prop} {p : Prog S ε α} (h : p.Reads) : p.Writes P := h.only.mono fun _ => False.elim

theorem reads_pure {a : α} : (pure a : Prog S ε α).Reads where
  only := writes_pure
  eval _ _ _ out := by
    obtain ⟨rfl, rfl⟩ := returns_pure.mp out
    rfl

theorem reads_fail {e : ε} : (fail e : Prog S ε α).Reads := ⟨writes_fail, fun _ _ _ out => absurd out returns_fail⟩

theorem reads_query {f : DB S → Except ε α} : (query f).Reads where
  only := writes_query
  eval _ _ _ out := by
    obtain ⟨found, rfl⟩ := returns_query.mp out
    rw [eval_query, found]

theorem reads_bind {p : Prog S ε α} {f : α → Prog S ε β} (first : p.Reads) (rest : ∀ a, (f a).Reads) : (p >>= f).Reads where
  only := writes_bind first.only fun a => (rest a).only
  eval _ _ _ out := by
    obtain ⟨a, mid, ran, last⟩ := returns_bind.mp out
    rw [eval_bind_ok (first.eval _ _ _ ran)]
    exact (rest a).eval _ _ _ last

end Prog

/-- A transaction without faults commits what its program does, or nothing. -/
theorem immediate_noFaults (p : Prog S ε α) {n : Nat} {db : DB S} : (immediate p noFaults n db).result = (p.eval db).1 ∧
      (immediate p noFaults n db).db = match (p.eval db).1 with
        | .ok _ => (p.eval db).2
        | .error _ => db := by
  obtain ⟨result, left⟩ := p.run_noFaults (n + 1) db
  rw [← result, ← left]
  simp only [immediate, noFaults]
  cases out : p.run noFaults (n + 1) db with
  | mk r mid m => cases r <;> exact ⟨rfl, rfl⟩

/-- An UPDATE is not refused when the changed rows fit together as the old ones did, pass
their checks, raise no trigger and refer to nothing new. -/
theorem apply_update_eq (db : DB S) (t : S.Tbl) (sel : DB S → S.Row t → Bool) (set : DB S → S.Row t → S.Row t)
    (fits : ∀ a b, S.fits t (if sel db a then set db a else a) (if sel db b then set db b else b) = S.fits t a b)
    (check : ∀ r ∈ db.rows t, sel db r = true → S.check t (db t).seq (set db r) = true)
    (trigger : ∀ r ∈ db.rows t, sel db r = true → S.trigger t (some r) (set db r) = none)
    (refs : ∀ r ∈ db.rows t, sel db r = true → S.refs t (set db r) ⊆ S.refs t r) :
    ∃ tab, (Dml.update t sel set).apply db = .ok (((db.rows t).filter (sel db)).length, db.put t tab) ∧
      tab.rows = updateRows (sel db) (set db) (db.rows t) := by
  have fit : (updateRows (sel db) (set db) (db.rows t)).Pairwise fun a b => S.fits t a b = true := by
    rw [updateRows, List.pairwise_map]
    exact (db t).fit.imp fun {a b} h => by rw [fits]; exact h
  have checked : ∀ r ∈ updateRows (sel db) (set db) (db.rows t), S.check t (db t).seq r = true := by
    intro r hr
    obtain ⟨old, ho, rfl⟩ := List.mem_map.mp hr
    split
    · exact check old ho ‹_›
    · exact (db t).checked old ho
  have quiet : ((db.rows t).filter (sel db)).findSome? (fun r => S.trigger t (some r) (set db r)) = none := by
    rw [List.findSome?_eq_none_iff]
    intro r hr
    exact trigger r (List.mem_filter.mp hr).1 (List.mem_filter.mp hr).2
  have old : ((db.rows t).filter (sel db)).flatMap (fun r => (S.refs t (set db r)).filter fun k => k ∉ S.refs t r) = [] := by
    rw [List.flatMap_eq_nil_iff]
    intro r hr
    rw [List.filter_eq_nil_iff]
    intro k hk
    simpa using refs r (List.mem_filter.mp hr).1 (List.mem_filter.mp hr).2 hk
  refine ⟨⟨_, _, fit, checked⟩, ?_, rfl⟩
  simp only [Dml.apply, quiet, old, DB.replace, Table.store_eq fit checked, List.all_nil, if_true]
  rfl

end Sql
