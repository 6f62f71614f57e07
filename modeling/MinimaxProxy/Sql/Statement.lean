import Mathlib.Data.List.Pairwise
import MinimaxProxy.Sql.Table

/-!
# Data statements and what they do to a store

A `Dml` is one INSERT, upsert, UPDATE or DELETE; its row expressions may read the
whole store, as sub-selects do. `Dml.apply` gives the number of rows it affected
and the store after it, or why the engine refuses it. The `apply_*` lemmas say what
a statement that succeeded has done, and `apply_frame` what it has left alone.
-/

namespace Sql
variable {S : Schema}

/-- One data statement. `insert` gets the next row id; an `ON CONFLICT DO NOTHING`
is an `insert` whose list is empty when a stored row conflicts. An `upsert` inserts at
most one row, or merges it into the stored row that `same` finds, if `merge` allows. -/
inductive Dml (S : Schema) where
  | insert (t : S.Tbl) (new : DB S → Nat → List (S.Row t))
  | upsert (t : S.Tbl) (new : DB S → Option (S.Row t)) (same : S.Row t → S.Row t → Bool)
      (merge : S.Row t → S.Row t → Option (S.Row t))
  | update (t : S.Tbl) (sel : DB S → S.Row t → Bool) (set : DB S → S.Row t → S.Row t)
  | delete (t : S.Tbl) (sel : DB S → S.Row t → Bool)

/-- The table a statement names. -/
def Dml.table : Dml S → S.Tbl
  | .insert t _ | .upsert t _ _ _ | .update t _ _ | .delete t _ => t

section
variable {t : S.Tbl} {sel : DB S → S.Row t → Bool}

@[simp] theorem table_insert {new} : (Dml.insert t new : Dml S).table = t := rfl
@[simp] theorem table_upsert {new same merge} : (Dml.upsert t new same merge : Dml S).table = t := rfl
@[simp] theorem table_update {set} : (Dml.update t sel set).table = t := rfl
@[simp] theorem table_delete : (Dml.delete t sel).table = t := rfl

end

/-- Keep the rows that meet `p`; a subset of a valid table is valid. -/
def Table.filter {ρ : Type} {fits : ρ → ρ → Bool} {check : Nat → ρ → Bool} (tab : Table fits check)
    (p : ρ → Bool) : Table fits check :=
  ⟨tab.rows.filter p, tab.seq, tab.fit.filter p, fun r hr => tab.checked r (List.mem_filter.mp hr).1⟩

/-- Change the rows that `sel` selects. -/
def updateRows {ρ : Type} (sel : ρ → Bool) (set : ρ → ρ) (rows : List ρ) : List ρ :=
  rows.map fun r => if sel r then set r else r

/-- `ORDER BY … LIMIT 1`: the earliest row that no other row comes before. -/
def first {ρ : Type} (before : ρ → ρ → Bool) : List ρ → Option ρ
  | [] => none
  | r :: rows =>
    match first before rows with
    | none => some r
    | some best => if before best r then some best else some r

theorem first_mem {ρ : Type} {before : ρ → ρ → Bool} {rows : List ρ} {r : ρ} (h : first before rows = some r) :
    r ∈ rows := by
  induction rows with
  | nil => cases h
  | cons a rows ih =>
    simp only [first] at h
    split at h
    · cases h; simp
    · rename_i best found
      split at h
      · cases h; exact List.mem_cons_of_mem _ (ih found)
      · cases h; simp

/-- No row comes before the first one, in an order of this kind. -/
theorem first_least {ρ : Type} {before : ρ → ρ → Bool} (irrefl : ∀ a, before a a = false)
    (trans : ∀ a b c, before b a = false → before c b = false → before c a = false)
    (asymm : ∀ a b, before a b = true → before b a = false) {rows : List ρ} {r : ρ} (h : first before rows = some r) :
    ∀ x ∈ rows, before x r = false := by
  induction rows generalizing r with
  | nil => cases h
  | cons a rows ih =>
    intro x mem
    simp only [first] at h
    split at h
    · rename_i unrefused
      cases h
      cases rows with
      | nil =>
        rw [List.mem_singleton.mp mem]
        exact irrefl a
      | cons b rows =>
        simp only [first] at unrefused
        split at unrefused
        · cases unrefused
        · split at unrefused <;> cases unrefused
    · rename_i best found
      split at h
      · rename_i less
        cases h
        rcases List.mem_cons.mp mem with rfl | later
        · exact asymm _ _ less
        · exact ih found x later
      · rename_i more
        cases h
        rcases List.mem_cons.mp mem with rfl | later
        · exact irrefl x
        · exact trans _ _ _ (by simpa using more) (ih found x later)

theorem first_none {ρ : Type} {before : ρ → ρ → Bool} {rows : List ρ} : first before rows = none ↔ rows = [] := by
  cases rows with
  | nil => simp [first]
  | cons a rows =>
    simp only [first, reduceCtorEq, iff_false]
    split
    · simp
    · split <;> simp

/-- Selecting by a key: of the rows, only `r` can meet `p`. -/
theorem filter_of_key {ρ κ : Type} {key : ρ → κ} {rows : List ρ} {p : ρ → Bool} {r : ρ}
    (distinct : rows.Pairwise fun a b => key a ≠ key b) (mem : r ∈ rows) (only : ∀ s ∈ rows, p s = true → key s = key r) :
    rows.filter p = if p r then [r] else [] := by
  induction rows with
  | nil => cases mem
  | cons a rows ih =>
    rw [List.pairwise_cons] at distinct
    rw [List.filter_cons]
    rcases List.mem_cons.mp mem with rfl | mem
    · have none_else : rows.filter p = [] := by
        rw [List.filter_eq_nil_iff]
        intro s hs met
        exact distinct.1 s hs (only s (by simp [hs]) met).symm
      split <;> simp [none_else]
    · have no : p a = false := by
        by_contra yes
        exact distinct.1 r mem (only a (by simp) (by simpa using yes))
      simp [no, ih distinct.2 mem fun s hs => only s (by simp [hs])]

theorem find_of_key {ρ κ : Type} {key : ρ → κ} {rows : List ρ} {p : ρ → Bool} {r : ρ}
    (distinct : rows.Pairwise fun a b => key a ≠ key b) (mem : r ∈ rows) (only : ∀ s ∈ rows, p s = true → key s = key r) :
    rows.find? p = if p r then some r else none := by
  rw [← List.head?_filter, filter_of_key distinct mem only]
  split <;> rfl

/-- A key names one row. -/
theorem eq_of_key {ρ κ : Type} {key : ρ → κ} {rows : List ρ} {r s : ρ} (distinct : rows.Pairwise fun a b => key a ≠ key b)
    (hr : r ∈ rows) (hs : s ∈ rows) (same : key r = key s) : r = s := by
  have symm : Std.Symm fun a b : ρ => key a ≠ key b := ⟨fun _ _ => Ne.symm⟩
  by_contra differ
  exact distinct.forall hr hs differ same

namespace DB

/-- Store `rows` in table `t`, then verify the foreign keys `keys`. -/
def replace (db : DB S) (t : S.Tbl) (rows : List (S.Row t)) (seq : Nat) (keys : List (Ref S.Tbl)) :
    Except Violation (DB S) :=
  match Table.store rows seq with
  | .error v => .error v
  | .ok tab => if keys.all (db.put t tab).resolves then .ok (db.put t tab) else .error .foreignKey

/-- Remove the rows of `t` that `sel` selects, with the rows that cascade from them. -/
def remove (db : DB S) (t : S.Tbl) (sel : S.Row t → Bool) : DB S :=
  let db' := db.put t ((db t).filter fun r => !sel r)
  fun t' => (db' t').filter fun r => (S.refs t' r).all fun k => !k.cascade || k.parent ≠ t || db'.resolves k

/-- A row that is left still refers to a removed row of `t`. -/
def orphaned (db : DB S) (t : S.Tbl) (gone : List (S.Row t)) : Bool :=
  S.tables.any fun t' => (db.rows t').any fun r => (S.refs t' r).any fun k =>
    k.parent = t && (gone.any fun g => S.key t g == k.id) && !db.resolves k

end DB

/-- Run one statement. -/
def Dml.apply : Dml S → DB S → Except Violation (Nat × DB S)
  | .insert t new, db =>
    let rows := new db ((db t).seq + 1)
    match rows.findSome? (S.trigger t none) with
    | some message => .error (.trigger message)
    | none => do
      let db' ← db.replace t (db.rows t ++ rows) ((db t).seq + rows.length) (rows.flatMap (S.refs t))
      .ok (rows.length, db')
  | .upsert t new same merge, db =>
    match new db with
    | none => .ok (0, db)
    | some row =>
      match (db.rows t).find? (same row) with
      | none => do
        let db' ← db.replace t (db.rows t ++ [row]) ((db t).seq + 1) (S.refs t row)
        .ok (1, db')
      | some old =>
        if (merge row old).isNone then .ok (0, db)
        else do
          let db' ← db.replace t (updateRows (same row) (fun o => (merge row o).getD o) (db.rows t)) (db t).seq []
          .ok (1, db')
  | .update t sel set, db =>
    let hit := (db.rows t).filter (sel db)
    match hit.findSome? fun r => S.trigger t (some r) (set db r) with
    | some message => .error (.trigger message)
    | none => do
      let db' ← db.replace t (updateRows (sel db) (set db) (db.rows t)) (db t).seq
        (hit.flatMap fun r => (S.refs t (set db r)).filter fun k => k ∉ S.refs t r)
      .ok (hit.length, db')
  | .delete t sel, db =>
    let gone := (db.rows t).filter (sel db)
    if (db.remove t (sel db)).orphaned t gone then .error .foreignKey
    else .ok (gone.length, db.remove t (sel db))

/-- The store after some statements; a refused one is passed over. -/
def DB.load (db : DB S) : List (Dml S) → DB S
  | [] => db
  | w :: ws =>
    match w.apply db with
    | .ok (_, db') => db'.load ws
    | .error _ => db.load ws

/-! ## What a successful statement has done -/

theorem DB.replace_ok {db db' : DB S} {t : S.Tbl} {rows : List (S.Row t)} {seq : Nat} {keys : List (Ref S.Tbl)}
    (h : db.replace t rows seq keys = .ok db') :
    ∃ tab, db' = db.put t tab ∧ tab.rows = rows ∧ tab.seq = seq := by
  unfold replace at h
  split at h
  · cases h
  · rename_i tab stored
    split at h
    · cases h
      exact ⟨tab, rfl, Table.store_ok stored⟩
    · cases h

theorem Except.map_ok {ε α β : Type} {x : Except ε α} {f : α → β} {b : β}
    (h : (do let a ← x; .ok (f a)) = .ok b) : ∃ a, x = .ok a ∧ f a = b := by
  cases x with
  | error e => cases h
  | ok a => cases h; exact ⟨a, rfl, rfl⟩

theorem apply_insert {db db' : DB S} {t : S.Tbl} {new : DB S → Nat → List (S.Row t)}
    {n : Nat} (h : (Dml.insert t new).apply db = .ok (n, db')) :
    ∃ tab, db' = db.put t tab ∧ tab.rows = db.rows t ++ new db ((db t).seq + 1) ∧
      n = (new db ((db t).seq + 1)).length ∧
      ∀ r ∈ new db ((db t).seq + 1), S.trigger t none r = none := by
  simp only [Dml.apply] at h
  split at h
  · cases h
  · rename_i quiet
    obtain ⟨d, stored, e⟩ := Except.map_ok h
    cases e
    obtain ⟨tab, rfl, rows, -⟩ := DB.replace_ok stored
    exact ⟨tab, rfl, rows, rfl, fun r hr => List.findSome?_eq_none_iff.mp quiet r hr⟩

theorem apply_update {db db' : DB S} {t : S.Tbl} {sel : DB S → S.Row t → Bool}
    {set : DB S → S.Row t → S.Row t} {n : Nat} (h : (Dml.update t sel set).apply db = .ok (n, db')) :
    ∃ tab, db' = db.put t tab ∧ tab.rows = updateRows (sel db) (set db) (db.rows t) ∧
      n = ((db.rows t).filter (sel db)).length ∧
      ∀ r ∈ db.rows t, sel db r = true → S.trigger t (some r) (set db r) = none := by
  simp only [Dml.apply] at h
  split at h
  · cases h
  · rename_i quiet
    obtain ⟨d, stored, e⟩ := Except.map_ok h
    cases e
    obtain ⟨tab, rfl, rows, -⟩ := DB.replace_ok stored
    refine ⟨tab, rfl, rows, rfl, fun r hr hs => ?_⟩
    exact List.findSome?_eq_none_iff.mp quiet r (List.mem_filter.mpr ⟨hr, hs⟩)

theorem apply_delete {db db' : DB S} {t : S.Tbl} {sel : DB S → S.Row t → Bool} {n : Nat} (h : (Dml.delete t sel).apply db = .ok (n, db')) :
    db' = db.remove t (sel db) ∧ n = ((db.rows t).filter (sel db)).length := by
  simp only [Dml.apply] at h
  split at h
  · cases h
  · cases h; exact ⟨rfl, rfl⟩

theorem apply_upsert {db db' : DB S} {t : S.Tbl} {new : DB S → Option (S.Row t)}
    {same : S.Row t → S.Row t → Bool} {merge : S.Row t → S.Row t → Option (S.Row t)} {n : Nat}
    (h : (Dml.upsert t new same merge).apply db = .ok (n, db')) :
    db' = db ∨ ∃ row tab, new db = some row ∧ db' = db.put t tab ∧
      (tab.rows = updateRows (same row) (fun o => (merge row o).getD o) (db.rows t) ∨ tab.rows = db.rows t ++ [row]) := by
  simp only [Dml.apply] at h
  split at h
  · cases h; exact .inl rfl
  · rename_i row given
    split at h
    · obtain ⟨d, stored, e⟩ := Except.map_ok h
      cases e
      obtain ⟨tab, rfl, rows, -⟩ := DB.replace_ok stored
      exact .inr ⟨row, tab, given, rfl, .inr rows⟩
    · split at h
      · cases h; exact .inl rfl
      · obtain ⟨d, stored, e⟩ := Except.map_ok h
        cases e
        obtain ⟨tab, rfl, rows, -⟩ := DB.replace_ok stored
        exact .inr ⟨row, tab, given, rfl, .inl rows⟩

end Sql
