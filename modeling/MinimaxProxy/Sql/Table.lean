import Mathlib.Data.List.Basic

/-!
# Tables of a relational store

A `Schema` gives the row type of every table with the constraints the engine
enforces: `fits` (unique indexes and the order of the row id), `check` (column
checks), `trigger` (what a BEFORE trigger raises) and `refs` (foreign keys). A
`Table` carries the proof that its rows meet the first two, so a table that breaks
a unique index cannot be built; foreign keys relate two tables and are checked by
the statements instead (`Sql.Statement`).
-/

namespace Sql

/-- A foreign key of one row: the row of `parent` it names, and whether deleting
that row deletes this one with it. -/
structure Ref (T : Type) where
  parent : T
  id : String
  cascade : Bool := false
deriving DecidableEq

/-- The tables of a store and the constraints on their rows. -/
structure Schema where
  Tbl : Type
  [decEq : DecidableEq Tbl]
  /-- Every table, in the order in which foreign keys are verified. -/
  tables : List Tbl
  Row : Tbl → Type
  /-- The column by which other tables refer to a row. -/
  key : (t : Tbl) → Row t → String
  /-- May `a`, stored before `b`, stand in one table with it? -/
  fits : (t : Tbl) → Row t → Row t → Bool
  /-- The column checks; the number is the last row id handed out. -/
  check : (t : Tbl) → Nat → Row t → Bool
  /-- What a BEFORE INSERT (no old row) or BEFORE UPDATE trigger raises. -/
  trigger : (t : Tbl) → Option (Row t) → Row t → Option String
  refs : (t : Tbl) → Row t → List (Ref Tbl)

instance (S : Schema) : DecidableEq S.Tbl := S.decEq

/-- Why the engine refuses a statement. -/
inductive Violation
  | unique
  | check
  | foreignKey
  | trigger (message : String)
deriving DecidableEq

/-- The rows of one table in row id order, with the last row id handed out. -/
structure Table {ρ : Type} (fits : ρ → ρ → Bool) (check : Nat → ρ → Bool) where
  rows : List ρ
  seq : Nat
  fit : rows.Pairwise fun a b => fits a b = true
  checked : ∀ r ∈ rows, check seq r = true

namespace Table
variable {ρ : Type} {fits : ρ → ρ → Bool} {check : Nat → ρ → Bool}

def empty : Table fits check := ⟨[], 0, .nil, by simp⟩

/-- Store `rows`, if the constraints allow it. -/
def store (rows : List ρ) (seq : Nat) : Except Violation (Table fits check) :=
  if hc : ∀ r ∈ rows, check seq r = true then
    if hf : rows.Pairwise fun a b => fits a b = true then .ok ⟨rows, seq, hf, hc⟩ else .error .unique
  else .error .check

theorem store_ok {rows : List ρ} {seq : Nat} {tab : Table fits check} (h : store rows seq = .ok tab) :
    tab.rows = rows ∧ tab.seq = seq := by
  unfold store at h
  split at h
  · split at h
    · cases h; exact ⟨rfl, rfl⟩
    · cases h
  · cases h

theorem store_eq {rows : List ρ} {seq : Nat} (hf : rows.Pairwise fun a b => fits a b = true) (hc : ∀ r ∈ rows, check seq r = true) :
    store rows seq = .ok (⟨rows, seq, hf, hc⟩ : Table fits check) := by
  unfold store
  rw [dif_pos hc, dif_pos hf]

end Table

/-- The stored state: one table per name. -/
def DB (S : Schema) : Type := (t : S.Tbl) → Table (S.fits t) (S.check t)

namespace DB
variable {S : Schema}

def empty : DB S := fun _ => .empty

/-- The rows of table `t`, in row id order. -/
def rows (db : DB S) (t : S.Tbl) : List (S.Row t) := (db t).rows

def put (db : DB S) (t : S.Tbl) (tab : Table (S.fits t) (S.check t)) : DB S :=
  fun t' => if h : t' = t then h ▸ tab else db t'

@[simp] theorem rows_put_self (db : DB S) (t : S.Tbl) (tab : Table (S.fits t) (S.check t)) : (db.put t tab).rows t = tab.rows := by
  simp [rows, put]

theorem put_of_ne {db : DB S} {t t' : S.Tbl} (tab : Table (S.fits t) (S.check t)) (h : t' ≠ t) :
    db.put t tab t' = db t' := by
  simp [put, h]

theorem rows_put_of_ne {db : DB S} {t t' : S.Tbl} (tab : Table (S.fits t) (S.check t))
    (h : t' ≠ t) : (db.put t tab).rows t' = db.rows t' := by
  rw [rows, put_of_ne tab h]; rfl

/-- Does the foreign key `r` name a stored row? -/
def resolves (db : DB S) (r : Ref S.Tbl) : Bool := (db.rows r.parent).any fun p => S.key r.parent p == r.id

/-- Every foreign key of every row names a stored row. -/
def refsResolve (db : DB S) : Bool :=
  S.tables.all fun t => (db.rows t).all fun r => (S.refs t r).all db.resolves

end DB

end Sql
