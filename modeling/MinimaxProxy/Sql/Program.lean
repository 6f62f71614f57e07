import MinimaxProxy.Sql.Statement

/-!
# Programs of statements, faults and transactions

`Prog` is a program that reads and writes a store one statement at a time and may
look at the error of a statement. `Prog.run` runs it under `faults`, which may make
any statement fail before it takes effect. `immediate` wraps a program in a
transaction that commits exactly when the program returns no error;
`immediateShadowed` is the transaction of a caller that returns an error without
showing it to the code that chooses between COMMIT and ROLLBACK. A failed COMMIT
leaves the store as it was before the transaction.

`Prog.Yields` forgets which statement failed: it relates the store before a run to
every outcome that some choice of faults gives. Properties of runs are proved
about it.
-/

namespace Sql
variable {S : Schema} {ε α β : Type}

/-- A program over the store `S` with errors `ε`. -/
inductive Prog (S : Schema) (ε : Type) (α : Type) : Type where
  | ret (a : α)
  | fail (e : ε)
  | read (k : Except ε (DB S) → Prog S ε α)
  | write (w : Dml S) (k : Except ε Nat → Prog S ε α)

/-- The error a program sees when the engine refuses a statement. -/
class OfViolation (ε : Type) where
  ofViolation : Violation → ε

/-- `faults n` is the error with which the `n`-th statement of a connection fails. -/
abbrev Faults (ε : Type) : Type := Nat → Option ε

/-- No statement fails by itself. -/
def noFaults : Faults ε := fun _ => none

/-- How a run ended: its result, the store, and the number of the next statement. -/
structure Outcome (S : Schema) (ε : Type) (α : Type) where
  result : Except ε α
  db : DB S
  next : Nat

namespace Prog

def bind : Prog S ε α → (α → Prog S ε β) → Prog S ε β
  | .ret a, f => f a
  | .fail e, _ => .fail e
  | .read k, f => .read fun x => (k x).bind f
  | .write w k, f => .write w fun x => (k x).bind f

instance : Monad (Prog S ε) where
  pure := .ret
  bind := bind

/-- Run `p`, and `handler` on the error it fails with. -/
def orElse : Prog S ε α → (ε → Prog S ε α) → Prog S ε α
  | .ret a, _ => .ret a
  | .fail e, handler => handler e
  | .read k, handler => .read fun x => (k x).orElse handler
  | .write w k, handler => .write w fun x => (k x).orElse handler

/-- The error of `p` as a value. -/
def attempt (p : Prog S ε α) : Prog S ε (Except ε α) :=
  (p.bind fun a => .ret (.ok a)).orElse fun e => .ret (.error e)

/-- One SELECT. -/
def query (f : DB S → Except ε α) : Prog S ε α :=
  .read fun
    | .error e => .fail e
    | .ok db => match f db with
      | .error e => .fail e
      | .ok a => .ret a

/-- One SELECT that cannot fail by itself. -/
def select (f : DB S → α) : Prog S ε α := query fun db => .ok (f db)

/-- One data statement; returns the number of rows it affected. -/
def exec (w : Dml S) : Prog S ε Nat :=
  .write w fun
    | .error e => .fail e
    | .ok n => .ret n

/-- Run a program over each element of a list. -/
def forEach (f : α → Prog S ε Unit) : List α → Prog S ε Unit
  | [] => .ret ()
  | a :: l => (f a).bind fun _ => forEach f l

variable [OfViolation ε]

/-- Run `p` from statement number `n`. -/
def run (faults : Faults ε) : Prog S ε α → Nat → DB S → Outcome S ε α
  | .ret a, n, db => ⟨.ok a, db, n⟩
  | .fail e, n, db => ⟨.error e, db, n⟩
  | .read k, n, db =>
    match faults n with
    | some e => (k (.error e)).run faults (n + 1) db
    | none => (k (.ok db)).run faults (n + 1) db
  | .write w k, n, db =>
    match faults n with
    | some e => (k (.error e)).run faults (n + 1) db
    | none =>
      match w.apply db with
      | .error v => (k (.error (OfViolation.ofViolation v))).run faults (n + 1) db
      | .ok (c, db') => (k (.ok c)).run faults (n + 1) db'

end Prog

/-- A call of a store operation: what it returns and leaves behind under `faults`. -/
def Call (S : Schema) (ε : Type) (α : Type) : Type := Faults ε → Nat → DB S → Outcome S ε α

namespace Call

instance : Monad (Call S ε) where
  pure a := fun _ n db => ⟨.ok a, db, n⟩
  bind c f := fun faults n db =>
    match c faults n db with
    | ⟨.error e, db', m⟩ => ⟨.error e, db', m⟩
    | ⟨.ok a, db', m⟩ => f a faults m db'

/-- Return another error in place of the one `c` returns. -/
def mapError (g : ε → ε) (c : Call S ε α) : Call S ε α := fun faults n db =>
  match c faults n db with
  | ⟨.error e, db', m⟩ => ⟨.error (g e), db', m⟩
  | ⟨.ok a, db', m⟩ => ⟨.ok a, db', m⟩

end Call

variable [OfViolation ε]

/-- Statements outside a transaction: each takes effect by itself. -/
def Prog.direct (p : Prog S ε α) : Call S ε α := fun faults n db => p.run faults n db

/-- A transaction that the error of `p` rolls back. -/
def immediate (p : Prog S ε α) : Call S ε α := fun faults n db =>
  match faults n with
  | some e => ⟨.error e, db, n + 1⟩
  | none =>
    match p.run faults (n + 1) db with
    | ⟨.error e, _, m⟩ => ⟨.error e, db, m + 1⟩
    | ⟨.ok a, db', m⟩ =>
      match faults m with
      | some e => ⟨.error e, db, m + 1⟩
      | none => ⟨.ok a, db', m + 1⟩

/-- A transaction that only a failure of `p` rolls back: an error that `p` returns as
a value is returned to the caller after a COMMIT, and a failed COMMIT is not
reported. -/
def immediateShadowed (p : Prog S ε (Except ε α)) : Call S ε α := fun faults n db =>
  match faults n with
  | some e => ⟨.error e, db, n + 1⟩
  | none =>
    match p.run faults (n + 1) db with
    | ⟨.error e, _, m⟩ => ⟨.error e, db, m + 1⟩
    | ⟨.ok r, db', m⟩ =>
      match faults m with
      | some _ => ⟨r, db, m + 1⟩
      | none => ⟨r, db', m + 1⟩

/-! ## Outcomes over all faults -/

/-- Some choice of faults makes `p`, started in the first store, end with this
result in the second. A refused statement is one way to fail. -/
def Prog.Yields : Prog S ε α → DB S → Except ε α → DB S → Prop
  | .ret a, db, r, db' => r = .ok a ∧ db' = db
  | .fail e, db, r, db' => r = .error e ∧ db' = db
  | .read k, db, r, db' => (∃ e, (k (.error e)).Yields db r db') ∨ (k (.ok db)).Yields db r db'
  | .write w k, db, r, db' =>
    (∃ e, (k (.error e)).Yields db r db') ∨
      ∃ c mid, w.apply db = .ok (c, mid) ∧ (k (.ok c)).Yields mid r db'

theorem Prog.run_yields (faults : Faults ε) (p : Prog S ε α) (n : Nat) (db : DB S) :
    p.Yields db (p.run faults n db).result (p.run faults n db).db := by
  induction p generalizing n db with
  | ret a => exact ⟨rfl, rfl⟩
  | fail e => exact ⟨rfl, rfl⟩
  | read k ih =>
    simp only [run]
    split
    · exact .inl ⟨_, ih _ _ _⟩
    · exact .inr (ih _ _ _)
  | write w k ih =>
    simp only [run]
    split
    · exact .inl ⟨_, ih _ _ _⟩
    · split
      · exact .inl ⟨_, ih _ _ _⟩
      · exact .inr ⟨_, _, ‹_›, ih _ _ _⟩

end Sql
