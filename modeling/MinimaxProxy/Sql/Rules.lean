import MinimaxProxy.Sql.Program

/-!
# Rules for programs of statements

`Prog.Returns p db a db'`: `p` may return `a` and turn the store `db` into `db'`. The
`returns_*` lemmas take a program apart along its `do` block, so that a hypothesis
about an operation becomes the list of its reads, guards and statements.

`Prog.Writes P p`: every data statement `p` can reach meets `P`. A relation that
every such statement keeps is kept by every outcome of `p` (`Writes.yields`), failed
ones included.
-/

namespace Sql
variable {S : Schema} {ε α β : Type}

namespace Prog

theorem bind_eq (p : Prog S ε α) (f : α → Prog S ε β) : p >>= f = p.bind f := rfl

/-- `p` may return `a`, and the store is then `db'`. -/
def Returns (p : Prog S ε α) (db : DB S) (a : α) (db' : DB S) : Prop := p.Yields db (.ok a) db'

@[simp] theorem returns_ret {db db' : DB S} {a b : α} : (ret a : Prog S ε α).Returns db b db' ↔ b = a ∧ db' = db := by
  simp [Returns, Yields]

@[simp] theorem returns_pure {db db' : DB S} {a b : α} : (pure a : Prog S ε α).Returns db b db' ↔ b = a ∧ db' = db := returns_ret

@[simp] theorem returns_fail {db db' : DB S} {e : ε} {b : α} : ¬ (fail e : Prog S ε α).Returns db b db' := by
  simp [Returns, Yields]

@[simp] theorem returns_bind {p : Prog S ε α} {f : α → Prog S ε β} {db db' : DB S} {b : β} :
    (p >>= f).Returns db b db' ↔ ∃ a mid, p.Returns db a mid ∧ (f a).Returns mid b db' := by
  rw [bind_eq]
  induction p generalizing db with
  | ret a => simp [bind]
  | fail e => simp [bind]
  | read k ih =>
    simp only [Returns, bind, Yields] at ih ⊢
    simp only [ih]
    grind
  | write w k ih =>
    simp only [Returns, bind, Yields] at ih ⊢
    simp only [ih]
    grind

@[simp] theorem returns_query {f : DB S → Except ε α} {db db' : DB S} {a : α} : (query f).Returns db a db' ↔ f db = .ok a ∧ db' = db := by
  simp only [Returns, query, Yields]
  cases f db <;> simp [Yields, eq_comm]

/-- A query for one row, with an error if there is none. -/
theorem elim_ok {o : Option α} {e : ε} {a : α} : o.elim (.error e) (.ok : α → Except ε α) = .ok a ↔ o = some a := by
  cases o with
  | none => exact ⟨nofun, nofun⟩
  | some b => simp

@[simp] theorem returns_select {f : DB S → α} {db db' : DB S} {a : α} : (select f : Prog S ε α).Returns db a db' ↔ a = f db ∧ db' = db := by
  simp [select, eq_comm]

@[simp] theorem returns_exec {w : Dml S} {db db' : DB S} {n : Nat} :
    (exec w : Prog S ε Nat).Returns db n db' ↔ w.apply db = .ok (n, db') := by
  simp only [Returns, exec, Yields]
  constructor
  · rintro (⟨e, he, -⟩ | ⟨c, mid, applied, hn, rfl⟩)
    · cases he
    · cases hn; exact applied
  · intro applied
    exact .inr ⟨n, db', applied, rfl, rfl⟩

/-! A step that only reads, or one statement, before the rest. -/

/-- `attempt` returns the result of `p`, whichever it is. -/
theorem returns_attempt {p : Prog S ε α} {db db' : DB S} {r : Except ε α} : (attempt p).Returns db r db' ↔ p.Yields db r db' := by
  unfold attempt
  induction p generalizing db with
  | ret a => simp [bind, orElse, Yields]
  | fail e => simp [bind, orElse, Yields]
  | read k ih =>
    simp only [Returns, bind, orElse, Yields] at ih ⊢
    simp only [ih]
  | write w k ih =>
    simp only [Returns, bind, orElse, Yields] at ih ⊢
    simp only [ih]

/-- A program whose every error becomes another one returns as it did. -/
@[simp] theorem returns_orElse_fail {p : Prog S ε α} {g : ε → ε} {db db' : DB S} {a : α} :
    (p.orElse fun e => .fail (g e)).Returns db a db' ↔ p.Returns db a db' := by
  induction p generalizing db with
  | ret b => rfl
  | fail e => simp [orElse]
  | read k ih =>
    simp only [Returns, orElse, Yields] at ih ⊢
    simp only [ih]
  | write w k ih =>
    simp only [Returns, orElse, Yields] at ih ⊢
    simp only [ih]

/-! ## Statements a program can reach -/

/-- Every data statement `p` can reach meets `P`. -/
def Writes (P : Dml S → Prop) : Prog S ε α → Prop
  | .ret _ => True
  | .fail _ => True
  | .read k => ∀ x, (k x).Writes P
  | .write w k => P w ∧ ∀ x, (k x).Writes P

variable {P : Dml S → Prop}

@[simp] theorem writes_pure {a : α} : (pure a : Prog S ε α).Writes P := trivial
@[simp] theorem writes_fail {e : ε} : (fail e : Prog S ε α).Writes P := trivial

@[simp low] theorem writes_bind {p : Prog S ε α} {f : α → Prog S ε β}
    (hp : p.Writes P) (hf : ∀ a, (f a).Writes P) : (p >>= f).Writes P := by
  rw [bind_eq]
  induction p with
  | ret a => exact hf a
  | fail e => trivial
  | read k ih => exact fun x => ih x (hp x)
  | write w k ih => exact ⟨hp.1, fun x => ih x (hp.2 x)⟩

@[simp] theorem writes_query {f : DB S → Except ε α} : (query f).Writes P := by
  rintro (e | db)
  · trivial
  · dsimp only
    split <;> trivial

@[simp] theorem writes_select {f : DB S → α} : (select f : Prog S ε α).Writes P := writes_query

@[simp] theorem writes_exec {w : Dml S} : (exec w : Prog S ε Nat).Writes P ↔ P w := by
  constructor
  · exact fun h => h.1
  · refine fun h => ⟨h, ?_⟩
    rintro (e | n) <;> trivial

@[simp] theorem writes_forEach {f : α → Prog S ε Unit} {l : List α} (hf : ∀ a ∈ l, (f a).Writes P) : (forEach f l).Writes P := by
  induction l with
  | nil => trivial
  | cons a l ih =>
    exact writes_bind (hf a (by simp)) fun _ => ih fun b hb => hf b (by simp [hb])

@[simp] theorem writes_attempt {p : Prog S ε α} : (attempt p).Writes P ↔ p.Writes P := by
  unfold attempt
  induction p with
  | ret a => rfl
  | fail e => rfl
  | read k ih => exact forall_congr' ih
  | write w k ih => exact and_congr_right fun _ => forall_congr' ih

@[simp] theorem writes_orElse_fail {p : Prog S ε α} {g : ε → ε} : (p.orElse fun e => .fail (g e)).Writes P ↔ p.Writes P := by
  induction p with
  | ret a => rfl
  | fail e => rfl
  | read k ih => exact forall_congr' ih
  | write w k ih => exact and_congr_right fun _ => forall_congr' ih

theorem writes_orElse {p : Prog S ε α} {handler : ε → Prog S ε α} (hp : p.Writes P) (hh : ∀ e, (handler e).Writes P) :
    (p.orElse handler).Writes P := by
  induction p with
  | ret a => trivial
  | fail e => exact hh e
  | read k ih => exact fun x => ih x (hp x)
  | write w k ih => exact ⟨hp.1, fun x => ih x (hp.2 x)⟩

/-! `Writes` of a `do` block is the conjunction of the conditions on its statements. -/

section
variable {γ : Type} {f : α → Prog S ε β}

@[simp] theorem writes_bind_bind {p : Prog S ε α} {g : β → Prog S ε γ} :
    ((p >>= f) >>= g).Writes P ↔ (p >>= fun a => f a >>= g).Writes P := by
  simp only [bind_eq]
  induction p with
  | ret a => rfl
  | fail e => rfl
  | read k ih => exact forall_congr' ih
  | write w k ih => exact and_congr_right fun _ => forall_congr' ih

@[simp] theorem writes_pure_bind {a : α} : (pure a >>= f).Writes P ↔ (f a).Writes P := .rfl
@[simp] theorem writes_fail_bind {e : ε} : (fail e >>= f).Writes P := trivial

@[simp] theorem writes_query_bind {q : DB S → Except ε α} : (query q >>= f).Writes P ↔ ∀ db a, q db = .ok a → (f a).Writes P := by
  constructor
  · intro h db a ok
    have step := h (.ok db)
    dsimp only at step
    rw [ok] at step
    exact step
  · intro h
    rintro (e | db)
    · trivial
    dsimp only
    cases ok : q db with
    | error e => trivial
    | ok a => exact h db a ok

@[simp] theorem writes_select_bind {q : DB S → α} : (select q >>= f).Writes P ↔ ∀ db, (f (q db)).Writes P := by
  simp [select]

@[simp] theorem writes_exec_bind {w : Dml S} {f : Nat → Prog S ε β} : (exec w >>= f).Writes P ↔ P w ∧ ∀ n, (f n).Writes P := by
  refine and_congr_right fun _ => ⟨fun h n => h (.ok n), fun h => ?_⟩
  rintro (e | n)
  · trivial
  · exact h n

@[simp] theorem writes_forEach_bind {f : α → Prog S ε Unit} {l : List α} {g : Unit → Prog S ε β} (each : ∀ a ∈ l, (f a).Writes P)
    (rest : (g ()).Writes P) : (forEach f l >>= g).Writes P := writes_bind (writes_forEach each) fun _ => rest

@[simp] theorem writes_orElse_fail_bind {p : Prog S ε α} {g : ε → ε} :
    ((p.orElse fun e => .fail (g e)) >>= f).Writes P ↔ (p >>= f).Writes P := by
  simp only [bind_eq]
  induction p with
  | ret a => rfl
  | fail e => rfl
  | read k ih => exact forall_congr' ih
  | write w k ih => exact and_congr_right fun _ => forall_congr' ih

@[simp] theorem writes_ite {c : Prop} [Decidable c] {p q : Prog S ε α} :
    (if c then p else q).Writes P ↔ (c → p.Writes P) ∧ (¬ c → q.Writes P) := by
  split <;> simp [*]

@[simp] theorem writes_ite_bind {c : Prop} [Decidable c] {p q : Prog S ε α} :
    ((if c then p else q) >>= f).Writes P ↔ (c → (p >>= f).Writes P) ∧ (¬ c → (q >>= f).Writes P) := by
  split <;> simp [*]

end

theorem Writes.mono {Q : Dml S → Prop} {p : Prog S ε α} (h : p.Writes P) (le : ∀ w, P w → Q w) : p.Writes Q := by
  induction p with
  | ret a => trivial
  | fail e => trivial
  | read k ih => exact fun x => ih x (h x)
  | write w k ih => exact ⟨le w h.1, fun x => ih x (h.2 x)⟩

/-- A reflexive and transitive relation that each statement keeps is kept by every
outcome. -/
theorem Writes.yields {R : DB S → DB S → Prop} {p : Prog S ε α} {db db' : DB S} {r : Except ε α}
    (h : p.Writes P) (refl : ∀ d, R d d) (trans : ∀ a b c, R a b → R b c → R a c)
    (each : ∀ w, P w → ∀ d n d', w.apply d = .ok (n, d') → R d d') (out : p.Yields db r db') : R db db' := by
  induction p generalizing db with
  | ret a => rw [out.2]; exact refl db
  | fail e => rw [out.2]; exact refl db
  | read k ih =>
    obtain ⟨e, out⟩ | out := out
    · exact ih _ (h _) out
    · exact ih _ (h _) out
  | write w k ih =>
    obtain ⟨e, out⟩ | ⟨c, mid, applied, out⟩ := out
    · exact ih _ (h.2 _) out
    · exact trans _ _ _ (each w h.1 _ _ _ applied) (ih _ (h.2 _) out)

/-- A program without data statements returns with the store it started in. -/
theorem Returns.readOnly {p : Prog S ε α} {db db' : DB S} {a : α} (out : p.Returns db a db') (h : p.Writes fun _ => False) :
    db' = db :=
  h.yields (R := fun d d' => d' = d) (fun _ => rfl) (fun _ _ _ ab bc => bc.trans ab) (fun _ no => no.elim) out

/-! ## Relations that a program keeps -/

/-- A reflexive and transitive relation between stores. -/
structure Chains (R : DB S → DB S → Prop) : Prop where
  refl : ∀ d, R d d
  trans : ∀ {a b c}, R a b → R b c → R a c

/-- Whenever `p` returns, its store is related to the one it started in. -/
def Keeps (R : DB S → DB S → Prop) (p : Prog S ε α) : Prop := ∀ db a db', p.Returns db a db' → R db db'

section
variable {R : DB S → DB S → Prop}

theorem keeps_pure (chains : Chains R) {a : α} : (pure a : Prog S ε α).Keeps R := by
  intro db b db' out
  rw [(returns_pure.mp out).2]
  exact chains.refl db

theorem keeps_fail {e : ε} : (fail e : Prog S ε α).Keeps R := fun _ _ _ out => absurd out returns_fail

theorem keeps_exec {w : Dml S} (h : ∀ db n db', w.apply db = .ok (n, db') → R db db') : (exec w : Prog S ε Nat).Keeps R :=
  fun db n db' out => h db n db' (returns_exec.mp out)

theorem keeps_bind (chains : Chains R) {p : Prog S ε α} {f : α → Prog S ε β}
    (hp : p.Keeps R) (hf : ∀ a, (f a).Keeps R) : (p >>= f).Keeps R := by
  intro db b db' out
  obtain ⟨a, mid, first, last⟩ := returns_bind.mp out
  exact chains.trans (hp db a mid first) (hf a mid b db' last)

/-- The parts of a program may keep different things. -/
theorem keeps_then {Q T : DB S → DB S → Prop} (comp : ∀ {a b c}, Q a b → R b c → T a c) {p : Prog S ε α} {f : α → Prog S ε β}
    (first : p.Keeps Q) (rest : ∀ a, (f a).Keeps R) : (p >>= f).Keeps T := by
  intro db b db' out
  obtain ⟨a, mid, began, last⟩ := returns_bind.mp out
  exact comp (first db a mid began) (rest a mid b db' last)

theorem keeps_forEach (chains : Chains R) {f : α → Prog S ε Unit} {l : List α} (hf : ∀ a ∈ l, (f a).Keeps R) : (forEach f l).Keeps R := by
  induction l with
  | nil => exact keeps_pure chains
  | cons a l ih => exact keeps_bind chains (hf a (by simp)) fun _ => ih fun b hb => hf b (by simp [hb])

/-- A program keeps what each of its statements keeps. -/
theorem Writes.keeps {p : Prog S ε α} (h : p.Writes P) (chains : Chains R)
    (each : ∀ w, P w → ∀ d n d', w.apply d = .ok (n, d') → R d d') : p.Keeps R :=
  fun _ _ _ out => h.yields chains.refl (fun _ _ _ => chains.trans) each out

end

end Prog

/-! ## Calls -/

/-- A call that leaves the store as it was whenever it returns an error. -/
def Call.Atomic (c : Call S ε α) : Prop :=
  ∀ faults n db e, (c faults n db).result = .error e → (c faults n db).db = db

/-- A call that never changes the store. -/
def Call.ReadOnly (c : Call S ε α) : Prop := ∀ faults n db, (c faults n db).db = db

namespace Call

theorem bind_of_ok {c : Call S ε α} {faults : Faults ε} {n m : Nat} {db mid : DB S} {a : α} (h : c faults n db = ⟨.ok a, mid, m⟩)
    (f : α → Call S ε β) : (c >>= f) faults n db = f a faults m mid := by
  simp only [Bind.bind, h]

/-- A sequence of calls stops after the first, or goes on where it ended. -/
theorem bind_cases (c : Call S ε α) (f : α → Call S ε β) (faults : Faults ε) (n : Nat) (db : DB S) :
    (∃ e m, (c >>= f) faults n db = ⟨.error e, (c faults n db).db, m⟩) ∨
      ∃ a m, (c faults n db).result = .ok a ∧ (c >>= f) faults n db = f a faults m (c faults n db).db := by
  simp only [Bind.bind]
  cases c faults n db with
  | mk result db' m =>
    cases result with
    | error e => exact .inl ⟨e, m, rfl⟩
    | ok a => exact .inr ⟨a, m, rfl, rfl⟩

/-- The outcome of a call whose value is not used. -/
theorem discard_run (c : Call S ε α) (faults : Faults ε) (n : Nat) (db : DB S) :
    ((do let _ ← c : Call S ε Unit) faults n db).db = (c faults n db).db ∧
      ((do let _ ← c : Call S ε Unit) faults n db).result = (c faults n db).result.map fun _ => () := by
  simp only [Bind.bind]
  cases c faults n db with
  | mk result db' m =>
    cases result with
    | error e => exact ⟨rfl, rfl⟩
    | ok a => exact ⟨rfl, rfl⟩

/-- A call that reads decides what follows in the same store. -/
theorem ReadOnly.bind_db {c : Call S ε α} (h : c.ReadOnly) (f : α → Call S ε β) (faults : Faults ε) (n : Nat) (db : DB S) :
    ((c >>= f) faults n db).db = db ∨ ∃ a m, ((c >>= f) faults n db).db = (f a faults m db).db := by
  rcases Call.bind_cases c f faults n db with ⟨e, m, stopped⟩ | ⟨a, m, -, went⟩
  · exact .inl (by rw [stopped, h faults n db])
  · exact .inr ⟨a, m, by rw [went, h faults n db]⟩

theorem ReadOnly.atomic {c : Call S ε α} (h : c.ReadOnly) : c.Atomic := fun faults n db _ _ => h faults n db

/-- Reads made before a call that keeps the rule do not break it. -/
theorem ReadOnly.bind {c : Call S ε α} {f : α → Call S ε β} (hc : c.ReadOnly) (hf : ∀ a, (f a).Atomic) : (c >>= f).Atomic := by
  intro faults n db e
  have unchanged := hc faults n db
  show Outcome.result (Bind.bind c f faults n db) = _ → Outcome.db (Bind.bind c f faults n db) = db
  simp only [Bind.bind]
  cases out : c faults n db with
  | mk result mid m =>
    rw [out] at unchanged
    cases result with
    | error e => exact fun _ => unchanged
    | ok a => exact fun failed => (hf a faults m mid e failed).trans unchanged

/-- Nor does a value computed from its result. -/
theorem Atomic.map {c : Call S ε α} (h : c.Atomic) (g : α → β) : (c >>= fun a => pure (g a)).Atomic := by
  intro faults n db e
  have atomic := h faults n db
  show Outcome.result (Bind.bind c _ faults n db) = _ → Outcome.db (Bind.bind c _ faults n db) = db
  simp only [Bind.bind]
  cases out : c faults n db with
  | mk result mid m =>
    rw [out] at atomic
    cases result with
    | error e => exact fun _ => atomic e rfl
    | ok a => exact fun failed => nomatch failed

theorem mapError_db (c : Call S ε α) (g : ε → ε) (faults : Faults ε) (n : Nat) (db : DB S) :
    (c.mapError g faults n db).db = (c faults n db).db := by
  unfold mapError
  cases c faults n db with
  | mk result db' m => cases result <;> rfl

theorem Atomic.mapError {c : Call S ε α} (h : c.Atomic) (g : ε → ε) : (c.mapError g).Atomic := by
  intro faults n db e
  have atomic := h faults n db
  simp only [Call.mapError]
  cases out : c faults n db with
  | mk result mid m =>
    rw [out] at atomic
    cases result with
    | error e => exact fun _ => atomic e rfl
    | ok a => exact fun failed => nomatch failed

end Call

/-! ## Transactions -/

variable [OfViolation ε]

/-- A transaction that returns an error has no effect. -/
theorem immediate_atomic (p : Prog S ε α) : (immediate p).Atomic := by
  intro faults n db e
  unfold immediate
  split
  · exact fun _ => rfl
  · split
    · exact fun _ => rfl
    · split
      · exact fun _ => rfl
      · exact fun failed => nomatch failed

theorem direct_readOnly {p : Prog S ε α} (h : p.Writes fun _ => False) : p.direct.ReadOnly := by
  intro faults n db
  exact h.yields (R := fun d d' => d' = d) (fun _ => rfl) (fun _ _ _ ab bc => bc.trans ab) (fun _ no => no.elim)
    (p.run_yields faults n db)

/-- What follows a read starts from what the read returned. -/
theorem direct_bind {p : Prog S ε α} (reads : p.Writes fun _ => False) (f : α → Call S ε β) (faults : Faults ε) (n : Nat) (db : DB S) :
    ((p.direct >>= f) faults n db).db = db ∨ ∃ a m, p.Returns db a db ∧ ((p.direct >>= f) faults n db).db = (f a faults m db).db := by
  have same : (p.direct faults n db).db = db := direct_readOnly reads faults n db
  have out : p.Yields db (p.direct faults n db).result (p.direct faults n db).db := p.run_yields faults n db
  rcases Call.bind_cases p.direct f faults n db with ⟨e, m, stopped⟩ | ⟨a, m, read, went⟩
  · exact .inl (by rw [stopped, same])
  · rw [read, same] at out
    exact .inr ⟨a, m, out, by rw [went, same]⟩

/-- A sequence stops at a failure, or goes on where its first part ended. -/
theorem Prog.run_bind (p : Prog S ε α) (f : α → Prog S ε β) (faults : Faults ε) (n : Nat) (db : DB S) : (p >>= f).run faults n db =
      match p.run faults n db with
      | ⟨.ok a, mid, m⟩ => (f a).run faults m mid
      | ⟨.error e, mid, m⟩ => ⟨.error e, mid, m⟩ := by
  rw [Prog.bind_eq]
  induction p generalizing n db with
  | ret a => rfl
  | fail e => rfl
  | read k ih =>
    simp only [Prog.bind, Prog.run]
    split <;> exact ih _ _ _
  | write w k ih =>
    simp only [Prog.bind, Prog.run]
    split
    · exact ih _ _ _
    · split <;> exact ih _ _ _

/-- Statements after a read start from what it returned. -/
theorem direct_after {p : Prog S ε α} (reads : p.Writes fun _ => False) (f : α → Prog S ε β) (faults : Faults ε) (n : Nat) (db : DB S) :
    ((p >>= f).direct faults n db).db = db ∨
      ∃ a m, p.Returns db a db ∧ ((p >>= f).direct faults n db).db = ((f a).direct faults m db).db := by
  have same : (p.run faults n db).db = db := direct_readOnly reads faults n db
  have out := p.run_yields faults n db
  simp only [Prog.direct, Prog.run_bind]
  cases ran : p.run faults n db with
  | mk result mid m =>
    rw [ran] at same out
    obtain rfl : mid = db := same
    cases result with
    | error e => exact .inl rfl
    | ok a => exact .inr ⟨a, m, out, rfl⟩

theorem direct_ok {p : Prog S ε α} {faults : Faults ε} {n : Nat} {db : DB S} {a : α} (h : (p.direct faults n db).result = .ok a) :
    p.Returns db a (p.direct faults n db).db := by
  have out := p.run_yields faults n db
  rwa [show (p.run faults n db).result = .ok a from h] at out

/-- One statement: it is refused or applied. -/
theorem direct_exec (w : Dml S) {f : Nat → α} (faults : Faults ε) {n : Nat} {db : DB S} :
    ((Prog.exec w >>= fun k => pure (f k) : Prog S ε α).direct faults n db).db = db ∨
      ∃ k, w.apply db = .ok (k, ((Prog.exec w >>= fun k => pure (f k) : Prog S ε α).direct faults n db).db) := by
  simp only [Prog.direct, Prog.run_bind, Prog.exec, Prog.run]
  cases faults n with
  | some e => exact .inl rfl
  | none =>
    cases applied : w.apply db with
    | error v => exact .inl rfl
    | ok done => exact .inr ⟨done.1, rfl⟩

/-- A transaction that returns a value did what its program did. -/
theorem immediate_ok {p : Prog S ε α} {faults : Faults ε} {n : Nat} {db : DB S} {a : α}
    (h : (immediate p faults n db).result = .ok a) : p.Returns db a (immediate p faults n db).db := by
  revert h
  unfold immediate
  split
  · exact fun h => nomatch h
  · have out := p.run_yields faults (n + 1) db
    split
    · exact fun h => nomatch h
    · rename_i ran
      rw [ran] at out
      split
      · exact fun h => nomatch h
      · intro h
        cases h
        exact out

end Sql
