import Mathlib.Logic.Relation
import MinimaxProxy.Sql.Lookup

/-!
# How the rows of a table evolve

A `Law` says which changes the statements of an operation may make to the rows of one table.
If every statement of a program obeys a law (`Obeys`), every outcome of the program, failed
ones included, evolves the rows by it, and what each single change keeps is kept by the whole.
-/

namespace Sql

/-- What may happen to the rows of a table: the changes of an UPDATE, the rows of an INSERT
and the rows a DELETE may remove. -/
structure Law (ρ : Type) where
  change : ρ → ρ → Prop
  fresh : ρ → Prop
  gone : ρ → Prop

namespace Law
variable {ρ : Type}

/-- Nothing happens. -/
def fixed : Law ρ := ⟨fun _ _ => False, fun _ => False, fun _ => False⟩

/-- Anything may happen. -/
def any : Law ρ := ⟨fun _ _ => True, fun _ => True, fun _ => True⟩

/-- Rows change by `change`; none is added or removed. -/
def changes (change : ρ → ρ → Prop) : Law ρ := ⟨change, fun _ => False, fun _ => False⟩

/-- Rows are added, and nothing else happens. -/
def inserts (fresh : ρ → Prop) : Law ρ := ⟨fun _ _ => False, fresh, fun _ => False⟩

/-- One statement. -/
inductive Step (L : Law ρ) : List ρ → List ρ → Prop
  | update {rows : List ρ} (f : ρ → ρ) : (∀ r ∈ rows, f r = r ∨ L.change r (f r)) → Step L rows (rows.map f)
  | insert {rows : List ρ} (new : List ρ) : (∀ r ∈ new, L.fresh r) → Step L rows (rows ++ new)
  | delete {rows : List ρ} (p : ρ → Bool) : (∀ r ∈ rows, p r = false → L.gone r) → Step L rows (rows.filter p)

/-- Any number of statements. -/
def Evolves (L : Law ρ) : List ρ → List ρ → Prop := Relation.ReflTransGen L.Step

variable {L : Law ρ} {rows rows' : List ρ}

/-- A property of rows that changes keep and new rows have. -/
theorem Evolves.forall {J : ρ → Prop} (h : L.Evolves rows rows') (keeps : ∀ r r', J r → L.change r r' → J r')
    (fresh : ∀ r, L.fresh r → J r) (all : ∀ r ∈ rows, J r) : ∀ r ∈ rows', J r := by
  induction h with
  | refl => exact all
  | tail _ step ih =>
    cases step with
    | update f changed =>
      intro r mem
      obtain ⟨s, stored, rfl⟩ := List.mem_map.mp mem
      rcases changed s stored with same | moved
      · rw [same]
        exact ih s stored
      · exact keeps s (f s) (ih s stored) moved
    | insert new added =>
      intro r mem
      rcases List.mem_append.mp mem with old | new
      · exact ih r old
      · exact fresh r (added r new)
    | delete p gone => exact fun r mem => ih r (List.mem_filter.mp mem).1

/-- Where a row comes from. -/
theorem Evolves.back {R : ρ → ρ → Prop} (h : L.Evolves rows rows') (refl : ∀ r, R r r) (trans : ∀ a b c, R a b → R b c → R a c)
    (change : ∀ r r', L.change r r' → R r r') : ∀ r' ∈ rows', (∃ r ∈ rows, R r r') ∨ ∃ r, L.fresh r ∧ R r r' := by
  induction h with
  | refl => exact fun r mem => .inl ⟨r, mem, refl r⟩
  | tail _ step ih =>
    cases step with
    | update f changed =>
      intro r mem
      obtain ⟨s, stored, rfl⟩ := List.mem_map.mp mem
      have last : R s (f s) := (changed s stored).elim (fun same => by rw [same]; exact refl s) (change s (f s))
      exact (ih s stored).imp (fun ⟨r, mem, first⟩ => ⟨r, mem, trans _ _ _ first last⟩)
        fun ⟨r, fresh, first⟩ => ⟨r, fresh, trans _ _ _ first last⟩
    | insert new added =>
      intro r mem
      rcases List.mem_append.mp mem with old | new
      · exact ih r old
      · exact .inr ⟨r, added r new, refl r⟩
    | delete p gone => exact fun r mem => ih r (List.mem_filter.mp mem).1

/-- What becomes of a row. -/
theorem Evolves.forth {R : ρ → ρ → Prop} (h : L.Evolves rows rows') (refl : ∀ r, R r r) (trans : ∀ a b c, R a b → R b c → R a c)
    (change : ∀ r r', L.change r r' → R r r') : ∀ r ∈ rows, (∃ r' ∈ rows', R r r') ∨ ∃ r', L.gone r' ∧ R r r' := by
  induction h with
  | refl => exact fun r mem => .inl ⟨r, mem, refl r⟩
  | tail _ step ih =>
    intro r mem
    rcases ih r mem with ⟨s, stored, first⟩ | gone
    · cases step with
      | update f changed =>
        have last : R s (f s) := (changed s stored).elim (fun same => by rw [same]; exact refl s) (change s (f s))
        exact .inl ⟨f s, List.mem_map_of_mem stored, trans _ _ _ first last⟩
      | insert new added => exact .inl ⟨s, List.mem_append_left _ stored, first⟩
      | delete p removed =>
        cases keeps : p s with
        | true => exact .inl ⟨s, List.mem_filter.mpr ⟨stored, keeps⟩, first⟩
        | false => exact .inr ⟨s, removed s stored keeps, first⟩
    · exact .inr gone

/-- What holds of every row on the way may be added to the law. -/
theorem Evolves.guarded {K : ρ → Prop} (h : L.Evolves rows rows') (keeps : ∀ r r', K r → L.change r r' → K r')
    (fresh : ∀ r, L.fresh r → K r) (all : ∀ r ∈ rows, K r) :
    Evolves { L with change := fun r r' => L.change r r' ∧ K r } rows rows' := by
  induction h with
  | refl => exact .refl
  | tail before step ih =>
    have every := Evolves.forall before keeps fresh all
    refine .tail ih ?_
    cases step with
    | update f changed => exact .update f fun r mem => (changed r mem).imp id fun moved => ⟨moved, every r mem⟩
    | insert new added => exact .insert new added
    | delete p gone => exact .delete p gone

theorem Evolves.mono {L' : Law ρ} (h : L.Evolves rows rows') (change : ∀ r r', L.change r r' → L'.change r r')
    (fresh : ∀ r, L.fresh r → L'.fresh r) (gone : ∀ r, L.gone r → L'.gone r) : L'.Evolves rows rows' := by
  refine Relation.ReflTransGen.mono (fun a b step => ?_) _ _ h
  cases step with
  | update f changed => exact .update f fun r mem => (changed r mem).imp id (change r (f r))
  | insert new added => exact .insert new fun r mem => fresh r (added r mem)
  | delete p removed => exact .delete p fun r mem miss => gone r (removed r mem miss)

theorem Evolves.trans {c : List ρ} (first : L.Evolves rows rows') (last : L.Evolves rows' c) : L.Evolves rows c :=
  Relation.ReflTransGen.trans first last

theorem Step.eq_of_fixed (h : (fixed : Law ρ).Step rows rows') : rows' = rows := by
  cases h with
  | update f changed =>
    have same : rows.map f = rows.map id := List.map_congr_left fun r mem => (changed r mem).elim id False.elim
    rw [same, List.map_id]
  | insert new added =>
    cases new with
    | nil => exact List.append_nil _
    | cons r new => exact (added r (List.mem_cons_self ..)).elim
  | delete p gone =>
    refine List.filter_eq_self.mpr fun r mem => ?_
    cases kept : p r with
    | true => rfl
    | false => exact (gone r mem kept).elim

/-- Under the law by which nothing happens, nothing happens. -/
theorem Evolves.eq_of_fixed (h : (fixed : Law ρ).Evolves rows rows') : rows' = rows := by
  induction h with
  | refl => rfl
  | tail _ step ih => exact step.eq_of_fixed.trans ih

/-- Under the law by which anything may happen, any rows may follow. -/
theorem evolves_any (rows rows' : List ρ) : (any : Law ρ).Evolves rows rows' := by
  have cleared : (any : Law ρ).Step rows [] := by
    have step : (any : Law ρ).Step rows (rows.filter fun _ => false) := .delete _ fun _ _ _ => trivial
    rwa [List.filter_false] at step
  exact .tail (.single cleared) (.insert rows' fun _ _ => trivial)

theorem Step.eq_of_inserts {P : ρ → Prop} (h : (inserts P).Step rows rows') : ∃ new, rows' = rows ++ new ∧ ∀ r ∈ new, P r := by
  cases h with
  | update f changed =>
    have same : rows.map f = rows.map id := List.map_congr_left fun r mem => (changed r mem).elim id False.elim
    exact ⟨[], by rw [same, List.map_id, List.append_nil], fun _ mem => absurd mem List.not_mem_nil⟩
  | insert new added => exact ⟨new, rfl, added⟩
  | delete p gone =>
    refine ⟨[], ?_, fun _ mem => absurd mem List.not_mem_nil⟩
    rw [List.append_nil]
    refine List.filter_eq_self.mpr fun r mem => ?_
    cases kept : p r with
    | true => rfl
    | false => exact (gone r mem kept).elim

theorem Evolves.appends {P : ρ → Prop} (h : (inserts P).Evolves rows rows') : ∃ new, rows' = rows ++ new ∧ ∀ r ∈ new, P r := by
  induction h with
  | refl => exact ⟨[], (List.append_nil _).symm, fun _ mem => absurd mem List.not_mem_nil⟩
  | tail _ step ih =>
    obtain ⟨old, rfl, had⟩ := ih
    obtain ⟨new, rfl, added⟩ := step.eq_of_inserts
    refine ⟨old ++ new, List.append_assoc .., fun r mem => ?_⟩
    exact (List.mem_append.mp mem).elim (had r) (added r)

end Law

/-! ## Statements and programs -/

variable {S : Schema} {ε α : Type}

/-- A law for every table. -/
abbrev Laws (S : Schema) : Type := (t : S.Tbl) → Law (S.Row t)

/-- The rows of every table evolve by its law. -/
def Laws.Evolves (L : Laws S) (db db' : DB S) : Prop := ∀ t, (L t).Evolves (db.rows t) (db'.rows t)

/-- Whenever the statement succeeds, it keeps to the laws. -/
def Obeys (L : Laws S) (w : Dml S) : Prop := ∀ db n db', w.apply db = .ok (n, db') → L.Evolves db db'

variable {L : Laws S} {t : S.Tbl}

/-- Only the rows of `t` changed. -/
theorem Laws.Evolves.of_put {db : DB S} {tab : Table (S.fits t) (S.check t)} (h : (L t).Evolves (db.rows t) tab.rows) :
    L.Evolves db (db.put t tab) := by
  intro t'
  by_cases same : t' = t
  · subst same
    rwa [DB.rows_put_self]
  · rw [DB.rows_put_of_ne tab same]
    exact .refl

theorem obeys_update {sel : DB S → S.Row t → Bool} {set : DB S → S.Row t → S.Row t}
    (h : ∀ db r, sel db r = true → (L t).change r (set db r)) : Obeys L (.update t sel set) := by
  intro db n db' applied
  obtain ⟨tab, rfl, rows, -⟩ := apply_update applied
  refine .of_put (rows ▸ .single (.update _ fun r _ => ?_))
  by_cases hit : sel db r = true
  · exact .inr (by rw [if_pos hit]; exact h db r hit)
  · exact .inl (if_neg hit)

theorem obeys_insert {new : DB S → Nat → List (S.Row t)} (h : ∀ db n r, r ∈ new db n → (L t).fresh r) :
    Obeys L (.insert t new) := by
  intro db n db' applied
  obtain ⟨tab, rfl, rows, -⟩ := apply_insert applied
  exact .of_put (rows ▸ .single (.insert _ fun r mem => h db _ r mem))

theorem obeys_upsert {new : DB S → Option (S.Row t)} {same : S.Row t → S.Row t → Bool}
    {merge : S.Row t → S.Row t → Option (S.Row t)} (fresh : ∀ db r, new db = some r → (L t).fresh r)
    (change : ∀ r o o', merge r o = some o' → (L t).change o o') : Obeys L (.upsert t new same merge) := by
  intro db n db' applied
  rcases apply_upsert applied with rfl | ⟨row, tab, given, rfl, rows | rows⟩
  · exact fun _ => .refl
  · refine .of_put (rows ▸ .single (.update _ fun r _ => ?_))
    by_cases hit : same row r = true
    · cases merged : merge row r with
      | none => exact .inl (by simp [hit, merged])
      | some o => exact .inr (by simpa [hit, merged] using change row r o merged)
    · exact .inl (if_neg hit)
  · exact .of_put (rows ▸ .single (.insert _ fun r mem => fresh db r (by rw [given, List.mem_singleton.mp mem])))

/-- A DELETE removes the rows it selects and those that cascade from them. -/
theorem obeys_delete {sel : DB S → S.Row t → Bool} (gone : ∀ db r, sel db r = true → (L t).gone r)
    (cascade : ∀ t' r, ∀ k ∈ S.refs t' r, k.parent = t → k.cascade = true → (L t').gone r) : Obeys L (.delete t sel) := by
  intro db n db' applied t'
  obtain ⟨rfl, -⟩ := apply_delete applied
  have swept (rows : List (S.Row t')) (p : Ref S.Tbl → Bool) :
      (L t').Step rows (rows.filter fun r => (S.refs t' r).all fun k => !k.cascade || k.parent ≠ t || p k) := by
    refine .delete _ fun r _ miss => ?_
    obtain ⟨k, mem, no⟩ := List.all_eq_false.mp miss
    simp only [Bool.or_eq_true, Bool.not_eq_true', decide_eq_true_eq, not_or, Bool.not_eq_false, ne_eq, not_not] at no
    exact cascade t' r k mem no.1.2 no.1.1
  have first : (L t').Evolves (db.rows t') ((db.put t ((db t).filter fun r => !sel db r)).rows t') := by
    by_cases same : t' = t
    · subst same
      rw [DB.rows_put_self]
      refine .single (.delete _ fun r _ miss => gone db r ?_)
      simpa using miss
    · rw [DB.rows_put_of_ne _ same]
      exact .refl
  exact .tail first (swept _ _)

/-- A statement on a table for which there is no law. -/
theorem obeys_of_any {w : Dml S} (free : L w.table = .any)
    (cascade : ∀ t' r, ∀ k ∈ S.refs t' r, k.parent = w.table → k.cascade = true → (L t').gone r) : Obeys L w := by
  cases w with
  | insert t new => exact obeys_insert fun _ _ _ _ => by rw [show L t = .any from free]; trivial
  | upsert t new same merge =>
    exact obeys_upsert (fun _ _ _ => by rw [show L t = .any from free]; trivial) fun _ _ _ _ => by rw [show L t = .any from free]; trivial
  | update t sel set => exact obeys_update fun _ _ _ => by rw [show L t = .any from free]; trivial
  | delete t sel => exact obeys_delete (fun _ _ _ => by rw [show L t = .any from free]; trivial) cascade

theorem Laws.chains : Prog.Chains (S := S) L.Evolves where
  refl _ _ := .refl
  trans first last t := (first t).trans (last t)

/-- Every outcome of a program of lawful statements is lawful. -/
theorem Prog.Writes.evolves {p : Prog S ε α} (h : p.Writes (Obeys L))
    {db db' : DB S} {r : Except ε α} (out : p.Yields db r db') : L.Evolves db db' :=
  h.yields Laws.chains.refl (fun _ _ _ => Laws.chains.trans) (fun _ obeys db n db' => obeys db n db') out

variable [OfViolation ε]

/-- A call that keeps to the laws, whatever fails. -/
def Lawful (L : Laws S) (c : Call S ε α) : Prop := ∀ faults n db, L.Evolves db (c faults n db).db

theorem lawful_direct {p : Prog S ε α} (h : p.Writes (Obeys L)) : Lawful L p.direct := fun faults n db =>
  h.evolves (p.run_yields faults n db)

theorem lawful_immediateShadowed {p : Prog S ε (Except ε α)} (h : p.Writes (Obeys L)) : Lawful L (immediateShadowed p) := by
  intro faults n db
  unfold immediateShadowed
  split
  · exact Laws.chains.refl db
  · have out := h.evolves (p.run_yields faults (n + 1) db)
    split
    · exact Laws.chains.refl db
    · rename_i ran
      rw [ran] at out
      split
      · exact Laws.chains.refl db
      · exact out

theorem lawful_immediate {p : Prog S ε α} (h : p.Writes (Obeys L)) : Lawful L (immediate p) := by
  intro faults n db
  rcases immediate_effect p faults with same | ⟨a, out⟩
  · rw [same]
    exact Laws.chains.refl db
  · exact h.evolves out

end Sql
