import MinimaxProxy.Sql.Eval

/-!
# Programs that do not look at a table

A program is blind to the table `b` if it does the same on two stores that differ in `b`
only. A statement on another table is, as long as its row expressions are and no foreign key
of its rows names `b`.
-/

namespace Sql
variable {S : Schema} {ε α β : Type} {b : S.Tbl}

namespace DB

/-- The stores differ in the table `b` at most. -/
def Agree (b : S.Tbl) (db db' : DB S) : Prop := ∀ t, t ≠ b → db t = db' t

theorem agree_put (db : DB S) (tab : Table (S.fits b) (S.check b)) : Agree b (db.put b tab) db := fun _ other => put_of_ne tab other

theorem Agree.eq_put {db db' : DB S} (agree : Agree b db db') : db = db'.put b (db b) := by
  funext t
  by_cases same : t = b
  · subst same
    simp [put]
  · rw [put_of_ne _ same]
    exact agree t same

theorem put_comm {t : S.Tbl} (other : t ≠ b) (db : DB S) (tab : Table (S.fits b) (S.check b)) (tab' : Table (S.fits t) (S.check t)) :
    (db.put b tab).put t tab' = (db.put t tab').put b tab := by
  funext u
  by_cases isB : u = b
  · subst isB
    rw [put_of_ne _ other.symm]
    simp [put]
  · rw [put_of_ne tab isB]
    by_cases isT : u = t
    · subst isT
      simp [put]
    · rw [put_of_ne _ isT, put_of_ne _ isT, put_of_ne _ isB]

theorem resolves_put {k : Ref S.Tbl} (other : k.parent ≠ b) (db : DB S) (tab : Table (S.fits b) (S.check b)) :
    (db.put b tab).resolves k = db.resolves k := by
  rw [resolves, rows_put_of_ne tab other]
  rfl

theorem replace_put {t : S.Tbl} (other : t ≠ b) (db : DB S) (tab : Table (S.fits b) (S.check b)) (rows : List (S.Row t)) (seq : Nat)
    {keys : List (Ref S.Tbl)} (parents : ∀ k ∈ keys, k.parent ≠ b) :
    (db.put b tab).replace t rows seq keys = (db.replace t rows seq keys).map (·.put b tab) := by
  unfold replace
  cases Table.store rows seq with
  | error v => rfl
  | ok tab' =>
    have same : keys.all ((db.put t tab').put b tab).resolves = keys.all (db.put t tab').resolves := by
      rw [Bool.eq_iff_iff, List.all_eq_true, List.all_eq_true]
      exact forall₂_congr fun k mem => by rw [resolves_put (parents k mem)]
    simp only [put_comm other, same]
    split <;> rfl

end DB

/-- A statement that does not look at `b`. -/
def Dml.Blind (b : S.Tbl) (w : Dml S) : Prop :=
  ∀ (db : DB S) (tab : Table (S.fits b) (S.check b)), w.apply (db.put b tab) = (w.apply db).map fun r => (r.1, r.2.put b tab)

theorem Except.bind_map {γ : Type} (x : Except ε α) (g : α → α) (f : α → β) (h : β → γ) (f' : α → γ) (same : ∀ a, f' (g a) = h (f a)) :
    (do let a ← x.map g; (.ok (f' a) : Except ε γ)) = (do let a ← x; (.ok (f a) : Except ε β)).map h := by
  cases x with
  | error e => rfl
  | ok a => exact congrArg Except.ok (same a)

theorem blind_insert {t : S.Tbl} (other : t ≠ b) {new : DB S → Nat → List (S.Row t)}
    (same : ∀ (db : DB S) tab n, new (db.put b tab) n = new db n) (parents : ∀ r, ∀ k ∈ S.refs t r, k.parent ≠ b) :
    (Dml.insert t new).Blind b := by
  intro db tab
  simp only [Dml.apply, DB.rows, DB.put_of_ne tab other, same]
  split
  · rfl
  · rw [DB.replace_put other]
    · exact Except.bind_map _ _ _ _ _ fun _ => rfl
    · intro k mem
      obtain ⟨r, -, isKey⟩ := List.mem_flatMap.mp mem
      exact parents r k isKey

theorem blind_update {t : S.Tbl} (other : t ≠ b) {sel : DB S → S.Row t → Bool} {set : DB S → S.Row t → S.Row t}
    (sameSel : ∀ (db : DB S) tab, sel (db.put b tab) = sel db) (sameSet : ∀ (db : DB S) tab, set (db.put b tab) = set db)
    (parents : ∀ r, ∀ k ∈ S.refs t r, k.parent ≠ b) : (Dml.update t sel set).Blind b := by
  intro db tab
  simp only [Dml.apply, DB.rows, DB.put_of_ne tab other, sameSel, sameSet]
  split
  · rfl
  · rw [DB.replace_put other]
    · exact Except.bind_map _ _ _ _ _ fun _ => rfl
    · intro k mem
      obtain ⟨r, -, isKey⟩ := List.mem_flatMap.mp mem
      exact parents _ k (List.mem_filter.mp isKey).1

/-- The runs end alike, but for the table `b`. -/
structure Outcome.Agree (b : S.Tbl) (out out' : Outcome S ε α) : Prop where
  result : out.result = out'.result
  next : out.next = out'.next
  db : DB.Agree b out.db out'.db

variable [OfViolation ε]

namespace Prog

/-- A program that does not look at `b`. -/
def Blind (b : S.Tbl) (p : Prog S ε α) : Prop :=
  ∀ faults n (db db' : DB S), DB.Agree b db db' → (p.run faults n db).Agree b (p.run faults n db')

theorem blind_pure {a : α} : (pure a : Prog S ε α).Blind b := fun _ _ _ _ agree => ⟨rfl, rfl, agree⟩

theorem blind_fail {e : ε} : (fail e : Prog S ε α).Blind b := fun _ _ _ _ agree => ⟨rfl, rfl, agree⟩

theorem blind_query {f : DB S → Except ε α} (same : ∀ (db : DB S) tab, f (db.put b tab) = f db) : (query f).Blind b := by
  intro faults n db db' agree
  have equal : f db = f db' := by
    rw [agree.eq_put]
    exact same _ _
  simp only [query, run, equal]
  split
  · exact ⟨rfl, rfl, agree⟩
  · split <;> exact ⟨rfl, rfl, agree⟩

theorem blind_exec {w : Dml S} (blind : w.Blind b) : (exec w : Prog S ε Nat).Blind b := by
  intro faults n db db' agree
  simp only [exec, run]
  split
  · exact ⟨rfl, rfl, agree⟩
  · have applied : w.apply db = (w.apply db').map fun r => (r.1, r.2.put b (db b)) := by
      rw [agree.eq_put]
      simpa [DB.put] using blind db' (db b)
    rw [applied]
    cases w.apply db' with
    | error v => exact ⟨rfl, rfl, agree⟩
    | ok r => exact ⟨rfl, rfl, DB.agree_put _ _⟩

/-- A row that fits the stored ones is inserted as it would be into an empty table. -/
theorem insert_agree {r : S.Row b} {db : DB S} (fits : ∀ old ∈ db.rows b, S.fits b old r = true)
    (steady : ∀ m n r, S.check b m r = S.check b n r) (parents : ∀ k ∈ S.refs b r, k.parent ≠ b) (faults : Faults ε) {n : Nat} :
    ((exec (.insert b fun _ _ => [r]) : Prog S ε Nat).run faults n db).Agree b
      ((exec (.insert b fun _ _ => [r]) : Prog S ε Nat).run faults n (db.put b .empty)) := by
  have agree : DB.Agree b db (db.put b .empty) := fun t other => (DB.put_of_ne _ other).symm
  have resolves (d : DB S) (tab : Table (S.fits b) (S.check b)) :
      ([r].flatMap (S.refs b)).all (d.put b tab).resolves = ([r].flatMap (S.refs b)).all d.resolves := by
    rw [Bool.eq_iff_iff, List.all_eq_true, List.all_eq_true, List.flatMap_singleton]
    exact forall₂_congr fun k mem => by rw [DB.resolves_put (parents k mem)]
  have fit : (db.rows b ++ [r]).Pairwise fun x y => S.fits b x y = true :=
    List.pairwise_append.mpr ⟨(db b).fit, List.pairwise_singleton _ _, fun old mem new isNew => List.mem_singleton.mp isNew ▸ fits old mem⟩
  have checked (m : Nat) : (∀ x ∈ db.rows b ++ [r], S.check b m x = true) ↔ S.check b 0 r = true := by
    refine ⟨fun all => (steady _ _ _).trans (all r (by simp)), fun check x mem => ?_⟩
    rcases List.mem_append.mp mem with old | new
    · exact (steady _ _ _).trans ((db b).checked x old)
    · exact (steady _ _ _).trans (List.mem_singleton.mp new ▸ check)
  have checked' (m : Nat) : (∀ x ∈ [r], S.check b m x = true) ↔ S.check b 0 r = true := by
    rw [List.forall_mem_singleton, steady m 0]
  simp only [exec, run, Dml.apply, DB.rows_put_self, Table.empty, List.nil_append]
  split
  · exact ⟨rfl, rfl, agree⟩
  · cases [r].findSome? (S.trigger b none) with
    | some message => exact ⟨rfl, rfl, agree⟩
    | none =>
      by_cases check : S.check b 0 r = true
      · simp only [DB.replace, Table.store_eq fit ((checked _).mpr check),
          Table.store_eq (List.pairwise_singleton _ r) ((checked' _).mpr check),
          resolves]
        cases ([r].flatMap (S.refs b)).all db.resolves with
        | true => exact ⟨rfl, rfl, fun t other => by
            exact (DB.put_of_ne _ other).trans ((DB.put_of_ne _ other).trans (DB.put_of_ne _ other)).symm⟩
        | false => exact ⟨rfl, rfl, agree⟩
      · simp only [DB.replace, Table.store, checked, checked', check]
        exact ⟨rfl, rfl, agree⟩

/-- Runs that agree go on alike. -/
theorem agree_bind {p : Prog S ε α} {f : α → Prog S ε β} {faults : Faults ε} {n : Nat} {db db' : DB S}
    (agree : (p.run faults n db).Agree b (p.run faults n db')) (rest : ∀ a, (f a).Blind b) :
    ((p >>= f).run faults n db).Agree b ((p >>= f).run faults n db') := by
  rw [run_bind, run_bind]
  obtain ⟨result, next, stores⟩ := agree
  cases out : p.run faults n db with
  | mk r mid m =>
    cases out' : p.run faults n db' with
    | mk r' mid' m' =>
      rw [out, out'] at result next stores
      obtain rfl : r = r' := result
      obtain rfl : m = m' := next
      cases r with
      | error e => exact ⟨rfl, rfl, stores⟩
      | ok a => exact rest a faults m mid mid' stores

/-- So do runs that have read the same. -/
theorem agree_query {f : DB S → Except ε α} {k : α → Prog S ε β} {db db' : DB S} (stores : DB.Agree b db db')
    (rest : ∀ a, f db = .ok a → ∀ faults n, ((k a).run faults n db).Agree b ((k a).run faults n db'))
    (same : f db = f db') (faults : Faults ε) {n : Nat} : ((query f >>= k).run faults n db).Agree b ((query f >>= k).run faults n db') := by
  rw [run_bind, run_bind]
  simp only [query, run, ← same]
  cases faults n with
  | some e => exact ⟨rfl, rfl, stores⟩
  | none =>
    cases read : f db with
    | error e => exact ⟨rfl, rfl, stores⟩
    | ok a => exact rest a read faults (n + 1)

theorem blind_bind {p : Prog S ε α} {f : α → Prog S ε β} (first : p.Blind b) (rest : ∀ a, (f a).Blind b) : (p >>= f).Blind b :=
  fun faults n db db' agree => agree_bind (first faults n db db' agree) rest

theorem blind_ite {c : Prop} [Decidable c] {p q : Prog S ε α} (yes : p.Blind b) (no : q.Blind b) : (if c then p else q).Blind b := by
  split
  · exact yes
  · exact no

end Prog

/-- So does a transaction. -/
theorem immediate_agree {p : Prog S ε α} {db db' : DB S} (stores : DB.Agree b db db')
    (agree : ∀ faults n, (p.run faults n db).Agree b (p.run faults n db')) (faults : Faults ε) {n : Nat} :
    (immediate p faults n db).Agree b (immediate p faults n db') := by
  unfold immediate
  split
  · exact ⟨rfl, rfl, stores⟩
  · obtain ⟨result, next, after⟩ := agree faults (n + 1)
    cases out : p.run faults (n + 1) db with
    | mk r mid m =>
      cases out' : p.run faults (n + 1) db' with
      | mk r' mid' m' =>
        rw [out, out'] at result next after
        obtain rfl : r = r' := result
        obtain rfl : m = m' := next
        cases r with
        | error e => exact ⟨rfl, rfl, stores⟩
        | ok a =>
          dsimp only
          split
          · exact ⟨rfl, rfl, stores⟩
          · exact ⟨rfl, rfl, after⟩

end Sql
