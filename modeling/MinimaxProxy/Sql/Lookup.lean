import Mathlib.Data.List.Perm.Subperm
import MinimaxProxy.Sql.Rules

/-!
# Rows by key

How the row found under a key changes when a statement runs: an UPDATE that keeps the keys
maps it, an INSERT adds one, and a statement on another table leaves it alone. A
transaction either commits what its program returned or has no effect, and one statement
outside a transaction either took effect or did not (`immediate_effect`, `direct_effect`).
-/

namespace Sql

section
variable {ρ κ : Type} [DecidableEq κ] {key : ρ → κ} {rows : List ρ} {k : κ}

theorem find_updateRows {sel : ρ → Bool} {set : ρ → ρ} (keeps : ∀ r, sel r = true → key (set r) = key r) :
    (updateRows sel set rows).find? (key · == k) = (rows.find? (key · == k)).map fun r => if sel r then set r else r := by
  rw [updateRows, List.find?_map]
  congr 2
  funext r
  simp only [Function.comp]
  split
  · rw [keeps r ‹_›]
  · rfl

theorem key_of_find {r : ρ} (found : rows.find? (key · == k) = some r) : key r = k := by
  simpa using List.find?_some found

omit [DecidableEq κ] in
/-- Rows of different keys are at most as many as the keys. -/
theorem length_le_of_keys (distinct : rows.Pairwise fun a b => key a ≠ key b) (keys : List κ) (among : ∀ r ∈ rows, key r ∈ keys) :
    rows.length ≤ keys.length := by
  have nodup : (rows.map key).Nodup := List.pairwise_map.mpr distinct
  have subset : rows.map key ⊆ keys := fun k mem => by
    obtain ⟨r, stored, rfl⟩ := List.mem_map.mp mem
    exact among r stored
  simpa using (nodup.subperm subset).length_le

/-- A condition that only the row of one key meets newly is met by at most one row more. -/
theorem countP_le_succ {p q : ρ → Bool} (distinct : rows.Pairwise fun a b => key a ≠ key b)
    (new : ∀ r ∈ rows, q r = true → p r = true ∨ key r = k) : rows.countP q ≤ rows.countP p + 1 := by
  induction rows with
  | nil => exact Nat.zero_le _
  | cons r rest ih =>
    obtain ⟨apart, distinct⟩ := List.pairwise_cons.mp distinct
    rw [List.countP_cons, List.countP_cons]
    by_cases named : key r = k
    · have others : rest.countP q ≤ rest.countP p := by
        apply List.countP_mono_left
        intro s mem met
        rcases new s (List.mem_cons_of_mem r mem) met with old | same
        · exact old
        · exact absurd (named.trans same.symm) (apart s mem)
      split <;> omega
    · have rest_le := ih distinct fun s mem => new s (List.mem_cons_of_mem r mem)
      have old : q r = true → p r = true := fun met => (new r List.mem_cons_self met).resolve_right named
      by_cases met : q r = true
      · rw [if_pos met, if_pos (old met)]
        omega
      · rw [if_neg met]
        omega

/-- A statement that hit one row, and can only hit rows of one key, hit the row found
under it. -/
theorem find_of_hit {p : ρ → Bool} (distinct : rows.Pairwise fun a b => key a ≠ key b)
    (hit : (rows.filter p).length = 1) (only : ∀ r ∈ rows, p r = true → key r = k) :
    ∃ r, rows.find? (key · == k) = some r ∧ p r = true := by
  obtain ⟨r, one⟩ := List.length_eq_one_iff.mp hit
  have mem : r ∈ rows.filter p := one ▸ List.mem_singleton_self r
  obtain ⟨stored, met⟩ := List.mem_filter.mp mem
  have same := only r stored met
  refine ⟨r, ?_, met⟩
  rw [find_of_key distinct stored fun s _ h => (by simpa [same] using h), if_pos (by simp [same])]

theorem mem_of_find {r : ρ} (found : rows.find? (key · == k) = some r) : r ∈ rows := List.mem_of_find?_eq_some found

/-- A stored row is the one found under its key. -/
theorem find_of_mem {r : ρ} (distinct : rows.Pairwise fun a b => key a ≠ key b) (mem : r ∈ rows) :
    rows.find? (key · == key r) = some r := by
  rw [find_of_key distinct mem fun s _ h => (by simpa using h), if_pos (by simp)]

end

variable {S : Schema} {ε α β : Type}

/-- Removing rows of `t` leaves a table alone whose rows do not cascade from `t`. -/
theorem DB.rows_remove_of_ne {db : DB S} {t t' : S.Tbl} {sel : S.Row t → Bool} (other : t' ≠ t)
    (free : ∀ r ∈ db.rows t', ∀ k ∈ S.refs t' r, k.parent = t → k.cascade = false) :
    (db.remove t sel).rows t' = db.rows t' := by
  have same : (db.put t ((db t).filter fun r => !sel r)).rows t' = db.rows t' := rows_put_of_ne _ other
  show List.filter _ ((db.put t ((db t).filter fun r => !sel r)).rows t') = db.rows t'
  rw [same, List.filter_eq_self]
  intro r hr
  rw [List.all_eq_true]
  intro k hk
  by_cases parent : k.parent = t
  · simp [free r hr k hk parent]
  · simp [parent]

/-- Removing rows of a table whose rows do not cascade from each other. -/
theorem DB.rows_remove_self {db : DB S} {t : S.Tbl} {sel : S.Row t → Bool}
    (free : ∀ r ∈ db.rows t, ∀ k ∈ S.refs t r, k.parent = t → k.cascade = false) :
    (db.remove t sel).rows t = (db.rows t).filter fun r => !sel r := by
  have rows : (db.put t ((db t).filter fun r => !sel r)).rows t = (db.rows t).filter fun r => !sel r := by
    rw [rows_put_self]
    rfl
  show List.filter _ ((db.put t ((db t).filter fun r => !sel r)).rows t) = _
  rw [rows, List.filter_eq_self]
  intro r hr
  rw [List.all_eq_true]
  intro k hk
  by_cases parent : k.parent = t
  · simp [free r (List.mem_filter.mp hr).1 k hk parent]
  · simp [parent]

/-- An upsert that finds its row and may merge changes it. -/
theorem apply_upsert_merge {db db' : DB S} {t : S.Tbl} {new : DB S → Option (S.Row t)} {same : S.Row t → S.Row t → Bool}
    {merge : S.Row t → S.Row t → Option (S.Row t)} {n : Nat} (h : (Dml.upsert t new same merge).apply db = .ok (n, db')) {row : S.Row t}
    (given : new db = some row) (found : ((db.rows t).find? (same row)).isSome = true) (merges : ∀ old, (merge row old).isSome = true) :
    ∃ tab, db' = db.put t tab ∧ tab.rows = updateRows (same row) (fun old => (merge row old).getD old) (db.rows t) := by
  obtain ⟨old, isOld⟩ := Option.isSome_iff_exists.mp found
  have notNone : (merge row old).isNone = false := by rw [Option.isNone_eq_false_iff, merges]
  simp only [Dml.apply, given, isOld, notNone] at h
  obtain ⟨d, stored, e⟩ := Except.map_ok h
  cases e
  obtain ⟨tab, rfl, rows, -⟩ := DB.replace_ok stored
  exact ⟨tab, rfl, rows⟩

/-- A statement leaves alone every other table whose rows do not cascade from its own. -/
theorem apply_rows_of_ne {w : Dml S} {db db' : DB S} {n : Nat} {t : S.Tbl} (h : w.apply db = .ok (n, db')) (other : t ≠ w.table)
    (free : ∀ r ∈ db.rows t, ∀ k ∈ S.refs t r, k.parent = w.table → k.cascade = false) : db'.rows t = db.rows t := by
  cases w with
  | insert t' new =>
    obtain ⟨tab, rfl, -⟩ := apply_insert h
    exact DB.rows_put_of_ne tab other
  | upsert t' new same merge =>
    rcases apply_upsert h with rfl | ⟨_, tab, -, rfl, -⟩
    · rfl
    · exact DB.rows_put_of_ne tab other
  | update t' sel set =>
    obtain ⟨tab, rfl, -⟩ := apply_update h
    exact DB.rows_put_of_ne tab other
  | delete t' sel =>
    obtain ⟨rfl, -⟩ := apply_delete h
    exact DB.rows_remove_of_ne other free

section
variable {κ : Type} [DecidableEq κ] {t : S.Tbl} {key : S.Row t → κ} {db db' : DB S} {n : Nat} {k : κ}
  {sel : DB S → S.Row t → Bool} {set : DB S → S.Row t → S.Row t}

theorem apply_update_rows (h : (Dml.update t sel set).apply db = .ok (n, db')) :
    db'.rows t = (db.rows t).map fun r => if sel db r then set db r else r := by
  obtain ⟨tab, rfl, rows, -⟩ := apply_update h
  exact (DB.rows_put_self ..).trans rows

theorem apply_update_rows_of_ne (h : (Dml.update t sel set).apply db = .ok (n, db')) {t' : S.Tbl} (other : t' ≠ t) :
    db'.rows t' = db.rows t' := by
  obtain ⟨tab, rfl, -⟩ := apply_update h
  exact DB.rows_put_of_ne tab other

/-- The row found under a key after an UPDATE that keeps the keys. -/
theorem apply_update_find (h : (Dml.update t sel set).apply db = .ok (n, db')) (keeps : ∀ r, key (set db r) = key r) :
    (db'.rows t).find? (key · == k) = ((db.rows t).find? (key · == k)).map fun r => if sel db r then set db r else r := by
  obtain ⟨tab, rfl, rows, -⟩ := apply_update h
  rw [DB.rows_put_self, rows]
  exact find_updateRows fun r _ => keeps r

/-- An UPDATE that hit one row, and can only hit rows of one key. -/
theorem apply_update_hit (h : (Dml.update t sel set).apply db = .ok (1, db'))
    (distinct : (db.rows t).Pairwise fun a b => key a ≠ key b) (keeps : ∀ r, key (set db r) = key r)
    (only : ∀ r ∈ db.rows t, sel db r = true → key r = k) :
    ∃ r, (db.rows t).find? (key · == k) = some r ∧ sel db r = true ∧ (db'.rows t).find? (key · == k) = some (set db r) ∧
      ∀ k', k' ≠ k → (db'.rows t).find? (key · == k') = (db.rows t).find? (key · == k') := by
  obtain ⟨-, -, -, one, -⟩ := apply_update h
  obtain ⟨r, found, hit⟩ := find_of_hit distinct one.symm only
  refine ⟨r, found, hit, ?_, fun k' other => ?_⟩
  · rw [apply_update_find h keeps, found, Option.map_some, if_pos hit]
  · rw [apply_update_find h keeps]
    cases lookup : (db.rows t).find? (key · == k') with
    | none => rfl
    | some s =>
      have miss : ¬ sel db s = true := fun hit =>
        other ((key_of_find lookup).symm.trans (only s (mem_of_find lookup) hit))
      rw [Option.map_some, if_neg miss]

/-- The rows after an UPDATE that can only hit the row `r`. -/
theorem apply_update_at (h : (Dml.update t sel set).apply db = .ok (n, db'))
    (distinct : (db.rows t).Pairwise fun a b => key a ≠ key b) {r : S.Row t} (stored : r ∈ db.rows t) (hit : sel db r = true)
    (only : ∀ u ∈ db.rows t, sel db u = true → key u = key r) :
    db'.rows t = (db.rows t).map fun u => if key u = key r then set db r else u := by
  obtain ⟨tab, rfl, rows, -⟩ := apply_update h
  rw [DB.rows_put_self, rows]
  refine List.map_congr_left fun u mem => ?_
  by_cases same : key u = key r
  · rw [eq_of_key distinct mem stored same, if_pos hit, if_pos rfl]
  · rw [if_neg same, if_neg fun hit => same (only u mem hit)]

/-- An UPDATE that can only hit rows of one key has hit none or one. -/
theorem apply_update_cases (h : (Dml.update t sel set).apply db = .ok (n, db'))
    (distinct : (db.rows t).Pairwise fun a b => key a ≠ key b) (only : ∀ r ∈ db.rows t, sel db r = true → key r = k) :
    (n = 0 ∧ db'.rows t = db.rows t) ∨ ∃ r ∈ db.rows t, key r = k ∧ sel db r = true ∧
      db'.rows t = (db.rows t).map fun u => if key u = k then set db r else u := by
  by_cases hits : ∃ r ∈ db.rows t, sel db r = true
  · obtain ⟨r, stored, hit⟩ := hits
    obtain rfl := only r stored hit
    exact .inr ⟨r, stored, rfl, hit, apply_update_at h distinct stored hit only⟩
  · obtain ⟨tab, rfl, rows, rfl, -⟩ := apply_update h
    refine .inl ⟨?_, ?_⟩
    · rw [List.length_eq_zero_iff, List.filter_eq_nil_iff]
      exact fun u mem hit => hits ⟨u, mem, hit⟩
    · rw [DB.rows_put_self, rows]
      refine (List.map_congr_left fun u mem => ?_).trans (List.map_id _)
      exact if_neg fun hit => hits ⟨u, mem, hit⟩

/-- If it has hit one. -/
theorem apply_update_one (h : (Dml.update t sel set).apply db = .ok (1, db'))
    (distinct : (db.rows t).Pairwise fun a b => key a ≠ key b) (only : ∀ r ∈ db.rows t, sel db r = true → key r = k) :
    ∃ r ∈ db.rows t, key r = k ∧ sel db r = true ∧ db'.rows t = (db.rows t).map fun u => if key u = k then set db r else u := by
  rcases apply_update_cases h distinct only with ⟨zero, -⟩ | hit
  · cases zero
  · exact hit

theorem apply_insert_rows {new : DB S → Nat → List (S.Row t)} (h : (Dml.insert t new).apply db = .ok (n, db')) :
    db'.rows t = db.rows t ++ new db ((db t).seq + 1) := by
  obtain ⟨tab, rfl, rows, -⟩ := apply_insert h
  exact (DB.rows_put_self ..).trans rows

theorem apply_insert_rows_of_ne {new : DB S → Nat → List (S.Row t)} (h : (Dml.insert t new).apply db = .ok (n, db'))
    {t' : S.Tbl} (other : t' ≠ t) : db'.rows t' = db.rows t' := by
  obtain ⟨tab, rfl, -⟩ := apply_insert h
  exact DB.rows_put_of_ne tab other

/-- The row found under a key after an INSERT of one row. -/
theorem apply_insert_find {new : Nat → S.Row t} (h : (Dml.insert t fun _ seq => [new seq]).apply db = .ok (n, db')) :
    (db'.rows t).find? (key · == k) = ((db.rows t).find? (key · == k)).or
      (if key (new ((db t).seq + 1)) = k then some (new ((db t).seq + 1)) else none) := by
  obtain ⟨tab, rfl, rows, -⟩ := apply_insert h
  rw [DB.rows_put_self, rows, List.find?_append]
  congr 1
  by_cases same : key (new ((db t).seq + 1)) = k <;> simp [same]

/-- The row found under a key after an upsert that goes by the key and always merges. -/
theorem apply_upsert_find {new : DB S → Option (S.Row t)} {same : S.Row t → S.Row t → Bool} {merge : S.Row t → S.Row t → Option (S.Row t)}
    {row : S.Row t} {merged : S.Row t → S.Row t} (h : (Dml.upsert t new same merge).apply db = .ok (n, db')) (given : new db = some row)
    (byKey : ∀ old, same row old = (key old == key row)) (merges : ∀ old, merge row old = some (merged old))
    (keeps : ∀ old, key (merged old) = key old) :
    (db'.rows t).find? (key · == k) =
      if k = key row then some (((db.rows t).find? (key · == k)).elim row merged) else (db.rows t).find? (key · == k) := by
  have byKey' : same row = (key · == key row) := funext byKey
  simp only [Dml.apply, given, byKey', merges, Option.getD_some] at h
  cases found : (db.rows t).find? (key · == key row) with
  | none =>
    rw [found] at h
    obtain ⟨d, stored, e⟩ := Except.map_ok h
    cases e
    obtain ⟨tab, rfl, rows, -⟩ := DB.replace_ok stored
    rw [DB.rows_put_self, rows, List.find?_append]
    split
    · rename_i same
      subst same
      simp [found]
    · rename_i other
      rw [List.find?_cons_of_neg (by simpa using Ne.symm other), List.find?_nil, Option.or_none]
  | some old =>
    rw [found] at h
    obtain ⟨d, stored, e⟩ := Except.map_ok h
    cases e
    obtain ⟨tab, rfl, rows, -⟩ := DB.replace_ok stored
    rw [DB.rows_put_self, rows, find_updateRows fun r _ => keeps r]
    split
    · rename_i same
      subst same
      rw [found, Option.map_some, if_pos (by rw [key_of_find found, beq_self_eq_true])]
      rfl
    · rename_i other
      cases lookup : (db.rows t).find? (key · == k) with
      | none => rfl
      | some r => rw [Option.map_some, if_neg (by rw [key_of_find lookup]; simpa using other)]

/-- The key of an inserted row was free. -/
theorem apply_insert_free {new : DB S → Nat → List (S.Row t)} {r : S.Row t}
    (h : (Dml.insert t new).apply db = .ok (n, db')) (mem : r ∈ new db ((db t).seq + 1))
    (distinct : (db'.rows t).Pairwise fun a b => key a ≠ key b) : (db.rows t).find? (key · == key r) = none := by
  obtain ⟨tab, rfl, rows, -⟩ := apply_insert h
  rw [DB.rows_put_self, rows, List.pairwise_append] at distinct
  rw [List.find?_eq_none]
  intro s hs same
  exact distinct.2.2 s hs r mem (by simpa using same)

end

/-! ## What a call has done -/

section
variable [OfViolation ε]

/-- A transaction has no effect, or the one its program returned with. -/
theorem immediate_effect (p : Prog S ε α) (faults : Faults ε) {n : Nat} {db : DB S} :
    (immediate p faults n db).db = db ∨ ∃ a, p.Returns db a (immediate p faults n db).db := by
  cases out : (immediate p faults n db).result with
  | error e => exact .inl (immediate_atomic p faults n db e out)
  | ok a => exact .inr ⟨a, immediate_ok out⟩

/-- A transaction fails without an effect, or its program returns. -/
theorem immediate_cases (p : Prog S ε α) (faults : Faults ε) {n : Nat} {db : DB S} :
    (∃ e, (immediate p faults n db).result = .error e ∧ (immediate p faults n db).db = db) ∨
      ∃ a, (immediate p faults n db).result = .ok a ∧ p.Returns db a (immediate p faults n db).db := by
  cases out : (immediate p faults n db).result with
  | error e => exact .inl ⟨e, rfl, immediate_atomic p faults n db e out⟩
  | ok a => exact .inr ⟨a, rfl, immediate_ok out⟩

/-- A transaction whose errors are returned after a COMMIT has no effect, or that of its program. -/
theorem immediateShadowed_effect (p : Prog S ε (Except ε α)) (faults : Faults ε) {n : Nat} {db : DB S} :
    (immediateShadowed p faults n db).db = db ∨ ∃ r, p.Returns db r (immediateShadowed p faults n db).db := by
  have out := p.run_yields faults (n + 1) db
  unfold immediateShadowed
  split
  · exact .inl rfl
  · split
    · exact .inl rfl
    · rename_i ran
      rw [ran] at out
      split
      · exact .inl rfl
      · exact .inr ⟨_, out⟩

/-- One statement outside a transaction, followed by reads only. -/
theorem direct_effect {w : Dml S} {f : Nat → Prog S ε α} (reads : ∀ c, (f c).Writes fun _ => False) (faults : Faults ε)
    {n : Nat} {db : DB S} :
    (Prog.direct (Prog.exec w >>= f) faults n db).db = db ∨
      ∃ c, w.apply db = .ok (c, (Prog.direct (Prog.exec w >>= f) faults n db).db) := by
  have out := (Prog.exec w >>= f).run_yields faults n db
  rcases out with ⟨e, out⟩ | ⟨c, mid, applied, out⟩
  · exact .inl out.2
  · have same : (Prog.direct (Prog.exec w >>= f) faults n db).db = mid :=
      (reads c).yields (R := fun d d' => d' = d) (fun _ => rfl) (fun _ _ _ ab bc => bc.trans ab) (fun _ no => no.elim) out
    exact .inr ⟨c, same ▸ applied⟩

end

end Sql
