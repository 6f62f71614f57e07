import MinimaxProxy.Auth.Authenticator
import MinimaxProxy.Store.RemoteMoves

/-!
# Revoked keys

A call that revokes a key returns after it has published a list that it read after its write.
What is published later must have been read later too: then the revoked key is in no list that
is current from then on. `Reload` itself does not see to that, and a list that was read before
the write and is published after it brings the key back.
-/

namespace MinimaxProxy.Auth
open Sql Sql.Prog Store

variable {a : Actor} {d : String} {db db' : Database} {e : Err} {faults : Faults Err}
  {index n : Nat} {k : APIKey} {lib : Library} {now : Int}
  {p : Phase} {r : Option String} {request : Request} {s : State}

/-! ## Keys in lists and in the store -/

def Lists (items : List Credential) (d : String) : Prop := ∃ i ∈ items, i.enabled = true ∧ i.keyDigest = d

def Enabled (db : Database) (d : String) : Prop := ∃ k ∈ apiKeys db, k.enabled = true ∧ k.keyDigest = d

theorem lists_credentials : Lists (listExternalAPIKeyCredentials db) d ↔ Enabled db d := by
  constructor
  · rintro ⟨i, mem, met⟩
    obtain ⟨k, stored, rfl⟩ := List.mem_map.mp mem
    exact ⟨k, (List.mem_insertionSort _).mp stored, met⟩
  · rintro ⟨k, stored, met⟩
    exact ⟨_, List.mem_map_of_mem ((List.mem_insertionSort _).mpr stored), met⟩

theorem lookup_snapshot {items : List Credential} (absent : ¬ Lists items d) : (snapshot items).lookup d = none := by
  -- The loop keeps that the owners assigned so far lack the key.
  suffices loop : ∀ owners : Snapshot, owners.lookup d = none → (items.foldl (fun owners item =>
      if item.enabled then (item.keyDigest, item.id) :: owners else owners) owners).lookup d = none from loop [] rfl
  induction items with
  | nil => exact fun _ lacks => lacks
  | cons item rest ih =>
    intro owners lacks
    apply ih fun ⟨i, mem, met⟩ => absent ⟨i, List.mem_cons_of_mem item mem, met⟩
    beta_reduce
    split
    · next enabled =>
      have other : d ≠ item.keyDigest := fun same => absent ⟨item, List.mem_cons_self, enabled, same.symm⟩
      rw [List.lookup_cons, beq_false_of_ne other]
      exact lacks
    · exact lacks

theorem keys_distinct (db : Database) : (apiKeys db).Pairwise fun a b => a.id ≠ b.id ∧ a.keyDigest ≠ b.keyDigest := by
  refine (db Tbl.externalAPIKeys).fit.imp fun {a b} h => ?_
  have fits : APIKey.fits a b = true := h
  simp only [APIKey.fits, Bool.and_eq_true, bne_iff_ne] at fits
  exact ⟨fits.1.1, fits.2⟩

theorem key_unique_id {a b : APIKey} (ha : a ∈ apiKeys db) (hb : b ∈ apiKeys db) (same : a.id = b.id) : a = b :=
  eq_of_key ((keys_distinct db).imp And.left) ha hb same

theorem key_unique_digest {a b : APIKey} (ha : a ∈ apiKeys db) (hb : b ∈ apiKeys db) (same : a.keyDigest = b.keyDigest) : a = b :=
  eq_of_key ((keys_distinct db).imp And.right) ha hb same

theorem digestOf_mem (stored : k ∈ apiKeys db) : digestOf db k.id = some k.keyDigest := by
  rw [digestOf, find_of_key ((keys_distinct db).imp And.left) stored fun s _ h => (by simpa using h), if_pos (by simp)]
  rfl

theorem storedKey_returns {id : String} (out : (storedKey id e).Returns db k db') :
    k ∈ apiKeys db ∧ k.id = id ∧ db' = db := by
  obtain ⟨isKey, rfl⟩ := returns_query.mp out
  obtain ⟨stored, named⟩ := found_spec isKey
  exact ⟨stored, by simpa using named, rfl⟩

theorem unique_readOnly {equalFold : String → String → Bool} {name : String} {digest : Option String} {excludedID : String} :
    (ensureExternalAPIKeyUnique equalFold name digest excludedID).Writes fun _ => False := by
  unfold ensureExternalAPIKeyUnique
  refine writes_bind writes_select fun _ => writes_bind writes_require fun _ => ?_
  split
  · exact writes_pure
  · exact writes_bind writes_select fun _ => writes_require

/-! ## What the calls write -/

theorem create_enabled {equalFold : String → String → Bool} {input : APIKeyInput}
    (out : (createExternalAPIKeyBody equalFold input now).Returns db k db') (enabled : Enabled db' d) :
    Enabled db d ∨ d = input.keyDigest := by
  simp only [createExternalAPIKeyBody, returns_bind, returns_orElse_fail, returns_exec] at out
  obtain ⟨_, _, unique, _, _, inserted, isStored⟩ := out
  obtain rfl := unique.readOnly unique_readOnly
  obtain ⟨-, -, rfl⟩ := storedKey_returns isStored
  obtain ⟨tab, rfl, rows, -⟩ := apply_insert inserted
  obtain ⟨k, stored, met⟩ := enabled
  rw [apiKeys, DB.rows_put_self, rows] at stored
  rcases List.mem_append.mp stored with old | new
  · exact .inl ⟨k, old, met⟩
  · obtain rfl := List.mem_singleton.mp new
    exact .inr met.2.symm

theorem update_enabled {equalFold : String → String → Bool} {id name : String} {version : Int} {enable : Bool}
    (out : (updateExternalAPIKeyBody equalFold id version name enable now).Returns db k db')
    (enabled : Enabled db' d) :
    (Enabled db d ∧ digestOf db id ≠ some d) ∨ (enable = true ∧ digestOf db id = some d) := by
  simp only [updateExternalAPIKeyBody, returns_bind, returns_orElse_fail, returns_exec, returns_require] at out
  obtain ⟨current, _, isCurrent, _, _, ⟨fresh, rfl⟩, _, _, unique, _, _, updated, _, _, ⟨-, rfl⟩, isStored⟩ := out
  obtain ⟨isKey, rfl, rfl⟩ := storedKey_returns isCurrent
  obtain rfl := unique.readOnly unique_readOnly
  obtain ⟨-, -, rfl⟩ := storedKey_returns isStored
  obtain ⟨tab, rfl, rows, -⟩ := apply_update updated
  obtain ⟨k', stored, on, rfl⟩ := enabled
  rw [apiKeys, DB.rows_put_self, rows] at stored
  obtain ⟨k, old, rfl⟩ := List.mem_map.mp stored
  rw [digestOf_mem isKey]
  by_cases named : k.id = current.id
  · obtain rfl := key_unique_id old isKey named
    rw [if_pos (by simpa using fresh)] at on ⊢
    exact .inr ⟨on, rfl⟩
  · rw [if_neg (by simp [named])] at on ⊢
    refine .inl ⟨⟨k, old, on, rfl⟩, fun same => named ?_⟩
    rw [key_unique_digest isKey old (Option.some.inj same)]

theorem delete_enabled {id : String} {version : Int} {u : Unit}
    (out : (deleteExternalAPIKeyBody id version).Returns db u db') (enabled : Enabled db' d) :
    Enabled db d ∧ digestOf db id ≠ some d := by
  simp only [deleteExternalAPIKeyBody, returns_bind, returns_exec, returns_require, returns_select] at out
  obtain ⟨current, _, isCurrent, _, _, ⟨fresh, rfl⟩, _, _, ⟨-, rfl⟩, _, _, ⟨-, rfl⟩, _, _, deleted, -, rfl⟩ := out
  obtain ⟨isKey, rfl, rfl⟩ := storedKey_returns isCurrent
  obtain ⟨rfl, -⟩ := apply_delete deleted
  obtain ⟨k, stored, on, rfl⟩ := enabled
  rw [apiKeys, DB.rows_remove_self fun _ _ _ mem => absurd mem List.not_mem_nil] at stored
  obtain ⟨old, missed⟩ := List.mem_filter.mp stored
  refine ⟨⟨k, old, on, rfl⟩, fun same => ?_⟩
  rw [digestOf_mem isKey] at same
  obtain rfl := key_unique_digest isKey old (Option.some.inj same)
  rw [fresh, beq_self_eq_true] at missed
  cases missed

/-- A transaction whose row is not used succeeds if its program returns. -/
theorem discard_ok {α : Type} {p : Prog α} (ok : ((do let _ ← immediate p : Call Unit) faults n db).result = .ok ()) :
    ∃ a, p.Returns db a ((do let _ ← immediate p : Call Unit) faults n db).db := by
  obtain ⟨store, result⟩ := Call.discard_run (immediate p) faults n db
  rw [result] at ok
  rw [store]
  rcases immediate_cases p faults with ⟨e, failed, -⟩ | ⟨a, -, out⟩
  · rw [failed] at ok
    cases ok
  · exact ⟨a, out⟩

theorem discard_failed {α : Type} {p : Prog α} (failed : ((do let _ ← immediate p : Call Unit) faults n db).result = .error e) :
    ((do let _ ← immediate p : Call Unit) faults n db).db = db := by
  obtain ⟨store, result⟩ := Call.discard_run (immediate p) faults n db
  rw [result] at failed
  rw [store]
  rcases immediate_cases p faults with ⟨_, -, same⟩ | ⟨a, ok, -⟩
  · exact same
  · rw [ok] at failed
    cases failed

/-- A call that succeeds has revoked what it says, and what it enables is no more than it says. -/
theorem write_enabled (ok : (request.write lib now faults n db).result = .ok ())
    (enabled : Enabled (request.write lib now faults n db).db d) :
    (Enabled db d ∧ request.revokes db ≠ some d) ∨ request.enables lib db = some d := by
  cases request with
  | create key id name =>
    obtain ⟨_, out⟩ := discard_ok ok
    rcases create_enabled out enabled with old | rfl
    · exact .inl ⟨old, nofun⟩
    · exact .inr rfl
  | update id version name enable =>
    obtain ⟨_, out⟩ := discard_ok ok
    rcases update_enabled out enabled with ⟨old, other⟩ | ⟨rfl, same⟩
    · refine .inl ⟨old, ?_⟩
      simp only [Request.revokes]
      split
      · exact nofun
      · exact other
    · exact .inr same
  | delete id version =>
    exact .inl (delete_enabled (immediate_ok ok) enabled)

theorem write_refused (failed : (request.write lib now faults n db).result = .error e) : (request.write lib now faults n db).db = db := by
  cases request with
  | create key id name => exact discard_failed failed
  | update id version name enable => exact discard_failed failed
  | delete id version => exact immediate_atomic _ faults n db e failed

/-! ## The invariant -/

/-- The key is not enabled, and in no list from number `since` on. -/
structure Clear (s : State) (d : String) (since : Nat) : Prop where
  stored : ¬ Enabled s.db d
  current : since ≤ s.number → s.current.lookup d = none
  fetched : ∀ a n items r, s.phase a = .fetched n items r → since ≤ n → ¬ Lists items d

theorem Clear.mono {since later : Nat} (clear : Clear s d since) (le : since ≤ later) : Clear s d later where
  stored := clear.stored
  current := fun reached => clear.current (le.trans reached)
  fetched := fun a n items r fetched reached => clear.fetched a n items r fetched (le.trans reached)

/-- The number from which on the call of the actor sees to it that its key is in no list. -/
def Phase.since (reads : Nat) : Phase → Nat
  | .idle | .written _ => reads + 1
  | .fetched n _ _ | .published n _ => n

structure Inv (s : State) : Prop where
  number : s.number ≤ s.reads
  fetched : ∀ a n items r, s.phase a = .fetched n items r → n ≤ s.reads
  published : ∀ a n r, s.phase a = .published n r → n ≤ s.number
  called : ∀ a d, (s.phase a).revokes = some d → Clear s d ((s.phase a).since s.reads)
  revoked : ∀ d ∈ s.revoked, Clear s d s.number

/-- What is published was not read before what is current. -/
def Event.InOrder (s : State) : Event → Prop
  | .publish a => ∀ n items r, s.phase a = .fetched n items r → s.number ≤ n
  | _ => True

theorem Phase.enabled_fetched {key : Option String} {items : List Credential}
    (h : p.enabled key = .fetched n items r) : ∃ r', p = .fetched n items r' := by
  cases p <;> cases h
  exact ⟨_, rfl⟩

theorem Phase.enabled_published {key : Option String} (h : p.enabled key = .published n r) :
    ∃ r', p = .published n r' := by
  cases p <;> cases h
  exact ⟨_, rfl⟩

theorem Phase.enabled_since (p : Phase) (key : Option String) (reads : Nat) : (p.enabled key).since reads = p.since reads := by
  cases p <;> rfl

theorem Phase.enabled_revokes {key : Option String} (h : (p.enabled key).revokes = some d) :
    p.revokes = some d ∧ key ≠ some d := by
  have kept (r : Option String) (h : (if r = key then none else r) = some d) : r = some d ∧ key ≠ some d := by
    split at h
    · cases h
    · next other => exact ⟨h, fun same => other (h.trans same.symm)⟩
  cases p with
  | idle => cases h
  | written r => exact kept r h
  | fetched n items r => exact kept r h
  | published n r => exact kept r h

theorem revokes_not_enables (revokes : request.revokes db = some d) :
    request.enables lib db ≠ some d := by
  cases request with
  | create key id name => cases revokes
  | update id version name enable =>
    cases enable with
    | true => cases revokes
    | false => exact nofun
  | delete id version => exact nofun

/-- An actor is in its new phase, or is another one in its old phase. -/
theorem update_cases {phase : Actor → Phase} {b : Actor} {q : Phase} (h : Function.update phase a p b = q) :
    (b = a ∧ p = q) ∨ (b ≠ a ∧ phase b = q) := by
  by_cases same : b = a
  · subst same
    rw [Function.update_self] at h
    exact .inl ⟨rfl, h⟩
  · rw [Function.update_of_ne same] at h
    exact .inr ⟨same, h⟩

theorem written_cases {b : Actor} {q : Phase} (h : (s.written lib n request db).phase b = q) :
    (b = .call n ∧ .written (request.revokes s.db) = q) ∨
      (b ≠ .call n ∧ (s.phase b).enabled (request.enables lib s.db) = q) := by
  dsimp only [State.written] at h
  exact update_cases h

/-- A published list is one that was fetched. -/
theorem Clear.publish {since : Nat} {items : List Credential} (clear : Clear s d since) (fetched : s.phase a = .fetched n items r) :
    Clear { s.set a (.published n r) with current := snapshot items, number := n } d since where
  stored := clear.stored
  current := fun reached => lookup_snapshot (clear.fetched a n items r fetched reached)
  fetched := fun b m others q h => by
    rcases update_cases h with ⟨-, new⟩ | ⟨-, old⟩
    · cases new
    · exact clear.fetched b m others q old

/-- The next list lacks what is not enabled. -/
theorem Clear.fetch {since : Nat} (clear : Clear s d since) :
    Clear { s.set a (.fetched (s.reads + 1) (listExternalAPIKeyCredentials s.db) r) with reads := s.reads + 1 } d since where
  stored := clear.stored
  current := clear.current
  fetched := fun b m others q h => by
    rcases update_cases h with ⟨-, new⟩ | ⟨-, old⟩
    · cases new
      exact fun _ listed => clear.stored (lists_credentials.mp listed)
    · exact clear.fetched b m others q old

theorem Clear.idle {since : Nat} (clear : Clear s d since) : Clear (s.set a .idle) d since where
  stored := clear.stored
  current := clear.current
  fetched := fun b m others q h => by
    rcases update_cases h with ⟨-, new⟩ | ⟨-, old⟩
    · cases new
    · exact clear.fetched b m others q old

/-- A transaction that does not enable the key. -/
theorem Clear.write {since : Nat} (clear : Clear s d since) (ok : (request.write lib now faults index s.db).result = .ok ())
    (other : request.enables lib s.db ≠ some d) :
    Clear (s.written lib n request (request.write lib now faults index s.db).db) d since where
  stored := fun enabled => (write_enabled ok enabled).elim (fun old => clear.stored old.1) other
  current := clear.current
  fetched := fun b m others q h => by
    rcases written_cases h with ⟨-, new⟩ | ⟨-, old⟩
    · cases new
    · obtain ⟨q', wasFetched⟩ := Phase.enabled_fetched old
      exact clear.fetched b m others q' wasFetched

/-- A transaction that revokes the key. -/
theorem Inv.clear_revoked (inv : Inv s) (ok : (request.write lib now faults index s.db).result = .ok ())
    (revokes : request.revokes s.db = some d) :
    Clear (s.written lib n request (request.write lib now faults index s.db).db) d (s.reads + 1) where
  stored := fun enabled => (write_enabled ok enabled).elim (fun old => old.2 revokes) (revokes_not_enables revokes)
  current := fun reached => absurd (inv.number.trans_lt reached) (lt_irrefl _)
  fetched := fun b m others q h reached => by
    rcases written_cases h with ⟨-, new⟩ | ⟨-, old⟩
    · cases new
    · obtain ⟨q', wasFetched⟩ := Phase.enabled_fetched old
      exact absurd ((inv.fetched b m others q' wasFetched).trans_lt reached) (lt_irrefl _)

theorem Inv.write (inv : Inv s) (ok : (request.write lib now faults index s.db).result = .ok ()) :
    Inv (s.written lib n request (request.write lib now faults index s.db).db) where
  number := inv.number
  fetched := fun b m others q h => by
    rcases written_cases h with ⟨-, new⟩ | ⟨-, old⟩
    · cases new
    · obtain ⟨q', wasFetched⟩ := Phase.enabled_fetched old
      exact inv.fetched b m others q' wasFetched
  published := fun b m q h => by
    rcases written_cases h with ⟨-, new⟩ | ⟨-, old⟩
    · cases new
    · obtain ⟨q', wasPublished⟩ := Phase.enabled_published old
      exact inv.published b m q' wasPublished
  called := fun b d revokes => by
    generalize after : (s.written lib n request _).phase b = p at revokes ⊢
    rcases written_cases after with ⟨-, rfl⟩ | ⟨-, rfl⟩
    · exact inv.clear_revoked ok revokes
    · obtain ⟨wasRevoked, other⟩ := Phase.enabled_revokes revokes
      rw [Phase.enabled_since]
      exact (inv.called b d wasRevoked).write ok other
  revoked := fun d mem => by
    obtain ⟨was, other⟩ := List.mem_filter.mp mem
    exact (inv.revoked d was).write ok fun same => absurd same.symm (by simpa using other)

/-- A step of one actor that only changes its phase, with the lists kept clear. -/
theorem Inv.called_of {s' : State} (inv : Inv s) (phase : s'.phase = Function.update s.phase a p)
    (reads : s.reads ≤ s'.reads) (clear : ∀ d since, Clear s d since → Clear s' d since)
    (own : ∀ d, p.revokes = some d → (s.phase a).revokes = some d ∧ (s.phase a).since s.reads ≤ p.since s'.reads)
    (b : Actor) (d : String) (revokes : (s'.phase b).revokes = some d) : Clear s' d ((s'.phase b).since s'.reads) := by
  have later (q : Phase) : q.since s.reads ≤ q.since s'.reads := by
    cases q with
    | idle | written r => exact Nat.succ_le_succ reads
    | fetched n items r | published n r => exact le_refl n
  rw [phase] at revokes ⊢
  generalize after : Function.update s.phase a p b = q at revokes ⊢
  rcases update_cases after with ⟨-, rfl⟩ | ⟨-, rfl⟩
  · obtain ⟨was, le⟩ := own d revokes
    exact (clear d _ (inv.called a d was)).mono le
  · exact (clear d _ (inv.called b d revokes)).mono (later _)

theorem Inv.fetch (inv : Inv s) (own : ∀ d, r = some d → (s.phase a).revokes = some d ∧ (s.phase a).since s.reads ≤ s.reads + 1) :
    Inv { s.set a (.fetched (s.reads + 1) (listExternalAPIKeyCredentials s.db) r) with reads := s.reads + 1 } where
  number := inv.number.trans (Nat.le_succ _)
  fetched := fun b m others q h => by
    rcases update_cases h with ⟨-, new⟩ | ⟨-, old⟩
    · cases new
      exact le_refl _
    · exact (inv.fetched b m others q old).trans (Nat.le_succ _)
  published := fun b m q h => by
    rcases update_cases h with ⟨-, new⟩ | ⟨-, old⟩
    · cases new
    · exact inv.published b m q old
  called := inv.called_of rfl (Nat.le_succ _) (fun _ _ clear => clear.fetch) own
  revoked := fun d mem => (inv.revoked d mem).fetch

theorem Inv.publish {items : List Credential} (inv : Inv s) (fetched : s.phase a = .fetched n items r) (later : s.number ≤ n) :
    Inv { s.set a (.published n r) with current := snapshot items, number := n } where
  number := inv.fetched a n items r fetched
  fetched := fun b m others q h => by
    rcases update_cases h with ⟨-, new⟩ | ⟨-, old⟩
    · cases new
    · exact inv.fetched b m others q old
  published := fun b m q h => by
    rcases update_cases h with ⟨-, new⟩ | ⟨-, old⟩
    · cases new
      exact le_refl n
    · exact (inv.published b m q old).trans later
  called := inv.called_of rfl (le_refl _) (fun _ _ clear => clear.publish fetched) fun d own => by
    rw [fetched]
    exact ⟨own, le_refl n⟩
  revoked := fun d mem => ((inv.revoked d mem).publish fetched).mono later

/-- The actor becomes idle, and its call may have returned success. -/
theorem Inv.idle {returned : List String} (inv : Inv s)
    (clear : ∀ d ∈ returned, Clear s d s.number) : Inv { s.set a .idle with revoked := returned ++ s.revoked } where
  number := inv.number
  fetched := fun b m others q h => by
    rcases update_cases h with ⟨-, new⟩ | ⟨-, old⟩
    · cases new
    · exact inv.fetched b m others q old
  published := fun b m q h => by
    rcases update_cases h with ⟨-, new⟩ | ⟨-, old⟩
    · cases new
    · exact inv.published b m q old
  called := inv.called_of rfl (le_refl _) (fun _ _ clear => ⟨clear.stored, clear.current, clear.idle.fetched⟩) nofun
  revoked := fun d mem => by
    have was : Clear s d s.number := (List.mem_append.mp mem).elim (clear d) (inv.revoked d)
    exact ⟨was.stored, was.current, was.idle.fetched⟩

theorem Inv.step {s' : State} {e : Event} (inv : Inv s) (inOrder : e.InOrder s) (step : Step lib s e s') :
    Inv s' := by
  cases step with
  | write idle ok => exact inv.write ok
  | refused idle failed => rwa [write_refused failed]
  | @other db keys =>
    have clear (d : String) (since : Nat) (h : Clear s d since) : Clear { s with db := db } d since :=
      ⟨fun ⟨k, stored, met⟩ => h.stored ⟨k, keys ▸ stored, met⟩, h.current, h.fetched⟩
    exact ⟨inv.number, inv.fetched, inv.published, fun a d r => clear d _ (inv.called a d r), fun d m => clear d _ (inv.revoked d m)⟩
  | tick idle => exact inv.fetch nofun
  | @fetch a r written =>
    refine inv.fetch fun d own => ?_
    rw [written]
    exact ⟨own, le_refl _⟩
  | fail written =>
    exact Inv.idle inv fun d (mem : d ∈ []) => nomatch mem
  | @publish a n items r fetched => exact inv.publish fetched (inOrder n items r fetched)
  | @finish a n r published =>
    refine inv.idle fun d mem => ?_
    -- The list of the call is not newer than the current one.
    have own : (s.phase a).revokes = some d := by
      rw [published]
      exact Option.mem_toList.mp mem
    have clear := inv.called a d own
    rw [published] at clear
    exact clear.mono (inv.published a n r published)

theorem Start.inv (start : Start s) : Inv s where
  number := by rw [start.number]; exact Nat.zero_le _
  fetched := fun a n items r h => by rw [start.idle a] at h; cases h
  published := fun a n r h => by rw [start.idle a] at h; cases h
  called := fun a d h => by rw [start.idle a] at h; cases h
  revoked := fun d mem => by rw [start.revoked] at mem; cases mem

/-- If no list is published that was read before the current one, a revoked key is refused. -/
theorem revoked_keys_are_refused {lib : Library} {s t : State} (start : Start s) (run : Reaches lib (fun s e => e.InOrder s) s t) :
    ∀ d ∈ t.revoked, ∀ token, lib.digest token = d → authenticate lib.digest t.current token = none := by
  have inv : Inv t := run.invariant Inv start.inv fun _ _ _ inv inOrder step => inv.step inOrder step
  rintro d mem token rfl
  unfold authenticate
  split
  · rfl
  · exact (inv.revoked _ mem).current (le_refl _)

/-- The digest of the key `mmx_1`. -/
def keyHash : String := "f99fe0c352d43516a24e1cd5a893a2a757377d2dc2131134e18b15a7c61ab614"

/-- A store with this key, after the initial `Reload`. -/
def oneKey : State where
  db := DB.empty.load
    [.insert Tbl.externalAPIKeys fun _ _ =>
      [{ id := "k1", name := "first", keyPlaintext := some "mmx_1", keyDigest := keyHash, keyPrefix := "mmx_", keySuffix := "mx_1"
         createdAt := 0, updatedAt := 0 }]]
  current := [(keyHash, "k1")]

/-- No other key comes up. -/
def plain : Library := ⟨fun key => if key = "mmx_1" then keyHash else "", fun a b => a.toLower == b.toLower⟩

theorem oneKey_start : Start oneKey := ⟨rfl, rfl, rfl, fun _ => rfl, rfl⟩

def disable : Request := .update "k1" 1 "first" false

/-- The loop reads the list, then a call disables the key, publishes its own list and returns. -/
theorem disable_returns : ∃ t, Reaches plain (fun s e => e.InOrder s) oneKey t ∧ t.revoked = [keyHash] ∧
    t.phase .loop = .fetched 1 (listExternalAPIKeyCredentials oneKey.db) none := by
  refine ⟨_, .tail (.finish (.call 0)) (.tail (.publish (.call 0)) (.tail (.fetch (.call 0)) (.tail (.write 0 disable 1 noFaults 0)
    (.tail (.fetch .loop) .refl trivial (.tick rfl)) trivial (.write rfl rfl)) trivial (.fetch rfl)) ?_ (.publish rfl)) trivial
    (.finish rfl), rfl, rfl⟩
  intro n items r fetched
  exact Nat.zero_le n

theorem revoked_keys_are_refused_disabled :
    authenticate plain.digest oneKey.current "mmx_1" = some "k1" ∧ ∃ t : State, t.revoked = [keyHash] ∧
      ∀ d ∈ t.revoked, ∀ token, plain.digest token = d → authenticate plain.digest t.current token = none := by
  obtain ⟨t, run, revoked, -⟩ := disable_returns
  exact ⟨rfl, t, revoked, revoked_keys_are_refused oneKey_start run⟩

/-- The loop publishes the list that it read before the key was disabled. -/
theorem late_publication_restores_key :
    ∃ t, Start oneKey ∧ Reaches plain (fun _ _ => True) oneKey t ∧
      ¬ ∀ d ∈ t.revoked, ∀ token, plain.digest token = d → authenticate plain.digest t.current token = none := by
  obtain ⟨t, run, revoked, fetched⟩ := disable_returns
  refine ⟨_, oneKey_start, .tail (.publish .loop) (run.mono fun _ _ _ => trivial) trivial (.publish fetched), ?_⟩
  intro refused
  have known : authenticate plain.digest (snapshot (listExternalAPIKeyCredentials oneKey.db)) "mmx_1" = some "k1" := rfl
  have gone := refused keyHash (revoked ▸ List.mem_singleton_self keyHash) "mmx_1" rfl
  exact nomatch known.symm.trans gone

end MinimaxProxy.Auth
