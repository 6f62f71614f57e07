import MinimaxProxy.Sim.Runs
import MinimaxProxy.Sql.Lookup
import MinimaxProxy.Store.Settings

/-!
# Authentication of API keys

`internal/authkey`. Requests are authenticated against a snapshot of the enabled keys. A
management call writes the store, reads the list of keys and publishes the snapshot of it;
the background loop does the last two. Each of these is one step here, and the steps of
different calls interleave. `digest` is `sha256.Sum256`.
-/

namespace MinimaxProxy.Auth
open Sql Sql.Prog Store

/-! ## The authenticator -/

/-- `domain.ExternalAPIKeyCredential`. -/
structure Credential where
  id : String
  keyDigest : String
  enabled : Bool

/-- `ListExternalAPIKeyCredentials` (external_api_key.go:124). -/
def listExternalAPIKeyCredentials (db : Database) : List Credential :=
  ((apiKeys db).insertionSort fun a b => a.id ≤ b.id).map fun k => ⟨k.id, k.keyDigest, k.enabled⟩

/-- The owners of the enabled keys by digest, the last one assigned first. -/
abbrev Snapshot : Type := List (String × String)

/-- The snapshot that `Reload` builds (authenticator.go:53). -/
def snapshot (items : List Credential) : Snapshot :=
  items.foldl (fun owners item => if item.enabled then (item.keyDigest, item.id) :: owners else owners) []

/-- `Authenticate` (authenticator.go:41). -/
def authenticate (digest : String → String) (current : Snapshot) (token : String) : Option String :=
  if token = "" then none else current.lookup (digest token)

/-! ## The calls of the service -/

/-- A management call that writes keys. `key` and `id` are the hexadecimal random bytes. -/
inductive Request
  | create (key id name : String)
  | update (id : String) (version : Int) (name : String) (enabled : Bool)
  | delete (id : String) (version : Int)

/-- What `Service.Create` asks of the store (service.go:60). -/
def createInput (digest : String → String) (key id name : String) : APIKeyInput :=
  let key := "mmx_" ++ key
  { id := "key_" ++ id, name := trimSpace name, key := key, keyDigest := digest key
    keyPrefix := String.ofList (key.toList.take 8), keySuffix := String.ofList (key.toList.drop (key.length - 4)), enabled := true }

/-- Library functions that the calls use. -/
structure Library where
  digest : String → String
  equalFold : String → String → Bool

/-- The digest of the key with this id. -/
def digestOf (db : Database) (id : String) : Option String := ((apiKeys db).find? (·.id == id)).map (·.keyDigest)

/-- The transaction of the call. -/
def Request.write (lib : Library) (now : Int) : Request → Call Unit
  | .create key id name => do
    let _ ← createExternalAPIKey lib.equalFold (createInput lib.digest key id name) now
  | .update id version name enabled => do
    let _ ← updateExternalAPIKey lib.equalFold id version (trimSpace name) enabled now
  | .delete id version => deleteExternalAPIKey id version

/-- The key that the call revokes when it succeeds. -/
def Request.revokes (db : Database) : Request → Option String
  | .create .. => none
  | .update id _ _ enabled => if enabled then none else digestOf db id
  | .delete id _ => digestOf db id

/-- The key that the call enables when it succeeds. -/
def Request.enables (lib : Library) (db : Database) : Request → Option String
  | .create key id name => some (createInput lib.digest key id name).keyDigest
  | .update id _ _ enabled => if enabled then digestOf db id else none
  | .delete .. => none

/-! ## Interleavings -/

/-- Who reloads: the background loop (service.go:94), or one of the management calls. -/
inductive Actor
  | loop
  | call (n : Nat)
deriving DecidableEq

/-- How far an actor is. `revokes` is the key that its call has revoked in the store and
that has not been enabled since. A list that was read has the number of the read. -/
inductive Phase
  | idle
  | written (revokes : Option String)
  | fetched (number : Nat) (items : List Credential) (revokes : Option String)
  | published (number : Nat) (revokes : Option String)

/-- The key that the actor's call has revoked. -/
def Phase.revokes : Phase → Option String
  | .idle => none
  | .written r | .fetched _ _ r | .published _ r => r

/-- The key has been enabled: it is no longer revoked. -/
def Phase.enabled (key : Option String) : Phase → Phase
  | .idle => .idle
  | .written r => .written (if r = key then none else r)
  | .fetched n items r => .fetched n items (if r = key then none else r)
  | .published n r => .published n (if r = key then none else r)

/-- `reads` counts the lists that were read, `current` is the snapshot of the list with
number `number`. `revoked` are the keys whose revoking call has returned success and that have
not been enabled since. -/
structure State where
  db : Database
  current : Snapshot
  number : Nat := 0
  reads : Nat := 0
  phase : Actor → Phase := fun _ => .idle
  revoked : List String := []

def State.set (s : State) (a : Actor) (p : Phase) : State := { s with phase := Function.update s.phase a p }

inductive Event
  /-- The transaction of call `n`. -/
  | write (n : Nat) (request : Request) (now : Int) (faults : Faults Err) (index : Nat)
  /-- The rest of the program writes the store, but not the keys. -/
  | other (db : Database)
  /-- `Reload` reads the list. -/
  | fetch (a : Actor)
  /-- `Reload` cannot read the list: the call returns `ErrCacheRefresh`. -/
  | fail (a : Actor)
  /-- `Reload` publishes the snapshot. -/
  | publish (a : Actor)
  /-- The call returns success. -/
  | finish (a : Actor)

/-- The state after a transaction that succeeded. -/
def State.written (lib : Library) (s : State) (n : Nat) (request : Request) (db : Database) : State :=
  let enabled := request.enables lib s.db
  { s with
    db := db
    phase := Function.update (fun a => (s.phase a).enabled enabled) (.call n) (.written (request.revokes s.db))
    revoked := s.revoked.filter fun d => some d != enabled }

inductive Step (lib : Library) : State → Event → State → Prop
  | write {s : State} {n : Nat} {request : Request} {now : Int} {faults : Faults Err} {index : Nat}
      (idle : s.phase (.call n) = .idle) (ok : (request.write lib now faults index s.db).result = .ok ()) :
      Step lib s (.write n request now faults index) (s.written lib n request (request.write lib now faults index s.db).db)
  | refused {s : State} {n : Nat} {request : Request} {now : Int} {faults : Faults Err} {index : Nat} {e : Err}
      (idle : s.phase (.call n) = .idle) (failed : (request.write lib now faults index s.db).result = .error e) :
      Step lib s (.write n request now faults index) { s with db := (request.write lib now faults index s.db).db }
  | other {s : State} {db : Database} (keys : apiKeys db = apiKeys s.db) : Step lib s (.other db) { s with db := db }
  | tick {s : State} (idle : s.phase .loop = .idle) :
      Step lib s (.fetch .loop)
        { s.set .loop (.fetched (s.reads + 1) (listExternalAPIKeyCredentials s.db) none) with reads := s.reads + 1 }
  | fetch {s : State} {a : Actor} {r : Option String} (written : s.phase a = .written r) :
      Step lib s (.fetch a)
        { s.set a (.fetched (s.reads + 1) (listExternalAPIKeyCredentials s.db) r) with reads := s.reads + 1 }
  | fail {s : State} {a : Actor} {r : Option String} (written : s.phase a = .written r) : Step lib s (.fail a) (s.set a .idle)
  | publish {s : State} {a : Actor} {n : Nat} {items : List Credential} {r : Option String}
      (fetched : s.phase a = .fetched n items r) :
      Step lib s (.publish a) { s.set a (.published n r) with current := snapshot items, number := n }
  | finish {s : State} {a : Actor} {n : Nat} {r : Option String} (published : s.phase a = .published n r) :
      Step lib s (.finish a) { s.set a .idle with revoked := r.toList ++ s.revoked }

/-- After the initial `Reload` (main.go:191). -/
structure Start (s : State) : Prop where
  current : s.current = snapshot (listExternalAPIKeyCredentials s.db)
  number : s.number = 0
  reads : s.reads = 0
  idle : ∀ a, s.phase a = .idle
  revoked : s.revoked = []

abbrev Reaches (lib : Library) (ok : State → Event → Prop) : State → State → Prop := Sim.Run (Step lib) ok

end MinimaxProxy.Auth
