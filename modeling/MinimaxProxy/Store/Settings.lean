import Mathlib.Data.List.Sort
import MinimaxProxy.Store.Basic

/-!
# API keys and request profiles

`external_api_key.go` and `profile_store.go`. `equalFold` is `strings.EqualFold`, and
`resolutionKey` is the key part of `domain.NormalizeResolutionName`. A key digest is kept as
the text it digests. Times are in milliseconds.
-/

namespace MinimaxProxy.Store
open Sql Sql.Prog

/-- `unicode.IsSpace`. -/
def isSpace (c : Char) : Bool :=
  let n := c.toNat
  (9 ≤ n && n ≤ 13) || n == 0x20 || n == 0x85 || n == 0xa0 || n == 0x1680 || (0x2000 ≤ n && n ≤ 0x200a) || n == 0x2028
    || n == 0x2029 || n == 0x202f || n == 0x205f || n == 0x3000

/-- `strings.TrimSpace`. -/
def trimSpace (s : String) : String :=
  String.ofList ((s.toList.dropWhile isSpace).reverse.dropWhile isSpace).reverse

/-- `domain.ExternalAPIKeyInput`. -/
structure APIKeyInput where
  id : String
  name : String
  key : String
  keyDigest : String
  keyPrefix : String
  keySuffix : String
  enabled : Bool := true

/-- The stored keys. -/
def apiKeys (db : Database) : List APIKey := db.rows Tbl.externalAPIKeys

def newAPIKey (input : APIKeyInput) (now : Int) : APIKey :=
  { id := input.id, name := trimSpace input.name, keyPlaintext := some input.key, keyDigest := input.keyDigest
    keyPrefix := input.keyPrefix, keySuffix := input.keySuffix, enabled := input.enabled, createdAt := now, updatedAt := now }

/-- `ensureExternalAPIKeyUnique` (external_api_key.go:234). -/
def ensureExternalAPIKeyUnique (equalFold : String → String → Bool) (name : String) (digest : Option String)
    (excludedID : String) : Prog Unit := do
  let names ← select fun (db : Database) => ((apiKeys db).filter (·.id != excludedID)).map (·.name)
  require (!names.any fun existing => equalFold existing name) .apiKeyNameConflict
  match digest with
  | none => pure ()
  | some digest => do
    let count ← select fun (db : Database) => ((apiKeys db).filter (·.keyDigest == digest)).length
    require (count == 0) .apiKeyDigestConflict

/-- The key with this id. -/
def storedKey (id : String) (e : Err) : Prog APIKey :=
  query fun (db : Database) => ((apiKeys db).find? (·.id == id)).elim (.error e) .ok

/-- `classifyExternalAPIKeyConstraint` (external_api_key.go:264). Ids are drawn and the digest was
looked for, so a unique index that refuses the row is the one on the name. -/
def classifyExternalAPIKeyConstraint (e : Err) : Err := if e = .sqlite .unique then .apiKeyNameConflict else e

/-- `CreateExternalAPIKey` (external_api_key.go:43). -/
def createExternalAPIKeyBody (equalFold : String → String → Bool) (input : APIKeyInput) (now : Int) : Prog APIKey := do
  ensureExternalAPIKeyUnique equalFold (trimSpace input.name) (some input.keyDigest) ""
  let _ ← orElse (exec (.insert Tbl.externalAPIKeys fun _ _ => [newAPIKey input now]))
    fun e => .fail (classifyExternalAPIKeyConstraint e)
  storedKey input.id .noRows

def createExternalAPIKey (equalFold : String → String → Bool) (input : APIKeyInput) (now : Int) : Call APIKey :=
  immediate (createExternalAPIKeyBody equalFold input now)

/-- `UpdateExternalAPIKey` (external_api_key.go:61). -/
def updateExternalAPIKeyBody (equalFold : String → String → Bool) (id : String) (expectedVersion : Int) (name : String)
    (enabled : Bool) (now : Int) : Prog APIKey := do
  let current ← storedKey id .apiKeyNotFound
  require (current.version == expectedVersion) .apiKeyVersionConflict
  ensureExternalAPIKeyUnique equalFold (trimSpace name) none id
  let n ← orElse (exec (.update Tbl.externalAPIKeys (fun _ (k : APIKey) => k.id == id && k.version == expectedVersion)
      fun _ (k : APIKey) => { k with name := trimSpace name, enabled := enabled, version := k.version + 1, updatedAt := now }))
    fun e => .fail (classifyExternalAPIKeyConstraint e)
  require (n == 1) .apiKeyVersionConflict
  storedKey id .noRows

def updateExternalAPIKey (equalFold : String → String → Bool) (id : String) (expectedVersion : Int) (name : String)
    (enabled : Bool) (now : Int) : Call APIKey :=
  immediate (updateExternalAPIKeyBody equalFold id expectedVersion name enabled now)

/-- `DeleteExternalAPIKey` (external_api_key.go:91): tasks and idempotency records keep a
key alive. -/
def deleteExternalAPIKeyBody (id : String) (expectedVersion : Int) : Prog Unit := do
  let current ← storedKey id .apiKeyNotFound
  require (current.version == expectedVersion) .apiKeyVersionConflict
  let references ← select fun (db : Database) => (db.tasks.filter (·.apiKeyID == id)).length
    + ((db.rows Tbl.idempotencyKeys).filter fun (k : IdempotencyKey) => k.apiKeyID == id).length
  require (references == 0) .apiKeyInUse
  let n ← exec (.delete Tbl.externalAPIKeys fun _ (k : APIKey) => k.id == id && k.version == expectedVersion)
  require (n == 1) .apiKeyVersionConflict

def deleteExternalAPIKey (id : String) (expectedVersion : Int) : Call Unit :=
  immediate (deleteExternalAPIKeyBody id expectedVersion)

/-- `validateLegacyAPIKeys` (external_api_key.go:209), with the names and digests seen so
far. -/
def validateLegacyAPIKeys (equalFold : String → String → Bool) : List APIKeyInput → List String → List String → Except Err Unit
  | [], _, _ => .ok ()
  | input :: rest, names, digests =>
    let name := trimSpace input.name
    if input.id = "" ∨ input.id.length > 128 ∨ name = "" ∨ name.length > 128 then .error (.other "旧 API Key ID 或名称无效")
    else if input.keyPrefix.utf8ByteSize < 4 ∨ input.keyPrefix.utf8ByteSize > 16 ∨ input.keySuffix.utf8ByteSize < 4
        ∨ input.keySuffix.utf8ByteSize > 16 then .error (.other "旧 API Key 掩码无效")
    else if names.any fun existing => equalFold existing name then .error .apiKeyNameConflict
    else if digests.contains input.keyDigest then .error .apiKeyDigestConflict
    else validateLegacyAPIKeys equalFold rest (name :: names) (input.keyDigest :: digests)

/-- `ImportLegacyAPIKeys` (external_api_key.go:170): once, into an empty table. -/
def importLegacyAPIKeysBody (equalFold : String → String → Bool) (inputs : List APIKeyInput) (now : Int) : Prog (Int × Bool) := do
  match ← select fun (db : Database) =>
    (db.rows Tbl.apiKeyConfigBootstrap).find? fun (b : Bootstrap) => b.source == "yaml_api_keys" with
  | some b => pure (b.importedCount, false)
  | none => do
    let existing ← select fun (db : Database) => (apiKeys db).length
    if existing = 0 then
      match validateLegacyAPIKeys equalFold inputs [] [] with
      | .error e => .fail e
      | .ok () => forEach (fun input => do
          let _ ← exec (.insert Tbl.externalAPIKeys fun _ _ => [newAPIKey input now])) (inputs.insertionSort fun a b => a.id ≤ b.id)
    let count : Int := if existing = 0 then inputs.length else 0
    let _ ← exec (.insert Tbl.apiKeyConfigBootstrap fun _ _ =>
      [{ source := "yaml_api_keys", importedCount := count, completedAt := now }])
    pure (count, existing == 0)

def importLegacyAPIKeys (equalFold : String → String → Bool) (inputs : List APIKeyInput) (now : Int) : Call (Int × Bool) :=
  immediate (importLegacyAPIKeysBody equalFold inputs now)

/-! ## Profiles -/

/-- The stored profile. -/
def storedProfile (id : String) (e : Err) : Prog Profile :=
  query fun (db : Database) => ((db.rows Tbl.requestProfiles).find? fun (p : Profile) => p.id == id).elim (.error e) .ok

/-- `CreateProfile` (profile_store.go:19). The id is fresh, so a unique index that refuses
the row is the one on `resolution_key`. -/
def createProfileBody (resolutionKey : String → Except Err String) (input : Profile) (now : Int) : Prog Profile := do
  let key ← (if input.resolutionKey = "" then
      match resolutionKey input.resolution with
      | .error e => .fail e
      | .ok key => pure key
    else pure input.resolutionKey : Prog String)
  orElse (do
    let _ ← exec (.insert Tbl.requestProfiles fun _ _ =>
      [{ id := input.id, resolution := input.resolution, resolutionKey := key, configJSON := input.configJSON
         configHash := input.configHash, createdBy := input.createdBy
         updatedBy := if input.updatedBy = "" then input.createdBy else input.updatedBy, createdAt := now, updatedAt := now }]))
    fun e => .fail (if e = .sqlite .unique then .profileKeyConflict else e)
  storedProfile input.id .noRows

def createProfile (resolutionKey : String → Except Err String) (input : Profile) (now : Int) : Call Profile :=
  immediate (createProfileBody resolutionKey input now)

/-- `UpdateProfile` (profile_store.go:83). -/
def updateProfileBody (id : String) (expectedRowVersion : Int) (configJSON configHash administrator : String) (now : Int) :
    Prog Profile := do
  let current ← storedProfile id .profileNotFound
  require (current.rowVersion == expectedRowVersion) .profileVersionConflict
  orElse (do
    let n ← exec (.update Tbl.requestProfiles (fun _ (p : Profile) => p.id == id && p.rowVersion == expectedRowVersion)
      fun _ (p : Profile) =>
        { p with configJSON := configJSON, configHash := configHash, updatedBy := administrator, updatedAt := now
                 rowVersion := p.rowVersion + 1 })
    oneRow n) fun _ => .fail .profileVersionConflict
  storedProfile id .noRows

def updateProfile (id : String) (expectedRowVersion : Int) (configJSON configHash administrator : String) (now : Int) :
    Call Profile :=
  immediate (updateProfileBody id expectedRowVersion configJSON configHash administrator now)

/-- `DeleteProfile` (profile_store.go:105). -/
def deleteProfileBody (id : String) (expectedRowVersion : Int) : Prog Unit := do
  let current ← storedProfile id .profileNotFound
  require (current.rowVersion == expectedRowVersion) .profileVersionConflict
  orElse (do
    let n ← exec (.delete Tbl.requestProfiles fun _ (p : Profile) => p.id == id && p.rowVersion == expectedRowVersion)
    oneRow n) fun _ => .fail .profileVersionConflict

def deleteProfile (id : String) (expectedRowVersion : Int) : Call Unit := immediate (deleteProfileBody id expectedRowVersion)

end MinimaxProxy.Store
